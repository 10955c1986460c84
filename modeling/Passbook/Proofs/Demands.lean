import Passbook.Http.Service
import Passbook.Proofs.Coherence
import Passbook.Proofs.Outcomes
import Passbook.Proofs.Timestamps

/-! Requests as demands on the ledger: what a request asks for once its path, query and body have been read, within which bounds, and
the one call that it stands for. A response shows what that call has answered. -/
namespace Passbook
open OrderRows Time

namespace Form
variable {ε α β : Type}

theorem fill_eq_ok {build : Except (List ε) (α → β)} {next : Except (List ε) α} {b : β} :
    fill build next = .ok b ↔ ∃ f a, build = .ok f ∧ next = .ok a ∧ f a = b := by
  unfold fill both
  cases build <;> cases next <;> simp [Except.map]

end Form

/-- The status that a refusal is answered with, of those that a demand can meet with. -/
def LedgerError.answeredWith : LedgerError → Option Nat
  | .accountNotFound _ | .orderNotFound _ | .reportNotFound _ | .reportNotAvailable _ _ => some 404
  | .orderExists _ => some 409
  | .insufficientFunds _ _ | .balanceOverflow _ _ | .selfTransfer _ | .invalidListing _ => some 400
  | .storage _ _ => some 500
  | _ => none

namespace Http
open Form

theorem forM_check_eq_ok {bounds : List Bound} {n : Int} :
    bounds.forM (Bound.check n) = .ok () ↔ ∀ bound ∈ bounds, bound.check n = .ok () := by
  induction bounds with
  | nil => exact ⟨fun _ _ never => absurd never List.not_mem_nil, fun _ => rfl⟩
  | cons bound bounds ih =>
    change (bound.check n >>= fun _ => bounds.forM (Bound.check n)) = .ok () ↔ _
    rw [List.forall_mem_cons, ← ih, bind_eq_ok]
    exact ⟨fun ⟨_, first, rest⟩ => ⟨first, rest⟩, fun ⟨first, rest⟩ => ⟨(), first, rest⟩⟩

theorem bodyField_bounds {body : Json} {name : String} {bounds : List Bound} {n : Int} (read : bodyField body name bounds = .ok n) :
    ∀ bound ∈ bounds, bound.check n = .ok () := by
  have told := ok_of_mapError read
  cases found : body.member? name with
  | none =>
    rw [found] at told
    cases told
  | some value =>
    rw [found] at told
    obtain ⟨m, -, checked⟩ := bind_eq_ok.mp told
    obtain ⟨_, tested, same⟩ := bind_eq_ok.mp checked
    cases same
    exact forM_check_eq_ok.mp tested

theorem Bound.check_eq_ok {n : Int} {bound : Bound} : bound.check n = .ok () ↔ match bound with
    | .above m => m < n
    | .atLeast m => m ≤ n
    | .atMost m => n ≤ m := by
  cases bound <;> unfold check <;> split <;> simp_all

theorem amount_of_read {body : Json} {name : String} {n : Int} (read : bodyField body name positiveAmount = .ok n) :
    0 < n ∧ n ≤ maxInteger := by
  have bounds := bodyField_bounds read
  exact ⟨Bound.check_eq_ok.mp (bounds (.above 0) (by simp [positiveAmount])),
    Bound.check_eq_ok.mp (bounds (.atMost maxInteger) (by simp [positiveAmount]))⟩

theorem fromBody_eq_ok {α : Type} {body : Option String} {read : Json → Except (List Complaint) α} {a : α}
    (told : fromBody body read = .ok a) : ∃ value, read value = .ok a := by
  obtain ⟨value, -, given⟩ := bind_eq_ok.mp told
  exact ⟨value, ok_of_mapError given⟩

inductive Demand where
  | balance (account : Int)
  | credit (form : CreditForm)
  | transfer (form : TransferForm)
  | transactions (form : ListingForm)
  | createOrder (form : OrderForm)
  | payOrder (form : OrderForm)
  | cancelOrder (form : OrderForm)
  | order (id : Int)
  | reportLink (form : MonthForm)
  | report (key : String)

inductive Demand.Read (r : Request) (fields : Fields) : Endpoint → Demand → Prop
  | balance {account : Int} (read : fields.integer "account_id" = .ok account) : Read r fields .balance (.balance account)
  | credit {form : CreditForm} (read : fromBody r.body CreditForm.read = .ok form) : Read r fields .credit (.credit form)
  | transfer {form : TransferForm} (read : fromBody r.body TransferForm.read = .ok form) : Read r fields .transfer (.transfer form)
  | transactions {form : ListingForm} (read : ListingForm.read fields = .ok form) : Read r fields .transactions (.transactions form)
  | createOrder {form : OrderForm} (read : fromBody r.body OrderForm.read = .ok form) : Read r fields .createOrder (.createOrder form)
  | payOrder {form : OrderForm} (read : fromBody r.body OrderForm.read = .ok form) : Read r fields .payOrder (.payOrder form)
  | cancelOrder {form : OrderForm} (read : fromBody r.body OrderForm.read = .ok form) : Read r fields .cancelOrder (.cancelOrder form)
  | order {id : Int} (read : fields.integer "order_id" = .ok id) : Read r fields .order (.order id)
  | reportLink {form : MonthForm} (read : fromBody r.body MonthForm.read = .ok form) : Read r fields .reportLink (.reportLink form)
  | report {key : String} (read : fields.text "key" = .ok key) : Read r fields .report (.report key)

/-- A request that is routed to one of the ledger's endpoints and passes validation there. -/
structure Request.Asks (settings : Settings) (r : Request) (demand : Demand) : Prop where
  encodable : r.body.bind (Text.unencodable? .utf8) = none
  read : ∃ sites endpoint fields, sitesOf settings = .ok sites ∧ r.route sites = .ok (.found endpoint fields) ∧
    demand.Read r fields endpoint

def Demand.Bounded : Demand → Prop
  | .credit form => 0 ≤ form.amount ∧ form.amount ≤ maxInteger
  | .transfer form => 0 < form.amount ∧ form.amount ≤ maxInteger
  | .createOrder form | .payOrder form | .cancelOrder form => 0 < form.amount ∧ form.amount ≤ maxInteger
  | .reportLink form => isMonth form.month = true ∧ 2022 ≤ form.year
  | _ => True

theorem Demand.Read.bounded {r : Request} {fields : Fields} {endpoint : Endpoint} {demand : Demand}
    (read : demand.Read r fields endpoint) : demand.Bounded := by
  have ordered {form : OrderForm} (read : fromBody r.body OrderForm.read = .ok form) : 0 < form.amount ∧ form.amount ≤ maxInteger := by
    obtain ⟨value, told⟩ := fromBody_eq_ok read
    obtain ⟨_, _, three, given, rfl⟩ := fill_eq_ok.mp told
    obtain ⟨_, _, two, -, rfl⟩ := fill_eq_ok.mp three
    obtain ⟨_, _, one, -, rfl⟩ := fill_eq_ok.mp two
    obtain ⟨_, _, built, -, rfl⟩ := fill_eq_ok.mp one
    cases built
    exact amount_of_read given
  cases read with
  | credit read =>
    obtain ⟨value, told⟩ := fromBody_eq_ok read
    obtain ⟨_, _, one, given, rfl⟩ := fill_eq_ok.mp told
    obtain ⟨_, _, built, -, rfl⟩ := fill_eq_ok.mp one
    cases built
    have bounds := bodyField_bounds given
    exact ⟨Bound.check_eq_ok.mp (bounds (.atLeast 0) (by simp)), Bound.check_eq_ok.mp (bounds (.atMost maxInteger) (by simp))⟩
  | transfer read =>
    obtain ⟨value, told⟩ := fromBody_eq_ok read
    obtain ⟨_, _, two, given, rfl⟩ := fill_eq_ok.mp told
    obtain ⟨_, _, one, -, rfl⟩ := fill_eq_ok.mp two
    obtain ⟨_, _, built, -, rfl⟩ := fill_eq_ok.mp one
    cases built
    exact amount_of_read given
  | createOrder read => exact ordered read
  | payOrder read => exact ordered read
  | cancelOrder read => exact ordered read
  | reportLink read =>
    obtain ⟨value, told⟩ := fromBody_eq_ok read
    obtain ⟨_, _, one, year, rfl⟩ := fill_eq_ok.mp told
    obtain ⟨_, _, built, month, rfl⟩ := fill_eq_ok.mp one
    cases built
    have late := Bound.check_eq_ok.mp (bodyField_bounds year (.atLeast 2022) (by simp))
    have first := Bound.check_eq_ok.mp (bodyField_bounds month (.atLeast 1) (by simp))
    have last := Bound.check_eq_ok.mp (bodyField_bounds month (.atMost 12) (by simp))
    exact ⟨by simp [isMonth, first, last], late⟩
  | _ => trivial

inductive Value where
  | balance (amount : Int)
  | balances (sender receiver : Int)
  | page (listing : History.Listing) (entries : List (Entry Instant)) (total : Nat)
  | created (order : OrderRow) (balance : Int)
  | paid (order : OrderRow)
  | order (order : OrderRow)
  | link (link : String)
  | report (key : String) (content : Bytes)

/-- The one call that a demand stands for. -/
def Demand.call {τ : Type} [Add τ] [Sub τ] [LT τ] [DecidableLT τ] [Reach τ] : Demand → SystemAct τ Value
  | .balance account => .balance <$> System.work (Accounts.balance account).alone
  | .credit form => .balance <$> System.work (Accounts.credit form.account form.amount).alone
  | .transfer form =>
    (fun balances => .balances balances.1 balances.2) <$> System.work (Accounts.transfer form.sender form.receiver form.amount).alone
  | .transactions form => do
    let listing ← Act.ofExcept ((History.Listing.ofRequest form.sort form.direction form.limit form.offset).mapError .ledger)
    (fun page => .page listing page.1 page.2) <$> System.work (History.list form.account listing).alone
  | .createOrder form =>
    (fun answer => .created answer.1 answer.2) <$>
      System.work (Orders.create form.order form.account form.service form.amount).alone
  | .payOrder form => .paid <$> System.work (Orders.pay form.order form.account form.service form.amount).alone
  | .cancelOrder form => .balance <$> System.work (Orders.cancel form.order form.account form.service form.amount).alone
  | .order id => .order <$> System.work (Orders.lookup id).alone
  | .reportLink form => .link <$> System.ownReportLink form.year form.month
  | .report key => .report key <$> System.reportContent key

namespace Value

def sent (members : List (String × Json)) : Response where
  status := 200
  contentType := some "application/json"
  body := .json (.object members)
  disposition := none
  location := none
  allow := none

/-- A time is shown with the letter of universal time, in a text that is read as the time again. -/
structure TimeShown (time : Instant) (text : String) : Prop where
  lettered : text = time.zuluText
  read : Reading.ofText text = .ok (.universal time)

theorem TimeShown.zuluText (time : Instant) : TimeShown time time.zuluText := ⟨rfl, time.ofText_zuluText⟩

/-- An order of which every cell holds what the ledger writes there is shown with what they hold. -/
inductive OrderShown : OrderRow → List (String × Json) → Prop
  | mk {id account service amount : Int} {paid cancelled : Bool} {createdAt updatedAt : Instant} {created updated : String}
      (isCreated : TimeShown createdAt created) (isUpdated : TimeShown updatedAt updated) :
    OrderShown ⟨id, .int account, .int service, .int amount, .ofBool paid, .ofBool cancelled, createdAt, updatedAt⟩ [
      ("order_id", .int id), ("account_id", .int account), ("service_id", .int service), ("amount", .int amount),
      ("is_paid", .bool paid), ("is_cancelled", .bool cancelled), ("created_at", .string created), ("updated_at", .string updated)]

def kindShown : EntryKind → String × Int
  | .enrollment => ("enrollment", 1)
  | .transfer => ("transfer", -1)
  | .reservation => ("reservation", -1)
  | .cancelReservation => ("cancel_reservation", 1)

inductive EntryShown : Entry Instant → Json → Prop
  | mk {id sender receiver amount : Int} {kind : EntryKind} {description : String} {createdAt : Instant} {created : String}
      (isCreated : TimeShown createdAt created) :
    EntryShown ⟨id, kind, sender, receiver, .int amount, description, createdAt⟩ (.object [
      ("id", .int id), ("type", .string (kindShown kind).1), ("sender_id", .int sender), ("receiver_id", .int receiver),
      ("amount", .int amount), ("signed_amount", .int ((kindShown kind).2 * amount)), ("description", .string description),
      ("created_at", .string created)])

/-- How a response carries a value. That an order is paid is told in fixed words, and a report is sent as a file. -/
inductive Shown : Value → Response → Prop
  | balance (amount : Int) : Shown (.balance amount) (sent [("balance", .int amount)])
  | balances (sender receiver : Int) :
    Shown (.balances sender receiver) (sent [("sender_balance", .int sender), ("receiver_balance", .int receiver)])
  | page {listing : History.Listing} {entries : List (Entry Instant)} {limit offset : Int} {shown : List Json} (total : Nat)
      (limited : listing.limit = some limit) (placed : listing.offset = some offset) (each : List.Forall₂ EntryShown entries shown) :
    Shown (.page listing entries total) (sent [("transactions", .array shown),
      ("range", .object [("limit", .int limit), ("offset", .int offset), ("count", .int total)])])
  | created {order : OrderRow} {members : List (String × Json)} (balance : Int) (shown : OrderShown order members) :
    Shown (.created order balance) (sent [("order", .object members), ("balance", .int balance)])
  | paid (order : OrderRow) : Shown (.paid order) (sent [("message", .string "Order paid")])
  | order {order : OrderRow} {members : List (String × Json)} (shown : OrderShown order members) : Shown (.order order) (sent members)
  | link (link : String) : Shown (.link link) (sent [("link", .string link)])
  | report (key text : String) : Shown (.report key ((Text.utf8Bytes text).map Nat.toUInt8)) {
      status := 200
      contentType := some "text/csv; charset=utf-8"
      disposition := some ("attachment; filename=\"report-" ++ key ++ ".csv\"")
      body := .text text
      location := none
      allow := none }

theorem Shown.status {value : Value} {response : Response} (shown : value.Shown response) : response.status = 200 := by
  cases shown <;> rfl

end Value

theorem errorResponse_status {e : LedgerError} {status : Nat} (told : e.answeredWith = some status) :
    (errorResponse e).status = status := by
  cases e <;> cases told <;> rfl

section
variable {τ α : Type} {s t : System τ} (action : String) {render : α → Except Failure Response}

/-- What is answered tells what comes of a call. It carries the value, and then the state is that of the call; or the call is refused,
the content stays what it was, and the status is that of the refusal. -/
def Tells (answer : SystemAct τ Response) (call : SystemAct τ Value) (s : System τ) : Prop :=
  match call s with
  | (.ok value, t) => ∃ response, answer s = (.ok response, t) ∧ response.status = 200 ∧ value.Shown response
  | (.error failure, t) => ∃ e response journal, failure = .ledger e ∧ e.answeredWith = some response.status ∧
    answer s = (.ok response, { t with store := { t.store with journal } }) ∧ t.store.content = s.store.content

theorem Tells.of_eq {answer answer' : SystemAct τ Response} {call call' : SystemAct τ Value} (tells : Tells answer' call' s)
    (answers : answer s = answer' s) (calls : call s = call' s) : Tells answer call s := by
  unfold Tells at tells ⊢
  rwa [answers, calls]

theorem noteError_eq (e : LedgerError) (store : Store Database) :
    ∃ journal, (noteError action e : LedgerWork Unit) store = (.ok (), { store with journal }) := by
  unfold noteError noteNotice
  rcases e.notice.kind.status? with _ | status <;> exact ⟨_, rfl⟩

theorem respond_of_ok {call : SystemAct τ α} {a : α} {response : Response} (called : call s = (.ok a, t))
    (rendered : render a = .ok response) :
    respond action call render s = (.ok response, t) := by
  have known : call.outcome s = (.ok (.ok a), t) := by
    unfold Act.outcome
    rw [called]
  refine (Act.bind_of_ok known).trans ?_
  change (render a, t) = _
  rw [rendered]

theorem respond_of_refused (render : α → Except Failure Response) {call : SystemAct τ α} {e : LedgerError}
    (called : call s = (.error (.ledger e), t)) :
    ∃ journal, respond action call render s = (.ok (errorResponse e), { t with store := { t.store with journal } }) := by
  have known : call.outcome s = (.ok (.error (.ledger e)), t) := by
    unfold Act.outcome
    rw [called]
  obtain ⟨journal, noted⟩ := noteError_eq action e t.store
  refine ⟨journal, ?_⟩
  unfold respond
  rw [Act.bind_of_ok known]
  exact Act.bind_of_ok (System.work_of noted)

theorem respond_tells {call : SystemAct τ α} {outcome : Except LedgerError α} (value : α → Value)
    (called : call s = (outcome.mapError .ledger, t))
    (shows : ∀ a, outcome = .ok a → ∃ response, render a = .ok response ∧ (value a).Shown response)
    (kept : ∀ e, outcome = .error e → (∃ status, e.answeredWith = some status) ∧ t.store.content = s.store.content) :
    Tells (respond action call render) (value <$> call) s := by
  unfold Tells
  cases outcome with
  | ok a =>
    obtain ⟨response, rendered, shown⟩ := shows a rfl
    have mapped : (value <$> call : SystemAct τ Value) s = (.ok (value a), t) := Act.bind_of_ok called
    rw [mapped]
    exact ⟨response, respond_of_ok action called rendered, shown.status, shown⟩
  | error e =>
    obtain ⟨⟨status, told⟩, same⟩ := kept e rfl
    obtain ⟨journal, answered⟩ := respond_of_refused action render called
    have mapped : (value <$> call : SystemAct τ Value) s = (.error (.ledger e), t) := Act.bind_of_error called
    rw [mapped]
    exact ⟨e, errorResponse e, journal, rfl, by rw [errorResponse_status told, told], answered, same⟩

end

end Http
end Passbook
