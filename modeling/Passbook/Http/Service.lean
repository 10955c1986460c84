import Passbook.Http.Intake
import Passbook.System
/-! The service: each endpoint runs one call of the payment system and answers with its value, or with the status of its
error. -/
namespace Passbook

namespace Http
open Form Journal Time

def noteNotice {δ : Type} (action : Json) (n : Notice) : Work δ Unit :=
  match n.kind.status? with
  | some status => Work.record Level.warning "payment_ledger.api" n.message.plain
      { Details.none with
        action := if action.isFilled then some action else none
        extra := some (.object [("code", .string n.kind.code), ("status", .int status)]) }
  | none => Work.record Level.error "payment_ledger.api" (action.plain ++ " failed: " ++ n.message.plain)

private def phrase : Nat → String
  | 400 => "Bad Request"
  | 404 => "Not Found"
  | 409 => "Conflict"
  | _ => "Internal Server Error"

/-- The status and the text that an error is answered with; the status stands for a message that is missing. -/
def answerOf (n : Notice) : Nat × Json :=
  match n.kind.status? with
  | some status => (status, match n.message with
    | .null => .string (phrase status)
    | message => message)
  | none => (500, .string "Internal server error")

def noteError {δ : Type} (action : String) (e : LedgerError) : Work δ Unit := noteNotice (.string action) e.notice

def errorResponse (e : LedgerError) : Response :=
  let (status, detail) := answerOf e.notice
  .json status (.object [("detail", detail)])

variable {τ : Type}

/-- Runs a call and answers with its value or its error; what is no error of the ledger goes on to the caller. -/
def respond {α : Type} (action : String) (call : SystemAct τ α) (render : α → Except Failure Response) :
    SystemAct τ Response := do
  match ← call.outcome with
  | .ok a => Act.ofExcept (render a)
  | .error (.ledger e) =>
    System.work (noteError action e)
    return errorResponse e
  | .error e => throw e

/-- What is sent holds finite numbers only and has to be encodable. -/
def checkSent (value : Json) : Except Failure Unit :=
  if value.isUnbounded then .error .notFinite
  else match Text.unencodable? .utf8 value.compactText with
    | some fault => .error (.unencodable fault)
    | none => .ok ()

def withForm {α : Type} (form : Except Rejection α) (next : α → SystemAct τ Response) : SystemAct τ Response :=
  match form with
  | .ok a => next a
  | .error (.complaints list) => do
    Act.ofExcept (checkSent (.object [("detail", .ofList Complaint.sent list)]))
    return .complaints list
  | .error .unreadableBody => return .detail 400 "There was an error parsing the body"

private def integers (cells : List (String × Cell)) : Except Failure (List (String × Json)) :=
  (cells.foldr (fun (name, cell) (rest : Except (List Flaw) (List (String × Json))) =>
    (both ((integer cell.json).mapError fun problem => [.ofValue name cell.json problem]) rest).map fun (n, members) =>
      (name, .int n) :: members) (.ok [])).mapError .fields

def orderMembers (o : Order Instant) : Except Failure (List (String × Json)) := do
  return ("order_id", .int o.id)
    :: (← integers [("account_id", o.account), ("service_id", o.service), ("amount", o.amount)])
    ++ [("is_paid", .bool o.isPaid), ("is_cancelled", .bool o.isCancelled),
      ("created_at", .string o.createdAt.zuluText), ("updated_at", .string o.updatedAt.zuluText)]

def entryJson (e : Entry Instant) : Except Failure Json := do
  let signed ← History.signedAmount e
  let amounts ← integers [("amount", e.amount), ("signed_amount", signed)]
  return .object ([("id", .int e.id), ("type", .string e.kind.name), ("sender_id", .int e.sender),
    ("receiver_id", .int e.receiver)] ++ amounts
    ++ [("description", .string e.description), ("created_at", .string e.createdAt.zuluText)])

def balanceResponse (balance : Int) : Except Failure Response := .ok (.ok [("balance", .int balance)])

def listingResponse (listing : History.Listing) (page : List (Entry Instant) × Nat) : Except Failure Response := do
  let entries ← page.1.mapM entryJson
  return .ok [("transactions", .array entries),
    ("range", .object [("limit", .ofOption .int listing.limit), ("offset", .ofOption .int listing.offset),
      ("count", .int page.2)])]

/-- A report as a file; its name has to be encodable as a header is. -/
def download (key : String) (content : Bytes) : Except Failure Response :=
  let disposition := "attachment; filename=\"report-" ++ key ++ ".csv\""
  match Text.unencodable? .latin1 disposition with
  | some fault => .error (.unencodable fault)
  | none => do return {
      status := 200, contentType := some "text/csv; charset=utf-8", disposition := some disposition,
      body := .text (← Failure.textOf content) }

def serviceVersion : String := "1.0.0"

variable [Add τ] [Sub τ] [LT τ] [DecidableLT τ] [Reach τ]

def listTransactions (form : ListingForm) : SystemAct τ Response := do
  let request := History.Listing.ofRequest form.sort form.direction form.limit form.offset
  match request with
  | .error e => respond "list_transactions" (throw (.ledger e)) balanceResponse
  | .ok listing =>
    respond "list_transactions" (System.work (History.list form.account listing).alone) (listingResponse listing)

def health : SystemAct τ Response := do
  let version ← System.work Migrator.version
  return .ok [("status", .string "healthy"), ("service", .string "payment_ledger_api"),
    ("version", .string serviceVersion), ("database", .string System.dialect), ("schema_version", .int version)]

def serve (r : Request) (endpoint : Endpoint) (fields : Fields) : SystemAct τ Response :=
  match endpoint with
  | .balance => withForm ((fields.integer "account_id").mapError .complaints) fun account =>
    respond "get_balance" (System.work (Accounts.balance account).alone) balanceResponse
  | .credit => withForm (fromBody r.body CreditForm.read) fun form =>
    respond "add_balance" (System.work (Accounts.credit form.account form.amount).alone) balanceResponse
  | .transfer => withForm (fromBody r.body TransferForm.read) fun form =>
    respond "transfer_balance" (System.work (Accounts.transfer form.sender form.receiver form.amount).alone)
      fun balances => .ok (.ok [("sender_balance", .int balances.1), ("receiver_balance", .int balances.2)])
  | .transactions => withForm ((ListingForm.read fields).mapError .complaints) listTransactions
  | .createOrder => withForm (fromBody r.body OrderForm.read) fun form =>
    respond "create_order" (System.work (Orders.create form.order form.account form.service form.amount).alone)
      fun answer => do return .ok [("order", .object (← orderMembers answer.1)), ("balance", .int answer.2)]
  | .payOrder => withForm (fromBody r.body OrderForm.read) fun form =>
    respond "pay_for_order" (System.work (Orders.pay form.order form.account form.service form.amount).alone)
      fun _ => .ok (.ok [("message", .string "Order paid")])
  | .cancelOrder => withForm (fromBody r.body OrderForm.read) fun form =>
    respond "cancel_order" (System.work (Orders.cancel form.order form.account form.service form.amount).alone)
      balanceResponse
  | .order => withForm ((fields.integer "order_id").mapError .complaints) fun id =>
    respond "get_order" (System.work (Orders.lookup id).alone) fun o => return .ok (← orderMembers o)
  | .reportLink => withForm (fromBody r.body MonthForm.read) fun form =>
    respond "get_report_link" (System.ownReportLink form.year form.month) fun link => .ok (.ok [("link", .string link)])
  | .report => withForm ((fields.text "key").mapError .complaints) fun key =>
    respond "download_report" (System.reportContent key) (download key)
  | .health => health

def sitesOf (settings : Settings) : Except Failure (List Site) := (sitesUnder settings.mountPath).mapError .mount

def handle (r : Request) : SystemAct τ Response := do
  let sites ← Act.ofExcept (sitesOf (← get).settings)
  if let some fault := r.body.bind (Text.unencodable? .utf8) then throw (.unencodable fault)
  match ← Act.ofExcept ((r.route sites).mapError .endlessNumeral) with
  | .found endpoint fields => serve r endpoint fields
  | .otherMethod allowed => return { Response.detail 405 "Method Not Allowed" with allow := some allowed }
  | .redirected location => return { status := 307, contentType := none, body := .text "", location := some location }
  | .unknown => return .detail 404 "Not Found"

end Http
end Passbook
