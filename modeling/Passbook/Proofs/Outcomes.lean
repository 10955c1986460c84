import Passbook.Proofs.Operations

/-! Outcomes: what an operation answers, or which error of the ledger it fails with, as a function of the books alone. Where an
operation takes several steps, its outcome is the first error among theirs. -/
namespace Passbook
open Books OrderRows Time

def LedgerError.oversized (operation : String) : LedgerError := .storage operation Refusal.oversizedInteger.message

namespace Act
variable {α β : Type} {time : Instant} {b b₁ b₂ : Books} {outcome : Except LedgerError α}

/-- From the books `b` the work ends with an outcome, and it leaves the books `b₁` if it answers. -/
def Ends (work : LedgerWork α) (time : Instant) (b : Books) (outcome : Except LedgerError α) (b₁ : Books) : Prop :=
  ∀ saved s, Store.InUse saved time s → s.content.schema = b.tables →
    ∃ t, work s = (outcome.mapError .ledger, t) ∧ Store.InUse saved time t ∧
      (∀ a, outcome = .ok a → t.content.schema = b₁.tables)

theorem Ends.restated {work : LedgerWork α} {outcome' : Except LedgerError α} (ends : work.Ends time b outcome b₁)
    (same : outcome = outcome') : work.Ends time b outcome' b₁ :=
  same ▸ ends

theorem Ends.pure (a : α) : (Pure.pure a : LedgerWork α).Ends time b (.ok a) b :=
  fun _ s here books => ⟨s, rfl, here, fun _ _ => books⟩

theorem Ends.fail (error : LedgerError) : (LedgerWork.fail error : LedgerWork α).Ends time b (.error error) b₁ :=
  fun _ s here _ => ⟨s, rfl, here, fun _ never => nomatch never⟩

theorem Ends.check (outcome : Except LedgerError Unit) : (LedgerWork.check outcome).Ends time b outcome b :=
  fun _ s here books => ⟨s, rfl, here, fun _ _ => books⟩

theorem Ends.record (level : Journal.Level) (source message : String) (details : Journal.Details) :
    (Work.record level source message details : LedgerWork Unit).Ends time b (.ok ()) b :=
  fun _ _ here books => ⟨_, rfl, ⟨here.busy, here.now⟩, fun _ _ => books⟩

theorem Ends.bind {first : LedgerWork α} {next : α → LedgerWork β} (outcome' : α → Except LedgerError β)
    (begins : first.Ends time b outcome b₁) (goesOn : ∀ a, outcome = .ok a → (next a).Ends time b₁ (outcome' a) b₂) :
    (first >>= next).Ends time b (outcome >>= outcome') b₂ := by
  intro saved s here books
  obtain ⟨t, ran, still, turned⟩ := begins saved s here books
  cases outcome with
  | error e => exact ⟨t, Act.bind_of_error ran, still, fun _ never => nomatch never⟩
  | ok a =>
    obtain ⟨u, went, last, left⟩ := goesOn a rfl saved t still (turned a rfl)
    exact ⟨u, (Act.bind_of_ok ran).trans went, last, left⟩

theorem Ends.failed {work : LedgerWork α} {e : LedgerError} (ends : work.Ends time b (.error e) b₁) :
    work.Ends time b (.error e) b₂ := by
  intro saved s here books
  obtain ⟨t, ran, still, -⟩ := ends saved s here books
  exact ⟨t, ran, still, fun _ never => nomatch never⟩

theorem Ends.stop {first : LedgerWork α} {next : α → LedgerWork β} {e : LedgerError} (begins : first.Ends time b (.error e) b) :
    (first >>= next).Ends time b (.error e) b₁ := by
  intro saved s here books
  obtain ⟨t, ran, still, -⟩ := begins saved s here books
  exact ⟨t, Act.bind_of_error ran, still, fun _ never => nomatch never⟩

theorem Ends.instant {next : Instant → LedgerWork β} {outcome : Except LedgerError β} (goesOn : (next time).Ends time b outcome b₁) :
    (Work.instant >>= next : LedgerWork β).Ends time b outcome b₁ := by
  intro saved s here books
  rw [Act.bind_of_ok (Work.instant_of_universal here.now)]
  exact goesOn saved s here books

theorem Ends.recast {work : LedgerWork α} {a : α} (change : Failure → Failure) (ends : work.Ends time b (.ok a) b₁) :
    (Act.recast change work).Ends time b (.ok a) b₁ := by
  intro saved s here books
  obtain ⟨t, ran, rest⟩ := ends saved s here books
  refine ⟨t, ?_, rest⟩
  unfold Act.recast
  rw [ran]
  rfl

theorem Ends.ask {a : α} (operation : String) {query : AccountRows.Query α} (answers : query false b.tables = .ok (a, b₁.tables)) :
    (LedgerWork.ask operation query).Ends time b (.ok a) b₁ := by
  intro saved s here books
  rw [LedgerWork.ask_eq operation query here.busy books, answers]
  exact ⟨_, rfl, ⟨here.busy, here.now⟩, fun _ _ => rfl⟩

theorem Ends.refused {operation : String} {query : AccountRows.Query α} {r : Refusal} {e : LedgerError}
    (refuses : query false b.tables = .error r) (told : Failure.ofStore (r.raise operation) = .ledger e) :
    (LedgerWork.ask operation query).Ends time b (.error e) b₁ := by
  intro saved s here books
  rw [LedgerWork.ask_eq operation query here.busy books, refuses]
  exact ⟨s, congrArg (fun e => (Except.error e, s)) told, here, fun _ never => nomatch never⟩

theorem Ends.recast_refused {operation : String} {query : AccountRows.Query α} {r : Refusal} {e : LedgerError}
    {change : Failure → Failure} (refuses : query false b.tables = .error r) (told : change (.ofStore (r.raise operation)) = .ledger e) :
    (Act.recast change (LedgerWork.ask operation query)).Ends time b (.error e) b₁ := by
  intro saved s here books
  unfold Act.recast
  rw [LedgerWork.ask_eq operation query here.busy books, refuses]
  exact ⟨s, congrArg (fun e => (Except.error e, s)) told, here, fun _ never => nomatch never⟩

end Act

namespace Operation
variable {α : Type} {op : Operation α} {time : Instant} {b b₁ : Books} {outcome : Except LedgerError α}

/-- What comes of an operation in a session of its own: a failure leaves the content as it was. -/
def EndsAlone (op : Operation α) (time : Instant) (b : Books) (outcome : Except LedgerError α) (b₁ : Books) : Prop :=
  ∀ s, Store.Rests time s → s.content.schema = b.tables →
    ∃ t, op.alone s = (outcome.mapError .ledger, t) ∧ t.Rests time ∧ (∀ a, outcome = .ok a → t.content.schema = b₁.tables) ∧
      (∀ e, outcome = .error e → t.content = s.content)

theorem endsAlone (tells : op.OnlyTells) (body : op.check = .ok () → op.body.Ends time b outcome b₁) :
    op.EndsAlone time b (op.check >>= fun _ => outcome) b₁ := by
  intro s rests books
  cases checked : op.check with
  | error e => exact ⟨s, within_of_refused checked _ s, rests, (fun _ never => by cases never), fun _ _ => rfl⟩
  | ok u =>
    have busy : ({ s with status := .busy s.content false } : Store Database).InUse s.content time := ⟨rfl, rests.now⟩
    obtain ⟨t, ran, still, turned⟩ := body checked s.content _ busy books
    cases outcome with
    | error e =>
      have undone := Work.inUnit_of_failed rests.idle ran still
      exact ⟨_, within_of_failed checked undone, ⟨rfl, still.now⟩, (fun _ never => by cases never), fun _ _ => rfl⟩
    | ok a =>
      obtain ⟨journal, told⟩ := within_of_answered tells checked (Work.inUnit_of_answered rests.idle ran still)
      exact ⟨_, told, ⟨rfl, still.now⟩, fun _ _ => turned a rfl, fun _ never => by cases never⟩

end Operation

namespace Books
variable {b : Books} {id account service amount : Int}

def pending? (b : Books) (id account service amount : Int) : Option OrderRow := b.orders.find? fun order =>
  decide (order.id = id ∧ order.account = .int account ∧ order.service = .int service ∧ order.amount = .int amount ∧
    order.isPending = true)

def order? (b : Books) (id : Int) : Option OrderRow := Rows.find? Order.id id b.orders

theorem new_iff : (∀ order ∈ b.orders, order.id ≠ id) ↔ ¬ (b.order? id).isSome = true := by
  rw [order?, ← Rows.contains_eq_isSome, Rows.contains_iff]
  simp

end Books

namespace Outcome
variable (b : Books) (time : Instant)

def get (id : Int) : Except LedgerError Account :=
  if fitsInteger id then
    match b.account? id with
    | some account => .ok account
    | none => .error (.accountNotFound id)
  else .error (.oversized "get account by id")

def balance (id : Int) : Except LedgerError Int := do return (← get b id).balance

def adjust (operation : String) (id amount delta : Int) : Except LedgerError Int :=
  if fitsInteger amount ∧ fitsInteger id then
    if b.Has id then
      if b.balanceOf id + delta < 0 then .error (.insufficientFunds id amount)
      else if maxInteger < b.balanceOf id + delta then .error (.balanceOverflow id amount)
      else .ok (b.balanceOf id + delta)
    else .error (.accountNotFound id)
  else .error (.oversized operation)

def credit (id amount : Int) : Except LedgerError Int := do
  Accounts.checkCredit amount
  if fitsInteger id then
    if maxInteger < b.balanceOf id + amount then .error (.balanceOverflow id amount)
    else .ok (b.balanceOf id + amount)
  else .error (.oversized "get account by id")

/-- Both legs are told by the balances before the transfer; the one with the smaller id comes first. -/
def transfer (sender receiver amount : Int) : Except LedgerError (Int × Int) := do
  Accounts.checkTransfer sender receiver amount
  if sender < receiver then
    let sent ← adjust b "subtract balance" sender amount (-amount)
    let received ← adjust b "add balance" receiver amount amount
    return (sent, received)
  else
    let received ← adjust b "add balance" receiver amount amount
    let sent ← adjust b "subtract balance" sender amount (-amount)
    return (sent, received)

def insertOrder (id account service amount : Int) : Except LedgerError OrderRow :=
  if fitsInteger id ∧ fitsInteger service then
    if (b.order? id).isSome then .error (.orderExists id) else .ok (.opened id account service amount time)
  else .error (.oversized "insert order")

def create (id account service amount : Int) : Except LedgerError (OrderRow × Int) := do
  checkPositive "Order amount" amount
  let balance ← adjust b "subtract balance" account amount (-amount)
  let order ← insertOrder b time id account service amount
  return (order, balance)

def finish (ending : Ending) (id account service amount : Int) : Except LedgerError OrderRow :=
  if ∀ n ∈ [id, account, service, amount], fitsInteger n = true then
    match b.pending? id account service amount with
    | some order => .ok (finished ending time order)
    | none => .error (.orderNotFound id)
  else .error (.oversized (Orders.endingName ending))

def cancel (id account service amount : Int) : Except LedgerError Int := do
  let _ ← finish b time .cancelled id account service amount
  if maxInteger < b.balanceOf account + amount then .error (.balanceOverflow account amount)
  else .ok (b.balanceOf account + amount)

def lookup (id : Int) : Except LedgerError OrderRow :=
  if fitsInteger id then
    match b.order? id with
    | some order => .ok order
    | none => .error (.orderNotFound id)
  else .error (.oversized "get order by id")

def list (account : Int) (listing : History.Listing) (limit offset : Int) : Except LedgerError (List (Entry Instant) × Nat) :=
  if fitsInteger account ∧ fitsInteger limit ∧ fitsInteger offset then
    .ok (LogRows.stretch limit offset
        (LogRows.sorted listing.sort listing.direction (b.entries.filter (LogRows.involves account))),
      (b.entries.filter (LogRows.involves account)).length)
  else .error (.oversized "list transactions")

end Outcome

section
variable {b : Books} {time : Instant} {id amount delta account service sender receiver : Int}

theorem Accounts.get_ends : (Accounts.get id).Ends time b (Outcome.get b id) b := by
  unfold Outcome.get
  have asked := AccountRows.find_tables (b := b) id false
  by_cases fits : fitsInteger id = true
  · rw [if_pos fits] at asked ⊢
    refine (Act.Ends.ask _ asked).bind (fun
      | some account => .ok account
      | none => .error (.accountNotFound id)) fun found _ => ?_
    cases found with
    | some account => exact .pure account
    | none => exact .fail _
  · rw [if_neg fits] at asked ⊢
    exact .stop (.refused asked rfl)

theorem Accounts.adjust_ends (operation : String) (ascending : Rows.Ascending Account.id b.accounts) :
    (Accounts.adjust operation id amount delta).Ends time b (Outcome.adjust b operation id amount delta) (b.shifted id delta) := by
  have goesOn {outcome : Except LedgerError (Option Int)} {b₁ : Books}
      (ends : (Act.recast (Accounts.recastBalance id amount) (LedgerWork.ask operation (AccountRows.adjust amount delta id))).Ends time b
        outcome b₁) :
      (Accounts.adjust operation id amount delta).Ends time b
        (outcome >>= fun found => found.elim (.error (.accountNotFound id)) .ok) b₁ := by
    refine ends.bind _ fun balance _ => ?_
    cases balance with
    | some balance => exact .pure balance
    | none => exact .fail _
  have asked : AccountRows.adjust amount delta id false b.tables = _ := AccountRows.adjust_tables ascending false
  unfold Outcome.adjust
  by_cases fits : fitsInteger amount = true ∧ fitsInteger id = true
  · rw [if_pos fits] at asked ⊢
    by_cases there : b.Has id
    · rw [if_pos there] at asked ⊢
      by_cases low : b.balanceOf id + delta < 0
      · rw [if_pos low] at asked ⊢
        exact goesOn (Act.Ends.recast_refused asked rfl)
      · rw [if_neg low] at asked ⊢
        by_cases high : maxInteger < b.balanceOf id + delta
        · rw [if_pos high] at asked ⊢
          exact goesOn (Act.Ends.recast_refused asked rfl)
        · rw [if_neg high] at asked ⊢
          exact goesOn (.recast _ (Act.Ends.ask _ asked))
    · rw [if_neg there] at asked ⊢
      exact .failed (goesOn (.recast _ (Act.Ends.ask _ asked)))
  · rw [if_neg fits] at asked ⊢
    exact goesOn (Act.Ends.recast_refused asked rfl)

theorem Accounts.open_ends : (Accounts.open? id).Ends time b
    (if fitsInteger id = true then .ok () else .error (.oversized "get account by id")) (b.opened id) := by
  intro saved s here books
  rcases Accounts.open_cases here.busy books with ⟨oversized, ran⟩ | ⟨fits, there, ran⟩ | ⟨fits, absent, ran⟩
  · rw [if_neg oversized]
    exact ⟨s, ran, here, fun _ never => nomatch never⟩
  · rw [if_pos fits, ran, Books.opened_of_has there]
    exact ⟨s, rfl, here, fun _ _ => books⟩
  · have inserts := (AccountRows.insert_tables absent false).trans (if_pos fits)
    have created : (Accounts.create id).Ends time b (.ok ⟨id, 0⟩) (b.opened id) := .recast _ (.ask _ inserts)
    rw [if_pos fits, ran]
    exact (created.bind (fun _ => .ok ()) fun _ _ => .record _ _ _ _) saved s here books

theorem History.append_ends {α : Type} (a : α) (kind : EntryKind) {description : String}
    (fits : fitsInteger sender = true ∧ fitsInteger receiver = true) (plain : Text.Plain description) (from_ : b.Has sender)
    (to_ : b.Has receiver) (low : 0 ≤ amount) (high : amount ≤ maxInteger) :
    (do
      let _ ← History.append kind sender receiver amount (some description)
      pure a : LedgerWork α).Ends time b (.ok a) (b.posted kind sender receiver amount description time) := by
  obtain ⟨entry, appends⟩ := LogRows.append_eq kind time plain fits from_ to_ low high
  have appended : (History.append kind sender receiver amount (some description)).Ends time b (.ok entry)
      (b.posted kind sender receiver amount description time) := by
    refine .instant ?_
    refine (Act.Ends.recast _ (.ask _ (appends false))).bind .ok fun entry _ => ?_
    exact (Act.Ends.record _ _ _ _).bind (fun _ => .ok entry) fun _ _ => .pure entry
  exact appended.bind (fun _ => .ok a) fun _ _ => .pure a

theorem Outcome.adjust_eq_ok {operation : String} {balance : Int} :
    Outcome.adjust b operation id amount delta = .ok balance ↔ (fitsInteger amount = true ∧ fitsInteger id = true) ∧ b.Has id ∧
      0 ≤ b.balanceOf id + delta ∧ b.balanceOf id + delta ≤ maxInteger ∧ b.balanceOf id + delta = balance := by
  unfold Outcome.adjust
  split
  · rename_i fits
    split
    · rename_i there
      split
      · simp
        omega
      · split
        · simp
          omega
        · simp [fits, there]
          omega
    · simp_all
  · simp_all

theorem Books.shifted_ascending (ascending : Rows.Ascending Account.id b.accounts) :
    Rows.Ascending Account.id (b.shifted id delta).accounts :=
  Rows.update_ascending ascending fun _ => rfl

theorem Outcome.adjust_shifted {operation : String} {other : Int} (given : Int) (there : b.Has other) (apart : id ≠ other) :
    Outcome.adjust (b.shifted other given) operation id amount delta = Outcome.adjust b operation id amount delta := by
  unfold Outcome.adjust
  rw [balanceOf_shifted there, if_neg apart, Int.add_zero]
  simp only [has_shifted]

theorem Outcome.insertOrder_eq_ok {order : OrderRow} :
    Outcome.insertOrder b time id account service amount = .ok order ↔ (fitsInteger id = true ∧ fitsInteger service = true) ∧
      (∀ order ∈ b.orders, order.id ≠ id) ∧ .opened id account service amount time = order := by
  unfold Outcome.insertOrder
  rw [new_iff]
  split
  · split <;> simp_all
  · simp_all

theorem Accounts.balance_ends : (Accounts.balance id).EndsAlone time b (Outcome.balance b id) b := by
  have body : (Accounts.balance id).body.Ends time b (Outcome.balance b id) b := by
    unfold Accounts.balance Outcome.balance
    exact Accounts.get_ends.bind _ fun account _ => .pure account.balance
  exact Operation.endsAlone (fun _ _ => ⟨_, rfl⟩) fun _ => body

theorem Accounts.credit_ends (sound : b.Sound) :
    (Accounts.credit id amount).EndsAlone time b (Outcome.credit b id amount) (b.credited id amount time) := by
  refine Operation.endsAlone (fun _ _ => ⟨_, rfl⟩) fun checked => ?_
  obtain ⟨low, high⟩ := checkCredit_eq_ok.mp checked
  have bound := fitsInteger_of_nonneg low high
  have there : (b.opened id).Has id := has_opened.mpr (.inl rfl)
  have ends : (Accounts.credit id amount).body.Ends time b
      ((if fitsInteger id = true then .ok () else .error (.oversized "get account by id")) >>= fun _ =>
        Outcome.adjust (b.opened id) "add balance" id amount amount >>= .ok) (b.credited id amount time) := by
    refine Accounts.open_ends.bind _ fun _ opened => ?_
    have fits : fitsInteger id = true := by
      by_contra oversized
      rw [if_neg oversized] at opened
      cases opened
    refine (Accounts.adjust_ends _ (sound.opened fits).accounts).bind _ fun balance _ => ?_
    have there' : ((b.opened id).shifted id amount).Has id := has_shifted.mpr there
    exact History.append_ends balance .enrollment ⟨fits, fits⟩ (creditText_plain id amount) there' there' low high
  refine ends.restated ?_
  have held := (sound.balanceOf_inRange id).1
  have funded : ¬ b.balanceOf id + amount < 0 := by omega
  by_cases fits : fitsInteger id = true
  · rw [if_pos fits, if_pos fits]
    unfold Outcome.adjust
    rw [ok_bind, if_pos ⟨bound, fits⟩, if_pos there, balanceOf_opened, if_neg funded]
    split <;> rfl
  · rw [if_neg fits, if_neg fits]
    rfl

theorem Accounts.adjust_both_ends {γ : Type} (first second : String) {next : Int → Int → LedgerWork γ} {answer : Int → Int → γ}
    {from_ to_ given taken : Int} {b₁ : Books} (ascending : Rows.Ascending Account.id b.accounts) (apart : from_ ≠ to_)
    (goesOn : ∀ x y, fitsInteger from_ = true ∧ b.Has from_ → fitsInteger to_ = true ∧ b.Has to_ →
      (next x y).Ends time ((b.shifted from_ given).shifted to_ taken) (.ok (answer x y)) b₁) :
    (do
      let x ← Accounts.adjust first from_ amount given
      let y ← Accounts.adjust second to_ amount taken
      next x y : LedgerWork γ).Ends time b
      (do
        let x ← Outcome.adjust b first from_ amount given
        let y ← Outcome.adjust b second to_ amount taken
        return answer x y) b₁ := by
  refine (Accounts.adjust_ends first ascending).bind _ fun x adjusted => ?_
  obtain ⟨⟨-, fits⟩, there, -⟩ := Outcome.adjust_eq_ok.mp adjusted
  -- The second balance is the same before and after the first one is changed.
  rw [← Outcome.adjust_shifted given there apart.symm]
  refine (Accounts.adjust_ends second (shifted_ascending ascending)).bind _ fun y adjusted' => ?_
  obtain ⟨⟨-, fits'⟩, there', -⟩ := Outcome.adjust_eq_ok.mp adjusted'
  exact goesOn x y ⟨fits, there⟩ ⟨fits', has_shifted.mp there'⟩

theorem Accounts.transfer_ends (ascending : Rows.Ascending Account.id b.accounts) :
    (Accounts.transfer sender receiver amount).EndsAlone time b (Outcome.transfer b sender receiver amount)
      (b.transferred sender receiver amount time) := by
  refine Operation.endsAlone (fun _ _ => ⟨_, rfl⟩) fun checked => ?_
  obtain ⟨⟨low, high⟩, apart⟩ := checkTransfer_eq_ok.mp checked
  have appends (there : fitsInteger sender = true ∧ b.Has sender) (there' : fitsInteger receiver = true ∧ b.Has receiver)
      (balances : Int × Int) : (do
        let balances ← pure balances
        let _ ← History.append .transfer sender receiver amount (some (transferText sender receiver amount))
        pure balances : LedgerWork (Int × Int)).Ends time ((b.shifted sender (-amount)).shifted receiver amount) (.ok balances)
        (b.transferred sender receiver amount time) :=
    History.append_ends balances .transfer ⟨there.1, there'.1⟩ (transferText_plain sender receiver amount)
      (has_shifted.mpr (has_shifted.mpr there.2)) (has_shifted.mpr (has_shifted.mpr there'.2)) (Int.le_of_lt low) high
  -- Whichever account comes first, the same two balances are changed by as much.
  change Act.Ends (if sender < receiver then _ else _) _ _ (if sender < receiver then _ else _) _
  split
  · exact Accounts.adjust_both_ends _ _ ascending apart fun _ _ there there' => appends there there' _
  · refine Accounts.adjust_both_ends _ _ ascending apart.symm fun _ _ there there' => ?_
    rw [← shifted_comm apart]
    exact appends there' there _

theorem Orders.insert_ends (owner : b.Has account) (fitsAccount : fitsInteger account = true)
    (positive : 0 < amount ∧ amount ≤ maxInteger) :
    (Orders.insert id account service amount).Ends time b (Outcome.insertOrder b time id account service amount)
      (b.reserved id account service amount time) := by
  have fitsAmount := fitsInteger_of_nonneg (Int.le_of_lt positive.1) positive.2
  have asked := OrderRows.insert_tables id service time owner fitsAccount fitsAmount positive.1 false
  refine .instant ?_
  unfold Outcome.insertOrder
  by_cases fits : fitsInteger id = true ∧ fitsInteger service = true
  · rw [if_pos fits] at asked
    rw [if_pos fits, order?, ← Rows.contains_eq_isSome]
    by_cases taken : Rows.contains Order.id id b.orders = true
    · rw [if_pos taken] at asked ⊢
      exact .recast_refused asked rfl
    · rw [if_neg taken] at asked ⊢
      exact .recast _ (.ask _ asked)
  · rw [if_neg fits] at asked ⊢
    exact .recast_refused asked rfl

theorem Orders.create_ends (ascending : Rows.Ascending Account.id b.accounts) :
    (Orders.create id account service amount).EndsAlone time b (Outcome.create b time id account service amount)
      (b.ordered id account service amount time) := by
  refine Operation.endsAlone (fun _ _ => ⟨_, rfl⟩) fun checked => ?_
  have positive := checkPositive_eq_ok.mp checked
  have reserves : (Accounts.reserve account amount).Ends time b (Outcome.adjust b "subtract balance" account amount (-amount))
      (b.shifted account (-amount)) :=
    ((Act.Ends.check _).bind _ fun _ _ => Accounts.adjust_ends _ ascending).restated (by rw [checkPositive_eq_ok.mpr positive]; rfl)
  refine reserves.bind _ fun balance adjusted => ?_
  obtain ⟨⟨-, fitsAccount⟩, there, -⟩ := Outcome.adjust_eq_ok.mp adjusted
  have there' : (b.shifted account (-amount)).Has account := has_shifted.mpr there
  refine (Orders.insert_ends there' fitsAccount positive).bind _ fun order _ => ?_
  exact History.append_ends (order, balance) .reservation ⟨fitsAccount, fitsAccount⟩ (reservationText_plain id amount) there' there'
    (Int.le_of_lt positive.1) positive.2

theorem Books.pending?_eq_some {order : OrderRow} (found : b.pending? id account service amount = some order) :
    order ∈ b.orders ∧ order.id = id ∧ order.account = .int account ∧ order.service = .int service ∧
      order.amount = .int amount ∧ order.isPending = true := by
  refine ⟨List.mem_of_find?_eq_some found, ?_⟩
  simpa using List.find?_some found

theorem Books.Settleable.pending?_eq (settleable : b.Settleable) : b.pending? id account service amount =
    (b.order? id).filter (isPendingMatch account service amount) := by
  cases found : b.pending? id account service amount with
  | some order =>
    obtain ⟨among, rfl, agrees⟩ := Books.pending?_eq_some found
    have known : b.order? order.id = some order := Rows.find?_of_mem settleable.orders among
    rw [known, Option.filter_some, if_pos ((settleable.regular order among).isPendingMatch_iff.mpr agrees)]
  | none =>
    have missing := List.find?_eq_none.mp found
    cases known : b.order? id with
    | none => rfl
    | some order =>
      obtain ⟨among, named⟩ := Rows.find?_some known
      have differs : ¬ isPendingMatch account service amount order = true := by
        intro agreed
        exact missing order among (by simpa using ⟨named, (settleable.regular order among).isPendingMatch_iff.mp agreed⟩)
      rw [Option.filter_some, if_neg differs]

theorem Orders.finish_ends (ending : Ending) (settleable : b.Settleable) :
    (Orders.finish ending id account service amount).Ends time b (Outcome.finish b time ending id account service amount)
      (b.settled ending time id) := by
  have goesOn {outcome : Except LedgerError (Option OrderRow)} {b₁ : Books}
      (ends : (LedgerWork.ask (Orders.endingName ending) (OrderRows.finish ending time id account service amount)).Ends
        time b outcome b₁) :
      (Orders.finish ending id account service amount).Ends time b
        (outcome >>= fun
          | some order => .ok order
          | none => .error (.orderNotFound id)) b₁ := by
    refine .instant (ends.bind _ fun order _ => ?_)
    cases order with
    | some order => exact .pure order
    | none => exact .fail _
  unfold Outcome.finish
  by_cases fits : ∀ n ∈ [id, account, service, amount], fitsInteger n = true
  · rw [if_pos fits, settleable.pending?_eq, order?]
    cases found : Rows.find? Order.id id b.orders with
    | none =>
      have answers : OrderRows.finish ending time id account service amount false b.tables = .ok (none, b.tables) := by
        simp [OrderRows.finish, bindAll_eq, fits, found]
      exact .failed (goesOn (.ask _ answers))
    | some order =>
      by_cases agrees : isPendingMatch account service amount order = true
      · have answers : OrderRows.finish ending time id account service amount false b.tables =
            .ok (some (finished ending time order), (b.settled ending time id).tables) := by
          simp [OrderRows.finish, bindAll_eq, fits, found, agrees, Books.tables_settled]
        rw [Option.filter_some, if_pos agrees]
        exact goesOn (.ask _ answers)
      · have answers : OrderRows.finish ending time id account service amount false b.tables = .ok (none, b.tables) := by
          simp [OrderRows.finish, bindAll_eq, fits, found, agrees]
        rw [Option.filter_some, if_neg agrees]
        exact .failed (goesOn (.ask _ answers))
  · have refuses : OrderRows.finish ending time id account service amount false b.tables = .error .oversizedInteger := by
      rw [OrderRows.finish, ordersOf_tables, ok_bind, bindAll_eq, if_neg fits]
      rfl
    rw [if_neg fits]
    exact goesOn (.refused refuses rfl)

theorem Outcome.finish_eq_ok {ending : Ending} {order : OrderRow}
    (told : Outcome.finish b time ending id account service amount = .ok order) :
    b.Pending id account service amount ∧ order.account = .int account ∧ order.amount = .int amount := by
  unfold Outcome.finish at told
  split at told
  · cases found : b.pending? id account service amount with
    | none =>
      rw [found] at told
      cases told
    | some pending =>
      rw [found] at told
      cases told
      obtain ⟨among, agrees⟩ := Books.pending?_eq_some found
      refine ⟨⟨pending, among, agrees⟩, ?_⟩
      cases ending
      · exact ⟨agrees.2.1, agrees.2.2.2.1⟩
      · exact ⟨agrees.2.1, agrees.2.2.2.1⟩
  · cases told

theorem Orders.pay_ends (settleable : b.Settleable) :
    (Orders.pay id account service amount).EndsAlone time b (Outcome.finish b time .paid id account service amount)
      (b.settled .paid time id) :=
  Operation.endsAlone (fun _ _ => ⟨_, rfl⟩) fun _ => Orders.finish_ends .paid settleable

theorem Orders.cancel_ends (settleable : b.Settleable) :
    (Orders.cancel id account service amount).EndsAlone time b (Outcome.cancel b time id account service amount)
      (b.cancelled id account amount time) := by
  refine Operation.endsAlone (fun _ _ => ⟨_, rfl⟩) fun _ => ?_
  refine (Orders.finish_ends .cancelled settleable).bind _ fun order finished => ?_
  obtain ⟨pending, isAccount, isAmount⟩ := Outcome.finish_eq_ok finished
  obtain ⟨_, there, _, low, high⟩ := settleable.pending pending
  have owner : order.account.whole = account := by rw [isAccount]; rfl
  have held : order.amount.whole = amount := by rw [isAmount]; rfl
  dsimp only
  rw [owner, held]
  have ascending : Rows.Ascending Account.id (b.settled .cancelled time id).accounts := settleable.accounts
  have fits := And.intro (fitsInteger_of_nonneg (Int.le_of_lt low) high) (settleable.known account there)
  have nonnegative := (Books.balanceOf_inRange settleable.inRange account).1
  have returned : ¬ b.balanceOf account + amount < 0 := by omega
  have adjusts : Outcome.adjust (b.settled .cancelled time id) "add balance" account amount amount =
      if maxInteger < b.balanceOf account + amount then .error (.balanceOverflow account amount)
      else .ok (b.balanceOf account + amount) := by
    unfold Outcome.adjust
    rw [if_pos fits]
    exact (if_pos there).trans (if_neg returned)
  have returns : (Accounts.giveBack account amount).Ends time (b.settled .cancelled time id)
      (Outcome.adjust (b.settled .cancelled time id) "add balance" account amount amount)
      ((b.settled .cancelled time id).shifted account amount) :=
    ((Act.Ends.check _).bind _ fun _ _ => Accounts.adjust_ends _ ascending).restated (by rw [checkPositive_eq_ok.mpr ⟨low, high⟩]; rfl)
  refine (returns.bind .ok fun balance _ => ?_).restated ?_
  · have there' : ((b.settled .cancelled time id).shifted account amount).Has account := has_shifted.mpr there
    exact History.append_ends balance .cancelReservation ⟨fits.2, fits.2⟩ (cancellationText_plain id amount)
      there' there' (Int.le_of_lt low) high
  · rw [adjusts]
    split <;> rfl

theorem Orders.lookup_ends : (Orders.lookup id).EndsAlone time b (Outcome.lookup b id) b := by
  have body : (Orders.lookup id).body.Ends time b (Outcome.lookup b id) b := by
    unfold Outcome.lookup
    by_cases fits : fitsInteger id = true
    · have answers : OrderRows.find id false b.tables = .ok (b.order? id, b.tables) := by
        simp [OrderRows.find, bindAll_eq, fits, Books.order?]
      rw [if_pos fits]
      refine (Act.Ends.ask _ answers).bind (fun
        | some order => .ok order
        | none => .error (.orderNotFound id)) fun found _ => ?_
      cases found with
      | some order => exact .pure order
      | none => exact .fail _
    · have refuses : OrderRows.find id false b.tables = .error .oversizedInteger := by
        simp [OrderRows.find, bindAll_eq, fits]
      rw [if_neg fits]
      exact .stop (.refused refuses rfl)
  exact Operation.endsAlone (fun _ _ => ⟨_, rfl⟩) fun _ => body

theorem LogRows.page_tables {field : Option LogRows.SortField} {direction : LogRows.Direction} {limit offset : Int} (deferred : Bool) :
    LogRows.page account field direction (some limit) (some offset) deferred b.tables =
      if fitsInteger account ∧ fitsInteger limit ∧ fitsInteger offset then
        .ok (LogRows.stretch limit offset (LogRows.sorted field direction (b.entries.filter (LogRows.involves account))), b.tables)
      else .error .oversizedInteger := by
  simp only [LogRows.page, LogRows.logOf, Books.tables, ok_bind, bindAll_eq]
  by_cases fits : fitsInteger account = true ∧ fitsInteger limit = true ∧ fitsInteger offset = true
  · have all : ∀ n ∈ account :: (some limit).toList ++ (some offset).toList, fitsInteger n = true := by simp [fits]
    rw [if_pos fits, if_pos all]
    rfl
  · rw [if_neg fits, if_neg fun all => fits ⟨all account (by simp), all limit (by simp), all offset (by simp)⟩]
    rfl

theorem LogRows.count_tables (fits : fitsInteger account = true) (deferred : Bool) :
    LogRows.count account deferred b.tables = .ok ((b.entries.filter (LogRows.involves account)).length, b.tables) := by
  simp [LogRows.count, LogRows.logOf, bindAll_eq, fits, Books.tables, Books.entries]

theorem History.list_ends {listing : History.Listing} {limit offset : Int} (limited : listing.limit = some limit)
    (placed : listing.offset = some offset) :
    (History.list account listing).EndsAlone time b (Outcome.list b account listing limit offset) b := by
  have body : (History.list account listing).body.Ends time b (Outcome.list b account listing limit offset) b := by
    unfold Outcome.list History.list
    rw [limited, placed]
    by_cases fits : fitsInteger account = true ∧ fitsInteger limit = true ∧ fitsInteger offset = true
    · rw [if_pos fits]
      refine (Act.Ends.ask _ ((LogRows.page_tables false).trans (if_pos fits))).bind
        (fun entries => .ok (entries, (b.entries.filter (LogRows.involves account)).length)) fun entries _ => ?_
      exact (Act.Ends.ask _ (LogRows.count_tables fits.1 false)).bind (fun total => .ok (entries, total))
        fun total _ => .pure (entries, total)
    · rw [if_neg fits]
      exact .stop (.refused ((LogRows.page_tables false).trans (if_neg fits)) rfl)
  exact Operation.endsAlone (fun _ _ => ⟨_, rfl⟩) fun _ => body

end
end Passbook
