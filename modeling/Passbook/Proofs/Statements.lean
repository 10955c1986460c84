import Passbook.Call
import Passbook.Proofs.Sessions

/-! The statements that the ledger puts to its store. Every call, joined to a session or not, is made of them: while a session is
open it goes on by them and ends nothing, and a call on its own commits what they have come to. A time that is written is the one
the clock shows. -/
namespace Passbook

inductive Asked : (β : Type) → Statement Database β → Prop
  | findAccount (id : Int) : Asked _ (AccountRows.find id).onSchema
  | insertAccount (id : Int) : Asked _ (AccountRows.insert id).onSchema
  | adjust (amount delta id : Int) : Asked _ (AccountRows.adjust amount delta id).onSchema
  | findOrder (id : Int) : Asked _ (OrderRows.find id).onSchema
  | insertOrder (id account service amount : Int) (time : Time.Instant) :
      Asked _ (OrderRows.insert id account service amount time).onSchema
  | finishOrder (ending : OrderRows.Ending) (time : Time.Instant) (id account service amount : Int) :
      Asked _ (OrderRows.finish ending time id account service amount).onSchema
  | paidTotals (first next : Time.Instant) : Asked _ (OrderRows.paidTotals first next).onSchema
  | append (draft : LogRows.Draft) : Asked _ (LogRows.append draft).onSchema
  | page (account : Int) (field : Option LogRows.SortField) (direction : LogRows.Direction) (limit offset : Option Int) :
      Asked _ (LogRows.page account field direction limit offset).onSchema
  | count (account : Int) : Asked _ (LogRows.count account).onSchema
  | direct (statement : Direct) : Asked _ statement.query.onSchema

/-- The statements put while the clock shows `now`: a time that is written is that of the clock, and of the statements given
directly only some are allowed. -/
inductive Put (free : Direct → Prop) (now : Time.Reading) : (β : Type) → Statement Database β → Prop
  | findAccount (id : Int) : Put free now _ (AccountRows.find id).onSchema
  | insertAccount (id : Int) : Put free now _ (AccountRows.insert id).onSchema
  | adjust (amount delta id : Int) : Put free now _ (AccountRows.adjust amount delta id).onSchema
  | findOrder (id : Int) : Put free now _ (OrderRows.find id).onSchema
  | insertOrder (id account service amount : Int) {time : Time.Instant} (shown : now.instant = .ok time) :
      Put free now _ (OrderRows.insert id account service amount time).onSchema
  | finishOrder (ending : OrderRows.Ending) (id account service amount : Int) {time : Time.Instant} (shown : now.instant = .ok time) :
      Put free now _ (OrderRows.finish ending time id account service amount).onSchema
  | paidTotals (first next : Time.Instant) : Put free now _ (OrderRows.paidTotals first next).onSchema
  | append (draft : LogRows.Draft) (shown : now.instant = .ok draft.createdAt) : Put free now _ (LogRows.append draft).onSchema
  | page (account : Int) (field : Option LogRows.SortField) (direction : LogRows.Direction) (limit offset : Option Int) :
      Put free now _ (LogRows.page account field direction limit offset).onSchema
  | count (account : Int) : Put free now _ (LogRows.count account).onSchema
  | direct (statement : Direct) (allowed : free statement) : Put free now _ statement.query.onSchema

theorem Put.asked {free : Direct → Prop} {now : Time.Reading} {β : Type} {statement : Statement Database β}
    (put : Put free now β statement) : Asked β statement := by
  cases put with
  | findAccount id => exact .findAccount id
  | insertAccount id => exact .insertAccount id
  | adjust amount delta id => exact .adjust amount delta id
  | findOrder id => exact .findOrder id
  | insertOrder id account service amount shown => exact .insertOrder id account service amount _
  | finishOrder ending id account service amount shown => exact .finishOrder ending _ id account service amount
  | paidTotals first next => exact .paidTotals first next
  | append draft shown => exact .append draft
  | page account field direction limit offset => exact .page account field direction limit offset
  | count account => exact .count account
  | direct statement allowed => exact .direct statement

def Statement.Reads {δ β : Type} (statement : Statement δ β) : Prop :=
  ∀ deferred content a later, statement deferred content = .ok (a, later) → later = content

def Given (free : Direct → Prop) (now : Time.Reading) (β : Type) (statement : Statement Database β) : Prop :=
  Put free now β statement ∨ statement.Reads

abbrev LedgerWork.Puts {α : Type} (free : Direct → Prop) (now : Time.Reading) (w : LedgerWork α) : Prop :=
  w.Leads (Store.Performs (Put free now) now)

section
variable {free : Direct → Prop} {now : Time.Reading}

namespace LedgerWork
variable {α β : Type}

theorem ask_puts (operation : String) {query : AccountRows.Query α} (among : Put free now α query.onSchema) :
    (ask operation query).Puts free now :=
  Work.execute_performs operation among

theorem askRow_puts (operation : String) {query : AccountRows.Query (Option α)} {next : Option α → LedgerWork β}
    (among : Put free now _ query.onSchema) (found : ∀ row, (next (some row)).Puts free now) (missing : (next none).Puts free now) :
    (ask operation query >>= next).Puts free now := by
  apply Act.Leads.bind (ask_puts operation among)
  intro row
  cases row with
  | some row => exact found row
  | none => exact missing

theorem instant_puts {next : Time.Instant → LedgerWork β} (rest : ∀ time, now.instant = .ok time → (next time).Puts free now) :
    Puts free now (Work.instant >>= next) := by
  intro s here
  change s.now = now at here
  have told : (Work.instant : LedgerWork Time.Instant) s = _ := Work.instant_eq here
  cases shown : now.instant with
  | ok time =>
    rw [shown] at told
    rw [Act.bind_of_ok told]
    exact rest time shown s here
  | error e =>
    rw [shown] at told
    rw [Act.bind_of_error told]
    exact Work.performs_of_same rfl here

end LedgerWork

namespace Accounts
open LedgerWork

theorem get_puts (id : Int) : (get id).Puts free now :=
  askRow_puts _ (.findAccount id) (fun account => .ofExcept (.ok account)) (.ofExcept (.error _))

theorem create_puts (id : Int) : (create id).Puts free now := .recast _ (ask_puts _ (.insertAccount id))

theorem adjust_puts (operation : String) (id amount delta : Int) : (adjust operation id amount delta).Puts free now := by
  apply Act.Leads.bind (.recast _ (ask_puts operation (.adjust amount delta id)))
  intro balance
  cases balance with
  | some balance => exact .ofExcept (.ok balance)
  | none => exact .ofExcept (.error _)

theorem open_puts (id : Int) : (open? id).Puts free now := by
  apply Act.Leads.tryCatch
  · exact .bind (get_puts id) fun _ => .ofExcept (.ok ())
  · intro e
    split
    · exact .bind (create_puts id) fun _ => Work.record_performs _ _ _ _
    · exact .ofExcept (.error _)

theorem append_puts (kind : EntryKind) (sender receiver amount : Int) (description : Option String) :
    (History.append kind sender receiver amount description).Puts free now := by
  apply instant_puts
  intro time shown
  apply Act.Leads.bind (.recast _ (ask_puts _ (.append _ shown)))
  intro entry
  exact .bind (Work.record_performs _ _ _ _) fun _ => .ofExcept (.ok entry)

theorem credit_puts (id amount : Int) : (credit id amount).body.Puts free now := by
  apply Act.Leads.bind (open_puts id)
  intro _
  apply Act.Leads.bind (adjust_puts _ id amount amount)
  intro balance
  exact .bind (append_puts _ _ _ _ _) fun _ => .ofExcept (.ok balance)

theorem transfer_puts (sender receiver amount : Int) : (transfer sender receiver amount).body.Puts free now := by
  have appended (balances : Int × Int) := fun (_ : Entry Time.Instant) => Act.Leads.ofExcept (σ := Store Database)
    (R := Store.Performs (Put free now) now) (Except.ok balances)
  change LedgerWork.Puts free now (if sender < receiver then _ else _)
  split
  · apply Act.Leads.bind (adjust_puts _ _ _ _)
    intro sent
    apply Act.Leads.bind (adjust_puts _ _ _ _)
    intro received
    exact .bind (.ofExcept (.ok (sent, received))) fun balances => .bind (append_puts _ _ _ _ _) (appended balances)
  · apply Act.Leads.bind (adjust_puts _ _ _ _)
    intro received
    apply Act.Leads.bind (adjust_puts _ _ _ _)
    intro sent
    exact .bind (.ofExcept (.ok (sent, received))) fun balances => .bind (append_puts _ _ _ _ _) (appended balances)

theorem reserve_puts (id amount : Int) : (reserve id amount).Puts free now :=
  .bind (.ofExcept _) fun _ => adjust_puts _ _ _ _

theorem giveBack_puts (id amount : Int) : (giveBack id amount).Puts free now :=
  .bind (.ofExcept _) fun _ => adjust_puts _ _ _ _

end Accounts

namespace Orders
open LedgerWork

theorem get_puts (id : Int) : (get id).Puts free now :=
  askRow_puts _ (.findOrder id) (fun order => .ofExcept (.ok order)) (.ofExcept (.error _))

theorem insert_puts (id account service amount : Int) : (insert id account service amount).Puts free now :=
  instant_puts fun _ shown => .recast _ (ask_puts _ (.insertOrder id account service amount shown))

theorem finish_puts (ending : OrderRows.Ending) (id account service amount : Int) :
    (finish ending id account service amount).Puts free now :=
  instant_puts fun _ shown => askRow_puts _ (.finishOrder ending id account service amount shown)
    (fun order => .ofExcept (.ok order)) (.ofExcept (.error _))

theorem create_puts (id account service amount : Int) : (create id account service amount).body.Puts free now := by
  apply Act.Leads.bind (Accounts.reserve_puts account amount)
  intro balance
  apply Act.Leads.bind (insert_puts id account service amount)
  intro order
  exact .bind (Accounts.append_puts _ _ _ _ _) fun _ => .ofExcept (.ok (order, balance))

theorem cancel_puts (id account service amount : Int) : (cancel id account service amount).body.Puts free now := by
  apply Act.Leads.bind (finish_puts .cancelled id account service amount)
  intro order
  apply Act.Leads.bind (Accounts.giveBack_puts _ _)
  intro balance
  exact .bind (Accounts.append_puts _ _ _ _ _) fun _ => .ofExcept (.ok balance)

end Orders

theorem History.list_puts (account : Int) (listing : Listing) : (list account listing).body.Puts free now := by
  apply Act.Leads.bind (LedgerWork.ask_puts _ (.page _ _ _ _ _))
  intro entries
  exact .bind (LedgerWork.ask_puts _ (.count account)) fun total => .ofExcept (.ok (entries, total))

theorem Report.monthly_puts (year month : Int) : (monthly year month).Puts free now := by
  refine Act.Leads.bind (.ofExcept _) ?_
  intro bounds
  exact .bind (LedgerWork.ask_puts _ (.paidTotals _ _)) fun totals => .ofExcept _

end

namespace Operation
variable {α : Type} {R : Store Database → Store Database → Prop} [Lasting R]

theorem within_leads (op : Operation α) {body : LedgerWork α} (report : ∀ a, (op.report a).Leads R)
    (inner : body.Leads R) : (op.within body).Leads R := by
  refine Act.Leads.bind (.ofExcept _) ?_
  intro _
  apply Act.Leads.bind inner
  intro a
  exact .bind (report a) fun _ => .ofExcept (.ok a)

end Operation

/-- Relations between stores in which the journal has no part, and that a unit of work keeps if its work does. -/
structure Spans (free : Direct → Prop) (R : Store Database → Store Database → Prop) : Prop where
  tells (s : Store Database) (journal : List Journal.Record) : R s { s with journal }
  unit {α : Type} {w : LedgerWork α} (leads : ∀ now, w.Leads (Store.Performs (Given free now) now)) : (Work.inUnit w).Leads R

namespace Spans
variable {α : Type} {free : Direct → Prop} {R : Store Database → Store Database → Prop}

theorem record (spans : Spans free R) (level : Journal.Level) (source message : String) (details : Journal.Details) :
    (Work.record level source message details : LedgerWork Unit).Leads R :=
  fun s => spans.tells s _

theorem unit_puts (spans : Spans free R) {w : LedgerWork α} (puts : ∀ now, w.Puts free now) : (Work.inUnit w).Leads R :=
  spans.unit fun now => (puts now).mono fun _ _ performs => performs.mono fun _ _ put => .inl put

theorem unit_reads (spans : Spans free R) (operation : String) {statement : Statement Database α} (reads : statement.Reads) :
    (Work.inUnit (Work.execute operation statement)).Leads R :=
  spans.unit fun _ => Work.execute_performs operation (.inr reads)

theorem within {R : Bool × Database → Bool × Database → Prop} [Progression R] : Spans free (Store.Within R) where
  tells _ _ _ deferred busy := ⟨deferred, busy, Progression.refl _⟩
  unit _ := Work.inUnit_refused.leads

theorem performs (now : Time.Reading) : Spans free (Store.Performs (Given free now) now) where
  tells s _ here := ⟨here, (within : Spans free (Store.Within (Passage _))).tells s _, fun idle => ⟨idle, .none _⟩⟩
  unit leads := Work.inUnit_performs (leads now)

end Spans

namespace Call
variable {α : Type} {free : Direct → Prop} {R : Store Database → Store Database → Prop} [Lasting R] {isJoined : Bool}

def Frees (free : Direct → Prop) : Call → Prop
  | .direct _ statement => free statement
  | _ => True

theorem frees_all (call : Call) : call.Frees fun _ => True := by
  cases call <;> trivial

theorem operate_leads (spans : Spans free R) (op : Operation α) (answer : α → Answer) (report : ∀ a, (op.report a).Leads R)
    (puts : ∀ now, op.body.Puts free now) (joined : isJoined = true → op.body.Leads R) : (operate isJoined op answer).Leads R := by
  apply Act.Leads.bind
  · cases isJoined with
    | true => exact op.within_leads report (joined rfl)
    | false => exact op.within_leads report (spans.unit_puts puts)
  · exact fun a => .ofExcept (.ok (answer a))

theorem session_leads (spans : Spans free R) {body : LedgerWork α} (answer : α → Answer) (puts : ∀ now, body.Puts free now)
    (joined : isJoined = true → body.Leads R) : (session isJoined body answer).Leads R := by
  apply Act.Leads.bind
  · cases isJoined with
    | true => exact joined rfl
    | false => exact spans.unit_puts puts
  · exact fun a => .ofExcept (.ok (answer a))

theorem showPage_leads (page : List (Entry Time.Instant) × Nat) :
    (do page.1.forM fun e => do let _ ← Act.ofExcept (History.signedAmount e)
        return .page page.1 page.2 : LedgerWork Answer).Leads R := by
  apply Act.Leads.bind
  · induction page.1 with
    | nil => exact .ofExcept (.ok ())
    | cons e rest ih => exact .bind (.bind (.ofExcept _) fun _ => .ofExcept (.ok ())) fun _ => ih
  · exact fun _ => .ofExcept (.ok _)

theorem showList_leads (spans : Spans free R) (account : Int) (listing : History.Listing)
    (joined : isJoined = true → (History.list account listing).body.Leads R) : (showList isJoined account listing).Leads R := by
  have silent (page : List (Entry Time.Instant) × Nat) : ((History.list account listing).report page).Leads R :=
    .ofExcept (.ok ())
  cases isJoined with
  | true => exact .bind (Operation.within_leads _ silent (joined rfl)) showPage_leads
  | false =>
    exact .bind (Operation.within_leads _ silent (spans.unit_puts fun _ => History.list_puts account listing)) showPage_leads

theorem runDirect_puts {now : Time.Reading} (operation : String) {statement : Direct} (allowed : free statement) :
    (runDirect operation statement).Puts free now := by
  have asked : (LedgerWork.ask operation statement.query).Puts free now := LedgerWork.ask_puts operation (.direct statement allowed)
  cases statement with
  | deferReferences => exact .bind Work.deferReferences_performs fun _ => asked
  | _ => exact asked

theorem orderedTotals_puts {now : Time.Reading} (year month : Int) : (orderedTotals year month).Puts free now := by
  apply Act.Leads.bind (Report.monthly_puts year month)
  intro totals
  exact .bind (.ofExcept _) fun _ => .ofExcept (.ok totals)

theorem appendNamed_puts {now : Time.Reading} (kind : String) (sender receiver amount : Int) (description : Option String) :
    (appendNamed kind sender receiver amount description).Puts free now := by
  unfold appendNamed
  split
  · exact Accounts.append_puts _ _ _ _ _
  · exact .ofExcept (.error _)

/-- What a call makes of a store. It is made of statements that the ledger puts, one after the other in the session it has joined
or in a unit of its own. -/
theorem run_leads (spans : Spans free R) (call : Call) (frees : call.Frees free)
    (joined : isJoined = true → ∀ {α : Type} {w : LedgerWork α}, (∀ now, w.Puts free now) → w.Leads R) :
    (call.run isJoined).Leads R := by
  have told {α : Type} {op : Operation α} {answer : α → Answer} (report : ∀ a, (op.report a).Leads R)
      (puts : ∀ now, op.body.Puts free now) : (operate isJoined op answer).Leads R :=
    operate_leads spans op answer report puts fun isJoined => joined isJoined puts
  have silent {α : Type} (a : α) : (pure () : LedgerWork Unit).Leads R := .ofExcept (.ok ())
  have plain {α : Type} {body : LedgerWork α} {answer : α → Answer} (puts : ∀ now, body.Puts free now) :
      (session isJoined body answer).Leads R :=
    session_leads spans answer puts fun isJoined => joined isJoined puts
  have shown (account : Int) (listing : History.Listing) : (showList isJoined account listing).Leads R :=
    showList_leads spans account listing fun isJoined => joined isJoined fun _ => History.list_puts account listing
  cases call with
  | credit account amount => exact told (fun _ => spans.record _ _ _ _) fun _ => Accounts.credit_puts _ _
  | transfer sender receiver amount => exact told (fun _ => spans.record _ _ _ _) fun _ => Accounts.transfer_puts _ _ _
  | balance account => exact told silent fun _ => .bind (Accounts.get_puts account) fun found => .ofExcept (.ok found.balance)
  | reserve account amount => exact plain fun _ => Accounts.reserve_puts account amount
  | giveBack account amount => exact plain fun _ => Accounts.giveBack_puts account amount
  | getAccount account => exact plain fun _ => Accounts.get_puts account
  | createAccount account => exact plain fun _ => Accounts.create_puts account
  | addBalance account amount => exact plain fun _ => Accounts.adjust_puts _ _ _ _
  | subtractBalance account amount => exact plain fun _ => Accounts.adjust_puts _ _ _ _
  | createOrder order account service amount => exact told (fun _ => spans.record _ _ _ _) fun _ => Orders.create_puts _ _ _ _
  | payOrder order account service amount => exact told (fun _ => spans.record _ _ _ _) fun _ => Orders.finish_puts _ _ _ _ _
  | cancelOrder order account service amount => exact told (fun _ => spans.record _ _ _ _) fun _ => Orders.cancel_puts _ _ _ _
  | getOrder order => exact told silent fun _ => Orders.get_puts order
  | insertOrder order account service amount => exact plain fun _ => Orders.insert_puts _ _ _ _
  | finishOrder ending order account service amount => exact plain fun _ => Orders.finish_puts _ _ _ _ _
  | append kind sender receiver amount description => exact plain fun _ => appendNamed_puts _ _ _ _ _
  | list account listing => exact shown account listing
  | browse account sort direction limit offset => exact .bind (.ofExcept _) (shown account)
  | paidAmounts year month => exact plain fun _ => orderedTotals_puts year month
  | direct operation statement => exact plain fun _ => runDirect_puts operation frees

theorem stays_of_puts {w : LedgerWork α} (puts : ∀ now, w.Puts free now) : w.Stays (Passage Asked) := by
  intro s saved deferred busy
  obtain ⟨_, within, _⟩ := puts s.now s rfl
  obtain ⟨later, still, passage⟩ := within saved deferred busy
  exact ⟨later, still, passage.mono fun _ _ put => put.asked⟩

theorem run_stays {R : Bool × Database → Bool × Database → Prop} [Progression R] (isJoined : Bool) (call : Call)
    (through : isJoined = true → ∀ x y, Passage Asked x y → R x y) : (call.run isJoined).Stays R := by
  apply call.run_leads Spans.within call.frees_all
  intro joined α w puts s saved deferred busy
  obtain ⟨later, still, passage⟩ := stays_of_puts puts s saved deferred busy
  exact ⟨later, still, through joined _ _ passage⟩

end Call
end Passbook
