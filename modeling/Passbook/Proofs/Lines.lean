import Passbook.Proofs.Fresh
import Passbook.Proofs.Outcomes

/-! The lines that accounts and orders write of what they do. A line is written for all that is committed and for nothing else: most
come after the unit, and the one that is written inside comes when no later step of the unit can fail. -/
namespace Passbook
open Books Journal OrderRows Time

namespace Journal

def ledgerSources : List String := ["payment_ledger.accounts", "payment_ledger.orders"]

/-- What accounts and orders write among records of which the details are left out. -/
def ledgerLines (records : List Record) : List Record :=
  (atLeast Level.info records).filter fun r => r.level == Level.info && ledgerSources.contains r.source

def Record.reports (action : String) (r : Record) : Bool :=
  match r.details.action with
  | some (.string name) => name == action
  | _ => false

def lineOf (source : String) (time : Instant) (message : String) (details : Details) : Record :=
  { time := .universal time, level := Level.info, source, message, details }

theorem ledgerLines_append (records others : List Record) :
    ledgerLines (records ++ others) = ledgerLines records ++ ledgerLines others := by
  simp [ledgerLines, atLeast]

theorem ledgerLines_lineOf {source : String} (listed : source ∈ ledgerSources) (time : Instant) (message : String) (details : Details) :
    ledgerLines [lineOf source time message details] = [lineOf source time message details] := by
  simp [ledgerLines, atLeast, lineOf, listed]

theorem ledgerLines_of_source {r : Record} (other : r.source ∉ ledgerSources) : ledgerLines [r] = [] := by
  simp [ledgerLines, atLeast, other]

theorem ledgerLines_of_low {r : Record} (low : r.level < Level.info) : ledgerLines [r] = [] := by
  have hidden : ¬ Level.info ≤ r.level := Nat.not_le.mpr low
  simp [ledgerLines, atLeast, hidden]

end Journal

namespace Store
variable {s t u : Store Database} {lines lines' : List Record}

/-- The journal has gone on by records with these lines among them. -/
def Tells (lines : List Record) (s t : Store Database) : Prop :=
  ∃ records, t.journal = s.journal ++ records ∧ ledgerLines records = lines

theorem Tells.of_same (same : t.journal = s.journal) : Tells [] s t := ⟨[], same.trans (List.append_nil _).symm, rfl⟩

theorem Tells.ledgerLines_eq (tells : Tells lines s t) : ledgerLines t.journal = ledgerLines s.journal ++ lines := by
  obtain ⟨records, gone, rfl⟩ := tells
  rw [gone, ledgerLines_append]

theorem Tells.trans (first : Tells lines s t) (rest : Tells lines' t u) : Tells (lines ++ lines') s u := by
  obtain ⟨records, gone, rfl⟩ := first
  obtain ⟨records', gone', rfl⟩ := rest
  exact ⟨records ++ records', by rw [gone', gone, List.append_assoc], ledgerLines_append records records'⟩

theorem Tells.line {source : String} (listed : source ∈ ledgerSources) (time : Instant) (message : String) (details : Details) :
    Tells [lineOf source time message details] s { s with journal := s.journal ++ [lineOf source time message details] } :=
  ⟨_, rfl, ledgerLines_lineOf listed time message details⟩

instance : Lasting (Tells []) where
  refl _ := .of_same rfl
  trans := .trans

end Store

instance {σ : Type} : Lasting (Eq : σ → σ → Prop) := ⟨Eq.refl, Eq.trans⟩

section
variable {α β : Type}

/-- Work that writes none of these lines, whatever comes of it. -/
abbrev LedgerWork.Quiet (w : LedgerWork α) : Prop := w.Leads (Store.Tells [])

namespace Work

theorem quiet_of_journal {w : LedgerWork α} (same : ∀ s, (w s).2.journal = s.journal) : w.Quiet := fun s => .of_same (same s)

theorem record_quiet {level : Level} (low : level < Level.info) (source message : String) (details : Details) :
    LedgerWork.Quiet (record level source message details) :=
  fun _ => ⟨_, rfl, ledgerLines_of_low low⟩

theorem execute_quiet (operation : String) (statement : Statement Database α) : LedgerWork.Quiet (execute operation statement) := by
  refine quiet_of_journal fun s => ?_
  unfold execute
  split
  · rfl
  · rfl
  · split <;> rfl

theorem instant_quiet : LedgerWork.Quiet instant := .bind clock_leads fun _ => .ofExcept _

theorem inUnit_quiet {w : LedgerWork α} (quiet : w.Quiet) : LedgerWork.Quiet (inUnit w) := by
  refine .bind (quiet_of_journal fun s => ?_) fun _ => .bind quiet.outcome fun outcome => quiet_of_journal fun s => ?_
  · unfold openUnit
    split <;> rfl
  · unfold closeUnit rollback commit
    split <;> split <;> first | rfl | (split <;> rfl)

end Work

namespace LedgerWork

theorem ask_quiet (operation : String) (query : AccountRows.Query α) : (ask operation query).Quiet := Work.execute_quiet _ _

theorem askRow_quiet (operation : String) {query : AccountRows.Query (Option α)} {next : Option α → LedgerWork β}
    (found : ∀ row, (next (some row)).Quiet) (missing : (next none).Quiet) : (ask operation query >>= next).Quiet := by
  refine Act.Leads.bind (ask_quiet operation query) fun row => ?_
  cases row with
  | some row => exact found row
  | none => exact missing

end LedgerWork

end

namespace Migrator

theorem tell_quiet (level : Level) (message : String) : LedgerWork.Quiet (tell level message) := by
  have other : "payment_ledger.migrations" ∉ ledgerSources := by decide
  exact fun _ => ⟨_, rfl, ledgerLines_of_source other⟩

theorem version_quiet : LedgerWork.Quiet version := by
  refine .bind ?_ fun _ => .ofExcept (.ok _)
  exact .bind (Work.inUnit_quiet (Work.execute_quiet _ _)) fun _ => .ofExcept _

theorem runAll_quiet (m : Migration Ddl) (statements : List Ddl) : LedgerWork.Quiet (runAll m statements) := by
  induction statements with
  | nil => exact .ofExcept (.ok ())
  | cons statement rest ih => exact .bind (Work.execute_quiet _ _) fun _ => ih

theorem apply_quiet (m : Migration Ddl) : LedgerWork.Quiet (apply m) := by
  have unit : LedgerWork.Quiet (applyUnit m) := Work.inUnit_quiet <|
    .bind (runAll_quiet m m.up) fun _ => .bind Work.clock_leads fun now => .bind (.ofExcept _) fun _ =>
      .bind (Work.execute_quiet _ _) fun _ => .ofExcept (.ok now)
  refine .bind (tell_quiet _ _) fun _ => .bind unit.outcome fun outcome => ?_
  cases outcome with
  | ok now => exact .bind (tell_quiet _ _) fun _ => .ofExcept (.ok now)
  | error e => exact .bind (tell_quiet _ _) fun _ => .ofExcept (.error _)

theorem runEach_quiet {chosen : Migration Ddl → Bool} {act : Migration Ddl → LedgerWork (Option Reading)} (each : ∀ m, (act m).Quiet)
    (planned : List (Planned Ddl)) : LedgerWork.Quiet (runEach chosen act planned) := by
  induction planned with
  | nil => exact .ofExcept (.ok _)
  | cons p rest ih =>
    unfold runEach
    split
    · refine .bind (each p.migration).outcome fun outcome => ?_
      cases outcome with
      | error e => exact .ofExcept (.ok _)
      | ok appliedAt => exact .bind ih fun after => .ofExcept (.ok _)
    · exact .bind ih fun after => .ofExcept (.ok _)

theorem up_quiet (m : Migrator Ddl) (target : Option Int) : LedgerWork.Quiet (m.up target) := by
  refine .bind version_quiet fun current => ?_
  dsimp only
  split
  · exact .bind (tell_quiet _ _) fun _ => .ofExcept (.ok _)
  · have applies (m : Migration Ddl) : LedgerWork.Quiet (some <$> apply m) := .bind (apply_quiet m) fun now => .ofExcept (.ok (some now))
    refine .bind (tell_quiet _ _) fun _ => .bind (runEach_quiet applies _) fun progress => ?_
    split
    · exact .bind (tell_quiet _ _) fun _ => .ofExcept (.ok _)
    · exact .ofExcept (.ok _)

end Migrator

theorem System.prepareStore_quiet (settings : Settings) : (prepareStore settings).Quiet := by
  refine .bind (Work.inUnit_quiet (Work.execute_quiet _ _)) fun _ => ?_
  split
  · refine .bind (Migrator.up_quiet _ _) fun progress => ?_
    split
    · exact .ofExcept (.error _)
    · exact .ofExcept (.ok _)
  · exact .ofExcept (.ok _)

theorem Store.fresh_lines (time : Instant) : ledgerLines (fresh time).journal = [] := by
  have quiet : Store.Tells [] _ (fresh time) := System.prepareStore_quiet {} _
  exact Store.Tells.ledgerLines_eq quiet

namespace Accounts
open LedgerWork

theorem get_quiet (id : Int) : (get id).Quiet := askRow_quiet _ (fun account => .ofExcept (.ok account)) (.ofExcept (.error _))

theorem create_quiet (id : Int) : (create id).Quiet := .recast _ (ask_quiet _ _)

theorem adjust_quiet (operation : String) (id amount delta : Int) : (adjust operation id amount delta).Quiet := by
  refine Act.Leads.bind (.recast _ (ask_quiet _ _)) fun balance => ?_
  cases balance with
  | some balance => exact .ofExcept (.ok balance)
  | none => exact .ofExcept (.error _)

theorem append_quiet {α : Type} (a : α) (kind : EntryKind) (sender receiver amount : Int) (description : Option String) :
    (do
      let _ ← History.append kind sender receiver amount description
      pure a : LedgerWork α).Quiet := by
  refine .bind ?_ fun _ => .ofExcept (.ok a)
  refine .bind Work.instant_quiet fun now => .bind (.recast _ (ask_quiet _ _)) fun entry => ?_
  exact .bind (Work.record_quiet (show Level.debug < Level.info by decide) _ _ _) fun _ => .ofExcept (.ok entry)

theorem transfer_quiet (sender receiver amount : Int) : (transfer sender receiver amount).body.Quiet := by
  change LedgerWork.Quiet (if sender < receiver then _ else _)
  split
  · exact .bind (adjust_quiet _ _ _ _) fun sent => .bind (adjust_quiet _ _ _ _) fun received =>
      .bind (.ofExcept (.ok (sent, received))) fun balances => append_quiet balances _ _ _ _ _
  · exact .bind (adjust_quiet _ _ _ _) fun received => .bind (adjust_quiet _ _ _ _) fun sent =>
      .bind (.ofExcept (.ok (sent, received))) fun balances => append_quiet balances _ _ _ _ _

end Accounts

namespace Orders
open LedgerWork

theorem get_quiet (id : Int) : (get id).Quiet := askRow_quiet _ (fun order => .ofExcept (.ok order)) (.ofExcept (.error _))

theorem finish_quiet (ending : Ending) (id account service amount : Int) : (finish ending id account service amount).Quiet :=
  .bind Work.instant_quiet fun _ => askRow_quiet _ (fun order => .ofExcept (.ok order)) (.ofExcept (.error _))

theorem create_quiet (id account service amount : Int) : (create id account service amount).body.Quiet := by
  refine .bind (.bind (.ofExcept _) fun _ => Accounts.adjust_quiet _ _ _ _) fun balance => .bind ?_ fun order => ?_
  · exact .bind Work.instant_quiet fun _ => .recast _ (ask_quiet _ _)
  · exact Accounts.append_quiet (order, balance) _ _ _ _ _

theorem cancel_quiet (id account service amount : Int) : (cancel id account service amount).body.Quiet := by
  refine .bind (finish_quiet _ _ _ _ _) fun order => ?_
  refine .bind (.bind (.ofExcept _) fun _ => Accounts.adjust_quiet _ _ _ _) fun balance => ?_
  exact Accounts.append_quiet balance _ _ _ _ _

end Orders

theorem History.list_quiet (account : Int) (listing : Listing) : (list account listing).body.Quiet :=
  .bind (LedgerWork.ask_quiet _ _) fun entries => .bind (LedgerWork.ask_quiet _ _) fun total => .ofExcept (.ok (entries, total))

namespace Act
variable {α : Type} {time : Instant} {b : Books} {lines : List Record}

/-- The work writes these lines if it answers, and none of the kind if it fails. -/
def Notes (work : LedgerWork α) (lines : List Record) (time : Instant) (b : Books) : Prop :=
  ∀ saved s, Store.InUse saved time s → s.content.schema = b.tables →
    match work s with
    | (.ok _, t) => Store.Tells lines s t
    | (.error _, t) => Store.Tells [] s t

theorem Notes.of_quiet {work : LedgerWork α} (quiet : work.Quiet) : work.Notes [] time b := by
  intro saved s _ _
  have told : Store.Tells [] s (work s).2 := quiet s
  split <;> simp_all

end Act

namespace Operation
variable {α : Type} {op : Operation α} {time : Instant} {b b₁ : Books} {condition : Prop} {answers : α → Prop} {lines : List Record}
  {s : Store Database}

/-- What an operation on its own makes of the books, and the lines it writes: those of its work, and the report. Where it fails
there is none of them. -/
theorem alone_notes {source message : String} {details : α → Details} (listed : source ∈ ledgerSources)
    (reports : ∀ a, op.report a = Work.record Level.info source message (details a)) (turns : op.Turns time b condition answers b₁)
    (notes : op.check = .ok () → op.body.Notes lines time b) (rests : s.Rests time) (books : s.content.schema = b.tables) :
    match op.alone s with
    | (.ok a, t) => (condition ∧ answers a) ∧ t.Rests time ∧ t.content.schema = b₁.tables ∧
        Store.Tells (lines ++ [lineOf source time message (details a)]) s t
    | (.error _, t) => t.Rests time ∧ t.content.schema = b.tables ∧ Store.Tells [] s t := by
  have settled := turns.alone s rests books
  cases checked : op.check with
  | error e =>
    rw [alone, within_of_refused checked]
    exact ⟨rests, books, .of_same rfl⟩
  | ok u =>
    have busy : ({ s with status := .busy s.content false } : Store Database).InUse s.content time := ⟨rfl, rests.now⟩
    have joined := turns.joined s.content _ busy books
    have noted := notes checked s.content _ busy books
    rcases worked : op.body { s with status := .busy s.content false } with ⟨e | a, t⟩
    · rw [worked] at noted
      rw [Operation.joined, within_of_failed checked worked] at joined
      have undone := Work.inUnit_of_failed rests.idle worked joined.2
      rw [alone, within_of_failed checked undone] at settled ⊢
      exact ⟨settled.2.1, settled.2.2, noted.trans (.of_same rfl)⟩
    · rw [worked] at noted
      have tells : op.OnlyTells := fun a t => ⟨_, by rw [reports]; rfl⟩
      obtain ⟨journal, ran⟩ := within_of_answered tells checked worked
      rw [Operation.joined, ran] at joined
      have still : t.InUse s.content time := ⟨joined.2.2.1.busy, joined.2.2.1.now⟩
      have reported : op.report a { t with status := .idle } =
          (.ok (), { t with status := .idle, journal := t.journal ++ [lineOf source time message (details a)] }) := by
        rw [reports, lineOf, ← still.now]
        rfl
      have committed := Work.inUnit_of_answered rests.idle worked still
      rw [alone, within_of_reported checked committed reported] at settled ⊢
      exact ⟨⟨settled.1, settled.2.1⟩, settled.2.2.1, settled.2.2.2, noted.trans (.line listed time message _)⟩

end Operation

/-- A line of an action on a resource, with the figures that go with it. -/
def Journal.actionLine (source : String) (time : Instant) (message action resource : String) (extra : Option Json) : Record where
  time := .universal time
  level := 20
  source
  message
  details := { correlation := none, user := none, action := some (.string action), resource := some (.string resource), extra }
  cause := none

namespace Accounts

def line (time : Instant) (message action : String) (id : Int) (extra : Option Json) : Record :=
  actionLine "payment_ledger.accounts" time message action s!"account:{id}" extra

def opening (time : Instant) (id : Int) : Record := line time "Account opened by first credit" "create_account" id none

def openings (time : Instant) (b : Books) (id : Int) : List Record := if b.Has id then [] else [opening time id]

section
variable {b : Books} {id amount : Int} {time : Instant}

theorem open_tells {saved : Database} {s : Store Database} (here : s.InUse saved time) (books : s.content.schema = b.tables)
    (fits : fitsInteger id = true) (absent : ¬ b.Has id) :
    ∃ t, open? id s = (.ok (), t) ∧ Store.Tells [opening time id] s t := by
  rcases open_cases here.busy books with ⟨oversized, _⟩ | ⟨_, there, _⟩ | ⟨_, _, ran⟩
  · exact absurd fits oversized
  · exact absurd there absent
  · have created : (create id).Turns time b (fitsInteger id = true) (fun _ => True) (b.opened id) :=
      .recast _ (.ask _ (AccountRows.insert_turns absent))
    obtain ⟨row, t, made, _, still, _⟩ := created.answered fits here books
    have quiet : Store.Tells [] s (create id s).2 := create_quiet id s
    rw [made] at quiet
    have listed : "payment_ledger.accounts" ∈ ledgerSources := by decide
    refine ⟨_, ?_, quiet.trans (.line listed time "Account opened by first credit" (.ofAction "create_account" s!"account:{id}" none))⟩
    rw [ran, Act.bind_of_ok made, lineOf, ← still.now]
    rfl

/-- The line of a new account is written before its balance is changed. An amount that passes the check fits an account without funds. -/
theorem credit_notes (sound : b.Sound) (checked : checkCredit amount = .ok ()) :
    (credit id amount).body.Notes (openings time b id) time b := by
  intro saved s here books
  obtain ⟨rest, body, quiet⟩ : ∃ rest : LedgerWork Int, (credit id amount).body = (open? id >>= fun _ => rest) ∧ rest.Quiet :=
    ⟨_, rfl, .bind (adjust_quiet _ _ _ _) fun balance => append_quiet balance _ _ _ _ _⟩
  rcases open_cases here.busy books with ⟨oversized, ran⟩ | ⟨fits, there, ran⟩ | ⟨fits, absent, _⟩
  · rw [body, Act.bind_of_error ran]
    exact .of_same rfl
  · rw [body, Act.bind_of_ok ran, openings, if_pos there]
    exact Act.Notes.of_quiet quiet saved s here books
  · obtain ⟨low, high⟩ := checkCredit_eq_ok.mp checked
    have bounded : b.balanceOf id + amount ≤ maxInteger := by rw [balanceOf_of_not_has absent]; omega
    -- All that the credit needs is there, so that nothing behind the line can fail.
    obtain ⟨_, _, answered, _⟩ := (credit_turns sound).joined.answered ⟨⟨low, high⟩, fits, bounded⟩ here books
    obtain ⟨t, opened, tells⟩ := open_tells here books fits absent
    rcases worked : (credit id amount).body s with ⟨e | balance, u⟩
    · rw [Operation.joined, Operation.within_of_failed checked worked] at answered
      cases answered
    · rw [body, Act.bind_of_ok opened] at worked
      have still : Store.Tells [] t (rest t).2 := quiet t
      rw [worked] at still
      rw [openings, if_neg absent]
      exact tells.trans still

end

end Accounts

def Orders.line (time : Instant) (message action : String) (id : Int) (extra : List (String × Json)) : Record :=
  actionLine "payment_ledger.orders" time message action s!"order:{id}" (some (.object extra))

namespace Call

def Reads : Call → Prop
  | .balance _ | .getOrder _ | .browse _ _ _ _ _ => True
  | .list _ listing => listing.limit.isSome = true ∧ listing.offset.isSome = true
  | _ => False

/-- The calls that move money or settle orders, and those that only look. -/
def Logged : Call → Prop
  | .credit _ _ | .transfer _ _ _ | .createOrder _ _ _ _ | .payOrder _ _ _ _ | .cancelOrder _ _ _ _ => True
  | call => call.Reads

/-- What a call that answers has done: what it made sure of, the books it has committed, and the lines it has written. Every amount
and every balance in a line is that of the books. -/
inductive Achieves (time : Instant) (b : Books) : Call → Books → List Record → Prop
  | credit {id amount : Int} (low : 0 ≤ amount) (high : amount ≤ maxInteger) (fits : fitsInteger id = true)
      (bounded : b.balanceOf id + amount ≤ maxInteger) :
      Achieves time b (.credit id amount) (b.credited id amount time)
        (Accounts.openings time b id ++ [Accounts.line time "Account credited" "credit" id (some (.object [
          ("amount", .int amount), ("balance", .int ((b.credited id amount time).balanceOf id))]))])
  | transfer {sender receiver amount : Int} (low : 0 < amount) (high : amount ≤ maxInteger) (apart : sender ≠ receiver)
      (from_ : b.Has sender) (to_ : b.Has receiver) (funds : amount ≤ b.balanceOf sender)
      (bounded : b.balanceOf receiver + amount ≤ maxInteger) :
      Achieves time b (.transfer sender receiver amount) (b.transferred sender receiver amount time)
        [Accounts.line time "Funds transferred" "transfer" sender (some (.object [
          ("sender_id", .int sender), ("receiver_id", .int receiver), ("amount", .int amount),
          ("sender_balance", .int ((b.transferred sender receiver amount time).balanceOf sender)),
          ("receiver_balance", .int ((b.transferred sender receiver amount time).balanceOf receiver))]))]
  | createOrder {id account service amount : Int} (low : 0 < amount) (high : amount ≤ maxInteger) (owner : b.Has account)
      (funds : amount ≤ b.balanceOf account) (fits : fitsInteger id = true) (served : fitsInteger service = true)
      (new : ∀ order ∈ b.orders, order.id ≠ id) :
      Achieves time b (.createOrder id account service amount) (b.ordered id account service amount time)
        [Orders.line time "Order created" "create_order" id [
          ("account_id", .int account), ("service_id", .int service), ("amount", .int amount),
          ("balance", .int ((b.ordered id account service amount time).balanceOf account))]]
  | payOrder {id account service amount : Int} (pending : b.Pending id account service amount) :
      Achieves time b (.payOrder id account service amount) (b.settled .paid time id)
        [Orders.line time "Order paid" "pay_order" id [
          ("account_id", .int account), ("service_id", .int service), ("amount", .int amount)]]
  | cancelOrder {id account service amount : Int} (pending : b.Pending id account service amount)
      (bounded : b.balanceOf account + amount ≤ maxInteger) :
      Achieves time b (.cancelOrder id account service amount) (b.cancelled id account amount time)
        [Orders.line time "Order cancelled" "cancel_order" id [
          ("account_id", .int account), ("amount", .int amount),
          ("balance", .int ((b.cancelled id account amount time).balanceOf account))]]
  | read {call : Call} (reads : call.Reads) : Achieves time b call b []

/-- What comes of a call on its own: it answers, and what it did is kept and told; or it fails, and nothing is. -/
def Accords (call : Call) (time : Instant) (b : Books) (s : Store Database) : Prop :=
  match call.run false s with
  | (.ok _, t) => ∃ b' lines, call.Achieves time b b' lines ∧ t.Rests time ∧ t.content.schema = b'.tables ∧ s.Tells lines t
  | (.error _, t) => t.Rests time ∧ t.content.schema = b.tables ∧ s.Tells [] t

section
variable {α : Type} {b b₁ : Books} {time : Instant} {s : Store Database} {call : Call} {op : Operation α}

theorem accords_of_operation {answer : α → Answer} {source message : String} {details : α → Details} {condition : Prop}
    {answers : α → Prop} {lines : List Record} (rests : s.Rests time) (books : s.content.schema = b.tables)
    (same : call.run false = operate false op answer) (listed : source ∈ ledgerSources)
    (reports : ∀ a, op.report a = Work.record Level.info source message (details a)) (turns : op.Turns time b condition answers b₁)
    (notes : op.check = .ok () → op.body.Notes lines time b)
    (achieves : ∀ a, condition → answers a → call.Achieves time b b₁ (lines ++ [lineOf source time message (details a)])) :
    call.Accords time b s := by
  have noted := op.alone_notes listed reports turns notes rests books
  have mapped : call.run false = (answer <$> op.alone : LedgerWork Answer) := same
  rcases ran : op.alone s with ⟨e | a, t⟩
  · rw [ran] at noted
    have ended : call.run false s = (.error e, t) := mapped ▸ Act.bind_of_error ran
    rw [Accords, ended]
    exact noted
  · rw [ran] at noted
    obtain ⟨⟨held, told⟩, kept⟩ := noted
    have ended : call.run false s = (.ok (answer a), t) := mapped ▸ Act.bind_of_ok ran
    rw [Accords, ended]
    exact ⟨b₁, _, achieves a held told, kept⟩

theorem accords_of_reading {tail : α → LedgerWork Answer} {outcome : Except LedgerError α} (rests : s.Rests time)
    (books : s.content.schema = b.tables) (reads : call.Reads) (same : call.run false s = (op.alone >>= tail) s)
    (ends : op.EndsAlone time b outcome b) (silent : ∀ a, op.report a = pure ()) (quiet : op.body.Quiet)
    (still : ∀ a, (tail a).Leads Eq) : call.Accords time b s := by
  have alone_quiet : op.alone.Quiet := op.within_leads (fun a => silent a ▸ .ofExcept (.ok ())) (Work.inUnit_quiet quiet)
  have told : Store.Tells [] s (op.alone s).2 := alone_quiet s
  obtain ⟨t, ran, rests', answered, failed⟩ := ends s rests books
  rw [ran] at told
  rw [Accords, same]
  cases outcome with
  | error e =>
    rw [Act.bind_of_error ran]
    exact ⟨rests', by rw [failed e rfl, books], told⟩
  | ok a =>
    rw [Act.bind_of_ok ran]
    have kept : t = (tail a t).2 := still a t
    split
    · rename_i u shown
      rw [shown] at kept
      subst kept
      exact ⟨b, [], .read reads, rests', answered a rfl, told⟩
    · rename_i u shown
      rw [shown] at kept
      subst kept
      exact ⟨rests', answered a rfl, told⟩

theorem showList_accords {account : Int} {listing : History.Listing} {limit offset : Int} (limited : listing.limit = some limit)
    (placed : listing.offset = some offset) (rests : s.Rests time) (books : s.content.schema = b.tables) (reads : call.Reads)
    (same : call.run false s = showList false account listing s) : call.Accords time b s :=
  accords_of_reading rests books reads same (History.list_ends limited placed) (fun _ => rfl) (History.list_quiet account listing)
    showPage_leads

theorem reads_accord (rests : s.Rests time) (books : s.content.schema = b.tables) (reads : call.Reads) : call.Accords time b s := by
  have answering {α : Type} {answer : α → Answer} (a : α) : (pure (answer a) : LedgerWork Answer).Leads Eq := .ofExcept (.ok _)
  cases call with
  | balance account =>
    have quiet : (Accounts.balance account).body.Quiet := .bind (Accounts.get_quiet account) fun found => .ofExcept (.ok found.balance)
    exact accords_of_reading rests books reads rfl Accounts.balance_ends (fun _ => rfl) quiet answering
  | getOrder order =>
    exact accords_of_reading rests books reads rfl Orders.lookup_ends (fun _ => rfl) (Orders.get_quiet order) answering
  | list account listing =>
    obtain ⟨limit, limited⟩ := Option.isSome_iff_exists.mp reads.1
    obtain ⟨offset, placed⟩ := Option.isSome_iff_exists.mp reads.2
    exact showList_accords limited placed rests books reads rfl
  | browse account sort direction limit offset =>
    rcases History.Listing.ofRequest_cases sort direction limit offset with ⟨listing, limit', offset', asked, limited, placed⟩ |
      ⟨message, refused⟩
    · refine showList_accords limited placed rests books reads (?_ : _ = showList false account listing s)
      change (Act.ofExcept ((History.Listing.ofRequest sort direction limit offset).mapError .ledger) >>= _) s = _
      rw [asked]
      rfl
    · have failed : (browse account sort direction limit offset).run false s = (.error (.ledger (.invalidListing message)), s) := by
        change (Act.ofExcept ((History.Listing.ofRequest sort direction limit offset).mapError .ledger) >>= _) s = _
        rw [refused]
        rfl
      rw [Accords, failed]
      exact ⟨rests, books, .of_same rfl⟩
  | _ => exact reads.elim

theorem accords (sound : b.Sound) (rests : s.Rests time) (books : s.content.schema = b.tables) (logged : call.Logged) :
    call.Accords time b s := by
  cases call with
  | credit id amount =>
    refine accords_of_operation rests books rfl (by decide) (fun _ => rfl) (Accounts.credit_turns sound)
      (Accounts.credit_notes sound) ?_
    rintro _ ⟨⟨low, high⟩, fits, bounded⟩ rfl
    have balance : b.balanceOf id + amount = (b.credited id amount time).balanceOf id := by rw [balanceOf_credited, if_pos rfl]
    rw [balance]
    exact .credit low high fits bounded
  | transfer sender receiver amount =>
    refine accords_of_operation rests books rfl (by decide) (fun _ => rfl) (Accounts.transfer_turns sound)
      (fun _ => .of_quiet (Accounts.transfer_quiet _ _ _)) ?_
    rintro _ ⟨⟨⟨low, high⟩, apart⟩, from_, to_, funds, bounded⟩ rfl
    have sent : b.balanceOf sender - amount = (b.transferred sender receiver amount time).balanceOf sender := by
      rw [balanceOf_transferred from_ to_, if_pos rfl, if_neg apart]
      omega
    have received : b.balanceOf receiver + amount = (b.transferred sender receiver amount time).balanceOf receiver := by
      rw [balanceOf_transferred from_ to_, if_pos rfl, if_neg apart.symm]
      omega
    rw [sent, received]
    exact .transfer low high apart from_ to_ funds bounded
  | createOrder id account service amount =>
    refine accords_of_operation rests books rfl (by decide) (fun _ => rfl) (Orders.create_turns sound)
      (fun _ => .of_quiet (Orders.create_quiet _ _ _ _)) ?_
    rintro answer ⟨⟨low, high⟩, ⟨owner, funds⟩, fits, served, new⟩ told
    have balance : b.balanceOf account - amount = (b.ordered id account service amount time).balanceOf account := by
      rw [balanceOf_ordered owner, if_pos rfl]
      omega
    rw [told, balance]
    exact .createOrder low high owner funds fits served new
  | payOrder id account service amount =>
    refine accords_of_operation rests books rfl (by decide) (fun _ => rfl) (Orders.pay_turns sound)
      (fun _ => .of_quiet (Orders.finish_quiet _ _ _ _ _)) ?_
    rintro _ pending _
    exact .payOrder pending
  | cancelOrder id account service amount =>
    refine accords_of_operation rests books rfl (by decide) (fun _ => rfl) (Orders.cancel_turns sound)
      (fun _ => .of_quiet (Orders.cancel_quiet _ _ _ _)) ?_
    rintro _ ⟨pending, bounded⟩ rfl
    have balance : b.balanceOf account + amount = (b.cancelled id account amount time).balanceOf account := by
      rw [balanceOf_cancelled_at (sound.settleable.pending pending).2.1, if_pos rfl]
    rw [balance]
    exact .cancelOrder pending bounded
  | _ => exact reads_accord rests books logged

end

end Call

def EntryKind.action : EntryKind → String
  | .enrollment => "credit"
  | .transfer => "transfer"
  | .reservation => "create_order"
  | .cancelReservation => "cancel_order"

/-- There are as many lines of every action as there are rows that come of it. -/
structure Books.Agrees (b : Books) (lines : List Record) : Prop where
  entries : ∀ kind : EntryKind, lines.countP (Record.reports kind.action) = b.entries.countP fun entry => entry.kind == kind
  accounts : lines.countP (Record.reports "create_account") = b.accounts.length
  paid : lines.countP (Record.reports "pay_order") = b.orders.countP Order.isPaid

namespace Books
variable {b b' : Books} {lines told : List Record} {time : Instant} {id : Int}

theorem fresh_agrees : fresh.Agrees [] := ⟨fun _ => rfl, rfl, rfl⟩

theorem Agrees.opened (agrees : b.Agrees lines) : (b.opened id).Agrees (lines ++ Accounts.openings time b id) := by
  unfold Accounts.openings
  split
  · rename_i there
    rw [List.append_nil, opened_of_has there]
    exact agrees
  · rename_i absent
    rw [opened_of_not_has absent]
    refine ⟨fun kind => ?_, ?_, ?_⟩ <;> rw [List.countP_append]
    · rw [agrees.entries]
      cases kind <;> rfl
    · rw [agrees.accounts]
      exact Rows.insert_perm.length_eq.symm
    · rw [agrees.paid]
      rfl

theorem Agrees.posted {entry : Entry Instant} {line : Record} (agrees : b.Agrees lines) (written : b'.entries = b.entries ++ [entry])
    (reported : ∀ action, line.reports action = (entry.kind.action == action)) (accounts : b'.accounts.length = b.accounts.length)
    (paid : b'.orders.countP Order.isPaid = b.orders.countP Order.isPaid) : b'.Agrees (lines ++ [line]) := by
  refine ⟨fun kind => ?_, ?_, ?_⟩ <;> rw [List.countP_append, List.countP_singleton, reported]
  · rw [agrees.entries, written, List.countP_append, List.countP_singleton]
    cases entry.kind <;> cases kind <;> rfl
  · rw [agrees.accounts, accounts]
    cases entry.kind <;> rfl
  · rw [agrees.paid, paid]
    cases entry.kind <;> rfl

theorem length_accounts_shifted {delta : Int} : (b.shifted id delta).accounts.length = b.accounts.length := List.length_map _

theorem paid_reserved {account service amount : Int} :
    (b.reserved id account service amount time).orders.countP Order.isPaid = b.orders.countP Order.isPaid :=
  Rows.insert_perm.countP_eq _

theorem paid_settled (sound : b.Sound) {account service amount : Int} (pending : b.Pending id account service amount) :
    (b.settled .paid time id).orders.countP Order.isPaid = b.orders.countP Order.isPaid + 1 := by
  obtain ⟨order, among, rfl, _, _, _, isPending⟩ := pending
  have before : order.isPaid = false := (Order.isPending_iff.mp isPending).1
  have counted : (b.settled .paid time order.id).orders.countP Order.isPaid + (if order.isPaid then 1 else 0) =
      b.orders.countP Order.isPaid + if (finished .paid time order).isPaid then 1 else 0 :=
    Rows.countP_update Order.isPaid sound.orders among
  rw [before] at counted
  exact counted

theorem paid_cancelled : (b.settled .cancelled time id).orders.countP Order.isPaid = b.orders.countP Order.isPaid := by
  have same : (Order.isPaid ∘ fun order => if order.id = id then finished .cancelled time order else order) = Order.isPaid := by
    funext order
    dsimp only [Function.comp_apply]
    split <;> rfl
  change (List.map _ b.orders).countP _ = _
  rw [List.countP_map, same]

theorem Agrees.next {call : Call} (agrees : b.Agrees lines) (sound : b.Sound) (achieves : call.Achieves time b b' told) :
    b'.Agrees (lines ++ told) := by
  cases achieves with
  | credit low high fits bounded =>
    rw [← List.append_assoc]
    exact agrees.opened.posted rfl (fun _ => rfl) length_accounts_shifted rfl
  | transfer low high apart from_ to_ funds bounded =>
    exact agrees.posted rfl (fun _ => rfl) (length_accounts_shifted.trans length_accounts_shifted) rfl
  | createOrder low high owner funds fits served new => exact agrees.posted rfl (fun _ => rfl) length_accounts_shifted paid_reserved
  | payOrder pending =>
    refine ⟨fun kind => ?_, ?_, ?_⟩ <;> rw [List.countP_append]
    · rw [agrees.entries]
      cases kind <;> rfl
    · rw [agrees.accounts]
      rfl
    · rw [agrees.paid, paid_settled sound pending]
      rfl
  | cancelOrder pending bounded => exact agrees.posted rfl (fun _ => rfl) length_accounts_shifted paid_cancelled
  | read reads =>
    rw [List.append_nil]
    exact agrees

end Books

namespace Call
variable {b b' : Books} {time : Instant} {s : Store Database} {told : List Record}

theorem Achieves.reached {call : Call} (achieves : call.Achieves time b b' told) (reached : b.Reached) : b'.Reached := by
  cases achieves with
  | credit low high fits bounded => exact reached.posted (.credit time low high fits bounded)
  | transfer low high apart from_ to_ funds bounded => exact reached.posted (.transfer time low high apart from_ to_ funds bounded)
  | createOrder low high owner funds fits served new => exact reached.posted (.order time low high owner funds fits served new)
  | payOrder pending => exact reached.posted (.pay time pending)
  | cancelOrder pending bounded => exact reached.posted (.cancel time pending bounded)
  | read reads => exact reached

def runAll (calls : List (Instant × Call)) (s : Store Database) : Store Database :=
  calls.foldl (fun s call => (call.2.run false { s with now := .universal call.1 }).2) s

/-- Where a run has come to: the store holds the books, and the lines in its journal agree with them. -/
structure Stood (b : Books) (s : Store Database) : Prop where
  reached : b.Reached
  keeps : s.Keeps b
  agrees : b.Agrees (ledgerLines s.journal)

theorem Stood.accords (stood : Stood b s) {call : Call} (logged : call.Logged) (time : Instant) :
    call.Accords time b { s with now := .universal time } := by
  obtain ⟨_, rests, books⟩ := stood.keeps
  exact Call.accords stood.reached.sound ⟨rests.idle, rfl⟩ books logged

theorem Stood.next (stood : Stood b s) {call : Call} (logged : call.Logged) (time : Instant) :
    ∃ b', Stood b' (call.run false { s with now := .universal time }).2 := by
  have accords := stood.accords logged time
  unfold Accords at accords
  split at accords
  · rename_i a t ran
    obtain ⟨b', told, achieves, rests, books, tells⟩ := accords
    have gone : ledgerLines t.journal = ledgerLines s.journal ++ told := Store.Tells.ledgerLines_eq tells
    rw [ran]
    exact ⟨b', achieves.reached stood.reached, ⟨time, rests, books⟩, gone ▸ stood.agrees.next stood.reached.sound achieves⟩
  · rename_i e t ran
    obtain ⟨rests, books, tells⟩ := accords
    have same : ledgerLines t.journal = ledgerLines s.journal := (Store.Tells.ledgerLines_eq tells).trans (List.append_nil _)
    rw [ran]
    exact ⟨b, stood.reached, ⟨time, rests, books⟩, same ▸ stood.agrees⟩

theorem Stood.runAll {calls : List (Instant × Call)} (stood : Stood b s) (logged : ∀ call ∈ calls, call.2.Logged) :
    ∃ b', Stood b' (runAll calls s) := by
  induction calls generalizing b s with
  | nil => exact ⟨b, stood⟩
  | cons call calls ih =>
    obtain ⟨b', stood'⟩ := stood.next (logged call (by simp)) call.1
    exact ih stood' fun call among => logged call (List.mem_cons_of_mem _ among)

theorem Achieves.of_reads {call : Call} (achieves : call.Achieves time b b' told) (reads : call.Reads) : told = [] := by
  cases achieves with
  | read => rfl
  | _ => exact reads.elim

/-- Whatever calls are made on a new store, each on its own, its journal has as many lines of every action as there are rows that come
of it. Of whatever is called next, the lines are those of what is committed, with its amounts and balances; if it fails or only looks,
it has none. -/
theorem lines_agree (start : Instant) (calls : List (Instant × Call)) (logged : ∀ call ∈ calls, call.2.Logged) :
    let s := runAll calls (.fresh start)
    ∃ b : Books, s.content.schema = b.tables ∧ b.Agrees (ledgerLines s.journal) ∧
      ∀ (time : Instant) (call : Call), call.Logged →
        call.Accords time b { s with now := .universal time } ∧
        (call.Reads → s.Tells [] (call.run false { s with now := .universal time }).2) := by
  intro s
  have first : Stood .fresh (.fresh start) := ⟨.fresh, Store.fresh_keeps start, Store.fresh_lines start ▸ fresh_agrees⟩
  obtain ⟨b, stood⟩ := first.runAll logged
  obtain ⟨_, _, books⟩ := stood.keeps
  refine ⟨b, books, stood.agrees, fun time call logged => ?_⟩
  have accords := stood.accords logged time
  refine ⟨accords, fun reads => ?_⟩
  unfold Accords at accords
  split at accords
  · rename_i a t ran
    obtain ⟨_, told, achieves, -, -, tells⟩ := accords
    rw [ran, ← achieves.of_reads reads]
    exact tells
  · rename_i e t ran
    rw [ran]
    exact accords.2.2

/-- An account is opened, a transfer finds no receiver, and an order is paid. -/
theorem lines_agree_past_failures :
    let calls : List (Instant × Call) := [(.default, .credit 1 50), (.default, .transfer 1 2 10), (.default, .createOrder 7 1 3 20),
      (.default, .payOrder 7 1 3 20), (.default, .getOrder 7)]
    let s := runAll calls (.fresh .default)
    (∀ call ∈ calls, call.2.Logged) ∧
      ∃ b : Books, s.content.schema = b.tables ∧ b.Agrees (ledgerLines s.journal) ∧
        ∀ (time : Instant) (call : Call), call.Logged →
          call.Accords time b { s with now := .universal time } ∧
          (call.Reads → s.Tells [] (call.run false { s with now := .universal time }).2) := by
  intro calls s
  have logged : ∀ call ∈ calls, call.2.Logged := by
    simp only [calls, List.forall_mem_cons, List.not_mem_nil, false_implies, implies_true, and_true]
    exact ⟨trivial, trivial, trivial, trivial, trivial⟩
  exact ⟨logged, lines_agree .default calls logged⟩

end Call

end Passbook
