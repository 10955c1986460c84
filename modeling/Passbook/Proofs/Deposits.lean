import Passbook.Proofs.Banking

/-! Credits, exactly, on their own and in the session of a caller. A credit fails only before it has changed anything: an account that
it has to open has room for every amount that is accepted, so that nothing can go wrong once it is open. -/
namespace Passbook
open Books Time

namespace Act
variable {α β : Type} {time : Instant} {b b₁ b₂ : Books} {e : LedgerError}

/-- In any session that holds the books `b` the work answers, and all that it changes is the books, to `b₁`, and the journal. -/
def Yields (work : LedgerWork α) (time : Instant) (b : Books) (a : α) (b₁ : Books) : Prop :=
  ∀ (saved : Database) (deferred : Bool) (s : Store Database), s.status = .busy saved deferred → s.now = .universal time →
    s.content.schema = b.tables →
      ∃ journal, work s = (.ok a, { s with content := { s.content with schema := b₁.tables }, journal })

def Declines (work : LedgerWork α) (b : Books) (e : LedgerError) : Prop :=
  ∀ (saved : Database) (deferred : Bool) (s : Store Database), s.status = .busy saved deferred → s.content.schema = b.tables →
    work s = (.error (.ledger e), s)

theorem Yields.bind {first : LedgerWork α} {next : α → LedgerWork β} {a : α} {c : β} (begins : first.Yields time b a b₁)
    (goesOn : (next a).Yields time b₁ c b₂) : (first >>= next).Yields time b c b₂ := by
  intro saved deferred s busy now books
  obtain ⟨journal, ran⟩ := begins saved deferred s busy now books
  obtain ⟨journal', went⟩ := goesOn saved deferred { s with content := { s.content with schema := b₁.tables }, journal } busy now rfl
  exact ⟨journal', (bind_of_ok ran).trans went⟩

theorem Yields.pure (a : α) : (Pure.pure a : LedgerWork α).Yields time b a b := by
  intro saved deferred s _ _ books
  refine ⟨s.journal, ?_⟩
  rw [← books]
  rfl

theorem Yields.record (level : Journal.Level) (source message : String) (details : Journal.Details) :
    (Work.record level source message details : LedgerWork Unit).Yields time b () b := by
  intro saved deferred s _ _ books
  refine ⟨(Work.record level source message details s).2.journal, ?_⟩
  rw [← books]
  rfl

theorem Yields.instant : (Work.instant : LedgerWork Instant).Yields time b time b := by
  intro saved deferred s _ now books
  refine ⟨s.journal, ?_⟩
  rw [Work.instant_of_universal now, ← books]

theorem Yields.ask (operation : String) {query : AccountRows.Query α} {a : α}
    (answers : ∀ deferred, query deferred b.tables = .ok (a, b₁.tables)) : (LedgerWork.ask operation query).Yields time b a b₁ := by
  intro saved deferred s busy _ books
  refine ⟨s.journal, ?_⟩
  rw [LedgerWork.ask_eq operation query busy books, answers]

theorem Yields.recast {work : LedgerWork α} {a : α} (change : Failure → Failure) (yields : work.Yields time b a b₁) :
    (Act.recast change work).Yields time b a b₁ := by
  intro saved deferred s busy now books
  obtain ⟨journal, ran⟩ := yields saved deferred s busy now books
  exact ⟨journal, recast_of_ok ran⟩

theorem Declines.bind {first : LedgerWork α} {next : α → LedgerWork β} (declines : first.Declines b e) :
    (first >>= next).Declines b e :=
  fun saved deferred s busy books => bind_of_error (declines saved deferred s busy books)

theorem Declines.recast_ask {operation : String} {query : AccountRows.Query α} {r : Refusal} {change : Failure → Failure}
    (refuses : ∀ deferred, query deferred b.tables = .error r) (told : change (.ofStore (r.raise operation)) = .ledger e) :
    (Act.recast change (LedgerWork.ask operation query)).Declines b e := by
  intro saved deferred s busy books
  have asked := LedgerWork.ask_eq operation query busy books
  rw [refuses] at asked
  rw [recast_of_error asked, told]

end Act

/-- The act answers if and only if it can, and then changes the books and the journal only; if not, it fails with the fault and
changes nothing at all. -/
structure Act.AllOrNothing {α : Type} (act : LedgerWork α) (s : Store Database) (b₁ : Books) (can : Prop) (answer : α)
    (fault? : Option LedgerError) : Prop where
  answers_iff : (∃ a, (act s).1 = .ok a) ↔ can
  answered : can → ∃ journal, act s = (.ok answer, { s with content := { s.content with schema := b₁.tables }, journal })
  failed : ¬ can → ∃ e, fault? = some e ∧ act s = (.error (.ledger e), s)

namespace Operation
variable {α : Type} {op : Operation α} {time : Instant} {b b₁ : Books} {answer : α} {fault? : Option LedgerError}

structure Settles (op : Operation α) (time : Instant) (b : Books) (answer : α) (b₁ : Books) (fault? : Option LedgerError) : Prop where
  yields : fault? = none → op.check = .ok () ∧ op.body.Yields time b answer b₁
  declines : ∀ e, fault? = some e → op.check = .error e ∨ op.check = .ok () ∧ op.body.Declines b e

variable {s : Store Database} {can : Prop}

theorem allOrNothing_of {act : LedgerWork α} (can_iff : can ↔ fault? = none)
    (answers : fault? = none → ∃ journal, act s = (.ok answer, { s with content := { s.content with schema := b₁.tables }, journal }))
    (fails : ∀ e, fault? = some e → act s = (.error (.ledger e), s)) : act.AllOrNothing s b₁ can answer fault? := by
  cases fault? with
  | none =>
    obtain ⟨journal, ran⟩ := answers rfl
    exact ⟨⟨fun _ => can_iff.mpr rfl, fun _ => ⟨answer, congrArg Prod.fst ran⟩⟩, fun _ => ⟨journal, ran⟩,
      fun never => absurd (can_iff.mpr rfl) never⟩
  | some e =>
    have ran := fails e rfl
    have cannot : ¬ can := fun held => nomatch can_iff.mp held
    refine ⟨⟨fun ⟨a, answered⟩ => ?_, fun held => absurd held cannot⟩, fun held => absurd held cannot,
      fun _ => ⟨e, rfl, ran⟩⟩
    rw [ran] at answered
    cases answered

theorem Settles.joined (settles : op.Settles time b answer b₁ fault?) (tells : op.OnlyTells) (can_iff : can ↔ fault? = none)
    {saved : Database} {deferred : Bool} (busy : s.status = .busy saved deferred) (now : s.now = .universal time)
    (books : s.content.schema = b.tables) : op.joined.AllOrNothing s b₁ can answer fault? := by
  refine allOrNothing_of can_iff (fun none => ?_) fun e told => ?_
  · obtain ⟨checked, yields⟩ := settles.yields none
    obtain ⟨journal, ran⟩ := yields saved deferred s busy now books
    exact within_of_answered tells checked ran
  · rcases settles.declines e told with refused | ⟨checked, declines⟩
    · exact within_of_refused refused _ s
    · exact within_of_failed checked (declines saved deferred s busy books)

theorem Settles.alone (settles : op.Settles time b answer b₁ fault?) (tells : op.OnlyTells) (can_iff : can ↔ fault? = none)
    (rests : s.Rests time) (books : s.content.schema = b.tables) : op.alone.AllOrNothing s b₁ can answer fault? := by
  have opened : ({ s with status := .busy s.content false } : Store Database).status = .busy s.content false := rfl
  refine allOrNothing_of can_iff (fun none => ?_) fun e told => ?_
  · obtain ⟨checked, yields⟩ := settles.yields none
    obtain ⟨journal, ran⟩ := yields s.content false _ opened rests.now books
    have committed : Work.inUnit op.body s = (.ok answer, { s with content := { s.content with schema := b₁.tables }, journal }) := by
      rw [Work.inUnit_of_answered rests.idle ran ⟨rfl, rests.now⟩, ← rests.idle]
    exact within_of_answered tells checked committed
  · rcases settles.declines e told with refused | ⟨checked, declines⟩
    · exact within_of_refused refused _ s
    · have undone : Work.inUnit op.body s = (.error (.ledger e), s) := by
        rw [Work.inUnit_of_failed rests.idle (declines s.content false _ opened books) ⟨rfl, rests.now⟩, ← rests.idle]
      exact within_of_failed checked undone

end Operation

namespace Books

/-- What a credit needs. The account need not exist. -/
structure CanCredit (b : Books) (id amount : Int) : Prop where
  low : 0 ≤ amount
  high : amount ≤ maxInteger
  named : fitsInteger id = true
  room : b.Has id → b.balanceOf id + amount ≤ maxInteger

def depositFault? (b : Books) (id amount : Int) : Option LedgerError :=
  if amount < 0 then some (.invalidAmount amount "Credit amount must not be negative")
  else if maxInteger < amount then some (.invalidAmount amount s!"Amount must not exceed {maxInteger}")
  else if fitsInteger id = false then some (.oversized "get account by id")
  else if b.Has id ∧ maxInteger < b.balanceOf id + amount then some (.balanceOverflow id amount)
  else none

/-- One account has been opened with the amount or holds so much more, one entry has been added, and that is all. -/
structure Deposited (b b₁ : Books) (id amount : Int) (time : Instant) : Prop where
  raised : b.Has id → b₁.accounts = b.accounts.map fun account =>
    if account.id = id then { account with balance := account.balance + amount } else account
  opened : ¬ b.Has id → b₁.accounts = Rows.insert Account.id ⟨id, amount⟩ b.accounts
  orders : b₁.orders = b.orders
  log : b₁.log = { b.log with
    entries := b.entries ++ [⟨(b.log.lastId + 1 : Nat), .enrollment, id, id, .int amount, creditText id amount, time⟩]
    lastId := b.log.lastId + 1 }

variable {b : Books} {id amount : Int}

theorem canCredit_iff : b.CanCredit id amount ↔ b.depositFault? id amount = none := by
  unfold depositFault?
  rw [refuse_eq_none, refuse_eq_none, refuse_eq_none, refuse_eq_none, Bool.not_eq_false, not_and, Int.not_lt, Int.not_lt, Int.not_lt]
  constructor
  · rintro ⟨low, high, named, room⟩
    exact ⟨low, high, named, room, rfl⟩
  · rintro ⟨low, high, named, room, -⟩
    exact ⟨low, high, named, room⟩

theorem depositFault?_kind {e : LedgerError} (told : b.depositFault? id amount = some e) :
    e.kind = .invalidAmount ∨ e.kind = .storage ∨ e.kind = .balanceOverflow := by
  unfold depositFault? at told
  rw [refuse_eq_some, refuse_eq_some, refuse_eq_some, refuse_eq_some] at told
  rcases told with ⟨-, rfl⟩ | ⟨-, ⟨-, rfl⟩ | ⟨-, ⟨-, rfl⟩ | ⟨-, ⟨-, rfl⟩ | ⟨-, never⟩⟩⟩⟩
  · exact .inl rfl
  · exact .inl rfl
  · exact .inr (.inl rfl)
  · exact .inr (.inr rfl)
  · cases never

theorem deposited_credited (time : Instant) : b.Deposited (b.credited id amount time) id amount time := by
  have whole : b.opened id = { b with accounts := (b.opened id).accounts } := by
    unfold Books.opened
    split <;> rfl
  refine ⟨fun there => ?_, fun absent => ?_, ?_, ?_⟩
  · change Rows.update Account.id id _ (b.opened id).accounts = _
    rw [opened_of_has there]
    rfl
  · change Rows.update Account.id id _ (b.opened id).accounts = _
    rw [opened_of_not_has absent]
    have new : ∀ row ∈ b.accounts, row.id ≠ id := fun row among same => absent ⟨row, among, same⟩
    have inserted : Rows.update Account.id (Account.id ⟨id, 0⟩) (fun account => { account with balance := account.balance + amount })
        (Rows.insert Account.id ⟨id, 0⟩ b.accounts) = Rows.insert Account.id ⟨id, 0 + amount⟩ b.accounts :=
      Rows.update_insert new rfl
    rw [Int.zero_add] at inserted
    exact inserted
  · unfold credited
    rw [whole]
    rfl
  · unfold credited
    rw [whole]
    rfl

end Books

section
variable {b : Books} {time : Instant} {id amount sender receiver : Int}

theorem History.append_yields (kind : EntryKind) (time : Instant) {description : String} (plain : Text.Plain description)
    (fits : fitsInteger sender = true ∧ fitsInteger receiver = true) (from_ : b.Has sender) (to_ : b.Has receiver) (low : 0 ≤ amount)
    (high : amount ≤ maxInteger) : ∃ entry, (History.append kind sender receiver amount (some description)).Yields time b entry
      (b.posted kind sender receiver amount description time) := by
  obtain ⟨entry, appends⟩ := LogRows.append_eq kind time plain fits from_ to_ low high
  refine ⟨entry, .bind .instant ?_⟩
  refine (Act.Yields.recast _ (.ask _ appends)).bind ?_
  exact (Act.Yields.record _ _ _ _).bind (.pure entry)

theorem Accounts.adjust_yields (operation : String) (time : Instant) (ascending : Rows.Ascending Account.id b.accounts) {delta : Int}
    (fits : fitsInteger amount = true ∧ fitsInteger id = true) (there : b.Has id) (low : 0 ≤ b.balanceOf id + delta)
    (high : b.balanceOf id + delta ≤ maxInteger) :
    (Accounts.adjust operation id amount delta).Yields time b (b.balanceOf id + delta) (b.shifted id delta) := by
  refine (Act.Yields.recast _ (.ask (a := some (b.balanceOf id + delta)) _ fun deferred => ?_)).bind (.pure _)
  rw [AccountRows.adjust_tables ascending, if_pos fits, if_pos there, if_neg (Int.not_lt.mpr low), if_neg (Int.not_lt.mpr high)]

theorem Accounts.adjust_declines (operation : String) (ascending : Rows.Ascending Account.id b.accounts) {delta : Int}
    (fits : fitsInteger amount = true ∧ fitsInteger id = true) (there : b.Has id) (low : 0 ≤ b.balanceOf id + delta)
    (full : maxInteger < b.balanceOf id + delta) :
    (Accounts.adjust operation id amount delta).Declines b (.balanceOverflow id amount) := by
  refine .bind (.recast_ask (r := .violated (.check "accounts_balance_integer")) (fun deferred => ?_) rfl)
  rw [AccountRows.adjust_tables ascending, if_pos fits, if_pos there, if_neg (Int.not_lt.mpr low), if_pos full]

theorem Accounts.open_declines (oversized : ¬ fitsInteger id = true) :
    (Accounts.open? id).Declines b (.oversized "get account by id") := by
  intro saved deferred s busy books
  rcases Accounts.open_cases busy books with ⟨-, ran⟩ | ⟨fits, -⟩ | ⟨fits, -⟩
  · exact ran
  · exact absurd fits oversized
  · exact absurd fits oversized

theorem Accounts.open_of_has {saved : Database} {deferred : Bool} {s : Store Database} (fits : fitsInteger id = true) (there : b.Has id)
    (busy : s.status = .busy saved deferred) (books : s.content.schema = b.tables) : Accounts.open? id s = (.ok (), s) := by
  rcases Accounts.open_cases busy books with ⟨oversized, -⟩ | ⟨-, -, ran⟩ | ⟨-, absent, -⟩
  · exact absurd fits oversized
  · exact ran
  · exact absurd there absent

theorem Accounts.open_yields (fits : fitsInteger id = true) : (Accounts.open? id).Yields time b () (b.opened id) := by
  intro saved deferred s busy now books
  by_cases there : b.Has id
  · rw [opened_of_has there, open_of_has fits there busy books]
    exact Act.Yields.pure () saved deferred s busy now books
  · have inserts (deferred : Bool) := (AccountRows.insert_tables there deferred).trans (if_pos fits)
    have created : (Accounts.create id).Yields time b ⟨id, 0⟩ (b.opened id) := .recast _ (.ask _ inserts)
    rcases Accounts.open_cases busy books with ⟨oversized, -⟩ | ⟨-, there', -⟩ | ⟨-, -, ran⟩
    · exact absurd fits oversized
    · exact absurd there' there
    · rw [ran]
      exact created.bind (.record _ _ _ _) saved deferred s busy now books

theorem Accounts.credit_settles (banked : b.Banked) :
    (Accounts.credit id amount).Settles time b (b.balanceOf id + amount) (b.credited id amount time) (b.depositFault? id amount) where
  yields none := by
    obtain ⟨low, high, fits, room⟩ := canCredit_iff.mpr none
    have bound := fitsInteger_of_nonneg low high
    have there : (b.opened id).Has id := has_opened.mpr (.inl rfl)
    have there' : ((b.opened id).shifted id amount).Has id := has_shifted.mpr there
    have held := Books.balanceOf_inRange banked.inRange id
    have funded : 0 ≤ (b.opened id).balanceOf id + amount := by
      rw [balanceOf_opened]
      omega
    -- An account that has just been opened has room for every amount that passes the check.
    have bounded : (b.opened id).balanceOf id + amount ≤ maxInteger := by
      rw [balanceOf_opened]
      by_cases has : b.Has id
      · exact room has
      · rw [balanceOf_of_not_has has]
        omega
    have ascending := opened_ascending id banked.accounts
    refine ⟨checkCredit_eq_ok.mpr ⟨low, high⟩, (open_yields fits).bind ?_⟩
    have adjusts := adjust_yields "add balance" time ascending ⟨bound, fits⟩ there funded bounded
    rw [balanceOf_opened] at adjusts
    refine adjusts.bind ?_
    obtain ⟨entry, appends⟩ :=
      History.append_yields .enrollment time (creditText_plain id amount) ⟨fits, fits⟩ there' there' low high
    exact appends.bind (.pure _)
  declines e told := by
    unfold depositFault? at told
    rw [refuse_eq_some, refuse_eq_some, refuse_eq_some, refuse_eq_some] at told
    rcases told with ⟨negative, rfl⟩ |
      ⟨low, ⟨large, rfl⟩ | ⟨high, ⟨oversized, rfl⟩ | ⟨fits, ⟨⟨there, full⟩, rfl⟩ | ⟨-, never⟩⟩⟩⟩
    · exact .inl (if_pos negative)
    · refine .inl ((if_neg low).trans ?_)
      exact if_pos large
    · refine .inr ⟨checkCredit_eq_ok.mpr ⟨by omega, by omega⟩, .bind (open_declines (by simp [oversized]))⟩
    · -- The account is full, so it was there before, and nothing is written until its balance is refused.
      refine .inr ⟨checkCredit_eq_ok.mpr ⟨by omega, by omega⟩, fun saved deferred s busy books => ?_⟩
      have fits : fitsInteger id = true := by simpa using fits
      have held := Books.balanceOf_inRange banked.inRange id
      have bound := fitsInteger_of_nonneg (by omega) (by omega : amount ≤ maxInteger)
      have declines := adjust_declines "add balance" banked.accounts ⟨bound, fits⟩ there (by omega) full
      refine (Act.bind_of_ok (open_of_has fits there busy books)).trans ?_
      exact declines.bind saved deferred s busy books
    · cases never

def Accounts.CreditsExactly (act : LedgerWork Int) (s : Store Database) (time : Instant) (id amount : Int) : Prop :=
  ∃ b b₁ : Books, s.content.schema = b.tables ∧ (b.CanCredit id amount → b.Deposited b₁ id amount time) ∧
    (∀ e, b.depositFault? id amount = some e → e.kind = .invalidAmount ∨ e.kind = .storage ∨ e.kind = .balanceOverflow) ∧
    act.AllOrNothing s b₁ (b.CanCredit id amount) (b.balanceOf id + amount) (b.depositFault? id amount)

variable {s : Store Database}

theorem Accounts.credit_joined_exactly (banked : b.Banked) {saved : Database} {deferred : Bool} (busy : s.status = .busy saved deferred)
    (now : s.now = .universal time) (books : s.content.schema = b.tables) (id amount : Int) :
    CreditsExactly (credit id amount).joined s time id amount :=
  ⟨b, b.credited id amount time, books, fun _ => deposited_credited time, fun _ => depositFault?_kind,
    (credit_settles banked).joined (fun _ _ => ⟨_, rfl⟩) canCredit_iff busy now books⟩

theorem Accounts.credit_alone_exactly (banked : b.Banked) (rests : s.Rests time) (books : s.content.schema = b.tables) (id amount : Int) :
    CreditsExactly (credit id amount).alone s time id amount :=
  ⟨b, b.credited id amount time, books, fun _ => deposited_credited time, fun _ => depositFault?_kind,
    (credit_settles banked).alone (fun _ _ => ⟨_, rfl⟩) canCredit_iff rests books⟩

theorem Accounts.CreditsExactly.unchanged {act : LedgerWork Int} (credits : CreditsExactly act s time id amount) {e : Failure}
    (failed : (act s).1 = .error e) : act s = (.error e, s) := by
  obtain ⟨b, b₁, -, -, -, exactly⟩ := credits
  have cannot : ¬ b.CanCredit id amount := by
    intro can
    obtain ⟨journal, ran⟩ := exactly.answered can
    rw [ran] at failed
    cases failed
  obtain ⟨told, -, ran⟩ := exactly.failed cannot
  rw [ran] at failed ⊢
  cases failed
  rfl

end

namespace Host
variable {τ : Type} [Add τ] [Sub τ] [LT τ] [DecidableLT τ] [Reach τ]

theorem run_call_of_error {call : Call} {h : Host τ} {e : Failure}
    (failed : call.run true h.system.store = (.error e, h.system.store)) : run true (.call call) h = (.error e, h) := by
  have held : (Act.onStore (call.run true) : HostAct τ Answer) h = (.error e, h) := by
    change ((call.run true h.system.store).1, { h with system.store := (call.run true h.system.store).2 }) = _
    rw [failed]
  exact Act.bind_of_error held

/-- Wherever ordinary errands have brought a store, a credit on its own either can be made and is made as a whole, or tells the first
fault and changes nothing; so does a credit that joins a session, wherever its unit has come to. If it fails there and its caller
goes on, the unit leaves just what it would have left without it. -/
theorem runAll_credits (h : Host τ) (b₀ : Books) (idle : h.system.store.status = .idle)
    (books : h.system.store.content.schema = b₀.tables) (guarded : b₀.log.Guarded) (banked : b₀.Banked)
    (before : List (Plan (Errand τ))) (ordinary : Plan.AllOf (Errand.Ordinary Direct.CountsAccounts) before) (id amount : Int) :
    (∀ time, (runAll before h).system.store.now = .universal time →
      Accounts.CreditsExactly (Accounts.credit id amount).alone (runAll before h).system.store time id amount) ∧
    ∀ parts, Plan.AllOf (Errand.Ordinary Direct.CountsAccounts) parts →
      ∃ outcomes failure t, Plan.carryOutAll run parts (Plan.opened (runAll before h)) = (.ok ⟨outcomes, failure⟩, t) ∧
        ∀ time, t.system.store.now = .universal time →
          Accounts.CreditsExactly (Accounts.credit id amount).joined t.system.store time id amount ∧
          ∀ rest, Plan.AllOf (Errand.Ordinary Direct.CountsAccounts) rest → failure = none →
            (∃ e, ((Accounts.credit id amount).joined t.system.store).1 = .error e) → ∀ isDetached isCaught,
              (Plan.carryOut run false (.unit (parts ++ .call (.call (.credit id amount)) false true :: rest) isDetached isCaught)
                (runAll before h)).2 =
              (Plan.carryOut run false (.unit (parts ++ rest) isDetached isCaught) (runAll before h)).2 := by
  obtain ⟨idle₁, holds⟩ := runAll_keeps Law.banked ordinary idle ⟨b₀, books, guarded, banked⟩
  refine ⟨fun time now => ?_, fun parts among => ?_⟩
  · obtain ⟨b, books₁, -, banked₁⟩ := holds
    exact Accounts.credit_alone_exactly banked₁ ⟨idle₁, now⟩ books₁ id amount
  · obtain ⟨outcomes, failure, t, deferred, ran, busy, b, books₁, -, banked₁⟩ := parts_keep Law.banked among holds
    refine ⟨outcomes, failure, t, ran, fun time now => ?_⟩
    have credits := Accounts.credit_joined_exactly banked₁ busy now books₁ id amount
    refine ⟨credits, ?_⟩
    rintro rest amongRest rfl ⟨e, failed⟩ isDetached isCaught
    have called : run true (.call (.credit id amount)) t = (.error e, t) :=
      run_call_of_error (Act.bind_of_error (credits.unchanged failed))
    exact Plan.unit_without keepsOrdinary amongRest idle₁ ran (.of_busy busy) called isDetached isCaught

/-- A full account takes no more, and a unit that has paid something else in goes on without it. -/
theorem runAll_credits_full :
    let _ : Reach Int := .everywhere Int
    let b₀ : Books := { Books.fresh with accounts := [⟨1, 10⟩, ⟨2, maxInteger⟩] }
    let host : Host Int := .holding b₀ .default
    let before : List (Plan (Errand Int)) := [.call (.call (.credit 1 30)) false false]
    let parts : List (Plan (Errand Int)) := [.call (.call (.credit 3 5)) false false]
    let rest : List (Plan (Errand Int)) := [.call (.call (.balance 3)) false false]
    (host.system.store.status = .idle ∧ host.system.store.content.schema = b₀.tables ∧ b₀.log.Guarded ∧ b₀.Banked ∧
      Plan.AllOf (Errand.Ordinary Direct.CountsAccounts) before ∧ (runAll before host).system.store.now = .universal .default ∧
      Plan.AllOf (Errand.Ordinary Direct.CountsAccounts) parts ∧ Plan.AllOf (Errand.Ordinary Direct.CountsAccounts) rest) ∧
      Accounts.CreditsExactly (Accounts.credit 2 1).alone (runAll before host).system.store .default 2 1 ∧
      (Plan.carryOut run false (.unit (parts ++ .call (.call (.credit 2 1)) false true :: rest) false false) (runAll before host)).2 =
        (Plan.carryOut run false (.unit (parts ++ rest) false false) (runAll before host)).2 := by
  intro _ b₀ host before parts rest
  have banked : b₀.Banked := Books.banked_of_rows (by unfold Rows.Ascending; decide) (by decide)
  have now : (runAll before host).system.store.now = .universal .default := rfl
  have among : Plan.AllOf (Errand.Ordinary Direct.CountsAccounts) parts := ⟨trivial, trivial⟩
  have amongRest : Plan.AllOf (Errand.Ordinary Direct.CountsAccounts) rest := ⟨trivial, trivial⟩
  obtain ⟨alone, joined⟩ := runAll_credits host b₀ rfl rfl ⟨rfl, rfl⟩ banked before ⟨trivial, trivial⟩ 2 1
  obtain ⟨outcomes, failure, t, ran, credits⟩ := joined parts among
  cases ran
  obtain ⟨-, without⟩ := credits .default rfl
  exact ⟨⟨rfl, rfl, ⟨rfl, rfl⟩, banked, ⟨trivial, trivial⟩, now, among, amongRest⟩, alone .default now,
    without rest amongRest rfl ⟨_, rfl⟩ false false⟩

end Host
end Passbook
