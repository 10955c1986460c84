import Passbook.Proofs.Outcomes
import Passbook.Proofs.WellFormed

/-! What an operation needs of the accounts, and which error it ends with otherwise. The first of its steps that cannot be taken
tells the error; while all of them can be taken the books change as a whole, and nothing else of the content does. -/
namespace Passbook
open Books Time

/-- Statements that open an account under a given integer and with an integer for its balance. -/
def Direct.CountsAccounts : Direct → Prop
  | .insertAccount id balance => id.IsWhole ∧ balance.IsWhole
  | _ => True

namespace Books

section
variable {b b' : Books} {id amount : Int}

theorem banked_of_rows (ascending : Rows.Ascending Account.id b.accounts)
    (each : ∀ account ∈ b.accounts, fitsInteger account.id = true ∧ 0 ≤ account.balance ∧ account.balance ≤ maxInteger) :
    b.Banked := by
  refine ⟨ascending, ?_, fun account among => (each account among).2⟩
  rintro _ ⟨account, among, rfl⟩
  exact (each account among).1

theorem Writes.banked {free : Direct → Prop} {now : Reading} {deferred : Bool} (writes : b.Writes free now deferred b')
    (counts : ∀ statement, free statement → statement.CountsAccounts) (banked : b.Banked) : b'.Banked := by
  obtain ⟨accounts, inRange⟩ := writes.accounts (fun _ _ allowed => (counts _ allowed).2) banked.accounts banked.inRange
  refine ⟨accounts, ?_, inRange⟩
  cases writes with
  | enlisted account new low origin named =>
    rintro id ⟨row, among, rfl⟩
    rcases Rows.mem_insert.mp among with rfl | among
    · rcases named with fits | ⟨_, _, allowed, stores | stores⟩
      · exact fits
      · obtain ⟨n, same, fits⟩ := (counts _ allowed).1.stores stores
        cases same
        exact fits
      · obtain ⟨n, never, _⟩ := (counts _ allowed).1.stores stores
        cases never
    · exact banked.known _ ⟨row, among, rfl⟩
  | adjusted id delta found low high =>
    rintro _ ⟨row, later, rfl⟩
    obtain ⟨old, among, rfl⟩ := Rows.mem_update.mp later
    split <;> exact banked.known _ ⟨old, among, rfl⟩
  | _ => exact banked.known

end

end Books

theorem Law.banked : Law (Given Direct.CountsAccounts) (fun _ _ c => ∃ b : Books, c.schema = b.tables ∧ b.log.Guarded ∧ b.Banked)
    (fun _ _ => True) where
  nothing _ := trivial
  more _ _ := trivial
  statement given answered := by
    rintro ⟨b, books, guarded, banked⟩
    obtain ⟨b', books', rfl | writes⟩ := given.writes guarded books answered
    · exact ⟨⟨b', books', guarded, banked⟩, trivial⟩
    · exact ⟨⟨b', books', writes.guarded guarded, writes.banked (fun _ counts => counts) banked⟩, trivial⟩
  deferring holds := holds
  commit holds _ := holds

def Host.holding (b : Books) (time : Instant) : Host Int :=
  { Host.fresh time with system := ⟨{}, ⟨⟨b.tables, [], .kept⟩, .idle, .universal time, []⟩, (Host.fresh time).system.shelf⟩ }

/-- No run of ordinary errands brings the accounts out of order. -/
theorem Host.runAll_banked {τ : Type} [Add τ] [Sub τ] [LT τ] [DecidableLT τ] [Reach τ] {h : Host τ} {b : Books}
    (idle : h.system.store.status = .idle) (books : h.system.store.content.schema = b.tables) (guarded : b.log.Guarded)
    (banked : b.Banked) {before : List (Plan (Errand τ))} (ordinary : Plan.AllOf (Errand.Ordinary Direct.CountsAccounts) before) :
    (runAll before h).system.store.status = .idle ∧
      ∃ b₁ : Books, (runAll before h).system.store.content.schema = b₁.tables ∧ b₁.log.Guarded ∧ b₁.Banked :=
  runAll_keeps Law.banked ordinary idle ⟨b, books, guarded, banked⟩

theorem Statement.onSchema_eq_ok {δ α : Type} {statement : Statement δ α} {deferred : Bool} {c c' : Catalog δ} {a : α}
    (answered : statement.onSchema deferred c = .ok (a, c')) : c' = { c with schema := c'.schema } := by
  unfold Statement.onSchema at answered
  simp only [bind_eq_ok, return_eq] at answered
  obtain ⟨_, _, ⟨⟩⟩ := answered
  rfl

theorem Law.schemaOnly {free : Direct → Prop} :
    Law (Given free) (fun _ _ _ => True) (fun c c' => c' = { c with schema := c'.schema }) where
  nothing _ := rfl
  more first second := by rw [second, first]
  statement given answered _ := by
    refine ⟨trivial, ?_⟩
    rcases given with put | reads
    · cases put <;> exact Statement.onSchema_eq_ok answered
    · rw [reads _ _ _ _ answered]
  deferring _ := trivial
  commit _ _ := trivial

namespace Operation
variable {α : Type} {op : Operation α} {time : Instant} {b b₁ : Books} {can : Prop} {answer : α} {fault? : Option LedgerError}
  {s : Store Database}

theorem alone_schemaOnly (tells : op.OnlyTells) (puts : ∀ now, op.body.Puts (fun _ => True) now) (idle : s.status = .idle) :
    (op.alone s).2.content = { s.content with schema := (op.alone s).2.content.schema } := by
  have spans : Spans (fun _ => True) (Store.Performs (Given (fun _ => True) s.now) s.now) := .performs s.now
  have report (a : α) : (op.report a).Leads (Store.Performs (Given (fun _ => True) s.now) s.now) := by
    intro t
    obtain ⟨journal, told⟩ := tells a t
    change Store.Performs _ _ t (op.report a t).2
    rw [told]
    exact spans.tells t journal
  have performs := op.within_leads report (spans.unit_puts puts) s
  obtain ⟨-, -, commits⟩ := performs rfl
  exact (Law.schemaOnly.commits (commits idle).2 trivial).2

/-- On its own the operation answers if and only if it can, and then leaves these books; if not, it fails with the fault and changes
nothing. -/
structure Exactly (op : Operation α) (time : Instant) (s : Store Database) (b₁ : Books) (can : Prop) (answer : α)
    (fault? : Option LedgerError) : Prop where
  answers_iff : (∃ a, (op.alone s).1 = .ok a) ↔ can
  answered : can → (op.alone s).1 = .ok answer ∧ (op.alone s).2.content = { s.content with schema := b₁.tables }
  failed : ¬ can → (∃ e, fault? = some e ∧ (op.alone s).1 = .error (.ledger e)) ∧ (op.alone s).2.content = s.content
  rests : (op.alone s).2.Rests time

theorem EndsAlone.exactly (ends : op.EndsAlone time b (fault?.elim (.ok answer) .error) b₁) (can_iff : can ↔ fault? = none)
    (tells : op.OnlyTells) (puts : ∀ now, op.body.Puts (fun _ => True) now) (rests : s.Rests time)
    (books : s.content.schema = b.tables) : op.Exactly time s b₁ can answer fault? := by
  have kept := alone_schemaOnly tells puts rests.idle
  obtain ⟨t, ran, rests', turned, undone⟩ := ends s rests books
  rw [ran] at kept
  cases fault? with
  | none =>
    refine ⟨?_, fun _ => ?_, fun never => absurd (can_iff.mpr rfl) never, ?_⟩ <;> rw [ran]
    · exact ⟨fun _ => can_iff.mpr rfl, fun _ => ⟨answer, rfl⟩⟩
    · exact ⟨rfl, kept.trans (by rw [turned answer rfl])⟩
    · exact rests'
  | some e =>
    have cannot : ¬ can := fun held => nomatch can_iff.mp held
    refine ⟨?_, fun held => absurd held cannot, fun _ => ?_, ?_⟩ <;> rw [ran]
    · exact ⟨nofun, fun held => absurd held cannot⟩
    · exact ⟨⟨e, rfl, rfl⟩, undone e rfl⟩
    · exact rests'

end Operation

section
variable {ε : Type} {condition : Prop} [Decidable condition] {e e' : ε} {rest : Option ε}

theorem refuse_eq_none : (if condition then some e else rest) = none ↔ ¬ condition ∧ rest = none := by
  split <;> simp [*]

theorem refuse_eq_some : (if condition then some e else rest) = some e' ↔ condition ∧ e = e' ∨ ¬ condition ∧ rest = some e' := by
  split <;> simp [*]

end

namespace Books
variable {b : Books} {id amount : Int}

def amountFault? (what : String) (amount : Int) : Option LedgerError :=
  if amount < 1 then some (.invalidAmount amount (what ++ " must be positive"))
  else if maxInteger < amount then some (.invalidAmount amount s!"Amount must not exceed {maxInteger}")
  else none

def debitFault? (b : Books) (id amount : Int) : Option LedgerError :=
  if fitsInteger id = false then some (.oversized "subtract balance")
  else if ¬ b.Has id then some (.accountNotFound id)
  else if b.balanceOf id < amount then some (.insufficientFunds id amount)
  else none

def creditFault? (b : Books) (id amount : Int) : Option LedgerError :=
  if fitsInteger id = false then some (.oversized "add balance")
  else if ¬ b.Has id then some (.accountNotFound id)
  else if maxInteger < b.balanceOf id + amount then some (.balanceOverflow id amount)
  else none

theorem checkPositive_eq (what : String) : checkPositive what amount = (amountFault? what amount).elim (.ok ()) .error := by
  unfold checkPositive checkRange amountFault?
  by_cases low : amount ≤ 0
  · have under : amount < 1 := by omega
    rw [if_pos low, if_pos under]
    rfl
  · have under : ¬ amount < 1 := by omega
    rw [if_neg low, if_neg under]
    by_cases high : maxInteger < amount
    · rw [if_pos high, if_pos high]
      rfl
    · rw [if_neg high, if_neg high]
      rfl

theorem amountFault?_eq_none {what : String} : amountFault? what amount = none ↔ 1 ≤ amount ∧ amount ≤ maxInteger := by
  unfold amountFault?
  simp [refuse_eq_none]

namespace Banked
variable (banked : b.Banked)
include banked

theorem debit_eq (low : 1 ≤ amount) (high : amount ≤ maxInteger) :
    Outcome.adjust b "subtract balance" id amount (-amount) = (b.debitFault? id amount).elim (.ok (b.balanceOf id - amount)) .error := by
  have bound := fitsInteger_of_nonneg (by omega) high
  have held := Books.balanceOf_inRange banked.inRange id
  have roomy : ¬ maxInteger < b.balanceOf id + -amount := by omega
  unfold Outcome.adjust debitFault?
  by_cases fits : fitsInteger id = true
  · by_cases there : b.Has id
    · by_cases short : b.balanceOf id < amount
      · have below : b.balanceOf id + -amount < 0 := by omega
        simp [bound, fits, there, short, below]
      · have enough : ¬ b.balanceOf id + -amount < 0 := by omega
        simp [bound, fits, there, short, enough, roomy, Int.sub_eq_add_neg]
    · simp [bound, fits, there]
  · simp [fits]

theorem credit_eq (low : 1 ≤ amount) (high : amount ≤ maxInteger) :
    Outcome.adjust b "add balance" id amount amount = (b.creditFault? id amount).elim (.ok (b.balanceOf id + amount)) .error := by
  have bound := fitsInteger_of_nonneg (by omega) high
  have held := Books.balanceOf_inRange banked.inRange id
  have enough : ¬ b.balanceOf id + amount < 0 := by omega
  unfold Outcome.adjust creditFault?
  by_cases fits : fitsInteger id = true
  · by_cases there : b.Has id
    · by_cases full : maxInteger < b.balanceOf id + amount <;> simp [bound, fits, there, enough, full]
    · simp [bound, fits, there]
  · simp [fits]

theorem debitFault?_eq_none : b.debitFault? id amount = none ↔ b.Has id ∧ amount ≤ b.balanceOf id := by
  unfold debitFault?
  by_cases there : b.Has id
  · simp [there, banked.known id there]
  · simp only [there, not_false_eq_true, if_true, false_and, iff_false]
    split <;> nofun

theorem creditFault?_eq_none : b.creditFault? id amount = none ↔ b.Has id ∧ b.balanceOf id + amount ≤ maxInteger := by
  unfold creditFault?
  by_cases there : b.Has id
  · simp [there, banked.known id there]
  · simp only [there, not_false_eq_true, if_true, false_and, iff_false]
    split <;> nofun

end Banked

end Books

theorem elim_bind {ε α β : Type} {first rest : Option ε} {a : α} {c : β} {next : α → Except ε β}
    (goesOn : first = none → next a = rest.elim (.ok c) .error) :
    (first.elim (.ok a) .error >>= next) = (first.or rest).elim (.ok c) .error := by
  cases first with
  | none => exact goesOn rfl
  | some e => rfl

theorem elim_bind_pure {ε α β : Type} {first : Option ε} {a : α} (f : α → β) :
    (first.elim (.ok a) .error >>= fun x => pure (f x) : Except ε β) = first.elim (.ok (f a)) .error := by
  cases first <;> rfl

end Passbook
