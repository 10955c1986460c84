import Passbook.Proofs.Books
import Passbook.Proofs.Sessions

/-! What work makes of the books while a session is open. It is told exactly: the condition under which it answers, what it answers,
and the books it leaves. Sequences put their conditions together. Work that has opened a session of its own and fails leaves the
books it found. -/
namespace Passbook
open Time

def Time.Reading.universal (time : Instant) : Reading := ⟨time, some .utc⟩

theorem Time.Reading.instant_universal (time : Instant) : (Reading.universal time).instant = .ok time := by
  have same : Instant.ofMicros? ((time.micros : Int) - Offset.utc.micros) = some time := by
    have micros : (time.micros : Int) - Offset.utc.micros = time.micros := Int.sub_zero _
    have inside : 0 ≤ (time.micros : Int) ∧ (time.micros : Int).toNat < span :=
      ⟨Int.natCast_nonneg _, by rw [Int.toNat_natCast]; exact time.inSpan⟩
    rw [micros]
    unfold Instant.ofMicros?
    rw [dif_pos inside]
    rfl
  unfold Reading.instant Reading.universal
  simp only [same]

theorem Work.instant_of_universal {δ : Type} {time : Instant} {s : Store δ} (here : s.now = .universal time) :
    (Work.instant : Work δ Instant) s = (.ok time, s) := by
  rw [Work.instant_eq here, Reading.instant_universal]
  rfl

/-- A session is open in which references are checked at once. -/
structure Store.InUse (saved : Database) (time : Instant) (s : Store Database) : Prop where
  busy : s.status = .busy saved false
  now : s.now = .universal time

/-- What a statement makes of the books while references are checked at once. -/
def Statement.Turns {α : Type} (query : AccountRows.Query α) (b : Books) (condition : Prop) (answers : α → Prop) (b₁ : Books) :
    Prop :=
  match query false b.tables with
  | .ok (a, t) => condition ∧ answers a ∧ t = b₁.tables
  | .error _ => ¬ condition

theorem LedgerWork.ask_of_busy {α : Type} {saved : Database} {deferred : Bool} {s : Store Database}
    (busy : s.status = .busy saved deferred) (operation : String) (query : AccountRows.Query α) :
    LedgerWork.ask operation query s = match query deferred s.content.schema with
      | .ok (a, tables) => (.ok a, { s with content := { s.content with schema := tables } })
      | .error r => (.error (.ofStore (r.raise operation)), s) := by
  unfold LedgerWork.ask Work.execute Statement.onSchema
  simp only [busy]
  cases query deferred s.content.schema <;> rfl

theorem LedgerWork.ask_eq {α : Type} (operation : String) (query : AccountRows.Query α) {b : Books} {saved : Database}
    {deferred : Bool} {s : Store Database} (busy : s.status = .busy saved deferred) (books : s.content.schema = b.tables) :
    LedgerWork.ask operation query s = match query deferred b.tables with
      | .ok (a, tables) => (.ok a, { s with content := { s.content with schema := tables } })
      | .error r => (.error (.ofStore (r.raise operation)), s) := by
  rw [LedgerWork.ask_of_busy busy, books]

namespace Act
variable {α β : Type} {time : Instant} {b b₁ b₂ : Books} {condition condition' : Prop} {answers answers' : α → Prop}

/-- From the books `b` the work answers just if the condition holds. Then its answer is as told, and it leaves the books `b₁`. -/
def Turns (work : LedgerWork α) (time : Instant) (b : Books) (condition : Prop) (answers : α → Prop) (b₁ : Books) : Prop :=
  ∀ saved s, Store.InUse saved time s → s.content.schema = b.tables →
    match work s with
    | (.ok a, t) => condition ∧ answers a ∧ Store.InUse saved time t ∧ t.content.schema = b₁.tables
    | (.error _, t) => ¬ condition ∧ Store.InUse saved time t

theorem Turns.pure (a : α) : (Pure.pure a : LedgerWork α).Turns time b True (· = a) b :=
  fun _ _ here books => ⟨trivial, rfl, here, books⟩

theorem Turns.bind {first : LedgerWork α} {next : α → LedgerWork β} {answers'' : β → Prop}
    (begins : first.Turns time b condition answers b₁)
    (goesOn : ∀ a, condition → answers a → (next a).Turns time b₁ condition' answers'' b₂) :
    (first >>= next).Turns time b (condition ∧ condition') answers'' b₂ := by
  intro saved s here books
  have begun := begins saved s here books
  rcases ran : first s with ⟨e | a, t⟩
  · rw [ran] at begun
    obtain ⟨refused, still⟩ := begun
    rw [Act.bind_of_error ran]
    exact ⟨fun both => refused both.1, still⟩
  · rw [ran] at begun
    obtain ⟨held, told, still, turned⟩ := begun
    rw [Act.bind_of_ok ran]
    have rest := goesOn a held told saved t still turned
    split
    · rename_i c u ended
      rw [ended] at rest
      exact ⟨⟨held, rest.1⟩, rest.2⟩
    · rename_i e u ended
      rw [ended] at rest
      exact ⟨fun both => rest.1 both.2, rest.2⟩

theorem Turns.restated {work : LedgerWork α} (turns : work.Turns time b condition answers b₁)
    (same : condition ↔ condition') (less : ∀ a, condition → answers a → answers' a) :
    work.Turns time b condition' answers' b₁ := by
  intro saved s here books
  have turned := turns saved s here books
  split
  · rename_i a t ran
    rw [ran] at turned
    exact ⟨same.mp turned.1, less a turned.1 turned.2.1, turned.2.2⟩
  · rename_i e t ran
    rw [ran] at turned
    exact ⟨fun held => turned.1 (same.mpr held), turned.2⟩

theorem Turns.of_not {work : LedgerWork α} (turns : work.Turns time b False answers b₁) :
    work.Turns time b False answers' b₂ := by
  intro saved s here books
  have turned := turns saved s here books
  split
  · rename_i a t ran
    rw [ran] at turned
    exact turned.1.elim
  · rename_i e t ran
    rw [ran] at turned
    exact turned

theorem Turns.recast {work : LedgerWork α} (change : Failure → Failure) (turns : work.Turns time b condition answers b₁) :
    (Act.recast change work).Turns time b condition answers b₁ := by
  intro saved s here books
  have turned := turns saved s here books
  unfold Act.recast
  rcases ran : work s with ⟨e | a, t⟩ <;> (rw [ran] at turned; exact turned)

theorem Turns.ofExcept (outcome : Except Failure α) :
    (Act.ofExcept outcome : LedgerWork α).Turns time b (∃ a, outcome = .ok a) (outcome = .ok ·) b := by
  intro saved s here books
  cases outcome with
  | ok a => exact ⟨⟨a, rfl⟩, rfl, here, books⟩
  | error e => exact ⟨(fun ⟨_, equal⟩ => nomatch equal), here⟩

theorem Turns.fail (error : LedgerError) : (LedgerWork.fail error : LedgerWork α).Turns time b False answers b₁ :=
  fun _ _ here _ => ⟨id, here⟩

theorem Turns.record (level : Journal.Level) (source message : String) (details : Journal.Details) :
    (Work.record level source message details : LedgerWork Unit).Turns time b True (fun _ => True) b :=
  fun _ _ here books => ⟨trivial, trivial, ⟨here.busy, here.now⟩, books⟩

theorem Turns.instant : (Work.instant : LedgerWork Instant).Turns time b True (· = time) b := by
  intro saved s here books
  rw [Work.instant_of_universal here.now]
  exact ⟨trivial, rfl, here, books⟩

theorem Turns.ask (operation : String) {query : AccountRows.Query α} (turns : query.Turns b condition answers b₁) :
    (LedgerWork.ask operation query).Turns time b condition answers b₁ := by
  intro saved s here books
  unfold Statement.Turns at turns
  rw [LedgerWork.ask_eq operation query here.busy books]
  cases answered : query false b.tables with
  | ok answer =>
    rw [answered] at turns
    exact ⟨turns.1, turns.2.1, ⟨here.busy, here.now⟩, turns.2.2⟩
  | error reason =>
    rw [answered] at turns
    exact ⟨turns, here⟩

theorem Turns.check {outcome : Except LedgerError Unit} (held : outcome = .ok () ↔ condition) :
    (LedgerWork.check outcome).Turns time b condition (fun _ => True) b := by
  refine (Turns.ofExcept _).restated ?_ fun _ _ _ => trivial
  rw [← held]
  cases outcome with
  | ok _ => exact ⟨fun _ => rfl, fun _ => ⟨(), rfl⟩⟩
  | error e => exact ⟨(fun ⟨_, equal⟩ => nomatch equal), (fun equal => nomatch equal)⟩

end Act

structure Store.Rests (time : Instant) (s : Store Database) : Prop where
  idle : s.status = .idle
  now : s.now = .universal time

namespace Work
variable {α : Type} {time : Instant} {work : LedgerWork α} {s t : Store Database}

theorem inUnit_of_answered {a : α} (idle : s.status = .idle) (worked : work { s with status := .busy s.content false } = (.ok a, t))
    (still : t.InUse s.content time) : inUnit work s = (.ok a, { t with status := .idle }) := by
  rw [inUnit_eq idle, worked]
  simp only [closeUnit, commit, still.busy, Bool.false_and, Bool.false_eq_true, if_false]

theorem inUnit_of_failed {e : Failure} (idle : s.status = .idle)
    (worked : work { s with status := .busy s.content false } = (.error e, t)) (still : t.InUse s.content time) :
    inUnit work s = (.error e, { t with content := s.content, status := .idle }) := by
  rw [inUnit_eq idle, worked]
  simp only [closeUnit, rollback, still.busy]

end Work

namespace Act
variable {α β : Type} {time : Instant} {b b₁ : Books} {condition : Prop} {answers : α → Prop}

/-- What work with a session of its own makes of the books. -/
def Settles (work : Act (Store Database) α) (time : Instant) (b : Books) (condition : Prop) (answers : α → Prop) (b₁ : Books) :
    Prop :=
  ∀ s, Store.Rests time s → s.content.schema = b.tables →
    match work s with
    | (.ok a, t) => condition ∧ answers a ∧ Store.Rests time t ∧ t.content.schema = b₁.tables
    | (.error _, t) => ¬ condition ∧ Store.Rests time t ∧ t.content.schema = b.tables

theorem Turns.answered {work : LedgerWork α} {saved : Database} {s : Store Database} (turns : work.Turns time b condition answers b₁)
    (held : condition) (here : Store.InUse saved time s) (books : s.content.schema = b.tables) :
    ∃ a t, work s = (.ok a, t) ∧ answers a ∧ Store.InUse saved time t ∧ t.content.schema = b₁.tables := by
  have turned := turns saved s here books
  rcases worked : work s with ⟨e | a, t⟩
  · rw [worked] at turned
    exact absurd held turned.1
  · rw [worked] at turned
    obtain ⟨_, told, still, books'⟩ := turned
    exact ⟨a, t, rfl, told, still, books'⟩

theorem Settles.answered {work : LedgerWork α} {s : Store Database} (settles : work.Settles time b condition answers b₁)
    (held : condition) (rests : Store.Rests time s) (books : s.content.schema = b.tables) :
    ∃ a t, work s = (.ok a, t) ∧ answers a ∧ Store.Rests time t ∧ t.content.schema = b₁.tables := by
  have settled := settles s rests books
  rcases worked : work s with ⟨e | a, t⟩
  · rw [worked] at settled
    exact absurd held settled.1
  · rw [worked] at settled
    obtain ⟨_, told, still, books'⟩ := settled
    exact ⟨a, t, rfl, told, still, books'⟩

theorem Turns.inUnit {work : LedgerWork α} (turns : work.Turns time b condition answers b₁) :
    (Work.inUnit work).Settles time b condition answers b₁ := by
  intro s rests books
  have turned := turns s.content { s with status := .busy s.content false } ⟨rfl, rests.now⟩ books
  rcases worked : work { s with status := .busy s.content false } with ⟨e | a, t⟩
  · rw [worked] at turned
    obtain ⟨refused, still⟩ := turned
    rw [Work.inUnit_of_failed rests.idle worked still]
    exact ⟨refused, ⟨rfl, still.now⟩, books⟩
  · rw [worked] at turned
    obtain ⟨held, told, still, turned⟩ := turned
    rw [Work.inUnit_of_answered rests.idle worked still]
    exact ⟨held, told, ⟨rfl, still.now⟩, turned⟩

end Act

namespace Operation
variable {α : Type} {time : Instant} {b b₁ : Books} {condition condition' : Prop} {answers : α → Prop} {op : Operation α}

/-- What an operation makes of the books, joined to an open session or in one of its own. -/
structure Turns (op : Operation α) (time : Instant) (b : Books) (condition : Prop) (answers : α → Prop) (b₁ : Books) : Prop where
  joined : op.joined.Turns time b condition answers b₁
  alone : op.alone.Settles time b condition answers b₁

def OnlyTells (op : Operation α) : Prop := ∀ a s, ∃ journal, op.report a s = (.ok (), { s with journal })

theorem within_of_refused {e : LedgerError} (refused : op.check = .error e) (work : LedgerWork α) (s : Store Database) :
    op.within work s = (.error (.ledger e), s) := by
  have failed : LedgerWork.check op.check s = (.error (.ledger e), s) := by
    rw [refused]
    rfl
  exact Act.bind_of_error failed

theorem within_of_failed (checked : op.check = .ok ()) {work : LedgerWork α} {s t : Store Database} {e : Failure}
    (worked : work s = (.error e, t)) : op.within work s = (.error e, t) := by
  have passed : LedgerWork.check op.check s = (.ok (), s) := by
    rw [checked]
    rfl
  unfold within
  rw [Act.bind_of_ok passed]
  exact Act.bind_of_error worked

theorem within_of_reported (checked : op.check = .ok ()) {work : LedgerWork α} {s t u : Store Database} {a : α}
    (worked : work s = (.ok a, t)) (reported : op.report a t = (.ok (), u)) : op.within work s = (.ok a, u) := by
  have passed : LedgerWork.check op.check s = (.ok (), s) := by
    rw [checked]
    rfl
  unfold within
  rw [Act.bind_of_ok passed, Act.bind_of_ok worked, Act.bind_of_ok reported]
  rfl

theorem within_of_answered (tells : op.OnlyTells) (checked : op.check = .ok ()) {work : LedgerWork α} {s t : Store Database}
    {a : α} (worked : work s = (.ok a, t)) : ∃ journal, op.within work s = (.ok a, { t with journal }) := by
  obtain ⟨journal, reported⟩ := tells a t
  exact ⟨journal, within_of_reported checked worked reported⟩

theorem turns_of_body (tells : op.OnlyTells) (checks : op.check = .ok () ↔ condition)
    (body : condition → op.body.Turns time b condition' answers b₁) : op.Turns time b (condition ∧ condition') answers b₁ := by
  cases outcome : op.check with
  | error e =>
    have refused : ¬ (condition ∧ condition') := by
      intro both
      have passed := checks.mpr both.1
      rw [outcome] at passed
      cases passed
    constructor
    · intro saved s here books
      rw [joined, within_of_refused outcome]
      exact ⟨refused, here⟩
    · intro s rests books
      rw [alone, within_of_refused outcome]
      exact ⟨refused, rests, books⟩
  | ok _ =>
    have held := checks.mp outcome
    constructor
    · intro saved s here books
      have turned := body held saved s here books
      rw [joined]
      rcases worked : op.body s with ⟨e | a, t⟩
      · rw [worked] at turned
        rw [within_of_failed outcome worked]
        exact ⟨fun both => turned.1 both.2, turned.2⟩
      · rw [worked] at turned
        obtain ⟨journal, ran⟩ := within_of_answered tells outcome worked
        obtain ⟨held', told, still, turned⟩ := turned
        rw [ran]
        exact ⟨⟨held, held'⟩, told, ⟨still.busy, still.now⟩, turned⟩
    · intro s rests books
      have settled := (body held).inUnit s rests books
      rw [alone]
      rcases worked : Work.inUnit op.body s with ⟨e | a, t⟩
      · rw [worked] at settled
        rw [within_of_failed outcome worked]
        exact ⟨fun both => settled.1 both.2, settled.2⟩
      · rw [worked] at settled
        obtain ⟨journal, ran⟩ := within_of_answered tells outcome worked
        obtain ⟨held', told, still, turned⟩ := settled
        rw [ran]
        exact ⟨⟨held, held'⟩, told, ⟨still.idle, still.now⟩, turned⟩

theorem Turns.restated {condition₁ : Prop} (turns : op.Turns time b condition answers b₁) (same : condition ↔ condition₁) :
    op.Turns time b condition₁ answers b₁ := by
  rw [← propext same]
  exact turns

end Operation

end Passbook
