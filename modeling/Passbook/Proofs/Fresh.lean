import Passbook.Errand
import Passbook.Proofs.Migrations
import Passbook.Proofs.Runs
import Passbook.System

/-! The start of a ledger: an empty store that has been brought up to date holds the empty books, whatever the clock shows. -/
namespace Passbook
open Journal Time

theorem Digest.md5_plain (bytes : List Nat) : Text.Plain (md5 bytes) := by
  have word (x : UInt32) : Text.mark ∉ wordText x := by
    intro among
    obtain ⟨i, _, among⟩ := List.mem_flatMap.mp among
    exact Text.mark_notMem_hexDigits _ _ among
  unfold Text.Plain md5
  rw [String.toList_ofList]
  intro among
  obtain ⟨x, _, among⟩ := List.mem_flatMap.mp among
  exact word x among

theorem Time.Reading.text_plain (r : Reading) : Text.Plain r.text := by
  have seconds : Text.mark ∉ r.wall.secondsChars := by
    simp [Instant.secondsChars, Text.mark_notMem_digits]
    decide
  have brief : Text.mark ∉ r.wall.briefChars := by
    unfold Instant.briefChars Instant.fullChars Instant.fractionChars
    split
    · exact seconds
    · simp [seconds, Text.mark_notMem_digits]
      decide
  have offset (o : Offset) : Text.mark ∉ o.chars := by
    have part (condition : Prop) [Decidable condition] (c : Char) (other : Text.mark ≠ c) (width n : Nat) :
        Text.mark ∉ (if condition then [] else c :: Text.digits width n) := by
      split
      · exact List.not_mem_nil
      · exact not_or.mpr ⟨other, Text.mark_notMem_digits width n⟩ ∘ List.mem_cons.mp
    have sign : Text.mark ≠ (if o.micros < 0 then '-' else '+') := by
      split <;> decide
    have colon : Text.mark ≠ ':' := by decide
    have point : Text.mark ≠ '.' := by decide
    simp only [Offset.chars, List.cons_append, List.mem_cons, List.mem_append, not_or]
    exact ⟨sign, ⟨⟨Text.mark_notMem_digits _ _, colon, Text.mark_notMem_digits _ _⟩, part _ ':' colon _ _⟩,
      part _ '.' point _ _⟩
  unfold Text.Plain text
  rw [String.toList_ofList, List.mem_append]
  refine not_or.mpr ⟨brief, ?_⟩
  cases r.offset with
  | none => exact List.not_mem_nil
  | some o => exact offset o

namespace Ddl

theorem block_plain {lines : List String} (plain : ∀ line ∈ lines, Text.Plain line) : Text.Plain (block lines) := by
  have indented : ∀ line ∈ lines.map fun line => "        " ++ line ++ "\n", Text.Plain line := by
    intro line among
    obtain ⟨bare, bareAmong, rfl⟩ := List.mem_map.mp among
    exact .append (.append (by decide) (plain bare bareAmong)) (by decide)
  exact .append (.append (by decide) (.join indented)) (by decide)

theorem trigger_plain {name event : String} (named : Text.Plain name) (on : Text.Plain event) :
    Text.Plain (trigger name event) := by
  apply block_plain
  simp only [List.forall_mem_cons, List.not_mem_nil, false_implies, implies_true, and_true]
  refine ⟨?_, .literal rfl, .literal rfl, .literal rfl⟩
  exact .append (.append (.append (.append (.literal rfl) named) (.literal rfl)) on) (.literal rfl)

def NamesPlainly : Ddl → Prop
  | .indexOrders name columns => Text.Plain name ∧ Text.Plain columns
  | .indexLog name column => Text.Plain name ∧ Text.Plain column
  | _ => True

theorem wording_plain (d : Ddl) (named : d.NamesPlainly) : Text.Plain d.wording := by
  cases d with
  | createAccounts =>
    apply block_plain
    simp only [List.forall_mem_cons, List.not_mem_nil, false_implies, implies_true, and_true]
    and_intros <;> exact .literal rfl
  | createOrders =>
    apply block_plain
    simp only [List.forall_mem_cons, List.not_mem_nil, false_implies, implies_true, and_true]
    and_intros <;> exact .literal rfl
  | createLog =>
    have kinds : Text.Plain ("    CONSTRAINT transactions_type_known CHECK (type IN " ++ entryKinds ++ "),") :=
      .append (.append (.literal rfl) (.literal rfl)) (.literal rfl)
    apply block_plain
    simp only [List.forall_mem_cons, List.not_mem_nil, false_implies, implies_true, and_true]
    refine ⟨?_, ?_, ?_, ?_, ?_, ?_, ?_, ?_, kinds, ?_, ?_⟩ <;> exact .literal rfl
  | indexOrders name columns =>
    exact .append (.append (.append (.append (.literal rfl) named.1) (.literal rfl)) named.2) (.literal rfl)
  | indexLog name column =>
    exact .append (.append (.append (.append (.literal rfl) named.1) (.literal rfl)) named.2) (.literal rfl)
  | guardUpdate => exact trigger_plain (.literal rfl) (.literal rfl)
  | guardDelete => exact trigger_plain (.literal rfl) (.literal rfl)
  | unguardUpdate => exact .append (.literal rfl) (.literal rfl)
  | unguardDelete => exact .append (.literal rfl) (.literal rfl)
  | dropAccounts => exact .literal rfl
  | dropOrders => exact .literal rfl
  | dropLog => exact .literal rfl

def wordingOf (m : Migration Ddl) : String := "\n".intercalate (m.up.map Worded.wording)

theorem wordingOf_plain {m : Migration Ddl} (named : ∀ d ∈ m.up, d.NamesPlainly) : Text.Plain (wordingOf m) := by
  apply Text.Plain.intercalate (by decide)
  intro text among
  obtain ⟨d, listed, rfl⟩ := List.mem_map.mp among
  exact wording_plain d (named d listed)

theorem migrations_namePlainly : ∀ m ∈ migrations, Text.Plain m.name ∧ ∀ d ∈ m.up, d.NamesPlainly := by
  simp only [migrations, List.forall_mem_cons, List.not_mem_nil, false_implies, implies_true, and_true, NamesPlainly]
  and_intros <;> first | exact trivial | exact .literal rfl

theorem checksum_of_plain {m : Migration Ddl} (plain : Text.Plain (wordingOf m)) :
    m.checksum = .ok (Digest.md5 (Text.utf8Bytes (wordingOf m))) := by
  unfold Migration.checksum
  have encodable : Text.unencodable? .utf8 ("\n".intercalate (m.up.map Worded.wording)) = none := plain.encodable
  simp only [encodable]
  rfl

def rowOf (now : Reading) (m : Migration Ddl) : AppliedRow :=
  ⟨m.version, m.name, Digest.md5 (Text.utf8Bytes (wordingOf m)), now.text⟩

theorem applies_of_changes {m : Migration Ddl} {now : Reading} {c : Database} (c₁ : Database) (listed : m ∈ migrations)
    (changes : Migrator.Changes m.up c c₁) (kept : c₁.record = .kept)
    (new : Rows.contains AppliedRow.version m.version c₁.applied = false) :
    Migrator.Applies m now c { c₁ with applied := Rows.insert AppliedRow.version (rowOf now m) c₁.applied } := by
  obtain ⟨name, names⟩ := migrations_namePlainly m listed
  have fits : ∀ m ∈ migrations, fitsInteger m.version = true := by decide
  exact .mk changes (checksum_of_plain (wordingOf_plain names))
    (AppliedRows.add_of_new kept (fits m listed) name.encodable (Digest.md5_plain _).encodable now.text_plain.encodable new)

end Ddl

namespace Database

def afterFirst (n : Nat) (schema : Tables) (now : Reading) : Database :=
  { schema, applied := (Ddl.migrations.take n).map (Ddl.rowOf now) }

def migrated (now : Reading) : Database := afterFirst 4 Books.fresh.tables now

end Database

namespace System

theorem migrator_planned : migrator.planned = Ddl.migrations.map fun m => { migration := m } := by
  have sorted : Ddl.migrations.Pairwise fun a b => decide (a.version ≤ b.version) = true := by decide
  unfold migrator Migrator.ofList
  rw [List.mergeSort_of_pairwise sorted]

theorem migrations_apply (now : Reading) : Migrator.AppliesAll now migrator.planned Database.empty (Database.migrated now) := by
  let accounts : Tables := ⟨some [], none, none⟩
  let orders : Tables := ⟨some [], some [], none⟩
  let log : Tables := ⟨some [], some [], some .empty⟩
  have first : Migrator.Applies Ddl.migrations[0] now Database.empty (Database.afterFirst 1 accounts now) :=
    Ddl.applies_of_changes (Database.afterFirst 0 accounts now) (by decide) (.next rfl (.done _)) rfl rfl
  have second : Migrator.Applies Ddl.migrations[1] now (Database.afterFirst 1 accounts now) (Database.afterFirst 2 orders now) :=
    Ddl.applies_of_changes (Database.afterFirst 1 orders now) (by decide) (.next rfl (.next rfl (.next rfl (.done _)))) rfl rfl
  have third : Migrator.Applies Ddl.migrations[2] now (Database.afterFirst 2 orders now) (Database.afterFirst 3 log now) :=
    Ddl.applies_of_changes (Database.afterFirst 2 log now) (by decide) (.next rfl (.next rfl (.next rfl (.next rfl (.done _))))) rfl rfl
  have last : Migrator.Applies Ddl.migrations[3] now (Database.afterFirst 3 log now) (Database.migrated now) :=
    Ddl.applies_of_changes (Database.afterFirst 3 Books.fresh.tables now) (by decide) (.next rfl (.next rfl (.done _))) rfl rfl
  rw [migrator_planned]
  exact .next first (.next second (.next third (.next last (.done _))))

/-- On an empty store the start of a ledger applies all migrations. -/
theorem prepareStore_empty (now : Reading) (journal : List Record) :
    ∃ later, prepareStore {} ⟨Database.empty, .idle, now, journal⟩ = (.ok (), ⟨Database.migrated now, .idle, now, later⟩) := by
  have prepared : (Migrator.prepare : LedgerWork Unit) ⟨Database.empty, .idle, now, journal⟩ =
      (.ok (), ⟨Database.empty, .idle, now, journal⟩) :=
    Work.inUnit_execute _ _ rfl
  have pending : ∀ p ∈ migrator.planned, Migrator.isBetween 0 migrator.latest p.migration = true := by
    unfold Migrator.latest Migrator.migrations
    rw [migrator_planned]
    decide
  have some_ : migrator.planned ≠ [] := by
    rw [migrator_planned]
    decide
  obtain ⟨progress, later, went, fine⟩ :=
    Migrator.up_of_appliesAll migrator rfl rfl some_ pending (migrations_apply now) journal
  refine ⟨later, ?_⟩
  unfold prepareStore
  rw [Act.bind_of_ok prepared]
  have migrates : ({} : Settings).migratesOnStart = true := rfl
  rw [if_pos migrates, Act.bind_of_ok went, fine]
  rfl

end System

/-- A store that has just been brought up to date. -/
def Store.fresh (time : Instant) : Store Database :=
  (System.prepareStore {} { content := Database.empty, status := .idle, now := .universal time, journal := [] }).2

theorem Store.fresh_stands (time : Instant) : (fresh time).Stands time .fresh := by
  obtain ⟨later, prepared⟩ := System.prepareStore_empty (.universal time) []
  unfold fresh
  rw [prepared]
  exact ⟨⟨rfl, rfl⟩, rfl, Books.fresh_sound⟩

theorem Store.fresh_keeps (time : Instant) : (fresh time).Keeps .fresh := ⟨time, (fresh_stands time).rests, (fresh_stands time).books⟩

def Host.fresh (time : Instant) : Host Int where
  system := ⟨{}, .fresh time, ⟨⟨3600, 3600, []⟩, 0, true⟩⟩
  isLent := false
  sources := {}
  seconds := id
  address := .memory

namespace Step
variable {time : Instant} {saved : Option Database} {s : Store Database}

theorem runAll_fresh (time : Instant) (steps : List Step) : ∃ b : Books, b.Reached ∧ (runAll steps (.fresh time)).Keeps b :=
  runAll_keeps steps .fresh (Store.fresh_keeps time)

/-- What can be seen of a run: the store between its steps, and inside a unit of which no step has failed so far. -/
inductive Comes (time : Instant) : Option Database → Store Database → Prop
  | between (steps : List Step) : Comes time none (runAll steps (.fresh time))
  | inside (steps parts : List Step) {outcomes : List (Plan.Outcome (Option Answer))} {s : Store Database}
      (ran : Plan.carryOutAll Move.run (plans parts) (Plan.opened (runAll steps (.fresh time))) = (.ok ⟨outcomes, none⟩, s)) :
      Comes time (some (runAll steps (.fresh time)).content) s

theorem Comes.holds (comes : Comes time saved s) : ∃ b : Books, b.Reached ∧ s.Holds saved b := by
  cases comes with
  | between steps => exact runAll_fresh time steps
  | inside steps parts ran =>
    obtain ⟨b, reached, keeps⟩ := runAll_fresh time steps
    exact reached_inside parts reached keeps ran

end Step
end Passbook
