import Passbook.Proofs.Banking
import Passbook.Proofs.Trails

/-! The ledger's own schema, rolled back and migrated again. A table goes with its rows, and the log with its guards and its last id, while
the tables of the migrations that stay are left alone; the tables are dropped in such an order that no row refers to what goes. So
a call back never fails, whatever the books hold, and the next call forward makes what has gone anew. -/
namespace Passbook
open Journal Time

theorem Log.Guarded.restored {log : Log} (guarded : log.Guarded) : { log with refusesUpdate := true, refusesDelete := true } = log := by
  obtain ⟨entries, lastId, update, delete⟩ := log
  obtain ⟨rfl, rfl⟩ := guarded
  rfl

namespace Books

/-- The tables of these books that the migrations up to a version make. -/
def upTo (v : Int) (b : Books) : Tables where
  accounts := if 1 ≤ v then some b.accounts else none
  orders := if 2 ≤ v then some b.orders else none
  log := if 3 ≤ v then some { b.log with refusesUpdate := decide (4 ≤ v), refusesDelete := decide (4 ≤ v) } else none

/-- The books with nothing in the tables of later migrations. -/
def cut (v : Int) (b : Books) : Books where
  accounts := if 1 ≤ v then b.accounts else fresh.accounts
  orders := if 2 ≤ v then b.orders else fresh.orders
  log := if 3 ≤ v then b.log else fresh.log

variable {b : Books} {v w : Int}

theorem upTo_latest (guarded : b.log.Guarded) (high : 4 ≤ v) : b.upTo v = b.tables := by
  have low : 1 ≤ v ∧ 2 ≤ v ∧ 3 ≤ v := by omega
  unfold upTo tables
  rw [if_pos low.1, if_pos low.2.1, if_pos low.2.2, decide_eq_true high, guarded.restored]

theorem upTo_cut (b : Books) (v : Int) : (b.cut v).upTo v = b.upTo v := by
  unfold upTo cut
  congr 1 <;> split <;> simp [*]

theorem cut_cut (b : Books) (low : v ≤ w) : (b.cut v).cut w = b.cut v := by
  unfold cut
  congr 1 <;> dsimp only <;> split <;> split <;> first | rfl | omega

theorem upTo_clamp (b : Books) (v : Int) : b.upTo (max 0 (min v 4)) = b.upTo v := by
  have first : 1 ≤ max 0 (min v 4) ↔ 1 ≤ v := by omega
  have second : 2 ≤ max 0 (min v 4) ↔ 2 ≤ v := by omega
  have third : 3 ≤ max 0 (min v 4) ↔ 3 ≤ v := by omega
  have last : 4 ≤ max 0 (min v 4) ↔ 4 ≤ v := by omega
  simp only [upTo, first, second, third, last]

theorem cut_clamp (b : Books) (v : Int) : b.cut (max 0 (min v 4)) = b.cut v := by
  have first : 1 ≤ max 0 (min v 4) ↔ 1 ≤ v := by omega
  have second : 2 ≤ max 0 (min v 4) ↔ 2 ≤ v := by omega
  have third : 3 ≤ max 0 (min v 4) ↔ 3 ≤ v := by omega
  simp only [cut, first, second, third]

theorem cut_guarded (guarded : b.log.Guarded) (v : Int) : (b.cut v).log.Guarded := by
  unfold cut
  dsimp only
  split
  · exact guarded
  · exact ⟨rfl, rfl⟩

end Books

def Tables.objects (t : Tables) : List String :=
  (t.accounts.elim [] fun _ => ["accounts"]) ++ (t.orders.elim [] fun _ => ["orders"]) ++ t.log.elim [] fun log =>
    "transactions" :: ((if log.refusesUpdate then [Ddl.updateGuard] else []) ++ if log.refusesDelete then [Ddl.deleteGuard] else [])

theorem Books.objects_upTo (b b' : Books) (v : Int) : (b.upTo v).objects = (b'.upTo v).objects := by
  unfold upTo Tables.objects
  dsimp only
  split <;> split <;> split <;> rfl

namespace Migrator
variable {σ δ : Type} [Runs σ δ] [Keyed δ] {m : Migration σ} {back : List σ} {c c' : Catalog δ}

theorem rollbackUnit_of_reverts (reverts : Reverts m back c c') (now : Reading) (journal : List Record) :
    rollbackUnit m back ⟨c, .idle, now, journal⟩ = (.ok (), ⟨c', .idle, now, journal⟩) := by
  obtain ⟨changes, forgotten⟩ := reverts
  rename_i c₁ count
  have ran := runAll_of_changes (s := ⟨c, .busy c false, now, journal⟩) m changes rfl rfl
  have removed := Work.execute_of_ok (s := ⟨c₁, .busy c false, now, journal⟩) "remove migration record" rfl rfl forgotten
  unfold rollbackUnit
  rw [Work.inUnit_eq rfl, Act.bind_of_ok ran, Act.bind_of_ok removed]
  rfl

theorem rollback_of_reverts (isDown : m.down = some back) (some_ : back ≠ []) (reverts : Reverts m back c c') (now : Reading)
    (journal : List Record) : ∃ later, rollback m ⟨c, .idle, now, journal⟩ = (.ok (), ⟨c', .idle, now, later⟩) := by
  obtain ⟨journal₁, told⟩ := tells Level.info ("Rolling back " ++ m.label) c .idle now journal
  have settled : (rollbackUnit m back).outcome ⟨c, .idle, now, journal₁⟩ = (.ok (.ok ()), ⟨c', .idle, now, journal₁⟩) := by
    unfold Act.outcome
    rw [rollbackUnit_of_reverts reverts]
  obtain ⟨journal₂, told'⟩ := tells Level.info ("Successfully rolled back " ++ m.label) c' .idle now journal₁
  obtain ⟨first, rest, rfl⟩ := List.exists_cons_of_ne_nil some_
  refine ⟨journal₂, ?_⟩
  unfold rollback
  rw [isDown]
  exact (Act.bind_of_ok told).trans ((Act.bind_of_ok settled).trans told')

end Migrator

theorem AppliedRows.remove_of_kept {δ : Type} {c : Catalog δ} {version : Int} (kept : c.record = .kept)
    (fits : fitsInteger version = true) :
    ∃ count, remove version false c = .ok (count, { c with applied := Rows.remove AppliedRow.version version c.applied }) := by
  have bound : AccountRows.bindAll [version] = .ok () := by simp [AccountRows.bindAll, fits]
  unfold remove checkTable
  rw [kept, bound]
  exact ⟨_, rfl⟩

theorem Migrator.Stopped.unblamed {σ : Type} {left : List (Migration σ)} {failure : Option Failure}
    (stopped : Stopped (fun _ _ => False) left failure) : left = [] ∧ failure = none := by
  cases stopped with
  | ended => exact ⟨rfl, rfl⟩
  | failed never => exact never.elim

/-- Just these of the ledger's migrations have been applied, and the books stand in what they have made. -/
structure Database.Levelled (done : List (Migration Ddl)) (b : Books) (c : Database) : Prop where
  kept : c.record = .kept
  rows : List.Forall₂ Migration.Records done c.applied
  schema : c.schema = b.upTo (Migrator.latestOf done)

namespace Ddl
open Migrator
variable {low rest : List (Migration Ddl)} {m : Migration Ddl} {b : Books} {c : Database} {time : Instant}

theorem migrations_ascending : Rows.Ascending Migration.version migrations := by
  unfold Rows.Ascending
  decide

theorem migrations_split (split : migrations = low ++ m :: rest) :
    (low = [] ∧ m = migrations[0]) ∨ (low = migrations.take 1 ∧ m = migrations[1]) ∨
      (low = migrations.take 2 ∧ m = migrations[2]) ∨ (low = migrations.take 3 ∧ m = migrations[3]) := by
  rcases low with _ | ⟨_, _ | ⟨_, _ | ⟨_, _ | ⟨_, low⟩⟩⟩⟩
  · cases split
    exact .inl ⟨rfl, rfl⟩
  · cases split
    exact .inr (.inl ⟨rfl, rfl⟩)
  · cases split
    exact .inr (.inr (.inl ⟨rfl, rfl⟩))
  · cases split
    exact .inr (.inr (.inr ⟨rfl, rfl⟩))
  · have lengths := congrArg List.length split
    simp only [migrations, List.length_cons, List.length_append, List.length_nil] at lengths
    omega

theorem migrations_below (split : migrations = low ++ m :: rest) : ∀ known ∈ low, known.version < m.version :=
  fun known among => (List.pairwise_append.mp (split ▸ migrations_ascending)).2.2 known among m (by simp)

theorem upTo_eq_take (v : Int) :
    ∃ n, n ≤ 4 ∧ upTo migrations v = migrations.take n ∧ latestOf (migrations.take n) = max 0 (min v 4) := by
  have cases_ : v ≤ 0 ∨ v = 1 ∨ v = 2 ∨ v = 3 ∨ 4 ≤ v := by omega
  rcases cases_ with low | rfl | rfl | rfl | high
  · have none_ : upTo migrations v = [] := by
      refine List.filter_eq_nil_iff.mpr fun m among => ?_
      have positive : 0 < m.version := (by decide : ∀ m ∈ migrations, 0 < m.version) m among
      simp only [decide_eq_true_eq]
      omega
    exact ⟨0, by decide, none_, by rw [List.take_zero]; change 0 = _; omega⟩
  · exact ⟨1, by decide, rfl, rfl⟩
  · exact ⟨2, by decide, rfl, rfl⟩
  · exact ⟨3, by decide, rfl, rfl⟩
  · have all : upTo migrations v = migrations := by
      refine List.filter_eq_self.mpr fun m among => ?_
      have highest : m.version ≤ 4 := (by decide : ∀ m ∈ migrations, m.version ≤ 4) m among
      simp only [decide_eq_true_eq]
      omega
    exact ⟨4, by decide, all, by change 4 = _; omega⟩

theorem effects_upTo (v : Int) : effects effect ((upTo migrations v).flatMap Migration.up) Tables.empty = some (Books.fresh.upTo v) := by
  obtain ⟨n, bound, taken, latest⟩ := upTo_eq_take v
  rw [taken, ← Books.upTo_clamp, ← latest]
  match n, bound with
  | 0, _ => rfl
  | 1, _ => rfl
  | 2, _ => rfl
  | 3, _ => rfl
  | 4, _ => rfl

theorem records_rowOf (listed : m ∈ migrations) (time : Instant) : m.Records (rowOf (.universal time) m) :=
  ⟨rfl, rfl, checksum_of_plain (wordingOf_plain (migrations_namePlainly m listed).2), time, rfl⟩

theorem changes_back (split : migrations = low ++ m :: rest) (schema : c.schema = b.upTo (latestOf (low ++ [m]))) :
    ∃ back, m.down = some back ∧ back ≠ [] ∧ Changes back c { c with schema := b.upTo (latestOf low) } := by
  obtain ⟨schema, applied, record⟩ := c
  dsimp only at schema
  subst schema
  rcases migrations_split split with ⟨rfl, rfl⟩ | ⟨rfl, rfl⟩ | ⟨rfl, rfl⟩ | ⟨rfl, rfl⟩
  -- Behind the orders and the log nothing refers to an account any more, so that the accounts can go whatever is in them.
  · have unreferenced : (b.upTo 1).referenced = [] := rfl
    have dropped : run .dropAccounts false (b.upTo 1) = .ok ((), b.upTo 0) := by
      change (if (b.accounts.any fun a => (b.upTo 1).referenced.contains (.int a.id)) = true then _ else _) = _
      rw [unreferenced, if_neg (by simp)]
      rfl
    exact ⟨[.dropAccounts], rfl, List.cons_ne_nil _ _, .next (bind_eq_ok.mpr ⟨_, dropped, rfl⟩) (.done _)⟩
  · exact ⟨[.dropOrders], rfl, List.cons_ne_nil _ _, .next rfl (.done _)⟩
  · exact ⟨[.dropLog], rfl, List.cons_ne_nil _ _, .next rfl (.done _)⟩
  · exact ⟨[.unguardUpdate, .unguardDelete], rfl, List.cons_ne_nil _ _, .next rfl (.next rfl (.done _))⟩

theorem changes_up (split : migrations = low ++ m :: rest) (schema : c.schema = b.upTo (latestOf low)) (bare : b.cut (latestOf low) = b) :
    Changes m.up c { c with schema := b.upTo (latestOf (low ++ [m])) } := by
  obtain ⟨schema, applied, record⟩ := c
  dsimp only at schema
  subst schema
  rcases migrations_split split with ⟨rfl, rfl⟩ | ⟨rfl, rfl⟩ | ⟨rfl, rfl⟩ | ⟨rfl, rfl⟩
  · rw [← bare]
    exact .next rfl (.done _)
  · rw [← bare]
    exact .next rfl (.next rfl (.next rfl (.done _)))
  · rw [← bare]
    exact .next rfl (.next rfl (.next rfl (.next rfl (.done _))))
  · exact .next rfl (.next rfl (.done _))

theorem reverts_last (split : migrations = low ++ m :: rest) (levelled : c.Levelled (low ++ [m]) b) :
    ∃ (back : List Ddl) (c' : Database), m.down = some back ∧ back ≠ [] ∧ Reverts m back c c' ∧ c'.Levelled low b := by
  obtain ⟨back, isDown, some_, changes⟩ := changes_back split levelled.schema
  obtain ⟨records, -⟩ := records_pop levelled.rows (migrations_below split)
  have recordable := migrations_recordable m (split ▸ by simp)
  obtain ⟨count, removed⟩ :=
    AppliedRows.remove_of_kept (c := { c with schema := b.upTo (latestOf low) }) levelled.kept recordable.version
  exact ⟨back, _, isDown, some_, .mk changes removed, levelled.kept, records, rfl⟩

theorem applies_next (split : migrations = low ++ m :: rest) (levelled : c.Levelled low b) (bare : b.cut (latestOf low) = b)
    (time : Instant) :
    ∃ c' : Database, Applies m (.universal time) c c' ∧ c'.Levelled (low ++ [m]) b := by
  have changes := changes_up split levelled.schema bare
  have listed : m ∈ migrations := split ▸ by simp
  obtain ⟨last, records⟩ := records_push levelled.rows (migrations_below split) (records_rowOf listed time)
  have new : Rows.contains AppliedRow.version m.version c.applied = false := by
    refine List.any_eq_false.mpr fun row among => ?_
    have := version_lt_of_records levelled.rows (migrations_below split) row among
    simpa using Int.ne_of_lt this
  exact ⟨_, applies_of_changes _ listed changes levelled.kept new, levelled.kept, last ▸ records, rfl⟩

end Ddl

theorem effects_idle {σ δ : Type} (statements : List σ) (d : δ) : effects (fun _ d => some d) statements d = some d := by
  induction statements with
  | nil => rfl
  | cons statement rest ih => exact ih

namespace Database.Levelled
open Migrator
variable {done rest : List (Migration Ddl)} {b : Books} {c : Database} {m : Migrator Ddl}

/-- Which migrations are due, and which version is told, does not depend on the tables: as far as that goes, statements might as well do
nothing. -/
theorem inOrder (levelled : c.Levelled done b) (listed : m.migrations = Ddl.migrations) (split : Ddl.migrations = done ++ rest) :
    InOrder (fun _ d => some d) c.schema m done c where
  ascending := listed ▸ Ddl.migrations_ascending
  positive := listed ▸ by decide
  undone _ _ _ _ _ _ _ _ there back := by
    rw [effects_idle, Option.some_inj] at there back
    rw [← back, ← there]
  part := ⟨rest, listed.trans split⟩
  stacked := ⟨levelled.kept, levelled.rows, effects_idle _ _⟩

/-- What has become of a catalog once some of its last migrations have been rolled back. -/
def RolledBack (b : Books) (c : Database) (taken : List (Migration Ddl)) (c' : Database) : Prop :=
  (taken = [] → c' = c) ∧ ∃ low, Ddl.migrations = low ++ taken.reverse ∧ c'.Levelled low b

theorem rolledBack_nil (levelled : c.Levelled Ddl.migrations b) : RolledBack b c [] c :=
  ⟨fun _ => rfl, _, (List.append_nil _).symm, levelled⟩

theorem down_takes (levelled : c.Levelled Ddl.migrations b) (listed : m.migrations = Ddl.migrations) (target : Int) (time : Instant) :
    Takes (.universal time) (RolledBack b c) (fun _ _ _ => False) m.migrations ((Way.down target).due m (latestOf Ddl.migrations)) c
      (m.down target) := by
  have inOrder := levelled.inOrder listed (List.append_nil Ddl.migrations).symm
  have turned : m.planned.reverse.map Planned.migration = m.migrations.reverse := List.map_reverse
  have due : (Way.down target).due m (latestOf Ddl.migrations) =
      (m.planned.reverse.map Planned.migration).filter (isBetween target (latestOf Ddl.migrations)) := by
    rw [turned]
    rfl
  obtain ⟨bottom, whole⟩ := inOrder.due_down target
  have step : ∀ before p after, (Way.down target).due m (latestOf Ddl.migrations) = before ++ p :: after → ∀ c₁ journal,
      RolledBack b c before c₁ → Tries c₁ (.universal time) (fun _ c₂ => RolledBack b c (before ++ [p]) c₂) (fun _ => False)
        ((Way.down target).act p ⟨c₁, .idle, .universal time, journal⟩) := by
    rintro before p after split c₁ journal ⟨-, low, left, levelled'⟩
    -- What has been rolled back stood behind `p`, so `p` is the last of what is left.
    have turn : low = (bottom ++ after.reverse) ++ [p] := by
      refine List.append_cancel_right (left.symm.trans (whole.trans ?_))
      rw [split]
      simp only [List.reverse_append, List.reverse_cons, List.append_assoc]
    subst turn
    have here : Ddl.migrations = (bottom ++ after.reverse) ++ p :: before.reverse := by
      rw [left]
      simp only [List.append_assoc, List.singleton_append]
    obtain ⟨back, c₂, isDown, some_, reverts, levelled''⟩ := Ddl.reverts_last here levelled'
    obtain ⟨later, ran⟩ := rollback_of_reverts isDown some_ reverts (.universal time) journal
    have acted :
        (Way.down target).act p ⟨c₁, .idle, .universal time, journal⟩ = (.ok none, ⟨c₂, .idle, .universal time, later⟩) :=
      Act.bind_of_ok ran
    rw [acted]
    refine .kept later ⟨fun none_ => absurd none_ (by simp), bottom ++ after.reverse, ?_, levelled''⟩
    rw [List.reverse_append]
    exact here
  refine down_takes_of (version_of_stacked inOrder.stacked _) (rolledBack_nil levelled) ?_
  rw [due] at step ⊢
  rw [← turned]
  exact runEach_takes step _ rfl (rolledBack_nil levelled)

/-- What has become of a catalog once some further migrations have been applied: in later tables there is nothing. -/
def MigratedOn (b : Books) (done taken : List (Migration Ddl)) (c' : Database) : Prop :=
  c'.Levelled (done ++ taken) b ∧ b.cut (latestOf (done ++ taken)) = b

theorem up_takes (levelled : c.Levelled done b) (bare : b.cut (latestOf done) = b) (listed : m.migrations = Ddl.migrations)
    (split : Ddl.migrations = done ++ rest) (time : Instant) :
    Takes (.universal time) (MigratedOn b done) (fun _ _ _ => False) m.migrations ((Way.up none).due m (latestOf done)) c (m.up none) := by
  have inOrder := levelled.inOrder listed split
  obtain ⟨above, whole, -⟩ := inOrder.due_up none
  rw [listed] at whole
  have start : MigratedOn b done [] c := by
    unfold MigratedOn
    rw [List.append_nil]
    exact ⟨levelled, bare⟩
  have step : ∀ before p after, (Way.up none).due m (latestOf done) = before ++ p :: after →
      ∀ c₁ journal, MigratedOn b done before c₁ →
      Tries c₁ (.universal time) (fun _ c₂ => MigratedOn b done (before ++ [p]) c₂) (fun _ => False)
        ((Way.up none).act p ⟨c₁, .idle, .universal time, journal⟩) := by
    rintro before p after due c₁ journal ⟨levelled', bare'⟩
    have here : Ddl.migrations = (done ++ before) ++ p :: (after ++ above) := by
      rw [whole, due]
      simp only [List.append_assoc, List.cons_append]
    have next : latestOf (done ++ before) ≤ p.version :=
      Int.le_of_lt (latestOf_lt (here ▸ Ddl.migrations_ascending) (here ▸ by decide) (by simp))
    obtain ⟨c₂, applies, levelled''⟩ := Ddl.applies_next here levelled' bare' time
    obtain ⟨later, ran⟩ := apply_of_applies applies journal
    have acted : (Way.up none).act p ⟨c₁, .idle, .universal time, journal⟩ =
        (.ok (some (.universal time)), ⟨c₂, .idle, .universal time, later⟩) := Act.bind_of_ok ran
    rw [acted]
    refine .kept later ⟨List.append_assoc _ _ _ ▸ levelled'', ?_⟩
    rw [← List.append_assoc, latestOf_snoc, ← bare', Books.cut_cut b next, bare']
  exact up_takes_of (version_of_stacked inOrder.stacked _) start (runEach_takes step m.planned rfl start)

end Database.Levelled

/-- A database at the latest version, with these books in it. -/
structure Database.Latest (b : Books) (c : Database) : Prop where
  kept : c.record = .kept
  rows : List.Forall₂ Migration.Records Ddl.migrations c.applied
  books : c.schema = b.tables
  guarded : b.log.Guarded

theorem Law.latest {free : Direct → Prop} : Law (Given free) (fun _ _ c => ∃ b, c.Latest b) (fun _ _ => True) where
  nothing _ := trivial
  more _ _ := trivial
  statement given answered := by
    rintro ⟨b, kept, rows, books, guarded⟩
    obtain ⟨b', books', leaves⟩ := given.writes guarded books answered
    have same := (Law.schemaOnly.statement given answered trivial).2
    refine ⟨⟨b', ?_, ?_, books', ?_⟩, trivial⟩
    · rw [same]
      exact kept
    · rw [same]
      exact rows
    · rcases leaves with rfl | writes
      · exact guarded
      · exact writes.guarded guarded
  deferring holds := holds
  commit holds _ := holds

namespace Database.Latest
open Migrator
variable {b : Books} {c : Database} {m : Migrator Ddl}

theorem levelled (latest : c.Latest b) : c.Levelled Ddl.migrations b :=
  ⟨latest.kept, latest.rows, latest.books.trans (Books.upTo_latest latest.guarded (by decide)).symm⟩

theorem down (latest : c.Latest b) (listed : m.migrations = Ddl.migrations) (target : Int) (time : Instant) (journal : List Record) :
    ∃ (progress : Progress Ddl) (c' : Database) (later : List Record),
      m.down target ⟨c, .idle, .universal time, journal⟩ = (.ok progress, ⟨c', .idle, .universal time, later⟩) ∧
      progress.failure = none ∧ progress.completed = (Ddl.migrations.filter fun m => target < m.version).reverse ∧
      progress.planned.map Planned.migration = Ddl.migrations ∧ (4 ≤ target → c' = c) ∧
      c'.Levelled (upTo Ddl.migrations target) b := by
  obtain ⟨progress, c', later, left, went, ⟨unmoved, low, whole, levelled⟩, planned, due, stopped⟩ :=
    latest.levelled.down_takes listed target time journal
  obtain ⟨rfl, fine⟩ := stopped.unblamed
  have above : (Ddl.migrations ++ []).reverse.filter (isBetween target (latestOf Ddl.migrations)) = _ :=
    reverse_filter_isBetween (by simpa using Ddl.migrations_ascending) (by decide) target
  rw [List.append_nil] at above due
  have completed : progress.completed = (Ddl.migrations.filter fun m => target < m.version).reverse := by
    rw [← due, Way.due, listed, above]
  have bottom : low = upTo Ddl.migrations target := by
    have parts := Ddl.migrations_ascending.split target
    rw [completed, List.reverse_reverse] at whole
    exact List.append_cancel_right (whole.symm.trans parts)
  refine ⟨progress, c', later, went, fine, completed, planned.trans listed, fun high => unmoved ?_, bottom ▸ levelled⟩
  rw [completed, List.reverse_eq_nil_iff, List.filter_eq_nil_iff]
  intro m among
  have highest : m.version ≤ 4 := (by decide : ∀ m ∈ Ddl.migrations, m.version ≤ 4) m among
  simp only [decide_eq_true_eq]
  omega

theorem up {done rest : List (Migration Ddl)} (levelled : c.Levelled done b) (split : Ddl.migrations = done ++ rest)
    (guarded : b.log.Guarded) (listed : m.migrations = Ddl.migrations) (time : Instant) (journal : List Record) :
    ∃ (progress : Progress Ddl) (c' : Database) (later : List Record),
      m.up none ⟨c, .idle, .universal time, journal⟩ = (.ok progress, ⟨c', .idle, .universal time, later⟩) ∧
      progress.failure = none ∧ progress.planned.map Planned.migration = Ddl.migrations ∧ c'.Latest (b.cut (latestOf done)) := by
  have level : c.Levelled done (b.cut (latestOf done)) := ⟨levelled.kept, levelled.rows, levelled.schema.trans (b.upTo_cut _).symm⟩
  obtain ⟨progress, c', later, left, went, ⟨levelled', -⟩, planned, due, stopped⟩ :=
    level.up_takes (b.cut_cut le_rfl) listed split time journal
  obtain ⟨rfl, fine⟩ := stopped.unblamed
  have moves : (Way.up none).Moves done progress.completed (done ++ progress.completed) := rfl
  have whole : Ddl.migrations = done ++ progress.completed := by
    rw [← listed, (level.inOrder listed split).left_of_up moves due, List.append_nil]
  rw [← whole] at levelled'
  have guarded' := Books.cut_guarded guarded (latestOf done)
  exact ⟨progress, c', later, went, fine, planned.trans listed, levelled'.kept, levelled'.rows,
    levelled'.schema.trans (Books.upTo_latest guarded' (by decide)), guarded'⟩

theorem told (latest : c.Latest b) (listed : m.migrations = Ddl.migrations) (now : Reading) (journal : List Record) :
    ((version : Work Database Int) ⟨c, .idle, now, journal⟩).1 = .ok 4 ∧
      ((m.validate : Work Database Bool) ⟨c, .idle, now, journal⟩).1 = .ok true := by
  have inOrder := latest.levelled.inOrder listed (List.append_nil Ddl.migrations).symm
  exact ⟨congrArg Prod.fst (version_of_stacked inOrder.stacked now journal),
    validate_of_stacked inOrder.ascending (fun known among => listed ▸ among) inOrder.stacked now journal⟩

end Database.Latest

theorem Database.afterFirst_latest {b : Books} (guarded : b.log.Guarded) (time : Instant) :
    (afterFirst 4 b.tables (.universal time)).Latest b where
  kept := rfl
  rows := List.forall₂_map_right_iff.mpr (List.forall₂_same.mpr fun _ listed => Ddl.records_rowOf listed time)
  books := rfl
  guarded := guarded

namespace Host
variable {τ : Type} [Add τ] [Sub τ] [LT τ] [DecidableLT τ] [Reach τ] {h : Host τ} {b₀ : Books}

/-- However the ledger has been used, its schema can be rolled back to any version and migrated again. What is left in between are the
tables and guards of the migrations up to that version, with all that is in them; behind it the others are there again with nothing in
them, the ids of the log begin anew, the log is guarded, and the record is in order. -/
theorem schema_rolls_back_and_forward (idle : h.system.store.status = .idle) (latest : h.system.store.content.Latest b₀)
    {before : List (Plan (Errand τ))} (ordinary : Plan.AllOf (Errand.Ordinary fun _ => True) before) (target : Int)
    (back forth : Instant) :
    let s := (runAll before h).system.store
    ∃ b : Books, s.content.Latest b ∧ ∃ (progress : Progress Ddl) (c : Database) (journal : List Record),
      System.migrator.down target { s with now := .universal back } = (.ok progress, ⟨c, .idle, .universal back, journal⟩) ∧
      progress.failure = none ∧ progress.completed = (Ddl.migrations.filter fun m => target < m.version).reverse ∧
      (4 ≤ target → c = s.content) ∧ c.schema = b.upTo target ∧
      (∃ made, effects Ddl.effect ((Migrator.upTo Ddl.migrations target).flatMap Migration.up) Tables.empty = some made ∧
        c.schema.objects = made.objects) ∧
      ∃ (progress' : Progress Ddl) (c' : Database) (journal' : List Record),
        (⟨progress.planned⟩ : Migrator Ddl).up none ⟨c, .idle, .universal forth, journal⟩ =
          (.ok progress', ⟨c', .idle, .universal forth, journal'⟩) ∧
        progress'.failure = none ∧ c'.Latest (b.cut target) ∧
        ((Migrator.version : Work Database Int) ⟨c', .idle, .universal forth, journal'⟩).1 = .ok 4 ∧
        (((⟨progress'.planned⟩ : Migrator Ddl).validate : Work Database Bool)
          ⟨c', .idle, .universal forth, journal'⟩).1 = .ok true := by
  intro s
  obtain ⟨still, b, latest'⟩ := runAll_keeps Law.latest ordinary idle ⟨b₀, latest⟩
  have planned : System.migrator.migrations = Ddl.migrations := by
    unfold Migrator.migrations
    rw [System.migrator_planned]
    rfl
  obtain ⟨progress, c, journal, went, fine, completed, listed, unmoved, levelled⟩ :=
    latest'.down planned target back s.journal
  have rest := Ddl.migrations_ascending.split target
  obtain ⟨progress', c', journal', went', fine', listed', again⟩ :=
    Database.Latest.up levelled rest latest'.guarded (m := ⟨progress.planned⟩) listed forth journal
  obtain ⟨n, -, taken, level⟩ := Ddl.upTo_eq_take target
  rw [taken, level, Books.cut_clamp] at again
  have schema : c.schema = b.upTo target := by
    rw [levelled.schema, taken, level, Books.upTo_clamp]
  have start : { s with now := .universal back } = (⟨s.content, .idle, .universal back, s.journal⟩ : Store Database) := by
    rw [← still]
  obtain ⟨version, valid⟩ := again.told (m := ⟨progress'.planned⟩) listed' (.universal forth) journal'
  refine ⟨b, latest', progress, c, journal, start ▸ went, fine, completed, unmoved, schema, ⟨_, Ddl.effects_upTo target, ?_⟩,
    progress', c', journal', went', fine', again, version, valid⟩
  rw [schema]
  exact b.objects_upTo _ target

/-- Rolled back to its accounts, a ledger with an order in it has these accounts and nothing else. -/
theorem schema_rolls_back_to_accounts :
    let _ : Reach Int := .everywhere Int
    let entry (id : Int) (kind : EntryKind) (amount : Int) : Entry Instant := ⟨id, kind, 1, 1, .int amount, "", .default⟩
    let b : Books :=
      ⟨[⟨1, 70⟩], [.opened 5 1 9 30 .default], ⟨[entry 1 .enrollment 100, entry 2 .reservation 30], 2, true, true⟩⟩
    let h : Host Int := { Host.fresh .default with system := { (Host.fresh .default).system with
      store := ⟨Database.afterFirst 4 b.tables (.universal .default), .idle, .universal .default, []⟩ } }
    let before : List (Plan (Errand Int)) := [.call (.call (.balance 1)) false false]
    let s := (runAll before h).system.store
    h.system.store.status = .idle ∧ h.system.store.content.Latest b ∧ Plan.AllOf (Errand.Ordinary fun _ => True) before ∧
      ∃ (progress : Progress Ddl) (c : Database) (journal : List Record),
        System.migrator.down 1 { s with now := .universal .default } = (.ok progress, ⟨c, .idle, .universal .default, journal⟩) ∧
        c.schema = ⟨some [⟨1, 70⟩], none, none⟩ ∧
        ∃ (progress' : Progress Ddl) (c' : Database) (journal' : List Record),
          (⟨progress.planned⟩ : Migrator Ddl).up none ⟨c, .idle, .universal .default, journal⟩ =
            (.ok progress', ⟨c', .idle, .universal .default, journal'⟩) ∧
          progress'.failure = none ∧ c'.schema = ⟨some [⟨1, 70⟩], some [], some ⟨[], 0, true, true⟩⟩ := by
  intro _ entry b h before s
  have latest : h.system.store.content.Latest b := Database.afterFirst_latest ⟨rfl, rfl⟩ .default
  have ordinary : Plan.AllOf (Errand.Ordinary fun _ => True) before := ⟨trivial, trivial⟩
  obtain ⟨b', latest', progress, c, journal, went, -, -, -, schema, -, progress', c', journal', went', fine, again, -⟩ :=
    schema_rolls_back_and_forward rfl latest ordinary 1 .default .default
  have unread : (runAll before h).system.store.content.schema = b.tables := rfl
  obtain rfl : b' = b := Books.tables_injective (latest'.books.symm.trans unread)
  exact ⟨rfl, latest, ordinary, progress, c, journal, went, schema, progress', c', journal', went', fine, again.books⟩

end Host
end Passbook
