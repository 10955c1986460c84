import Passbook.Proofs.Moves
import Passbook.Proofs.Reports

/-! What stands on the shelf and what the books tell. A report on the shelf was put there by the latest request that found none, and
holds the totals of its month as they were then. They stay what they are until an order of that month is paid; as the month is over,
no order is added to it any more. -/
namespace Passbook
open OrderRows Time

namespace Report

theorem key_injective {year month year' month' : Int} (same : key year month = key year' month') : year = year' ∧ month = month' := by
  have read (year month : Int) : key year month = toString year ++ "-" ++ toString month := rfl
  rw [read, read] at same
  obtain ⟨years, months⟩ := Text.split_at_minus same
  exact ⟨years, Text.numeral_injective months⟩

end Report

namespace Move
variable {b : Books} {time : Instant} {m : Move} {year month : Int}

def PaysIn (b : Books) (year month : Int) : Move → Prop
  | .payOrder id _ _ _ => ∃ order ∈ b.orders, order.id = id ∧ order.createdAt.InMonth year month
  | _ => False

theorem paidIn_made (sound : b.Sound) (allowed : m.Allowed b) (elsewhere : ¬ m.PaysIn b year month) :
    (m.made time b).paidIn year month = b.paidIn year month := by
  have isOpen {id account service amount : Int} (pending : b.Pending id account service amount) {order : OrderRow}
      (among : order ∈ b.orders) (named : order.id = id) : order.isPaid = false := by
    obtain ⟨other, there, named', _, _, _, isPending⟩ := pending
    cases sound.orders.unique among there (named.trans named'.symm)
    exact (Order.isPending_iff.mp isPending).1
  cases m with
  | credit account amount =>
    have same : (b.credited account amount time).orders = b.orders := Books.opened_orders
    rw [made, Books.paidIn, same, Books.paidIn]
  | transfer sender receiver amount => rfl
  | createOrder id account service amount => exact Rows.filter_insert_of_not rfl
  | payOrder id account service amount =>
    refine Rows.filter_update_of_not fun order among named => ⟨by simp [isOpen allowed among named], ?_⟩
    have outside : ¬ order.createdAt.InMonth year month := fun inside => elsewhere ⟨order, among, named, inside⟩
    have later : ¬ (finished .paid time order).createdAt.InMonth year month := outside
    rw [decide_eq_false later, Bool.and_false]
  | cancelOrder id account service amount =>
    refine Rows.filter_update_of_not fun order among named => ⟨by simp [isOpen allowed.1 among named], ?_⟩
    have stays : (finished .cancelled time order).isPaid = order.isPaid := rfl
    rw [stays, isOpen allowed.1 among named]
    rfl
  | wait later => rfl

end Move

/-- What is done on a system whose shelf is filled by its reports only. -/
inductive Chore (τ : Type) where
  | move (m : Move)
  | reportKey (year month : Int)
  | reportContent (key : String)
  | shelf (step : Shelf.Step τ) (plain : ¬ step.Fills)

namespace Chore
variable {τ : Type} [AddCommGroup τ] [LinearOrder τ] [Reach τ] {s : System τ} {c : Chore τ} {chores : List (Chore τ)}
  {year month : Int}

def run (s : System τ) : Chore τ → System τ
  | .move m => (System.work (m.run false) s).2
  | .reportKey year month => (System.reportKey year month none s).2
  | .reportContent key => (System.reportContent key s).2
  | .shelf step _ => (System.onShelf step s).2

def runAll (chores : List (Chore τ)) (s : System τ) : System τ := chores.foldl run s

theorem runAll_append (chores later : List (Chore τ)) (s : System τ) : runAll (chores ++ later) s = runAll later (runAll chores s) :=
  List.foldl_append

theorem runAll_snoc (chores : List (Chore τ)) (c : Chore τ) (s : System τ) : runAll (chores ++ [c]) s = c.run (runAll chores s) :=
  runAll_append chores [c] s

def Never (bad : System τ → Chore τ → Prop) : System τ → List (Chore τ) → Prop
  | _, [] => True
  | s, c :: chores => ¬ bad s c ∧ Never bad (c.run s) chores

theorem never_append {bad : System τ → Chore τ → Prop} {later : List (Chore τ)} :
    Never bad s (chores ++ later) ↔ Never bad s chores ∧ Never bad (runAll chores s) later := by
  induction chores generalizing s with
  | nil => exact (iff_of_eq (true_and _)).symm
  | cons c chores ih =>
    simp only [List.cons_append, Never, ih, and_assoc]
    rfl

theorem never_of_false (chores : List (Chore τ)) (s : System τ) : Never (fun _ _ => False) s chores := by
  induction chores generalizing s with
  | nil => trivial
  | cons c chores ih => exact ⟨id, ih _⟩

def Generates (year month : Int) (s : System τ) (c : Chore τ) : Prop :=
  c = .reportKey year month ∧ s.shelf.cache.contains s.shelf.clock (Report.key year month) = false ∧
    (System.reportKey year month none s).1 = .ok (Report.key year month)

def PaysIn (year month : Int) (s : System τ) (c : Chore τ) : Prop :=
  ∃ (m : Move) (b : Books) (answer : Option Answer), c = .move m ∧ s.store.content.schema = b.tables ∧
    (m.run false s.store).1 = .ok answer ∧ m.PaysIn b year month

def TurnsBack (s : System τ) (c : Chore τ) : Prop := ∃ time, c = .move (.wait time) ∧ time < s.store.now.wall

variable [Reach.Unbounded τ] {b : Books} {time : Instant}

/-- A chore makes a move, or leaves the books as they are. -/
theorem run_books (c : Chore τ) (stands : s.store.Stands time b) :
    (∃ m answer, c = .move m ∧ (m.run false s.store).1 = .ok answer ∧ m.Allowed b ∧
        (c.run s).store.Stands (m.timeAfter time) (m.made time b)) ∨ (c.run s).store.Stands time b := by
  obtain ⟨rests, books, sound⟩ := stands
  cases c with
  | move m =>
    have settled := m.settles time sound s.store rests books
    rcases ran : m.run false s.store with ⟨e | answer, t⟩
    all_goals
      have after : ((Chore.move m).run s).store = t := congrArg Prod.snd ran
      rw [ran] at settled
      rw [after]
    · exact .inr ⟨settled.2.1, settled.2.2, sound⟩
    · obtain ⟨allowed, rests', books'⟩ := settled
      exact .inl ⟨m, answer, rfl, congrArg Prod.fst ran, allowed, rests', books', Move.sound_made sound allowed⟩
  | reportKey year month =>
    rcases System.reportKey_cases rests.idle books sound year month none with
      ⟨same, -⟩ | ⟨-, -, -, -, -, rows, journal, -, done⟩
    · rw [run, same]
      exact .inr ⟨rests, books, sound⟩
    · rw [run, done]
      exact .inr ⟨⟨rests.idle, rests.now⟩, books, sound⟩
  | reportContent key =>
    rw [run, System.reportContent_eq]
    exact .inr ⟨rests, books, sound⟩
  | shelf step plain =>
    obtain ⟨journal, done⟩ := System.onShelf_eq s step
    rw [run, done]
    exact .inr ⟨⟨rests.idle, rests.now⟩, books, sound⟩

/-- What stands on the shelf after a chore stood there before, or the chore has put it there. -/
theorem run_shelf (c : Chore τ) (stands : s.store.Stands time b) {e : Cached τ Bytes} (there : e ∈ (c.run s).shelf.cache.entries) :
    (∃ old ∈ s.shelf.cache.entries, old.key = e.key ∧ old.value = e.value ∧
        ∀ year month, e.key = Report.key year month → ¬ Generates year month s c) ∨
      ∃ year month rows, Generates year month s c ∧ e.key = Report.key year month ∧
        (System.paidAmounts year month s).1 = .ok (Report.totals rows) ∧ e.value = Report.csvBytes (Report.totals rows) := by
  obtain ⟨rests, books, sound⟩ := stands
  cases c with
  | move m => exact .inl ⟨e, there, rfl, rfl, fun _ _ _ generates => nomatch generates.1⟩
  | reportContent key =>
    rw [run, System.reportContent_eq] at there
    have read := Shelf.mem_step s.shelf (s := .get key) id (e := e)
    rw [Shelf.step_get] at read
    obtain ⟨old, among, named, held⟩ := read there
    exact .inl ⟨old, among, named, held, fun _ _ _ generates => nomatch generates.1⟩
  | shelf step plain =>
    obtain ⟨journal, done⟩ := System.onShelf_eq s step
    rw [run, done] at there
    obtain ⟨old, among, named, held⟩ := Shelf.mem_step s.shelf plain there
    exact .inl ⟨old, among, named, held, fun _ _ _ generates => nomatch generates.1⟩
  | reportKey year month =>
    rcases System.reportKey_cases rests.idle books sound year month none with
      ⟨same, refused⟩ | ⟨start, known, ended, absent, within, rows, journal, sums, done⟩
    · rw [run, same] at there
      refine .inl ⟨e, there, rfl, rfl, fun year' month' _ ⟨same', absent, told⟩ => ?_⟩
      cases same'
      obtain ⟨e, failed⟩ := refused absent
      cases failed.symm.trans told
    · have generates : Generates year month s (.reportKey year month) := ⟨rfl, absent, congrArg Prod.fst done⟩
      rw [run, done] at there
      rcases Cache.mem_set.mp there with rfl | ⟨among, other⟩
      · obtain ⟨rows', sums', asked⟩ :=
          System.paidAmounts_of_books rests.idle books sound start known (Report.room_of_isOver ended) within
        cases sums.unique sums'
        exact .inr ⟨year, month, rows, generates, rfl, congrArg Prod.fst asked, rfl⟩
      · refine .inl ⟨e, among, rfl, rfl, fun year' month' named generates => ?_⟩
        cases generates.1
        exact other named

theorem Generates.inverted (generates : Generates year month s (.reportKey year month)) (stands : s.store.Stands time b) :
    1 ≤ year ∧ isMonth month = true ∧ Report.isOver year month s.store.now = true ∧
      (∀ service, Report.revenue (b.paidIn year month) service ≤ maxInteger) ∧
      ((Chore.reportKey year month).run s).store.Stands time b ∧
      ∃ rows, Report.Sums rows (b.paidIn year month) ∧ System.paidAmounts year month s = (.ok (Report.totals rows), s) := by
  obtain ⟨rests, books, sound⟩ := stands
  obtain ⟨-, absent, told⟩ := generates
  rcases System.reportKey_cases rests.idle books sound year month none with
    ⟨-, refused⟩ | ⟨start, known, ended, -, within, rows, journal, -, done⟩
  · obtain ⟨e, failed⟩ := refused absent
    cases failed.symm.trans told
  · refine ⟨start, known, ended, within, ?_,
      System.paidAmounts_of_books rests.idle books sound start known (Report.room_of_isOver ended) within⟩
    rw [run, done]
    exact ⟨⟨rests.idle, rests.now⟩, books, sound⟩

theorem runAll_keeps {bad : System τ → Chore τ → Prop} (keeps : Instant → Books → Prop)
    (step : ∀ {s time b m answer}, s.store.Stands time b → keeps time b → ¬ bad s (.move m) →
      (m.run false s.store).1 = .ok answer → m.Allowed b → keeps (m.timeAfter time) (m.made time b))
    (never : Never bad s chores) (stands : s.store.Stands time b) (start : keeps time b) :
    ∃ time' b', (runAll chores s).store.Stands time' b' ∧ keeps time' b' := by
  induction chores generalizing s time b with
  | nil => exact ⟨time, b, stands, start⟩
  | cons c chores ih =>
    obtain ⟨good, later⟩ := never
    rcases c.run_books stands with ⟨m, answer, rfl, answered, allowed, stands'⟩ | stands'
    · exact ih later stands' (step stands start good answered allowed)
    · exact ih later stands' start

theorem runAll_stands (chores : List (Chore τ)) (stands : s.store.Stands time b) :
    ∃ time' b', (runAll chores s).store.Stands time' b' := by
  obtain ⟨time', b', stands', -⟩ :=
    runAll_keeps (fun _ _ => True) (fun _ _ _ _ _ => trivial) (never_of_false chores s) stands trivial
  exact ⟨time', b', stands'⟩

theorem runAll_paidIn (never : Never (PaysIn year month) s chores) (stands : s.store.Stands time b) :
    ∃ time' b', (runAll chores s).store.Stands time' b' ∧ b'.paidIn year month = b.paidIn year month := by
  refine runAll_keeps (fun _ b' => b'.paidIn year month = b.paidIn year month) ?_ never stands rfl
  intro s time b' m answer stands' same elsewhere answered allowed
  refine (Move.paidIn_made stands'.sound allowed fun pays => elsewhere ?_).trans same
  exact ⟨m, b', answer, rfl, stands'.books, answered, pays⟩

theorem runAll_orders {clock : Reading} (ended : Report.isOver year month clock = true) (late : clock.wall ≤ time)
    (never : Never TurnsBack s chores) (stands : s.store.Stands time b) :
    ∃ time' b', (runAll chores s).store.Stands time' b' ∧ ∀ order ∈ b'.orders, order.createdAt.InMonth year month →
      ∃ old ∈ b.orders, old.id = order.id ∧ old.createdAt = order.createdAt := by
  let keeps (time' : Instant) (b' : Books) : Prop := clock.wall ≤ time' ∧
    ∀ order ∈ b'.orders, order.createdAt.InMonth year month →
      ∃ old ∈ b.orders, old.id = order.id ∧ old.createdAt = order.createdAt
  have step {s : System τ} {time' : Instant} {b' : Books} {m : Move} {answer : Option Answer} (stands' : s.store.Stands time' b')
      (kept : keeps time' b') (forward : ¬ TurnsBack s (.move m)) (_ : (m.run false s.store).1 = .ok answer) (_ : m.Allowed b') :
      keeps (m.timeAfter time') (m.made time' b') := by
    obtain ⟨late', there⟩ := kept
    constructor
    · cases m with
      | wait later =>
        have onward : time' ≤ later := by
          apply Nat.le_of_not_lt
          intro back
          refine forward ⟨later, rfl, ?_⟩
          rw [stands'.rests.now]
          exact back
        exact Nat.le_trans late' onward
      | _ => exact late'
    · intro order among inside
      rcases Move.orders_made among with ⟨old, before, named, dated⟩ | new
      · obtain ⟨oldest, first, named', dated'⟩ := there old before (dated ▸ inside)
        exact ⟨oldest, first, named'.trans named, dated'.trans dated⟩
      · rw [new] at inside
        exact absurd inside (Report.not_inMonth_of_isOver ended late')
  obtain ⟨time', b', stands', -, kept⟩ :=
    runAll_keeps keeps step never stands ⟨late, fun order among _ => ⟨order, among, rfl, rfl⟩⟩
  exact ⟨time', b', stands', kept⟩

/-- Where what stands on the shelf comes from: after `before`, the report of a month was asked for and not there, and in `after` it
was not generated again. -/
structure Origin (s : System τ) (before after : List (Chore τ)) (year month : Int) (value : Bytes) : Prop where
  generates : Generates year month (runAll before s) (.reportKey year month)
  told : ∃ totals, (System.paidAmounts year month (runAll before s)).1 = .ok totals ∧ value = Report.csvBytes totals
  latest : Never (Generates year month) (runAll (before ++ [.reportKey year month]) s) after

theorem origin_of_mem (stands : s.store.Stands time b) (empty : s.shelf.cache.entries = []) (chores : List (Chore τ))
    {e : Cached τ Bytes} (there : e ∈ (runAll chores s).shelf.cache.entries) :
    ∃ before after year month, chores = before ++ .reportKey year month :: after ∧ e.key = Report.key year month ∧
      Origin s before after year month e.value := by
  -- From the last chore backwards: what stands on the shelf after it stood there before, or was put there by it.
  induction chores using List.reverseRecOn generalizing e with
  | nil =>
    rw [runAll, List.foldl_nil, empty] at there
    cases there
  | append_singleton chores c ih =>
    obtain ⟨time', b', stands'⟩ := runAll_stands chores stands
    rw [runAll_append] at there
    rcases run_shelf c stands' there with ⟨old, among, named, held, other⟩ | ⟨year, month, rows, generates, named, asked, held⟩
    · obtain ⟨before, after, year, month, rfl, named', origin⟩ := ih among
      refine ⟨before, after ++ [c], year, month, by simp, named ▸ named', origin.generates, held ▸ origin.told, ?_⟩
      refine never_append.mpr ⟨origin.latest, ?_, trivial⟩
      rw [← runAll_append, List.append_assoc]
      exact other year month (named ▸ named')
    · cases generates.1
      exact ⟨chores, [], year, month, rfl, named, generates, ⟨_, asked, held⟩, trivial⟩

/-- A report that is read was generated by the latest request that did not find it, with the totals of the month at that time. They
are the totals of the month at the time of the read, unless an order of the month has been paid since; and while no clock is put
back, every order of the month was there when the report was generated. -/
theorem reportContent_coherent (stands : s.store.Stands time b) (empty : s.shelf.cache.entries = []) (chores : List (Chore τ))
    {bytes : Bytes} (read : (System.reportContent (Report.key year month) (runAll chores s)).1 = .ok bytes) :
    ∃ before after, chores = before ++ .reportKey year month :: after ∧ Origin s before after year month bytes ∧
      (Never (PaysIn year month) (runAll (before ++ [.reportKey year month]) s) after →
        ∃ totals, (System.paidAmounts year month (runAll chores s)).1 = .ok totals ∧ bytes = Report.csvBytes totals) ∧
      (Never TurnsBack s chores → ∃ b₀ b₁ : Books, (runAll before s).store.content.schema = b₀.tables ∧
        (runAll chores s).store.content.schema = b₁.tables ∧ ∀ order ∈ b₁.orders, order.createdAt.InMonth year month →
          ∃ old ∈ b₀.orders, old.id = order.id ∧ old.createdAt = order.createdAt) := by
  obtain ⟨e, there, named, rfl⟩ :
      ∃ e ∈ (runAll chores s).shelf.cache.entries, e.key = Report.key year month ∧ e.value = bytes := by
    rw [System.reportContent_eq] at read
    rcases Cache.get_cases (runAll chores s).shelf.cache (runAll chores s).shelf.clock (Report.key year month) with
      ⟨_, got⟩ | ⟨_, _, _, got⟩ | ⟨e, found, _, got⟩ <;> rw [got] at read <;> cases read
    obtain ⟨there, named⟩ := Cache.find?_eq_some found
    exact ⟨e, there, named, rfl⟩
  obtain ⟨before, after, year', month', rfl, named', origin⟩ := origin_of_mem stands empty chores there
  obtain ⟨rfl, rfl⟩ := Report.key_injective (named.symm.trans named')
  obtain ⟨time₀, b₀, stands₀⟩ := runAll_stands before stands
  obtain ⟨start, known, ended, within, generated, asked⟩ := origin.generates.inverted stands₀
  have parts : runAll (before ++ .reportKey year month :: after) s = runAll after (runAll (before ++ [.reportKey year month]) s) := by
    rw [← runAll_append, List.append_assoc]
    rfl
  rw [← runAll_snoc] at generated
  refine ⟨before, after, rfl, origin, fun unpaid => ?_, fun forward => ?_⟩
  · obtain ⟨time₁, b₁, stands₁, same⟩ := runAll_paidIn unpaid generated
    obtain ⟨totals, asked₀, held⟩ := origin.told
    obtain ⟨rows₀, sums₀, told₀⟩ := asked
    obtain ⟨rows₁, sums₁, told₁⟩ :=
      System.paidAmounts_of_books stands₁.rests.idle stands₁.books stands₁.sound start known (Report.room_of_isOver ended)
        (same ▸ within)
    rw [same] at sums₁
    cases sums₀.unique sums₁
    refine ⟨totals, ?_, held⟩
    rw [parts, told₁, ← asked₀, told₀]
  · have later : Never TurnsBack (runAll (before ++ [.reportKey year month]) s) after := by
      rw [runAll_snoc]
      exact (never_append.mp forward).2.2
    have now : (runAll before s).store.now.wall ≤ time₀ := by
      rw [stands₀.rests.now]
      exact Nat.le_refl _
    obtain ⟨time₁, b₁, stands₁, kept⟩ := runAll_orders ended now later generated
    exact ⟨b₀, b₁, stands₀.books, parts ▸ stands₁.books, kept⟩

theorem reportContent_of_generated (generates : Generates year month s (.reportKey year month)) (stands : s.store.Stands time b)
    (lasting : 0 ≤ s.shelf.cache.ttl) (moves : List Move) :
    ∃ bytes, (System.reportContent (Report.key year month) (runAll (.reportKey year month :: moves.map .move) s)).1 = .ok bytes := by
  have untouched (moves : List Move) (s : System τ) : (runAll (moves.map .move) s).shelf = s.shelf := by
    induction moves generalizing s with
    | nil => rfl
    | cons m moves ih => exact ih _
  have young : ¬ s.shelf.cache.ttl < s.shelf.clock - s.shelf.clock := by
    rw [sub_self]
    exact not_lt.mpr lasting
  obtain ⟨-, absent, told⟩ := generates
  rcases System.reportKey_cases stands.rests.idle stands.books stands.sound year month none with
    ⟨-, refused⟩ | ⟨-, -, -, -, -, rows, journal, -, done⟩
  · obtain ⟨e, failed⟩ := refused absent
    cases failed.symm.trans told
  · have parts : runAll (.reportKey year month :: moves.map .move) s =
        runAll (moves.map .move) (System.reportKey year month none s).2 := rfl
    rw [parts, System.reportContent_eq, untouched, done]
    dsimp only
    rw [Cache.get_set_self young]
    exact ⟨_, rfl⟩

/-- A report of April, read after another credit in May. -/
theorem reportContent_coherent_in_may :
    let _ : Reach Int := .everywhere Int
    let april : Instant := ⟨63817848800000000, by decide⟩
    let s : System Int := ⟨{}, Step.runAll [.move (.credit 1 100), .move (.createOrder 7 1 (-5) 30), .move (.payOrder 7 1 (-5) 30)]
      (.fresh april), ⟨⟨3600, 3600, []⟩, 0, true⟩⟩
    let chores : List (Chore Int) := [.move (.wait .default), .reportKey 2023 4, .move (.credit 1 5)]
    s.store.Stands april (((Books.fresh.credited 1 100 april).ordered 7 1 (-5) 30 april).settled .paid april 7) ∧
      s.shelf.cache.entries = [] ∧ ∃ bytes, (System.reportContent (Report.key 2023 4) (runAll chores s)).1 = .ok bytes ∧
        ∃ before after, chores = before ++ .reportKey 2023 4 :: after ∧ Origin s before after 2023 4 bytes := by
  intro _ april
  have _ : Reach.Unbounded Int := .everywhere Int
  have stands := Step.runAll_paid april
  generalize Step.runAll _ (.fresh april) = store at stands ⊢
  intro s chores
  have earned : (((Books.fresh.credited 1 100 april).ordered 7 1 (-5) 30 april).settled .paid april 7).paidIn 2023 4 =
      [⟨7, .int 1, .int (-5), .int 30, .ofBool true, .ofBool false, april, april⟩] := by decide
  have within (service : Int) :
      Report.revenue [⟨7, .int 1, .int (-5), .int 30, .ofBool true, .ofBool false, april, april⟩] service ≤ maxInteger := by
    rw [Report.revenue_singleton]
    split <;> decide
  have ended : Report.isOver 2023 4 (.universal .default) = true := by decide
  have waited : ((Chore.move (.wait .default)).run s).store.Stands .default _ :=
    ⟨⟨stands.rests.idle, rfl⟩, stands.books, stands.sound⟩
  have generates : Generates 2023 4 ((Chore.move (.wait .default)).run s) (.reportKey 2023 4) := by
    obtain ⟨-, -, told⟩ := System.reportKey_of_books none waited.rests.idle waited.books waited.sound
      (by decide) (by decide) ended rfl
    obtain ⟨rows, journal, -, done⟩ := told (by simp [earned]) (earned ▸ within)
    exact ⟨rfl, rfl, congrArg Prod.fst done⟩
  have lasting : (0 : Int) ≤ 3600 := by decide
  obtain ⟨bytes, read⟩ := reportContent_of_generated generates waited lasting [.credit 1 5]
  obtain ⟨before, after, split, origin, -⟩ := reportContent_coherent stands rfl chores read
  exact ⟨stands, rfl, bytes, read, before, after, split, origin⟩

end Chore
end Passbook
