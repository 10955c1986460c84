import Passbook.Proofs.Bookkeeping
import Passbook.Proofs.Months

/-! What orders bring in, by service. The tallies of a statement hold one row for each service in ascending order, each with the sum
of its amounts, or spoilt once that has left 64 bits. -/
namespace Passbook
open OrderRows Time

/-- What orders bring in for a service. -/
def Report.revenue (orders : List OrderRow) (service : Int) : Int :=
  ((orders.filter fun order => order.service = .int service).map fun order => order.amount.whole).sum

/-- One row for each service of some orders, in ascending order, with what they bring in for it. -/
structure Report.Sums (rows : List (Int × Int)) (orders : List OrderRow) : Prop where
  ascending : (rows.map Prod.fst).Pairwise (· < ·)
  services : ∀ service, service ∈ rows.map Prod.fst ↔ ∃ order ∈ orders, order.service = .int service
  sums : ∀ row ∈ rows, row.2 = revenue orders row.1

namespace OrderRows

def IsPriced (order : OrderRow) : Prop :=
  ∃ service amount, order.service = .int service ∧ order.amount = .int amount ∧ 0 < amount ∧ amount ≤ maxInteger

structure Tally.Sums (tally : Tally) (sum : Int) : Prop where
  isExact : tally.isExact = true
  spoilt : tally.isSpoilt = true ↔ maxInteger < sum
  exact : tally.isSpoilt = false → tally.exact = sum

theorem Tally.Sums.none : ({} : Tally).Sums 0 where
  isExact := rfl
  spoilt := by decide
  exact := fun _ => rfl

theorem Tally.Sums.add {tally : Tally} {sum amount : Int} (sums : tally.Sums sum) (low : 0 ≤ sum) (positive : 0 < amount) :
    (tally.add (.int amount)).Sums (sum + amount) := by
  have start : minInteger ≤ 0 := by decide
  cases spoilt : tally.isSpoilt with
  | true =>
    -- Amounts are positive: a sum that has left 64 bits does not come back.
    have passed := sums.spoilt.mp spoilt
    have added : tally.add (.int amount) = { tally with real := tally.real + Float.ofInt amount } := by
      simp [Tally.add, spoilt]
    rw [added]
    exact ⟨sums.isExact, ⟨fun _ => by omega, fun _ => spoilt⟩, fun never => absurd (spoilt.symm.trans never) (by decide)⟩
  | false =>
    have isSum := sums.exact spoilt
    by_cases fits : fitsInteger (sum + amount) = true
    · have bounded := (fitsInteger_bounds fits).2
      have added : tally.add (.int amount) = { tally with exact := sum + amount, real := tally.real + Float.ofInt amount } := by
        simp [Tally.add, spoilt, sums.isExact, isSum, fits]
      rw [added]
      exact ⟨sums.isExact, ⟨fun never => absurd (spoilt.symm.trans never) (by decide), fun _ => by omega⟩, fun _ => rfl⟩
    · have passed : maxInteger < sum + amount := by
        by_contra within
        exact fits (fitsInteger_of_nonneg (by omega) (by omega))
      have added : tally.add (.int amount) = { tally with isSpoilt := true, real := tally.real + Float.ofInt amount } := by
        simp [Tally.add, spoilt, sums.isExact, isSum, fits]
      rw [added]
      exact ⟨sums.isExact, ⟨fun _ => passed, fun _ => rfl⟩, fun never => nomatch never⟩

def enter (service amount : Int) : List (Int × Tally) → List (Int × Tally)
  | [] => [(service, Tally.add {} (.int amount))]
  | row :: rows =>
    if service = row.1 then (row.1, row.2.add (.int amount)) :: rows
    else if service < row.1 then (service, Tally.add {} (.int amount)) :: row :: rows
    else row :: enter service amount rows

def cellsOf (rows : List (Int × Tally)) : List (Cell × Tally) := rows.map fun row => (.int row.1, row.2)

section
variable {service amount : Int} {rows : List (Int × Tally)}

theorem addTally_cells : addTally (.int service) (.int amount) (cellsOf rows) = cellsOf (enter service amount rows) := by
  induction rows with
  | nil => rfl
  | cons row rows ih =>
    have compared : Cell.compare (.int service) (.int row.1) = Ord.compare service row.1 := rfl
    unfold cellsOf at ih ⊢
    rw [List.map_cons, addTally, compared, enter]
    rcases Int.lt_trichotomy service row.1 with below | same | above
    · rw [Int.compare_eq_lt.mpr below, if_neg below.ne, if_pos below]
      rfl
    · rw [Int.compare_eq_eq.mpr same, if_pos same]
      rfl
    · rw [Int.compare_eq_gt.mpr above, if_neg above.ne', if_neg above.not_gt, ih]
      rfl

theorem mem_keys_enter {k : Int} : k ∈ (enter service amount rows).map Prod.fst ↔ k = service ∨ k ∈ rows.map Prod.fst := by
  induction rows with
  | nil => simp [enter]
  | cons row rows ih =>
    unfold enter
    split
    · rename_i same
      simp [same]
    · split
      · simp
      · simp only [List.map_cons, List.mem_cons, ih]
        exact or_left_comm

theorem enter_ascending (ascending : (rows.map Prod.fst).Pairwise (· < ·)) :
    ((enter service amount rows).map Prod.fst).Pairwise (· < ·) := by
  induction rows with
  | nil => exact List.pairwise_singleton _ _
  | cons row rows ih =>
    obtain ⟨below, rest⟩ := List.pairwise_cons.mp ascending
    unfold enter
    split
    · exact ascending
    · split
      · rename_i before
        refine List.pairwise_cons.mpr ⟨fun k among => ?_, ascending⟩
        rcases List.mem_cons.mp among with rfl | among
        · exact before
        · exact before.trans (below k among)
      · refine List.pairwise_cons.mpr ⟨fun k among => ?_, ih rest⟩
        rcases mem_keys_enter.mp among with rfl | among
        · omega
        · exact below k among

theorem enter_sums {sum : Int → Int} (ascending : (rows.map Prod.fst).Pairwise (· < ·))
    (sums : ∀ row ∈ rows, row.2.Sums (sum row.1))
    (low : 0 ≤ sum service) (new : service ∉ rows.map Prod.fst → sum service = 0) (positive : 0 < amount) :
    ∀ row ∈ enter service amount rows, row.2.Sums (sum row.1 + if row.1 = service then amount else 0) := by
  have first (absent : service ∉ rows.map Prod.fst) :
      (Tally.add {} (.int amount)).Sums (sum service + if service = service then amount else 0) := by
    rw [new absent, if_pos rfl]
    exact Tally.Sums.none.add (Int.le_refl 0) positive
  induction rows with
  | nil =>
    intro row among
    cases List.mem_singleton.mp among
    exact first (by simp)
  | cons row rows ih =>
    obtain ⟨below, rest⟩ := List.pairwise_cons.mp ascending
    have kept {other : Int × Tally} (among : other ∈ row :: rows) (apart : other.1 ≠ service) :
        other.2.Sums (sum other.1 + if other.1 = service then amount else 0) := by
      rw [if_neg apart, Int.add_zero]
      exact sums other among
    have behind {other : Int × Tally} (among : other ∈ rows) : row.1 < other.1 :=
      below other.1 (List.mem_map_of_mem among)
    unfold enter
    intro other among
    split at among
    · rename_i same
      rcases List.mem_cons.mp among with rfl | among
      · rw [if_pos same.symm]
        subst same
        exact (sums row List.mem_cons_self).add low positive
      · exact kept (List.mem_cons_of_mem _ among) (same ▸ (behind among).ne')
    · rename_i apart
      split at among
      · rename_i before
        rcases List.mem_cons.mp among with rfl | among
        · refine first fun there => ?_
          rcases List.mem_cons.mp there with same | there
          · exact apart same
          · exact (before.trans (below service there)).ne rfl
        · refine kept among ?_
          rcases List.mem_cons.mp among with rfl | among
          · exact before.ne'
          · exact (before.trans (behind among)).ne'
      · have fewer : service ∉ rows.map Prod.fst → service ∉ (row :: rows).map Prod.fst := by
          intro absent there
          rcases List.mem_cons.mp there with same | there
          · exact apart same
          · exact absent there
        rcases List.mem_cons.mp among with rfl | among
        · exact kept List.mem_cons_self fun same => apart same.symm
        · exact ih rest (fun other among => sums other (List.mem_cons_of_mem _ among)) (fun absent => new (fewer absent))
            (fun absent => first (fewer absent)) other among

end

structure Tallied (rows : List (Int × Tally)) (orders : List OrderRow) : Prop where
  ascending : (rows.map Prod.fst).Pairwise (· < ·)
  services : ∀ service, service ∈ rows.map Prod.fst ↔ ∃ order ∈ orders, order.service = .int service
  sums : ∀ row ∈ rows, row.2.Sums (Report.revenue orders row.1)

end OrderRows

namespace Report
variable {orders orders' : List OrderRow} {service : Int}

theorem revenue_perm (same : orders.Perm orders') (service : Int) : revenue orders service = revenue orders' service :=
  ((same.filter _).map _).sum_eq

theorem revenue_snoc (orders : List OrderRow) (order : OrderRow) (service : Int) :
    revenue (orders ++ [order]) service = revenue orders service + if order.service = .int service then order.amount.whole else 0 := by
  unfold revenue
  rw [List.filter_append, List.map_append, List.sum_append]
  by_cases served : order.service = .int service <;> simp [served]

theorem revenue_of_absent (absent : ∀ order ∈ orders, order.service ≠ .int service) : revenue orders service = 0 := by
  unfold revenue
  rw [List.filter_eq_nil_iff.mpr fun order among => by simpa using absent order among]
  rfl

theorem revenue_singleton (order : OrderRow) (service : Int) :
    revenue [order] service = if order.service = .int service then order.amount.whole else 0 := by
  have once := revenue_snoc [] order service
  rwa [List.nil_append, revenue_of_absent fun _ among => absurd among List.not_mem_nil, Int.zero_add] at once

theorem prices_pos (priced : ∀ order ∈ orders, IsPriced order) (service : Int) :
    ∀ amount ∈ (orders.filter fun order => order.service = .int service).map (fun order => order.amount.whole), 0 < amount := by
  intro amount among
  obtain ⟨order, kept, rfl⟩ := List.mem_map.mp among
  obtain ⟨_, amount, _, isAmount, positive, _⟩ := priced order (List.mem_filter.mp kept).1
  rw [isAmount]
  exact positive

theorem revenue_nonneg (priced : ∀ order ∈ orders, IsPriced order) (service : Int) : 0 ≤ revenue orders service :=
  List.sum_nonneg fun amount among => (prices_pos priced service amount among).le

theorem revenue_pos (priced : ∀ order ∈ orders, IsPriced order) {order : OrderRow} (among : order ∈ orders)
    (served : order.service = .int service) : 0 < revenue orders service := by
  refine List.sum_pos _ (prices_pos priced service) fun empty => ?_
  have kept : order ∈ orders.filter fun order => order.service = .int service := List.mem_filter.mpr ⟨among, by simpa using served⟩
  rw [List.map_eq_nil_iff.mp empty] at kept
  cases kept

theorem Sums.eq_nil {rows : List (Int × Int)} (sums : Sums rows []) : rows = [] := by
  cases rows with
  | nil => rfl
  | cons row rows =>
    obtain ⟨_, among, _⟩ := (sums.services row.1).mp List.mem_cons_self
    cases among

theorem Sums.unique {rows rows' : List (Int × Int)} (sums : Sums rows orders) (sums' : Sums rows' orders) : rows = rows' := by
  have services : rows.map Prod.fst = rows'.map Prod.fst :=
    sums.ascending.eq_of_mem_iff sums'.ascending fun service => (sums.services service).trans (sums'.services service).symm
  have told {rows : List (Int × Int)} (sums : Sums rows orders) :
      rows = (rows.map Prod.fst).map fun service => (service, revenue orders service) := by
    rw [List.map_map]
    refine (List.map_id' rows).symm.trans (List.map_congr_left fun row among => ?_)
    exact Prod.ext rfl (sums.sums row among)
  rw [told sums, told sums', services]

theorem Sums.ne_nil {rows : List (Int × Int)} (sums : Sums rows orders) (priced : ∀ order ∈ orders, IsPriced order)
    (filled : orders ≠ []) : rows ≠ [] := by
  rintro rfl
  obtain ⟨order, among⟩ := List.exists_mem_of_ne_nil orders filled
  obtain ⟨service, _, served, _⟩ := priced order among
  cases (sums.services service).mpr ⟨order, among, served⟩

end Report

namespace OrderRows
variable {rows : List (Int × Tally)} {orders : List OrderRow}

theorem Tallied.enter (tallied : Tallied rows orders) (priced : ∀ order ∈ orders, IsPriced order) {order : OrderRow}
    {service amount : Int} (served : order.service = .int service) (costs : order.amount = .int amount) (positive : 0 < amount) :
    Tallied (enter service amount rows) (orders ++ [order]) where
  ascending := enter_ascending tallied.ascending
  services := by
    intro k
    rw [mem_keys_enter, tallied.services]
    constructor
    · rintro (rfl | ⟨other, among, same⟩)
      · exact ⟨order, by simp, served⟩
      · exact ⟨other, List.mem_append_left _ among, same⟩
    · rintro ⟨other, among, same⟩
      rcases List.mem_append.mp among with among | new
      · exact .inr ⟨other, among, same⟩
      · cases List.mem_singleton.mp new
        exact .inl (Cell.int.inj (same.symm.trans served))
  sums := by
    have new : service ∉ rows.map Prod.fst → Report.revenue orders service = 0 := fun absent =>
      Report.revenue_of_absent fun other among same => absent ((tallied.services service).mpr ⟨other, among, same⟩)
    intro row among
    have sums := enter_sums tallied.ascending tallied.sums (Report.revenue_nonneg priced service) new positive row among
    have same : order.service = .int row.1 ↔ row.1 = service := by
      rw [served, Cell.int.injEq]
      exact eq_comm
    have whole : order.amount.whole = amount := by
      rw [costs]
      rfl
    rw [Report.revenue_snoc, whole]
    simpa only [same] using sums

theorem foldl_tallied {done rest : List OrderRow} (tallied : Tallied rows done) (priced : ∀ order ∈ done, IsPriced order)
    (priced' : ∀ order ∈ rest, IsPriced order) :
    ∃ rows', rest.foldl (fun tallies o => addTally o.service o.amount tallies) (cellsOf rows) = cellsOf rows' ∧
      Tallied rows' (done ++ rest) := by
  induction rest generalizing done rows with
  | nil => exact ⟨rows, rfl, by rwa [List.append_nil]⟩
  | cons order rest ih =>
    obtain ⟨service, amount, served, costs, positive, _⟩ := priced' order List.mem_cons_self
    have both : ∀ other ∈ done ++ [order], IsPriced other := by
      intro other among
      rcases List.mem_append.mp among with among | new
      · exact priced other among
      · rw [List.mem_singleton.mp new]
        exact priced' order List.mem_cons_self
    obtain ⟨rows', folded, tallied'⟩ := ih (tallied.enter priced served costs positive) both fun other among =>
      priced' other (List.mem_cons_of_mem _ among)
    refine ⟨rows', ?_, by simpa using tallied'⟩
    rw [List.foldl_cons, served, costs, addTally_cells, folded]

/-- The order in which amounts are added makes no difference to what the tallies tell. -/
theorem talliesByService_tallied (priced : ∀ order ∈ orders, IsPriced order) :
    ∃ rows, talliesByService orders = cellsOf rows ∧ Tallied rows orders := by
  have same := List.mergeSort_perm orders fun a b => decide (a.createdAt ≤ b.createdAt)
  have nothing : Tallied [] [] := ⟨List.Pairwise.nil, by simp, by simp⟩
  obtain ⟨rows, folded, tallied⟩ := foldl_tallied nothing (by simp) fun order among => priced order (same.mem_iff.mp among)
  refine ⟨rows, folded, tallied.ascending, fun service => ?_, fun row among => ?_⟩
  · rw [tallied.services]
    simp only [List.nil_append, same.mem_iff]
  · rw [← Report.revenue_perm same]
    exact tallied.sums row among

def told (rows : List (Int × Tally)) : List (Int × Int) := rows.map fun row => (row.1, row.2.exact)

theorem Tallied.told (tallied : Tallied rows orders) (within : ∀ service, Report.revenue orders service ≤ maxInteger) :
    Report.Sums (told rows) orders := by
  have keys : (OrderRows.told rows).map Prod.fst = rows.map Prod.fst := by
    unfold OrderRows.told
    rw [List.map_map]
    rfl
  refine ⟨keys ▸ tallied.ascending, fun service => keys ▸ tallied.services service, fun row among => ?_⟩
  obtain ⟨tallyRow, there, rfl⟩ := List.mem_map.mp among
  have sums := tallied.sums tallyRow there
  have sound : tallyRow.2.isSpoilt = false := by
    rw [← Bool.not_eq_true, sums.spoilt]
    exact not_lt.mpr (within tallyRow.1)
  exact sums.exact sound

theorem mapM_total_of_within (sound : ∀ row ∈ rows, row.2.isExact = true ∧ row.2.isSpoilt = false) :
    (cellsOf rows).mapM (fun (service, tally) => do return (service, ← tally.total) : Cell × Tally → Except Refusal (Cell × Cell)) =
      .ok ((told rows).map fun row => (.int row.1, .int row.2)) := by
  induction rows with
  | nil => rfl
  | cons row rows ih =>
    have rest := ih fun other among => sound other (List.mem_cons_of_mem _ among)
    obtain ⟨isExact, isSound⟩ := sound row List.mem_cons_self
    unfold cellsOf told at rest ⊢
    rw [List.map_cons, List.mapM_cons, rest]
    simp [Tally.total, isExact, isSound]

theorem mapM_total_of_spoilt (spoilt : ∃ row ∈ rows, row.2.isSpoilt = true) :
    (cellsOf rows).mapM (fun (service, tally) => do return (service, ← tally.total) : Cell × Tally → Except Refusal (Cell × Cell)) =
      .error .sumOverflow := by
  induction rows with
  | nil =>
    obtain ⟨_, among, _⟩ := spoilt
    cases among
  | cons row rows ih =>
    unfold cellsOf at ih ⊢
    rw [List.map_cons, List.mapM_cons]
    cases here : row.2.isSpoilt with
    | true => simp [Tally.total, here]
    | false =>
      obtain ⟨other, among, isSpoilt⟩ := spoilt
      rcases List.mem_cons.mp among with rfl | among
      · cases here.symm.trans isSpoilt
      · rw [ih ⟨other, among, isSpoilt⟩]
        simp [Tally.total, here]

end OrderRows

namespace Books
variable {b : Books} {order : OrderRow} {year month : Int} {first next : Instant}

/-- The paid orders that were created in a month of universal time. -/
def paidIn (b : Books) (year month : Int) : List OrderRow :=
  b.orders.filter fun order => order.isPaid && !order.isCancelled && decide (order.createdAt.InMonth year month)

theorem Regular.isPriced (regular : b.Regular order) : IsPriced order := by
  obtain ⟨service, served, _⟩ := regular.service
  obtain ⟨amount, costs, low, high⟩ := regular.amount
  exact ⟨service, amount, served, costs, low, high⟩

theorem Sound.paidIn_priced (sound : b.Sound) : ∀ order ∈ b.paidIn year month, IsPriced order :=
  fun order among => (sound.regular order (List.mem_filter.mp among).1).isPriced

/-- The paid orders whose stored time of creation stands between two texts. -/
def paidBetween (b : Books) (low high : String) : List OrderRow :=
  b.orders.filter fun order =>
    order.isPaid && !order.isCancelled && decide (low ≤ order.createdAt.stamp) && decide (order.createdAt.stamp < high)

/-- The stamps of a month are those from its first instant up to that of the next month. -/
theorem paidBetween_stamps (b : Books) (spans : ∀ i, (first ≤ i ∧ i < next) ↔ i.InMonth year month) :
    b.paidBetween first.stamp next.stamp = b.paidIn year month := by
  refine List.filter_congr fun order _ => ?_
  have inside : first.stamp ≤ order.createdAt.stamp ∧ order.createdAt.stamp < next.stamp ↔ order.createdAt.InMonth year month :=
    (and_congr Instant.stamp_le_iff Instant.stamp_lt_iff).trans (spans order.createdAt)
  rw [Bool.and_assoc, ← Bool.decide_and, decide_eq_decide.mpr inside]

theorem Sound.filter_isRevenue (sound : b.Sound) : b.orders.filter (isRevenue first next) = b.paidBetween first.stamp next.stamp := by
  refine List.filter_congr fun order among => ?_
  obtain ⟨paid, isPaid⟩ := (sound.regular order among).paid
  obtain ⟨cancelled, isCancelled⟩ := (sound.regular order among).cancelled
  have flags : (order.paid.agrees (.ofBool true) && order.cancelled.agrees (.ofBool false)) = (order.isPaid && !order.isCancelled) := by
    rw [Order.isPaid, Order.isCancelled, isPaid, isCancelled]
    cases paid <;> cases cancelled <;> rfl
  unfold isRevenue
  rw [flags]

end Books

namespace OrderRows
variable {b : Books} {year month : Int} {first next : Instant}

theorem paidTotals_of_within (sound : b.Sound) (spans : ∀ i, (first ≤ i ∧ i < next) ↔ i.InMonth year month) (deferred : Bool)
    (within : ∀ service, Report.revenue (b.paidIn year month) service ≤ maxInteger) :
    ∃ rows, Report.Sums rows (b.paidIn year month) ∧
      paidTotals first next deferred b.tables = .ok (rows.map fun row => (.int row.1, .int row.2), b.tables) := by
  have priced : ∀ order ∈ b.paidIn year month, IsPriced order := sound.paidIn_priced
  obtain ⟨rows, tallies, tallied⟩ := talliesByService_tallied priced
  have isSound (row : Int × Tally) (among : row ∈ rows) : row.2.isExact = true ∧ row.2.isSpoilt = false := by
    have sums := tallied.sums row among
    refine ⟨sums.isExact, ?_⟩
    rw [← Bool.not_eq_true, sums.spoilt]
    exact not_lt.mpr (within row.1)
  have sums := tallied.told within
  have positive : ∀ row ∈ (told rows).map (fun row => (Cell.int row.1, Cell.int row.2)), (row.2.compare (.int 0)).isGT = true := by
    intro cells among
    obtain ⟨row, there, rfl⟩ := List.mem_map.mp among
    obtain ⟨order, paid, served⟩ := (sums.services row.1).mp (List.mem_map_of_mem there)
    have earned := Report.revenue_pos sound.paidIn_priced paid served
    rw [← sums.sums row there] at earned
    exact Ordering.isGT_iff_eq_gt.mpr (Int.compare_eq_gt.mpr earned)
  refine ⟨told rows, sums, ?_⟩
  unfold paidTotals
  rw [ordersOf_tables, ok_bind, sound.filter_isRevenue, b.paidBetween_stamps spans, tallies, mapM_total_of_within isSound, ok_bind,
    List.filter_eq_self.mpr positive]
  rfl

theorem paidTotals_of_passed (sound : b.Sound) (spans : ∀ i, (first ≤ i ∧ i < next) ↔ i.InMonth year month) (deferred : Bool)
    {service : Int} (passed : maxInteger < Report.revenue (b.paidIn year month) service) :
    paidTotals first next deferred b.tables = .error .sumOverflow := by
  have priced : ∀ order ∈ b.paidIn year month, IsPriced order := sound.paidIn_priced
  obtain ⟨rows, tallies, tallied⟩ := talliesByService_tallied priced
  have spoilt : ∃ row ∈ rows, row.2.isSpoilt = true := by
    have there : service ∈ rows.map Prod.fst := by
      rw [tallied.services]
      by_contra absent
      have nothing := Report.revenue_of_absent fun order among same => absent ⟨order, among, same⟩
      rw [nothing] at passed
      exact absurd passed (by decide)
    obtain ⟨row, among, rfl⟩ := List.mem_map.mp there
    exact ⟨row, among, (tallied.sums row among).spoilt.mpr passed⟩
  unfold paidTotals
  rw [ordersOf_tables, ok_bind, sound.filter_isRevenue, b.paidBetween_stamps spans, tallies, mapM_total_of_spoilt spoilt]
  rfl

end OrderRows
end Passbook
