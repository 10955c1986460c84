import Mathlib
import Passbook.Store.Rows

/-! Rows in strictly ascending order of their keys, so that a key has one row at most. Insertion and change keep the order, and
what they do to a sum over all rows is what they do to one. -/
namespace Passbook.Rows
variable {ρ : Type} {key : ρ → Int} {rows : List ρ} {row : ρ} {k : Int}

def Ascending (key : ρ → Int) (rows : List ρ) : Prop := rows.Pairwise fun a b => key a < key b

theorem Ascending.unique (ascending : Ascending key rows) {a b : ρ} (left : a ∈ rows) (right : b ∈ rows)
    (same : key a = key b) : a = b := by
  induction rows with
  | nil => cases left
  | cons r rest ih =>
    obtain ⟨below, after⟩ := List.pairwise_cons.mp ascending
    rcases List.mem_cons.mp left with here | left
    · rcases List.mem_cons.mp right with here' | right
      · rw [here, here']
      · have := below b right
        rw [← here] at this
        omega
    · rcases List.mem_cons.mp right with here' | right
      · have := below a left
        rw [← here'] at this
        omega
      · exact ih after left right

theorem Ascending.nodup (ascending : Ascending key rows) : (rows.map key).Nodup := by
  refine List.pairwise_map.mpr (ascending.imp fun below same => ?_)
  omega

theorem find?_some (found : find? key k rows = some row) : row ∈ rows ∧ key row = k := by
  refine ⟨List.mem_of_find?_eq_some found, ?_⟩
  simpa using List.find?_some found

theorem find?_of_mem (ascending : Ascending key rows) (among : row ∈ rows) : find? key (key row) rows = some row := by
  cases found : find? key (key row) rows with
  | none =>
    have absent := List.find?_eq_none.mp found row among
    simp at absent
  | some other =>
    obtain ⟨left, same⟩ := find?_some found
    rw [ascending.unique left among same]

theorem contains_iff : contains key k rows = true ↔ ∃ row ∈ rows, key row = k := by
  simp [contains]

theorem contains_eq_isSome : contains key k rows = (find? key k rows).isSome := by
  rw [Bool.eq_iff_iff, contains_iff, find?, List.find?_isSome]
  simp only [beq_iff_eq]

theorem mem_insert {new : ρ} : row ∈ insert key new rows ↔ row = new ∨ row ∈ rows := by
  induction rows with
  | nil => simp [insert]
  | cons r rest ih =>
    unfold insert
    split
    · simp
    · simp only [List.mem_cons, ih]
      exact or_left_comm

theorem insert_ascending {new : ρ} (ascending : Ascending key rows) (fresh : ∀ row ∈ rows, key row ≠ key new) :
    Ascending key (insert key new rows) := by
  induction rows with
  | nil => exact List.pairwise_singleton _ _
  | cons r rest ih =>
    obtain ⟨below, after⟩ := List.pairwise_cons.mp ascending
    have other := fresh r (by simp)
    unfold insert
    split
    · rename_i lower
      refine List.pairwise_cons.mpr ⟨?_, ascending⟩
      intro row among
      rcases List.mem_cons.mp among with rfl | among
      · exact lower
      · have := below row among
        omega
    · rename_i notLower
      refine List.pairwise_cons.mpr ⟨?_, ih after fun row among => fresh row (List.mem_cons_of_mem r among)⟩
      intro row among
      rcases mem_insert.mp among with rfl | among
      · omega
      · exact below row among

theorem insert_of_above {new : ρ} (above : ∀ row ∈ rows, key row < key new) : insert key new rows = rows ++ [new] := by
  induction rows with
  | nil => rfl
  | cons r rest ih =>
    have notHere : ¬ key new < key r := Int.not_lt.mpr (Int.le_of_lt (above r (by simp)))
    rw [insert, if_neg notHere, ih fun row among => above row (List.mem_cons_of_mem r among), List.cons_append]

theorem remove_last {last : ρ} (above : ∀ row ∈ rows, key row < key last) : remove key (key last) (rows ++ [last]) = rows := by
  have others : ∀ row ∈ rows, (key row != key last) = true := by
    intro row among
    have := above row among
    exact bne_iff_ne.mpr (by omega)
  have itself : (key last != key last) = false := by simp
  rw [remove, List.filter_append, List.filter_eq_self.mpr others, List.filter_cons_of_neg (by rw [itself]; exact Bool.false_ne_true),
    List.filter_nil, List.append_nil]

theorem Ascending.split (ascending : Ascending key rows) (k : Int) :
    rows = (rows.filter fun row => key row ≤ k) ++ rows.filter fun row => k < key row := by
  induction rows with
  | nil => rfl
  | cons r rest ih =>
    obtain ⟨below, after⟩ := List.pairwise_cons.mp ascending
    have ih := ih after
    by_cases low : key r ≤ k
    · have notHigh : ¬ k < key r := by omega
      rw [List.filter_cons_of_pos (by simpa using low), List.filter_cons_of_neg (by simpa using low), List.cons_append, ← ih]
    · have none_ : (rest.filter fun row => decide (key row ≤ k)) = [] := by
        refine List.filter_eq_nil_iff.mpr fun row among => ?_
        have := below row among
        simp only [decide_eq_true_eq]
        omega
      have high : k < key r := by omega
      rw [none_, List.nil_append] at ih
      rw [List.filter_cons_of_neg (by simpa using low), none_, List.nil_append, List.filter_cons_of_pos (by simpa using high), ← ih]

theorem find?_cons : find? key k (row :: rows) = if key row = k then some row else find? key k rows := by
  by_cases here : key row = k <;> simp [find?, here]

theorem find?_insert {new : ρ} (fresh : ∀ row ∈ rows, key row ≠ key new) :
    find? key k (insert key new rows) = if key new = k then some new else find? key k rows := by
  induction rows with
  | nil => exact find?_cons
  | cons r rest ih =>
    have ih := ih fun row among => fresh row (List.mem_cons_of_mem r among)
    have other := fresh r (by simp)
    unfold insert
    split
    · exact find?_cons
    · rw [find?_cons, find?_cons, ih]
      by_cases isHere : key r = k
      · have : key new ≠ k := fun same => other (isHere.trans same.symm)
        rw [if_pos isHere, if_neg this, if_pos isHere]
      · rw [if_neg isHere, if_neg isHere]

variable {change : ρ → ρ}

theorem find?_update (keeps : ∀ row, key (change row) = key row) {id : Int} :
    find? key k (update key id change rows) = (find? key k rows).map fun row => if key row = id then change row else row := by
  induction rows with
  | nil => rfl
  | cons r rest ih =>
    have same : key (if key r = id then change r else r) = key r := by
      split
      · exact keeps r
      · rfl
    have unfolded : update key id change (r :: rest) = (if key r = id then change r else r) :: update key id change rest := rfl
    rw [unfolded, find?_cons, find?_cons, same, ih]
    split
    · rfl
    · rfl

theorem update_ascending (ascending : Ascending key rows) (keeps : ∀ row, key (change row) = key row) :
    Ascending key (update key k change rows) := by
  have same (row : ρ) : key (if key row = k then change row else row) = key row := by
    split
    · exact keeps row
    · rfl
  exact List.pairwise_map.mpr (ascending.imp fun {a b} below => by rw [same a, same b]; exact below)

theorem mem_update : row ∈ update key k change rows ↔ ∃ old ∈ rows, (if key old = k then change old else old) = row :=
  List.mem_map

variable (f : ρ → Int)

theorem sum_insert {new : ρ} : ((insert key new rows).map f).sum = f new + (rows.map f).sum := by
  induction rows with
  | nil => rfl
  | cons r rest ih =>
    unfold insert
    split
    · rfl
    · simp only [List.map_cons, List.sum_cons, ih]
      omega

theorem update_of_absent (absent : ∀ row ∈ rows, key row ≠ k) : update key k change rows = rows := by
  induction rows with
  | nil => rfl
  | cons r rest ih =>
    have here := absent r (by simp)
    have ih := ih fun row among => absent row (List.mem_cons_of_mem r among)
    simp only [update, List.map_cons, here, if_false] at ih ⊢
    rw [ih]

theorem update_insert {new : ρ} (absent : ∀ row ∈ rows, key row ≠ key new) (keeps : key (change new) = key new) :
    update key (key new) change (insert key new rows) = insert key (change new) rows := by
  induction rows with
  | nil => simp [insert, update]
  | cons row rows ih =>
    have apart := absent row (by simp)
    have rest := ih fun row among => absent row (List.mem_cons_of_mem _ among)
    have same : update key (key new) change (row :: rows) = row :: rows := update_of_absent absent
    unfold update at rest same ⊢
    simp only [insert, keeps]
    split
    · rw [List.map_cons, if_pos rfl, same]
    · rw [List.map_cons, if_neg apart, rest]

theorem sum_update (ascending : Ascending key rows) (among : row ∈ rows) :
    ((update key (key row) change rows).map f).sum = (rows.map f).sum - f row + f (change row) := by
  induction rows with
  | nil => cases among
  | cons r rest ih =>
    obtain ⟨below, after⟩ := List.pairwise_cons.mp ascending
    rcases List.mem_cons.mp among with rfl | among
    · have rest_same : update key (key row) change rest = rest :=
        update_of_absent fun other later => by have := below other later; omega
      have split : update key (key row) change (row :: rest) = change row :: update key (key row) change rest := by
        simp [update]
      rw [split, rest_same]
      simp only [List.map_cons, List.sum_cons]
      omega
    · have other : key r ≠ key row := by
        have := below row among
        omega
      have split : update key (key row) change (r :: rest) = r :: update key (key row) change rest := by
        simp [update, other]
      rw [split]
      simp only [List.map_cons, List.sum_cons, ih after among]
      omega

theorem sum_filter (isCounted : ρ → Bool) :
    ((rows.filter isCounted).map f).sum = (rows.map fun row => if isCounted row then f row else 0).sum := by
  induction rows with
  | nil => rfl
  | cons r rest ih =>
    rw [List.map_cons, List.sum_cons, ← ih]
    by_cases counted : isCounted r = true
    · rw [List.filter_cons_of_pos counted, List.map_cons, List.sum_cons, if_pos counted]
    · rw [List.filter_cons_of_neg counted, if_neg counted, Int.zero_add]

theorem insert_perm {new : ρ} : (insert key new rows).Perm (new :: rows) := by
  induction rows with
  | nil => exact .refl _
  | cons r rest ih =>
    unfold insert
    split
    · exact .refl _
    · exact (ih.cons r).trans (.swap new r rest)

theorem countP_eq_sum (isCounted : ρ → Bool) :
    (rows.countP isCounted : Int) = (rows.map fun row => if isCounted row then 1 else 0).sum := by
  rw [← sum_filter, List.countP_eq_length_filter]
  simp

theorem countP_update (isCounted : ρ → Bool) (ascending : Ascending key rows) (among : row ∈ rows) :
    (update key (key row) change rows).countP isCounted + (if isCounted row then 1 else 0) =
      rows.countP isCounted + if isCounted (change row) then 1 else 0 := by
  have changed : ((update key (key row) change rows).countP isCounted : Int) = _ :=
    (countP_eq_sum isCounted).trans (sum_update _ ascending among)
  rw [← countP_eq_sum] at changed
  split at changed <;> split at changed <;> simp_all <;> omega

end Passbook.Rows
