import Passbook.Proofs.Fresh

/-! The audit of the log: replayed from the start, its entries give every balance, and at no point along the way is a sum of them
out of the range of a balance. -/
namespace Passbook
open Books LogRows OrderRows Time

/-- What an entry does to the balance of an account it involves. The account of the sender takes the amount with its sign, one
that only receives takes it as it is. -/
def Entry.effectOn (account : Int) (entry : Entry Instant) : Int :=
  if entry.sender = account then (entry.signedAmount?.getD .null).whole else entry.amount.whole

def replay (account : Int) (entries : List (Entry Instant)) : Int :=
  ((entries.filter (involves account)).map (Entry.effectOn account)).sum

namespace Books
variable {b b' : Books} {id account amount k : Int} {entry : Entry Instant}

theorem replay_append (entries : List (Entry Instant)) :
    replay k (entries ++ [entry]) = replay k entries + if involves k entry then entry.effectOn k else 0 := by
  unfold replay
  rw [List.filter_append, List.map_append, List.sum_append]
  split
  · rename_i among
    simp [among]
  · rename_i aside
    simp [aside]

structure Audited (b : Books) : Prop where
  balances : ∀ id, b.balanceOf id = replay id b.entries
  prefixes : ∀ id part, part <+: b.entries → 0 ≤ replay id part ∧ replay id part ≤ maxInteger
  occurs : ∀ id, b.Has id → ∃ entry ∈ b.entries, involves id entry = true

theorem Audited.posted (audited : b.Audited) (sound : b'.Sound) (written : b'.entries = b.entries ++ [entry])
    (moved : ∀ k, b'.balanceOf k = b.balanceOf k + if involves k entry then entry.effectOn k else 0)
    (opened : ∀ k, b'.Has k → b.Has k ∨ involves k entry = true) : b'.Audited := by
  have balances : ∀ id, b'.balanceOf id = replay id b'.entries := by
    intro k
    rw [written, replay_append, moved k, audited.balances k]
  refine ⟨balances, ?_, ?_⟩
  · intro k part shorter
    rw [written, List.prefix_concat_iff] at shorter
    rcases shorter with rfl | shorter
    · rw [← written, ← balances k]
      exact sound.balanceOf_inRange k
    · exact audited.prefixes k part shorter
  · intro k there
    rw [written]
    rcases opened k there with before | here
    · obtain ⟨entry, among, named⟩ := audited.occurs k before
      exact ⟨entry, List.mem_append_left _ among, named⟩
    · exact ⟨entry, List.mem_append_right _ (List.mem_singleton.mpr rfl), here⟩

theorem fresh_audited : fresh.Audited where
  balances _ := rfl
  prefixes id part shorter := by
    have nothing : part = [] := List.prefix_nil.mp shorter
    rw [nothing]
    exact fresh_sound.balanceOf_inRange id
  occurs _ there := by obtain ⟨_, among, _⟩ := there; cases among

theorem effect_eq (whole : entry.amount = .int amount) :
    (if involves k entry then entry.effectOn k else 0) =
      if k = entry.sender then (if entry.kind.isDebit then -amount else amount) else if k = entry.receiver then amount else 0 := by
  have signed : entry.signedAmount? = some (.int (if entry.kind.isDebit then -amount else amount)) := by
    rw [Entry.signedAmount?, whole]
    split <;> rfl
  by_cases sends : entry.sender = k
  · have among : involves k entry = true := by simp [involves, sends]
    rw [if_pos among, if_pos sends.symm, Entry.effectOn, if_pos sends, signed]
    rfl
  · rw [if_neg (Ne.symm sends), Entry.effectOn, if_neg sends, whole]
    by_cases receives : entry.receiver = k
    · have among : involves k entry = true := by simp [involves, receives]
      rw [if_pos among, if_pos receives.symm]
      rfl
    · have aside : ¬ involves k entry = true := by simp [involves, sends, receives]
      rw [if_neg aside, if_neg (Ne.symm receives)]

-- Payment writes no entry and moves nothing; each other operation writes one entry for what it moves.
theorem Audited.posts (audited : b.Audited) (sound : b.Sound) (step : Posts b b') : b'.Audited := by
  have sound' := sound.posts step
  cases step with
  | credit time low high fits bounded =>
    rename_i id amount
    refine audited.posted sound' entries_credited ?_ ?_
    · intro k
      rw [effect_eq rfl, balanceOf_credited]
      split <;> simp [*, EntryKind.isDebit]
    · intro k there
      have there' : ((b.opened id).shifted id amount).Has k := there
      rcases has_opened.mp (has_shifted.mp there') with rfl | before
      · exact .inr (by simp [involves])
      · exact .inl before
  | transfer time low high apart from_ to_ funds bounded =>
    rename_i sender receiver amount
    refine audited.posted sound' rfl ?_ fun k there => .inl (has_shifted.mp (has_shifted.mp there))
    intro k
    rw [effect_eq rfl, balanceOf_transferred from_ to_]
    by_cases sends : k = sender
    · have other : k ≠ receiver := fun receives => apart (sends.symm.trans receives)
      simp [sends, apart, EntryKind.isDebit]
    · simp [sends]
  | order time low high owner funds fits served new =>
    rename_i id account service amount
    refine audited.posted sound' rfl ?_ fun k there => .inl (has_shifted.mp there)
    intro k
    rw [effect_eq rfl, balanceOf_ordered owner]
    split <;> simp [*, EntryKind.isDebit]
  | pay time pending => exact ⟨audited.balances, audited.prefixes, audited.occurs⟩
  | cancel time pending bounded =>
    rename_i id account service amount
    obtain ⟨_, owner, _⟩ := sound.settleable.pending pending
    refine audited.posted sound' rfl ?_ fun k there => .inl (has_shifted.mp there)
    intro k
    rw [effect_eq rfl, balanceOf_cancelled_at owner]
    split <;> simp [*, EntryKind.isDebit]

theorem Reached.audited (reached : b.Reached) : b.Audited := by
  induction reached with
  | fresh => exact fresh_audited
  | posted before step ih => exact ih.posts before.sound step

end Books

/-- Whatever is run on a new store, singly or in units, the log that is kept explains the balances that are kept. -/
theorem Step.balances_replay (time : Instant) (steps : List Step) :
    ∃ b : Books, (runAll steps (.fresh time)).Keeps b ∧ Rows.Ascending Entry.id b.entries ∧
      (∀ entry ∈ b.entries, ∃ amount, entry.amount = .int amount) ∧
      (∀ account ∈ b.accounts, account.balance = replay account.id b.entries) ∧
      (∀ id part, part <+: b.entries → 0 ≤ replay id part ∧ replay id part ≤ maxInteger) ∧
      ∀ account ∈ b.accounts, ∃ entry ∈ b.entries, involves account.id entry = true := by
  obtain ⟨b, reached, kept⟩ := runAll_fresh time steps
  have sound := reached.sound
  have audited := reached.audited
  refine ⟨b, kept, sound.entries, ?_, ?_, audited.prefixes, ?_⟩
  · intro entry among
    obtain ⟨amount, written, _⟩ := sound.sized entry among
    exact ⟨amount, written⟩
  · intro account among
    rw [← audited.balances, sound.balanceOf_mem among]
  · intro account among
    exact audited.occurs account.id ⟨account, among, rfl⟩

end Passbook
