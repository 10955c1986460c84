import Passbook.Proofs.Fresh

/-! Conservation of money: what accounts have and what orders hold is together what has been credited. As long as that fits a
balance, so does each of its parts, and nothing that is reserved can be stuck. -/
namespace Passbook
open Books LogRows OrderRows Time

namespace Books
variable {b b' : Books} {id account service amount delta k : Int} {ending : Ending} {time : Instant}

def total (b : Books) : Int := (b.accounts.map Account.balance).sum

def held (b : Books) : Int := ((b.orders.filter fun order => !order.isCancelled).map fun order => order.amount.whole).sum

def enrolled (b : Books) : Int :=
  ((b.entries.filter fun entry => entry.kind == .enrollment).map fun entry => entry.amount.whole).sum

def holding (order : OrderRow) : Int := if !order.isCancelled then order.amount.whole else 0

theorem holding_of_pending {order : OrderRow} (isAmount : order.amount = .int amount) (isPending : order.isPending = true) :
    holding order = amount := by
  rw [holding, (Order.isPending_iff.mp isPending).2, isAmount]
  rfl

theorem held_eq : b.held = (b.orders.map holding).sum := Rows.sum_filter _ _

theorem total_opened : (b.opened id).total = b.total := by
  by_cases there : b.Has id
  · rw [opened_of_has there]
  · rw [opened_of_not_has there, total, Rows.sum_insert]
    exact Int.zero_add _

theorem total_shifted (ascending : Rows.Ascending Account.id b.accounts) (there : b.Has id) :
    (b.shifted id delta).total = b.total + delta := by
  obtain ⟨account, among, rfl⟩ := there
  calc
    (b.shifted account.id delta).total = b.total - account.balance + (account.balance + delta) :=
      Rows.sum_update Account.balance ascending among
    _ = b.total + delta := by omega

theorem held_reserved : (b.reserved id account service amount time).held = b.held + amount := by
  rw [held_eq, reserved, Rows.sum_insert, ← held_eq]
  exact Int.add_comm _ _

theorem held_settled (ascending : Rows.Ascending Order.id b.orders) {order : OrderRow} (there : order ∈ b.orders) :
    (b.settled ending time order.id).held = b.held - holding order + holding (finished ending time order) := by
  rw [held_eq, held_eq]
  exact Rows.sum_update holding ascending there

theorem enrolled_append {entry : Entry Instant} (written : b'.entries = b.entries ++ [entry]) :
    b'.enrolled = b.enrolled + if entry.kind = .enrollment then entry.amount.whole else 0 := by
  unfold enrolled
  rw [written, List.filter_append, List.map_append, List.sum_append]
  by_cases enrolls : entry.kind = .enrollment <;> simp [enrolls]

theorem enrolled_aside {entry : Entry Instant} (written : b'.entries = b.entries ++ [entry]) (other : entry.kind ≠ .enrollment) :
    b'.enrolled = b.enrolled := by
  rw [enrolled_append written, if_neg other, Int.add_zero]

theorem conserved_posts (sound : b.Sound) (step : Posts b b') (conserved : b.total + b.held = b.enrolled) :
    b'.total + b'.held = b'.enrolled := by
  cases step with
  | credit time low high fits bounded =>
    rename_i id amount
    have there : (b.opened id).Has id := has_opened.mpr (.inl rfl)
    have total' : (b.credited id amount time).total = b.total + amount := by
      change ((b.opened id).shifted id amount).total = _
      rw [total_shifted (sound.opened fits).accounts there, total_opened]
    have held' : (b.credited id amount time).held = b.held := by
      change ((b.opened id).shifted id amount).held = _
      rw [held, held, Books.shifted, opened_orders]
    have enrolled' : (b.credited id amount time).enrolled = b.enrolled + amount := enrolled_append entries_credited
    omega
  | transfer time low high apart from_ to_ funds bounded =>
    rename_i sender receiver amount
    have ascending : Rows.Ascending Account.id (b.shifted sender (-amount)).accounts :=
      Rows.update_ascending sound.accounts fun _ => rfl
    have total' : (b.transferred sender receiver amount time).total = b.total := by
      change ((b.shifted sender (-amount)).shifted receiver amount).total = _
      rw [total_shifted ascending (has_shifted.mpr to_), total_shifted sound.accounts from_]
      omega
    have enrolled' : (b.transferred sender receiver amount time).enrolled = b.enrolled := enrolled_aside rfl (by simp)
    have held' : (b.transferred sender receiver amount time).held = b.held := rfl
    omega
  | order time low high owner funds fits served new =>
    rename_i id account service amount
    have total' : (b.ordered id account service amount time).total = b.total + -amount := total_shifted sound.accounts owner
    have held' : (b.ordered id account service amount time).held = b.held + amount := held_reserved
    have enrolled' : (b.ordered id account service amount time).enrolled = b.enrolled := enrolled_aside rfl (by simp)
    omega
  | pay time pending =>
    rename_i id account service amount
    obtain ⟨order, there, rfl, _⟩ := pending
    have held' : (b.settled .paid time order.id).held = b.held - holding order + holding order := held_settled sound.orders there
    have total' : (b.settled .paid time order.id).total = b.total := rfl
    have enrolled' : (b.settled .paid time order.id).enrolled = b.enrolled := rfl
    omega
  | cancel time pending bounded =>
    rename_i id account service amount
    obtain ⟨_, owner, _⟩ := sound.settleable.pending pending
    obtain ⟨order, there, rfl, _, _, isAmount, isPending⟩ := pending
    have total' : (b.cancelled order.id account amount time).total = b.total + amount := total_shifted sound.accounts owner
    have enrolled' : (b.cancelled order.id account amount time).enrolled = b.enrolled := enrolled_aside rfl (by simp)
    have held' : (b.cancelled order.id account amount time).held = b.held - amount := by
      have changed : (b.settled .cancelled time order.id).held = b.held - holding order + 0 := held_settled sound.orders there
      rw [holding_of_pending isAmount isPending, Int.add_zero] at changed
      exact changed
    omega

theorem Reached.conserved (reached : b.Reached) : b.total + b.held = b.enrolled := by
  induction reached with
  | fresh => rfl
  | posted before step ih => exact conserved_posts before.sound step ih

theorem Sound.balanceOf_le (sound : b.Sound) (id : Int) : b.balanceOf id ≤ b.total := by
  have nonnegative : ∀ balance ∈ b.accounts.map Account.balance, 0 ≤ balance := by
    intro balance among
    obtain ⟨account, there, rfl⟩ := List.mem_map.mp among
    exact (sound.inRange account there).1
  by_cases there : b.Has id
  · obtain ⟨account, found⟩ := has_iff_account?.mp there
    obtain ⟨among, _⟩ := Rows.find?_some found
    rw [balanceOf_of_found found]
    exact List.single_le_sum nonnegative _ (List.mem_map_of_mem among)
  · rw [balanceOf_of_not_has there]
    exact List.sum_nonneg nonnegative

theorem Sound.balances_le {other : Int} (sound : b.Sound) (there : b.Has id) (apart : id ≠ other) :
    b.balanceOf id + b.balanceOf other ≤ b.total := by
  have room : (0 : Int) ≤ maxInteger := by decide
  -- Books in which the first account is emptied would be sound as well, with as much less in all.
  have emptied : (b.shifted id (-b.balanceOf id)).Sound := sound.shifted (by omega) (by omega)
  have bound := emptied.balanceOf_le other
  rw [balanceOf_shifted there, if_neg apart.symm, total_shifted sound.accounts there] at bound
  omega

theorem Sound.holding_nonneg (sound : b.Sound) : ∀ amount ∈ b.orders.map holding, 0 ≤ amount := by
  intro amount among
  obtain ⟨order, there, rfl⟩ := List.mem_map.mp among
  obtain ⟨amount, isAmount, low, _⟩ := (sound.regular order there).amount
  unfold holding
  split
  · rw [isAmount]
    exact Int.le_of_lt low
  · exact Int.le_refl 0

theorem Sound.held_nonneg (sound : b.Sound) : 0 ≤ b.held := by
  rw [held_eq]
  exact List.sum_nonneg sound.holding_nonneg

theorem Sound.pending_le (sound : b.Sound) (pending : b.Pending id account service amount) : amount ≤ b.held := by
  obtain ⟨order, there, _, _, _, isAmount, isPending⟩ := pending
  rw [← holding_of_pending isAmount isPending, held_eq]
  exact List.single_le_sum sound.holding_nonneg _ (List.mem_map_of_mem there)

end Books

/-- The call answers, in the session that is open or in one of its own, and leaves the books `b'`. -/
def Call.Yields (call : Call) (saved : Option Database) (s : Store Database) (answer : Answer) (b' : Books) : Prop :=
  ∃ t, call.run saved.isSome s = (.ok answer, t) ∧ t.Holds saved b'

namespace Call
variable {b : Books} {saved : Option Database} {s : Store Database} {order account service sender receiver amount : Int}

theorem yields_of_operation {α : Type} {call : Call} {op : Operation α} {answer : α → Answer} {condition : Prop} {a : α}
    {after : Instant → Books} (holds : s.Holds saved b) (held : condition)
    (same : ∀ isJoined, call.run isJoined = operate isJoined op answer)
    (turns : ∀ time, op.Turns time b condition (· = a) (after time)) : ∃ time, call.Yields saved s (answer a) (after time) := by
  unfold Yields
  rw [same]
  cases saved with
  | none =>
    obtain ⟨time, rests, books⟩ := holds
    obtain ⟨_, t, ran, ⟨_, rfl, rfl⟩, still, books'⟩ := ((turns time).alone.map answer).answered held rests books
    exact ⟨time, t, ran, time, still, books'⟩
  | some saved =>
    obtain ⟨time, here, books⟩ := holds
    obtain ⟨_, t, ran, ⟨_, rfl, rfl⟩, still, books'⟩ := ((turns time).joined.map answer).answered held here books
    exact ⟨time, t, ran, time, still, books'⟩

theorem credit_yields (sound : b.Sound) (holds : s.Holds saved b) (fits : fitsInteger account = true) (low : 0 ≤ amount)
    (bounded : b.balanceOf account + amount ≤ maxInteger) :
    ∃ time, (credit account amount).Yields saved s (.balance (b.balanceOf account + amount)) (b.credited account amount time) := by
  have balance := sound.balanceOf_inRange account
  exact yields_of_operation holds ⟨⟨low, by omega⟩, fits, bounded⟩ (fun _ => rfl) fun _ => Accounts.credit_turns sound

theorem transfer_yields (sound : b.Sound) (holds : s.Holds saved b) (apart : sender ≠ receiver) (from_ : b.Has sender)
    (to_ : b.Has receiver) (low : 0 < amount) (funds : amount ≤ b.balanceOf sender)
    (bounded : b.balanceOf receiver + amount ≤ maxInteger) :
    ∃ time, (transfer sender receiver amount).Yields saved s
      (.balances (b.balanceOf sender - amount) (b.balanceOf receiver + amount)) (b.transferred sender receiver amount time) := by
  have balance := sound.balanceOf_inRange sender
  have same (isJoined : Bool) : (transfer sender receiver amount).run isJoined =
      operate isJoined (Accounts.transfer sender receiver amount) fun both => .balances both.1 both.2 := rfl
  obtain ⟨time, yields⟩ := yields_of_operation holds ⟨⟨⟨low, by omega⟩, apart⟩, from_, to_, funds, bounded⟩ same fun _ =>
    Accounts.transfer_turns sound
  exact ⟨time, yields⟩

theorem cancel_yields (sound : b.Sound) (holds : s.Holds saved b) (pending : b.Pending order account service amount)
    (bounded : b.balanceOf account + amount ≤ maxInteger) :
    ∃ time, (cancelOrder order account service amount).Yields saved s (.balance (b.balanceOf account + amount))
      (b.cancelled order account amount time) :=
  yields_of_operation holds ⟨pending, bounded⟩ (fun _ => rfl) fun _ => Orders.cancel_turns sound

end Call

theorem Books.balanceOf_cancelled {b : Books} {order account amount : Int} {time : Instant} (owner : b.Has account) :
    (b.cancelled order account amount time).balanceOf account = b.balanceOf account + amount := by
  rw [balanceOf_cancelled_at owner, if_pos rfl]

namespace Step
variable {time : Instant} {saved : Option Database} {s : Store Database}

/-- Wherever a run has come to, accounts and orders have together what has been credited. As long as that fits a balance, each
pending order can be cancelled, and whoever has money can send it to whomever there is; as long as more fits, more can be
credited. -/
theorem money_conserved (comes : Comes time saved s) :
    ∃ b : Books, s.Holds saved b ∧ (∀ order ∈ b.orders, ∃ amount, order.amount = .int amount) ∧
      (∀ entry ∈ b.entries, ∃ amount, entry.amount = .int amount) ∧ b.total + b.held = b.enrolled ∧
      (b.enrolled ≤ maxInteger →
        (∀ order account service amount, b.Pending order account service amount →
          ∃ b', (Call.cancelOrder order account service amount).Yields saved s (.balance (b.balanceOf account + amount)) b' ∧
            b'.balanceOf account = b.balanceOf account + amount) ∧
        ∀ sender receiver amount, sender ≠ receiver → b.Has sender → b.Has receiver → 0 < amount →
          amount ≤ b.balanceOf sender →
          ∃ b', (Call.transfer sender receiver amount).Yields saved s
            (.balances (b.balanceOf sender - amount) (b.balanceOf receiver + amount)) b') ∧
      ∀ id amount, fitsInteger id = true → 0 ≤ amount → b.enrolled + amount ≤ maxInteger →
        ∃ b', (Call.credit id amount).Yields saved s (.balance (b.balanceOf id + amount)) b' := by
  obtain ⟨b, reached, holds⟩ := comes.holds
  have sound := reached.sound
  have conserved := reached.conserved
  have held := sound.held_nonneg
  have orders (order : OrderRow) (there : order ∈ b.orders) : ∃ amount, order.amount = .int amount := by
    obtain ⟨amount, isAmount, _⟩ := (sound.regular order there).amount
    exact ⟨amount, isAmount⟩
  have entries (entry : Entry Instant) (there : entry ∈ b.entries) : ∃ amount, entry.amount = .int amount := by
    obtain ⟨amount, isAmount, _⟩ := sound.sized entry there
    exact ⟨amount, isAmount⟩
  refine ⟨b, holds, orders, entries, conserved, fun bounded => ⟨?_, ?_⟩, ?_⟩
  -- What comes back was held apart from all balances, so that both together are part of what was credited.
  · intro order account service amount pending
    have has := sound.balanceOf_le account
    have holding := sound.pending_le pending
    obtain ⟨time, yields⟩ := Call.cancel_yields sound holds pending (by omega)
    exact ⟨_, yields, balanceOf_cancelled (sound.settleable.pending pending).2.1⟩
  · intro sender receiver amount apart from_ to_ low funds
    have both := sound.balances_le from_ apart
    obtain ⟨time, yields⟩ := Call.transfer_yields sound holds apart from_ to_ low funds (by omega)
    exact ⟨_, yields⟩
  · intro id amount fits low bounded
    have has := sound.balanceOf_le id
    obtain ⟨time, yields⟩ := Call.credit_yields sound holds fits low (by omega)
    exact ⟨_, yields⟩

theorem runAll_pending (time : Instant) :
    (runAll [.move (.credit 1 100), .move (.credit 2 5), .move (.createOrder 7 1 3 30)] (.fresh time)).Stands time
      (((Books.fresh.credited 1 100 time).credited 2 5 time).ordered 7 1 3 30 time) := by
  have first : (Books.fresh.credited 1 100 time).balanceOf 2 = 0 := rfl
  have second : ((Books.fresh.credited 1 100 time).credited 2 5 time).balanceOf 1 = 100 := rfl
  have owner : ((Books.fresh.credited 1 100 time).credited 2 5 time).Has 1 := ⟨⟨1, 100⟩, List.mem_cons_self, rfl⟩
  have new : ∀ order ∈ ((Books.fresh.credited 1 100 time).credited 2 5 time).orders, order.id ≠ 7 :=
    fun _ among => absurd among List.not_mem_nil
  rw [runAll_cons, runAll_cons, runAll_cons, runAll_nil]
  refine createOrder_stands (by decide) (by decide) owner (by omega) (by decide) (by decide) new ?_
  refine credit_stands (by decide) (by decide) (by decide) (by rw [first]; decide) ?_
  exact credit_stands (by decide) (by decide) (by decide) (by decide) (Store.fresh_stands time)

/-- While an order is pending it can be cancelled, what is left can be sent to the other account, and more can be credited. -/
theorem money_conserved_while_pending :
    ∃ time s b, Comes time none s ∧ s.Holds none b ∧ b.Pending 7 1 3 30 ∧ b.total = 75 ∧ b.held = 30 ∧
    b.enrolled = 105 ∧ (∃ b', (Call.cancelOrder 7 1 3 30).Yields none s (.balance 100) b' ∧ b'.balanceOf 1 = 100) ∧
    (∃ b', (Call.transfer 1 2 50).Yields none s (.balances 20 55) b') ∧ ∃ b', (Call.credit 2 1).Yields none s (.balance 6) b' := by
  let time : Instant := ⟨0, by decide⟩
  let b := ((Books.fresh.credited 1 100 time).credited 2 5 time).ordered 7 1 3 30 time
  have comes : Comes time none _ := .between [.move (.credit 1 100), .move (.credit 2 5), .move (.createOrder 7 1 3 30)]
  obtain ⟨c, holds, -, -, -, settles, credits⟩ := money_conserved comes
  have ⟨_, _, books⟩ := holds
  obtain rfl : c = b := tables_injective (books.symm.trans (runAll_pending time).books)
  obtain ⟨cancels, transfers⟩ := settles (by decide)
  have pending : b.Pending 7 1 3 30 := ⟨.opened 7 1 3 30 time, List.mem_singleton.mpr rfl, rfl, rfl, rfl, rfl, rfl⟩
  have sender : b.Has 1 := ⟨⟨1, 70⟩, by decide, rfl⟩
  have receiver : b.Has 2 := ⟨⟨2, 5⟩, by decide, rfl⟩
  exact ⟨time, _, b, comes, holds, pending, by decide, by decide, by decide, cancels 7 1 3 30 pending,
    transfers 1 2 50 (by decide) sender receiver (by decide) (by decide), credits 2 1 (by decide) (by decide) (by decide)⟩

end Step
end Passbook
