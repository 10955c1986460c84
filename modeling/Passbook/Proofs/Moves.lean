import Passbook.Proofs.Runs

/-! Moves by themselves, told by the books: under which condition a move is made, and what it then leaves in the books. -/
namespace Passbook
open OrderRows Time

namespace Rows
variable {ρ : Type} {key : ρ → Int} {rows : List ρ} {new : ρ} {keep : ρ → Bool} {change : ρ → ρ} {k : Int}

theorem filter_insert_of_not (dropped : keep new = false) : (insert key new rows).filter keep = rows.filter keep := by
  induction rows with
  | nil => simp [insert, dropped]
  | cons row rows ih =>
    unfold insert
    split
    · rw [List.filter_cons_of_neg (by simp [dropped])]
    · rw [List.filter_cons, List.filter_cons, ih]

theorem filter_update_of_not (dropped : ∀ row ∈ rows, key row = k → keep row = false ∧ keep (change row) = false) :
    (update key k change rows).filter keep = rows.filter keep := by
  induction rows with
  | nil => rfl
  | cons row rows ih =>
    have rest := ih fun row among => dropped row (List.mem_cons_of_mem _ among)
    unfold update at rest ⊢
    rw [List.map_cons, List.filter_cons, List.filter_cons, rest]
    by_cases here : key row = k
    · obtain ⟨before, after⟩ := dropped row List.mem_cons_self here
      rw [if_pos here, before, after]
      rfl
    · rw [if_neg here]

end Rows

namespace Move

def Allowed (b : Books) : Move → Prop
  | .credit account amount =>
    (0 ≤ amount ∧ amount ≤ maxInteger) ∧ fitsInteger account = true ∧ b.balanceOf account + amount ≤ maxInteger
  | .transfer sender receiver amount =>
    ((0 < amount ∧ amount ≤ maxInteger) ∧ sender ≠ receiver) ∧
      b.Has sender ∧ b.Has receiver ∧ amount ≤ b.balanceOf sender ∧ b.balanceOf receiver + amount ≤ maxInteger
  | .createOrder order account service amount =>
    (0 < amount ∧ amount ≤ maxInteger) ∧ (b.Has account ∧ amount ≤ b.balanceOf account) ∧
      fitsInteger order = true ∧ fitsInteger service = true ∧ ∀ other ∈ b.orders, other.id ≠ order
  | .payOrder order account service amount => b.Pending order account service amount
  | .cancelOrder order account service amount =>
    b.Pending order account service amount ∧ b.balanceOf account + amount ≤ maxInteger
  | .wait _ => True

def made (time : Instant) (b : Books) : Move → Books
  | .credit account amount => b.credited account amount time
  | .transfer sender receiver amount => b.transferred sender receiver amount time
  | .createOrder order account service amount => b.ordered order account service amount time
  | .payOrder order _ _ _ => b.settled .paid time order
  | .cancelOrder order account _ amount => b.cancelled order account amount time
  | .wait _ => b

def timeAfter (time : Instant) : Move → Instant
  | .wait later => later
  | _ => time

variable {α : Type} {b : Books} {time : Instant} {s : Store Database} {m : Move}

def Settles (m : Move) (time : Instant) (b : Books) : Prop :=
  ∀ s, Store.Rests time s → s.content.schema = b.tables →
    match m.run false s with
    | (.ok _, t) => m.Allowed b ∧ t.Rests (m.timeAfter time) ∧ t.content.schema = (m.made time b).tables
    | (.error _, t) => ¬ m.Allowed b ∧ t.Rests time ∧ t.content.schema = b.tables

theorem settles_of_turns {op : Operation α} {answer : α → Answer} {answers : α → Prop}
    (same : m.run false = some <$> answer <$> op.alone)
    (moves : m.timeAfter time = time) (turns : op.Turns time b (m.Allowed b) answers (m.made time b)) : m.Settles time b := by
  intro s rests books
  have settled := ((turns.alone.map answer).map some) s rests books
  rw [← same] at settled
  rw [moves]
  rcases ran : m.run false s with ⟨e | a, t⟩
  · rw [ran] at settled
    exact settled
  · rw [ran] at settled
    exact ⟨settled.1, settled.2.2⟩

theorem settles (m : Move) (time : Instant) (sound : b.Sound) : m.Settles time b := by
  cases m with
  | credit account amount => exact settles_of_turns rfl rfl (Accounts.credit_turns sound)
  | transfer sender receiver amount => exact settles_of_turns rfl rfl (Accounts.transfer_turns sound)
  | createOrder order account service amount => exact settles_of_turns rfl rfl (Orders.create_turns sound)
  | payOrder order account service amount => exact settles_of_turns rfl rfl (Orders.pay_turns sound)
  | cancelOrder order account service amount => exact settles_of_turns rfl rfl (Orders.cancel_turns sound)
  | wait later =>
    intro s rests books
    exact ⟨trivial, ⟨rests.idle, rfl⟩, books⟩

theorem posts_made (time : Instant) (allowed : m.Allowed b) : m.made time b = b ∨ Books.Posts b (m.made time b) := by
  cases m with
  | credit account amount =>
    obtain ⟨⟨low, high⟩, fits, bounded⟩ := allowed
    exact .inr (.credit time low high fits bounded)
  | transfer sender receiver amount =>
    obtain ⟨⟨⟨low, high⟩, apart⟩, from_, to_, funds, bounded⟩ := allowed
    exact .inr (.transfer time low high apart from_ to_ funds bounded)
  | createOrder order account service amount =>
    obtain ⟨⟨low, high⟩, ⟨owner, funds⟩, fits, served, new⟩ := allowed
    exact .inr (.order time low high owner funds fits served new)
  | payOrder order account service amount => exact .inr (.pay time allowed)
  | cancelOrder order account service amount => exact .inr (.cancel time allowed.1 allowed.2)
  | wait later => exact .inl rfl

theorem sound_made (sound : b.Sound) (allowed : m.Allowed b) : (m.made time b).Sound := by
  rcases posts_made time allowed with same | posting
  · rwa [same]
  · exact sound.posts posting

theorem orders_made {order : OrderRow} (among : order ∈ (m.made time b).orders) :
    (∃ old ∈ b.orders, old.id = order.id ∧ old.createdAt = order.createdAt) ∨ order.createdAt = time := by
  have kept (there : order ∈ b.orders) : ∃ old ∈ b.orders, old.id = order.id ∧ old.createdAt = order.createdAt :=
    ⟨order, there, rfl, rfl⟩
  have settled {ending : Ending} {id : Int} (there : order ∈ (b.settled ending time id).orders) :
      ∃ old ∈ b.orders, old.id = order.id ∧ old.createdAt = order.createdAt := by
    obtain ⟨old, before, rfl⟩ := Rows.mem_update.mp there
    refine ⟨old, before, ?_⟩
    cases ending <;> split <;> exact ⟨rfl, rfl⟩
  cases m with
  | credit account amount =>
    rw [made, Books.credited, Books.posted, Books.shifted, Books.opened_orders] at among
    exact .inl (kept among)
  | transfer sender receiver amount => exact .inl (kept among)
  | createOrder id account service amount =>
    rcases Rows.mem_insert.mp among with rfl | there
    · exact .inr rfl
    · exact .inl (kept there)
  | payOrder id account service amount => exact .inl (settled among)
  | cancelOrder id account service amount => exact .inl (settled among)
  | wait later => exact .inl (kept among)

end Move
end Passbook
