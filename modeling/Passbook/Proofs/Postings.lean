import Passbook.Proofs.Operations

/-! Postings: the steps by which books go on. Every operation that answers is one posting, and every posting keeps the books sound. -/
namespace Passbook.Books
open OrderRows Time

/-- What one operation makes of the books when it answers, and what it has made sure of. -/
inductive Posts : Books → Books → Prop
  | credit {b : Books} {id amount : Int} (time : Instant) (low : 0 ≤ amount) (high : amount ≤ maxInteger)
      (fits : fitsInteger id = true) (bounded : b.balanceOf id + amount ≤ maxInteger) : Posts b (b.credited id amount time)
  | transfer {b : Books} {sender receiver amount : Int} (time : Instant) (low : 0 < amount) (high : amount ≤ maxInteger)
      (apart : sender ≠ receiver) (from_ : b.Has sender) (to_ : b.Has receiver) (funds : amount ≤ b.balanceOf sender)
      (bounded : b.balanceOf receiver + amount ≤ maxInteger) : Posts b (b.transferred sender receiver amount time)
  | order {b : Books} {id account service amount : Int} (time : Instant) (low : 0 < amount) (high : amount ≤ maxInteger)
      (owner : b.Has account) (funds : amount ≤ b.balanceOf account) (fits : fitsInteger id = true)
      (served : fitsInteger service = true) (new : ∀ order ∈ b.orders, order.id ≠ id) :
      Posts b (b.ordered id account service amount time)
  | pay {b : Books} {id account service amount : Int} (time : Instant) (pending : b.Pending id account service amount) :
      Posts b (b.settled .paid time id)
  | cancel {b : Books} {id account service amount : Int} (time : Instant) (pending : b.Pending id account service amount)
      (bounded : b.balanceOf account + amount ≤ maxInteger) : Posts b (b.cancelled id account amount time)

/-- Books that postings lead to from empty ones. -/
inductive Reached : Books → Prop
  | fresh : Reached .fresh
  | posted {b b' : Books} (before : Reached b) (step : Posts b b') : Reached b'

variable {b b' : Books}

theorem Reached.next (reached : b.Reached) (isPosting : b' = b ∨ Posts b b') : b'.Reached := by
  rcases isPosting with rfl | step
  · exact reached
  · exact reached.posted step

theorem Sound.posts (sound : b.Sound) (step : Posts b b') : b'.Sound := by
  cases step with
  | credit time low high fits bounded =>
    rename_i id amount
    have opened := sound.opened fits
    have held := sound.balanceOf_inRange id
    have same : (b.opened id).balanceOf id = b.balanceOf id := balanceOf_opened
    rw [← same] at held bounded
    exact (opened.shifted (by omega) bounded).posted low high
  | transfer time low high apart from_ to_ funds bounded =>
    rename_i sender receiver amount
    have sends := sound.balanceOf_inRange sender
    have receives := sound.balanceOf_inRange receiver
    have sent : (b.shifted sender (-amount)).Sound := sound.shifted (by omega) (by omega)
    have untouched : (b.shifted sender (-amount)).balanceOf receiver = b.balanceOf receiver := by
      rw [balanceOf_shifted from_, if_neg apart.symm, Int.add_zero]
    exact (sent.shifted (by omega) (by omega)).posted (by omega) high
  | order time low high owner funds fits served new =>
    rename_i id account service amount
    have held := sound.balanceOf_inRange account
    have shifted : (b.shifted account (-amount)).Sound := sound.shifted (by omega) (by omega)
    have owner' : (b.shifted account (-amount)).Has account := has_shifted.mpr owner
    exact (shifted.reserved new fits owner' served low high).posted (by omega) high
  | pay time pending => exact sound.settled
  | cancel time pending bounded =>
    rename_i id account service amount
    obtain ⟨_, _, _, low, high⟩ := sound.settleable.pending pending
    have held := (sound.balanceOf_inRange account).1
    have settled : (b.settled .cancelled time id).Sound := sound.settled
    have returned : 0 ≤ (b.settled .cancelled time id).balanceOf account + amount := Int.add_nonneg held (Int.le_of_lt low)
    exact (settled.shifted returned bounded).posted (by omega) high

theorem Reached.sound (reached : b.Reached) : b.Sound := by
  induction reached with
  | fresh => exact fresh_sound
  | posted _ step ih => exact ih.posts step

end Passbook.Books
