import Passbook.Proofs.Banking

/-! Transfers, exactly. Which account has the smaller id decides which leg is tried first, and so which fault is told where both
cannot be taken; it makes no difference to whether a transfer succeeds, nor to what it then leaves. -/
namespace Passbook
open Time

namespace Books

/-- What a transfer needs, in whichever order its legs are tried. -/
structure CanTransfer (b : Books) (sender receiver amount : Int) : Prop where
  positive : 1 ≤ amount
  bounded : amount ≤ maxInteger
  apart : sender ≠ receiver
  sends : b.Has sender
  receives : b.Has receiver
  funds : amount ≤ b.balanceOf sender
  room : b.balanceOf receiver + amount ≤ maxInteger

def selfFault? (sender receiver : Int) : Option LedgerError := if sender = receiver then some (.selfTransfer sender) else none

def legFault? (b : Books) (sender receiver amount : Int) : Option LedgerError :=
  if sender < receiver then (b.debitFault? sender amount).or (b.creditFault? receiver amount)
  else (b.creditFault? receiver amount).or (b.debitFault? sender amount)

def transferFault? (b : Books) (sender receiver amount : Int) : Option LedgerError :=
  ((amountFault? "Transfer amount" amount).or (selfFault? sender receiver)).or (b.legFault? sender receiver amount)

/-- Two balances have changed and one entry has been added, and that is all. -/
structure Transferred (b b₁ : Books) (sender receiver amount : Int) (time : Instant) : Prop where
  accounts : b₁.accounts = b.accounts.map fun account =>
    if account.id = sender then { account with balance := account.balance - amount }
    else if account.id = receiver then { account with balance := account.balance + amount } else account
  orders : b₁.orders = b.orders
  log : b₁.log = { b.log with
    entries := b.entries ++
      [⟨(b.log.lastId + 1 : Nat), .transfer, sender, receiver, .int amount, transferText sender receiver amount, time⟩]
    lastId := b.log.lastId + 1 }

variable {b : Books} {sender receiver amount : Int}

theorem transferred_transferred (apart : sender ≠ receiver) (time : Instant) :
    b.Transferred (b.transferred sender receiver amount time) sender receiver amount time := by
  refine ⟨?_, rfl, rfl⟩
  change Rows.update Account.id receiver _ (Rows.update Account.id sender _ b.accounts) = _
  simp only [Rows.update, List.map_map]
  refine List.map_congr_left fun account _ => ?_
  simp only [Function.comp_apply]
  by_cases sends : account.id = sender
  · simp only [sends, if_true, apart, if_false, Int.sub_eq_add_neg]
  · simp only [sends, if_false]

theorem Banked.canTransfer_iff (banked : b.Banked) :
    b.CanTransfer sender receiver amount ↔ b.transferFault? sender receiver amount = none := by
  have legs : b.legFault? sender receiver amount = none ↔
      (b.Has sender ∧ amount ≤ b.balanceOf sender) ∧ b.Has receiver ∧ b.balanceOf receiver + amount ≤ maxInteger := by
    unfold legFault?
    split <;> simp only [Option.or_eq_none_iff, banked.debitFault?_eq_none, banked.creditFault?_eq_none]
    exact and_comm
  have self : selfFault? sender receiver = none ↔ sender ≠ receiver := by
    unfold selfFault?
    split <;> simp [*]
  unfold transferFault?
  rw [Option.or_eq_none_iff, Option.or_eq_none_iff, amountFault?_eq_none, self, legs]
  constructor
  · rintro ⟨positive, bounded, apart, sends, receives, funds, room⟩
    exact ⟨⟨⟨positive, bounded⟩, apart⟩, ⟨sends, funds⟩, receives, room⟩
  · rintro ⟨⟨⟨positive, bounded⟩, apart⟩, ⟨sends, funds⟩, receives, room⟩
    exact ⟨positive, bounded, apart, sends, receives, funds, room⟩

theorem Banked.legs_eq (banked : b.Banked) (low : 1 ≤ amount) (high : amount ≤ maxInteger) :
    (if sender < receiver then do
        let sent ← Outcome.adjust b "subtract balance" sender amount (-amount)
        let received ← Outcome.adjust b "add balance" receiver amount amount
        return (sent, received)
      else do
        let received ← Outcome.adjust b "add balance" receiver amount amount
        let sent ← Outcome.adjust b "subtract balance" sender amount (-amount)
        return (sent, received) : Except LedgerError (Int × Int)) =
      (b.legFault? sender receiver amount).elim (.ok (b.balanceOf sender - amount, b.balanceOf receiver + amount)) .error := by
  rw [banked.debit_eq low high, banked.credit_eq low high]
  unfold legFault?
  split
  · exact elim_bind fun _ => elim_bind_pure _
  · exact elim_bind fun _ => elim_bind_pure _

theorem checkTransfer_eq : Accounts.checkTransfer sender receiver amount =
    ((amountFault? "Transfer amount" amount).or (selfFault? sender receiver)).elim (.ok ()) .error := by
  unfold Accounts.checkTransfer selfFault?
  rw [checkPositive_eq]
  refine elim_bind fun _ => ?_
  split <;> rfl

theorem Banked.transfer_eq (banked : b.Banked) : Outcome.transfer b sender receiver amount =
    (b.transferFault? sender receiver amount).elim (.ok (b.balanceOf sender - amount, b.balanceOf receiver + amount)) .error := by
  unfold Outcome.transfer
  rw [checkTransfer_eq]
  refine elim_bind fun none => ?_
  obtain ⟨low, high⟩ := amountFault?_eq_none.mp (Option.or_eq_none_iff.mp none).1
  exact banked.legs_eq low high

end Books

theorem Accounts.transfer_exactly {b : Books} (banked : b.Banked) {time : Instant} {s : Store Database} (rests : s.Rests time)
    (books : s.content.schema = b.tables) (sender receiver amount : Int) :
    (Accounts.transfer sender receiver amount).Exactly time s (b.transferred sender receiver amount time)
      (b.CanTransfer sender receiver amount) (b.balanceOf sender - amount, b.balanceOf receiver + amount)
      (b.transferFault? sender receiver amount) := by
  refine Operation.EndsAlone.exactly ?_ banked.canTransfer_iff (fun _ _ => ⟨_, rfl⟩) (fun _ => transfer_puts _ _ _) rests books
  rw [← banked.transfer_eq]
  exact transfer_ends banked.accounts

namespace Host
variable {τ : Type} [Add τ] [Sub τ] [LT τ] [DecidableLT τ] [Reach τ]

/-- Wherever a run of ordinary errands has come to, a transfer on its own answers with both balances if and only if it can be made,
and makes it as a whole; if not, it tells the first fault and changes nothing. -/
theorem runAll_transfers (h : Host τ) (b₀ : Books) (idle : h.system.store.status = .idle)
    (books : h.system.store.content.schema = b₀.tables) (guarded : b₀.log.Guarded) (banked : b₀.Banked)
    (before : List (Plan (Errand τ))) (ordinary : Plan.AllOf (Errand.Ordinary Direct.CountsAccounts) before) (time : Instant)
    (now : (runAll before h).system.store.now = .universal time) (sender receiver amount : Int) :
    ∃ b b₁ : Books, (runAll before h).system.store.content.schema = b.tables ∧
      (b.CanTransfer sender receiver amount → b.Transferred b₁ sender receiver amount time) ∧
      (Accounts.transfer sender receiver amount).Exactly time (runAll before h).system.store b₁
        (b.CanTransfer sender receiver amount) (b.balanceOf sender - amount, b.balanceOf receiver + amount)
        (b.transferFault? sender receiver amount) := by
  obtain ⟨idle₁, b, books₁, -, banked₁⟩ := runAll_banked idle books guarded banked ordinary
  exact ⟨b, b.transferred sender receiver amount time, books₁, fun can => Books.transferred_transferred can.apart time,
    Accounts.transfer_exactly banked₁ ⟨idle₁, now⟩ books₁ sender receiver amount⟩

/-- From a full account to one that has just been credited, which has the smaller id. -/
theorem runAll_transfers_downwards :
    let _ : Reach Int := .everywhere Int
    let b₀ : Books := { Books.fresh with accounts := [⟨1, 10⟩, ⟨2, maxInteger⟩] }
    let host : Host Int := .holding b₀ .default
    let before : List (Plan (Errand Int)) := [.call (.call (.credit 1 30)) false false]
    (host.system.store.status = .idle ∧ host.system.store.content.schema = b₀.tables ∧ b₀.log.Guarded ∧ b₀.Banked ∧
      Plan.AllOf (Errand.Ordinary Direct.CountsAccounts) before ∧ (runAll before host).system.store.now = .universal .default) ∧
      ∃ b b₁ : Books, (runAll before host).system.store.content.schema = b.tables ∧
        (b.CanTransfer 2 1 5 → b.Transferred b₁ 2 1 5 .default) ∧
        (Accounts.transfer 2 1 5).Exactly .default (runAll before host).system.store b₁ (b.CanTransfer 2 1 5)
          (b.balanceOf 2 - 5, b.balanceOf 1 + 5) (b.transferFault? 2 1 5) := by
  intro _ b₀ host before
  have banked : b₀.Banked := Books.banked_of_rows (by unfold Rows.Ascending; decide) (by decide)
  have now : (runAll before host).system.store.now = .universal .default := rfl
  exact ⟨⟨rfl, rfl, ⟨rfl, rfl⟩, banked, ⟨trivial, trivial⟩, now⟩,
    runAll_transfers host b₀ rfl rfl ⟨rfl, rfl⟩ banked before ⟨trivial, trivial⟩ .default now 2 1 5⟩

end Host
end Passbook
