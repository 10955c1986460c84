import Passbook.Orders
import Passbook.Proofs.Rows
import Passbook.Proofs.Texts

/-! The books of a ledger: its three tables, when all of them are there. What statements do to the books is told by a few changes,
and what each change does to a balance is told beside it. -/
namespace Passbook
open OrderRows Time

structure Books where
  accounts : List Account
  orders : List OrderRow
  log : Log

namespace Books
variable {b : Books} {id k : Int}

def tables (b : Books) : Tables := ⟨some b.accounts, some b.orders, some b.log⟩

theorem tables_injective {b' : Books} (same : b.tables = b'.tables) : b = b' := by
  cases b
  cases b'
  cases same
  rfl

def fresh : Books := ⟨[], [], ⟨[], 0, true, true⟩⟩

def entries (b : Books) : List (Entry Instant) := b.log.entries

def account? (b : Books) (id : Int) : Option Account := Rows.find? Account.id id b.accounts

def Has (b : Books) (id : Int) : Prop := ∃ account ∈ b.accounts, account.id = id

def balanceOf (b : Books) (id : Int) : Int := ((b.account? id).map Account.balance).getD 0

theorem hasAccount_iff : b.tables.hasAccount id = true ↔ b.Has id := Rows.contains_iff

instance (id : Int) : Decidable (b.Has id) := decidable_of_iff _ hasAccount_iff

theorem has_iff_account? : b.Has id ↔ ∃ account, b.account? id = some account := by
  constructor
  · rintro ⟨account, among, same⟩
    have found : (b.account? id).isSome = true := by
      rw [account?, ← Rows.contains_eq_isSome, Rows.contains_iff]
      exact ⟨account, among, same⟩
    exact Option.isSome_iff_exists.mp found
  · rintro ⟨account, found⟩
    obtain ⟨among, same⟩ := Rows.find?_some found
    exact ⟨account, among, same⟩

theorem balanceOf_of_found {account : Account} (found : b.account? id = some account) : b.balanceOf id = account.balance := by
  simp only [balanceOf, found, Option.map_some, Option.getD_some]

theorem account?_of_not_has (absent : ¬ b.Has id) : b.account? id = none := by
  cases found : b.account? id with
  | none => rfl
  | some account => exact absurd (has_iff_account?.mpr ⟨account, found⟩) absent

theorem balanceOf_of_not_has (absent : ¬ b.Has id) : b.balanceOf id = 0 := by
  simp only [balanceOf, account?_of_not_has absent, Option.map_none, Option.getD_none]

section Changes

def opened (id : Int) (b : Books) : Books :=
  if b.tables.hasAccount id then b else { b with accounts := Rows.insert Account.id ⟨id, 0⟩ b.accounts }

def shifted (id delta : Int) (b : Books) : Books :=
  { b with accounts := Rows.update Account.id id (fun a => { a with balance := a.balance + delta }) b.accounts }

def posted (kind : EntryKind) (sender receiver amount : Int) (description : String) (time : Instant) (b : Books) : Books :=
  let entry : Entry Instant := ⟨(b.log.lastId + 1 : Nat), kind, sender, receiver, .int amount, description, time⟩
  { b with log := { b.log with entries := b.log.entries ++ [entry], lastId := b.log.lastId + 1 } }

def reserved (id account service amount : Int) (time : Instant) (b : Books) : Books :=
  { b with orders := Rows.insert Order.id (.opened id account service amount time) b.orders }

def settled (ending : Ending) (time : Instant) (id : Int) (b : Books) : Books :=
  { b with orders := Rows.update Order.id id (finished ending time) b.orders }

variable {sender receiver amount account service delta : Int} {kind : EntryKind} {description : String} {time : Instant}
  {ending : Ending}

theorem opened_of_has (there : b.Has id) : b.opened id = b := by
  unfold opened
  rw [if_pos (hasAccount_iff.mpr there)]

theorem opened_of_not_has (absent : ¬ b.Has id) :
    b.opened id = { b with accounts := Rows.insert Account.id ⟨id, 0⟩ b.accounts } := by
  unfold opened
  rw [if_neg fun there => absent (hasAccount_iff.mp there)]

theorem has_opened : (b.opened id).Has k ↔ k = id ∨ b.Has k := by
  by_cases there : b.Has id
  · rw [opened_of_has there]
    constructor
    · exact .inr
    · rintro (rfl | there) <;> assumption
  · rw [opened_of_not_has there]
    simp only [Has, Rows.mem_insert]
    constructor
    · rintro ⟨account, rfl | among, same⟩
      · exact .inl same.symm
      · exact .inr ⟨account, among, same⟩
    · rintro (rfl | ⟨account, among, same⟩)
      · exact ⟨_, .inl rfl, rfl⟩
      · exact ⟨account, .inr among, same⟩

theorem balanceOf_opened : (b.opened id).balanceOf k = b.balanceOf k := by
  by_cases there : b.Has id
  · rw [opened_of_has there]
  · have fresh : ∀ row ∈ b.accounts, row.id ≠ id := fun row among same => there ⟨row, among, same⟩
    rw [opened_of_not_has there, balanceOf, account?, Rows.find?_insert fresh]
    split
    · rename_i same
      rw [← same, balanceOf_of_not_has there]
      rfl
    · rfl

theorem has_shifted : (b.shifted id delta).Has k ↔ b.Has k := by
  simp only [Has, shifted, Rows.mem_update]
  constructor
  · rintro ⟨_, ⟨account, among, rfl⟩, same⟩
    refine ⟨account, among, ?_⟩
    split at same <;> exact same
  · rintro ⟨account, among, same⟩
    refine ⟨_, ⟨account, among, rfl⟩, ?_⟩
    split <;> exact same

theorem balanceOf_shifted (there : b.Has id) :
    (b.shifted id delta).balanceOf k = b.balanceOf k + if k = id then delta else 0 := by
  have keeps (row : Account) : ({ row with balance := row.balance + delta } : Account).id = row.id := rfl
  rw [balanceOf, account?, shifted, Rows.find?_update keeps, balanceOf, account?]
  cases found : Rows.find? Account.id k b.accounts with
  | none =>
    have other : k ≠ id := by
      rintro rfl
      obtain ⟨account, known⟩ := has_iff_account?.mp there
      rw [account?, found] at known
      cases known
    rw [if_neg other]
    rfl
  | some account =>
    obtain ⟨_, same⟩ := Rows.find?_some found
    simp only [Option.map_some, Option.getD_some, same]
    split
    · rfl
    · exact (Int.add_zero _).symm

theorem shifted_comm {other delta' : Int} (apart : id ≠ other) :
    (b.shifted id delta).shifted other delta' = (b.shifted other delta').shifted id delta := by
  simp only [shifted, Rows.update, List.map_map]
  congr 1
  apply List.map_congr_left
  intro account _
  simp only [Function.comp_apply]
  by_cases here : account.id = id
  · have : account.id ≠ other := fun same => apart (here.symm.trans same)
    simp only [here, if_true, apart, if_false]
  · by_cases there : account.id = other
    · simp only [there, if_true, apart.symm, if_false]
    · simp only [here, there, if_false]

theorem opened_orders : (b.opened id).orders = b.orders := by
  unfold opened
  split <;> rfl

theorem opened_log : (b.opened id).log = b.log := by
  unfold opened
  split <;> rfl

end Changes

/-- An order in the columns of which stands what the ledger itself writes there. -/
structure Regular (b : Books) (order : OrderRow) : Prop where
  fits : fitsInteger order.id = true
  owner : ∃ account, order.account = .int account ∧ b.Has account
  service : ∃ service, order.service = .int service ∧ fitsInteger service = true
  amount : ∃ amount, order.amount = .int amount ∧ 0 < amount ∧ amount ≤ maxInteger
  paid : ∃ paid, order.paid = .ofBool paid
  cancelled : ∃ cancelled, order.cancelled = .ofBool cancelled

/-- Every row is in its place, and every column holds what the ledger itself may write there. -/
structure Sound (b : Books) : Prop where
  accounts : Rows.Ascending Account.id b.accounts
  orders : Rows.Ascending Order.id b.orders
  entries : Rows.Ascending Entry.id b.entries
  known : ∀ id, b.Has id → fitsInteger id = true
  inRange : ∀ account ∈ b.accounts, 0 ≤ account.balance ∧ account.balance ≤ maxInteger
  regular : ∀ order ∈ b.orders, b.Regular order
  numbered : ∀ entry ∈ b.entries, entry.id ≤ b.log.lastId
  sized : ∀ entry ∈ b.entries, ∃ amount, entry.amount = .int amount ∧ 0 ≤ amount ∧ amount ≤ maxInteger

structure Banked (b : Books) : Prop where
  accounts : Rows.Ascending Account.id b.accounts
  known : ∀ id, b.Has id → fitsInteger id = true
  inRange : ∀ account ∈ b.accounts, 0 ≤ account.balance ∧ account.balance ≤ maxInteger

/-- What the ending of an order relies on. The log does not matter. -/
structure Settleable (b : Books) : Prop extends b.Banked where
  orders : Rows.Ascending Order.id b.orders
  regular : ∀ order ∈ b.orders, b.Regular order

section Sound
variable {sender receiver amount account service delta : Int} {kind : EntryKind} {description : String} {time : Instant}
  {ending : Ending}

theorem fresh_sound : fresh.Sound where
  accounts := .nil
  orders := .nil
  entries := .nil
  known _ there := by obtain ⟨_, among, _⟩ := there; cases among
  inRange _ among := by cases among
  regular _ among := by cases among
  numbered _ among := by cases among
  sized _ among := by cases among

theorem Regular.mono {b' : Books} {order : OrderRow} (regular : b.Regular order) (more : ∀ id, b.Has id → b'.Has id) :
    b'.Regular order := by
  obtain ⟨account, written, there⟩ := regular.owner
  exact { regular with owner := ⟨account, written, more account there⟩ }

theorem Sound.balanceOf_mem (sound : b.Sound) {account : Account} (among : account ∈ b.accounts) :
    b.balanceOf account.id = account.balance :=
  balanceOf_of_found (Rows.find?_of_mem sound.accounts among)

theorem balanceOf_inRange (inRange : ∀ account ∈ b.accounts, 0 ≤ account.balance ∧ account.balance ≤ maxInteger) (id : Int) :
    0 ≤ b.balanceOf id ∧ b.balanceOf id ≤ maxInteger := by
  by_cases there : b.Has id
  · obtain ⟨account, found⟩ := has_iff_account?.mp there
    rw [balanceOf_of_found found]
    exact inRange account (Rows.find?_some found).1
  · rw [balanceOf_of_not_has there]
    decide

theorem Sound.settleable (sound : b.Sound) : b.Settleable :=
  ⟨⟨sound.accounts, sound.known, sound.inRange⟩, sound.orders, sound.regular⟩

theorem Sound.balanceOf_inRange (sound : b.Sound) (id : Int) : 0 ≤ b.balanceOf id ∧ b.balanceOf id ≤ maxInteger :=
  Books.balanceOf_inRange sound.inRange id

theorem Sound.opened (sound : b.Sound) (fits : fitsInteger id = true) : (b.opened id).Sound := by
  by_cases there : b.Has id
  · rw [opened_of_has there]
    exact sound
  · have other : ∀ row ∈ b.accounts, row.id ≠ id := fun row among same => there ⟨row, among, same⟩
    have more : ∀ k, b.Has k → (b.opened id).Has k := fun k there => has_opened.mpr (.inr there)
    have known : ∀ k, (b.opened id).Has k → fitsInteger k = true := by
      intro k there
      rcases has_opened.mp there with rfl | there
      · exact fits
      · exact sound.known k there
    rw [opened_of_not_has there] at more known ⊢
    refine { sound with
      accounts := Rows.insert_ascending sound.accounts other
      known := known
      inRange := ?_
      regular := fun order among => (sound.regular order among).mono more }
    intro account among
    rcases Rows.mem_insert.mp among with rfl | among
    · have some_room : (0 : Int) ≤ maxInteger := by decide
      exact ⟨Int.le_refl 0, some_room⟩
    · exact sound.inRange account among

theorem Sound.shifted (sound : b.Sound) (low : 0 ≤ b.balanceOf id + delta) (high : b.balanceOf id + delta ≤ maxInteger) :
    (b.shifted id delta).Sound := by
  refine { sound with
    accounts := Rows.update_ascending sound.accounts fun _ => rfl
    known := fun k there => sound.known k (has_shifted.mp there)
    inRange := ?_
    regular := fun order among => (sound.regular order among).mono fun k there => has_shifted.mpr there }
  intro account later
  obtain ⟨old, among, rfl⟩ := Rows.mem_update.mp later
  split
  · rename_i same
    rw [← same, sound.balanceOf_mem among] at low high
    exact ⟨low, high⟩
  · exact sound.inRange old among

theorem posted_ascending (entries : Rows.Ascending Entry.id b.entries) (numbered : ∀ entry ∈ b.entries, entry.id ≤ b.log.lastId) :
    Rows.Ascending Entry.id (b.posted kind sender receiver amount description time).entries ∧
      ∀ entry ∈ (b.posted kind sender receiver amount description time).entries,
        entry.id ≤ (b.posted kind sender receiver amount description time).log.lastId := by
  constructor
  · refine List.pairwise_append.mpr ⟨entries, List.pairwise_singleton _ _, ?_⟩
    intro old among new isNew
    rw [List.mem_singleton.mp isNew]
    have := numbered old among
    simp only [Int.natCast_add]
    omega
  · intro entry among
    rcases List.mem_append.mp among with among | isNew
    · have := numbered entry among
      simp only [Books.posted, Int.natCast_add]
      omega
    · rw [List.mem_singleton.mp isNew]
      exact Int.le_refl _

theorem Sound.posted (sound : b.Sound) (low : 0 ≤ amount) (high : amount ≤ maxInteger) :
    (b.posted kind sender receiver amount description time).Sound := by
  obtain ⟨entries, numbered⟩ := posted_ascending sound.entries sound.numbered
  refine { sound with
    entries
    regular := fun order among => (sound.regular order among).mono fun _ there => there
    numbered
    sized := ?_ }
  intro entry among
  rcases List.mem_append.mp among with among | isNew
  · exact sound.sized entry among
  · rw [List.mem_singleton.mp isNew]
    exact ⟨amount, rfl, low, high⟩

theorem Sound.reserved (sound : b.Sound) (new : ∀ order ∈ b.orders, order.id ≠ id) (fits : fitsInteger id = true)
    (owner : b.Has account) (served : fitsInteger service = true) (low : 0 < amount) (high : amount ≤ maxInteger) :
    (b.reserved id account service amount time).Sound := by
  refine { sound with
    orders := Rows.insert_ascending sound.orders new
    regular := ?_ }
  intro order among
  rcases Rows.mem_insert.mp among with rfl | among
  · exact {
      fits := fits
      owner := ⟨account, rfl, owner⟩
      service := ⟨service, rfl, served⟩
      amount := ⟨amount, rfl, low, high⟩
      paid := ⟨false, rfl⟩
      cancelled := ⟨false, rfl⟩ }
  · exact (sound.regular order among).mono fun _ there => there

theorem Sound.settled (sound : b.Sound) : (b.settled ending time id).Sound := by
  have keeps (row : OrderRow) : (finished ending time row).id = row.id := by cases ending <;> rfl
  refine { sound with
    orders := Rows.update_ascending sound.orders keeps
    regular := ?_ }
  intro order later
  obtain ⟨old, among, rfl⟩ := Rows.mem_update.mp later
  have regular : (b.settled ending time id).Regular old := (sound.regular old among).mono fun _ there => there
  split
  · cases ending with
    | paid => exact { regular with paid := ⟨true, rfl⟩ }
    | cancelled => exact { regular with cancelled := ⟨true, rfl⟩ }
  · exact regular

end Sound

end Books
end Passbook
