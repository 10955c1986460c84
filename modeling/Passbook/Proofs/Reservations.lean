import Passbook.Proofs.Fresh

/-! Orders and their entries: what is reserved for an order and what is given back is told by entries that name the order in their
descriptions. Each order has the entries that its state asks for, and no such entry is without its order. -/
namespace Passbook
open Books OrderRows Time

/-- The text by which an entry of a kind names an order, if entries of this kind are made for orders. -/
def EntryKind.orderText? (kind : EntryKind) (id amount : Int) : Option String :=
  match kind with
  | .reservation => some (reservationText id amount)
  | .cancelReservation => some (cancellationText id amount)
  | .enrollment | .transfer => none

/-- An entry of a kind that names an order, whatever amount it tells. -/
def Entry.Names (kind : EntryKind) (id : Int) (entry : Entry Instant) : Prop :=
  entry.kind = kind ∧ ∃ amount, kind.orderText? id amount = some entry.description

/-- An entry of an order: between its owner and itself, of its amount, and naming it. -/
structure Entry.Marks (kind : EntryKind) (order : OrderRow) (entry : Entry Instant) : Prop where
  isKind : entry.kind = kind
  owner : order.account = .int entry.sender
  own : entry.receiver = entry.sender
  amount : entry.amount = order.amount
  named : ∃ amount, order.amount = .int amount ∧ kind.orderText? order.id amount = some entry.description

/-- Whether the state of an order asks for an entry of a kind. -/
def Order.Asks (order : OrderRow) (kind : EntryKind) : Prop :=
  kind = .reservation ∨ kind = .cancelReservation ∧ order.isCancelled = true

variable {b b' : Books} {kind : EntryKind} {order : OrderRow} {entry : Entry Instant} {id account service amount i j : Int}
  {ending : Ending} {time : Instant}

theorem EntryKind.orderText?_injective {m n : Int} {text : String} (left : kind.orderText? i m = some text)
    (right : kind.orderText? j n = some text) :
    i = j ∧ m = n := by
  cases kind with
  | enrollment => cases left
  | transfer => cases left
  | reservation =>
    have same : reservationText i m = reservationText j n := Option.some.inj (left.trans right.symm)
    rw [reservationText_eq, reservationText_eq] at same
    exact (Text.naming_injective same).symm
  | cancelReservation =>
    have same : cancellationText i m = cancellationText j n := Option.some.inj (left.trans right.symm)
    rw [cancellationText_eq, cancellationText_eq] at same
    exact (Text.naming_injective same).symm

namespace Entry

theorem Names.unique (left : entry.Names kind i) (right : entry.Names kind j) : i = j := by
  obtain ⟨_, m, written⟩ := left
  obtain ⟨_, n, written'⟩ := right
  exact (EntryKind.orderText?_injective written written').1

theorem Names.ofOrder (named : entry.Names kind i) : kind = .reservation ∨ kind = .cancelReservation := by
  obtain ⟨_, m, written⟩ := named
  cases kind with
  | enrollment => cases written
  | transfer => cases written
  | reservation => exact .inl rfl
  | cancelReservation => exact .inr rfl

theorem Marks.names (marks : entry.Marks kind order) : entry.Names kind order.id := by
  obtain ⟨amount, _, named⟩ := marks.named
  exact ⟨marks.isKind, amount, named⟩

theorem Marks.finished (marks : entry.Marks kind order) : entry.Marks kind (finished ending time order) := by
  obtain ⟨isKind, owner, own, amount, named⟩ := marks
  cases ending <;> exact ⟨isKind, owner, own, amount, named⟩

end Entry

namespace Books
variable {entries : List (Entry Instant)}

/-- No two entries of a kind name one order, and nothing is given back before it is reserved. -/
structure Told (entries : List (Entry Instant)) : Prop where
  single : ∀ kind id, ∀ x ∈ entries, ∀ y ∈ entries, x.Names kind id → y.Names kind id → x = y
  later : ∀ id, ∀ x ∈ entries, ∀ y ∈ entries, x.Names .reservation id → y.Names .cancelReservation id → x.id < y.id

theorem Told.snoc (told : Told entries) (last : ∀ x ∈ entries, x.id < entry.id)
    (once : ∀ id, entry.Names entry.kind id → ∀ x ∈ entries, ¬ x.Names entry.kind id)
    (first : ∀ id, entry.Names .reservation id → ∀ x ∈ entries, ¬ x.Names .cancelReservation id) : Told (entries ++ [entry]) where
  single kind id x left y right named named' := by
    -- Both entries are old, or one of them is the last, or both.
    rcases List.mem_append.mp left with left | left
    · rcases List.mem_append.mp right with right | right
      · exact told.single kind id x left y right named named'
      · cases List.mem_singleton.mp right
        obtain rfl := named'.1
        exact absurd named (once id named' x left)
    · cases List.mem_singleton.mp left
      rcases List.mem_append.mp right with right | right
      · obtain rfl := named.1
        exact absurd named' (once id named y right)
      · exact (List.mem_singleton.mp right).symm
  later id x left y right named named' := by
    rcases List.mem_append.mp left with left | left
    · rcases List.mem_append.mp right with right | right
      · exact told.later id x left y right named named'
      · cases List.mem_singleton.mp right
        exact last x left
    · cases List.mem_singleton.mp left
      rcases List.mem_append.mp right with right | right
      · exact absurd named' (first id named y right)
      · cases List.mem_singleton.mp right
        exact nomatch named.1.symm.trans named'.1

/-- The entries of orders are those that the states of the orders ask for. -/
structure Matched (b : Books) : Prop where
  told : Told b.entries
  recorded : ∀ order ∈ b.orders, ∀ kind, order.Asks kind → ∃ entry ∈ b.entries, entry.Marks kind order
  owned : ∀ entry ∈ b.entries, entry.kind = .reservation ∨ entry.kind = .cancelReservation →
    ∃ order ∈ b.orders, order.Asks entry.kind ∧ entry.Marks entry.kind order
  exclusive : ∀ order ∈ b.orders, order.isCancelled = true → order.isPaid = false

theorem fresh_matched : fresh.Matched where
  told := ⟨fun _ _ _ among => (nomatch among), fun _ _ among => (nomatch among)⟩
  recorded _ among := nomatch among
  owned _ among := nomatch among
  exclusive _ among := nomatch among

theorem Sound.last (sound : b'.Sound) (written : b'.entries = b.entries ++ [entry]) : ∀ old ∈ b.entries, old.id < entry.id := by
  intro old among
  have ascending := sound.entries
  rw [written] at ascending
  exact (List.pairwise_append.mp ascending).2.2 old among entry (List.mem_singleton.mpr rfl)

theorem Matched.named (matched : b.Matched) (among : entry ∈ b.entries) (named : entry.Names kind id) :
    ∃ order ∈ b.orders, order.id = id ∧ order.Asks kind := by
  obtain rfl := named.1
  obtain ⟨order, there, asks, marks⟩ := matched.owned entry among named.ofOrder
  exact ⟨order, there, marks.names.unique named, asks⟩

theorem Matched.aside (matched : b.Matched) (sound : b'.Sound) (written : b'.entries = b.entries ++ [entry])
    (same : b'.orders = b.orders) (other : ¬ (entry.kind = .reservation ∨ entry.kind = .cancelReservation)) : b'.Matched where
  told := by
    rw [written]
    refine matched.told.snoc (sound.last written) ?_ ?_
    · intro id named
      exact absurd named.ofOrder other
    · intro id named
      exact absurd (.inl named.1) other
  recorded order among kind asks := by
    rw [same] at among
    obtain ⟨old, there, marks⟩ := matched.recorded order among kind asks
    rw [written]
    exact ⟨old, List.mem_append_left _ there, marks⟩
  owned old among isOfOrder := by
    rw [written] at among
    rw [same]
    rcases List.mem_append.mp among with among | among
    · exact matched.owned old among isOfOrder
    · cases List.mem_singleton.mp among
      exact absurd isOfOrder other
  exclusive order among := by
    rw [same] at among
    exact matched.exclusive order among

theorem Matched.ordered (matched : b.Matched) (sound : (b.ordered id account service amount time).Sound)
    (new : ∀ order ∈ b.orders, order.id ≠ id) : (b.ordered id account service amount time).Matched := by
  let order : OrderRow := .opened id account service amount time
  let entry : Entry Instant :=
    ⟨(b.log.lastId + 1 : Nat), .reservation, account, account, .int amount, reservationText id amount, time⟩
  have marks : entry.Marks .reservation order := ⟨rfl, rfl, rfl, rfl, amount, rfl, rfl⟩
  have unnamed (kind : EntryKind) (id' : Int) (named : entry.Names .reservation id') : ∀ x ∈ b.entries, ¬ x.Names kind id' := by
    intro x among named'
    obtain ⟨old, there, same, _⟩ := matched.named among named'
    exact new old there (same.trans (named.unique marks.names))
  constructor
  · exact matched.told.snoc (sound.last rfl) (unnamed .reservation) (unnamed .cancelReservation)
  -- A new order asks for its reservation only.
  · intro order' among kind asks
    rcases Rows.mem_insert.mp among with rfl | among
    · rcases asks with rfl | ⟨_, never⟩
      · exact ⟨entry, List.mem_append_right _ (List.mem_singleton.mpr rfl), marks⟩
      · cases never
    · obtain ⟨old, there, marks⟩ := matched.recorded order' among kind asks
      exact ⟨old, List.mem_append_left _ there, marks⟩
  · intro old among isOfOrder
    rcases List.mem_append.mp among with among | among
    · obtain ⟨order', there, asks, marks⟩ := matched.owned old among isOfOrder
      exact ⟨order', Rows.mem_insert.mpr (.inr there), asks, marks⟩
    · cases List.mem_singleton.mp among
      exact ⟨order, Rows.mem_insert.mpr (.inl rfl), .inl rfl, marks⟩
  · intro order' among isCancelled
    rcases Rows.mem_insert.mp among with rfl | among
    · cases isCancelled
    · exact matched.exclusive order' among isCancelled

theorem Matched.owned_settled (matched : b.Matched) (among : entry ∈ b.entries)
    (isOfOrder : entry.kind = .reservation ∨ entry.kind = .cancelReservation) :
    ∃ order ∈ (b.settled ending time id).orders, order.Asks entry.kind ∧ entry.Marks entry.kind order := by
  obtain ⟨old, there, asks, marks⟩ := matched.owned entry among isOfOrder
  refine ⟨_, Rows.mem_update.mpr ⟨old, there, rfl⟩, ?_⟩
  split
  · refine ⟨?_, marks.finished⟩
    rcases asks with isReservation | ⟨isReturn, isCancelled⟩
    · exact .inl isReservation
    · cases ending with
      | paid => exact .inr ⟨isReturn, isCancelled⟩
      | cancelled => exact .inr ⟨isReturn, rfl⟩
  · exact ⟨asks, marks⟩

-- Ids are unique, so that an order of this id is the one that is pending.
theorem Sound.pending_unpaid (sound : b.Sound) (pending : b.Pending id account service amount) (among : order ∈ b.orders)
    (same : order.id = id) :
    order.account = .int account ∧ order.amount = .int amount ∧ order.isPaid = false ∧ order.isCancelled = false := by
  obtain ⟨order', there, same', isAccount, _, isAmount, isPending⟩ := pending
  cases sound.orders.unique among there (same.trans same'.symm)
  exact ⟨isAccount, isAmount, Order.isPending_iff.mp isPending⟩

theorem Matched.paid (matched : b.Matched) (sound : b.Sound) (pending : b.Pending id account service amount) :
    (b.settled .paid time id).Matched where
  told := matched.told
  recorded order later kind asks := by
    obtain ⟨old, among, rfl⟩ := Rows.mem_update.mp later
    split at asks
    · obtain ⟨entry, there, marks⟩ := matched.recorded old among kind asks
      rw [if_pos ‹_›]
      exact ⟨entry, there, marks.finished⟩
    · rw [if_neg ‹_›]
      exact matched.recorded old among kind asks
  owned _ among isOfOrder := matched.owned_settled among isOfOrder
  exclusive order later isCancelled := by
    obtain ⟨old, among, rfl⟩ := Rows.mem_update.mp later
    split at isCancelled
    · obtain ⟨_, _, _, notCancelled⟩ := sound.pending_unpaid pending among ‹_›
      exact nomatch isCancelled.symm.trans notCancelled
    · rw [if_neg ‹_›]
      exact matched.exclusive old among isCancelled

theorem Matched.cancelled (matched : b.Matched) (sound : b.Sound) (sound' : (b.cancelled id account amount time).Sound)
    (pending : b.Pending id account service amount) : (b.cancelled id account amount time).Matched := by
  have ⟨order, there, same, _⟩ := pending
  obtain ⟨isAccount, isAmount, notPaid, notCancelled⟩ := sound.pending_unpaid pending there same
  let entry : Entry Instant :=
    ⟨(b.log.lastId + 1 : Nat), .cancelReservation, account, account, .int amount, cancellationText id amount, time⟩
  have marks : entry.Marks .cancelReservation order := by
    refine ⟨rfl, isAccount, rfl, isAmount.symm, amount, isAmount, ?_⟩
    rw [same]
    rfl
  have ended : finished .cancelled time order ∈ (b.cancelled id account amount time).orders := by
    refine Rows.mem_update.mpr ⟨order, there, ?_⟩
    rw [if_pos same]
  constructor
  · refine matched.told.snoc (sound'.last rfl) ?_ fun _ never => nomatch never.1
    -- Only a cancelled order has such an entry, and this one is pending.
    intro id' named x among named'
    obtain ⟨old, among', same', asks⟩ := matched.named among named'
    have sameId : old.id = order.id := same'.trans (named.unique marks.names)
    cases sound.orders.unique among' there sameId
    rcases asks with never | ⟨_, isCancelled⟩
    · cases never
    · exact nomatch isCancelled.symm.trans notCancelled
  · intro order' later kind asks
    obtain ⟨old, among, rfl⟩ := Rows.mem_update.mp later
    by_cases here : old.id = id
    · rw [if_pos here]
      cases sound.orders.unique among there (here.trans same.symm)
      rcases asks with rfl | ⟨rfl, _⟩
      · obtain ⟨entry, among', marks⟩ := matched.recorded order there .reservation (.inl rfl)
        exact ⟨entry, List.mem_append_left _ among', marks.finished⟩
      · exact ⟨entry, List.mem_append_right _ (List.mem_singleton.mpr rfl), marks.finished⟩
    · rw [if_neg here] at asks ⊢
      obtain ⟨entry, among', marks⟩ := matched.recorded old among kind asks
      exact ⟨entry, List.mem_append_left _ among', marks⟩
  · intro old among isOfOrder
    rcases List.mem_append.mp among with among | among
    · exact matched.owned_settled among isOfOrder
    · cases List.mem_singleton.mp among
      exact ⟨_, ended, .inr ⟨rfl, rfl⟩, marks.finished⟩
  · intro order' later isCancelled
    obtain ⟨old, among, rfl⟩ := Rows.mem_update.mp later
    by_cases here : old.id = id
    · rw [if_pos here]
      cases sound.orders.unique among there (here.trans same.symm)
      exact notPaid
    · rw [if_neg here] at isCancelled ⊢
      exact matched.exclusive old among isCancelled

theorem Matched.posts (matched : b.Matched) (sound : b.Sound) (step : Posts b b') : b'.Matched := by
  have sound' := sound.posts step
  cases step with
  | credit time low high fits bounded =>
    rename_i id amount
    exact matched.aside sound' entries_credited opened_orders (by simp)
  | transfer time low high apart from_ to_ funds bounded => exact matched.aside sound' rfl rfl (by simp)
  | order time low high owner funds fits served new => exact matched.ordered sound' new
  | pay time pending => exact matched.paid sound pending
  | cancel time pending bounded => exact matched.cancelled sound sound' pending

theorem Reached.matched (reached : b.Reached) : b.Matched := by
  induction reached with
  | fresh => exact fresh_matched
  | posted before step ih => exact ih.posts before.sound step

structure Only (b : Books) (kind : EntryKind) (order : OrderRow) (entry : Entry Instant) : Prop where
  among : entry ∈ b.entries
  marks : entry.Marks kind order
  alone : ∀ other ∈ b.entries, other.Names kind order.id → other = entry

theorem Matched.only (matched : b.Matched) (there : order ∈ b.orders) (asks : order.Asks kind) : ∃ entry, b.Only kind order entry := by
  obtain ⟨entry, among, marks⟩ := matched.recorded order there kind asks
  refine ⟨entry, among, marks, ?_⟩
  intro other among' named
  exact matched.told.single kind order.id other among' entry among named marks.names

theorem Matched.isCancelled_iff (matched : b.Matched) (there : order ∈ b.orders) :
    order.isCancelled = true ↔ order.state = .cancelled := by
  unfold Order.state OrderState.ofFlags
  constructor
  · intro isCancelled
    rw [matched.exclusive order there isCancelled, isCancelled]
    rfl
  · intro isCancelled
    split at isCancelled
    · cases isCancelled
    · split at isCancelled
      · assumption
      · cases isCancelled

theorem Matched.not_named (matched : b.Matched) (sound : b.Sound) (there : order ∈ b.orders) (open_ : order.state ≠ .cancelled)
    (among : entry ∈ b.entries) : ¬ entry.Names .cancelReservation order.id := by
  intro named
  obtain ⟨other, there', same, asks⟩ := matched.named among named
  cases sound.orders.unique there' there same
  rcases asks with never | ⟨_, isCancelled⟩
  · cases never
  · exact open_ ((matched.isCancelled_iff there).mp isCancelled)

end Books

/-- Whatever is run on a new store, singly or in units, the log that is kept tells of the orders that are kept, and of no others. -/
theorem Step.entries_match_orders (time : Instant) (steps : List Step) :
    ∃ b : Books, (runAll steps (.fresh time)).Keeps b ∧
      (∀ order ∈ b.orders, ∃ reserve, b.Only .reservation order reserve ∧
        (order.state = .cancelled → ∃ giveBack, b.Only .cancelReservation order giveBack ∧ reserve.id < giveBack.id ∧
          ∃ amount, reserve.signedAmount? = some (.int (-amount)) ∧ giveBack.signedAmount? = some (.int amount)) ∧
        (order.state ≠ .cancelled → ∀ entry ∈ b.entries, ¬ entry.Names .cancelReservation order.id)) ∧
      ∀ entry ∈ b.entries, entry.kind = .reservation ∨ entry.kind = .cancelReservation →
        ∃ order ∈ b.orders, entry.Marks entry.kind order := by
  obtain ⟨b, reached, kept⟩ := runAll_fresh time steps
  have sound := reached.sound
  have matched := reached.matched
  refine ⟨b, kept, ?_, ?_⟩
  · intro order there
    obtain ⟨reserve, reserved⟩ := matched.only there (.inl rfl)
    refine ⟨reserve, reserved, ?_, fun open_ entry among => matched.not_named sound there open_ among⟩
    intro isCancelled
    obtain ⟨giveBack, returned⟩ := matched.only there (.inr ⟨rfl, (matched.isCancelled_iff there).mpr isCancelled⟩)
    obtain ⟨amount, isAmount, _⟩ := (sound.regular order there).amount
    have later := matched.told.later order.id reserve reserved.among giveBack returned.among reserved.marks.names returned.marks.names
    refine ⟨giveBack, returned, later, amount, ?_, ?_⟩
    · rw [Entry.signedAmount?, reserved.marks.isKind, reserved.marks.amount, isAmount]
      rfl
    · rw [Entry.signedAmount?, returned.marks.isKind, returned.marks.amount, isAmount]
      rfl
  · intro entry among isOfOrder
    obtain ⟨order, there, _, marks⟩ := matched.owned entry among isOfOrder
    exact ⟨order, there, marks⟩

end Passbook
