import Passbook.Proofs.Courses
import Passbook.Proofs.Fresh
import Passbook.Proofs.Writes

/-! The life of an order. It begins pending and ends once, paid or cancelled; from then on nothing about it changes, however often
and by whatever it is asked to end again. -/
namespace Passbook
open OrderRows Time

def Direct.SparesOrders : Direct → Prop
  | .insertOrder _ _ => False
  | .setFlags _ _ _ => False
  | _ => True

/-- What may become of an order. Once it has ended, nothing does. -/
structure Order.Evolves (o o' : OrderRow) : Prop where
  id : o'.id = o.id
  account : o'.account = o.account
  service : o'.service = o.service
  amount : o'.amount = o.amount
  createdAt : o'.createdAt = o.createdAt
  ended : o.isPending = false → o' = o

namespace Order.Evolves
variable {o o' o'' : OrderRow}

theorem refl (o : OrderRow) : o.Evolves o := ⟨rfl, rfl, rfl, rfl, rfl, fun _ => rfl⟩

theorem trans (first : o.Evolves o') (rest : o'.Evolves o'') : o.Evolves o'' where
  id := rest.id.trans first.id
  account := rest.account.trans first.account
  service := rest.service.trans first.service
  amount := rest.amount.trans first.amount
  createdAt := rest.createdAt.trans first.createdAt
  ended closed := by
    have same := first.ended closed
    subst same
    exact rest.ended closed

theorem finished (ending : Ending) (time : Instant) (pending : o.isPending = true) : o.Evolves (OrderRows.finished ending time o) := by
  constructor <;> first | (cases ending <;> rfl) | exact fun closed => absurd (closed.symm.trans pending) nofun

end Order.Evolves

theorem Order.isPending_of_flags {order : OrderRow} (flags : order.paid = .int 0 ∧ order.cancelled = .int 0) :
    order.isPending = true := by
  refine Order.isPending_iff.mpr ⟨?_, ?_⟩
  · rw [Order.isPaid, flags.1]
    rfl
  · rw [Order.isCancelled, flags.2]
    rfl

/-- What everyone may rely on in the orders of two points of a run. -/
structure Order.Lasts (o o' : OrderRow) : Prop where
  same : o'.id = o.id ∧ o'.account = o.account ∧ o'.service = o.service ∧ o'.amount = o.amount ∧ o'.createdAt = o.createdAt
  paid : o.isPaid = true → o'.isPaid = true ∧ o'.isCancelled = false ∧ o'.updatedAt = o.updatedAt
  cancelled : o.isCancelled = true → o'.isCancelled = true ∧ o'.isPaid = false ∧ o'.updatedAt = o.updatedAt

theorem Order.Evolves.lasts {o o' : OrderRow} (evolves : o.Evolves o') (unambiguous : o.IsUnambiguous) : o.Lasts o' where
  same := ⟨evolves.id, evolves.account, evolves.service, evolves.amount, evolves.createdAt⟩
  paid isPaid := by
    have closed : o.isPending = false := Bool.eq_false_iff.mpr fun pending => by simp [Order.isPending_iff, isPaid] at pending
    have single : o.isCancelled = false := Bool.eq_false_iff.mpr fun isCancelled => unambiguous.single ⟨isPaid, isCancelled⟩
    rw [evolves.ended closed]
    exact ⟨isPaid, single, rfl⟩
  cancelled isCancelled := by
    have closed : o.isPending = false := Bool.eq_false_iff.mpr fun pending => by simp [Order.isPending_iff, isCancelled] at pending
    have single : o.isPaid = false := Bool.eq_false_iff.mpr fun isPaid => unambiguous.single ⟨isPaid, isCancelled⟩
    rw [evolves.ended closed]
    exact ⟨isCancelled, single, rfl⟩

theorem Order.finished_isPending (ending : Ending) (time : Instant) (order : OrderRow) :
    (OrderRows.finished ending time order).isPending = false := by
  refine Bool.eq_false_iff.mpr fun pending => ?_
  obtain ⟨unpaid, uncancelled⟩ := Order.isPending_iff.mp pending
  cases ending with
  | paid => cases unpaid
  | cancelled => cases uncancelled

namespace Books

/-- Orders whose flags tell one state, under ids of their own. -/
structure Orderly (b : Books) : Prop where
  guarded : b.log.Guarded
  ascending : Rows.Ascending Order.id b.orders
  flags : ∀ order ∈ b.orders, order.IsUnambiguous

/-- No order has been changed before it was created, and none was created after what the clock shows. -/
def Dated (now : Reading) (b : Books) : Prop :=
  ∀ order ∈ b.orders, order.createdAt ≤ order.updatedAt ∧ (order.createdAt.micros : Int) ≤ now.moment

def Evolves (b b' : Books) : Prop := ∀ order ∈ b.orders, ∃ order' ∈ b'.orders, order.Evolves order'

/-- How many orders with this id have ended, as long as there is one such order at most. -/
def endings (id : Int) (b : Books) : Nat := (b.orders.any fun order => order.id == id && !order.isPending).toNat

section
variable {b b' b'' : Books} {now : Reading} {deferred : Bool} {id : Int}

theorem Evolves.of_same (same : b'.orders = b.orders) : b.Evolves b' := fun order among => ⟨order, same ▸ among, .refl order⟩

theorem Evolves.trans (first : b.Evolves b') (rest : b'.Evolves b'') : b.Evolves b'' := by
  intro order among
  obtain ⟨order', among', evolves⟩ := first order among
  obtain ⟨order'', among'', evolves'⟩ := rest order' among'
  exact ⟨order'', among'', evolves.trans evolves'⟩

theorem endings_eq_one : b.endings id = 1 ↔ ∃ order ∈ b.orders, order.id = id ∧ order.isPending = false := by
  simp [endings, Bool.toNat_eq_one]

theorem endings_le_one : b.endings id ≤ 1 := Bool.toNat_le _

theorem Evolves.endings (evolves : b.Evolves b') : b.endings id ≤ b'.endings id := by
  have bound : b.endings id ≤ 1 := endings_le_one
  by_cases closed : b.endings id = 1
  · obtain ⟨order, among, named, ended⟩ := endings_eq_one.mp closed
    obtain ⟨order', among', evolves⟩ := evolves order among
    have same := evolves.ended ended
    subst same
    exact (closed.trans (endings_eq_one.mpr ⟨_, among', named, ended⟩).symm).le
  · omega

theorem fresh_orderly : fresh.Orderly := ⟨⟨rfl, rfl⟩, .nil, fun _ among => nomatch among⟩

theorem fresh_dated : fresh.Dated now := fun _ among => nomatch among

theorem Orderly.found_flags (orderly : b.Orderly) {order row : OrderRow} (found : Rows.find? Order.id id b.orders = some order)
    (pending : order.paid.agrees (.ofBool false) = true ∧ order.cancelled.agrees (.ofBool false) = true)
    (among : row ∈ b.orders) (named : row.id = id) : row.paid = .int 0 ∧ row.cancelled = .int 0 := by
  obtain ⟨among', named'⟩ := Rows.find?_some found
  cases orderly.ascending.unique among' among (named'.trans named.symm)
  exact (orderly.flags order among).flags pending

theorem Writes.orders {free : Direct → Prop} (writes : b.Writes free now deferred b')
    (spares : ∀ statement, free statement → statement.SparesOrders) : b'.orders = b.orders ∨
    (∃ id account service amount time, now.instant = .ok time ∧ (∀ row ∈ b.orders, row.id ≠ id) ∧
      ((∀ n ∈ [id, account, service, amount], fitsInteger n = true) ∧ checkRow (.opened id account service amount time) = .ok ()) ∧
      b'.orders = Rows.insert Order.id (.opened id account service amount time) b.orders) ∨
    ∃ ending id time order, now.instant = .ok time ∧ Rows.find? Order.id id b.orders = some order ∧
      (order.paid.agrees (.ofBool false) = true ∧ order.cancelled.agrees (.ofBool false) = true) ∧
      b'.orders = Rows.update Order.id id (finished ending time) b.orders := by
  cases writes with
  | ordered order new checked owner origin =>
    rcases origin with ⟨account, service, amount, time, shown, fits, same⟩ | ⟨_, _, allowed, _⟩
    · refine .inr (.inl ⟨order.id, account, service, amount, time, shown, new, ⟨fits, ?_⟩, ?_⟩)
      · rw [← same]
        exact checked
      · rw [← same]
    · exact (spares _ allowed).elim
  | ended ending id shown found pending => exact .inr (.inr ⟨ending, id, _, _, shown, found, pending, rfl⟩)
  | flagged id found checked origin =>
    obtain ⟨_, _, _, allowed, _⟩ := origin
    exact (spares _ allowed).elim
  | _ => exact .inl rfl

theorem Orderly.writes (orderly : b.Orderly) (writes : b.Writes Direct.SparesOrders now deferred b') : b'.Orderly ∧ b.Evolves b' := by
  have guarded := writes.guarded orderly.guarded
  rcases writes.orders (fun _ spares => spares) with same | ⟨id, account, service, amount, time, _, new, _, added⟩ |
    ⟨ending, id, time, order, _, found, pending, ended⟩
  · exact ⟨⟨guarded, same ▸ orderly.ascending, same ▸ orderly.flags⟩, .of_same same⟩
  · refine ⟨⟨guarded, added ▸ Rows.insert_ascending orderly.ascending new, ?_⟩, ?_⟩
    · intro row among
      rw [added] at among
      rcases Rows.mem_insert.mp among with rfl | among
      · exact .opened
      · exact orderly.flags row among
    · intro old among
      exact ⟨old, added ▸ Rows.mem_insert.mpr (.inr among), .refl old⟩
  · have keeps (row : OrderRow) : (finished ending time row).id = row.id := by cases ending <;> rfl
    refine ⟨⟨guarded, ended ▸ Rows.update_ascending orderly.ascending keeps, ?_⟩, ?_⟩
    · intro row later
      rw [ended] at later
      obtain ⟨old, among, rfl⟩ := Rows.mem_update.mp later
      split
      · rename_i named
        exact .finished ending time (orderly.found_flags found pending among named)
      · exact orderly.flags old among
    · intro old among
      refine ⟨_, ended ▸ Rows.mem_update.mpr ⟨old, among, rfl⟩, ?_⟩
      split
      · rename_i named
        exact .finished ending time (Order.isPending_of_flags (orderly.found_flags found pending among named))
      · exact .refl old

theorem Dated.writes (dated : b.Dated now) (writes : b.Writes Direct.SparesOrders now deferred b') : b'.Dated now := by
  rcases writes.orders (fun _ spares => spares) with same | ⟨id, account, service, amount, time, shown, _, _, added⟩ |
    ⟨ending, id, time, order, shown, _, _, ended⟩
  · exact fun row among => dated row (same ▸ among)
  · intro row among
    rw [added] at among
    rcases Rows.mem_insert.mp among with rfl | among
    · exact ⟨Nat.le_refl _, (Reading.moment_of_instant shown).le⟩
    · exact dated row among
  · intro row later
    rw [ended] at later
    obtain ⟨old, among, rfl⟩ := Rows.mem_update.mp later
    obtain ⟨since, past⟩ := dated old among
    split
    · -- The order was created before what the clock shows, and what it shows is when it ends.
      have atNow := Reading.moment_of_instant shown
      have before : old.createdAt.micros ≤ time.micros := by omega
      cases ending with
      | paid => exact ⟨before, past⟩
      | cancelled => exact ⟨before, past⟩
    · exact ⟨since, past⟩

theorem Dated.later {now' : Reading} (moved : now.NotAfter now') (dated : b.Dated now) : b.Dated now' :=
  fun order among => ⟨(dated order among).1, (dated order among).2.trans moved⟩

end
end Books

/-- Every order is still there, and beyond the endings there were, so many more orders of an id have ended. -/
def Database.Evolves (finished : Int → Nat) (c c' : Database) : Prop :=
  ∀ b : Books, c.schema = b.tables →
    ∃ b' : Books, c'.schema = b'.tables ∧ b.Evolves b' ∧ ∀ id, finished id + b.endings id ≤ b'.endings id

theorem Database.Evolves.trans {f g h : Int → Nat} {c c' c'' : Database} (sums : ∀ id, h id = f id + g id)
    (first : c.Evolves f c') (rest : c'.Evolves g c'') : c.Evolves h c'' := by
  intro b books
  obtain ⟨b', books', evolves, more⟩ := first b books
  obtain ⟨b'', books'', evolves', more'⟩ := rest b' books'
  refine ⟨b'', books'', evolves.trans evolves', fun id => ?_⟩
  have := more id
  have := more' id
  have := sums id
  omega

def Database.IsOrderly (dated : Reading → Books → Prop) (now : Reading) (_ : Bool) (c : Database) : Prop :=
  ∃ b : Books, c.schema = b.tables ∧ b.Orderly ∧ dated now b

theorem Law.orderly (dated : Reading → Books → Prop)
    (kept : ∀ {now deferred b b'}, dated now b → b.Writes Direct.SparesOrders now deferred b' → dated now b') :
    Law (Given Direct.SparesOrders) (Database.IsOrderly dated) (Database.Evolves fun _ => 0) where
  nothing _ b books := ⟨b, books, .of_same rfl, fun _ => (Nat.zero_add _).le⟩
  more grown grown' := grown.trans (fun _ => rfl) grown'
  statement given answered := by
    rintro ⟨b, books, orderly, timely⟩
    obtain ⟨b', books', same | writes⟩ := given.writes orderly.guarded books answered
    · subst same
      refine ⟨⟨b', books', orderly, timely⟩, fun b known => ⟨b, ?_, .of_same rfl, fun _ => (Nat.zero_add _).le⟩⟩
      rw [books', ← books, known]
    · obtain ⟨orderly', evolves⟩ := orderly.writes writes
      refine ⟨⟨b', books', orderly', kept timely writes⟩, fun b known => ?_⟩
      cases Books.tables_injective (known.symm.trans books)
      exact ⟨b', books', evolves, fun _ => (Nat.zero_add _).trans_le evolves.endings⟩
  deferring holds := holds
  commit holds _ := holds

section
variable {dated : Reading → Books → Prop} {α : Type}

def Database.Ends (id : Int) : Database → Database → Prop := Evolves fun k => (id == k).toNat

theorem Database.Ends.evolves {id : Int} {c c' c'' : Database} (ends : c.Ends id c') (rest : c'.Evolves (fun _ => 0) c'') :
    c.Ends id c'' :=
  ends.trans (fun _ => rfl) rest

theorem OrderRows.finish_ends {ending : Ending} {id account service amount : Int} {time : Instant} {deferred : Bool} {a : OrderRow}
    {c c' : Database} {b : Books} (orderly : b.Orderly) (books : c.schema = b.tables) (evolves : c.Evolves (fun _ => 0) c')
    (answered : (OrderRows.finish ending time id account service amount).onSchema deferred c = .ok (some a, c')) : c.Ends id c' := by
  obtain ⟨books', order, found, pending⟩ := OrderRows.finish_eq_some (Statement.answered_of_onSchema books answered)
  intro b known
  cases Books.tables_injective (known.symm.trans books)
  obtain ⟨b', later, evolves, more⟩ := evolves b books
  cases Books.tables_injective (later.symm.trans books')
  refine ⟨_, books', evolves, fun k => ?_⟩
  dsimp only
  by_cases same : id = k
  · subst same
    have none : b.endings id ≠ 1 := by
      intro ended
      obtain ⟨row, among, named, closed⟩ := Books.endings_eq_one.mp ended
      cases closed.symm.trans (Order.isPending_of_flags (orderly.found_flags found pending among named))
    have one : (b.settled ending time id).endings id = 1 := by
      obtain ⟨among, named⟩ := Rows.find?_some found
      refine Books.endings_eq_one.mpr ⟨finished ending time order, Rows.mem_update.mpr ⟨order, among, if_pos named⟩, ?_, ?_⟩
      · cases ending <;> exact named
      · exact Order.finished_isPending ending time order
    have bound : b.endings id ≤ 1 := Books.endings_le_one
    rw [beq_self_eq_true, one]
    dsimp only [Bool.toNat_true]
    omega
  · rw [beq_false_of_ne same]
    exact more k

variable (law : Law (Given Direct.SparesOrders) (Database.IsOrderly dated) (Database.Evolves fun _ => 0))

include law

theorem LedgerWork.Puts.brings {w : LedgerWork α} (puts : ∀ now, w.Puts Direct.SparesOrders now) :
    w.Leads (Store.Brings (Database.IsOrderly dated) (Database.Evolves fun _ => 0)) :=
  law.leads fun now => (puts now).mono fun _ _ performs => performs.mono fun _ _ put => .inl put

theorem Orders.finish_answers (ending : Ending) (id account service amount : Int) :
    (finish ending id account service amount).Answers (Store.Brings (Database.IsOrderly dated) (Database.Ends id)) := by
  intro s order t ran
  obtain ⟨time, s', told, goes⟩ := Act.bind_eq_ok.mp ran
  obtain ⟨shown, rfl⟩ := Work.instant_eq_ok told
  obtain ⟨found?, u, asked, ended⟩ := Act.bind_eq_ok.mp goes
  obtain ⟨saved, deferred, content, busy, answered, rfl⟩ := Work.execute_eq_ok asked
  cases found? with
  | none => cases ended
  | some row =>
    cases ended
    constructor
    · intro saved' deferred' busy' holds
      cases busy.symm.trans busy'
      obtain ⟨holds', evolves⟩ := law.statement (.inl (.finishOrder ending id account service amount shown)) answered holds
      obtain ⟨b, books, orderly, _⟩ := holds
      exact ⟨deferred, busy, holds', OrderRows.finish_ends orderly books evolves answered⟩
    · intro idle
      cases busy.symm.trans idle

theorem Orders.cancel_answers (id account service amount : Int) :
    (cancel id account service amount).body.Answers (Store.Brings (Database.IsOrderly dated) (Database.Ends id)) := by
  refine Act.Answers.bind (finish_answers law .cancelled id account service amount) (fun order => ?_)
    (Store.Brings.trans Database.Ends.evolves)
  refine Act.Leads.answers (LedgerWork.Puts.brings law fun _ => ?_)
  refine Act.Leads.bind (Accounts.giveBack_puts _ _) ?_
  intro balance
  exact .bind (Accounts.append_puts _ _ _ _ _) fun _ => .ofExcept (.ok balance)

theorem LedgerWork.unit_answers {G : Database → Database → Prop} (isJoined : Bool) {body : LedgerWork α}
    (answers : body.Answers (Store.Brings (Database.IsOrderly dated) G)) :
    (if isJoined then body else Work.inUnit body).Answers (Store.Brings (Database.IsOrderly dated) G) := by
  cases isJoined with
  | true => exact answers
  | false => exact law.inUnit_answers answers

theorem Call.operate_answers {id : Int} {isJoined : Bool} {op : Operation α} {answer : α → Answer}
    (report : ∀ a now, (op.report a).Puts Direct.SparesOrders now)
    (answers : op.body.Answers (Store.Brings (Database.IsOrderly dated) (Database.Ends id))) :
    (operate isJoined op answer).Answers (Store.Brings (Database.IsOrderly dated) (Database.Ends id)) := by
  have within {body : LedgerWork α} (answers : body.Answers (Store.Brings (Database.IsOrderly dated) (Database.Ends id))) :
      (op.within body).Answers (Store.Brings (Database.IsOrderly dated) (Database.Ends id)) := by
    refine Act.Answers.of_ofExcept fun _ => Act.Answers.bind answers (fun a => ?_) (Store.Brings.trans Database.Ends.evolves)
    exact Act.Leads.answers (LedgerWork.Puts.brings law fun now => .bind (report a now) fun _ => .ofExcept (.ok a))
  have both := LedgerWork.unit_answers law isJoined answers
  refine Act.Answers.map ?_ answer
  cases isJoined with
  | true => exact within both
  | false => exact within both

omit law in
def Call.finishes (id : Int) : Call → Bool
  | .payOrder order _ _ _ => order == id
  | .cancelOrder order _ _ _ => order == id
  | .finishOrder _ order _ _ _ => order == id
  | _ => false

theorem Call.run_answers (isJoined : Bool) (call : Call) (frees : call.Frees Direct.SparesOrders) :
    (call.run isJoined).Answers (Store.Brings (Database.IsOrderly dated) (Database.Evolves fun id => (call.finishes id).toNat)) := by
  have plain : (call.run isJoined).Answers (Store.Brings (Database.IsOrderly dated) (Database.Evolves fun _ => 0)) := by
    refine Act.Leads.answers (law.leads fun now => call.run_leads (Spans.performs now) frees ?_)
    exact fun _ _ _ puts => (puts now).mono fun _ _ performs => performs.mono fun _ _ put => .inl put
  cases call with
  | payOrder order account service amount =>
    exact operate_answers law (fun _ _ => Work.record_performs _ _ _ _) (Orders.finish_answers law .paid order account service amount)
  | cancelOrder order account service amount =>
    exact operate_answers law (fun _ _ => Work.record_performs _ _ _ _) (Orders.cancel_answers law order account service amount)
  | finishOrder ending order account service amount =>
    exact Act.Answers.map (LedgerWork.unit_answers law isJoined (Orders.finish_answers law ending order account service amount)) _
  | _ => exact plain

end

def Errand.finishes {τ : Type} (id : Int) : Errand τ → Bool
  | .call c => c.finishes id
  | _ => false

namespace Host
variable {τ : Type} [Add τ] [Sub τ] [LT τ] [DecidableLT τ] [Reach τ]

theorem course_of_orderly {K : Reading → Reading → Prop} {dated : Reading → Books → Prop}
    (law : Law (Given Direct.SparesOrders) (Database.IsOrderly dated) (Database.Evolves fun _ => 0)) (stands : ∀ r, K r r)
    (moves : ∀ {r r' r''}, K r r' → K r' r'' → K r r'') (later : ∀ {r r' b}, K r r' → dated r b → dated r' b) :
    Course (run : Bool → Errand τ → HostAct τ Reply) (Errand.Ordinary Direct.SparesOrders) K (Database.IsOrderly dated)
      (fun errands => Database.Evolves fun id => errands.countP (Errand.finishes id)) where
  stands := stands
  moves := moves
  nothing := law.nothing
  more first rest := first.trans (fun _ => List.countP_append) rest
  later moved := fun ⟨b, books, orderly, timely⟩ => ⟨b, books, orderly, later moved timely⟩
  commit := law.commit
  call isJoined errand among h := by
    intro moved
    have kept := law.advances (fun moved ⟨b, books, orderly, timely⟩ => ⟨b, books, orderly, later moved timely⟩)
      (run_advances isJoined errand among h) moved
    rcases ran : run isJoined errand h with ⟨e | reply, t⟩ <;> rw [ran] at kept
    · exact kept
    · have counted : (fun id => [errand].countP (Errand.finishes id)) = fun id => (errand.finishes id).toNat := by
        funext id
        cases finishes : errand.finishes id <;> simp [finishes]
      change Store.Brings _ (Database.Evolves fun id => [errand].countP (Errand.finishes id)) _ _
      rw [counted]
      cases errand with
      | call call => exact Act.Answers.map (Act.Answers.onStore (call.run_answers law isJoined among)) _ h reply t ran
      | _ => exact kept

/-- At any two points of a run of errands that leave the orders to the ledger, the orders of the first are still there at the
second, and those that have ended are as they were. Of all that was asked to end an order and was committed, one at most has
answered. While the clock does not go back, no order is changed before it is created. -/
theorem runAll_lifecycle (h : Host τ) (b : Books) (idle : h.system.store.status = .idle)
    (books : h.system.store.content.schema = b.tables) (orderly : b.Orderly) (before after : List (Plan (Errand τ)))
    (ordinary : Plan.AllOf (Errand.Ordinary Direct.SparesOrders) before ∧ Plan.AllOf (Errand.Ordinary Direct.SparesOrders) after) :
    ∃ b₁ b₂ : Books, (runAll before h).system.store.content.schema = b₁.tables ∧
      (runAll (before ++ after) h).system.store.content.schema = b₂.tables ∧
      (∀ order ∈ b₁.orders, ∃ order' ∈ b₂.orders, order.Lasts order') ∧
      (∀ order ∈ b₂.orders, ¬ (order.isPaid = true ∧ order.isCancelled = true)) ∧
      (∀ id, (Chronicle.lived run (before ++ after) h).kept.countP (Errand.finishes id) ≤ 1) ∧
      (b.Dated h.system.store.now → (Chronicle.lived run (before ++ after) h).Timed Reading.NotAfter →
        ∀ order ∈ b₂.orders, order.createdAt ≤ order.updatedAt) := by
  have course : Course (run : Bool → Errand τ → HostAct τ Reply) (Errand.Ordinary Direct.SparesOrders) (fun _ _ => True) _ _ :=
    course_of_orderly (Law.orderly (fun _ _ => True) fun _ _ => trivial) (fun _ => trivial) (fun _ _ => trivial) fun _ timely => timely
  obtain ⟨here, there, first, rest⟩ :=
    runAll_continues course before after ordinary h idle ⟨b, books, orderly, trivial⟩ fun _ _ => trivial
  obtain ⟨b₁, books₁, orderly₁, _⟩ := first.holds
  obtain ⟨b₂, books₂, orderly₂, _⟩ := rest.holds
  obtain ⟨errands, kept, grown⟩ := first.kept
  obtain ⟨errands', kept', grown'⟩ := rest.kept
  refine ⟨b₁, b₂, here ▸ books₁, there ▸ books₂, ?_, fun order among => (orderly₂.flags order among).single, ?_, ?_⟩
  · obtain ⟨b', books', evolves, _⟩ := grown' b₁ books₁
    cases Books.tables_injective (books'.symm.trans books₂)
    intro order among
    obtain ⟨order', among', evolves⟩ := evolves order among
    exact ⟨order', among', evolves.lasts (orderly₁.flags order among)⟩
  · intro id
    obtain ⟨b', books', _, more⟩ := course.more grown grown' b books
    have bound : b'.endings id ≤ 1 := Books.endings_le_one
    have counted : (errands ++ errands').countP (Errand.finishes id) + b.endings id ≤ b'.endings id := more id
    rw [kept', kept, List.append_assoc]
    change (errands ++ errands').countP (Errand.finishes id) ≤ 1
    omega
  · intro dated timed
    have timely : Course (run : Bool → Errand τ → HostAct τ Reply) (Errand.Ordinary Direct.SparesOrders) Reading.NotAfter _ _ :=
      course_of_orderly (Law.orderly (fun now b => b.Dated now) fun dated writes => dated.writes writes) (fun r => le_refl r.moment)
        (fun first second => le_trans first second) fun moved dated => Books.Dated.later moved dated
    obtain ⟨_, _, _, rest⟩ := runAll_continues timely before after ordinary h idle ⟨b, books, orderly, dated⟩ timed
    obtain ⟨b', books', _, dated'⟩ := rest.holds
    cases Books.tables_injective (books'.symm.trans books₂)
    exact fun order among => (dated' order among).1

/-- An order is paid, and is to be cancelled and marked as paid after that. -/
theorem runAll_lifecycle_fresh :
    let _ : Reach Int := .everywhere Int
    let host : Host Int := .fresh .default
    let before : List (Plan (Errand Int)) := [.call (.call (.credit 1 5)) false false, .call (.call (.createOrder 7 1 2 3)) false false]
    let after : List (Plan (Errand Int)) := [
      .unit [.call (.call (.payOrder 7 1 2 3)) false false, .call (.call (.cancelOrder 7 1 2 3)) false true] false false,
      .call (.call (.finishOrder .paid 7 1 2 3)) false false]
    host.system.store.status = .idle ∧ host.system.store.content.schema = Books.fresh.tables ∧ Books.fresh.Orderly ∧
      (Plan.AllOf (Errand.Ordinary Direct.SparesOrders) before ∧ Plan.AllOf (Errand.Ordinary Direct.SparesOrders) after) ∧
      Books.fresh.Dated host.system.store.now ∧
      ∃ b₁ b₂ : Books, (runAll before host).system.store.content.schema = b₁.tables ∧
        (runAll (before ++ after) host).system.store.content.schema = b₂.tables ∧
        (∀ order ∈ b₁.orders, ∃ order' ∈ b₂.orders, order.Lasts order') ∧
        ∀ id, (Chronicle.lived run (before ++ after) host).kept.countP (Errand.finishes id) ≤ 1 := by
  intro _ host before after
  obtain ⟨_, rests, books⟩ := Store.fresh_keeps .default
  have ordinary : Plan.AllOf (Errand.Ordinary Direct.SparesOrders) before ∧ Plan.AllOf (Errand.Ordinary Direct.SparesOrders) after :=
    ⟨⟨trivial, trivial, trivial⟩, ⟨trivial, trivial, trivial⟩, trivial, trivial⟩
  obtain ⟨b₁, b₂, here, there, lasts, _, once, _⟩ :=
    runAll_lifecycle host .fresh rests.idle books Books.fresh_orderly before after ordinary
  exact ⟨rests.idle, books, Books.fresh_orderly, ordinary, Books.fresh_dated, b₁, b₂, here, there, lasts, once⟩

end Host
end Passbook
