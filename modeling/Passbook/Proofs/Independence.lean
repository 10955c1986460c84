import Passbook.Proofs.Fresh
import Passbook.Proofs.Leftovers
import Passbook.Proofs.Outcomes

/-! Operations that have nothing to do with each other. An operation looks at the rows of its own accounts and of its own order only,
changes no others, and adds to the log without looking at it. So of two operations that share no row it does not matter which comes
first. -/
namespace Passbook
open Books OrderRows Time

theorem Rows.Ascending.ext {ρ : Type} {key : ρ → Int} {rows rows' : List ρ} (ascending : Ascending key rows)
    (ascending' : Ascending key rows') (same : ∀ k, find? key k rows = find? key k rows') : rows = rows' := by
  have members (row : ρ) : row ∈ rows ↔ row ∈ rows' := by
    constructor
    · intro among
      exact (find?_some ((same (key row)).symm.trans (find?_of_mem ascending among))).1
    · intro among
      exact (find?_some ((same (key row)).trans (find?_of_mem ascending' among))).1
  have permuted : rows.Perm rows' := (List.perm_ext_iff_of_nodup ascending.nodup.of_map ascending'.nodup.of_map).mpr members
  exact permuted.eq_of_pairwise (fun _ _ _ _ below above => by omega) ascending ascending'

namespace Books
variable {b b' b₁ b₂ : Books} {id k account service amount delta : Int} {time : Instant} {ending : Ending}

section Lookups

def onRow {ρ : Type} (id : Int) (change : Option ρ → Option ρ) (k : Int) (row : Option ρ) : Option ρ :=
  if k = id then change row else row

theorem onRow_of_ne {ρ : Type} {change : Option ρ → Option ρ} {row : Option ρ} (other : k ≠ id) : onRow id change k row = row :=
  if_neg other

theorem find?_update_eq {ρ : Type} {key : ρ → Int} {rows : List ρ} (change : ρ → ρ) (keeps : ∀ row, key (change row) = key row) :
    Rows.find? key k (Rows.update key id change rows) = onRow id (Option.map change) k (Rows.find? key k rows) := by
  rw [Rows.find?_update keeps, onRow]
  cases found : Rows.find? key k rows with
  | none => simp
  | some row =>
    rw [Option.map_some, Option.map_some, (Rows.find?_some found).2]
    split <;> rfl

def Account.shifted (delta : Int) (account : Account) : Account := { account with balance := account.balance + delta }

theorem account?_opened : (b.opened id).account? k = onRow id (fun row => some (row.getD ⟨id, 0⟩)) k (b.account? k) := by
  unfold onRow
  by_cases there : b.Has id
  · rw [opened_of_has there]
    obtain ⟨account, found⟩ := has_iff_account?.mp there
    split
    · rename_i same
      rw [same, found]
      rfl
    · rfl
  · have absent : ∀ row ∈ b.accounts, row.id ≠ id := fun row among same => there ⟨row, among, same⟩
    rw [opened_of_not_has there, account?, Rows.find?_insert absent]
    simp only [eq_comm (a := id)]
    split
    · rename_i same
      rw [same, account?_of_not_has there]
      rfl
    · rfl

theorem account?_shifted : (b.shifted id delta).account? k = onRow id (Option.map (Account.shifted delta)) k (b.account? k) :=
  find?_update_eq (Account.shifted delta) fun _ => rfl

theorem order?_reserved (new : ∀ order ∈ b.orders, order.id ≠ id) : (b.reserved id account service amount time).order? k =
    onRow id (fun _ => some (.opened id account service amount time)) k (b.order? k) := by
  refine (Rows.find?_insert new).trans ?_
  unfold onRow
  simp only [eq_comm (a := k)]
  rfl

theorem order?_settled : (b.settled ending time id).order? k = onRow id (Option.map (finished ending time)) k (b.order? k) :=
  find?_update_eq (finished ending time) fun row => by cases ending <;> rfl

theorem has_congr (same : b.account? id = b'.account? id) : b.Has id ↔ b'.Has id := by
  rw [has_iff_account?, has_iff_account?, same]

theorem balanceOf_congr (same : b.account? id = b'.account? id) : b.balanceOf id = b'.balanceOf id := by
  rw [balanceOf, balanceOf, same]

theorem account?_ext (known : b.Has id ↔ b'.Has id) (same : b.balanceOf id = b'.balanceOf id) : b.account? id = b'.account? id := by
  by_cases there : b.Has id
  · obtain ⟨row, found⟩ := has_iff_account?.mp there
    obtain ⟨row', found'⟩ := has_iff_account?.mp (known.mp there)
    have named := (Rows.find?_some found).2
    have named' := (Rows.find?_some found').2
    rw [balanceOf_of_found found, balanceOf_of_found found'] at same
    rw [found, found']
    cases row
    cases row'
    cases named.trans named'.symm
    cases same
    rfl
  · rw [account?_of_not_has there, account?_of_not_has fun there' => there (known.mpr there')]

end Lookups

structure Agree (accounts : List Int) (order : Option Int) (b b' : Books) : Prop where
  account : ∀ id ∈ accounts, b.account? id = b'.account? id
  order : ∀ id, order = some id → b.order? id = b'.order? id

end Books

def Log.posted (kind : EntryKind) (sender receiver amount : Int) (description : String) (time : Instant) (log : Log) : Log :=
  let entry : Entry Instant := ⟨(log.lastId + 1 : Nat), kind, sender, receiver, .int amount, description, time⟩
  { log with entries := log.entries ++ [entry], lastId := log.lastId + 1 }

/-- The log with the ids of its two newest entries exchanged. -/
def Log.Exchanged (log log' : Log) : Prop :=
  ∃ older x y, log.entries = older ++ [x, y] ∧
    log' = { log with entries := older ++ [{ y with id := x.id }, { x with id := y.id }] }

theorem Log.posted_exchanged {kind kind' : EntryKind} {sender receiver amount sender' receiver' amount' : Int}
    {description description' : String} {time time' : Instant} (log : Log) :
    ((log.posted kind sender receiver amount description time).posted kind' sender' receiver' amount' description' time').Exchanged
      ((log.posted kind' sender' receiver' amount' description' time').posted kind sender receiver amount description time) :=
  ⟨log.entries, ⟨(log.lastId + 1 : Nat), kind, sender, receiver, .int amount, description, time⟩,
    ⟨(log.lastId + 1 + 1 : Nat), kind', sender', receiver', .int amount', description', time'⟩,
    by simp [Log.posted], by simp [Log.posted]⟩

structure Effect where
  account : Int → Option Account → Option Account := fun _ row => row
  order : Int → Option OrderRow → Option OrderRow := fun _ row => row
  log : Log → Log := fun log => log

namespace Effect

/-- Only rows of some accounts and of an order are changed, and at most one entry is added to the log. -/
structure Within (accounts : List Int) (order : Option Int) (effect : Effect) : Prop where
  account : ∀ id, id ∉ accounts → ∀ row, effect.account id row = row
  order : ∀ id, order ≠ some id → ∀ row, effect.order id row = row
  log : (∀ log, effect.log log = log) ∨
    ∃ kind sender receiver amount description time, effect.log = Log.posted kind sender receiver amount description time

structure Leads (effect : Effect) (b b' : Books) : Prop where
  account : ∀ id, b'.account? id = effect.account id (b.account? id)
  order : ∀ id, b'.order? id = effect.order id (b.order? id)
  log : b'.log = effect.log b.log

variable {effect effect' : Effect} {accounts accounts' : List Int} {order order' : Option Int} {b c d c' d' : Books}

theorem Within.agree (within : effect.Within accounts order) (leads : effect.Leads b c) (apart : ∀ id ∈ accounts', id ∉ accounts)
    (other : ∀ id, order' = some id → order ≠ some id) : Agree accounts' order' b c where
  account id among := ((leads.account id).trans (within.account id (apart id among) _)).symm
  order id named := ((leads.order id).trans (within.order id (other id named) _)).symm

theorem commute_of_still {α : Type} {f g : α → α} (still : (∀ x, f x = x) ∨ ∀ x, g x = x) (x : α) : g (f x) = f (g x) := by
  rcases still with still | still
  · rw [still, still]
  · rw [still, still]

/-- Two effects in both orders: the rows come out the same, and so does the log, but for the ids that the two have drawn. -/
theorem Within.commute (within : effect.Within accounts order) (within' : effect'.Within accounts' order')
    (apart : ∀ id ∈ accounts', id ∉ accounts) (other : ∀ id, order' = some id → order ≠ some id)
    (first : effect.Leads b c) (second' : effect'.Leads c d') (first' : effect'.Leads b d) (second : effect.Leads d c')
    (sound : d'.Sound) (sound' : c'.Sound) :
    d'.accounts = c'.accounts ∧ d'.orders = c'.orders ∧ (d'.log = c'.log ∨ d'.log.Exchanged c'.log) := by
  -- On each row at least one of the two changes nothing.
  refine ⟨sound.accounts.ext sound'.accounts fun id => ?_, sound.orders.ext sound'.orders fun id => ?_, ?_⟩
  · refine (second'.account id).trans (Eq.trans ?_ (second.account id).symm)
    rw [first.account, first'.account]
    by_cases mine : id ∈ accounts'
    · exact commute_of_still (.inl (within.account id (apart id mine))) _
    · exact commute_of_still (.inr (within'.account id mine)) _
  · refine (second'.order id).trans (Eq.trans ?_ (second.order id).symm)
    rw [first.order, first'.order]
    by_cases mine : order' = some id
    · exact commute_of_still (.inl (within.order id (other id mine))) _
    · exact commute_of_still (.inr (within'.order id mine)) _
  · rw [second'.log, second.log, first.log, first'.log]
    rcases within.log with silent | ⟨_, _, _, _, _, _, posts⟩
    · exact .inl (commute_of_still (.inl silent) _)
    · rcases within'.log with silent' | ⟨_, _, _, _, _, _, posts'⟩
      · exact .inl (commute_of_still (.inr silent') _)
      · rw [posts, posts']
        exact .inr (Log.posted_exchanged b.log)

end Effect

namespace Outcome
variable {b b' : Books} {id account service amount delta sender receiver : Int} {time : Instant} {ending : Ending}

theorem adjust_congr {operation : String} (same : b.account? id = b'.account? id) :
    adjust b operation id amount delta = adjust b' operation id amount delta := by
  unfold adjust
  simp only [has_congr same, balanceOf_congr same]

theorem credit_congr (same : b.account? id = b'.account? id) : credit b id amount = credit b' id amount := by
  unfold credit
  rw [balanceOf_congr same]

theorem transfer_congr (same : b.account? sender = b'.account? sender) (same' : b.account? receiver = b'.account? receiver) :
    transfer b sender receiver amount = transfer b' sender receiver amount := by
  unfold transfer
  simp only [adjust_congr same, adjust_congr same']

theorem create_congr (same : b.account? account = b'.account? account) (same' : b.order? id = b'.order? id) :
    create b time id account service amount = create b' time id account service amount := by
  unfold create insertOrder
  rw [adjust_congr same, same']

theorem finish_congr (sound : b.Sound) (sound' : b'.Sound) (same : b.order? id = b'.order? id) :
    finish b time ending id account service amount = finish b' time ending id account service amount := by
  unfold finish
  rw [sound.settleable.pending?_eq, sound'.settleable.pending?_eq, same]

theorem cancel_congr (sound : b.Sound) (sound' : b'.Sound) (same : b.account? account = b'.account? account)
    (same' : b.order? id = b'.order? id) : cancel b time id account service amount = cancel b' time id account service amount := by
  unfold cancel
  rw [finish_congr sound sound' same', balanceOf_congr same]

theorem credit_posts {balance : Int} (told : credit b id amount = .ok balance) : Posts b (b.credited id amount time) := by
  obtain ⟨_, checked, told⟩ := bind_eq_ok.mp told
  obtain ⟨low, high⟩ := Accounts.checkCredit_eq_ok.mp checked
  split at told
  · rename_i fits
    split at told
    · cases told
    · exact .credit time low high fits (by omega)
  · cases told

theorem transfer_posts {balances : Int × Int} (told : transfer b sender receiver amount = .ok balances) :
    Posts b (b.transferred sender receiver amount time) := by
  obtain ⟨_, checked, told⟩ := bind_eq_ok.mp told
  obtain ⟨⟨low, high⟩, apart⟩ := Accounts.checkTransfer_eq_ok.mp checked
  -- The lower id goes first, but both legs are made in either order.
  have posts {sent received : Int} (sends : adjust b "subtract balance" sender amount (-amount) = .ok sent)
      (receives : adjust b "add balance" receiver amount amount = .ok received) : Posts b (b.transferred sender receiver amount time) := by
    obtain ⟨-, from_, funds, -⟩ := adjust_eq_ok.mp sends
    obtain ⟨-, to_, -, bounded, -⟩ := adjust_eq_ok.mp receives
    exact .transfer time low high apart from_ to_ (by omega) bounded
  split at told
  · obtain ⟨_, sends, told⟩ := bind_eq_ok.mp told
    obtain ⟨_, receives, -⟩ := bind_eq_ok.mp told
    exact posts sends receives
  · obtain ⟨_, receives, told⟩ := bind_eq_ok.mp told
    obtain ⟨_, sends, -⟩ := bind_eq_ok.mp told
    exact posts sends receives

theorem create_eq_ok {answer : OrderRow × Int} (told : create b time id account service amount = .ok answer) :
    (∀ order ∈ b.orders, order.id ≠ id) ∧ Posts b (b.ordered id account service amount time) := by
  obtain ⟨_, checked, told⟩ := bind_eq_ok.mp told
  obtain ⟨_, adjusts, told⟩ := bind_eq_ok.mp told
  obtain ⟨_, inserts, -⟩ := bind_eq_ok.mp told
  obtain ⟨low, high⟩ := checkPositive_eq_ok.mp checked
  obtain ⟨-, owner, funds, -⟩ := adjust_eq_ok.mp adjusts
  obtain ⟨⟨fits, served⟩, new, -⟩ := insertOrder_eq_ok.mp inserts
  exact ⟨new, .order time low high owner (by omega) fits served new⟩

theorem cancel_posts {balance : Int} (told : cancel b time id account service amount = .ok balance) :
    Posts b (b.cancelled id account amount time) := by
  obtain ⟨_, finishes, told⟩ := bind_eq_ok.mp told
  obtain ⟨pending, -⟩ := finish_eq_ok finishes
  split at told
  · cases told
  · exact .cancel time pending (by omega)

end Outcome

theorem Step.runAll_stands (time : Instant) (steps : List Step) :
    ∃ now b, Store.Stands now b (runAll steps (.fresh time)) := by
  obtain ⟨b, reached, now, rests, books⟩ := runAll_fresh time steps
  exact ⟨now, b, rests, books, reached.sound⟩

namespace Call

def accounts : Call → List Int
  | .credit account _ => [account]
  | .transfer sender receiver _ => [sender, receiver]
  | .createOrder _ account _ _ => [account]
  | .payOrder _ account _ _ => [account]
  | .cancelOrder _ account _ _ => [account]
  | _ => []

def order? : Call → Option Int
  | .createOrder order _ _ _ => some order
  | .payOrder order _ _ _ => some order
  | .cancelOrder order _ _ _ => some order
  | _ => none

/-- What a call does when it is run by itself: its outcome by the books it finds, the books it leaves if it answers, and how far they
differ. -/
structure Does (call : Call) (time : Instant) (outcome : Books → Except LedgerError Answer) (after : Books → Books) (effect : Effect) :
    Prop where
  within : effect.Within call.accounts call.order?
  alike {b b' : Books} : b.Sound → b'.Sound → Agree call.accounts call.order? b b' → outcome b = outcome b'
  ends {b : Books} {s : Store Database} : s.Stands time b → ∃ t,
    call.run false s = ((outcome b).mapError .ledger, t) ∧ t.Rests time ∧
    (∀ a, outcome b = .ok a → t.content.schema = (after b).tables) ∧ (∀ e, outcome b = .error e → t.content = s.content)
  leads {b : Books} {a : Answer} : outcome b = .ok a → Posts b (after b) ∧ effect.Leads b (after b)

section
variable {call : Call} {time : Instant} {after : Books → Books} {effect : Effect}

theorem does_of_operation {α : Type} (op : Operation α) {answer : α → Answer} {outcome : Books → Except LedgerError α}
    (same : call.run false = operate false op answer) (ends : ∀ b : Books, b.Sound → op.EndsAlone time b (outcome b) (after b))
    (within : effect.Within call.accounts call.order?)
    (alike : ∀ b b' : Books, b.Sound → b'.Sound → Agree call.accounts call.order? b b' → outcome b = outcome b')
    (leads : ∀ (b : Books) (a : α), outcome b = .ok a → Posts b (after b) ∧ effect.Leads b (after b)) :
    call.Does time (fun b => (outcome b).map answer) after effect where
  within := within
  alike sound sound' agree := congrArg (Except.map answer) (alike _ _ sound sound' agree)
  ends {b s} stands := by
    obtain ⟨t, ran, rests, answered, failed⟩ := ends b stands.sound s stands.rests stands.books
    refine ⟨t, ?_, rests, ?_, ?_⟩
    · rw [same]
      cases told : outcome b with
      | ok a =>
        rw [told] at ran
        exact Act.bind_of_ok ran
      | error e =>
        rw [told] at ran
        exact Act.bind_of_error ran
    · intro a told
      cases told' : outcome b with
      | ok a' => exact answered a' told'
      | error e =>
        rw [told'] at told
        cases told
    · intro e told
      cases told' : outcome b with
      | ok a' =>
        rw [told'] at told
        cases told
      | error e' => exact failed e' told'
  leads {b a} told := by
    cases told' : outcome b with
    | ok a' => exact leads b a' told'
    | error e =>
      rw [told'] at told
      cases told

theorem credit_does (account amount : Int) (time : Instant) :
    ∃ outcome after effect, (Call.credit account amount).Does time outcome after effect := by
  let effect : Effect := {
    account := fun k row => onRow account (Option.map (Account.shifted amount)) k
      (onRow account (fun row => some (row.getD ⟨account, 0⟩)) k row)
    log := Log.posted .enrollment account account amount (creditText account amount) time }
  refine ⟨_, _, effect, does_of_operation (Accounts.credit account amount) rfl (fun b sound => Accounts.credit_ends sound) ?_ ?_ ?_⟩
  · refine ⟨fun id other row => ?_, fun _ _ _ => rfl, .inr ⟨_, _, _, _, _, _, rfl⟩⟩
    have apart : id ≠ account := by simpa [accounts] using other
    exact (onRow_of_ne apart).trans (onRow_of_ne apart)
  · intro b b' _ _ agree
    exact Outcome.credit_congr (agree.account account (by simp [accounts]))
  · intro b balance told
    refine ⟨Outcome.credit_posts told, fun id => ?_, fun id => ?_, ?_⟩
    · exact account?_shifted.trans (congrArg _ account?_opened)
    · exact congrArg (Rows.find? Order.id id) opened_orders
    · exact congrArg (Log.posted _ _ _ _ _ _) opened_log

theorem transfer_does (sender receiver amount : Int) (time : Instant) :
    ∃ outcome after effect, (Call.transfer sender receiver amount).Does time outcome after effect := by
  let effect : Effect := {
    account := fun k row => onRow receiver (Option.map (Account.shifted amount)) k
      (onRow sender (Option.map (Account.shifted (-amount))) k row)
    log := Log.posted .transfer sender receiver amount (transferText sender receiver amount) time }
  refine ⟨_, _, effect, does_of_operation (Accounts.transfer sender receiver amount) rfl
    (fun b sound => Accounts.transfer_ends sound.accounts) ?_ ?_ ?_⟩
  · refine ⟨fun id other row => ?_, fun _ _ _ => rfl, .inr ⟨_, _, _, _, _, _, rfl⟩⟩
    obtain ⟨apart, apart'⟩ : id ≠ sender ∧ id ≠ receiver := by simpa [accounts] using other
    exact (onRow_of_ne apart').trans (onRow_of_ne apart)
  · intro b b' _ _ agree
    exact Outcome.transfer_congr (agree.account sender (by simp [accounts])) (agree.account receiver (by simp [accounts]))
  · intro b balances told
    refine ⟨Outcome.transfer_posts told, fun id => ?_, fun _ => rfl, rfl⟩
    exact account?_shifted.trans (congrArg _ account?_shifted)

theorem createOrder_does (order account service amount : Int) (time : Instant) :
    ∃ outcome after effect, (Call.createOrder order account service amount).Does time outcome after effect := by
  let effect : Effect := {
    account := onRow account (Option.map (Account.shifted (-amount)))
    order := onRow order fun _ => some (.opened order account service amount time)
    log := Log.posted .reservation account account amount (reservationText order amount) time }
  refine ⟨_, _, effect, does_of_operation (Orders.create order account service amount) rfl
    (fun b sound => Orders.create_ends sound.accounts) ?_ ?_ ?_⟩
  · have untouched (id : Int) (apart : id ≠ order) (row : Option OrderRow) : effect.order id row = row := if_neg apart
    refine ⟨fun id other row => onRow_of_ne ?_, fun id other row => untouched id ?_ row, .inr ⟨_, _, _, _, _, _, rfl⟩⟩
    · simpa [accounts] using other
    · rintro rfl
      exact other rfl
  · intro b b' _ _ agree
    exact Outcome.create_congr (agree.account account (by simp [accounts])) (agree.order order rfl)
  · intro b answer told
    obtain ⟨new, posts⟩ := Outcome.create_eq_ok told
    exact ⟨posts, fun id => account?_shifted, fun id => order?_reserved (b := b.shifted account (-amount)) new, rfl⟩

theorem payOrder_does (order account service amount : Int) (time : Instant) :
    ∃ outcome after effect, (Call.payOrder order account service amount).Does time outcome after effect := by
  let effect : Effect := { order := onRow order (Option.map (finished .paid time)) }
  refine ⟨_, _, effect, does_of_operation (Orders.pay order account service amount) rfl
    (fun b sound => Orders.pay_ends sound.settleable) ?_ ?_ ?_⟩
  · refine ⟨fun _ _ _ => rfl, fun id other row => onRow_of_ne ?_, .inl fun _ => rfl⟩
    rintro rfl
    exact other rfl
  · intro b b' sound sound' agree
    exact Outcome.finish_congr sound sound' (agree.order order rfl)
  · intro b answer told
    exact ⟨.pay time (Outcome.finish_eq_ok told).1, fun _ => rfl, fun _ => order?_settled, rfl⟩

theorem cancelOrder_does (order account service amount : Int) (time : Instant) :
    ∃ outcome after effect, (Call.cancelOrder order account service amount).Does time outcome after effect := by
  let effect : Effect := {
    account := onRow account (Option.map (Account.shifted amount))
    order := onRow order (Option.map (finished .cancelled time))
    log := Log.posted .cancelReservation account account amount (cancellationText order amount) time }
  refine ⟨_, _, effect, does_of_operation (Orders.cancel order account service amount) rfl
    (fun b sound => Orders.cancel_ends sound.settleable) ?_ ?_ ?_⟩
  · refine ⟨fun id other row => onRow_of_ne ?_, fun id other row => onRow_of_ne ?_, .inr ⟨_, _, _, _, _, _, rfl⟩⟩
    · simpa [accounts] using other
    · rintro rfl
      exact other rfl
  · intro b b' sound sound' agree
    exact Outcome.cancel_congr sound sound' (agree.account account (by simp [accounts])) (agree.order order rfl)
  · intro b answer told
    exact ⟨Outcome.cancel_posts told, fun id => account?_shifted (b := b.settled .cancelled time order), fun _ => order?_settled, rfl⟩

theorem operation_does (call : Call) (operation : call.IsOperation) (time : Instant) :
    ∃ outcome after effect, call.Does time outcome after effect := by
  cases call with
  | credit account amount => exact credit_does account amount time
  | transfer sender receiver amount => exact transfer_does sender receiver amount time
  | createOrder order account service amount => exact createOrder_does order account service amount time
  | payOrder order account service amount => exact payOrder_does order account service amount time
  | cancelOrder order account service amount => exact cancelOrder_does order account service amount time
  | _ => exact operation.elim

end

section
variable {call : Call} {time : Instant} {outcome : Books → Except LedgerError Answer} {after : Books → Books} {effect : Effect}
  {b : Books} {s : Store Database}

def left (outcome : Books → Except LedgerError Answer) (after : Books → Books) (b : Books) : Books :=
  match outcome b with
  | .ok _ => after b
  | .error _ => b

theorem Does.run (does : call.Does time outcome after effect) (stands : s.Stands time b) :
    (call.run false s).1 = (outcome b).mapError .ledger ∧ (call.run false s).2.Stands time (left outcome after b) := by
  obtain ⟨t, ran, rests, answered, failed⟩ := does.ends stands
  rw [ran]
  refine ⟨rfl, ?_⟩
  unfold left
  cases told : outcome b with
  | ok a => exact ⟨rests, answered a told, stands.sound.posts (does.leads told).1⟩
  | error e => exact ⟨rests, failed e told ▸ stands.books, stands.sound⟩

/-- From all books that agree on its rows a call goes on in one way: it has its effect on each of them, or none on any. -/
theorem Does.settles (does : call.Does time outcome after effect) (sound : b.Sound) : ∃ effect' : Effect,
    effect'.Within call.accounts call.order? ∧
      ∀ b' : Books, b'.Sound → Agree call.accounts call.order? b b' → effect'.Leads b' (left outcome after b') := by
  cases told : outcome b with
  | ok a =>
    refine ⟨effect, does.within, fun b' sound' agree => ?_⟩
    have told' := (does.alike sound sound' agree).symm.trans told
    unfold left
    rw [told']
    exact (does.leads told').2
  | error e =>
    refine ⟨{}, ⟨fun _ _ _ => rfl, fun _ _ _ => rfl, .inl fun _ => rfl⟩, fun b' sound' agree => ?_⟩
    have told' := (does.alike sound sound' agree).symm.trans told
    unfold left
    rw [told']
    exact ⟨fun _ => rfl, fun _ => rfl, rfl⟩

end

/-- Two operations that name different accounts and different orders have the same outcomes whichever comes first, and leave the same
accounts, the same orders and the same log, but for the ids of their two entries. -/
theorem operations_commute (f g : Call) (operation : f.IsOperation) (operation' : g.IsOperation)
    (apart : ∀ id ∈ f.accounts, id ∉ g.accounts) (other : ∀ id, f.order? = some id → g.order? ≠ some id)
    (time : Instant) (b : Books) (s : Store Database) (stands : s.Stands time b) :
    let first := f.run false s
    let second' := g.run false first.2
    let first' := g.run false s
    let second := f.run false first'.2
    second.1 = first.1 ∧ second'.1 = first'.1 ∧ ∃ d c : Books, second'.2.Stands time d ∧ second.2.Stands time c ∧
      d.accounts = c.accounts ∧ d.orders = c.orders ∧ (d.log = c.log ∨ d.log.Exchanged c.log) := by
  intro first second' first' second
  obtain ⟨outcome, after, _, does⟩ := operation_does f operation time
  obtain ⟨outcome', after', _, does'⟩ := operation_does g operation' time
  have apart' : ∀ id ∈ g.accounts, id ∉ f.accounts := fun id mine yours => apart id yours mine
  have other' : ∀ id, g.order? = some id → f.order? ≠ some id := fun id mine yours => other id yours mine
  obtain ⟨told, left₁⟩ := does.run stands
  obtain ⟨told', left₁'⟩ := does'.run stands
  obtain ⟨told₂', left₂'⟩ := does'.run left₁
  obtain ⟨told₂, left₂⟩ := does.run left₁'
  -- What either has done leaves the rows of the other as they were.
  obtain ⟨_, within, leads⟩ := does.settles stands.sound
  obtain ⟨_, within', leads'⟩ := does'.settles stands.sound
  have here := leads b stands.sound ⟨fun _ _ => rfl, fun _ _ => rfl⟩
  have here' := leads' b stands.sound ⟨fun _ _ => rfl, fun _ _ => rfl⟩
  have agree := within'.agree here' apart other
  have agree' := within.agree here apart' other'
  refine ⟨?_, ?_, _, _, left₂', left₂, ?_⟩
  · rw [told, told₂, does.alike stands.sound left₁'.sound agree]
  · rw [told', told₂', does'.alike stands.sound left₁.sound agree']
  · exact within.commute within' apart' other' here (leads' _ left₁.sound agree') here' (leads _ left₁'.sound agree)
      left₂'.sound left₂.sound

/-- An order is reserved from one account while another is opened. -/
theorem operations_commute_after_credit :
    let f : Call := .createOrder 7 1 5 40
    let g : Call := .credit 2 30
    let s := Step.runAll [.move (.credit 1 100)] (.fresh .default)
    f.IsOperation ∧ g.IsOperation ∧ (∀ id ∈ f.accounts, id ∉ g.accounts) ∧
      (∀ id, f.order? = some id → g.order? ≠ some id) ∧
      ∃ time b, s.Stands time b ∧ (f.run false (g.run false s).2).1 = (f.run false s).1 ∧
        ∃ d c : Books, (g.run false (f.run false s).2).2.Stands time d ∧ (f.run false (g.run false s).2).2.Stands time c ∧
          d.accounts = c.accounts ∧ d.orders = c.orders ∧ (d.log = c.log ∨ d.log.Exchanged c.log) := by
  intro f g s
  have apart : ∀ id ∈ f.accounts, id ∉ g.accounts := by decide
  have other : ∀ id, f.order? = some id → g.order? ≠ some id := fun _ _ => nofun
  obtain ⟨time, b, stands⟩ := Step.runAll_stands .default [.move (.credit 1 100)]
  obtain ⟨same, -, ends⟩ := operations_commute f g trivial trivial apart other time b s stands
  exact ⟨trivial, trivial, apart, other, time, b, stands, same, ends⟩

end Call
end Passbook
