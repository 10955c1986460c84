import Passbook.Proofs.Fresh
import Passbook.Proofs.Operations
import Passbook.Proofs.Writes

/-! What a failed operation leaves behind. In a session of its own it is undone. In the session of its caller nothing is undone before
the session ends: the statements that came before the one that failed have changed the books, and whoever catches the failure and
commits keeps what they have changed. The log is never among it. -/
namespace Passbook
open Books OrderRows Time

namespace Books
variable {b : Books} {id amount delta account service : Int}

def CanShift (id amount delta : Int) (b : Books) : Prop :=
  (fitsInteger id = true ∧ fitsInteger amount = true) ∧ b.tables.hasAccount id = true ∧ 0 ≤ b.balanceOf id + delta ∧
    b.balanceOf id + delta ≤ maxInteger

instance : Decidable (b.CanShift id amount delta) := by unfold CanShift; infer_instance

def hasMatch (id account service amount : Int) (b : Books) : Bool :=
  [id, account, service, amount].all fitsInteger && (Rows.find? Order.id id b.orders).any (isPendingMatch account service amount)

def shiftedInTurn (amount : Int) (first second : Int × Int) (b : Books) : Books :=
  if b.CanShift first.1 amount first.2 then
    if (b.shifted first.1 first.2).CanShift second.1 amount second.2 then
      (b.shifted first.1 first.2).shifted second.1 second.2
    else b.shifted first.1 first.2
  else b

/-- A credit can fail halfway only where the clock shows no time to write. -/
def leftByCredit (now : Reading) (id amount : Int) (b : Books) : Books :=
  match now.instant with
  | .ok _ => b
  | .error _ => if 0 ≤ amount ∧ (b.opened id).CanShift id amount amount then (b.opened id).shifted id amount else b

def leftByTransfer (sender receiver amount : Int) (b : Books) : Books :=
  if 0 < amount ∧ sender ≠ receiver then
    if sender < receiver then b.shiftedInTurn amount (sender, -amount) (receiver, amount)
    else b.shiftedInTurn amount (receiver, amount) (sender, -amount)
  else b

/-- The amount stays reserved if it is the order that could not be put in. -/
def leftByCreation (account amount : Int) (b : Books) : Books :=
  if 0 < amount ∧ b.CanShift account amount (-amount) then b.shifted account (-amount) else b

/-- The order stays cancelled if it is its amount that could not be returned. -/
def leftByCancellation (now : Reading) (id account service amount : Int) (b : Books) : Books :=
  match now.instant with
  | .ok time => if b.hasMatch id account service amount then b.settled .cancelled time id else b
  | .error _ => b

theorem CanShift.high (can : b.CanShift id amount delta) : amount ≤ maxInteger := (fitsInteger_bounds can.1.2).2

theorem leftByCredit_of_refused {now : Reading} (cannot : ¬ (0 ≤ amount ∧ (b.opened id).CanShift id amount amount)) :
    b.leftByCredit now id amount = b := by
  unfold leftByCredit
  rw [if_neg cannot]
  split <;> rfl

theorem leftByTransfer_of_refused {sender receiver : Int}
    (refused : 0 < amount → amount ≤ maxInteger → sender ≠ receiver → False) :
    b.leftByTransfer sender receiver amount = b := by
  unfold leftByTransfer
  split
  · rename_i held
    have unmoved (first second : Int × Int) : b.shiftedInTurn amount first second = b :=
      if_neg fun can => refused held.1 can.high held.2
    split <;> exact unmoved _ _
  · rfl

end Books

namespace Call

def IsOperation : Call → Prop
  | .credit _ _ => True
  | .transfer _ _ _ => True
  | .createOrder _ _ _ _ => True
  | .payOrder _ _ _ _ => True
  | .cancelOrder _ _ _ _ => True
  | _ => False

/-- The books that an operation leaves in the session of its caller if it fails there. -/
def leftover (now : Reading) (b : Books) : Call → Books
  | .credit account amount => b.leftByCredit now account amount
  | .transfer sender receiver amount => b.leftByTransfer sender receiver amount
  | .createOrder _ account _ amount => b.leftByCreation account amount
  | .cancelOrder order account service amount => b.leftByCancellation now order account service amount
  | _ => b

end Call

structure Store.Opens (saved : Database) (deferred : Bool) (now : Reading) (s : Store Database) (b : Books) : Prop where
  busy : s.status = .busy saved deferred
  shown : s.now = now
  books : s.content.schema = b.tables

def Statement.Decides {α : Type} (query : AccountRows.Query (Option α)) (deferred : Bool) (b : Books) (condition : Prop) (b' : Books) :
    Prop :=
  (condition ∧ ∃ a, query deferred b.tables = .ok (some a, b'.tables)) ∨
    (¬ condition ∧ (query deferred b.tables = .ok (none, b.tables) ∨ ∃ r, query deferred b.tables = .error r))

namespace Act
variable {α β : Type} {deferred : Bool} {now : Reading} {b b' rest : Books}

/-- From the books `b` of an open session the work answers, and leaves books as told, or it fails and leaves `rest`. -/
def Forks (work : LedgerWork α) (deferred : Bool) (now : Reading) (b : Books) (answered : α → Books → Prop) (rest : Books) : Prop :=
  ∀ saved s, Store.Opens saved deferred now s b → match work s with
    | (.ok a, t) => ∃ b', Store.Opens saved deferred now t b' ∧ answered a b'
    | (.error _, t) => Store.Opens saved deferred now t rest

variable {answered : α → Books → Prop} {answered' : β → Books → Prop}

theorem Forks.bind {first : LedgerWork α} {next : α → LedgerWork β} (begins : first.Forks deferred now b answered rest)
    (goesOn : ∀ a b', answered a b' → (next a).Forks deferred now b' answered' rest) :
    (first >>= next).Forks deferred now b answered' rest := by
  intro saved s here
  have begun := begins saved s here
  rcases ran : first s with ⟨e | a, t⟩ <;> rw [ran] at begun
  · rw [Act.bind_of_error ran]
    exact begun
  · obtain ⟨b', there, told⟩ := begun
    rw [Act.bind_of_ok ran]
    exact goesOn a b' told saved t there

theorem Forks.mono {work : LedgerWork α} {answered' : α → Books → Prop} (forks : work.Forks deferred now b answered rest)
    (more : ∀ a b', answered a b' → answered' a b') : work.Forks deferred now b answered' rest := by
  intro saved s here
  have forked := forks saved s here
  rcases ran : work s with ⟨e | a, t⟩ <;> rw [ran] at forked
  · exact forked
  · obtain ⟨b', there, told⟩ := forked
    exact ⟨b', there, more a b' told⟩

theorem Forks.recast {work : LedgerWork α} (change : Failure → Failure) (forks : work.Forks deferred now b answered rest) :
    (Act.recast change work).Forks deferred now b answered rest := by
  intro saved s here
  have forked := forks saved s here
  unfold Act.recast
  rcases ran : work s with ⟨e | a, t⟩ <;> rw [ran] at forked <;> exact forked

theorem Forks.pure {a : α} (told : answered a b) : (Pure.pure a : LedgerWork α).Forks deferred now b answered rest :=
  fun _ _ here => ⟨b, here, told⟩

theorem Forks.fail (error : LedgerError) : (LedgerWork.fail error : LedgerWork α).Forks deferred now rest answered rest :=
  fun _ _ here => here

theorem Forks.check {outcome : Except LedgerError Unit} (stuck : outcome ≠ .ok () → b = rest) :
    (LedgerWork.check outcome).Forks deferred now b (fun _ b' => outcome = .ok () ∧ b' = b) rest := by
  intro saved s here
  cases outcome with
  | ok _ => exact ⟨b, here, rfl, rfl⟩
  | error e =>
    cases stuck nofun
    exact here

theorem Forks.record (level : Journal.Level) (source message : String) (details : Journal.Details) :
    (Work.record level source message details : LedgerWork Unit).Forks deferred now b (fun _ b' => b' = b) rest :=
  fun _ _ here => ⟨b, ⟨here.busy, here.shown, here.books⟩, rfl⟩

theorem Forks.instant (stuck : (∀ time, now.instant ≠ .ok time) → b = rest) :
    (Work.instant : LedgerWork Instant).Forks deferred now b (fun time b' => now.instant = .ok time ∧ b' = b) rest := by
  intro saved s here
  rw [Work.instant_eq here.shown]
  cases shown : now.instant with
  | ok time => exact ⟨b, here, rfl, rfl⟩
  | error e =>
    cases stuck fun time same => by cases shown.symm.trans same
    exact here

theorem Forks.ask (operation : String) {query : AccountRows.Query α} (stuck : ∀ r, query deferred b.tables = .error r → b = rest)
    (answers : ∀ a t, query deferred b.tables = .ok (a, t) → ∃ b', t = b'.tables ∧ answered a b') :
    (LedgerWork.ask operation query).Forks deferred now b answered rest := by
  intro saved s here
  rw [LedgerWork.ask_eq operation query here.busy here.books]
  rcases asked : query deferred b.tables with r | ⟨a, t⟩
  · cases stuck r asked
    exact here
  · obtain ⟨b', rfl, told⟩ := answers a t asked
    exact ⟨b', ⟨here.busy, here.shown, rfl⟩, told⟩

theorem Forks.ask_of_ok (operation : String) {query : AccountRows.Query α} {a : α}
    (answers : query deferred b.tables = .ok (a, b'.tables)) (told : answered a b') :
    (LedgerWork.ask operation query).Forks deferred now b answered rest := by
  refine .ask operation (fun r refused => by cases answers.symm.trans refused) fun a' t answered => ?_
  cases answers.symm.trans answered
  exact ⟨b', rfl, told⟩

theorem Forks.ask_of_decides (operation : String) {query : AccountRows.Query (Option α)} {condition : Prop}
    (decides : Statement.Decides query deferred b condition b') (stuck : ¬ condition → b = rest) :
    (LedgerWork.ask operation query).Forks deferred now b (fun a? t => a?.elim (t = rest) fun _ => condition ∧ t = b') rest := by
  rcases decides with ⟨held, a, answers⟩ | ⟨failed, answers | ⟨r, refused⟩⟩
  · exact .ask_of_ok operation answers ⟨held, rfl⟩
  · exact .ask_of_ok operation answers (stuck failed)
  · refine .ask operation (fun _ _ => stuck failed) fun a t answered => ?_
    cases refused.symm.trans answered

end Act

section
variable {b rest : Books} {deferred : Bool} {now : Reading} {id amount delta account service sender receiver : Int}

theorem AccountRows.adjust_decides (deferred : Bool) (id amount delta : Int) (ascending : Rows.Ascending Account.id b.accounts) :
    Statement.Decides (AccountRows.adjust amount delta id) deferred b (b.CanShift id amount delta) (b.shifted id delta) := by
  unfold Statement.Decides
  rw [AccountRows.adjust_tables ascending]
  by_cases fits : fitsInteger amount = true ∧ fitsInteger id = true
  · rw [if_pos fits]
    by_cases there : b.Has id
    · rw [if_pos there]
      by_cases low : b.balanceOf id + delta < 0
      · rw [if_pos low]
        exact .inr ⟨fun can => by have := can.2.2; omega, .inr ⟨_, rfl⟩⟩
      · rw [if_neg low]
        by_cases high : maxInteger < b.balanceOf id + delta
        · rw [if_pos high]
          exact .inr ⟨fun can => by have := can.2.2; omega, .inr ⟨_, rfl⟩⟩
        · rw [if_neg high]
          exact .inl ⟨⟨fits.symm, hasAccount_iff.mpr there, by omega, by omega⟩, _, rfl⟩
    · rw [if_neg there]
      exact .inr ⟨fun can => there (hasAccount_iff.mp can.2.1), .inl rfl⟩
  · rw [if_neg fits]
    exact .inr ⟨fun can => fits can.1.symm, .inr ⟨_, rfl⟩⟩

theorem Accounts.adjust_forks (operation : String) (ascending : Rows.Ascending Account.id b.accounts)
    (stuck : ¬ b.CanShift id amount delta → b = rest) : (Accounts.adjust operation id amount delta).Forks deferred now b
      (fun _ b' => b.CanShift id amount delta ∧ b' = b.shifted id delta) rest := by
  have decides := AccountRows.adjust_decides deferred id amount delta ascending
  refine Act.Forks.bind (.recast _ (.ask_of_decides operation decides stuck)) fun balance? b' told => ?_
  cases balance? with
  | some balance => exact .pure told
  | none =>
    cases told
    exact .fail _

theorem Accounts.reserve_forks (ascending : Rows.Ascending Account.id b.accounts) (positive : 0 < amount ∧ amount ≤ maxInteger)
    (stuck : ¬ b.CanShift id amount (-amount) → b = rest) : (Accounts.reserve id amount).Forks deferred now b
      (fun _ b' => b.CanShift id amount (-amount) ∧ b' = b.shifted id (-amount)) rest := by
  refine Act.Forks.bind (.check fun refused => absurd (checkPositive_eq_ok.mpr positive) refused) ?_
  rintro _ b' ⟨_, same⟩
  rw [same]
  exact Accounts.adjust_forks _ ascending stuck

theorem Accounts.giveBack_forks (ascending : Rows.Ascending Account.id b.accounts) : (Accounts.giveBack id amount).Forks deferred now b
    (fun _ b' => (0 < amount ∧ amount ≤ maxInteger) ∧ b.CanShift id amount amount ∧ b' = b.shifted id amount) b := by
  refine Act.Forks.bind (.check fun _ => rfl) ?_
  rintro _ b' ⟨checked, same⟩
  rw [same]
  exact (Accounts.adjust_forks _ ascending fun _ => rfl).mono fun _ _ told => ⟨checkPositive_eq_ok.mp checked, told⟩

theorem Accounts.open_forks (stuck : ¬ fitsInteger id = true → b = rest) :
    (Accounts.open? id).Forks deferred now b (fun _ b' => fitsInteger id = true ∧ b' = b.opened id) rest := by
  intro saved s here
  rcases Accounts.open_cases here.busy here.books with ⟨oversized, ran⟩ | ⟨fits, there, ran⟩ | ⟨fits, absent, ran⟩ <;> rw [ran]
  · cases stuck oversized
    exact here
  · exact ⟨b, here, fits, (opened_of_has there).symm⟩
  · have inserts := (AccountRows.insert_tables absent deferred).trans (if_pos fits)
    have created : (Accounts.create id).Forks deferred now b (fun _ b' => b' = b.opened id) rest := by
      exact .recast _ (.ask_of_ok _ inserts rfl)
    refine (created.bind fun account b' told => ?_) saved s here
    exact fun saved s here => ⟨b', ⟨here.busy, here.shown, here.books⟩, fits, told⟩

theorem History.append_forks (kind : EntryKind) {description : String} (plain : Text.Plain description)
    (fits : fitsInteger sender = true ∧ fitsInteger receiver = true) (from_ : b.Has sender) (to_ : b.Has receiver) (low : 0 ≤ amount)
    (high : amount ≤ maxInteger) (stuck : (∀ time, now.instant ≠ .ok time) → b = rest) :
    (History.append kind sender receiver amount (some description)).Forks deferred now b (fun _ _ => True) rest := by
  refine Act.Forks.bind (.instant stuck) ?_
  rintro time b' ⟨shown, same⟩
  rw [same]
  have asked : (LedgerWork.ask "append transaction" (LogRows.append ⟨kind, sender, receiver, amount, some description, time⟩)).Forks
      deferred now b (fun _ _ => True) rest := by
    obtain ⟨entry, appends⟩ := LogRows.append_eq kind time plain fits from_ to_ low high
    exact .ask_of_ok _ (appends deferred) trivial
  refine Act.Forks.bind (.recast _ asked) fun entry _ _ => ?_
  exact Act.Forks.bind (.record _ _ _ _) fun _ _ _ => .pure trivial

theorem Orders.insert_forks : (Orders.insert id account service amount).Forks deferred now b
    (fun _ b' => (∃ time, now.instant = .ok time) ∧ b'.accounts = b.accounts) b := by
  refine Act.Forks.bind (.instant fun _ => rfl) ?_
  rintro time b' ⟨shown, same⟩
  rw [same]
  refine .recast _ (.ask _ (fun _ _ => rfl) fun order t answered => ?_)
  unfold OrderRows.insert at answered
  simp only [ordersOf_tables, requireAccounts_tables, ok_bind, bind_eq_ok] at answered
  obtain ⟨_, _, answered⟩ := answered
  obtain ⟨_, _, _, left⟩ := put_writes answered
  exact ⟨_, left, ⟨time, shown⟩, rfl⟩

theorem OrderRows.finish_decides (ending : Ending) (time : Instant) (deferred : Bool) (id account service amount : Int) (b : Books) :
    Statement.Decides (OrderRows.finish ending time id account service amount) deferred b (b.hasMatch id account service amount = true)
      (b.settled ending time id) := by
  unfold Statement.Decides OrderRows.finish hasMatch AccountRows.bindAll
  simp only [ordersOf_tables, ok_bind]
  cases fits : [id, account, service, amount].all fitsInteger with
  | false => exact .inr ⟨nofun, .inr ⟨_, rfl⟩⟩
  | true =>
    simp only [if_true, ok_bind, Bool.true_and]
    cases found : Rows.find? Order.id id b.orders with
    | none => exact .inr ⟨nofun, .inl rfl⟩
    | some order =>
      cases agrees : isPendingMatch account service amount order with
      | true =>
        refine .inl ⟨agrees, finished ending time order, ?_⟩
        simp only [agrees, if_true]
        rfl
      | false =>
        refine .inr ⟨Bool.eq_false_iff.mp agrees, .inl ?_⟩
        simp only [agrees]
        rfl

theorem Orders.finish_forks (ending : Ending)
    (stuck : ¬ ((∃ time, now.instant = .ok time) ∧ b.hasMatch id account service amount = true) → b = rest) :
    (Orders.finish ending id account service amount).Forks deferred now b (fun _ b' =>
      ∃ time, now.instant = .ok time ∧ b.hasMatch id account service amount = true ∧ b' = b.settled ending time id) rest := by
  refine Act.Forks.bind (.instant fun unread => stuck fun ⟨⟨time, shown⟩, _⟩ => unread time shown) ?_
  rintro time b' ⟨shown, same⟩
  rw [same]
  have decides := OrderRows.finish_decides ending time deferred id account service amount b
  refine Act.Forks.bind (.ask_of_decides _ decides fun none => stuck fun matched => none matched.2) fun order? b' told => ?_
  cases order? with
  | some order => exact .pure ⟨time, shown, told⟩
  | none =>
    cases told
    exact .fail _

theorem Accounts.credit_forks (ascending : Rows.Ascending Account.id b.accounts) (low : 0 ≤ amount) (high : amount ≤ maxInteger) :
    (Accounts.credit id amount).body.Forks deferred now b (fun _ _ => True) (b.leftByCredit now id amount) := by
  have fitsAmount := fitsInteger_of_nonneg low high
  have opened : (b.opened id).Has id := has_opened.mpr (.inl rfl)
  have unmoved (cannot : ¬ (b.opened id).CanShift id amount amount) : b = b.leftByCredit now id amount :=
    (leftByCredit_of_refused fun can => cannot can.2).symm
  refine Act.Forks.bind (Accounts.open_forks fun oversized => unmoved fun can => oversized can.1.1) ?_
  rintro _ b' ⟨fits, same⟩
  rw [same]
  refine Act.Forks.bind (Accounts.adjust_forks _ (opened_ascending id ascending) fun cannot => ?_) ?_
  · -- An account that has just been opened could take the amount, so this one was there before.
    have there : b.Has id := by
      by_contra absent
      have empty : (b.opened id).balanceOf id = 0 := by rw [balanceOf_opened, balanceOf_of_not_has absent]
      exact cannot ⟨⟨fits, fitsAmount⟩, hasAccount_iff.mpr opened, by omega, by omega⟩
    exact (opened_of_has there).trans (unmoved cannot)
  rintro balance b' ⟨can, same⟩
  rw [same]
  have there : ((b.opened id).shifted id amount).Has id := has_shifted.mpr opened
  refine Act.Forks.bind (History.append_forks .enrollment (creditText_plain id amount) ⟨fits, fits⟩ there there low high ?_)
    fun _ _ _ => .pure trivial
  intro unread
  unfold leftByCredit
  cases shown : now.instant with
  | ok time => exact absurd shown (unread time)
  | error e => exact (if_pos ⟨low, can⟩).symm

theorem Accounts.shiftedInTurn_forks {α : Type} (one two : String) (first second : Int × Int) {next : Int → Int → LedgerWork α}
    (ascending : Rows.Ascending Account.id b.accounts)
    (goesOn : ∀ x y b', fitsInteger first.1 = true → fitsInteger second.1 = true → b'.Has first.1 → b'.Has second.1 →
      (next x y).Forks deferred now b' (fun _ _ => True) b') :
    (do
      let x ← Accounts.adjust one first.1 amount first.2
      let y ← Accounts.adjust two second.1 amount second.2
      next x y : LedgerWork α).Forks deferred now b (fun _ _ => True) (b.shiftedInTurn amount first second) := by
  refine Act.Forks.bind (Accounts.adjust_forks one ascending fun cannot => (if_neg cannot).symm) ?_
  rintro x b' ⟨can, same⟩
  rw [same]
  have sorted : Rows.Ascending Account.id (b.shifted first.1 first.2).accounts := Rows.update_ascending ascending fun _ => rfl
  refine Act.Forks.bind (Accounts.adjust_forks two sorted fun cannot => ?_) ?_
  · unfold shiftedInTurn
    rw [if_pos can, if_neg cannot]
  rintro y b'' ⟨can', same'⟩
  have both : b.shiftedInTurn amount first second = b'' := by
    unfold shiftedInTurn
    rw [if_pos can, if_pos can', same']
  have there : b''.Has first.1 := by
    rw [same']
    exact has_shifted.mpr (has_shifted.mpr (hasAccount_iff.mp can.2.1))
  have there' : b''.Has second.1 := by
    rw [same']
    exact has_shifted.mpr (hasAccount_iff.mp can'.2.1)
  rw [both]
  exact goesOn x y b'' can.1.1 can'.1.1 there there'

theorem Accounts.transfer_forks (ascending : Rows.Ascending Account.id b.accounts) (apart : sender ≠ receiver)
    (positive : 0 < amount ∧ amount ≤ maxInteger) :
    (Accounts.transfer sender receiver amount).body.Forks deferred now b (fun _ _ => True) (b.leftByTransfer sender receiver amount) := by
  have appended (balances : Int × Int) (b' : Books) (fits : fitsInteger sender = true ∧ fitsInteger receiver = true)
      (from_ : b'.Has sender) (to_ : b'.Has receiver) :
      (do
        let _ ← History.append .transfer sender receiver amount (some (transferText sender receiver amount))
        pure balances : LedgerWork (Int × Int)).Forks deferred now b' (fun _ _ => True) b' :=
    .bind (History.append_forks .transfer (transferText_plain sender receiver amount) fits from_ to_ positive.1.le positive.2 fun _ => rfl)
      fun _ _ _ => .pure trivial
  unfold leftByTransfer
  rw [if_pos ⟨positive.1, apart⟩]
  change Act.Forks (if sender < receiver then _ else _) _ _ _ _ _
  split
  · exact Accounts.shiftedInTurn_forks _ _ (sender, -amount) (receiver, amount) ascending
      fun sent received b' fits fits' from_ to_ => appended (sent, received) b' ⟨fits, fits'⟩ from_ to_
  · exact Accounts.shiftedInTurn_forks _ _ (receiver, amount) (sender, -amount) ascending
      fun received sent b' fits fits' to_ from_ => appended (sent, received) b' ⟨fits', fits⟩ from_ to_

theorem Orders.create_forks (ascending : Rows.Ascending Account.id b.accounts) (positive : 0 < amount ∧ amount ≤ maxInteger) :
    (Orders.create id account service amount).body.Forks deferred now b (fun _ _ => True) (b.leftByCreation account amount) := by
  refine Act.Forks.bind (Accounts.reserve_forks ascending positive fun cannot => (if_neg fun can => cannot can.2).symm) ?_
  rintro balance b' ⟨can, same⟩
  have reserved : b.leftByCreation account amount = b' := by
    rw [same]
    exact if_pos ⟨positive.1, can⟩
  have there : b'.Has account := by
    rw [same]
    exact has_shifted.mpr (hasAccount_iff.mp can.2.1)
  rw [reserved]
  refine Act.Forks.bind Orders.insert_forks ?_
  rintro order b'' ⟨⟨time, shown⟩, accounts⟩
  have there' : b''.Has account := by
    unfold Books.Has
    rw [accounts]
    exact there
  exact .bind (History.append_forks .reservation (reservationText_plain id amount) ⟨can.1.1, can.1.1⟩ there' there'
    positive.1.le positive.2 fun unread => absurd shown (unread time)) fun _ _ _ => .pure trivial

theorem Orders.cancel_forks (ascending : Rows.Ascending Account.id b.accounts) :
    (Orders.cancel id account service amount).body.Forks deferred now b (fun _ _ => True)
      (b.leftByCancellation now id account service amount) := by
  refine Act.Forks.bind (Orders.finish_forks .cancelled fun stuck => ?_) ?_
  · unfold leftByCancellation
    cases shown : now.instant with
    | error e => rfl
    | ok time => exact (if_neg fun agrees => stuck ⟨⟨time, shown⟩, agrees⟩).symm
  rintro order b' ⟨time, shown, agrees, same⟩
  have settled : b.leftByCancellation now id account service amount = b' := by
    unfold leftByCancellation
    rw [shown, same]
    exact if_pos agrees
  have sorted : Rows.Ascending Account.id b'.accounts := by
    rw [same]
    exact ascending
  rw [settled]
  refine Act.Forks.bind (Accounts.giveBack_forks sorted) ?_
  rintro balance b'' ⟨positive, can, same'⟩
  have there : b''.Has order.account.whole := by
    rw [same']
    exact has_shifted.mpr (hasAccount_iff.mp can.2.1)
  exact .bind (History.append_forks .cancelReservation (cancellationText_plain id _) ⟨can.1.1, can.1.1⟩ there there
    positive.1.le positive.2 fun unread => absurd shown (unread time)) fun _ _ _ => .pure trivial

end

namespace Operation
variable {α : Type} {op : Operation α} {deferred : Bool} {now : Reading} {b rest : Books}

theorem joined_forks (tells : op.OnlyTells) (stuck : op.check ≠ .ok () → b = rest)
    (body : op.check = .ok () → op.body.Forks deferred now b (fun _ _ => True) rest) :
    op.joined.Forks deferred now b (fun _ _ => True) rest := by
  refine Act.Forks.bind (.check stuck) ?_
  rintro _ b' ⟨checked, same⟩
  rw [same]
  refine Act.Forks.bind (body checked) fun a b' _ saved s here => ?_
  obtain ⟨journal, told⟩ := tells a s
  rw [Act.bind_of_ok told]
  exact ⟨b', ⟨here.busy, here.shown, here.books⟩, trivial⟩

theorem alone_failed (tells : op.OnlyTells) (puts : ∀ now, op.body.Puts (fun _ => True) now) {s t : Store Database} {e : Failure}
    (idle : s.status = .idle) (failed : op.alone s = (.error e, t)) : t.status = .idle ∧ t.content = s.content := by
  rcases checked : op.check with refused | u
  · rw [alone, within_of_refused checked] at failed
    cases failed
    exact ⟨idle, rfl⟩
  · rcases worked : Work.inUnit op.body s with ⟨e' | a, u⟩
    · rw [alone, within_of_failed checked worked] at failed
      cases failed
      exact Work.inUnit_failed (Act.stays_iff_leads.mp (Call.stays_of_puts puts)) idle worked
    · obtain ⟨journal, ran⟩ := within_of_answered tells checked worked
      rw [alone, ran] at failed
      cases failed

end Operation

namespace Call
variable {b : Books} {deferred : Bool} {now : Reading}

theorem map_forks {α β : Type} {work : LedgerWork α} {rest : Books} (f : α → β)
    (forks : work.Forks deferred now b (fun _ _ => True) rest) :
    (f <$> work).Forks deferred now b (fun _ _ => True) rest :=
  Act.Forks.bind forks fun _ _ _ => .pure trivial

theorem operation_forks (call : Call) (operation : call.IsOperation) (ascending : Rows.Ascending Account.id b.accounts) :
    (call.run true).Forks deferred now b (fun _ _ => True) (call.leftover now b) := by
  cases call with
  | credit account amount =>
    refine map_forks _ (Operation.joined_forks (fun _ _ => ⟨_, rfl⟩) (fun refused => ?_) fun checked => ?_)
    · exact (leftByCredit_of_refused fun can => refused (Accounts.checkCredit_eq_ok.mpr ⟨can.1, can.2.high⟩)).symm
    · obtain ⟨low, high⟩ := Accounts.checkCredit_eq_ok.mp checked
      exact Accounts.credit_forks ascending low high
  | transfer sender receiver amount =>
    refine map_forks _ (Operation.joined_forks (fun _ _ => ⟨_, rfl⟩) (fun refused => ?_) fun checked => ?_)
    · exact (leftByTransfer_of_refused fun low high apart => refused (Accounts.checkTransfer_eq_ok.mpr ⟨⟨low, high⟩, apart⟩)).symm
    · obtain ⟨positive, apart⟩ := Accounts.checkTransfer_eq_ok.mp checked
      exact Accounts.transfer_forks ascending apart positive
  | createOrder order account service amount =>
    refine map_forks _ (Operation.joined_forks (fun _ _ => ⟨_, rfl⟩) (fun refused => ?_) fun checked => ?_)
    · exact (if_neg fun can => refused (checkPositive_eq_ok.mpr ⟨can.1, can.2.high⟩)).symm
    · exact Orders.create_forks ascending (checkPositive_eq_ok.mp checked)
  | payOrder order account service amount =>
    refine map_forks _ (Operation.joined_forks (fun _ _ => ⟨_, rfl⟩) (fun _ => rfl) fun _ => ?_)
    exact (Orders.finish_forks .paid fun _ => rfl).mono fun _ _ _ => trivial
  | cancelOrder order account service amount =>
    refine map_forks _ (Operation.joined_forks (fun _ _ => ⟨_, rfl⟩) (fun refused => absurd rfl refused) fun _ => ?_)
    exact Orders.cancel_forks ascending
  | _ => exact operation.elim

theorem leftover_log (now : Reading) (b : Books) (call : Call) : (call.leftover now b).log = b.log := by
  have inTurn (amount : Int) (first second : Int × Int) : (b.shiftedInTurn amount first second).log = b.log := by
    unfold shiftedInTurn
    split
    · split <;> rfl
    · rfl
  cases call with
  | credit account amount =>
    simp only [leftover, leftByCredit]
    split
    · rfl
    · split
      · exact opened_log
      · rfl
  | transfer sender receiver amount =>
    simp only [leftover, leftByTransfer]
    split
    · split <;> exact inTurn _ _ _
    · rfl
  | createOrder order account service amount =>
    simp only [leftover, leftByCreation]
    split <;> rfl
  | cancelOrder order account service amount =>
    simp only [leftover, leftByCancellation]
    split
    · split <;> rfl
    · rfl
  | _ => rfl

theorem operate_alone_failed {α : Type} {op : Operation α} {answer : α → Answer} {s t : Store Database} {e : Failure}
    (tells : op.OnlyTells) (puts : ∀ now, op.body.Puts (fun _ => True) now) (idle : s.status = .idle)
    (failed : operate false op answer s = (.error e, t)) : t.status = .idle ∧ t.content = s.content := by
  rcases ran : op.alone s with ⟨e' | a, u⟩
  · cases (Act.bind_of_error ran).symm.trans failed
    exact op.alone_failed tells puts idle ran
  · cases (Act.bind_of_ok ran).symm.trans failed

/-- On its own, an operation that fails has no effect. In the session of its caller it has just the effect of what it did before it
failed; none of that is in the log, and the session stays open. -/
theorem operation_failed (call : Call) (operation : call.IsOperation) (b : Books) (ascending : Rows.Ascending Account.id b.accounts)
    (s t : Store Database) (e : Failure) (books : s.content.schema = b.tables) :
    (s.status = .idle → call.run false s = (.error e, t) → t.status = .idle ∧ t.content = s.content) ∧
      ∀ saved deferred, s.status = .busy saved deferred → call.run true s = (.error e, t) →
        t.status = .busy saved deferred ∧ t.content.schema = (call.leftover s.now b).tables ∧ (call.leftover s.now b).log = b.log := by
  constructor
  · intro idle failed
    cases call with
    | credit account amount =>
      exact operate_alone_failed (fun _ _ => ⟨_, rfl⟩) (fun _ => Accounts.credit_puts account amount) idle failed
    | transfer sender receiver amount =>
      exact operate_alone_failed (fun _ _ => ⟨_, rfl⟩) (fun _ => Accounts.transfer_puts sender receiver amount) idle failed
    | createOrder order account service amount =>
      exact operate_alone_failed (fun _ _ => ⟨_, rfl⟩) (fun _ => Orders.create_puts order account service amount) idle failed
    | payOrder order account service amount =>
      exact operate_alone_failed (fun _ _ => ⟨_, rfl⟩) (fun _ => Orders.finish_puts .paid order account service amount) idle failed
    | cancelOrder order account service amount =>
      exact operate_alone_failed (fun _ _ => ⟨_, rfl⟩) (fun _ => Orders.cancel_puts order account service amount) idle failed
    | _ => exact operation.elim
  · intro saved deferred busy failed
    have forked := operation_forks call operation ascending saved s ⟨busy, rfl, books⟩
    rw [failed] at forked
    exact ⟨forked.busy, forked.books, leftover_log s.now b call⟩

/-- A transfer to an account that is not there leaves the sender debited. -/
theorem operation_failed_after_debit :
    let b : Books := { Books.fresh with accounts := [⟨1, 100⟩] }
    let s : Store Database := ⟨⟨b.tables, [], .kept⟩, .busy ⟨b.tables, [], .kept⟩ false, .default, []⟩
    let t := ((Call.transfer 1 2 50).run true s).2
    (Call.transfer 1 2 50).IsOperation ∧ Rows.Ascending Account.id b.accounts ∧ s.content.schema = b.tables ∧
      (Call.transfer 1 2 50).run true s = (.error (.ledger (.accountNotFound 2)), t) ∧
      (Call.transfer 1 2 50).leftover s.now b = { b with accounts := [⟨1, 50⟩] } ∧
      t.content.schema = ((Call.transfer 1 2 50).leftover s.now b).tables := by
  intro b s t
  have ascending : Rows.Ascending Account.id b.accounts := List.pairwise_singleton _ _
  have failed : (Call.transfer 1 2 50).run true s = (.error (.ledger (.accountNotFound 2)), t) := rfl
  refine ⟨trivial, ascending, rfl, failed, rfl, ?_⟩
  exact ((operation_failed (.transfer 1 2 50) trivial b ascending s t _ rfl).2 _ false rfl failed).2.1

/-- After a first credit, in a unit that catches what its only call fails with: the debit is committed. -/
theorem caught_failure_persists :
    let s := ((Call.credit 1 100).run false (.fresh .default)).2
    let inside := (Call.transfer 1 2 50).run true (Plan.opened s)
    let committed := (Plan.carryOut Call.run false (.unit [.call (.transfer 1 2 50) false true] false false) s).2
    inside.1 = .error (.ledger (.accountNotFound 2)) ∧ s.content.schema.accounts = some [⟨1, 100⟩] ∧
      inside.2.content.schema.accounts = some [⟨1, 50⟩] ∧ committed.content.schema.accounts = some [⟨1, 50⟩] := by
  obtain ⟨time, rests, books⟩ := Store.fresh_keeps .default
  obtain ⟨balance, t, ran, _, still, turned⟩ := (Accounts.credit_turns fresh_sound).alone.answered
    (⟨by decide, by decide, by decide⟩ : (0 ≤ (100 : Int) ∧ (100 : Int) ≤ maxInteger) ∧ fitsInteger 1 = true ∧
      fresh.balanceOf 1 + 100 ≤ maxInteger) rests books
  have credited : ((Call.credit 1 100).run false (.fresh .default)).2 = t := congrArg Prod.snd (Act.bind_of_ok ran)
  rw [credited]
  obtain ⟨⟨schema, applied, record⟩, status, now, journal⟩ := t
  cases still.idle
  cases turned
  exact ⟨rfl, rfl, rfl, rfl⟩

end Call
end Passbook
