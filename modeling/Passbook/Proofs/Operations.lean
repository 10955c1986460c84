import Passbook.Proofs.Bookkeeping

/-! What the operations of the ledger make of its books: each is told by the condition under which it answers, by its answer and by
the books it then leaves. -/
namespace Passbook
open Books OrderRows Time

variable {b : Books} {id account service amount delta sender receiver : Int} {time : Instant}

namespace Books

def creditText (id amount : Int) : String := s!"Add {amount} kopecks to account with id = {id}"

def transferText (sender receiver amount : Int) : String :=
  s!"Transfer {amount} kopecks from account with id = {sender} to account with id = {receiver}"

def reservationText (id amount : Int) : String := s!"Reserve {amount} kopecks for order with id = {id}"

def cancellationText (id amount : Int) : String := s!"Cancel reservation {amount} kopecks for order with orderID = {id}"

def credited (id amount : Int) (time : Instant) (b : Books) : Books :=
  ((b.opened id).shifted id amount).posted .enrollment id id amount (creditText id amount) time

def transferred (sender receiver amount : Int) (time : Instant) (b : Books) : Books :=
  ((b.shifted sender (-amount)).shifted receiver amount).posted .transfer sender receiver amount
    (transferText sender receiver amount) time

def ordered (id account service amount : Int) (time : Instant) (b : Books) : Books :=
  ((b.shifted account (-amount)).reserved id account service amount time).posted .reservation account account amount
    (reservationText id amount) time

def cancelled (id account amount : Int) (time : Instant) (b : Books) : Books :=
  ((b.settled .cancelled time id).shifted account amount).posted .cancelReservation account account amount
    (cancellationText id amount) time

theorem entries_credited : (b.credited id amount time).entries =
    b.entries ++ [⟨(b.log.lastId + 1 : Nat), .enrollment, id, id, .int amount, creditText id amount, time⟩] := by
  simp only [entries, credited, posted, shifted, opened_log]

theorem balanceOf_credited {k : Int} : (b.credited id amount time).balanceOf k = b.balanceOf k + if k = id then amount else 0 := by
  have there : (b.opened id).Has id := has_opened.mpr (.inl rfl)
  change ((b.opened id).shifted id amount).balanceOf k = _
  rw [balanceOf_shifted there, balanceOf_opened]

theorem balanceOf_transferred {k : Int} (from_ : b.Has sender) (to_ : b.Has receiver) :
    (b.transferred sender receiver amount time).balanceOf k =
      b.balanceOf k + (if k = sender then -amount else 0) + if k = receiver then amount else 0 := by
  change ((b.shifted sender (-amount)).shifted receiver amount).balanceOf k = _
  rw [balanceOf_shifted (has_shifted.mpr to_), balanceOf_shifted from_]

theorem balanceOf_ordered {k : Int} (owner : b.Has account) :
    (b.ordered id account service amount time).balanceOf k = b.balanceOf k + if k = account then -amount else 0 :=
  balanceOf_shifted owner

theorem balanceOf_cancelled_at {k : Int} (owner : b.Has account) :
    (b.cancelled id account amount time).balanceOf k = b.balanceOf k + if k = account then amount else 0 := by
  have owner' : (b.settled .cancelled time id).Has account := owner
  exact balanceOf_shifted owner'

theorem creditText_plain (id amount : Int) : Text.Plain (creditText id amount) := by
  have named : creditText id amount = Text.naming "Add " "kopecks to account with id = " amount id := rfl
  rw [named]
  exact Text.naming_plain (by decide) (by decide) amount id

theorem transferText_plain (sender receiver amount : Int) : Text.Plain (transferText sender receiver amount) := by
  have named : transferText sender receiver amount =
      Text.naming "Transfer " "kopecks from account with id = " amount sender ++ " to account with id = " ++ toString receiver :=
    rfl
  rw [named]
  exact .append (.append (Text.naming_plain (by decide) (by decide) amount sender) (by decide)) (.numeral receiver)

theorem reservationText_eq : reservationText id amount = Text.naming "Reserve " "kopecks for order with id = " amount id := rfl

theorem reservationText_plain (id amount : Int) : Text.Plain (reservationText id amount) := by
  rw [reservationText_eq]
  exact Text.naming_plain (by decide) (by decide) amount id

theorem cancellationText_eq :
    cancellationText id amount = Text.naming "Cancel reservation " "kopecks for order with orderID = " amount id := rfl

theorem cancellationText_plain (id amount : Int) : Text.Plain (cancellationText id amount) := by
  rw [cancellationText_eq]
  exact Text.naming_plain (by decide) (by decide) amount id

end Books

theorem Accounts.adjust_turns (operation : String) (delta : Int) (sound : b.Sound) (fits : fitsInteger amount = true) :
    (Accounts.adjust operation id amount delta).Turns time b
      (b.Has id ∧ 0 ≤ b.balanceOf id + delta ∧ b.balanceOf id + delta ≤ maxInteger)
      (· = b.balanceOf id + delta) (b.shifted id delta) := by
  by_cases there : b.Has id
  · obtain ⟨row, found⟩ := Books.has_iff_account?.mp there
    rw [Books.balanceOf_of_found found]
    have turns : (Accounts.adjust operation id amount delta).Turns time b
        ((0 ≤ row.balance + delta ∧ row.balance + delta ≤ maxInteger) ∧ True) (· = row.balance + delta)
        (b.shifted id delta) := by
      apply Act.Turns.bind (.recast _ (.ask operation (AccountRows.adjust_turns_found delta sound fits found)))
      intro answer _ told
      rw [told]
      exact .pure _
    exact turns.restated (by simp [there]) fun _ _ told => told
  · have turns : (Accounts.adjust operation id amount delta).Turns time b (fitsInteger id = true ∧ False) (fun _ => True) b := by
      apply Act.Turns.bind (.recast _ (.ask operation (AccountRows.adjust_turns_absent delta sound.accounts fits there)))
      intro answer _ told
      rw [told]
      exact .fail _
    have never : (Accounts.adjust operation id amount delta).Turns time b False (fun _ => True) b :=
      turns.restated (by simp) fun _ _ told => told
    exact never.of_not.restated (by simp [there]) fun _ _ told => told

/-- The account is looked up first; that its id cannot be bound is not taken for its absence. -/
theorem Accounts.open_cases {saved : Database} {deferred : Bool} {s : Store Database} (busy : s.status = .busy saved deferred)
    (books : s.content.schema = b.tables) :
    (¬ fitsInteger id = true ∧ Accounts.open? id s = (.error (.ofStore (Refusal.oversizedInteger.raise "get account by id")), s)) ∨
      (fitsInteger id = true ∧ b.Has id ∧ Accounts.open? id s = (.ok (), s)) ∨
      (fitsInteger id = true ∧ ¬ b.Has id ∧ Accounts.open? id s = (Accounts.create id >>= fun _ =>
        Work.record Journal.Level.info "payment_ledger.accounts" "Account opened by first credit"
          (.ofAction "create_account" s!"account:{id}" none)) s) := by
  have asked := LedgerWork.ask_eq "get account by id" (AccountRows.find id) busy books
  rw [AccountRows.find_tables] at asked
  by_cases fits : fitsInteger id = true
  · have same : { s with content := { s.content with schema := b.tables } } = s := by rw [← books]
    rw [if_pos fits] at asked
    dsimp only at asked
    rw [same] at asked
    by_cases there : b.Has id
    · obtain ⟨row, found⟩ := Books.has_iff_account?.mp there
      rw [found] at asked
      have got : Accounts.get id s = (.ok row, s) := by
        unfold Accounts.get
        rw [Act.bind_of_ok asked]
        rfl
      exact .inr (.inl ⟨fits, there, Act.tryCatch_of_ok (Act.bind_of_ok got)⟩)
    · rw [Books.account?_of_not_has there] at asked
      have got : Accounts.get id s = (.error (.ledger (.accountNotFound id)), s) := by
        unfold Accounts.get
        rw [Act.bind_of_ok asked]
        rfl
      exact .inr (.inr ⟨fits, there, Act.tryCatch_of_error (Act.bind_of_error got)⟩)
  · rw [if_neg fits] at asked
    have got : Accounts.get id s = (.error (.ofStore (Refusal.oversizedInteger.raise "get account by id")), s) :=
      Act.bind_of_error asked
    exact .inl ⟨fits, Act.tryCatch_of_error (Act.bind_of_error got)⟩

theorem Accounts.open_turns : (Accounts.open? id).Turns time b (fitsInteger id = true) (fun _ => True) (b.opened id) := by
  intro saved s here books
  rcases Accounts.open_cases here.busy books with ⟨oversized, ran⟩ | ⟨fits, there, ran⟩ | ⟨fits, absent, ran⟩ <;> rw [ran]
  · exact ⟨oversized, here⟩
  · rw [Books.opened_of_has there]
    exact ⟨fits, trivial, here, books⟩
  · have created : (Accounts.create id).Turns time b (fitsInteger id = true) (fun _ => True) (b.opened id) :=
      .recast _ (.ask _ (AccountRows.insert_turns absent))
    exact (created.bind fun _ _ _ => .record _ _ _ _).restated (by simp) (fun _ _ _ => trivial) saved s here books

theorem History.append_turns {α : Type} (a : α) (kind : EntryKind) {description : String} (sound : b.Sound)
    (plain : Text.Plain description) (from_ : b.Has sender) (to_ : b.Has receiver) (low : 0 ≤ amount) (high : amount ≤ maxInteger) :
    (do
      let _ ← History.append kind sender receiver amount (some description)
      pure a : LedgerWork α).Turns time b True (· = a) (b.posted kind sender receiver amount description time) := by
  have appended : (History.append kind sender receiver amount (some description)).Turns time b (True ∧ True ∧ True ∧ True)
      (fun _ => True) (b.posted kind sender receiver amount description time) := by
    apply Act.Turns.bind .instant
    intro now _ isNow
    rw [isNow]
    apply Act.Turns.bind (.recast _ (.ask _ (LogRows.append_turns sound plain from_ to_ low high)))
    intro entry _ _
    apply Act.Turns.bind (.record _ _ _ _)
    intro _ _ _
    exact (Act.Turns.pure entry).restated Iff.rfl fun _ _ _ => trivial
  exact (appended.bind fun _ _ _ => .pure a).restated (by simp) fun _ _ told => told

theorem checkRange_eq_ok : checkRange amount = .ok () ↔ amount ≤ maxInteger := by
  unfold checkRange
  split <;> simp <;> omega

theorem checkPositive_eq_ok {what : String} : checkPositive what amount = .ok () ↔ 0 < amount ∧ amount ≤ maxInteger := by
  unfold checkPositive
  split
  · simp
    omega
  · simp [checkRange_eq_ok]
    omega

theorem Accounts.checkCredit_eq_ok : Accounts.checkCredit amount = .ok () ↔ 0 ≤ amount ∧ amount ≤ maxInteger := by
  unfold Accounts.checkCredit
  split
  · simp
    omega
  · simp [checkRange_eq_ok]
    omega

theorem Accounts.checkTransfer_eq_ok :
    Accounts.checkTransfer sender receiver amount = .ok () ↔ (0 < amount ∧ amount ≤ maxInteger) ∧ sender ≠ receiver := by
  unfold Accounts.checkTransfer
  cases checked : checkPositive "Transfer amount" amount with
  | error e =>
    have refused : ¬ (0 < amount ∧ amount ≤ maxInteger) := by
      rw [← checkPositive_eq_ok, checked]
      simp
    simp [refused]
  | ok _ =>
    have accepted := checkPositive_eq_ok.mp checked
    by_cases same : sender = receiver <;> simp [accepted, same]

theorem Accounts.credit_turns (sound : b.Sound) :
    (Accounts.credit id amount).Turns time b
      ((0 ≤ amount ∧ amount ≤ maxInteger) ∧ fitsInteger id = true ∧ b.balanceOf id + amount ≤ maxInteger)
      (· = b.balanceOf id + amount) (b.credited id amount time) := by
  apply Operation.turns_of_body (fun _ _ => ⟨_, rfl⟩) Accounts.checkCredit_eq_ok
  rintro ⟨low, high⟩
  have turns : (Accounts.credit id amount).body.Turns time b
      (fitsInteger id = true ∧
        ((b.opened id).Has id ∧ 0 ≤ (b.opened id).balanceOf id + amount ∧ (b.opened id).balanceOf id + amount ≤ maxInteger) ∧
        True)
      (· = (b.opened id).balanceOf id + amount) (b.credited id amount time) := by
    apply Act.Turns.bind Accounts.open_turns
    intro _ fits _
    have opened := sound.opened fits
    apply Act.Turns.bind (Accounts.adjust_turns _ amount opened (fitsInteger_of_nonneg low high))
    intro balance ⟨there, notNegative, bounded⟩ told
    have there' : ((b.opened id).shifted id amount).Has id := has_shifted.mpr there
    rw [told]
    exact History.append_turns _ .enrollment (opened.shifted notNegative bounded) (creditText_plain id amount) there' there' low high
  have held := (sound.balanceOf_inRange id).1
  rw [balanceOf_opened] at turns
  refine turns.restated ?_ fun _ _ told => told
  have opened : (b.opened id).Has id := has_opened.mpr (.inl rfl)
  simp only [opened, true_and, and_true]
  constructor
  · exact fun ⟨fits, _, bounded⟩ => ⟨fits, bounded⟩
  · exact fun ⟨fits, bounded⟩ => ⟨fits, by omega, bounded⟩

theorem Accounts.adjust_both_turns {γ : Type} (first second : String) {next : Int → Int → LedgerWork γ} {from_ to_ given taken : Int}
    {answers : γ → Prop} {b₁ : Books} (sound : b.Sound) (apart : from_ ≠ to_) (fits : fitsInteger amount = true)
    (goesOn : b.Has from_ → b.Has to_ → ((b.shifted from_ given).shifted to_ taken).Sound →
      (next (b.balanceOf from_ + given) (b.balanceOf to_ + taken)).Turns time ((b.shifted from_ given).shifted to_ taken) True
        answers b₁) :
    (do
      let x ← Accounts.adjust first from_ amount given
      let y ← Accounts.adjust second to_ amount taken
      next x y : LedgerWork γ).Turns time b
      ((b.Has from_ ∧ 0 ≤ b.balanceOf from_ + given ∧ b.balanceOf from_ + given ≤ maxInteger) ∧
        b.Has to_ ∧ 0 ≤ b.balanceOf to_ + taken ∧ b.balanceOf to_ + taken ≤ maxInteger) answers b₁ := by
  apply Act.Turns.bind (Accounts.adjust_turns _ given sound fits)
  rintro x ⟨there, low, high⟩ told
  have given' := sound.shifted low high
  have untouched : (b.shifted from_ given).balanceOf to_ = b.balanceOf to_ := by
    rw [balanceOf_shifted there, if_neg apart.symm, Int.add_zero]
  have turns : (do
      let y ← Accounts.adjust second to_ amount taken
      next x y : LedgerWork γ).Turns time (b.shifted from_ given)
      (((b.shifted from_ given).Has to_ ∧ 0 ≤ (b.shifted from_ given).balanceOf to_ + taken ∧
        (b.shifted from_ given).balanceOf to_ + taken ≤ maxInteger) ∧ True) answers b₁ := by
    apply Act.Turns.bind (Accounts.adjust_turns _ taken given' fits)
    rintro y ⟨there', low', high'⟩ told'
    rw [told, told', untouched]
    exact goesOn there (has_shifted.mp there') (given'.shifted low' high')
  simpa only [untouched, has_shifted, and_true] using turns

theorem Accounts.transfer_turns (sound : b.Sound) :
    (Accounts.transfer sender receiver amount).Turns time b
      (((0 < amount ∧ amount ≤ maxInteger) ∧ sender ≠ receiver) ∧
        b.Has sender ∧ b.Has receiver ∧ amount ≤ b.balanceOf sender ∧ b.balanceOf receiver + amount ≤ maxInteger)
      (· = (b.balanceOf sender - amount, b.balanceOf receiver + amount)) (b.transferred sender receiver amount time) := by
  apply Operation.turns_of_body (fun _ _ => ⟨_, rfl⟩) Accounts.checkTransfer_eq_ok
  rintro ⟨⟨low, high⟩, apart⟩
  have fits := fitsInteger_of_nonneg (Int.le_of_lt low) high
  have sends := sound.balanceOf_inRange sender
  have receives := sound.balanceOf_inRange receiver
  have appends (there : b.Has sender) (there' : b.Has receiver) (kept : ((b.shifted sender (-amount)).shifted receiver amount).Sound)
      (balances : Int × Int) : (do
        let balances ← pure balances
        let _ ← History.append .transfer sender receiver amount (some (transferText sender receiver amount))
        pure balances : LedgerWork (Int × Int)).Turns time ((b.shifted sender (-amount)).shifted receiver amount) True
        (· = balances) (b.transferred sender receiver amount time) :=
    History.append_turns balances .transfer kept (transferText_plain sender receiver amount)
      (has_shifted.mpr (has_shifted.mpr there)) (has_shifted.mpr (has_shifted.mpr there')) (Int.le_of_lt low) high
  -- Whichever account comes first, the same two balances are changed by as much.
  change Act.Turns (if sender < receiver then _ else _) _ _ _ _ _
  split
  · refine (Accounts.adjust_both_turns _ _ sound apart fits ?_).restated ?_ fun _ _ told => told
    · intro there there' kept
      exact appends there there' kept _
    · constructor
      · rintro ⟨⟨there, _, _⟩, there', _, _⟩
        exact ⟨there, there', by omega, by omega⟩
      · rintro ⟨there, there', _, _⟩
        exact ⟨⟨there, by omega, by omega⟩, there', by omega, by omega⟩
  · refine (Accounts.adjust_both_turns _ _ sound apart.symm fits ?_).restated ?_ fun _ _ told => told
    · intro there there' kept
      rw [← shifted_comm apart] at kept ⊢
      exact appends there' there kept _
    · constructor
      · rintro ⟨⟨there, _, _⟩, there', _, _⟩
        exact ⟨there', there, by omega, by omega⟩
      · rintro ⟨there, there', _, _⟩
        exact ⟨⟨there', by omega, by omega⟩, there, by omega, by omega⟩

theorem Accounts.reserve_turns (sound : b.Sound) (positive : 0 < amount ∧ amount ≤ maxInteger) :
    (Accounts.reserve id amount).Turns time b (b.Has id ∧ amount ≤ b.balanceOf id) (· = b.balanceOf id - amount)
      (b.shifted id (-amount)) := by
  have fits := fitsInteger_of_nonneg (Int.le_of_lt positive.1) positive.2
  have held := sound.balanceOf_inRange id
  have turns : (Accounts.reserve id amount).Turns time b ((0 < amount ∧ amount ≤ maxInteger) ∧
      b.Has id ∧ 0 ≤ b.balanceOf id + -amount ∧ b.balanceOf id + -amount ≤ maxInteger) (· = b.balanceOf id + -amount)
      (b.shifted id (-amount)) := by
    apply Act.Turns.bind (.check checkPositive_eq_ok)
    intro _ _ _
    exact Accounts.adjust_turns _ (-amount) sound fits
  refine turns.restated ?_ fun _ _ told => told
  constructor
  · rintro ⟨_, there, _, _⟩
    exact ⟨there, by omega⟩
  · rintro ⟨there, _⟩
    exact ⟨positive, there, by omega, by omega⟩

theorem Accounts.giveBack_turns (sound : b.Sound) (positive : 0 < amount ∧ amount ≤ maxInteger) :
    (Accounts.giveBack id amount).Turns time b (b.Has id ∧ b.balanceOf id + amount ≤ maxInteger) (· = b.balanceOf id + amount)
      (b.shifted id amount) := by
  have fits := fitsInteger_of_nonneg (Int.le_of_lt positive.1) positive.2
  have held := sound.balanceOf_inRange id
  have turns : (Accounts.giveBack id amount).Turns time b ((0 < amount ∧ amount ≤ maxInteger) ∧
      b.Has id ∧ 0 ≤ b.balanceOf id + amount ∧ b.balanceOf id + amount ≤ maxInteger) (· = b.balanceOf id + amount)
      (b.shifted id amount) := by
    apply Act.Turns.bind (.check checkPositive_eq_ok)
    intro _ _ _
    exact Accounts.adjust_turns _ amount sound fits
  refine turns.restated ?_ fun _ _ told => told
  constructor
  · rintro ⟨_, there, _, bounded⟩
    exact ⟨there, bounded⟩
  · rintro ⟨there, bounded⟩
    exact ⟨positive, there, by omega, bounded⟩

theorem Orders.insert_turns (sound : b.Sound) (owner : b.Has account) (positive : 0 < amount ∧ amount ≤ maxInteger) :
    (Orders.insert id account service amount).Turns time b
      (fitsInteger id = true ∧ fitsInteger service = true ∧ ∀ order ∈ b.orders, order.id ≠ id) (fun _ => True)
      (b.reserved id account service amount time) := by
  have fits := fitsInteger_of_nonneg (Int.le_of_lt positive.1) positive.2
  have turns : (Orders.insert id account service amount).Turns time b
      (True ∧ fitsInteger id = true ∧ fitsInteger service = true ∧ ∀ order ∈ b.orders, order.id ≠ id) (fun _ => True)
      (b.reserved id account service amount time) := by
    apply Act.Turns.bind .instant
    intro now _ isNow
    rw [isNow]
    exact .recast _ (.ask _ (OrderRows.insert_turns owner (sound.known account owner) fits positive.1))
  exact turns.restated (by simp) fun _ _ told => told

theorem Orders.create_turns (sound : b.Sound) :
    (Orders.create id account service amount).Turns time b
      ((0 < amount ∧ amount ≤ maxInteger) ∧ (b.Has account ∧ amount ≤ b.balanceOf account) ∧
        fitsInteger id = true ∧ fitsInteger service = true ∧ ∀ order ∈ b.orders, order.id ≠ id)
      (fun answer => answer.2 = b.balanceOf account - amount) (b.ordered id account service amount time) := by
  apply Operation.turns_of_body (fun _ _ => ⟨_, rfl⟩) checkPositive_eq_ok
  intro positive
  have held := sound.balanceOf_inRange account
  have turns : (Orders.create id account service amount).body.Turns time b
      ((b.Has account ∧ amount ≤ b.balanceOf account) ∧
        (fitsInteger id = true ∧ fitsInteger service = true ∧ ∀ order ∈ (b.shifted account (-amount)).orders, order.id ≠ id) ∧
        True)
      (fun answer => answer.2 = b.balanceOf account - amount) (b.ordered id account service amount time) := by
    apply Act.Turns.bind (Accounts.reserve_turns sound positive)
    rintro balance ⟨there, funds⟩ told
    have shifted : (b.shifted account (-amount)).Sound := sound.shifted (by omega) (by omega)
    have there' : (b.shifted account (-amount)).Has account := has_shifted.mpr there
    apply Act.Turns.bind (Orders.insert_turns shifted there' positive)
    rintro order ⟨fits, served, new⟩ _
    have reserved : ((b.shifted account (-amount)).reserved id account service amount time).Sound :=
      shifted.reserved new fits there' served positive.1 positive.2
    exact (History.append_turns (order, balance) .reservation reserved (reservationText_plain id amount) there' there'
      (Int.le_of_lt positive.1) positive.2).restated Iff.rfl fun _ _ same => by rw [same, told]
  have same : (b.shifted account (-amount)).orders = b.orders := rfl
  simpa only [same, and_true] using turns

theorem Orders.finish_turns (ending : Ending) (sound : b.Sound) :
    (Orders.finish ending id account service amount).Turns time b (b.Pending id account service amount)
      (fun order => order.account = .int account ∧ order.amount = .int amount) (b.settled ending time id) := by
  by_cases pending : b.Pending id account service amount
  · have turns : (Orders.finish ending id account service amount).Turns time b (True ∧ True ∧ True)
        (fun order => order.account = .int account ∧ order.amount = .int amount) (b.settled ending time id) := by
      apply Act.Turns.bind .instant
      intro now _ isNow
      rw [isNow]
      apply Act.Turns.bind (.ask _ (OrderRows.finish_turns_pending sound pending))
      rintro _ _ ⟨order, rfl, kept⟩
      exact (Act.Turns.pure order).restated Iff.rfl fun _ _ same => same ▸ kept
    exact turns.restated (by simp [pending]) fun _ _ told => told
  · have turns : (Orders.finish ending id account service amount).Turns time b
        (True ∧ (∀ n ∈ [id, account, service, amount], fitsInteger n = true) ∧ False) (fun _ => True) b := by
      apply Act.Turns.bind .instant
      intro now _ isNow
      rw [isNow]
      apply Act.Turns.bind (.ask _ (OrderRows.finish_turns_none sound pending))
      rintro _ _ rfl
      exact .fail _
    have never : (Orders.finish ending id account service amount).Turns time b False (fun _ => True) b :=
      turns.restated (by simp) fun _ _ told => told
    exact never.of_not.restated (by simp [pending]) fun _ _ told => told

theorem Orders.pay_turns (sound : b.Sound) :
    (Orders.pay id account service amount).Turns time b (b.Pending id account service amount) (fun _ => True)
      (b.settled .paid time id) := by
  have turns : (Orders.pay id account service amount).Turns time b (True ∧ b.Pending id account service amount) (fun _ => True)
      (b.settled .paid time id) := by
    apply Operation.turns_of_body (fun _ _ => ⟨_, rfl⟩) (by simp [Orders.pay])
    intro _
    exact (Orders.finish_turns .paid sound).restated Iff.rfl fun _ _ _ => trivial
  exact turns.restated (Iff.of_eq (true_and _))

theorem Orders.cancel_turns (sound : b.Sound) :
    (Orders.cancel id account service amount).Turns time b
      (b.Pending id account service amount ∧ b.balanceOf account + amount ≤ maxInteger) (· = b.balanceOf account + amount)
      (b.cancelled id account amount time) := by
  have turns : (Orders.cancel id account service amount).Turns time b
      (True ∧ b.Pending id account service amount ∧ (b.Has account ∧ b.balanceOf account + amount ≤ maxInteger) ∧ True)
      (· = b.balanceOf account + amount) (b.cancelled id account amount time) := by
    apply Operation.turns_of_body (fun _ _ => ⟨_, rfl⟩) (by simp [Orders.cancel])
    intro _
    apply Act.Turns.bind (Orders.finish_turns .cancelled sound)
    rintro order pending ⟨isAccount, isAmount⟩
    obtain ⟨_, _, _, low, high⟩ := sound.settleable.pending pending
    have owner : order.account.whole = account := by rw [isAccount]; rfl
    have held : order.amount.whole = amount := by rw [isAmount]; rfl
    dsimp only
    rw [owner, held]
    have settled : (b.settled .cancelled time id).Sound := sound.settled
    have nonnegative := (sound.balanceOf_inRange account).1
    apply Act.Turns.bind (Accounts.giveBack_turns settled ⟨low, high⟩)
    rintro balance ⟨there, bounded⟩ told
    have there' : ((b.settled .cancelled time id).shifted account amount).Has account := has_shifted.mpr there
    have returned : 0 ≤ (b.settled .cancelled time id).balanceOf account + amount := Int.add_nonneg nonnegative (Int.le_of_lt low)
    rw [told]
    exact History.append_turns _ .cancelReservation (settled.shifted returned bounded) (cancellationText_plain id amount)
      there' there' (Int.le_of_lt low) high
  refine turns.restated ?_
  constructor
  · rintro ⟨_, pending, ⟨_, bounded⟩, _⟩
    exact ⟨pending, bounded⟩
  · rintro ⟨pending, bounded⟩
    exact ⟨trivial, pending, ⟨(sound.settleable.pending pending).2.1, bounded⟩, trivial⟩

end Passbook
