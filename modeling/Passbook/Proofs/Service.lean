import Passbook.Proofs.Demands

/-! The service is faithful to the ledger. In every state that requests lead to, a request that passes validation is answered with the
value of the one call it stands for, or with the status of what that call is refused by. -/
namespace Passbook
open OrderRows Time

namespace Outcome
variable {α β : Type} {b : Books} {time : Instant} {id account service amount delta sender receiver : Int}

def Answered (outcome : Except LedgerError α) : Prop := ∀ e, outcome = .error e → ∃ status, e.answeredWith = some status

def Stuck (outcome : Except LedgerError α) : Prop := ∃ operation message, outcome = .error (.storage operation message)

theorem Answered.ok (a : α) : Answered (.ok a) := fun _ never => nomatch never

theorem Answered.error {e : LedgerError} {status : Nat} (told : e.answeredWith = some status) :
    Answered (.error e : Except LedgerError α) := by
  rintro _ ⟨⟩
  exact ⟨status, told⟩

theorem Answered.bind {outcome : Except LedgerError α} {next : α → Except LedgerError β} (first : Answered outcome)
    (rest : ∀ a, Answered (next a)) : Answered (outcome >>= next) := by
  cases outcome with
  | ok a => exact rest a
  | error e =>
    rintro _ ⟨⟩
    exact first e rfl

theorem get_answered : Answered (get b id) := by
  unfold get
  split
  · split
    · exact .ok _
    · exact .error rfl
  · exact .error rfl

theorem balance_answered : Answered (balance b id) := get_answered.bind fun _ => .ok _

theorem adjust_answered {operation : String} : Answered (adjust b operation id amount delta) := by
  unfold adjust
  split
  · split
    · split
      · exact .error rfl
      · split
        · exact .error rfl
        · exact .ok _
    · exact .error rfl
  · exact .error rfl

theorem credit_answered (bounds : 0 ≤ amount ∧ amount ≤ maxInteger) : Answered (credit b id amount) := by
  unfold credit
  rw [Accounts.checkCredit_eq_ok.mpr bounds, ok_bind]
  split
  · split
    · exact .error rfl
    · exact .ok _
  · exact .error rfl

theorem transfer_answered (bounds : 0 < amount ∧ amount ≤ maxInteger) : Answered (transfer b sender receiver amount) := by
  have checked : Answered (Accounts.checkTransfer sender receiver amount) := by
    unfold Accounts.checkTransfer
    rw [checkPositive_eq_ok.mpr bounds, ok_bind]
    split
    · exact .error rfl
    · exact .ok _
  refine checked.bind fun _ => ?_
  split
  · exact adjust_answered.bind fun _ => adjust_answered.bind fun _ => .ok _
  · exact adjust_answered.bind fun _ => adjust_answered.bind fun _ => .ok _

theorem create_answered (bounds : 0 < amount ∧ amount ≤ maxInteger) : Answered (create b time id account service amount) := by
  have inserted : Answered (insertOrder b time id account service amount) := by
    unfold insertOrder
    split
    · split
      · exact .error rfl
      · exact .ok _
    · exact .error rfl
  unfold create
  rw [checkPositive_eq_ok.mpr bounds, ok_bind]
  exact adjust_answered.bind fun _ => inserted.bind fun _ => .ok _

theorem order_of_create {answer : OrderRow × Int} (told : create b time id account service amount = .ok answer) :
    answer.1 = .opened id account service amount time := by
  unfold create at told
  obtain ⟨_, -, told⟩ := bind_eq_ok.mp told
  obtain ⟨balance, -, told⟩ := bind_eq_ok.mp told
  obtain ⟨order, inserted, told⟩ := bind_eq_ok.mp told
  cases told
  exact (insertOrder_eq_ok.mp inserted).2.2.symm

theorem finish_answered {ending : Ending} : Answered (finish b time ending id account service amount) := by
  unfold finish
  split
  · split
    · exact .ok _
    · exact .error rfl
  · exact .error rfl

theorem cancel_answered : Answered (cancel b time id account service amount) := by
  refine finish_answered.bind fun _ => ?_
  split
  · exact .error rfl
  · exact .ok _

theorem lookup_answered : Answered (lookup b id) := by
  unfold lookup
  split
  · split
    · exact .ok _
    · exact .error rfl
  · exact .error rfl

theorem mem_of_lookup {order : OrderRow} (told : lookup b id = .ok order) : order ∈ b.orders := by
  unfold lookup at told
  split at told
  · split at told
    · rename_i found
      cases told
      exact (Rows.find?_some found).1
    · cases told
  · cases told

theorem mem_of_list {listing : History.Listing} {limit offset : Int} {page : List (Entry Instant) × Nat} {entry : Entry Instant}
    (told : list b account listing limit offset = .ok page) (among : entry ∈ page.1) : entry ∈ b.entries := by
  have there {entries : List (Entry Instant)} (sorted : entry ∈ LogRows.sorted listing.sort listing.direction entries) :
      entry ∈ entries := by
    unfold LogRows.sorted at sorted
    split at sorted <;> exact List.mem_mergeSort.mp sorted
  unfold list at told
  split at told
  · cases told
    unfold LogRows.stretch at among
    dsimp only at among
    split at among
    · exact List.mem_of_mem_filter (there (List.mem_of_mem_drop among))
    · exact List.mem_of_mem_filter (there (List.mem_of_mem_drop (List.mem_of_mem_take among)))
  · cases told

theorem list_answered {listing : History.Listing} {limit offset : Int} : Answered (list b account listing limit offset) := by
  unfold list
  split
  · exact .ok _
  · exact .error rfl

end Outcome

namespace Report

theorem text_ascii (rows : List (Int × Int)) : Text.Ascii (text rows) := by
  refine .append (.literal rfl) (.join ?_)
  intro line among
  obtain ⟨row, -, rfl⟩ := List.mem_map.mp among
  exact .append (.append (.append (.numeral row.1) (.literal rfl)) (.numeral row.2)) (.literal rfl)

theorem key_ascii (year month : Int) : Text.Ascii (key year month) :=
  .append (.append (.numeral year) (.literal rfl)) (.numeral month)

end Report

namespace Http

theorem orderMembers_shown {b : Books} {order : OrderRow} (regular : b.Regular order) :
    ∃ members, orderMembers order = .ok members ∧ Value.OrderShown order members := by
  obtain ⟨_, ⟨account, isAccount, _⟩, ⟨service, isService, _⟩, ⟨amount, isAmount, _⟩, ⟨paid, isPaid⟩,
    ⟨cancelled, isCancelled⟩⟩ := regular
  obtain ⟨id, _, _, _, _, _, createdAt, updatedAt⟩ := order
  cases isAccount
  cases isService
  cases isAmount
  cases isPaid
  cases isCancelled
  refine ⟨_, ?_, .mk (.zuluText createdAt) (.zuluText updatedAt)⟩
  cases paid <;> cases cancelled <;> rfl

theorem entryJson_shown {entry : Entry Instant} {amount : Int} (isAmount : entry.amount = .int amount) :
    ∃ shown, entryJson entry = .ok shown ∧ Value.EntryShown entry shown := by
  obtain ⟨id, kind, sender, receiver, _, description, createdAt⟩ := entry
  cases isAmount
  refine ⟨_, ?_, .mk (.zuluText createdAt)⟩
  cases kind <;> simp only [Value.kindShown, one_mul, neg_one_mul] <;> rfl

theorem entries_shown {entries : List (Entry Instant)} (sized : ∀ entry ∈ entries, ∃ amount, entry.amount = .int amount) :
    ∃ shown, entries.mapM entryJson = .ok shown ∧ List.Forall₂ Value.EntryShown entries shown := by
  induction entries with
  | nil => exact ⟨[], rfl, .nil⟩
  | cons entry entries ih =>
    obtain ⟨amount, isAmount⟩ := sized entry List.mem_cons_self
    obtain ⟨first, read, shows⟩ := entryJson_shown isAmount
    obtain ⟨shown, told, each⟩ := ih fun entry among => sized entry (List.mem_cons_of_mem _ among)
    refine ⟨_, ?_, .cons shows each⟩
    rw [List.mapM_cons, read, told]
    rfl

theorem download_report (year month : Int) (rows : List (Int × Int)) :
    ∃ response, download (Report.key year month) (Report.csvBytes (Report.totals rows)) = .ok response ∧
      (Value.report (Report.key year month) (Report.csvBytes (Report.totals rows))).Shown response := by
  have named : Text.Ascii ("attachment; filename=\"report-" ++ Report.key year month ++ ".csv\"") :=
    .append (.append (.literal rfl) (Report.key_ascii year month)) (.literal rfl)
  have read : Failure.textOf (Report.csvBytes (Report.totals rows)) = .ok (Report.text rows) := by
    rw [Failure.textOf, Report.csvBytes, Report.csv_totals, (Report.text_ascii rows).ofUtf8]
    rfl
  rw [Report.csvBytes, Report.csv_totals] at read ⊢
  refine ⟨_, ?_, .report _ _⟩
  unfold download
  simp only [named.latin1, read]
  rfl

end Http

namespace System
section
variable {τ : Type} {s : System τ}

/-- The books are sound, and on the shelf there are reports only. -/
structure Upright (s : System τ) : Prop where
  stands : ∃ time b, s.store.Stands time b
  shelved : ∀ e ∈ s.shelf.cache.entries, ∃ year month rows,
    e.key = Report.key year month ∧ e.value = Report.csvBytes (Report.totals rows)

/-- The month is over and its report not on the shelf, but what a service has been paid in it does not fit an integer. -/
def Unsummable (s : System τ) (b : Books) (year month : Int) [Sub τ] [LT τ] [DecidableLT τ] : Prop :=
  Report.isOver year month s.store.now = true ∧ s.shelf.cache.contains s.shelf.clock (Report.key year month) = false ∧
    ∃ service, maxInteger < Report.revenue (b.paidIn year month) service

theorem Upright.retold (upright : s.Upright) (journal : List Journal.Record) :
    Upright { s with store := { s.store with journal } } := by
  obtain ⟨⟨time, b, rests, books, sound⟩, shelved⟩ := upright
  exact ⟨⟨time, b, ⟨rests.idle, rests.now⟩, books, sound⟩, shelved⟩

end

variable {τ : Type} [AddCommGroup τ] [LinearOrder τ] [Reach τ] [Reach.Unbounded τ] {s : System τ} {year month : Int} {key : String}

theorem Upright.run (upright : s.Upright) (c : Chore τ) : (c.run s).Upright := by
  obtain ⟨⟨time, b, stands⟩, shelved⟩ := upright
  refine ⟨?_, fun e there => ?_⟩
  · rcases c.run_books stands with ⟨m, answer, -, -, -, stands'⟩ | stands'
    · exact ⟨_, _, stands'⟩
    · exact ⟨_, _, stands'⟩
  · rcases c.run_shelf stands there with ⟨old, among, named, held, -⟩ | ⟨year, month, rows, -, named, -, held⟩
    · rw [← named, ← held]
      exact shelved old among
    · exact ⟨year, month, rows, named, held⟩

theorem reportKey_ends {time : Instant} {b : Books} (stands : s.store.Stands time b) (start : 1 ≤ year) (known : isMonth month = true) :
    ∃ outcome : Except LedgerError String, reportKey year month none s = (outcome.mapError .ledger, (reportKey year month none s).2) ∧
      Outcome.Answered outcome ∧ (reportKey year month none s).2.store.content = s.store.content ∧
      (Outcome.Stuck outcome ↔ s.Unsummable b year month) := by
  have ended (outcome : Except LedgerError String) {t : System τ} (told : reportKey year month none s = (outcome.mapError .ledger, t))
      (answered : Outcome.Answered outcome) (same : t.store.content = s.store.content)
      (stuck : Outcome.Stuck outcome ↔ s.Unsummable b year month) :
      ∃ outcome : Except LedgerError String, reportKey year month none s = (outcome.mapError .ledger, (reportKey year month none s).2) ∧
        Outcome.Answered outcome ∧ (reportKey year month none s).2.store.content = s.store.content ∧
        (Outcome.Stuck outcome ↔ s.Unsummable b year month) := by
    rw [told]
    exact ⟨outcome, rfl, answered, same, stuck⟩
  cases past : Report.isOver year month s.store.now with
  | false =>
    exact ended (.error (.reportNotAvailable year month)) (reportKey_of_not_isOver known past) (.error rfl) rfl
      (by simp [Outcome.Stuck, Unsummable, past])
  | true =>
    cases there : s.shelf.cache.contains s.shelf.clock (Report.key year month) with
    | true =>
      have given : reportKey year month none s = (.ok (Report.key year month), s) :=
        (reportKey_eq none known past).trans (if_pos there)
      exact ended (.ok (Report.key year month)) given (.ok _) rfl (by simp [Outcome.Stuck, Unsummable, there])
    | false =>
      obtain ⟨empty, passed, told⟩ := reportKey_of_books none stands.rests.idle stands.books stands.sound start known past there
      by_cases within : ∀ service, Report.revenue (b.paidIn year month) service ≤ maxInteger
      · have never : ¬ ∃ service, maxInteger < Report.revenue (b.paidIn year month) service := by simpa using within
        by_cases unpaid : b.paidIn year month = []
        · exact ended (.error (.reportNotFound (Report.key year month))) (empty unpaid) (.error rfl) rfl
            (by simp [Outcome.Stuck, Unsummable, never])
        · obtain ⟨rows, journal, -, done⟩ := told unpaid within
          exact ended (.ok (Report.key year month)) done (.ok _) rfl (by simp [Outcome.Stuck, Unsummable, never])
      · have exceeds : ∃ service, maxInteger < Report.revenue (b.paidIn year month) service := by simpa using within
        exact ended (.error (.storage "aggregate paid amounts" "integer overflow")) (passed exceeds) (.error rfl) rfl
          (by simp [Outcome.Stuck, Unsummable, past, there, exceeds])

theorem ownReportLink_ends {time : Instant} {b : Books} (stands : s.store.Stands time b) (start : 1 ≤ year)
    (known : isMonth month = true) :
    ∃ outcome : Except LedgerError String, ownReportLink year month s = (outcome.mapError .ledger, (reportKey year month none s).2) ∧
      Outcome.Answered outcome ∧ (reportKey year month none s).2.store.content = s.store.content ∧
      (Outcome.Stuck outcome ↔ s.Unsummable b year month) := by
  obtain ⟨outcome, told, answered, same, stuck⟩ := reportKey_ends stands start known
  have settings : (get : SystemAct τ (System τ)) s = (.ok s, s) := rfl
  unfold ownReportLink
  rw [Act.bind_of_ok settings]
  cases outcome with
  | error e =>
    have refused : reportKey year month none s = (.error (.ledger e), (reportKey year month none s).2) := told
    exact ⟨.error e, Act.bind_of_error refused, answered, same, by simpa [Outcome.Stuck] using stuck⟩
  | ok key =>
    have given : reportKey year month none s = (.ok key, (reportKey year month none s).2) := told
    exact ⟨.ok _, Act.bind_of_ok given, .ok _, same, by simpa [Outcome.Stuck] using stuck⟩

theorem reportContent_ends (upright : s.Upright) (key : String) :
    ∃ outcome : Except LedgerError Bytes, reportContent key s = (outcome.mapError .ledger, (reportContent key s).2) ∧
      Outcome.Answered outcome ∧ (reportContent key s).2.store.content = s.store.content ∧ ¬ Outcome.Stuck outcome ∧
      ∀ bytes, outcome = .ok bytes → ∃ year month rows, key = Report.key year month ∧
        bytes = Report.csvBytes (Report.totals rows) := by
  rw [reportContent_eq]
  rcases Cache.get_cases s.shelf.cache s.shelf.clock key with ⟨-, got⟩ | ⟨-, -, -, got⟩ | ⟨e, found, -, got⟩ <;> rw [got]
  · exact ⟨.error (.reportNotFound key), rfl, .error rfl, rfl, nofun, nofun⟩
  · exact ⟨.error (.reportNotFound key), rfl, .error rfl, rfl, nofun, nofun⟩
  · obtain ⟨there, named⟩ := Cache.find?_eq_some found
    obtain ⟨year, month, rows, named', held⟩ := upright.shelved e there
    refine ⟨.ok e.value, rfl, .ok _, rfl, nofun, ?_⟩
    rintro _ ⟨⟩
    exact ⟨year, month, rows, named.symm.trans named', held⟩

end System

namespace Http
section
variable {τ α : Type} {s : System τ} {time : Instant} {b b₁ : Books} {action : String}

theorem operation_tells {op : Operation α} {outcome : Except LedgerError α} {render : α → Except Failure Response}
    {value : α → Value} (ends : op.EndsAlone time b outcome b₁) (stands : s.store.Stands time b) (answered : Outcome.Answered outcome)
    (shows : ∀ a, outcome = .ok a → ∃ response, render a = .ok response ∧ (value a).Shown response) :
    Tells (respond action (System.work op.alone) render) (value <$> System.work op.alone) s := by
  obtain ⟨t, ran, -, -, kept⟩ := ends s.store stands.rests stands.books
  exact respond_tells _ value (System.work_of ran) shows fun e failed => ⟨answered e failed, kept e failed⟩

theorem listTransactions_tells (form : ListingForm) [Add τ] [Sub τ] [LT τ] [DecidableLT τ] [Reach τ] (stands : s.store.Stands time b) :
    Tells (listTransactions form) (Demand.call (.transactions form)) s := by
  rcases History.Listing.ofRequest_cases form.sort form.direction form.limit form.offset with
    ⟨listing, limit, offset, read, limited, placed⟩ | ⟨message, refused⟩
  · have tells : Tells (respond "list_transactions" (System.work (History.list form.account listing).alone) (listingResponse listing))
        ((fun page => .page listing page.1 page.2) <$> System.work (History.list form.account listing).alone) s := by
      refine operation_tells (History.list_ends limited placed) stands Outcome.list_answered fun page told => ?_
      have sized : ∀ entry ∈ page.1, ∃ amount, entry.amount = .int amount := by
        intro entry among
        obtain ⟨amount, isAmount, -⟩ := stands.sound.sized entry (Outcome.mem_of_list told among)
        exact ⟨amount, isAmount⟩
      obtain ⟨shown, told, each⟩ := entries_shown sized
      refine ⟨_, ?_, .page page.2 limited placed each⟩
      unfold listingResponse
      rw [told, limited, placed]
      rfl
    refine tells.of_eq ?_ (Act.bind_of_ok (by rw [read]; rfl))
    unfold listTransactions
    rw [read]
  · have refusal : (throw (.ledger (.invalidListing message)) : SystemAct τ Int) s =
        ((.error (.invalidListing message) : Except LedgerError Int).mapError Failure.ledger, s) := rfl
    have known : Outcome.Answered (.error (.invalidListing message) : Except LedgerError Int) := .error rfl
    have refuses : Tells (respond "list_transactions" (throw (.ledger (.invalidListing message))) balanceResponse)
        (Value.balance <$> throw (.ledger (.invalidListing message))) s :=
      respond_tells _ _ refusal (fun _ never => nomatch never) fun e told => ⟨known e told, rfl⟩
    refine refuses.of_eq ?_ (Act.bind_of_error (by rw [refused]; rfl))
    unfold listTransactions
    rw [refused]

end
variable {τ : Type} [AddCommGroup τ] [LinearOrder τ] [Reach τ] [Reach.Unbounded τ] {s : System τ}

/-- Each endpoint tells what comes of the call that its demand stands for. -/
theorem serve_tells {r : Request} {fields : Fields} {endpoint : Endpoint} {demand : Demand} (read : demand.Read r fields endpoint)
    (upright : s.Upright) : Tells (serve r endpoint fields) demand.call s := by
  have bounded := read.bounded
  have ⟨⟨time, b, stands⟩, _⟩ := upright
  have sound := stands.sound
  cases read with
  | balance read =>
    unfold serve
    rw [read]
    exact operation_tells Accounts.balance_ends stands Outcome.balance_answered fun balance _ => ⟨_, rfl, .balance balance⟩
  | credit read =>
    unfold serve
    rw [read]
    exact operation_tells (Accounts.credit_ends sound) stands (Outcome.credit_answered bounded)
      fun balance _ => ⟨_, rfl, .balance balance⟩
  | transfer read =>
    unfold serve
    rw [read]
    exact operation_tells (Accounts.transfer_ends sound.accounts) stands (Outcome.transfer_answered bounded) fun balances _ =>
      ⟨_, rfl, .balances balances.1 balances.2⟩
  | transactions read =>
    unfold serve
    rw [read]
    exact listTransactions_tells _ stands
  | @createOrder form read =>
    unfold serve
    rw [read]
    refine operation_tells (Orders.create_ends sound.accounts) stands (Outcome.create_answered bounded) fun answer told => ?_
    obtain ⟨order, balance⟩ := answer
    obtain rfl := Outcome.order_of_create told
    exact ⟨_, rfl, .created balance (.mk (.zuluText time) (.zuluText time))⟩
  | payOrder read =>
    unfold serve
    rw [read]
    exact operation_tells (Orders.pay_ends sound.settleable) stands Outcome.finish_answered fun order _ => ⟨_, rfl, .paid order⟩
  | cancelOrder read =>
    unfold serve
    rw [read]
    exact operation_tells (Orders.cancel_ends sound.settleable) stands Outcome.cancel_answered
      fun balance _ => ⟨_, rfl, .balance balance⟩
  | order read =>
    unfold serve
    rw [read]
    refine operation_tells Orders.lookup_ends stands Outcome.lookup_answered fun order told => ?_
    obtain ⟨members, rendered, shown⟩ := orderMembers_shown (sound.regular order (Outcome.mem_of_lookup told))
    refine ⟨_, ?_, .order shown⟩
    rw [rendered]
    rfl
  | reportLink read =>
    unfold serve
    rw [read]
    -- The form asks for a month of a year that the calendar has, so that no other failure is left than those of the ledger.
    obtain ⟨outcome, told, answered, same, -⟩ := System.ownReportLink_ends stands (Int.le_trans (by decide) bounded.2) bounded.1
    exact respond_tells _ _ told (fun link _ => ⟨_, rfl, .link link⟩) fun e failed => ⟨answered e failed, same⟩
  | report read =>
    unfold serve
    rw [read]
    obtain ⟨outcome, told, answered, same, -, reports⟩ := System.reportContent_ends upright _
    refine respond_tells _ _ told (fun bytes given => ?_) fun e failed => ⟨answered e failed, same⟩
    obtain ⟨year, month, rows, rfl, rfl⟩ := reports bytes given
    exact download_report year month rows

end Http
end Passbook
