import Passbook.Proofs.Fresh
import Passbook.Proofs.Revenue
import Passbook.Proofs.Shelves

/-! Reports of closed months. What a report holds is told by the orders of its month; a report that cannot be made leaves the system
as it was. -/
namespace Passbook
open OrderRows Time

namespace Report
variable {b : Books} {saved : Database} {deferred : Bool} {s : Store Database} {year month : Int} {first next : Instant}

def totals (rows : List (Int × Int)) : Totals := rows.map fun row => (.int row.1, row.2)

def text (rows : List (Int × Int)) : String :=
  "service_id,amount\n" ++ String.join (rows.map fun row => toString row.1 ++ "," ++ toString row.2 ++ "\n")

theorem csv_totals (rows : List (Int × Int)) : csv (totals rows) = text rows := by
  unfold csv text totals
  rw [List.map_cons, String.join_cons, List.map_map, List.map_map]
  rfl

theorem checkOrder_totals (rows : List (Int × Int)) : checkOrder (totals rows) = .ok () := by
  induction rows with
  | nil => rfl
  | cons row rows ih =>
    cases rows with
    | nil => rfl
    | cons other rows => exact ih

theorem mapM_whole {whole : Cell → Except Failure Int} (known : ∀ n, whole (.int n) = .ok n) (rows : List (Int × Int)) :
    (rows.map fun row => (Cell.int row.1, Cell.int row.2)).mapM
      (fun (service, total) => do return (service, ← whole total) : Cell × Cell → Except Failure (Cell × Int)) =
        .ok (totals rows) := by
  induction rows with
  | nil => rfl
  | cons row rows ih =>
    unfold totals at ih ⊢
    rw [List.map_cons, List.mapM_cons, ih]
    simp [known]

theorem bounds_told (bounds : monthBounds year month = .ok (first, next)) :
    (Act.ofExcept ((monthBounds year month).mapError .ofMonth) : LedgerWork _) s = (.ok (first, next), s) := by
  rw [bounds]
  rfl

theorem monthly_of_within (busy : s.status = .busy saved deferred) (books : s.content.schema = b.tables) (sound : b.Sound)
    (bounds : monthBounds year month = .ok (first, next)) (spans : ∀ i, (first ≤ i ∧ i < next) ↔ i.InMonth year month)
    (within : ∀ service, revenue (b.paidIn year month) service ≤ maxInteger) :
    ∃ rows, Sums rows (b.paidIn year month) ∧ monthly year month s = (.ok (totals rows), s) := by
  obtain ⟨rows, sums, found⟩ := paidTotals_of_within sound spans deferred within
  refine ⟨rows, sums, ?_⟩
  have asked : LedgerWork.ask "aggregate paid amounts" (paidTotals first next) s =
      (.ok (rows.map fun row => (Cell.int row.1, Cell.int row.2)), s) := by
    rw [LedgerWork.ask_eq _ _ busy books, found, ← books]
  refine (Act.bind_of_ok (bounds_told bounds)).trans ((Act.bind_of_ok asked).trans ?_)
  exact congrArg (·, s) (mapM_whole (fun _ => rfl) rows)

theorem monthly_of_passed (busy : s.status = .busy saved deferred) (books : s.content.schema = b.tables) (sound : b.Sound)
    (bounds : monthBounds year month = .ok (first, next)) (spans : ∀ i, (first ≤ i ∧ i < next) ↔ i.InMonth year month)
    {service : Int} (passed : maxInteger < revenue (b.paidIn year month) service) :
    monthly year month s = (.error (.ledger (.storage "aggregate paid amounts" "integer overflow")), s) := by
  have asked : LedgerWork.ask "aggregate paid amounts" (paidTotals first next) s =
      (.error (.ledger (.storage "aggregate paid amounts" "integer overflow")), s) := by
    rw [LedgerWork.ask_eq _ _ busy books, paidTotals_of_passed sound spans deferred passed]
    rfl
  exact (Act.bind_of_ok (bounds_told bounds)).trans (Act.bind_of_error asked)

theorem inUnit_of_still {α : Type} {w : LedgerWork α} {result : Except Failure α} (idle : s.status = .idle)
    (still : w { s with status := .busy s.content false } = (result, { s with status := .busy s.content false })) :
    Work.inUnit w s = (result, s) := by
  rw [Work.inUnit_eq idle, still]
  obtain ⟨content, status, now, journal⟩ := s
  cases idle
  cases result <;> rfl

variable (idle : s.status = .idle) (books : s.content.schema = b.tables) (sound : b.Sound) (start : 1 ≤ year)
  (known : isMonth month = true) (room : year < 9999 ∨ year = 9999 ∧ month < 12)

include idle books sound start known room

theorem unit_monthly_of_within (within : ∀ service, revenue (b.paidIn year month) service ≤ maxInteger) :
    ∃ rows, Sums rows (b.paidIn year month) ∧ Work.inUnit (monthly year month) s = (.ok (totals rows), s) := by
  obtain ⟨first, next, bounds, spans⟩ := monthBounds_spans start known room
  have busy : ({ s with status := .busy s.content false } : Store Database).status = .busy s.content false := rfl
  obtain ⟨rows, sums, told⟩ := monthly_of_within busy books sound bounds spans within
  exact ⟨rows, sums, inUnit_of_still idle told⟩

theorem unit_monthly_of_passed {service : Int} (passed : maxInteger < revenue (b.paidIn year month) service) :
    Work.inUnit (monthly year month) s = (.error (.ledger (.storage "aggregate paid amounts" "integer overflow")), s) := by
  obtain ⟨first, next, bounds, spans⟩ := monthBounds_spans start known room
  have busy : ({ s with status := .busy s.content false } : Store Database).status = .busy s.content false := rfl
  exact inUnit_of_still idle (monthly_of_passed busy books sound bounds spans passed)

end Report

theorem Step.runAll_paid (time : Instant) :
    (Step.runAll [.move (.credit 1 100), .move (.createOrder 7 1 (-5) 30), .move (.payOrder 7 1 (-5) 30)] (.fresh time)).Stands time
      (((Books.fresh.credited 1 100 time).ordered 7 1 (-5) 30 time).settled .paid time 7) := by
  have has : (Books.fresh.credited 1 100 time).balanceOf 1 = 100 := rfl
  have owner : (Books.fresh.credited 1 100 time).Has 1 := ⟨⟨1, 100⟩, List.mem_singleton.mpr rfl, rfl⟩
  have new : ∀ order ∈ (Books.fresh.credited 1 100 time).orders, order.id ≠ 7 := fun _ among => absurd among List.not_mem_nil
  have pending : ((Books.fresh.credited 1 100 time).ordered 7 1 (-5) 30 time).Pending 7 1 (-5) 30 :=
    ⟨.opened 7 1 (-5) 30 time, List.mem_singleton.mpr rfl, rfl, rfl, rfl, rfl, rfl⟩
  rw [Step.runAll_cons, Step.runAll_cons, Step.runAll_cons, Step.runAll_nil]
  refine Step.payOrder_stands pending ?_
  refine Step.createOrder_stands (by decide) (by decide) owner (by omega) (by decide) (by decide) new ?_
  exact Step.credit_stands (by decide) (by decide) (by decide) (by decide) (Store.fresh_stands time)

def Note.record (now : Time.Reading) (note : Note) : Journal.Record :=
  { time := now, level := note.level, source := Shelf.source, message := note.message, details := note.details }

namespace System
section
variable {τ : Type} {s : System τ}

theorem work_of {α : Type} {w : LedgerWork α} {result : Except Failure α} {store : Store Database}
    (worked : w s.store = (result, store)) : (work w : SystemAct τ α) s = (result, { s with store }) := by
  unfold work Act.onStore Act.onPart
  change ((w s.store).1, { s with store := (w s.store).2 }) = _
  rw [worked]

theorem paidAmounts_of_books {b : Books} {year month : Int} (idle : s.store.status = .idle) (books : s.store.content.schema = b.tables)
    (sound : b.Sound) (start : 1 ≤ year) (known : isMonth month = true) (room : year < 9999 ∨ year = 9999 ∧ month < 12)
    (within : ∀ service, Report.revenue (b.paidIn year month) service ≤ maxInteger) :
    ∃ rows, Report.Sums rows (b.paidIn year month) ∧ paidAmounts year month s = (.ok (Report.totals rows), s) := by
  obtain ⟨rows, sums, asked⟩ := Report.unit_monthly_of_within idle books sound start known room within
  exact ⟨rows, sums, work_of asked⟩

theorem tellNotes_records (notes : List Note) (store : Store Database) :
    tellNotes notes store = (.ok (), { store with journal := store.journal ++ notes.map (·.record store.now) }) := by
  induction notes generalizing store with
  | nil => rw [List.map_nil, List.append_nil]; rfl
  | cons note notes ih =>
    have rest := ih { store with journal := store.journal ++ [note.record store.now] }
    rw [List.append_assoc] at rest
    exact rest

variable [Add τ] [Sub τ] [LT τ] [DecidableLT τ] [Reach τ] {year month : Int} {at? : Option Reading}

theorem onShelf_records (s : System τ) (step : Shelf.Step τ) : onShelf step s = ((s.shelf.step step).1, { s with
    store := { s.store with journal := s.store.journal ++ (s.shelf.step step).2.1.map (·.record s.store.now) },
    shelf := (s.shelf.step step).2.2 }) := by
  rcases taken : s.shelf.step step with ⟨outcome, notes, shelf⟩
  have got : (get : SystemAct τ (System τ)) s = (.ok s, s) := rfl
  have noted := work_of (s := { s with shelf }) (tellNotes_records notes s.store)
  unfold onShelf
  rw [Act.bind_of_ok got, taken]
  exact Act.bind_of_ok (s := { s with shelf }) noted

theorem onShelf_eq (s : System τ) (step : Shelf.Step τ) :
    ∃ journal, onShelf step s =
      ((s.shelf.step step).1, { s with store := { s.store with journal }, shelf := (s.shelf.step step).2.2 }) :=
  ⟨_, onShelf_records s step⟩

theorem onShelf_of_silent (step : Shelf.Step τ) (silent : (s.shelf.step step).2.1 = []) :
    onShelf step s = ((s.shelf.step step).1, { s with shelf := (s.shelf.step step).2.2 }) := by
  rw [onShelf_records, silent, List.map_nil, List.append_nil]

theorem reportKey_of_not_isMonth (unknown : isMonth month = false) : reportKey year month at? s = (.error (.month month), s) := by
  unfold reportKey
  simp only [unknown]
  rfl

theorem reportKey_of_not_isOver (known : isMonth month = true) (running : Report.isOver year month (at?.getD s.store.now) = false) :
    reportKey year month at? s = (.error (.ledger (.reportNotAvailable year month)), s) := by
  have clock : (clock : SystemAct τ Reading) s = (.ok s.store.now, s) := rfl
  unfold reportKey
  simp only [known]
  refine (Act.bind_of_ok clock).trans ?_
  simp only [running]
  rfl

/-- What is done for the report of a closed month that is not on the shelf. -/
def generate (year month : Int) : SystemAct τ String := do
  let totals ← work (Work.inUnit (Report.monthly year month))
  if totals.isEmpty then throw (.ledger (.reportNotFound (Report.key year month)))
  Act.ofExcept (Report.checkOrder totals)
  let _ ← onShelf (.set (Report.key year month) (Report.csvBytes totals))
  work <| Work.record Journal.Level.info "payment_ledger.reporting" "Report generated"
    (.ofAction "generate_report" ("report:" ++ Report.key year month)
      (some (.object [("services", .int totals.length), ("total", .int (totals.foldr (fun total sum => total.2 + sum) 0))])))
  return Report.key year month

theorem reportKey_of_isOver (known : isMonth month = true) (ended : Report.isOver year month (at?.getD s.store.now) = true) :
    reportKey year month at? s =
      (isShelved (Report.key year month) >>= fun shelved =>
        if shelved then pure (Report.key year month) else generate year month : SystemAct τ String) s := by
  have clock : (clock : SystemAct τ Reading) s = (.ok s.store.now, s) := rfl
  unfold reportKey
  simp only [known]
  refine (Act.bind_of_ok clock).trans ?_
  simp only [ended]
  refine congrFun (congrArg (isShelved (Report.key year month) >>= ·) (funext fun shelved => ?_)) s
  cases shelved <;> rfl

theorem generate_of_failed {e : Failure} {store : Store Database}
    (failed : Work.inUnit (Report.monthly year month) s.store = (.error e, store)) :
    generate year month s = (.error e, { s with store }) :=
  Act.bind_of_error (work_of failed)

theorem generate_of_empty (asked : Work.inUnit (Report.monthly year month) s.store = (.ok [], s.store)) :
    generate year month s = (.error (.ledger (.reportNotFound (Report.key year month))), s) :=
  Act.bind_of_ok (work_of asked)

theorem generate_of_year (month : Int) (idle : s.store.status = .idle) (before : ¬ 1 ≤ year) :
    ∃ e, generate year month s = (.error e, s) := by
  cases bounds : monthBounds year month with
  | ok ends => exact absurd (one_le_of_monthBounds bounds) before
  | error fault =>
    have failed : Report.monthly year month { s.store with status := .busy s.store.content false } =
        (.error (.ofMonth fault), { s.store with status := .busy s.store.content false }) := by
      refine Act.bind_of_error ?_
      rw [bounds]
      rfl
    exact ⟨_, generate_of_failed (Report.inUnit_of_still idle failed)⟩

theorem generate_of_totals {rows : List (Int × Int)} (filled : rows ≠ [])
    (asked : Work.inUnit (Report.monthly year month) s.store = (.ok (Report.totals rows), s.store)) :
    ∃ journal, generate year month s = (.ok (Report.key year month), { s with
      store := { s.store with journal }
      shelf.cache := s.shelf.cache.set s.shelf.clock (Report.key year month) (Report.csvBytes (Report.totals rows)) }) := by
  have nonempty : (Report.totals rows).isEmpty = false := by
    cases rows with
    | nil => exact absurd rfl filled
    | cons row rows => rfl
  have ordered : (Act.ofExcept (Report.checkOrder (Report.totals rows)) : SystemAct τ Unit) s = (.ok (), s) := by
    rw [Report.checkOrder_totals]
    rfl
  have put := onShelf_of_silent (s := s) (.set (Report.key year month) (Report.csvBytes (Report.totals rows))) rfl
  unfold generate
  rw [Act.bind_of_ok (work_of asked)]
  simp only [nonempty, Bool.false_eq_true, if_false]
  rw [Act.bind_of_ok ordered, Act.bind_of_ok put]
  exact ⟨_, rfl⟩

variable [Reach.Unbounded τ]

theorem isShelved_eq (s : System τ) (key : String) : isShelved key s = (.ok (s.shelf.cache.contains s.shelf.clock key), s) := by
  have looked := s.shelf.step_contains key
  have onShelf := onShelf_of_silent (s := s) (.contains key) (by rw [looked])
  rw [looked] at onShelf
  exact Act.bind_of_ok onShelf

theorem reportContent_eq (s : System τ) (key : String) :
    reportContent key s =
      (match (s.shelf.cache.get s.shelf.clock key).1 with
        | some value => .ok value
        | none => .error (.ledger (.reportNotFound key)),
        { s with shelf.cache := (s.shelf.cache.get s.shelf.clock key).2 }) := by
  have read := s.shelf.step_get key
  have onShelf := onShelf_of_silent (s := s) (.get key) (by rw [read])
  rw [read] at onShelf
  cases got : (s.shelf.cache.get s.shelf.clock key).1 with
  | none =>
    rw [got] at onShelf
    exact Act.bind_of_error onShelf
  | some value =>
    rw [got] at onShelf
    exact Act.bind_of_ok onShelf

theorem reportContent_store (s : System τ) (key : String) : (reportContent key s).2.store = s.store := by
  rw [reportContent_eq]

theorem reportContent_of_absent {key : String} (absent : s.shelf.cache.contains s.shelf.clock key = false) :
    (reportContent key s).1 = .error (.ledger (.reportNotFound key)) := by
  rw [reportContent_eq, Cache.get_of_not_contains absent]

theorem reportKey_eq (at? : Option Reading) (known : isMonth month = true)
    (ended : Report.isOver year month (at?.getD s.store.now) = true) :
    reportKey year month at? s =
      if s.shelf.cache.contains s.shelf.clock (Report.key year month) then (.ok (Report.key year month), s) else generate year month s := by
  refine (reportKey_of_isOver known ended).trans ((Act.bind_of_ok (isShelved_eq s (Report.key year month))).trans ?_)
  cases s.shelf.cache.contains s.shelf.clock (Report.key year month) <;> rfl

end

section
variable {τ : Type} [AddCommGroup τ] [LinearOrder τ] [Reach τ] [Reach.Unbounded τ] {year month : Int}

theorem reportKey_of_books {b : Books} {s : System τ} (at? : Option Reading) (idle : s.store.status = .idle)
    (books : s.store.content.schema = b.tables) (sound : b.Sound) (start : 1 ≤ year) (known : isMonth month = true)
    (ended : Report.isOver year month (at?.getD s.store.now) = true)
    (absent : s.shelf.cache.contains s.shelf.clock (Report.key year month) = false) :
    (b.paidIn year month = [] → reportKey year month at? s = (.error (.ledger (.reportNotFound (Report.key year month))), s)) ∧
    ((∃ service, maxInteger < Report.revenue (b.paidIn year month) service) →
      reportKey year month at? s = (.error (.ledger (.storage "aggregate paid amounts" "integer overflow")), s)) ∧
    (b.paidIn year month ≠ [] → (∀ service, Report.revenue (b.paidIn year month) service ≤ maxInteger) →
      ∃ rows journal, Report.Sums rows (b.paidIn year month) ∧
        reportKey year month at? s = (.ok (Report.key year month), { s with
          store := { s.store with journal }
          shelf.cache := s.shelf.cache.set s.shelf.clock (Report.key year month) (Report.csvBytes (Report.totals rows)) })) := by
  have room := Report.room_of_isOver ended
  have generated : reportKey year month at? s = generate year month s := (reportKey_eq at? known ended).trans (if_neg (by simp [absent]))
  rw [generated]
  refine ⟨fun empty => ?_, fun ⟨service, passed⟩ => ?_, fun filled within => ?_⟩
  · have within : ∀ service, Report.revenue (b.paidIn year month) service ≤ maxInteger := by
      intro service
      rw [empty, Report.revenue_of_absent (by simp)]
      decide
    obtain ⟨rows, sums, asked⟩ := Report.unit_monthly_of_within idle books sound start known room within
    rw [empty] at sums
    cases sums.eq_nil
    exact generate_of_empty asked
  · exact generate_of_failed (Report.unit_monthly_of_passed idle books sound start known room passed)
  · obtain ⟨rows, sums, asked⟩ := Report.unit_monthly_of_within idle books sound start known room within
    obtain ⟨journal, done⟩ := generate_of_totals (sums.ne_nil (fun order among => (sound.paidIn_priced order among)) filled) asked
    exact ⟨rows, journal, sums, done⟩

/-- A request for a report leaves the system as it was, or puts the totals of the month on the shelf, where its key was not. -/
theorem reportKey_cases {b : Books} {s : System τ} (idle : s.store.status = .idle) (books : s.store.content.schema = b.tables)
    (sound : b.Sound) (year month : Int) (at? : Option Reading) :
    (reportKey year month at? s).2 = s ∧
        (s.shelf.cache.contains s.shelf.clock (Report.key year month) = false → ∃ e, (reportKey year month at? s).1 = .error e) ∨
      1 ≤ year ∧ isMonth month = true ∧ Report.isOver year month (at?.getD s.store.now) = true ∧
        s.shelf.cache.contains s.shelf.clock (Report.key year month) = false ∧
        (∀ service, Report.revenue (b.paidIn year month) service ≤ maxInteger) ∧
        ∃ rows journal, Report.Sums rows (b.paidIn year month) ∧
          reportKey year month at? s = (.ok (Report.key year month), { s with
            store := { s.store with journal }
            shelf.cache := s.shelf.cache.set s.shelf.clock (Report.key year month) (Report.csvBytes (Report.totals rows)) }) := by
  have refused {e : Failure} (failed : reportKey year month at? s = (.error e, s)) :
      (reportKey year month at? s).2 = s ∧
        (s.shelf.cache.contains s.shelf.clock (Report.key year month) = false → ∃ e, (reportKey year month at? s).1 = .error e) := by
    rw [failed]
    exact ⟨rfl, fun _ => ⟨e, rfl⟩⟩
  cases known : isMonth month with
  | false => exact .inl (refused (reportKey_of_not_isMonth known))
  | true =>
    cases ended : Report.isOver year month (at?.getD s.store.now) with
    | false => exact .inl (refused (reportKey_of_not_isOver known ended))
    | true =>
      cases absent : s.shelf.cache.contains s.shelf.clock (Report.key year month) with
      | true =>
        rw [reportKey_eq at? known ended, if_pos absent]
        exact .inl ⟨rfl, fun never => nomatch never⟩
      | false =>
        rw [absent] at refused
        by_cases start : 1 ≤ year
        · obtain ⟨empty, passed, told⟩ := reportKey_of_books at? idle books sound start known ended absent
          by_cases within : ∀ service, Report.revenue (b.paidIn year month) service ≤ maxInteger
          · by_cases unpaid : b.paidIn year month = []
            · exact .inl (refused (empty unpaid))
            · exact .inr ⟨start, rfl, rfl, rfl, within, told unpaid within⟩
          · exact .inl (refused (passed (by simpa using within)))
        · obtain ⟨e, failed⟩ := generate_of_year month idle start
          refine .inl (refused (e := e) ?_)
          rw [reportKey_eq at? known ended, if_neg (by simp [absent]), failed]

theorem reportKey_store {b : Books} {s : System τ} (idle : s.store.status = .idle) (books : s.store.content.schema = b.tables)
    (sound : b.Sound) (year month : Int) (at? : Option Reading) :
    (reportKey year month at? s).2.store.content = s.store.content ∧ (reportKey year month at? s).2.store.status = .idle := by
  rcases reportKey_cases idle books sound year month at? with ⟨same, -⟩ | ⟨-, -, -, -, -, rows, journal, -, done⟩
  · rw [same]
    exact ⟨rfl, idle⟩
  · rw [done]
    exact ⟨rfl, idle⟩

theorem reportContent_of_made (s : System τ) {made : System τ} {key : String} {rows : List (Int × Int)}
    (lasting : 0 < s.shelf.cache.ttl) (clock : made.shelf.clock = s.shelf.clock)
    (shelved : made.shelf.cache = s.shelf.cache.set s.shelf.clock key (Report.csvBytes (Report.totals rows))) :
    (reportContent key made).1 = .ok ((Text.utf8Bytes (Report.text rows)).map Nat.toUInt8) := by
  have young : ¬ s.shelf.cache.ttl < s.shelf.clock - s.shelf.clock := by
    rw [sub_self]
    exact not_lt.mpr lasting.le
  rw [reportContent_eq, clock, shelved]
  dsimp only
  rw [Cache.get_set_self young, Report.csvBytes, Report.csv_totals]

/-- What comes of a report of a closed month that is not on the shelf, told by the paid orders of the month, which are those that the
stored texts of its bounds select: none, or a total that does not fit, and the system is left as it was; or else the key, under which
the shelf then holds one line for each service. -/
theorem reportKey_of_month (time : Instant) (steps : List Step) (settings : Settings) (shelf : Shelf τ) (lasting : 0 < shelf.cache.ttl)
    (start : 1 ≤ year) (known : isMonth month = true) (at? : Option Reading)
    (ended : Report.isOver year month (at?.getD (Step.runAll steps (.fresh time)).now) = true)
    (absent : shelf.cache.contains shelf.clock (Report.key year month) = false) :
    let s : System τ := ⟨settings, Step.runAll steps (.fresh time), shelf⟩
    let key := Report.key year month
    let made := reportKey year month at? s
    let read := reportContent key made.2
    ∃ b : Books, s.store.content.schema = b.tables ∧
      (∃ first next, monthBounds year month = .ok (first, next) ∧ b.paidIn year month = b.orders.filter fun order =>
        order.isPaid && !order.isCancelled && decide (first.stamp ≤ order.createdAt.stamp) &&
          decide (order.createdAt.stamp < next.stamp)) ∧
      (b.paidIn year month = [] → made.1 = .error (.ledger (.reportNotFound key))) ∧
      ((∃ service, maxInteger < Report.revenue (b.paidIn year month) service) →
        made.1 = .error (.ledger (.storage "aggregate paid amounts" "integer overflow"))) ∧
      (b.paidIn year month = [] ∨ (∃ service, maxInteger < Report.revenue (b.paidIn year month) service) →
        read.1 = .error (.ledger (.reportNotFound key)) ∧ made.2 = s) ∧
      (b.paidIn year month ≠ [] → (∀ service, Report.revenue (b.paidIn year month) service ≤ maxInteger) →
        made.1 = .ok key ∧ ∃ rows, Report.Sums rows (b.paidIn year month) ∧
          read.1 = .ok ((Text.utf8Bytes (Report.text rows)).map Nat.toUInt8)) ∧
      read.2.store.content = s.store.content ∧ read.2.store.status = .idle := by
  obtain ⟨b, reached, _, rests, books⟩ := Step.runAll_fresh time steps
  generalize Step.runAll steps (.fresh time) = store at ended rests books
  intro s key made read
  obtain ⟨empty, passed, told⟩ := reportKey_of_books (s := s) at? rests.idle books reached.sound start known ended absent
  have refused {e : Failure} (failed : reportKey year month at? s = (.error e, s)) :
      read.1 = .error (.ledger (.reportNotFound key)) ∧ made.2 = s := by
    have same : made.2 = s := congrArg Prod.snd failed
    refine ⟨?_, same⟩
    change (reportContent key made.2).1 = _
    rw [same]
    exact reportContent_of_absent absent
  obtain ⟨first, next, bounds, spans⟩ := monthBounds_spans start known (Report.room_of_isOver ended)
  refine ⟨b, books, ⟨first, next, bounds, (b.paidBetween_stamps spans).symm⟩, fun unpaid => congrArg Prod.fst (empty unpaid),
    fun spoilt => congrArg Prod.fst (passed spoilt), ?_, ?_, ?_⟩
  · rintro (unpaid | spoilt)
    · exact refused (empty unpaid)
    · exact refused (passed spoilt)
  · intro filled within
    obtain ⟨rows, journal, sums, done⟩ := told filled within
    refine ⟨congrArg Prod.fst done, rows, sums, ?_⟩
    change (reportContent key (reportKey year month at? s).2).1 = _
    rw [done]
    exact reportContent_of_made s lasting rfl rfl
  · change (reportContent key made.2).2.store.content = _ ∧ (reportContent key made.2).2.store.status = _
    rw [reportContent_store]
    exact reportKey_store rests.idle books reached.sound year month at?

/-- A month in which one order was paid. -/
theorem reportKey_of_month_paid :
    let _ : Reach Int := .everywhere Int
    let april : Instant := ⟨63817848800000000, by decide⟩
    let shelf : Shelf Int := ⟨⟨3600, 3600, []⟩, 0, true⟩
    let made := reportKey 2023 4 (some .default) ⟨{}, Step.runAll [.move (.credit 1 100), .move (.createOrder 7 1 (-5) 30),
      .move (.payOrder 7 1 (-5) 30)] (.fresh april), shelf⟩
    0 < shelf.cache.ttl ∧ isMonth 4 = true ∧ Report.isOver 2023 4 .default = true ∧
      shelf.cache.contains shelf.clock (Report.key 2023 4) = false ∧ made.1 = .ok (Report.key 2023 4) ∧
      ∃ rows, Report.Sums rows [⟨7, .int 1, .int (-5), .int 30, .ofBool true, .ofBool false, april, april⟩] ∧
        (reportContent (Report.key 2023 4) made.2).1 = .ok ((Text.utf8Bytes (Report.text rows)).map Nat.toUInt8) := by
  intro _ april shelf made
  have _ : Reach.Unbounded Int := .everywhere Int
  have ended : Report.isOver 2023 4 .default = true := by decide
  obtain ⟨b, books, _, _, _, _, told, _⟩ :=
    reportKey_of_month april _ {} shelf (by decide) (by decide) (by decide : isMonth 4 = true) (some .default) ended rfl
  dsimp only at books
  obtain rfl := Books.tables_injective (books.symm.trans (Step.runAll_paid april).books).symm
  have earned : (((Books.fresh.credited 1 100 april).ordered 7 1 (-5) 30 april).settled .paid april 7).paidIn 2023 4 =
      [⟨7, .int 1, .int (-5), .int 30, .ofBool true, .ofBool false, april, april⟩] := by decide
  rw [earned] at told
  have within (service : Int) :
      Report.revenue [⟨7, .int 1, .int (-5), .int 30, .ofBool true, .ofBool false, april, april⟩] service ≤ maxInteger := by
    rw [Report.revenue_singleton]
    split <;> decide
  obtain ⟨answered, rows, sums, content⟩ := told (List.cons_ne_nil _ _) within
  exact ⟨by decide, by decide, ended, rfl, answered, rows, sums, content⟩

end
end System
end Passbook
