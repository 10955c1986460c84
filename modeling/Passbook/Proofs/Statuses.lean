import Passbook.Proofs.Requests

/-! Which requests fail. Amounts are checked when a request is read, but ids and offsets are not, so one that fits no column comes as
far as the store; and so does a report of which a sum fits no integer. Every other request is answered. -/
namespace Passbook
open OrderRows Time

namespace Books

def CanPay (b : Books) (id amount : Int) : Prop := b.Has id ∧ amount ≤ b.balanceOf id

def CanReceive (b : Books) (id amount : Int) : Prop := b.Has id ∧ b.balanceOf id + amount ≤ maxInteger

end Books

namespace Outcome
variable {α β : Type} {b : Books} {time : Instant} {id account service amount delta sender receiver : Int}

theorem not_stuck_ok (a : α) : ¬ Stuck (.ok a) := nofun

theorem stuck_oversized (operation : String) : Stuck (.error (.oversized operation) : Except LedgerError α) := ⟨operation, _, rfl⟩

theorem stuck_map {outcome : Except LedgerError α} (f : α → β) : Stuck (outcome.map f) ↔ Stuck outcome := by
  unfold Stuck
  cases outcome <;> simp [Except.map]

theorem stuck_bind {outcome : Except LedgerError α} {next : α → Except LedgerError β} :
    Stuck (outcome >>= next) ↔ Stuck outcome ∨ ∃ a, outcome = .ok a ∧ Stuck (next a) := by
  unfold Stuck
  cases outcome <;> simp

theorem stuck_guarded {storable : Prop} [Decidable storable] {operation : String} {outcome : Except LedgerError α}
    (free : ¬ Stuck outcome) : Stuck (if storable then outcome else .error (.oversized operation)) ↔ ¬ storable := by
  by_cases fits : storable
  · rw [if_pos fits]
    exact iff_of_false free (not_not_intro fits)
  · rw [if_neg fits]
    exact iff_of_true (stuck_oversized _) fits

theorem stuck_get : Stuck (get b id) ↔ ¬ fitsInteger id = true := by
  unfold get
  exact stuck_guarded (by split <;> simp [Stuck])

theorem stuck_balance : Stuck (balance b id) ↔ ¬ fitsInteger id = true := by
  unfold balance
  rw [stuck_bind, stuck_get]
  exact or_iff_left fun ⟨_, _, never⟩ => not_stuck_ok _ never

theorem stuck_adjust {operation : String} (fits : fitsInteger amount = true) :
    Stuck (adjust b operation id amount delta) ↔ ¬ fitsInteger id = true := by
  unfold adjust
  rw [stuck_guarded, and_iff_right fits]
  split
  · split
    · simp [Stuck]
    · split <;> simp [Stuck]
  · simp [Stuck]

theorem stuck_credit (bounds : 0 ≤ amount ∧ amount ≤ maxInteger) : Stuck (credit b id amount) ↔ ¬ fitsInteger id = true := by
  unfold credit
  rw [Accounts.checkCredit_eq_ok.mpr bounds, ok_bind]
  exact stuck_guarded (by split <;> simp [Stuck])

section
variable (sound : b.Sound) (bounds : 0 < amount ∧ amount ≤ maxInteger)
include sound bounds

theorem adjust_pays (operation : String) : (∃ balance, adjust b operation id amount (-amount) = .ok balance) ↔ b.CanPay id amount := by
  have held := sound.balanceOf_inRange id
  have fits := fitsInteger_of_nonneg (Int.le_of_lt bounds.1) bounds.2
  constructor
  · rintro ⟨balance, told⟩
    obtain ⟨-, there, funds, -⟩ := adjust_eq_ok.mp told
    exact ⟨there, by omega⟩
  · rintro ⟨there, funds⟩
    exact ⟨_, adjust_eq_ok.mpr ⟨⟨fits, sound.known id there⟩, there, by omega, by omega, rfl⟩⟩

theorem adjust_receives (operation : String) :
    (∃ balance, adjust b operation id amount amount = .ok balance) ↔ b.CanReceive id amount := by
  have held := sound.balanceOf_inRange id
  have fits := fitsInteger_of_nonneg (Int.le_of_lt bounds.1) bounds.2
  constructor
  · rintro ⟨balance, told⟩
    obtain ⟨-, there, -, bounded, -⟩ := adjust_eq_ok.mp told
    exact ⟨there, bounded⟩
  · rintro ⟨there, bounded⟩
    exact ⟨_, adjust_eq_ok.mpr ⟨⟨fits, sound.known id there⟩, there, by omega, bounded, rfl⟩⟩

theorem stuck_transfer : Stuck (transfer b sender receiver amount) ↔ sender ≠ receiver ∧
    if sender < receiver then ¬ fitsInteger sender = true ∨ (b.CanPay sender amount ∧ ¬ fitsInteger receiver = true)
    else ¬ fitsInteger receiver = true ∨ (b.CanReceive receiver amount ∧ ¬ fitsInteger sender = true) := by
  have fits := fitsInteger_of_nonneg (Int.le_of_lt bounds.1) bounds.2
  unfold transfer
  by_cases same : sender = receiver
  · subst same
    have refused : Accounts.checkTransfer sender sender amount = .error (.selfTransfer sender) := by
      unfold Accounts.checkTransfer
      rw [checkPositive_eq_ok.mpr bounds, ok_bind, if_pos rfl]
      rfl
    rw [refused]
    simp [Stuck]
  · rw [Accounts.checkTransfer_eq_ok.mpr ⟨bounds, same⟩, ok_bind]
    -- The second leg is tried only if the first one has been made.
    have legs {α β γ : Type} {first : Except LedgerError α} {second : Except LedgerError β} {answer : α → β → γ} :
        Stuck (do
          let x ← first
          let y ← second
          return answer x y) ↔ Stuck first ∨ ((∃ x, first = .ok x) ∧ Stuck second) := by
      simp only [stuck_bind]
      simp [not_stuck_ok]
    split
    · rw [legs, stuck_adjust fits, stuck_adjust fits, adjust_pays sound bounds _]
      simp [same]
    · rw [legs, stuck_adjust fits, stuck_adjust fits, adjust_receives sound bounds _]
      simp [same]

theorem stuck_create : Stuck (create b time id account service amount) ↔ ¬ fitsInteger account = true ∨
    (b.CanPay account amount ∧ ¬ (fitsInteger id = true ∧ fitsInteger service = true)) := by
  have fits := fitsInteger_of_nonneg (Int.le_of_lt bounds.1) bounds.2
  have inserts : Stuck (insertOrder b time id account service amount) ↔ ¬ (fitsInteger id = true ∧ fitsInteger service = true) := by
    unfold insertOrder
    exact stuck_guarded (by split <;> simp [Stuck])
  unfold create
  rw [checkPositive_eq_ok.mpr bounds, ok_bind, stuck_bind, stuck_adjust fits, ← adjust_pays sound bounds "subtract balance"]
  simp only [stuck_bind, inserts]
  simp [not_stuck_ok]

end

theorem stuck_finish {ending : OrderRows.Ending} (bounds : 0 < amount ∧ amount ≤ maxInteger) :
    Stuck (finish b time ending id account service amount) ↔
      ¬ (fitsInteger id = true ∧ fitsInteger account = true ∧ fitsInteger service = true) := by
  have fits := fitsInteger_of_nonneg (Int.le_of_lt bounds.1) bounds.2
  unfold finish
  rw [stuck_guarded (by split <;> simp [Stuck])]
  simp only [List.forall_mem_cons, fits, List.not_mem_nil, false_implies, implies_true, and_true]

theorem stuck_cancel (bounds : 0 < amount ∧ amount ≤ maxInteger) : Stuck (cancel b time id account service amount) ↔
    ¬ (fitsInteger id = true ∧ fitsInteger account = true ∧ fitsInteger service = true) := by
  have returns : ¬ Stuck (if maxInteger < b.balanceOf account + amount then .error (.balanceOverflow account amount)
      else .ok (b.balanceOf account + amount) : Except LedgerError Int) := by
    split <;> exact nofun
  unfold cancel
  rw [stuck_bind, stuck_finish bounds]
  exact or_iff_left fun ⟨_, _, stuck⟩ => returns stuck

theorem stuck_lookup : Stuck (lookup b id) ↔ ¬ fitsInteger id = true := by
  unfold lookup
  exact stuck_guarded (by split <;> simp [Stuck])

theorem stuck_list {listing : History.Listing} {limit offset : Int} : Stuck (list b account listing limit offset) ↔
    ¬ (fitsInteger account = true ∧ fitsInteger limit = true ∧ fitsInteger offset = true) := by
  unfold list
  exact stuck_guarded (not_stuck_ok _)

end Outcome

theorem History.Listing.ofRequest_eq_ok {sort direction : Option String} {limit offset : Option Int} {listing : Listing}
    (read : ofRequest sort direction limit offset = .ok listing) :
    listing.limit = some ((limit.filter fun n => 0 < n && n ≤ maxLimit).getD 10) ∧
      listing.offset = some ((offset.filter fun n => 0 ≤ n).getD 0) := by
  unfold ofRequest at read
  obtain ⟨_, -, read⟩ := bind_eq_ok.mp read
  obtain ⟨_, -, read⟩ := bind_eq_ok.mp read
  cases read
  exact ⟨rfl, rfl⟩

theorem History.Listing.limit_fits (limit : Option Int) : fitsInteger ((limit.filter fun n => 0 < n && n ≤ maxLimit).getD 10) = true := by
  have many : maxLimit ≤ maxInteger := by decide
  cases limit with
  | none => decide
  | some n =>
    rw [Option.filter_some]
    split
    · rename_i within
      simp only [Bool.and_eq_true, decide_eq_true_eq] at within
      exact fitsInteger_of_nonneg (by simp; omega) (by simp; omega)
    · decide

theorem History.Listing.offset_fits (offset : Option Int) :
    ¬ fitsInteger ((offset.filter fun n => 0 ≤ n).getD 0) = true ↔ ∃ n, offset = some n ∧ maxInteger < n := by
  have room : (0 : Int) ≤ maxInteger := by decide
  cases offset with
  | none => simp [fitsInteger_of_nonneg (Int.le_refl 0) room]
  | some n =>
    by_cases low : 0 ≤ n
    · have bounds : fitsInteger n = true ↔ n ≤ maxInteger := ⟨fun fits => (fitsInteger_bounds fits).2, fitsInteger_of_nonneg low⟩
      rw [Option.filter_some, if_pos (by simpa using low), Option.getD_some, bounds]
      simp
    · rw [Option.filter_some, if_neg (by simpa using low), Option.getD_none]
      have within : ¬ maxInteger < n := by omega
      simp [fitsInteger_of_nonneg (Int.le_refl 0) room, within]

namespace Http

/-- When a demand goes beyond what the store can hold. -/
def Demand.Exceeds {τ : Type} [Sub τ] [LT τ] [DecidableLT τ] (s : System τ) (b : Books) : Demand → Prop
  | .balance account => ¬ fitsInteger account = true
  | .credit form => ¬ fitsInteger form.account = true
  | .transfer form => form.sender ≠ form.receiver ∧
    if form.sender < form.receiver then
      ¬ fitsInteger form.sender = true ∨ (b.CanPay form.sender form.amount ∧ ¬ fitsInteger form.receiver = true)
    else ¬ fitsInteger form.receiver = true ∨ (b.CanReceive form.receiver form.amount ∧ ¬ fitsInteger form.sender = true)
  | .transactions form => (∃ listing, History.Listing.ofRequest form.sort form.direction form.limit form.offset = .ok listing) ∧
    (¬ fitsInteger form.account = true ∨ ∃ offset, form.offset = some offset ∧ maxInteger < offset)
  | .createOrder form => ¬ fitsInteger form.account = true ∨
    (b.CanPay form.account form.amount ∧ ¬ (fitsInteger form.order = true ∧ fitsInteger form.service = true))
  | .payOrder form | .cancelOrder form =>
    ¬ (fitsInteger form.order = true ∧ fitsInteger form.account = true ∧ fitsInteger form.service = true)
  | .order id => ¬ fitsInteger id = true
  | .reportLink form => s.Unsummable b form.year form.month
  | .report _ => False

theorem answeredWith_storage {e : LedgerError} {status : Nat} (told : e.answeredWith = some status) :
    (status = 500 ↔ ∃ operation message, e = .storage operation message) ∧ status ∈ [400, 404, 409, 500] := by
  cases e <;> cases told <;> simp

section
variable {τ : Type} {s : System τ} {time : Instant} {b b₁ : Books}

theorem outcome_map {α : Type} {act : SystemAct τ α} {outcome : Except LedgerError α} {t : System τ} (value : α → Value)
    (told : act s = (outcome.mapError .ledger, t)) :
    ((value <$> act : SystemAct τ Value) s).1 = (outcome.map value).mapError .ledger := by
  cases outcome with
  | ok a => exact congrArg Prod.fst (Act.bind_of_ok told)
  | error e => exact congrArg Prod.fst (Act.bind_of_error told)

theorem call_of_operation {α : Type} {op : Operation α} {outcome : Except LedgerError α} {value : α → Value} {condition : Prop}
    (ends : op.EndsAlone time b outcome b₁) (stands : s.store.Stands time b) (stuck : Outcome.Stuck outcome ↔ condition) :
    ∃ outcome : Except LedgerError Value, ((value <$> System.work op.alone : SystemAct τ Value) s).1 = outcome.mapError .ledger ∧
      (Outcome.Stuck outcome ↔ condition) := by
  obtain ⟨t, ran, -⟩ := ends s.store stands.rests stands.books
  exact ⟨outcome.map value, outcome_map value (System.work_of ran), (Outcome.stuck_map value).trans stuck⟩

variable [AddCommGroup τ] [LinearOrder τ] [Reach τ] [Reach.Unbounded τ]

/-- A call is refused by the store just if its demand goes beyond what the store can hold. -/
theorem Demand.call_ends (demand : Demand) (bounded : demand.Bounded) (upright : s.Upright) (stands : s.store.Stands time b) :
    ∃ outcome : Except LedgerError Value, (demand.call s).1 = outcome.mapError .ledger ∧
      (Outcome.Stuck outcome ↔ demand.Exceeds s b) := by
  have sound := stands.sound
  cases demand with
  | balance account => exact call_of_operation Accounts.balance_ends stands Outcome.stuck_balance
  | credit form => exact call_of_operation (Accounts.credit_ends sound) stands (Outcome.stuck_credit bounded)
  | transfer form => exact call_of_operation (Accounts.transfer_ends sound.accounts) stands (Outcome.stuck_transfer sound bounded)
  | transactions form =>
    cases read : History.Listing.ofRequest form.sort form.direction form.limit form.offset with
    | ok listing =>
      obtain ⟨limited, placed⟩ := History.Listing.ofRequest_eq_ok read
      have exceeds : Demand.Exceeds s b (.transactions form) ↔
          ¬ (fitsInteger form.account = true ∧
            fitsInteger ((form.limit.filter fun n => 0 < n && n ≤ History.Listing.maxLimit).getD 10) = true ∧
            fitsInteger ((form.offset.filter fun n => 0 ≤ n).getD 0) = true) := by
        have words : ∃ listing, History.Listing.ofRequest form.sort form.direction form.limit form.offset = .ok listing :=
          ⟨listing, read⟩
        rw [Demand.Exceeds, ← History.Listing.offset_fits, and_iff_right words, History.Listing.limit_fits, not_and_or]
        simp
      rw [Demand.call, read]
      exact call_of_operation (History.list_ends limited placed) stands (Outcome.stuck_list.trans exceeds.symm)
    | error e =>
      have never : ¬ Demand.Exceeds s b (.transactions form) := by
        rintro ⟨⟨listing, told⟩, -⟩
        cases read.symm.trans told
      rcases History.Listing.ofRequest_cases form.sort form.direction form.limit form.offset with ⟨_, _, _, told, -⟩ |
        ⟨message, told⟩
      · cases read.symm.trans told
      · cases read.symm.trans told
        rw [Demand.call, read]
        refine ⟨.error (.invalidListing message), rfl, iff_of_false ?_ never⟩
        rintro ⟨_, _, stuck⟩
        cases stuck
  | createOrder form => exact call_of_operation (Orders.create_ends sound.accounts) stands (Outcome.stuck_create sound bounded)
  | payOrder form => exact call_of_operation (Orders.pay_ends sound.settleable) stands (Outcome.stuck_finish bounded)
  | cancelOrder form => exact call_of_operation (Orders.cancel_ends sound.settleable) stands (Outcome.stuck_cancel bounded)
  | order id => exact call_of_operation Orders.lookup_ends stands Outcome.stuck_lookup
  | reportLink form =>
    obtain ⟨outcome, told, -, -, stuck⟩ := System.ownReportLink_ends stands (Int.le_trans (by decide) bounded.2) bounded.1
    exact ⟨outcome.map .link, outcome_map .link told, (Outcome.stuck_map _).trans stuck⟩
  | report key =>
    obtain ⟨outcome, told, -, -, answered, -⟩ := System.reportContent_ends upright key
    exact ⟨outcome.map (.report key), outcome_map (.report key) told, (Outcome.stuck_map _).trans (iff_of_false answered id)⟩

/-- A request that passes validation is answered with success or with a refusal of the ledger, unless it asks for more than the store
can hold: only then is it answered with an internal error. -/
theorem handle_status (served : Served s) {r : Request} {demand : Demand} (asks : r.Asks s.settings demand) :
    ∃ time b, s.store.Stands time b ∧ ∃ response t, handle r s = (.ok response, t) ∧
      response.status ∈ [200, 400, 404, 409, 500] ∧ (response.status = 500 ↔ demand.Exceeds s b) := by
  have tells := handle_tells served asks
  have upright := served.upright
  obtain ⟨time, b, stands⟩ := upright.stands
  obtain ⟨-, _, _, _, -, -, read⟩ := asks
  obtain ⟨outcome, told, stuck⟩ := demand.call_ends read.bounded upright stands
  refine ⟨time, b, stands, ?_⟩
  unfold Tells at tells
  rcases called : demand.call s with ⟨failure | value, t⟩ <;> rw [called] at tells told
  · obtain ⟨e, response, journal, rfl, known, answered, -⟩ := tells
    obtain ⟨storage, among⟩ := answeredWith_storage known
    refine ⟨response, _, answered, List.mem_cons_of_mem _ among, storage.trans (Iff.trans ?_ stuck)⟩
    cases outcome with
    | ok _ => cases told
    | error _ =>
      cases told
      simp [Outcome.Stuck]
  · obtain ⟨response, answered, fine, -⟩ := tells
    refine ⟨response, t, answered, by simp [fine], iff_of_false (by simp [fine]) fun exceeds => ?_⟩
    obtain ⟨_, _, rfl⟩ := stuck.mpr exceeds
    cases told

/-- A request for the balance of an account whose id is the first that no column can hold. -/
theorem handle_status_of_oversized :
    let _ : Reach Int := .everywhere Int
    let s : System Int := ⟨{}, .fresh .default, ⟨⟨3600, 3600, []⟩, 0, true⟩⟩
    let r : Request := { method := "GET", target := "/api/v1/balance/9223372036854775808" }
    Served s ∧ r.Asks s.settings (.balance 9223372036854775808) ∧ ∃ response t, handle r s = (.ok response, t) ∧
      response.status = 500 := by
  intro _ s r
  have _ : Reach.Unbounded Int := .everywhere Int
  have served : Served s := .start {} .default _ rfl
  have asks : r.Asks ({} : Settings) (.balance 9223372036854775808) := by
    let sites := (sitesOf {}).toOption.getD []
    have split : "/api/v1/balance/9223372036854775808".splitOn "?" = ["/api/v1/balance/9223372036854775808"] := by
      simp +decide [String.splitOn, String.splitOnAux]
    have parts : r.parts = (Text.percentDecoded "/api/v1/balance/9223372036854775808", "?".intercalate []) := by
      simp only [Request.parts, r, split]
    have mounted : sitesOf {} = .ok sites := by decide +kernel
    have routed : r.route sites = .ok (.found .balance ⟨["account_id"], [("account_id", ⟨.word, "9223372036854775808"⟩)], ""⟩) := by
      unfold Request.route
      rw [parts]
      decide +kernel
    have encodable : r.body.bind (Text.unencodable? .utf8) = none := rfl
    exact ⟨encodable, sites, .balance, _, mounted, routed, .balance rfl⟩
  obtain ⟨_, b, -, response, t, answered, -, exceeds⟩ := handle_status served asks
  have oversized : Demand.Exceeds s b (.balance 9223372036854775808) := by
    change ¬ fitsInteger 9223372036854775808 = true
    decide
  exact ⟨served, asks, response, t, answered, exceeds.mpr oversized⟩

end
end Http
end Passbook
