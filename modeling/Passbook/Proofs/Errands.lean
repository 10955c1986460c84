import Passbook.Errand
import Passbook.Proofs.Statements
import Passbook.Proofs.Units

/-! What errands make of the store. While a session is open only calls can be joined to it; migrations, reports and requests would
open sessions of their own, and all they meet with is a refusal. So a unit of errands is kept as a whole or undone as a whole.
Errands that leave the schema alone, together or on their own, go on by the statements of the ledger and change nothing else but
the clock. -/
namespace Passbook

instance {τ : Type} : LawfulHolds (System τ) := ⟨fun _ _ => rfl, fun _ => rfl⟩

instance {τ : Type} : LawfulHolds (Host τ) := ⟨fun _ _ => rfl, fun _ => rfl⟩

def Errand.KeepsStore {τ : Type} : Errand τ → Prop
  | .close => False
  | .restart _ => False
  | _ => True

def MigrationStep.Reads : MigrationStep → Prop
  | .version | .pending _ | .status | .applied | .validate | .tables => True
  | _ => False

def MigrationStep.SetsClock : MigrationStep → Prop
  | .setClock _ => True
  | _ => False

namespace Errand
variable {τ : Type}

def SetsClock : Errand τ → Prop
  | .setClock _ => True
  | .tick _ => True
  | .migration step => step.SetsClock
  | _ => False

/-- Errands that neither migrate nor close the store, and give no statements directly but those that are allowed. -/
def Ordinary (free : Direct → Prop) : Errand τ → Prop
  | .call c => c.Frees free
  | .migration step => step.Reads ∨ step.SetsClock
  | .close => False
  | .restart _ => False
  | _ => True

end Errand

theorem AppliedRows.all_reads {δ : Type} : Statement.Reads (AppliedRows.all : Statement (Catalog δ) (List AppliedRow)) := by
  intro deferred c rows later answered
  unfold all checkTable at answered
  cases kept : c.record with
  | kept =>
    rw [kept] at answered
    cases answered
    rfl
  | dropped =>
    rw [kept] at answered
    cases answered
  | replaced =>
    rw [kept] at answered
    cases answered

namespace Migrator
variable {σ δ : Type} [Keyed δ]

theorem applied_refused : (applied : Work (Catalog δ) (List Applied)).Refused := .bind Work.inUnit_refused

theorem version_refused : (version : Work (Catalog δ) Int).Refused := .bind applied_refused

variable [Worded σ] [Runs σ δ] [Named δ] {R : Bool × Catalog δ → Bool × Catalog δ → Prop} [Progression R]

omit [Keyed δ] [Worded σ] [Runs σ δ] [Named δ] in
theorem simple_leads {R : Store (Catalog δ) → Store (Catalog δ) → Prop} [Lasting R] (m : Migrator σ)
    {work : Work (Catalog δ) MigrationAnswer} (leads : work.Leads R) : (m.simple work).Leads R :=
  .bind leads.outcome fun outcome => .ofExcept (.ok (outcome, m))

theorem carryOut_stays (m : Migrator σ) (step : MigrationStep) : (m.carryOut step : Work (Catalog δ) _).Stays R := by
  have ended (progress : Progress σ) : (m.ended progress : Work (Catalog δ) _).Leads (Store.Within R) := .ofExcept (.ok _)
  have settled {next : Except Failure (Progress σ) → Work (Catalog δ) (Except Failure MigrationAnswer × Migrator σ)}
      (moved : Work (Catalog δ) (Progress σ)) (within : moved.Leads (Store.Within R))
      (goesOn : ∀ progress, (next (.ok progress)).Leads (Store.Within R))
      (fails : ∀ e, (next (.error e)).Leads (Store.Within R)) : (moved.outcome >>= next).Leads (Store.Within R) := by
    refine Act.Leads.bind within.outcome ?_
    intro outcome
    cases outcome with
    | ok progress => exact goesOn progress
    | error e => exact fails e
  cases step with
  | up target => exact settled _ (Act.Refused.bind version_refused).leads ended fun _ => .ofExcept (.ok _)
  | down target => exact settled _ (Act.Refused.bind version_refused).leads ended fun _ => .ofExcept (.ok _)
  | version => exact simple_leads m (Act.Refused.bind version_refused).leads
  | pending target => exact simple_leads m (Act.Refused.bind (.bind version_refused)).leads
  | status => exact simple_leads m (Act.Refused.bind (.bind version_refused)).leads
  | applied => exact simple_leads m (Act.Refused.bind applied_refused).leads
  | validate => exact simple_leads m (Act.Refused.bind (.bind applied_refused)).leads
  | tables => exact simple_leads m (Act.Refused.bind Work.inUnit_refused).leads
  | setClock now => exact simple_leads m (.bind (Work.setClock_within now) fun _ => .ofExcept (.ok MigrationAnswer.done))
  | setChecksum version checksum => exact simple_leads m (Act.Refused.bind Work.inUnit_refused).leads
  | forget version => exact simple_leads m (Act.Refused.bind Work.inUnit_refused).leads
  | add row => exact simple_leads m (Act.Refused.bind Work.inUnit_refused).leads

section Reading
variable {free : Direct → Prop} {R : Store Database → Store Database → Prop} [Lasting R] (spans : Spans free R)

include spans

theorem applied_leads : (applied : LedgerWork (List Applied)).Leads R :=
  .bind (spans.unit_reads _ AppliedRows.all_reads) fun _ => .ofExcept _

theorem version_leads : (version : LedgerWork Int).Leads R := .bind (applied_leads spans) fun _ => .ofExcept (.ok _)

theorem pending_leads (m : Migrator Ddl) (target : Option Int) : (m.pending target : LedgerWork _).Leads R :=
  .bind (version_leads spans) fun _ => .ofExcept (.ok _)

theorem status_leads (m : Migrator Ddl) : (m.status : LedgerWork _).Leads R := by
  refine Act.Leads.bind (version_leads spans) ?_
  intro current
  refine Act.Leads.bind (pending_leads spans m none) ?_
  intro pending
  exact .bind (applied_leads spans) fun _ => .ofExcept (.ok _)

theorem validateRows_leads (m : Migrator Ddl) (rows : List Applied) : (m.validateRows rows : LedgerWork _).Leads R := by
  induction rows with
  | nil => exact .bind (spans.record _ _ _ _) fun _ => .ofExcept (.ok true)
  | cons row rows ih =>
    unfold validateRows
    split
    · exact .bind (spans.record _ _ _ _) fun _ => ih
    · refine .bind (.ofExcept _) fun checksum => ?_
      split
      · exact ih
      · exact .bind (spans.record _ _ _ _) fun _ => .ofExcept (.ok false)

omit [Lasting R] in
theorem tables_leads : (execute "execute" fun _ c => .ok (tableNames c.schema, c) : LedgerWork (List String)).Leads R := by
  apply spans.unit_reads
  intro deferred c names later answered
  cases answered
  rfl

theorem carryOut_leads (m : Migrator Ddl) (step : MigrationStep) (reads : step.Reads) :
    (m.carryOut step : LedgerWork _).Leads R := by
  have answered {α : Type} {work : LedgerWork α} (answer : α → MigrationAnswer) (leads : work.Leads R) :
      (m.simple (answer <$> work)).Leads R :=
    simple_leads m (.bind leads fun a => .ofExcept (.ok (answer a)))
  cases step with
  | version => exact answered _ (version_leads spans)
  | pending target => exact answered _ (pending_leads spans m target)
  | status => exact answered _ (status_leads spans m)
  | applied => exact answered _ (applied_leads spans)
  | validate => exact answered _ (.bind (applied_leads spans) (validateRows_leads spans m))
  | tables => exact answered _ (tables_leads spans)
  | _ => exact reads.elim

end Reading

end Migrator

namespace System
variable {τ α : Type} {free : Direct → Prop} {R : Store Database → Store Database → Prop} [Lasting R]
  (spans : Spans free R)

include spans

theorem tellNotes_leads (notes : List Note) : (tellNotes notes).Leads R := by
  induction notes with
  | nil => exact .ofExcept (.ok ())
  | cons note rest ih => exact .bind (spans.record _ _ _ _) fun _ => ih

variable [Add τ] [Sub τ] [LT τ] [DecidableLT τ] [Reach τ]

theorem onShelf_leads (step : Shelf.Step τ) : (onShelf step).Leads R := by
  refine Act.Leads.bind (.of_same fun _ => rfl) ?_
  intro s
  refine Act.Leads.bind (.of_same fun _ => rfl) ?_
  intro _
  exact .bind (.onStore (tellNotes_leads spans _)) fun _ => .ofExcept _

theorem isShelved_leads (key : String) : (isShelved key : SystemAct τ Bool).Leads R := by
  refine Act.Leads.bind (onShelf_leads spans _) ?_
  intro answer
  cases answer <;> exact .ofExcept (.ok _)

theorem reportKey_leads (year month : Int) (at? : Option Time.Reading) :
    (reportKey year month at? : SystemAct τ String).Leads R := by
  apply Act.Leads.guard
  refine Act.Leads.bind (.onStore Work.clock_leads) ?_
  intro now
  apply Act.Leads.guard
  refine Act.Leads.bind (isShelved_leads spans _) ?_
  intro isShelved
  cases isShelved with
  | true => exact .ofExcept (.ok _)
  | false =>
    refine Act.Leads.bind (.onStore (spans.unit_puts fun _ => Report.monthly_puts year month)) ?_
    intro totals
    apply Act.Leads.guard
    refine Act.Leads.bind (.ofExcept _) ?_
    intro _
    refine Act.Leads.bind (onShelf_leads spans _) ?_
    intro _
    exact .bind (.onStore (spans.record _ _ _ _)) fun _ => .ofExcept (.ok _)

theorem reportContent_leads (key : String) : (reportContent key : SystemAct τ Bytes).Leads R := by
  refine Act.Leads.bind (onShelf_leads spans _) ?_
  intro answer
  cases answer <;> exact .ofExcept (.ok _)

theorem reportLink_leads (baseUrl mountPath : String) (year month : Int) :
    (reportLink baseUrl mountPath year month : SystemAct τ String).Leads R :=
  .bind (reportKey_leads spans year month none) fun _ => .ofExcept (.ok _)

theorem ownReportLink_leads (year month : Int) : (ownReportLink year month : SystemAct τ String).Leads R :=
  .bind (.of_same fun _ => rfl) fun _ => reportLink_leads spans _ _ year month

end System

namespace Http
variable {τ α : Type} {free : Direct → Prop} {R : Store Database → Store Database → Prop} [Lasting R]
  (spans : Spans free R)

include spans

omit [Lasting R] in
theorem noteError_leads (action : String) (e : LedgerError) : (noteError action e : LedgerWork Unit).Leads R := by
  unfold noteError noteNotice
  split <;> exact spans.record _ _ _ _

theorem respond_leads (action : String) {call : SystemAct τ α} (render : α → Except Failure Response) (within : call.Leads R) :
    (respond action call render).Leads R := by
  refine Act.Leads.bind within.outcome ?_
  intro outcome
  split
  · exact .ofExcept _
  · exact .bind (.onStore (noteError_leads spans _ _)) fun _ => .ofExcept (.ok _)
  · exact .ofExcept (.error _)

omit spans in
theorem withForm_leads (form : Except Rejection α) {next : α → SystemAct τ Response} (rest : ∀ a, (next a).Leads R) :
    (withForm form next).Leads R := by
  unfold withForm
  split
  · exact rest _
  · exact .bind (.ofExcept _) fun _ => .ofExcept (.ok _)
  · exact .ofExcept (.ok _)

theorem respondAlone_leads (action : String) (op : Operation α) (render : α → Except Failure Response)
    (report : ∀ a, (op.report a).Leads R) (puts : ∀ now, op.body.Puts free now) :
    (respond action (System.work op.alone : SystemAct τ α) render).Leads R :=
  respond_leads spans action render (.onStore (op.within_leads report (spans.unit_puts puts)))

theorem listTransactions_leads (form : ListingForm) : (listTransactions form : SystemAct τ Response).Leads R := by
  unfold listTransactions
  dsimp only
  split
  · exact respond_leads spans _ _ (.ofExcept (.error _))
  · exact respondAlone_leads spans _ _ _ (fun _ => .ofExcept (.ok ())) fun _ => History.list_puts _ _

variable [Add τ] [Sub τ] [LT τ] [DecidableLT τ] [Reach τ]

theorem serve_leads (r : Request) (endpoint : Endpoint) (fields : Fields) :
    (serve r endpoint fields : SystemAct τ Response).Leads R := by
  have silent {α : Type} (_ : α) : (pure () : LedgerWork Unit).Leads R := .ofExcept (.ok ())
  have told {α : Type} {level : Journal.Level} {source message : String} {details : α → Journal.Details} (a : α) :
      (Work.record level source message (details a) : LedgerWork Unit).Leads R := spans.record _ _ _ _
  cases endpoint with
  | balance =>
    exact withForm_leads _ fun _ => respondAlone_leads spans _ _ _ silent fun _ =>
      .bind (Accounts.get_puts _) fun found => .ofExcept (.ok found.balance)
  | credit => exact withForm_leads _ fun _ => respondAlone_leads spans _ _ _ told fun _ => Accounts.credit_puts _ _
  | transfer => exact withForm_leads _ fun _ => respondAlone_leads spans _ _ _ told fun _ => Accounts.transfer_puts _ _ _
  | transactions => exact withForm_leads _ (listTransactions_leads spans)
  | createOrder => exact withForm_leads _ fun _ => respondAlone_leads spans _ _ _ told fun _ => Orders.create_puts _ _ _ _
  | payOrder => exact withForm_leads _ fun _ => respondAlone_leads spans _ _ _ told fun _ => Orders.finish_puts _ _ _ _ _
  | cancelOrder => exact withForm_leads _ fun _ => respondAlone_leads spans _ _ _ told fun _ => Orders.cancel_puts _ _ _ _
  | order => exact withForm_leads _ fun _ => respondAlone_leads spans _ _ _ silent fun _ => Orders.get_puts _
  | reportLink => exact withForm_leads _ fun _ => respond_leads spans _ _ (System.ownReportLink_leads spans _ _)
  | report => exact withForm_leads _ fun _ => respond_leads spans _ _ (System.reportContent_leads spans _)
  | health => exact .bind (.onStore (Migrator.version_leads spans)) fun _ => .ofExcept (.ok _)

theorem handle_leads (r : Request) : (handle r : SystemAct τ Response).Leads R := by
  refine Act.Leads.bind (.of_same fun _ => rfl) ?_
  intro s
  refine Act.Leads.bind (.ofExcept _) ?_
  intro sites
  dsimp only
  split
  · exact .of_same fun _ => rfl
  · refine Act.Leads.bind (.ofExcept _) ?_
    intro route
    cases route with
    | found endpoint fields => exact serve_leads spans r endpoint fields
    | _ => exact .ofExcept (.ok _)

end Http

/-- What an ordinary errand makes of a store: statements are put while the clock stands, or the clock is set and nothing else
changes. -/
def Store.Advances (free : Direct → Prop) (s t : Store Database) : Prop :=
  Performs (Given free s.now) s.now s t ∨ ∃ now, t = { s with now }

namespace Host
variable {τ α : Type} {free : Direct → Prop} {R : Store Database → Store Database → Prop}

theorem onSystem_leads {act : SystemAct τ α} (leads : act.Leads R) : (onSystem act).Leads R := fun h => leads h.system

theorem tell_leads [Lasting R] {act : HostAct τ α} (reply : α → Reply) (leads : act.Leads R) : (reply <$> act).Leads R :=
  .bind leads fun a => .ofExcept (.ok (reply a))

variable [Add τ] [Sub τ] [LT τ] [DecidableLT τ] [Reach τ]

theorem run_leads [Lasting R] (spans : Spans free R) (isJoined : Bool) (errand : Errand τ) (ordinary : errand.Ordinary free)
    (still : ¬ errand.SetsClock)
    (joined : isJoined = true → ∀ {α : Type} {w : LedgerWork α}, (∀ now, w.Puts free now) → w.Leads R) :
    (run isJoined errand).Leads R := by
  cases errand with
  | call call => exact tell_leads _ (.onStore (call.run_leads spans ordinary joined))
  | setClock now => exact absurd trivial still
  | tick micros => exact absurd trivial still
  | reportKey year month clock => exact tell_leads _ (onSystem_leads (System.reportKey_leads spans _ _ _))
  | reportContent key =>
    exact .bind (onSystem_leads (System.reportContent_leads spans key)) fun _ => tell_leads _ (.ofExcept _)
  | reportLink baseUrl mountPath year month => exact tell_leads _ (onSystem_leads (System.reportLink_leads spans _ _ _ _))
  | ownReportLink year month => exact tell_leads _ (onSystem_leads (System.ownReportLink_leads spans _ _))
  | shelf step => exact tell_leads _ (onSystem_leads (System.onShelf_leads spans step))
  | migration step =>
    exact .bind (.onStore (Migrator.carryOut_leads spans _ step (ordinary.resolve_right still))) fun _ => tell_leads _ (.ofExcept _)
  | close => exact ordinary.elim
  | restart changes => exact ordinary.elim
  | request request => exact tell_leads _ (onSystem_leads (Http.handle_leads spans request))
  | snapshot => exact .bind (.of_same fun _ => rfl) fun _ => .ofExcept (.ok _)
  | fail failure => exact .ofExcept (.error failure)

theorem run_advances (isJoined : Bool) (errand : Errand τ) (ordinary : errand.Ordinary free) :
    (run isJoined errand).Leads (Store.Advances free) := by
  intro h
  by_cases moves : errand.SetsClock
  · right
    cases errand with
    | setClock now => exact ⟨now, rfl⟩
    | tick micros =>
      have shown : (Act.onStore Work.clock : HostAct τ Time.Reading) h = (.ok h.system.store.now, h) := rfl
      have ran : run isJoined (Errand.tick micros) h = (do
          let wall ← Act.ofExcept ((h.system.store.now.wall.shift micros).mapError .time)
          Act.onStore (Work.setClock { h.system.store.now with wall })
          return Reply.time { h.system.store.now with wall }) h := Act.bind_of_ok shown
      cases shifted : h.system.store.now.wall.shift micros with
      | ok wall =>
        have moved : (run isJoined (Errand.tick micros) h).2.system.store =
            { h.system.store with now := { h.system.store.now with wall } } := by
          refine (congrArg (fun result => result.2.system.store) ran).trans ?_
          rw [shifted]
          rfl
        exact ⟨_, moved⟩
      | error e =>
        have stopped : (run isJoined (Errand.tick micros) h).2.system.store = h.system.store := by
          refine (congrArg (fun result => result.2.system.store) ran).trans ?_
          rw [shifted]
          rfl
        exact ⟨h.system.store.now, stopped⟩
    | migration step =>
      cases step with
      | setClock now => exact ⟨now, rfl⟩
      | _ => exact moves.elim
    | _ => exact moves.elim
  · left
    have joined : isJoined = true → ∀ {α : Type} {w : LedgerWork α}, (∀ now, w.Puts free now) →
        w.Leads (Store.Performs (Given free h.system.store.now) h.system.store.now) :=
      fun _ _ _ puts => (puts _).mono fun _ _ performs => performs.mono fun _ _ put => .inl put
    exact run_leads (Spans.performs _) isJoined errand ordinary moves joined h

theorem run_stays {R : Bool × Database → Bool × Database → Prop} [Progression R] (isJoined : Bool) (errand : Errand τ)
    (open_ : errand.KeepsStore) (through : isJoined = true → ∀ x y, Passage Asked x y → R x y) : (run isJoined errand).Stays R := by
  have joined : isJoined = true → ∀ {α : Type} {w : LedgerWork α}, (∀ now, w.Puts (fun _ => True) now) →
      w.Leads (Store.Within R) := by
    intro isJoined α w puts s saved deferred busy
    obtain ⟨later, still, passage⟩ := Call.stays_of_puts puts s saved deferred busy
    exact ⟨later, still, through isJoined _ _ passage⟩
  rw [Act.stays_iff_leads]
  cases errand with
  | call call => exact run_leads Spans.within isJoined _ call.frees_all id joined
  | setClock now => exact tell_leads _ (.onStore (Work.setClock_within now))
  | tick micros =>
    refine Act.Leads.bind (.onStore Work.clock_leads) ?_
    intro now
    refine Act.Leads.bind (.ofExcept _) ?_
    intro wall
    exact .bind (.onStore (Work.setClock_within _)) fun _ => .ofExcept (.ok _)
  | migration step => exact .bind (.onStore (Act.stays_iff_leads.mp (Migrator.carryOut_stays _ step))) fun _ => tell_leads _ (.ofExcept _)
  | close => exact open_.elim
  | restart changes => exact open_.elim
  | _ => exact run_leads Spans.within isJoined _ trivial id joined

theorem keepsSession : Plan.KeepsSession (run : Bool → Errand τ → HostAct τ Reply) Asked Errand.KeepsStore where
  joined errand open_ := run_stays true errand open_ fun _ _ _ passage => passage
  detached errand open_ := run_stays false errand open_ (fun joined => nomatch joined)

/-- A unit of errands on a store in any state without an open session, as long as the store is not closed in it. -/
theorem unit_isAtomic (h : Host τ) (plans : List (Plan (Errand τ))) (isDetached isCaught : Bool)
    (idle : h.system.store.status = .idle) (kept : Plan.AllOf Errand.KeepsStore plans) :
    Plan.Ends run Asked plans h (Plan.carryOut run false (.unit plans isDetached isCaught) h) := by
  have outermost : Plan.carryOut run false (.unit plans isDetached isCaught) = Plan.alone (Plan.carryOutAll run plans) := by
    simp only [Plan.carryOut, Bool.false_and, Bool.false_eq_true, if_false]
  rw [outermost]
  exact Plan.unit_ends keepsSession plans kept h idle

/-- Without any tables a failure is caught in a joined unit, and a second session is refused. With them, a credit is kept; the same
credit is undone by a transfer that fails behind it; and an order of nobody, let through until the end, is undone there. -/
theorem unit_isAtomic_at_each_end :
    let _ : Reach Int := .everywhere Int
    let host (tables : Tables) : Host Int := {
      system := ⟨{}, ⟨{ schema := tables, applied := [] }, .idle, .default, []⟩, ⟨⟨3600, 3600, []⟩, 0, true⟩⟩
      isLent := false, sources := {}, seconds := id, address := .memory }
    let ledger : Tables := ⟨some [], some [], some .empty⟩
    let ends (plans : List (Plan (Errand Int))) (tables : Tables) : Prop := Plan.AllOf Errand.KeepsStore plans ∧
      (host tables).system.store.status = .idle ∧
      Plan.Ends run Asked plans (host tables) (Plan.carryOut run false (.unit plans false false) (host tables))
    let left (plans : List (Plan (Errand Int))) : Tables :=
      (Plan.carryOut run false (.unit plans false false) (host ledger)).2.system.store.content.schema
    let caught : List (Plan (Errand Int)) := [
      .unit [.call (.call (.credit 1 5)) false true, .call (.migration (.up none)) true true] false false, .unit [] true false]
    let kept : List (Plan (Errand Int)) := [.call (.call (.credit 1 5)) false false]
    let undone : List (Plan (Errand Int)) := [.call (.call (.credit 1 5)) false false, .call (.call (.transfer 1 2 5)) false false]
    let refused : List (Plan (Errand Int)) := [
      .call (.call (.direct "defer references" .deferReferences)) false false, .call (.call (.insertOrder 7 9 3 20)) false false]
    ends caught .empty ∧ (ends kept ledger ∧ (left kept).accounts = some [⟨1, 5⟩]) ∧
      (ends undone ledger ∧ left undone = ledger) ∧ ends refused ledger ∧ left refused = ledger := by
  intro _ host ledger ends left caught kept undone refused
  have all (plans : List (Plan (Errand Int))) (tables : Tables) (allowed : Plan.AllOf Errand.KeepsStore plans) : ends plans tables :=
    ⟨allowed, rfl, unit_isAtomic (host tables) plans false false rfl allowed⟩
  exact ⟨all caught _ ⟨⟨trivial, trivial, trivial⟩, trivial, trivial⟩, ⟨all kept _ ⟨trivial, trivial⟩, by decide +kernel⟩,
    ⟨all undone _ ⟨trivial, trivial, trivial⟩, by decide +kernel⟩, all refused _ ⟨trivial, trivial, trivial⟩,
    by decide +kernel⟩

end Host
end Passbook
