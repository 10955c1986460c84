import Passbook.Proofs.Errands
import Passbook.Proofs.Service

/-! Requests on a running service. A request that passes validation is answered as `Http.Tells` says, any other one is turned down
without a call; and what a request leaves behind is a state that the next one can be served in. -/
namespace Passbook
open OrderRows Time

namespace Act
variable {σ α β : Type} {act : Act σ α} {s : σ}

theorem bind_still {next : α → Act σ β} (still : ∀ a t, (next a t).2 = t) : ((act >>= next) s).2 = (act s).2 := by
  rcases acted : act s with ⟨_ | a, t⟩
  · exact congrArg Prod.snd (bind_of_error acted)
  · rw [bind_of_ok acted, still]

theorem map_still (f : α → β) : ((f <$> act) s).2 = (act s).2 := bind_still fun _ _ => rfl

end Act

theorem Migrator.version_still {s : Store Database} (idle : s.status = .idle) : ((version : LedgerWork Int) s).2 = s := by
  have loaded : (Work.inUnit (Work.execute "load applied migrations" AppliedRows.all) s).2 = s := by
    rw [Work.inUnit_execute _ _ idle]
    cases answered : (AppliedRows.all false s.content : Except _ (List AppliedRow × Database)) with
    | error r => rfl
    | ok answer =>
      obtain ⟨rows, content⟩ := answer
      cases AppliedRows.all_reads _ _ _ _ answered
      rfl
  exact (Act.bind_still fun _ _ => rfl).trans ((Act.bind_still fun _ _ => rfl).trans loaded)

namespace System
variable {τ α : Type} {s : System τ}

theorem Upright.reads {op : Operation α} {outcome : Books → Except LedgerError α} (upright : s.Upright)
    (ends : ∀ time b, op.EndsAlone time b (outcome b) b) : (work op.alone s).2.Upright := by
  obtain ⟨⟨time, b, stands⟩, shelved⟩ := upright
  obtain ⟨t, ran, rests, told, kept⟩ := ends time b s.store stands.rests stands.books
  rw [work_of ran]
  refine ⟨⟨time, b, rests, ?_, stands.sound⟩, shelved⟩
  cases ended : outcome b with
  | ok a => exact told a ended
  | error e => rw [kept e ended, stands.books]

variable [AddCommGroup τ] [LinearOrder τ] [Reach τ] [Reach.Unbounded τ]

theorem Upright.moves {op : Operation α} (upright : s.Upright) (m : Move) {answer : α → Answer}
    (same : m.run false = some <$> answer <$> op.alone) : (work op.alone s).2.Upright := by
  have moved : ((Chore.move m).run s) = (work op.alone s).2 := by
    have stored : (m.run false s.store).2 = (op.alone s.store).2 := by
      rw [same]
      exact (Act.map_still some).trans (Act.map_still answer)
    exact congrArg (fun store => { s with store }) stored
  rw [← moved]
  exact upright.run _

theorem Upright.call (upright : s.Upright) (demand : Http.Demand) : (demand.call s).2.Upright := by
  cases demand with
  | balance account =>
    rw [Http.Demand.call, Act.map_still]
    exact upright.reads fun _ _ => Accounts.balance_ends
  | credit form =>
    rw [Http.Demand.call, Act.map_still]
    exact upright.moves (.credit form.account form.amount) rfl
  | transfer form =>
    rw [Http.Demand.call, Act.map_still]
    exact upright.moves (.transfer form.sender form.receiver form.amount) rfl
  | transactions form =>
    rcases History.Listing.ofRequest_cases form.sort form.direction form.limit form.offset with
      ⟨listing, limit, offset, read, limited, placed⟩ | ⟨message, refused⟩
    · rw [Http.Demand.call, read]
      exact (Act.map_still _).symm ▸ upright.reads fun _ _ => History.list_ends limited placed
    · rw [Http.Demand.call, refused]
      exact upright
  | createOrder form =>
    rw [Http.Demand.call, Act.map_still]
    exact upright.moves (.createOrder form.order form.account form.service form.amount) rfl
  | payOrder form =>
    rw [Http.Demand.call, Act.map_still]
    exact upright.moves (.payOrder form.order form.account form.service form.amount) rfl
  | cancelOrder form =>
    rw [Http.Demand.call, Act.map_still]
    exact upright.moves (.cancelOrder form.order form.account form.service form.amount) rfl
  | order id =>
    rw [Http.Demand.call, Act.map_still]
    exact upright.reads fun _ _ => Orders.lookup_ends
  | reportLink form =>
    have got : (get : SystemAct τ (System τ)) s = (.ok s, s) := rfl
    have linked : (ownReportLink form.year form.month s).2 = (reportKey form.year form.month none s).2 :=
      (congrArg Prod.snd (Act.bind_of_ok got)).trans (Act.bind_still fun _ _ => rfl)
    rw [Http.Demand.call, Act.map_still, linked]
    exact upright.run (.reportKey form.year form.month)
  | report key =>
    rw [Http.Demand.call, Act.map_still]
    exact upright.run (.reportContent key)

end System

namespace Http
section
variable {τ : Type} {s : System τ}

theorem health_still (idle : s.store.status = .idle) : (health s).2 = s := by
  have asked : (System.work Migrator.version s).2 = s :=
    congrArg (fun store => { s with store }) (Migrator.version_still idle)
  exact (Act.bind_still fun _ _ => rfl).trans asked

theorem Tells.upright {answer : SystemAct τ Response} {call : SystemAct τ Value} (tells : Tells answer call s)
    (called : (call s).2.Upright) : (answer s).2.Upright := by
  unfold Tells at tells
  rcases told : call s with ⟨failure | value, t⟩ <;> rw [told] at tells called
  · obtain ⟨e, response, journal, -, -, answered, -⟩ := tells
    rw [answered]
    exact called.retold journal
  · obtain ⟨response, answered, -⟩ := tells
    rwa [answered]

theorem withForm_of_error {α : Type} (rejection : Rejection) (next : α → SystemAct τ Response) (s : System τ) :
    (withForm (.error rejection) next s).2 = s := by
  cases rejection with
  | complaints list => exact Act.bind_still fun _ _ => rfl
  | unreadableBody => rfl

end

variable {τ : Type} [AddCommGroup τ] [LinearOrder τ] [Reach τ] {s : System τ}

/-- An endpoint takes a request for what it demands, or turns it down without a call, unless it tells of the health of the service. -/
theorem serve_cases (r : Request) (fields : Fields) (endpoint : Endpoint) (s : System τ) :
    (∃ demand : Demand, demand.Read r fields endpoint) ∨ (serve r endpoint fields s).2 = s ∨ endpoint = .health := by
  have taken {α : Type} {form : Except Rejection α} {next : α → SystemAct τ Response} (reads : ∀ a, form = .ok a →
      ∃ demand : Demand, demand.Read r fields endpoint) (served : serve r endpoint fields = withForm form next) :
      (∃ demand : Demand, demand.Read r fields endpoint) ∨ (serve r endpoint fields s).2 = s ∨ endpoint = .health := by
    cases read : form with
    | ok a => exact .inl (reads a read)
    | error rejection =>
      rw [served, read]
      exact .inr (.inl (withForm_of_error rejection next s))
  cases endpoint with
  | balance => exact taken (fun _ read => ⟨_, .balance (ok_of_mapError read)⟩) rfl
  | credit => exact taken (fun _ read => ⟨_, .credit read⟩) rfl
  | transfer => exact taken (fun _ read => ⟨_, .transfer read⟩) rfl
  | transactions => exact taken (fun _ read => ⟨_, .transactions (ok_of_mapError read)⟩) rfl
  | createOrder => exact taken (fun _ read => ⟨_, .createOrder read⟩) rfl
  | payOrder => exact taken (fun _ read => ⟨_, .payOrder read⟩) rfl
  | cancelOrder => exact taken (fun _ read => ⟨_, .cancelOrder read⟩) rfl
  | order => exact taken (fun _ read => ⟨_, .order (ok_of_mapError read)⟩) rfl
  | reportLink => exact taken (fun _ read => ⟨_, .reportLink read⟩) rfl
  | report => exact taken (fun _ read => ⟨_, .report (ok_of_mapError read)⟩) rfl
  | health => exact .inr (.inr rfl)

theorem handle_routes (r : Request) (s : System τ) :
    (∃ sites endpoint fields, sitesOf s.settings = .ok sites ∧ r.route sites = .ok (.found endpoint fields) ∧
        handle r s = serve r endpoint fields s) ∨
      (¬ ∃ demand, r.Asks s.settings demand) ∧ (handle r s).2 = s := by
  have got : (get : SystemAct τ (System τ)) s = (.ok s, s) := rfl
  unfold handle
  rw [Act.bind_of_ok got]
  dsimp only
  cases mounted : sitesOf s.settings with
  | error e =>
    refine .inr ⟨?_, rfl⟩
    rintro ⟨demand, -, sites, _, _, mounted', -⟩
    cases mounted.symm.trans mounted'
  | ok sites =>
    have sited : (Act.ofExcept (.ok sites) : SystemAct τ (List Site)) s = (.ok sites, s) := rfl
    rw [Act.bind_of_ok sited]
    cases encoded : r.body.bind (Text.unencodable? .utf8) with
    | some fault =>
      refine .inr ⟨?_, rfl⟩
      rintro ⟨demand, encodable, -⟩
      cases encoded.symm.trans encodable
    | none =>
      have elsewhere (other : ∀ endpoint fields, r.route sites ≠ .ok (.found endpoint fields)) :
          ¬ ∃ demand, r.Asks s.settings demand := by
        rintro ⟨demand, -, sites', endpoint, fields, mounted', routed, -⟩
        cases mounted.symm.trans mounted'
        exact other endpoint fields routed
      cases routed : r.route sites with
      | error e => exact .inr ⟨elsewhere (by simp [routed]), rfl⟩
      | ok route =>
        cases route with
        | found endpoint fields => exact .inl ⟨sites, endpoint, fields, rfl, routed, rfl⟩
        | otherMethod allowed => exact .inr ⟨elsewhere (by simp [routed]), rfl⟩
        | redirected location => exact .inr ⟨elsewhere (by simp [routed]), rfl⟩
        | unknown => exact .inr ⟨elsewhere (by simp [routed]), rfl⟩

variable [Reach.Unbounded τ]

theorem handle_upright (upright : s.Upright) (r : Request) : (handle r s).2.Upright := by
  rcases handle_routes r s with ⟨sites, endpoint, fields, -, -, handled⟩ | ⟨-, same⟩
  · rw [handled]
    -- A request that is taken leaves what its call leaves, which is told without its route.
    rcases serve_cases r fields endpoint s with ⟨demand, read⟩ | same | rfl
    · exact (serve_tells read upright).upright (upright.call demand)
    · rwa [same]
    · obtain ⟨time, b, stands⟩ := upright.stands
      have same : (serve r .health fields s).2 = s := health_still stands.rests.idle
      rwa [same]
  · rwa [same]

/-- The states that a service comes to, started on a fresh store with nothing on its shelf: it answers any requests, and between them
the ledger and the shelf are used without it, the clock of either is moved, and the shelf is swept. -/
inductive Served : System τ → Prop
  | start (settings : Settings) (time : Instant) (shelf : Shelf τ) (empty : shelf.cache.entries = []) :
    Served ⟨settings, .fresh time, shelf⟩
  | request {s : System τ} (served : Served s) (r : Request) : Served (handle r s).2
  | chore {s : System τ} (served : Served s) (c : Chore τ) : Served (c.run s)

theorem Served.upright (served : Served s) : s.Upright := by
  induction served with
  | start settings time shelf empty =>
    exact ⟨⟨time, .fresh, Store.fresh_stands time⟩, by simp [empty]⟩
  | request _ r upright => exact handle_upright upright r
  | chore _ c upright => exact upright.run c

/-- The service is faithful to the ledger: what it answers to a request tells what comes of the call that the request stands for. -/
theorem handle_tells (served : Served s) {r : Request} {demand : Demand} (asks : r.Asks s.settings demand) :
    Tells (handle r) demand.call s := by
  obtain ⟨encodable, sites, endpoint, fields, mounted, routed, read⟩ := asks
  -- A request has one route, so that the endpoint that answers is the one that has read the demand.
  rcases handle_routes r s with ⟨sites', endpoint', fields', mounted', routed', handled⟩ | ⟨asksNothing, -⟩
  · cases mounted.symm.trans mounted'
    cases routed.symm.trans routed'
    exact (serve_tells read served.upright).of_eq handled rfl
  · exact absurd ⟨demand, encodable, sites, endpoint, fields, mounted, routed, read⟩ asksNothing

/-- A request for a credit, sent to a service through which another one has been made. -/
theorem handle_tells_credit :
    let _ : Reach Int := .everywhere Int
    let s := (Chore.move (.credit 1 100)).run (⟨{}, .fresh .default, ⟨⟨3600, 3600, []⟩, 0, true⟩⟩ : System Int)
    let r : Request := { method := "POST", target := "/api/v1/balance/add", body := some "\x7b\"account_id\": 1, \"amount\": 30\x7d" }
    Served s ∧ r.Asks s.settings (.credit ⟨1, 30⟩) ∧ Tells (handle r) (Demand.credit ⟨1, 30⟩).call s := by
  intro _ s r
  have _ : Reach.Unbounded Int := .everywhere Int
  have served : Served s := .chore (.start {} .default _ rfl) _
  have asks : r.Asks ({} : Settings) (.credit ⟨1, 30⟩) := by
    let sites := (sitesOf {}).toOption.getD []
    have split : "/api/v1/balance/add".splitOn "?" = ["/api/v1/balance/add"] := by
      simp +decide [String.splitOn, String.splitOnAux]
    have parts : r.parts = (Text.percentDecoded "/api/v1/balance/add", "?".intercalate []) := by
      simp only [Request.parts, r, split]
    have mounted : sitesOf {} = .ok sites := by decide +kernel
    have routed : r.route sites = .ok (.found .credit ⟨[], [], ""⟩) := by
      unfold Request.route
      rw [parts]
      decide +kernel
    have encodable : r.body.bind (Text.unencodable? .utf8) = none := by decide +kernel
    have read : fromBody r.body CreditForm.read = .ok ⟨1, 30⟩ := rfl
    exact ⟨encodable, sites, .credit, _, mounted, routed, .credit read⟩
  exact ⟨served, asks, handle_tells served asks⟩

end Http
end Passbook
