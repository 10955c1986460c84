import Passbook.Proofs.Sessions
import Passbook.Remote.Rows
import Mathlib.Tactic.MkIffOfInductiveProp

/-! Leases of connections. Whatever the server answers at any call, a session that has been lent a connection gives it back once and
after all else; it commits if and only if its block has answered, and rolls back if the block fails or the server refuses to commit. -/
namespace Passbook.Remote

namespace Command

def IsAsking : Command → Prop
  | .openCursor => True
  | .execute _ _ => True
  | .closeCursor => True
  | _ => False

def IsCall : Command → Prop
  | .configure => True
  | .commit => True
  | .rollback => True
  | command => command.IsAsking

def isCommit : Command → Bool
  | .commit => true
  | _ => false

def isRollback : Command → Bool
  | .rollback => true
  | _ => false

def isReturn : Command → Bool
  | .giveBack => true
  | _ => false

theorem isCommit_ending (command : Command) (committed : command.isCommit = true) : command = .commit ∨ command = .rollback := by
  cases command <;> first | exact .inl rfl | cases committed

theorem isRollback_ending (command : Command) (undone : command.isRollback = true) : command = .commit ∨ command = .rollback := by
  cases command <;> first | exact .inr rfl | cases undone

theorem IsAsking.call {command : Command} (asking : command.IsAsking) : command.IsCall := by
  cases command <;> first | exact trivial | exact asking.elim

end Command

namespace Line

def said (line : Line) (commands : List Command) : Line := { line with trace := line.trace ++ commands }

def reply (line : Line) (command : Command) : Except Failure Result := line.server (line.trace ++ [command])

@[simp] theorem said_nil (line : Line) : line.said [] = line := by
  simp only [said, List.append_nil]

@[simp] theorem said_said (line : Line) (first second : List Command) : (line.said first).said second = line.said (first ++ second) := by
  simp only [said, List.append_assoc]

end Line

namespace Talk
variable {α β : Type}

theorem send_eq (command : Command) (line : Line) : send command line = (line.reply command, line.said [command]) := rfl

def Asks (work : Talk α) : Prop := ∀ line, ∃ asked, (work line).2 = line.said asked ∧ ∀ command ∈ asked, command.IsAsking

theorem Asks.of_same {work : Talk α} (same : ∀ line, (work line).2 = line) : work.Asks := by
  intro line
  refine ⟨[], ?_, by simp⟩
  rw [same, Line.said_nil]

theorem send_asks (command : Command) (asking : command.IsAsking) : (send command).Asks := by
  intro line
  refine ⟨[command], send_eq command line ▸ rfl, ?_⟩
  rintro _ (_ | ⟨_, ⟨⟩⟩)
  exact asking

theorem note_asks (command : Command) (asking : command.IsAsking) : (note command).Asks := send_asks command asking

theorem Asks.pure (a : α) : Asks (pure a) := .of_same fun _ => rfl

theorem Asks.throw (e : Failure) : Asks (throw e : Talk α) := .of_same fun _ => rfl

theorem Asks.bind {work : Talk α} {next : α → Talk β} (first : work.Asks) (rest : ∀ a, (next a).Asks) : (work >>= next).Asks := by
  intro line
  obtain ⟨asked, ends, asking⟩ := first line
  rcases ran : work line with ⟨e | a, t⟩
  · rw [ran] at ends
    rw [Act.bind_of_error ran]
    exact ⟨asked, ends, asking⟩
  · rw [ran] at ends
    change t = line.said asked at ends
    obtain ⟨more, ends', asking'⟩ := rest a t
    rw [Act.bind_of_ok ran]
    refine ⟨asked ++ more, ?_, ?_⟩
    · rw [ends', ends, Line.said_said]
    · intro command among
      rcases List.mem_append.mp among with among | among
      · exact asking command among
      · exact asking' command among

theorem Asks.map {work : Talk α} (f : α → β) (asks : work.Asks) : (f <$> work).Asks := asks.bind fun a => .pure (f a)

theorem Asks.recast {work : Talk α} (change : Failure → Failure) (asks : work.Asks) : Asks (Act.recast change work) := by
  intro line
  obtain ⟨asked, ends, asking⟩ := asks line
  refine ⟨asked, ?_, asking⟩
  rcases ran : work line with ⟨e | a, t⟩ <;> rw [ran] at ends
  · rw [Act.recast_of_error ran]
    exact ends
  · rw [Act.recast_of_ok ran]
    exact ends

theorem Asks.outcome {work : Talk α} (asks : work.Asks) : Asks (Act.outcome work) := asks

theorem execute_asks (operation : String) (wording : Wording) (values : List Json) : (execute operation wording values).Asks := by
  refine (send_asks .openCursor trivial).bind fun _ => ?_
  refine ((send_asks (.execute wording values) trivial).recast _).outcome.bind fun _ => ?_
  exact (note_asks .closeCursor trivial).bind fun _ => .of_same fun _ => rfl

end Talk

section
open Talk

theorem column_asks (name : String) (row : Row) : (column name row).Asks := by
  unfold column
  split
  · exact .pure _
  · exact .throw _

theorem first_asks (result : Result) : (first result).Asks := by
  unfold first
  split
  · exact .pure _
  · exact .throw _

theorem truth_asks (name : String) (row : Row) : (truth name row).Asks := (column_asks name row).map _

theorem time_asks (name : String) (row : Row) : (time name row).Asks := by
  refine .bind (column_asks name row) fun value => ?_
  split
  · exact .of_same fun _ => rfl
  · exact .throw _

theorem accountOf_asks (row : Row) : (accountOf row).Asks :=
  .bind (column_asks _ row) fun _ => .bind (column_asks _ row) fun _ => .pure _

theorem getAccount_asks (id : Int) : (getAccount id).Asks := by
  refine .bind (execute_asks _ _ _) fun result => ?_
  split
  · exact accountOf_asks _
  · exact .throw _

theorem createAccount_asks (id : Int) : (createAccount id).Asks :=
  .bind ((execute_asks _ _ _).recast _) fun result => .bind (first_asks result) fun row => accountOf_asks row

theorem adjust_asks (operation : String) (wording : Wording) (id amount : Int) : (adjust operation wording id amount).Asks := by
  refine .bind ((execute_asks _ _ _).recast _) fun result => ?_
  split
  · exact column_asks _ _
  · exact .throw _

theorem insertOrder_asks (now : Time.Reading) (id account service amount : Int) : (insertOrder now id account service amount).Asks := by
  refine .bind ((execute_asks _ _ _).recast _) fun result => .bind (first_asks result) fun row => ?_
  refine .bind (column_asks _ row) fun _ => .bind (column_asks _ row) fun _ => .bind (column_asks _ row) fun _ => ?_
  refine .bind (column_asks _ row) fun _ => .bind (truth_asks _ row) fun _ => .bind (truth_asks _ row) fun _ => ?_
  exact .bind (time_asks _ row) fun _ => .bind (time_asks _ row) fun _ => .pure _

theorem append_asks (now : Time.Reading) (kind : EntryKind) (sender receiver amount : Int) (description : Option String) :
    (append now kind sender receiver amount description).Asks :=
  .bind ((execute_asks _ _ _).recast _) fun result => .bind (first_asks result) fun row =>
    .bind (column_asks _ row) fun _ => .bind (time_asks _ row) fun _ => .pure _

theorem Call.run_asks (now : Time.Reading) (call : Call) : (call.run now).Asks := by
  cases call with
  | execute operation sql values => exact (execute_asks _ _ _).map _
  | getAccount account => exact (getAccount_asks account).map _
  | createAccount account => exact (createAccount_asks account).map _
  | addBalance account amount => exact (adjust_asks _ _ account amount).map _
  | subtractBalance account amount => exact (adjust_asks _ _ account amount).map _
  | insertOrder order account service amount => exact (insertOrder_asks now order account service amount).map _
  | append kind sender receiver amount description =>
    unfold Call.run
    dsimp only
    split
    · exact (append_asks now _ sender receiver amount description).map _
    · exact .throw _
  | abort message => exact .throw _

/-- The calls of the ledger send statements only, so that a session of them is one of those below. -/
theorem runAll_asks (now : Time.Reading) (calls : List (Call × Bool)) : (runAll now calls).Asks := by
  induction calls with
  | nil => exact .pure _
  | cons first calls ih =>
    obtain ⟨call, isCaught⟩ := first
    refine .bind (call.run_asks now).outcome fun outcome => ?_
    split
    · exact .throw _
    · exact .bind ih fun _ => .pure _

end

namespace Line

def Lends (line : Line) : Prop := ∃ result, line.reply .lease = .ok result

def Begins (line : Line) : Prop := line.Lends ∧ ∃ result, (line.said [.lease]).reply .configure = .ok result

def inside (line : Line) : Line := line.said [.lease, .configure]

variable {line : Line} {e : Failure}

theorem not_lends (lease : line.reply .lease = .error e) : ¬ line.Lends := by
  rintro ⟨_, lent⟩
  cases lease.symm.trans lent

theorem not_begins (configure : (line.said [.lease]).reply .configure = .error e) : ¬ line.Begins := by
  rintro ⟨_, _, configured⟩
  cases configure.symm.trans configured

end Line

namespace Talk
variable {α : Type} {work : Talk α} {line : Line} {asked calls : List Command} {outcome : Except Failure α}

def ends (work : Talk α) (line : Line) : Except Failure α := (work line.inside).1

def left (work : Talk α) (line : Line) : Line := (work line.inside).2

/-- The block of a session gets to its end, having asked all this. -/
structure Through (work : Talk α) (line : Line) (asked : List Command) : Prop where
  begins : line.Begins
  left : work.left line = line.said (.lease :: .configure :: asked)
  asking : ∀ command ∈ asked, command.IsAsking

/-- What a session does to the connection that it has been lent, and how it ends. An error of the rollback takes the place of what
has led to it. -/
inductive Stay (work : Talk α) (line : Line) : List Command → Except Failure α → Prop
  | unconfigured (e : Failure) (configure : (line.said [.lease]).reply .configure = .error e) : Stay work line [.configure] (.error e)
  | raised (asked : List Command) (through : Through work line asked) (e : Failure) (ended : work.ends line = .error e) :
      Stay work line (.configure :: asked ++ [.rollback]) ((work.left line).reply .rollback >>= fun _ => .error e)
  | committed (asked : List Command) (through : Through work line asked) (a : α) (ended : work.ends line = .ok a) (result : Result)
      (commit : (work.left line).reply .commit = .ok result) : Stay work line (.configure :: asked ++ [.commit]) (.ok a)
  | refused (asked : List Command) (through : Through work line asked) (a : α) (ended : work.ends line = .ok a) (e : ServerError)
      (commit : (work.left line).reply .commit = .error (.server e)) :
      Stay work line (.configure :: asked ++ [.commit, .rollback])
        (((work.left line).said [.commit]).reply .rollback >>= fun _ => .error (.ledger (.storage "commit" e.message)))
  | broken (asked : List Command) (through : Through work line asked) (a : α) (ended : work.ends line = .ok a) (e : Failure)
      (commit : (work.left line).reply .commit = .error e) (foreign : ∀ told, e ≠ .server told) :
      Stay work line (.configure :: asked ++ [.commit]) (.error e)

theorem Through.said (through : Through work line asked) (closing : List Command) :
    (work.left line).said closing = line.said (.lease :: (.configure :: asked ++ closing)) := by
  rw [through.left, Line.said_said]
  rfl

theorem undo_eq (e : Failure) (line : Line) :
    (send .rollback >>= fun _ => throw e : Talk α) line = (line.reply .rollback >>= fun _ => .error e, line.said [.rollback]) := by
  rcases answered : line.reply .rollback with told | result
  · exact Act.bind_of_error (by rw [send_eq, answered])
  · exact Act.bind_of_ok (by rw [send_eq, answered])

theorem commitOrUndo_stays {a : α} (through : Through work line asked) (ended : work.ends line = .ok a) :
    ∃ calls, (commitOrUndo a (work.left line)).2 = line.said (.lease :: calls) ∧
      Stay work line calls (commitOrUndo a (work.left line)).1 := by
  have enters {next : Except Failure Result → Talk α} : ((send .commit).outcome >>= next) (work.left line) =
      next ((work.left line).reply .commit) ((work.left line).said [.commit]) := Act.bind_of_ok rfl
  unfold commitOrUndo
  rw [enters]
  generalize commit : (work.left line).reply .commit = answered
  split
  next result => exact ⟨_, through.said _, .committed asked through a ended result commit⟩
  next e =>
    rw [undo_eq, Line.said_said]
    exact ⟨_, through.said _, .refused asked through a ended e commit⟩
  next e foreign => exact ⟨_, through.said _, .broken asked through a ended e commit foreign⟩

theorem onLease_stays (asks : work.Asks) (lends : line.Lends) :
    ∃ calls, (onLease work (line.said [.lease])).2 = line.said (.lease :: calls) ∧
      Stay work line calls (onLease work (line.said [.lease])).1 := by
  have entered : (line.said [.lease]).said [.configure] = line.inside := Line.said_said ..
  unfold onLease
  rcases configure : (line.said [.lease]).reply .configure with e | result
  · rw [Act.bind_of_error (e := e) (t := line.inside) (by rw [send_eq, configure, entered])]
    exact ⟨[.configure], rfl, .unconfigured e configure⟩
  rw [Act.bind_of_ok (a := result) (t := line.inside) (by rw [send_eq, configure, entered])]
  have ran : work.outcome line.inside = (.ok (work.ends line), work.left line) := rfl
  rw [Act.bind_of_ok ran]
  obtain ⟨asked, leaves, asking⟩ := asks line.inside
  have through : Through work line asked := ⟨⟨lends, result, configure⟩, leaves.trans (Line.said_said ..), asking⟩
  rcases ended : work.ends line with e | a
  · dsimp only
    rw [undo_eq]
    exact ⟨_, through.said _, .raised asked through e ended⟩
  · exact commitOrUndo_stays through ended

theorem session_eq (work : Talk α) (opened : line.isOpen = true) :
    session work line = match line.reply .lease with
      | .error e => (.error (recastLease e), line.said [.lease])
      | .ok _ => ((onLease work (line.said [.lease])).1, (onLease work (line.said [.lease])).2.said [.giveBack]) := by
  have entered : session work line = (do
      let _ ← Act.recast recastLease (send .lease)
      let outcome ← (onLease work).outcome
      note .giveBack
      Act.ofExcept outcome : Talk α) line := by
    have got : (get : Talk Line) line = (.ok line, line) := rfl
    unfold session
    rw [Act.bind_of_ok got, opened]
    rfl
  rw [entered]
  rcases answered : line.reply .lease with e | result
  · exact Act.bind_of_error (Act.recast_of_error (by rw [send_eq, answered]))
  · exact Act.bind_of_ok (Act.recast_of_ok (by rw [send_eq, answered]))

theorem Through.call (through : Through work line asked) {closing : List Command} (closes : ∀ call ∈ closing, call.IsCall) :
    ∀ call ∈ .configure :: asked ++ closing, call.IsCall := by
  intro call among
  rcases List.mem_append.mp among with among | among
  · rcases List.mem_cons.mp among with rfl | among
    · trivial
    · exact (through.asking call among).call
  · exact closes call among

private theorem Through.counted (through : Through work line asked) (closing : List Command) {p : Command → Bool}
    (ending : ∀ command, p command = true → command = .commit ∨ command = .rollback) :
    (Command.lease :: (Command.configure :: asked ++ closing) ++ [Command.giveBack]).countP p = closing.countP p := by
  have quiet {command : Command} (apart : command ≠ .commit) (apart' : command ≠ .rollback) : p command = false :=
    Bool.eq_false_iff.mpr fun counted => (ending command counted).elim apart apart'
  have asks : asked.countP p = 0 := by
    refine List.countP_eq_zero.mpr fun command among counted => ?_
    rcases ending command counted with rfl | rfl <;> exact through.asking _ among
  simp [List.countP_append, quiet, asks]

theorem Through.commits (through : Through work line asked) {sent closing : List Command}
    (all : sent = .lease :: (.configure :: asked ++ closing) ++ [.giveBack]) :
    sent.countP Command.isCommit = closing.countP Command.isCommit := by
  rw [all, through.counted closing Command.isCommit_ending]

theorem Through.rollbacks (through : Through work line asked) {sent closing : List Command}
    (all : sent = .lease :: (.configure :: asked ++ closing) ++ [.giveBack]) :
    sent.countP Command.isRollback = closing.countP Command.isRollback := by
  rw [all, through.counted closing Command.isRollback_ending]

end Talk

section
variable {α : Type} {work : Talk α} {line : Line} {asked calls : List Command} {outcome : Except Failure α}

/-- What there is to say of a session, by what the server answers and what its block does. -/
structure Disciplined (work : Talk α) (line : Line) (sent : List Command) (outcome : Except Failure α) : Prop where
  returned : line.Lends → ∃ calls, sent = .lease :: calls ++ [.giveBack] ∧ ∀ call ∈ calls, call.IsCall
  unlent : ¬ line.Lends → sent = [.lease]
  commits : sent.countP Command.isCommit ≤ 1
  commits_iff : sent.countP Command.isCommit = 1 ↔ line.Begins ∧ ∃ a, work.ends line = .ok a
  rollbacks : sent.countP Command.isRollback ≤ 1
  rollbacks_iff : sent.countP Command.isRollback = 1 ↔ line.Begins ∧ ((∃ e, work.ends line = .error e) ∨
    (∃ a, work.ends line = .ok a) ∧ ∃ e, (work.left line).reply .commit = .error (.server e))
  answers_iff (a : α) : outcome = .ok a ↔
    line.Begins ∧ work.ends line = .ok a ∧ ∃ result, (work.left line).reply .commit = .ok result

theorem Talk.Stay.disciplined (lends : line.Lends) (stay : Stay work line calls outcome) :
    Disciplined work line (.lease :: calls ++ [.giveBack]) outcome := by
  obtain ⟨sent, all⟩ : ∃ sent, sent = Command.lease :: calls ++ [.giveBack] := ⟨_, rfl⟩
  have returned (each : ∀ call ∈ calls, call.IsCall) : line.Lends →
      ∃ calls, sent = .lease :: calls ++ [.giveBack] ∧ ∀ call ∈ calls, call.IsCall := fun _ => ⟨calls, all, each⟩
  rw [← all]
  cases stay with
  | unconfigured e configure =>
    have commits : sent.countP Command.isCommit = 0 := by rw [all]; rfl
    have rollbacks : sent.countP Command.isRollback = 0 := by rw [all]; rfl
    refine ⟨returned (by simp [Command.IsCall]), absurd lends, ?_, ?_, ?_, ?_, ?_⟩ <;>
      simp [commits, rollbacks, Line.not_begins configure]
  | raised asked through e ended =>
    have commits : sent.countP Command.isCommit = 0 := through.commits all
    have rollbacks : sent.countP Command.isRollback = 1 := through.rollbacks all
    refine ⟨returned (through.call (by simp [Command.IsCall])), absurd lends, ?_, ?_, ?_, ?_, ?_⟩ <;>
      simp [commits, rollbacks, through.begins, ended]
    cases (work.left line).reply .rollback <;> simp [bind, Except.bind]
  | committed asked through a ended result commit =>
    have commits : sent.countP Command.isCommit = 1 := through.commits all
    have rollbacks : sent.countP Command.isRollback = 0 := through.rollbacks all
    refine ⟨returned (through.call (by simp [Command.IsCall])), absurd lends, ?_, ?_, ?_, ?_, ?_⟩ <;>
      simp [commits, rollbacks, through.begins, ended, commit]
  | refused asked through a ended e commit =>
    have commits : sent.countP Command.isCommit = 1 := through.commits all
    have rollbacks : sent.countP Command.isRollback = 1 := through.rollbacks all
    refine ⟨returned (through.call (by simp [Command.IsCall])), absurd lends, ?_, ?_, ?_, ?_, ?_⟩ <;>
      simp [commits, rollbacks, through.begins, ended, commit]
    cases ((work.left line).said [.commit]).reply .rollback <;> simp [bind, Except.bind]
  | broken asked through a ended e commit foreign =>
    have commits : sent.countP Command.isCommit = 1 := through.commits all
    have rollbacks : sent.countP Command.isRollback = 0 := through.rollbacks all
    refine ⟨returned (through.call (by simp [Command.IsCall])), absurd lends, ?_, ?_, ?_, ?_, ?_⟩ <;>
      simp [commits, rollbacks, through.begins, ended, commit, foreign]

theorem session_disciplined (asks : work.Asks) (opened : line.isOpen = true) :
    ∃ sent, (Talk.session work line).2 = line.said sent ∧ Disciplined work line sent (Talk.session work line).1 := by
  rw [Talk.session_eq work opened]
  rcases lease : line.reply .lease with e | result
  · have unlent := Line.not_lends lease
    have stuck : ¬ line.Begins := fun begins => unlent begins.1
    refine ⟨[.lease], rfl, fun lends => absurd lends unlent, fun _ => rfl, ?_, ?_, ?_, ?_, ?_⟩ <;>
      simp [stuck, Command.isCommit, Command.isRollback]
  · have lends : line.Lends := ⟨result, lease⟩
    obtain ⟨calls, leaves, stay⟩ := Talk.onLease_stays asks lends
    refine ⟨.lease :: calls ++ [.giveBack], ?_, stay.disciplined lends⟩
    dsimp only
    rw [leaves, Line.said_said]

/-- How an error of the server comes out of a session without being told as one of the store. One that the rollback brings takes the
place of the error that has led to it. -/
@[mk_iff]
inductive Bare (work : Talk α) (line : Line) (e : ServerError) : Prop
  | lease (told : line.reply .lease = .error (.server e)) (other : e.kind ≠ .pool)
  | configure (lends : line.Lends) (told : (line.said [.lease]).reply .configure = .error (.server e))
  | block (begins : line.Begins) (ended : work.ends line = .error (.server e)) (result : Result)
      (undone : (work.left line).reply .rollback = .ok result)
  | undoing (begins : line.Begins) (e' : Failure) (ended : work.ends line = .error e')
      (told : (work.left line).reply .rollback = .error (.server e))
  | undoingCommit (begins : line.Begins) (a : α) (ended : work.ends line = .ok a) (e' : ServerError)
      (commit : (work.left line).reply .commit = .error (.server e'))
      (told : ((work.left line).said [.commit]).reply .rollback = .error (.server e))

theorem Talk.recastLease_eq_server {told : Failure} {e : ServerError} :
    recastLease told = .server e ↔ told = .server e ∧ e.kind ≠ .pool := by
  unfold recastLease
  split
  next e' =>
    by_cases exhausted : e'.kind = .pool
    · simp only [exhausted, if_true, reduceCtorEq, false_iff, not_and]
      rintro ⟨⟩ other
      exact other exhausted
    · simp only [exhausted, if_false, iff_self_and]
      rintro ⟨⟩
      exact exhausted
  next other =>
    have apart : told ≠ .server e := fun same => other e same
    simp [apart]

theorem Talk.Stay.raises_server_iff {e : ServerError} (lends : line.Lends) (stay : Stay work line calls outcome) :
    outcome = .error (.server e) ↔ Bare work line e := by
  have lease (e : Failure) : line.reply .lease ≠ .error e := fun told => Line.not_lends told lends
  have configure (begins : line.Begins) (e : Failure) : (line.said [.lease]).reply .configure ≠ .error e :=
    fun told => Line.not_begins told begins
  cases stay with
  | unconfigured e' told => simp [bare_iff, lease, lends, told, Line.not_begins told]
  | raised asked through e' ended =>
    rcases undone : (work.left line).reply .rollback <;>
      simp [bare_iff, lease, configure through.begins, through.begins, ended, undone, bind, Except.bind]
  | committed asked through a ended result commit =>
    simp [bare_iff, lease, configure through.begins, ended, commit]
  | refused asked through a ended e' commit =>
    rcases undone : ((work.left line).said [.commit]).reply .rollback <;>
      simp [bare_iff, lease, configure through.begins, through.begins, ended, commit, undone, bind, Except.bind]
  | broken asked through a ended e' commit foreign =>
    simp [bare_iff, lease, configure through.begins, ended, commit, foreign]

theorem session_raises_server_iff {e : ServerError} (asks : work.Asks) (opened : line.isOpen = true) :
    (Talk.session work line).1 = .error (.server e) ↔ Bare work line e := by
  rw [Talk.session_eq work opened]
  rcases lease : line.reply .lease with told | result
  · have unlent := Line.not_lends lease
    have stuck : ¬ line.Begins := fun begins => unlent begins.1
    simp [bare_iff, lease, unlent, stuck, Talk.recastLease_eq_server]
  · obtain ⟨calls, _, stay⟩ := Talk.onLease_stays asks ⟨result, lease⟩
    exact stay.raises_server_iff ⟨result, lease⟩

/-- What stopped the block is hidden by the loss of the connection. -/
example (lost : ServerError) :
    (Talk.session (throw (.aborted "stop") : Talk Unit) ⟨fun
      | [.lease, .configure, .rollback] => .error (.server lost)
      | _ => .ok ⟨[], -1⟩, true, []⟩).1 = .error (.server lost) := rfl

theorem recastServer_ne_server (operation : String) (told : Failure) (e : ServerError) : recastServer operation told ≠ .server e := by
  unfold recastServer
  split
  next =>
    unfold report
    split <;> nofun
  next other => exact fun same => other e same

theorem Talk.recast_never_server (operation : String) (work : Talk α) (line : Line) (e : ServerError) :
    (Act.recast (recastServer operation) work line).1 ≠ .error (.server e) := by
  rcases ran : work line with ⟨told | a, t⟩
  · rw [Act.recast_of_error ran]
    exact fun same => recastServer_ne_server operation told e (Except.error.inj same)
  · rw [Act.recast_of_ok ran]
    nofun

/-- The one call of a statement whose errors are not reported as errors of the store is the one that opens the cursor. -/
theorem Talk.execute_raises_server_iff {operation : String} {wording : Wording} {values : List Json} {e : ServerError} :
    (execute operation wording values line).1 = .error (.server e) ↔ line.reply .openCursor = .error (.server e) := by
  unfold execute
  rcases opens : line.reply .openCursor with told | result
  · rw [Act.bind_of_error (e := told) (t := line.said [.openCursor]) (by rw [send_eq, opens])]
  · rw [Act.bind_of_ok (a := result) (t := line.said [.openCursor]) (by rw [send_eq, opens])]
    -- What the statement has come to is told again once the cursor is closed.
    have never := recast_never_server operation (send (.execute wording values)) (line.said [.openCursor]) e
    exact ⟨fun raised => absurd raised never, nofun⟩

end

def Talk.sessions {α : Type} : List (Talk α) → Talk (List (Except Failure α))
  | [] => return []
  | work :: works => do
    let outcome ← (session work).outcome
    return outcome :: (← sessions works)

/-- Each session in turn is told by what the server answers to it, after all that has been sent before. -/
inductive Served {α : Type} : Line → List (Talk α) → List Command → List (Except Failure α) → Prop
  | none (line : Line) : Served line [] [] []
  | next {line : Line} {work : Talk α} {works : List (Talk α)} {sent more : List Command} {outcome : Except Failure α}
      {outcomes : List (Except Failure α)} (session : Disciplined work line sent outcome)
      (rest : Served (line.said sent) works more outcomes) : Served line (work :: works) (sent ++ more) (outcome :: outcomes)

def Line.lending (line : Line) (command : Command) : Nat :=
  match command, line.reply command with
  | .lease, .ok _ => 1
  | _, _ => 0

def Line.lendings : Line → List Command → Nat
  | _, [] => 0
  | line, command :: commands => line.lending command + (line.said [command]).lendings commands

namespace Line
variable {line : Line}

theorem lendings_append (line : Line) (first second : List Command) :
    line.lendings (first ++ second) = line.lendings first + (line.said first).lendings second := by
  induction first generalizing line with
  | nil => simp [lendings]
  | cons command first ih =>
    rw [List.cons_append, lendings, ih, lendings, said_said, Nat.add_assoc]
    rfl

theorem lending_of_call {call : Command} (called : call.IsCall) (line : Line) : line.lending call = 0 := by
  cases call <;> first | rfl | exact called.elim

theorem lendings_of_calls {calls : List Command} (each : ∀ call ∈ calls, call.IsCall) : line.lendings calls = 0 := by
  induction calls generalizing line with
  | nil => rfl
  | cons call calls ih =>
    have first := lending_of_call (each call (List.mem_cons_self ..)) line
    rw [lendings, first, ih fun call among => each call (List.mem_cons_of_mem _ among)]

theorem lending_lease_of_lends (lends : line.Lends) : line.lending .lease = 1 := by
  obtain ⟨result, lent⟩ := lends
  simp only [lending, lent]

theorem lending_lease_of_not_lends (unlent : ¬ line.Lends) : line.lending .lease = 0 := by
  unfold lending
  split
  next _ result lent => exact absurd ⟨_, lent⟩ unlent
  next => rfl

end Line

theorem returns_of_calls {calls : List Command} (each : ∀ call ∈ calls, call.IsCall) : calls.countP Command.isReturn = 0 := by
  refine List.countP_eq_zero.mpr fun call among returned => ?_
  have called := each call among
  cases call <;> first | exact called | cases returned

variable {α : Type} {line : Line}

theorem Disciplined.balanced {work : Talk α} {sent : List Command} {outcome : Except Failure α}
    (disciplined : Disciplined work line sent outcome) : sent.countP Command.isReturn = line.lendings sent := by
  by_cases lends : line.Lends
  · obtain ⟨calls, rfl, each⟩ := disciplined.returned lends
    have returns : (Command.lease :: calls ++ [Command.giveBack]).countP Command.isReturn = 1 := by
      simp [returns_of_calls each, Command.isReturn]
    have lendings : line.lendings (.lease :: calls ++ [.giveBack]) = 1 := by
      rw [List.cons_append, Line.lendings, Line.lending_lease_of_lends lends, Line.lendings_append, Line.lendings_of_calls each]
      rfl
    rw [returns, lendings]
  · rw [disciplined.unlent lends, Line.lendings, Line.lending_lease_of_not_lends lends]
    rfl

theorem Served.balanced {works : List (Talk α)} {sent : List Command} {outcomes : List (Except Failure α)}
    (served : Served line works sent outcomes) : sent.countP Command.isReturn = line.lendings sent := by
  induction served with
  | none => rfl
  | next session _ ih => rw [List.countP_append, Line.lendings_append, session.balanced, ih]

theorem sessions_served {works : List (Talk α)} (opened : line.isOpen = true) (asks : ∀ work ∈ works, work.Asks) :
    ∃ sent outcomes, Talk.sessions works line = (.ok outcomes, line.said sent) ∧ Served line works sent outcomes := by
  induction works generalizing line with
  | nil => exact ⟨[], [], by rw [Line.said_nil]; rfl, .none line⟩
  | cons work works ih =>
    obtain ⟨sent, leaves, disciplined⟩ := session_disciplined (asks work (List.mem_cons_self ..)) opened
    have still : (line.said sent).isOpen = true := opened
    obtain ⟨more, outcomes, ran, rest⟩ := ih still fun work among => asks work (List.mem_cons_of_mem _ among)
    refine ⟨sent ++ more, _, ?_, .next disciplined rest⟩
    have first : (Talk.session work).outcome line = (.ok (Talk.session work line).1, line.said sent) := by
      rw [← leaves]
      rfl
    rw [Line.said_said] at ran
    unfold Talk.sessions
    rw [Act.bind_of_ok first, Act.bind_of_ok ran]
    rfl

/-- Sessions on a store that stays open, whatever the server answers to any call and however their blocks end: no connection is kept,
nothing that was not committed is told as done, and each session is disciplined. -/
theorem sessions_disciplined {works : List (Talk α)} (opened : line.isOpen = true) (asks : ∀ work ∈ works, work.Asks) :
    ∃ sent outcomes, Talk.sessions works line = (.ok outcomes, line.said sent) ∧ Served line works sent outcomes ∧
      sent.countP Command.isReturn = line.lendings sent := by
  obtain ⟨sent, outcomes, ran, served⟩ := sessions_served opened asks
  exact ⟨sent, outcomes, ran, served, served.balanced⟩

/-- The line to a server that lends connections but commits nothing. -/
def Line.refusing : Line := ⟨scripted (.ok ⟨[], -1⟩) (.error (.server ⟨.other, "the disk is full", none, none⟩)) [], true, []⟩

theorem sessions_disciplined_refusing : ∃ sent outcomes,
    Talk.sessions [runAll .default [(.addBalance 1 5, true)], runAll .default [(.abort "stop", false)]] .refusing =
        (.ok outcomes, Line.refusing.said sent) ∧
      Served .refusing [runAll .default [(.addBalance 1 5, true)], runAll .default [(.abort "stop", false)]] sent outcomes ∧
      sent.countP Command.isReturn = Line.refusing.lendings sent := by
  refine sessions_disciplined rfl fun work among => ?_
  rcases List.mem_cons.mp among with rfl | among
  · exact runAll_asks _ _
  · cases List.mem_singleton.mp among
    exact runAll_asks _ _

end Passbook.Remote
