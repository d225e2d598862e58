import BuildMatrix.Pipeline

namespace BuildMatrix

def Outcome.state : Outcome → State
  | testRun _ => .testRun
  | skipped _ => .skipped
  | failed _ => .failed

def Stage.entered : Stage → List State
  | generate | build => []
  | test => [.testSelected]

def Stage.reached : Stage → State
  | generate => .generated
  | build => .built
  | test => .testRun

namespace Pipeline

/-- What became of a command: nothing was run, its program ended, or its program could not be
started. -/
inductive Answer where
  | assumed
  | ended (output : StageOutput)
  | refused (reason : String)
  deriving DecidableEq, Inhabited

namespace Answer

def output : Answer → StageOutput
  | assumed => .silent
  | ended output => output
  | refused reason => .ofLaunchFailure reason

def isRefused : Answer → Bool
  | refused _ => true
  | _ => false

end Answer

structure Attempt where
  stage : Stage
  command : Command
  answer : Answer
  elapsed : Nat
  deriving DecidableEq, Inhabited

namespace Attempt

def output (a : Attempt) : StageOutput := a.answer.output

def passed (a : Attempt) : Bool := a.output.success

@[simp] theorem passed_assumed (stage : Stage) (c : Command) (n : Nat) :
    passed ⟨stage, c, .assumed, n⟩ = true := rfl

@[simp] theorem passed_ended (stage : Stage) (c : Command) (o : StageOutput) (n : Nat) :
    passed ⟨stage, c, .ended o, n⟩ = o.success := rfl

@[simp] theorem passed_refused (stage : Stage) (c : Command) (reason : String) (n : Nat) :
    passed ⟨stage, c, .refused reason, n⟩ = false := rfl

def error (a : Attempt) : Error := .stageFailed a.stage a.command.display a.output

def ending (a : Attempt) : Option Outcome :=
  if a.answer.isRefused then some (.failed a.error)
  else if a.stage = .test then some (.testRun a.output)
  else if a.passed then none
  else some (.failed a.error)

def reached (a : Attempt) : State := (a.ending.map Outcome.state).getD a.stage.reached

def states (a : Attempt) : List State := a.stage.entered ++ [a.reached]

def issued (a : Attempt) : Stage × String := (a.stage, a.command.display)

def started (a : Attempt) : Entry := .event (.stageStarted a.stage a.command.display a.command.cwd)

def finished (a : Attempt) : Entry := .event (.stageFinished a.stage a.output.code a.elapsed)

def told (a : Attempt) : Entry := .event (.stageOutput a.stage a.command.display a.output)

/-- Whether the output of a program that ended is told: always for a test, else if it failed. -/
def tells (a : Attempt) : Bool := a.stage = .test || !a.passed

/-- What a stage adds to the log. A program that could not be started does not finish, and its
output is always told. -/
def block (a : Attempt) : List Entry :=
  a.started ::
    match a.answer with
    | .assumed => [a.finished]
    | .ended _ => .call a.command :: a.finished :: if a.tells then [a.told] else []
    | .refused _ => [.call a.command, a.told]

end Attempt

variable {σ : Type} (host : Host σ) (dryRun : Bool)

def ask (c : Command) (w : σ) : Answer × σ :=
  if dryRun then (.assumed, w)
  else
    match host.execute c w with
    | (.ok output, w) => (.ended output, w)
    | (.error reason, w) => (.refused reason, w)

def attempt (stage : Stage) (c : Command) (w : σ) : Attempt × σ :=
  let (answer, w') := ask host dryRun c w
  (⟨stage, c, answer, host.clock w' - host.clock w⟩, w')

def Entry.isLog : Entry → Bool
  | log _ => true
  | _ => false

@[simp] theorem Entry.isLog_log (l : Log.Line) : (log l).isLog = true := rfl

@[simp] theorem Entry.isLog_event (e : Event) : (event e).isLog = false := rfl

@[simp] theorem Entry.isLog_call (c : Command) : (call c).isLog = false := rfl

namespace Progress

def account (p : Progress σ) : Progress σ :=
  { p with entries := p.entries.filter (!·.isLog) }

def add (p : Progress σ) (history : List State) (commands : List (Stage × String))
    (entries : List Entry) (world : σ) : Progress σ :=
  ⟨p.history ++ history, p.commands ++ commands, p.entries ++ entries, world⟩

variable (p : Progress σ)

@[simp] theorem add_add (h h' : List State) (c c' : List (Stage × String)) (e e' : List Entry)
    (w w' : σ) : (p.add h c e w).add h' c' e' w' = p.add (h ++ h') (c ++ c') (e ++ e') w' := by
  simp [add]

@[simp] theorem add_nil : p.add [] [] [] p.world = p := by
  simp [add]

@[simp] theorem start_world (w : σ) : (start w).world = w := rfl

@[simp] theorem log_world (l : Log.Level) (m : String) (f : List (String × String)) :
    (p.log l m f).world = p.world := rfl

@[simp] theorem emit_world (e : Event) : (p.emit e).world = p.world := rfl

@[simp] theorem enter_world (s : State) : (p.enter s).world = p.world := rfl

@[simp] theorem give_world (stage : Stage) (c : Command) : (p.give stage c).world = p.world := rfl

@[simp] theorem called_world (c : Command) (w : σ) : (p.called c w).world = w := rfl

@[simp] theorem account_log (l : Log.Level) (m : String) (f : List (String × String)) :
    (p.log l m f).account = p.account := by
  simp [log, account]

@[simp] theorem account_emit (e : Event) :
    (p.emit e).account = p.account.add [] [] [.event e] p.world := by
  simp [emit, account, add]

@[simp] theorem account_enter (s : State) :
    (p.enter s).account = p.account.add [s] [] [] p.world := by
  simp [enter, log, account, add]

@[simp] theorem account_give (stage : Stage) (c : Command) :
    (p.give stage c).account = p.account.add [] [(stage, c.display)]
      [.event (.stageStarted stage c.display c.cwd)] p.world := by
  simp [give, emit, log, account, add]

@[simp] theorem account_called (c : Command) (w : σ) :
    (p.called c w).account = p.account.add [] [] [.call c] w := by
  simp [called, account, add]

@[simp] theorem account_moved (w : σ) :
    account { p with world := w } = p.account.add [] [] [] w := by
  simp [account, add]

variable {p} {q : Progress σ} {h : List State} {c : List (Stage × String)} {e : List Entry} {w : σ}

theorem world_of_account (hq : q.account = p.account.add h c e w) : q.world = w :=
  congrArg Progress.world hq

theorem enter_account (hq : q.account = p.account.add h c e w) (s : State) :
    (q.enter s).account = p.account.add (h ++ [s]) c e w := by
  rw [account_enter, hq, add_add, world_of_account hq, List.append_nil, List.append_nil]

theorem skip_account (hq : q.account = p.account.add h c e w) (reason : SkipReason) :
    (skip reason q).2.account =
      p.account.add (h ++ [.skipped]) c (e ++ [.event (.pipelineSkipped reason)]) w := by
  simp [skip, hq, world_of_account hq]

end Progress

section

variable {host dryRun} {stage : Stage} {c : Command} {a : Attempt} {w w' : σ}

theorem stage_of_attempt (h : attempt host dryRun stage c w = (a, w')) : a.stage = stage :=
  (congrArg (fun t ↦ t.1.stage) h).symm

theorem command_of_attempt (h : attempt host dryRun stage c w = (a, w')) : a.command = c :=
  (congrArg (fun t ↦ t.1.command) h).symm

end

theorem ask_eq_assumed_iff (c : Command) (w : σ) :
    (ask host dryRun c w).1 = .assumed ↔ dryRun = true := by
  cases dryRun with
  | true => simp [ask]
  | false => rcases h : host.execute c w with ⟨_ | _, _⟩ <;> simp [ask, h]

theorem attempt_dry (stage : Stage) (c : Command) (w : σ) :
    attempt host true stage c w = (⟨stage, c, .assumed, 0⟩, w) := by
  simp [attempt, ask]

theorem runStage_dry (stage : Stage) (c : Command) (p : Progress σ) :
    runStage host true stage c p =
      (.ok .silent, (p.give stage c).emit (.stageFinished stage 0 0)) := by
  simp [runStage]

section

variable {host} {stage : Stage} {c : Command} {p : Progress σ} {w : σ}

theorem attempt_ended {w₀ : σ} {output : StageOutput} (h : host.execute c w₀ = (.ok output, w)) :
    attempt host false stage c w₀ =
      (⟨stage, c, .ended output, host.clock w - host.clock w₀⟩, w) := by
  simp [attempt, ask, h]

theorem attempt_refused {w₀ : σ} {reason : String} (h : host.execute c w₀ = (.error reason, w)) :
    attempt host false stage c w₀ =
      (⟨stage, c, .refused reason, host.clock w - host.clock w₀⟩, w) := by
  simp [attempt, ask, h]

theorem runStage_ended {output : StageOutput} (h : host.execute c p.world = (.ok output, w)) :
    runStage host false stage c p = (.ok output, ((p.give stage c).called c w).emit
      (.stageFinished stage output.code (host.clock w - host.clock p.world))) := by
  simp [runStage, h]

theorem runStage_refused (stage : Stage) {reason : String}
    (h : host.execute c p.world = (.error reason, w)) : ∃ message, runStage host false stage c p =
      (.error (.stageFailed stage c.display (.ofLaunchFailure reason)),
        (((p.give stage c).called c w).log .debug message []).emit
          (.stageOutput stage c.display (.ofLaunchFailure reason))) := by
  exact ⟨_, by simp [runStage, failure, h]; rfl⟩

end

/-- A stage that needs code 0 goes as its attempt says, and adds the block of the attempt. -/
theorem checkStage_spec {stage : Stage} (hs : stage ≠ .test) (c : Command) (p : Progress σ) :
    let t := attempt host dryRun stage c p.world
    ∃ q, checkStage host dryRun stage c p =
        (if t.1.passed then .ok () else .error t.1.error, q) ∧
      q.account = p.account.add [] [t.1.issued] t.1.block t.2 := by
  cases dryRun with
  | true =>
    rw [attempt_dry]
    refine ⟨_, Prod.ext ?_ rfl, ?_⟩ <;>
      simp [checkStage, runStage_dry, Attempt.block, Attempt.passed, Attempt.output, Answer.output,
        StageOutput.success, StageOutput.silent, Attempt.issued, Attempt.started, Attempt.finished]
  | false =>
    rcases h : host.execute c p.world with ⟨reason | output, w⟩
    · obtain ⟨message, hrun⟩ := runStage_refused stage h
      rw [attempt_refused h]
      refine ⟨_, Prod.ext ?_ rfl, ?_⟩ <;>
        simp [checkStage, hrun, Attempt.block, Attempt.passed, Attempt.output, Answer.output,
          StageOutput.success, StageOutput.ofLaunchFailure, StageOutput.launchFailureCode,
          Attempt.issued, Attempt.started, Attempt.told, Attempt.error]
    · rw [attempt_ended h]
      cases hp : output.success <;> refine ⟨_, Prod.ext ?_ rfl, ?_⟩ <;>
        simp [checkStage, runStage_ended h, hp, hs, Attempt.block, Attempt.tells, Attempt.passed,
          Attempt.output, Answer.output, Attempt.issued, Attempt.started, Attempt.finished,
          Attempt.told, Attempt.error, failure]

/-- A test that can be started ends the run with its output; one that cannot be fails it. -/
theorem testStage_spec (c : Command) (p : Progress σ) :
    let t := attempt host dryRun .test c p.world
    ∃ outcome q, testStage host dryRun c p = (outcome, q) ∧ t.1.ending = some outcome ∧
      q.account = p.account.add [t.1.reached] [t.1.issued] t.1.block t.2 := by
  cases dryRun with
  | true =>
    rw [attempt_dry]
    refine ⟨_, _, by rw [testStage, runStage_dry], ?_, ?_⟩ <;>
      simp [Attempt.ending, Answer.isRefused, Attempt.reached, Outcome.state, Attempt.block,
        Attempt.output, Answer.output, StageOutput.silent, Attempt.issued, Attempt.started,
        Attempt.finished]
  | false =>
    rcases h : host.execute c p.world with ⟨reason | output, w⟩
    · obtain ⟨message, hrun⟩ := runStage_refused .test h
      rw [attempt_refused h]
      refine ⟨_, _, by rw [testStage, hrun], ?_, ?_⟩ <;>
        simp [fail, Attempt.ending, Answer.isRefused, Attempt.reached, Outcome.state, Attempt.block,
          Attempt.output, Answer.output, Attempt.issued, Attempt.started, Attempt.told,
          Attempt.error]
    · rw [attempt_ended h]
      refine ⟨_, _, by rw [testStage, runStage_ended h], ?_, ?_⟩ <;>
        simp [Attempt.ending, Answer.isRefused, Attempt.reached, Outcome.state, Attempt.block,
          Attempt.tells, Attempt.output, Answer.output, Attempt.issued, Attempt.started,
          Attempt.finished, Attempt.told]

section

variable {p q : Progress σ} {h : List State} {c : List (Stage × String)}
  {e : List Entry} {w : σ}

theorem checkStage_account {stage : Stage} (hs : stage ≠ .test) (command : Command)
    (hq : q.account = p.account.add h c e w) :
    let t := attempt host dryRun stage command w
    ∃ r, checkStage host dryRun stage command q =
        (if t.1.passed then .ok () else .error t.1.error, r) ∧
      r.account = p.account.add h (c ++ [t.1.issued]) (e ++ t.1.block) t.2 := by
  have hr := checkStage_spec host dryRun hs command q
  rw [Progress.world_of_account hq, hq] at hr
  simpa using hr

theorem testStage_account (command : Command) (hq : q.account = p.account.add h c e w) :
    let t := attempt host dryRun .test command w
    ∃ outcome r, testStage host dryRun command q = (outcome, r) ∧ t.1.ending = some outcome ∧
      r.account = p.account.add (h ++ [t.1.reached]) (c ++ [t.1.issued]) (e ++ t.1.block) t.2 := by
  have hr := testStage_spec host dryRun command q
  rw [Progress.world_of_account hq, hq] at hr
  simpa using hr

end

def prepared (dir : Path) (w : σ) : Except String Unit × σ :=
  if dryRun then (.ok (), w)
  else
    match host.ensureDirectory dir w with
    | (.ok _, w) => (.ok (), w)
    | (.error reason, w) => (.error reason, w)

theorem prepare_spec (dir : Path) (p : Progress σ) :
    ∃ q, prepare host dryRun dir p =
        ((prepared host dryRun dir p.world).1.mapError (.io dir), q) ∧
      q.account = p.account.add [] [] [] (prepared host dryRun dir p.world).2 := by
  cases dryRun with
  | true => exact ⟨p, rfl, (Progress.add_nil p.account).symm⟩
  | false =>
    rcases h : host.ensureDirectory dir p.world with ⟨reason | made, w⟩ <;>
      refine ⟨{ p with world := w }, ?_, by simp [prepared, h]⟩ <;>
      simp only [prepare, prepared, h] <;> rfl

end Pipeline

end BuildMatrix
