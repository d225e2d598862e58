import BuildMatrix.Pipeline.Report

namespace BuildMatrix.Pipeline

/-- What a run needs of the world outside: directories, programs and a clock in milliseconds. A
directory that cannot be made and a program that cannot be started answer with the reason. -/
structure Host (σ : Type) where
  ensureDirectory : Path → σ → Except String Path × σ
  execute : Command → σ → Except String StageOutput × σ
  clock : σ → Nat

/-- What happens in a run, in order: events, programs started and log lines. -/
inductive Entry where
  | event (e : Event)
  | call (c : Command)
  | log (l : Log.Line)
  deriving DecidableEq, Inhabited

structure Progress (σ : Type) where
  history : List State
  commands : List (Stage × String)
  entries : List Entry
  world : σ

def logLine (level : Log.Level) (message : String) (fields : List (String × String)) :
    Log.Line where
  level := level
  scope := "psp_build::builder::driver"
  message := message
  fields := fields

namespace Progress

variable {σ : Type}

def start (world : σ) : Progress σ := ⟨[.created], [], [], world⟩

def log (p : Progress σ) (level : Log.Level) (message : String)
    (fields : List (String × String)) : Progress σ :=
  { p with entries := p.entries ++ [.log (logLine level message fields)] }

def emit (p : Progress σ) (e : Event) : Progress σ :=
  { p with entries := p.entries ++ [.event e] }

def enter (p : Progress σ) (s : State) : Progress σ :=
  { p.log .debug "pipeline transition" [("state", s.label)] with history := p.history ++ [s] }

def give (p : Progress σ) (stage : Stage) (c : Command) : Progress σ :=
  let p := p.log .info ("running `" ++ c.display ++ "`") [("stage", stage.name)]
  { p with commands := p.commands ++ [(stage, c.display)] }.emit
    (.stageStarted stage c.display c.cwd)

def called (p : Progress σ) (c : Command) (world : σ) : Progress σ :=
  { p with entries := p.entries ++ [.call c], world := world }

end Progress

variable {σ : Type} (host : Host σ) (dryRun : Bool)

def failure (stage : Stage) (c : Command) (output : StageOutput) : Error :=
  .stageFailed stage c.display output

/-- Runs the program of a stage, whatever its code; only a program that cannot be started is an
error. A dry run takes every program for a silent success. -/
def runStage (stage : Stage) (c : Command) (p : Progress σ) :
    Except Error StageOutput × Progress σ :=
  let p := p.give stage c
  let finished (code : Int) (q : Progress σ) :=
    q.emit (.stageFinished stage code (host.clock q.world - host.clock p.world))
  if dryRun then (.ok .silent, finished 0 p)
  else
    match host.execute c p.world with
    | (.ok output, world) => (.ok output, finished output.code (p.called c world))
    | (.error reason, world) =>
      let output := StageOutput.ofLaunchFailure reason
      let message := "failed to launch " ++ stage.name ++ ": " ++ reason
      let p := (p.called c world).log .debug message []
      (.error (failure stage c output), p.emit (.stageOutput stage c.display output))

def checkStage (stage : Stage) (c : Command) (p : Progress σ) :
    Except Error Unit × Progress σ :=
  match runStage host dryRun stage c p with
  | (.error e, p) => (.error e, p)
  | (.ok output, p) =>
    if output.success then (.ok (), p)
    else (.error (failure stage c output), p.emit (.stageOutput stage c.display output))

def skip (reason : SkipReason) (p : Progress σ) : Outcome × Progress σ :=
  let p := (p.log .info "skipping remaining stages" [("skip", reason.message)]).enter .skipped
  (.skipped reason, p.emit (.pipelineSkipped reason))

def fail (e : Error) (p : Progress σ) : Outcome × Progress σ := (.failed e, p.enter .failed)

/-- The test passes with any code; its output is told unless nothing ran. -/
def testStage (c : Command) (p : Progress σ) : Outcome × Progress σ :=
  match runStage host dryRun .test c p with
  | (.error e, p) => fail e p
  | (.ok output, p) =>
    let p := if dryRun then p else p.emit (.stageOutput .test c.display output)
    (.testRun output, p.enter .testRun)

def prepare (dir : Path) (p : Progress σ) : Except Error Unit × Progress σ :=
  if dryRun then (.ok (), p)
  else
    match host.ensureDirectory dir p.world with
    | (.ok _, world) => (.ok (), { p with world := world })
    | (.error reason, world) => (.error (.io dir reason), { p with world := world })

def drive (ctx : Context) (p : Progress σ) : Outcome × Progress σ :=
  match prepare host dryRun ctx.buildDir p with
  | (.error e, p) => fail e p
  | (.ok (), p) =>
    let p := p.enter .directoryReady
    match ctx.skip with
    | some reason => skip reason p
    | none =>
      match checkStage host dryRun .generate ctx.configureCommand p with
      | (.error e, p) => fail e p
      | (.ok (), p) =>
        match checkStage host dryRun .build ctx.buildCommand (p.enter .generated) with
        | (.error e, p) => fail e p
        | (.ok (), p) =>
          let p := p.enter .built
          if ctx.compiler.isNative then
            testStage host dryRun ctx.testCommand (p.enter .testSelected)
          else skip .crossCompiled p

structure Ended (σ : Type) where
  report : Report
  entries : List Entry
  world : σ

def Ended.events (r : Ended σ) : List Event :=
  r.entries.filterMap fun
    | .event e => some e
    | _ => none

def Ended.calls (r : Ended σ) : List Command :=
  r.entries.filterMap fun
    | .call c => some c
    | _ => none

def run (ctx : Context) (world : σ) : Ended σ :=
  let (outcome, p) := drive host dryRun ctx (.start world)
  let report : Report := ⟨p.history, p.commands, outcome, ctx.buildDir⟩
  let p := p.log .info "pipeline finished"
    [("state", report.state.label), ("exit_code", toString report.exitCode)]
  let p := p.emit (.pipelineFinished report.state report.success report.exitCode
    (host.clock p.world - host.clock world))
  ⟨report, p.entries, p.world⟩

end BuildMatrix.Pipeline
