import BuildMatrix.CommandLine.Arguments
import BuildMatrix.Duration
import BuildMatrix.Log.Filter
import BuildMatrix.Matrix
import BuildMatrix.Plan
import BuildMatrix.Machine.Execution
import BuildMatrix.Run

namespace BuildMatrix.CommandLine

structure Setting where
  args : List String
  accountHome : Option Path
  machine : Machine
  deriving Inhabited

structure Result where
  code : Int
  output : Output
  machine : Machine
  deriving Inhabited

structure Session where
  invocation : Invocation
  console : Console
  filter : Log.Filter
  projectRoot : Path
  userConfig : Option Path
  machine : Machine
  deriving Inhabited

namespace Session

def log (s : Session) (lines : List Log.Line) : Output :=
  .err (String.join ((lines.filter (s.filter.passes)).map Log.Line.text))

/-- An option, or else the variable that stands for it. -/
def selector (s : Session) (x : Selector) : Option String :=
  let option := String.ofList (x.flag.toList.drop 2)
  (s.invocation.get? option).or (s.machine.bindings.lookup x.name)

def buildRoot (s : Session) : Option Path := (s.invocation.get? "build-root").map Path.ofString

def request (s : Session) (dryRun : Bool) : Request where
  projectRoot := s.projectRoot
  compiler := s.selector .compiler
  variant := s.selector .variant
  buildRoot := s.buildRoot
  dryRun := dryRun
  userConfig := s.userConfig

def reportError (s : Session) (e : Error) : Output :=
  if s.console.isJson then s.console.error e.message
  else .err (e.toDiagnostic.format s.console.useColor)

def failed (s : Session) (e : Error) (before : Output) : Result :=
  ⟨e.exitCode, before ++ s.reportError e, s.machine⟩

def unencodable : String := "path contains invalid UTF-8 characters"

def encoded (s : Session) : Option Json → Output
  | some j => s.console.event j
  | none => s.console.error unencodable

def showDuration (ms : Nat) : String := (Duration.ofMillis ms).display

def stageStatus : Stage → Status
  | .generate => .generating
  | .build => .building
  | .test => .running

def renderEvent (s : Session) (dryRun : Bool) (e : Event) : Output :=
  if s.console.isJson then s.console.event e.toJson
  else
    match e with
    | .stageStarted stage command _ =>
      s.console.status (stageStatus stage) (if dryRun then "(dry run) " ++ command else command)
    | .stageFinished stage code duration =>
      if s.console.isVerbose then
        s.console.note (stage.name ++ " step exited with " ++ toString code ++ " after " ++
          showDuration duration)
      else {}
    | .pipelineSkipped skip => s.console.status .skipped skip.message
    | .stageOutput .. | .pipelineFinished .. => {}

def renderEntry (s : Session) (dryRun : Bool) : Pipeline.Entry → Output
  | .event e => s.renderEvent dryRun e
  | .log l => s.log [l]
  | .call _ => {}

def inspectHint : String := "Inspect the build directory; it is left in place after a failure"

def doctorHint : String := "Run `psp-build doctor` to check the toolchain"

def renderFailure (s : Session) (e : Error) : Output :=
  if s.console.isJson then s.console.error e.message
  else
    let hint := match e with
      | .stageFailed _ _ output =>
        if output.code = StageOutput.launchFailureCode then doctorHint else inspectHint
      | _ => inspectHint
    .err ((e.toDiagnostic.withSuggestion hint).format s.console.useColor)

def elapsed (events : List Event) : Nat :=
  (events.findSome? fun
    | .pipelineFinished _ _ _ duration => some duration
    | _ => none).getD 0

def renderOutcome (s : Session) (r : Report) (duration : Nat) : Output :=
  match r.outcome with
  | .testRun output =>
    let captured : Output :=
      if s.console.isJson then {} else .out output.stdout ++ s.console.raw output.stderr
    captured ++
      if output.success then
        s.console.status .finished (r.buildDir.display ++ " in " ++ showDuration duration)
      else s.console.error ("test exited with code " ++ toString output.code)
  | .skipped _ =>
    s.console.status .finished (r.buildDir.display ++ " (skipped remaining stages)")
  | .failed e => s.renderFailure e

def run (s : Session) : Result :=
  let request := s.request (s.invocation.has "dry-run")
  let before := s.log (request.resolveLines s.machine.place)
  match request.resolve s.machine.place with
  | .error e => s.failed e before
  | .ok ctx =>
    let ended := Pipeline.run Machine.host request.dryRun ctx s.machine
    let shown := Output.join (ended.entries.map (s.renderEntry request.dryRun))
    let after := s.renderOutcome ended.report (elapsed ended.events)
    ⟨ended.report.exitCode, before ++ s.log [request.startLine ctx] ++ shown ++ after, ended.world⟩

def planText (p : Plan) : String :=
  let orNone (s : String) := if s = "" then "(none)" else s
  let line (name : String) (command : Option String) :=
    Text.padRight 9 name ++ " " ++ command.getD "(not run)" ++ "\n"
  "compiler:    " ++ p.compiler.name ++ " (" ++ p.toolchain.cc ++ " / " ++ p.toolchain.cxx ++
      ")\n" ++
    "variant:     " ++ p.variant.name ++ " (" ++ p.optimization.name ++ ")\n" ++
    "flags:       " ++ orNone p.flags ++ "\n" ++
    "definitions: " ++ orNone (" ".intercalate p.toolchain.definitions) ++ "\n" ++
    "build dir:   " ++ p.buildDir.display ++ "\n" ++
    (match p.skip with
      | some skip => "skip:        " ++ skip.message ++ "\n"
      | none => "") ++ "\n" ++
    line "generate:" p.generate ++ line "build:" p.build ++ line "test:" p.test

def resolve (s : Session) : Result :=
  let request := s.request true
  let before := s.log (request.resolveLines s.machine.place)
  match request.resolve s.machine.place with
  | .error e => s.failed e before
  | .ok ctx =>
    let plan := Plan.ofContext ctx
    if s.console.isJson then
      ⟨if plan.toJson?.isSome then 0 else 1, before ++ s.encoded plan.toJson?, s.machine⟩
    else ⟨0, before ++ .out (planText plan), s.machine⟩

def withSettings (s : Session) (next : Settings → Output → Result) : Result :=
  let before := s.log (Request.settingsLines s.machine.place s.projectRoot s.userConfig none)
  match Request.loadSettings s.machine.place s.projectRoot s.userConfig none with
  | .error e => s.failed e before
  | .ok settings => next settings before

def matrix (s : Session) : Result :=
  s.withSettings fun settings before ↦
    let before := before ++ s.log ((Matrix.contexts settings).map Context.resolvedLine)
    let rows := Matrix.rows settings
    if s.console.isJson then
      ⟨if rows.all fun r ↦ r.toJson?.isSome then 0 else 1,
        before ++ Output.join (rows.map fun r ↦ s.encoded r.toJson?), s.machine⟩
    else ⟨0, before ++ .out (Matrix.header ++ String.join (rows.map Matrix.Row.text)), s.machine⟩

def checkJson (c : Doctor.Check) : Json :=
  .obj [("message", .str c.message), ("name", .str c.name), ("passed", .bool c.passed),
    ("path", Json.ofOption .str (c.path.map Path.display)), ("reason", .str "check"),
    ("required", .bool c.required), ("version", Json.ofOption .str c.version)]

def parseGiven {α : Type} (parse : String → Except Error α) :
    Option String → Except Error (Option α)
  | none => .ok none
  | some s => (parse s).map some

def chosen (s : Session) : Except Error (Option Compiler × Option Variant) := do
  let compiler ← parseGiven Compiler.parse (s.selector .compiler)
  let variant ← parseGiven Variant.parse (s.selector .variant)
  return (compiler, variant)

def doctor (s : Session) : Result :=
  s.withSettings fun settings before ↦
    match s.chosen with
    | .error e => s.failed e before
    | .ok (compiler, variant) =>
      let (report, d) := Doctor.examine Machine.tools settings compiler variant s.machine
      let shown :=
        if s.console.isJson then
          Output.join (report.checks.map fun c ↦ s.console.event (checkJson c))
        else .out (report.format s.console.isVerbose)
      ⟨if report.allRequiredPassed then 0 else 1, before ++ shown, d.world⟩

end Session

/-- The filter of the environment, or else the one that fits the options. -/
def logFilter (bindings : List (String × String)) (i : Invocation) : Log.Filter :=
  let rank : Nat := if i.has "verbose" then 4 else if i.has "quiet" then 2 else 3
  ((bindings.lookup "RUST_LOG").bind Log.Filter.parse?).getD
    [{ target := some "psp_build".toList, rank := rank }]

def homeDirectory (t : Setting) : Option Path :=
  match t.machine.bindings.lookup "HOME" with
  | some home => if home = "" then t.accountHome else some (.ofString home)
  | none => t.accountHome

def session (t : Setting) (i : Invocation) : Session :=
  let cwd := t.machine.place.cwdPath
  { invocation := i
    console := i.console false
    filter := logFilter t.machine.bindings i
    projectRoot := match i.get? "manifest-dir" with
      | some dir => (Path.ofString dir).absolute cwd
      | none => cwd
    userConfig := (homeDirectory t).map Config.userPath
    machine := t.machine }

def homelessLine : Log.Line where
  level := .warn
  scope := "psp_build"
  message := "could not determine home directory; skipping global config"

def versionText : String := "psp-build 0.1.0\n"

/-- What the program answers; usage, help and completions are left to the caller to word. -/
inductive Answer where
  | usage
  | help
  | completions (shell log : String)
  | done (r : Result)
  deriving Inhabited

def perform (t : Setting) (i : Invocation) : Answer :=
  let s := session t i
  let before := if s.userConfig.isSome then {} else s.log [homelessLine]
  let after (r : Result) : Answer := .done { r with output := before ++ r.output }
  match i.subcommand with
  | .run => after s.run
  | .resolve => after s.resolve
  | .matrix => after s.matrix
  | .doctor => after s.doctor
  | .completions => .completions (i.words.headD "") before.stderr

def answer (t : Setting) : Answer :=
  match parse t.args with
  | .error .usage => .usage
  | .error .help => .help
  | .error .version => .done ⟨0, .out versionText, t.machine⟩
  | .ok i => perform t i

end BuildMatrix.CommandLine
