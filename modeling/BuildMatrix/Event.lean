import BuildMatrix.Context

namespace BuildMatrix

inductive State where
  | created
  | directoryReady
  | generated
  | built
  | testSelected
  | testRun
  | skipped
  | failed
  deriving DecidableEq, Inhabited

namespace State

def isTerminal : State → Bool
  | testRun | skipped | failed => true
  | _ => false

def name : State → String
  | created => "created"
  | directoryReady => "directory-ready"
  | generated => "generated"
  | built => "built"
  | testSelected => "test-selected"
  | testRun => "test-run"
  | skipped => "skipped"
  | failed => "failed"

def label : State → String
  | created => "Created"
  | directoryReady => "DirectoryReady"
  | generated => "Generated"
  | built => "Built"
  | testSelected => "TestSelected"
  | testRun => "TestRun"
  | skipped => "Skipped"
  | failed => "Failed"

end State

/-- What a run tells as it goes; durations are in milliseconds. -/
inductive Event where
  | stageStarted (stage : Stage) (command : String) (cwd : Option Path)
  | stageFinished (stage : Stage) (code : Int) (duration : Nat)
  | stageOutput (stage : Stage) (command : String) (output : StageOutput)
  | pipelineSkipped (skip : SkipReason)
  | pipelineFinished (state : State) (success : Bool) (code : Int) (duration : Nat)
  deriving DecidableEq, Inhabited

namespace Event

def stageFields (command : String) (cwd : Json) (stage : Stage) : Json :=
  .obj [("command", .str command), ("cwd", cwd), ("reason", .str "stage-started"),
    ("stage", .str stage.name)]

/-- An event as an object that names its kind as the reason, with its keys in order. A directory
that is not UTF-8 leaves nothing to encode. -/
def toJson : Event → Json
  | stageStarted stage command none => stageFields command .null stage
  | stageStarted stage command (some cwd) =>
    match cwd.text? with
    | some s => stageFields command (.str s) stage
    | none => .null
  | stageFinished stage code duration =>
    .obj [("duration_ms", .int duration), ("exit_code", .int code),
      ("reason", .str "stage-finished"), ("stage", .str stage.name)]
  | stageOutput stage command output =>
    .obj [("command", .str command), ("exit_code", .int output.code),
      ("reason", .str "stage-output"), ("stage", .str stage.name),
      ("stderr", .str output.stderr), ("stdout", .str output.stdout)]
  | pipelineSkipped skip =>
    .obj [("reason", .str "pipeline-skipped"), ("skip", skip.toJson)]
  | pipelineFinished state success code duration =>
    .obj [("duration_ms", .int duration), ("exit_code", .int code),
      ("reason", .str "pipeline-finished"), ("state", .str state.name),
      ("success", .bool success)]

end Event

end BuildMatrix
