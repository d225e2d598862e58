import BuildMatrix.Context
import BuildMatrix.Doctor.Report
import BuildMatrix.Text.Lines

namespace BuildMatrix.Doctor

structure Tools (σ : Type) where
  locate : Path → σ → Option Path
  execute : Command → σ → Except String StageOutput × σ

/-- A program to look for; only one that nobody configured is run for its version. -/
structure Probe where
  name : String
  program : Path
  readVersion : Bool
  required : Bool
  deriving DecidableEq, Inhabited

def configured (name : String) (program default : Path) (required : Bool) : Probe :=
  ⟨name, program, program.same default, required⟩

def compilerProbes (required : Bool) (c : Compiler) : List Probe :=
  [⟨c.name ++ " C compiler", .ofString c.toolchain.cc, true, required⟩,
    ⟨c.name ++ " C++ compiler", .ofString c.toolchain.cxx, true, required⟩]

/-- The programs that runs with the settings need. A compiler is required if it was chosen, and the
memory checker if the chosen variant needs it. -/
def probes (s : Settings) (compiler : Option Compiler) (variant : Option Variant) : List Probe :=
  [configured "Generator" s.generatorProgram Settings.defaultGeneratorProgram true,
    configured "Build Tool" s.buildTool Settings.defaultBuildTool true] ++
  (match compiler with
    | some c => compilerProbes true c
    | none => Compiler.all.flatMap (compilerProbes false)) ++
  [configured "Memcheck Harness" s.harness Settings.defaultHarness
    (variant.any Variant.needsMemcheck)]

/-- The first line with something on it of what a program says of its version. -/
def versionIn (output : StageOutput) : Option String :=
  let text := if output.stdout = "" then output.stderr else output.stdout
  let lines := (Text.lines text.toList).map Text.trim
  (lines.find? (· ≠ [])).map String.ofList

def versionCommand (program : Path) : Command :=
  (Command.ofProgram program).withArgs ["--version"]

variable {σ : Type} (tools : Tools σ)

structure Progress (σ : Type) where
  checks : List Check
  calls : List Command
  world : σ

def missing (p : Probe) : Check where
  name := p.name
  passed := false
  message := "`" ++ p.program.display ++ "` not found"
  required := p.required

def present (p : Probe) (path : Path) (version : Option String) : Check where
  name := p.name
  passed := true
  message := "Found " ++ p.program.display
  path := some path
  version := version
  required := p.required

def inspect (d : Progress σ) (p : Probe) : Progress σ :=
  match tools.locate p.program d.world with
  | none => { d with checks := d.checks ++ [missing p] }
  | some path =>
    if p.readVersion then
      let command := versionCommand path
      let (answer, world) := tools.execute command d.world
      let version := answer.toOption.bind versionIn
      ⟨d.checks ++ [present p path version], d.calls ++ [command], world⟩
    else { d with checks := d.checks ++ [present p path none] }

def environment (s : Settings) : List (String × String) :=
  [("arch", "x86_64"), ("build_root", s.buildRoot.display), ("os", "linux")]

def examine (s : Settings) (compiler : Option Compiler) (variant : Option Variant) (world : σ) :
    Report × Progress σ :=
  let d := (probes s compiler variant).foldl (inspect tools) ⟨[], [], world⟩
  (⟨environment s, d.checks⟩, d)

end BuildMatrix.Doctor
