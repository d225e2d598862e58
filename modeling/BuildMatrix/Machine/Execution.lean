import BuildMatrix.Command
import BuildMatrix.Doctor
import BuildMatrix.Machine
import BuildMatrix.Pipeline
import BuildMatrix.Script.Process

namespace BuildMatrix.Machine

open Script (Ending)

abbrev Found := List (List UInt8)

/-- Tries paths in their order. One that cannot be run is passed over; that somebody denied it is
the better reason in the end. -/
def search (m : Machine) (args : List (List UInt8)) :
    List Path → Bool → FileTree.Refusal → Except FileTree.Refusal Found
  | [], isDenied, reason => .error (if isDenied then .denied else reason)
  | path :: rest, isDenied, reason =>
    match Script.Program.words m.tree m.cwd Script.Program.depthLimit path args with
    | .ok found => .ok found
    | .error .denied => search m args rest true reason
    | .error .notFound => search m args rest isDenied .notFound
    | .error .notDirectory => search m args rest isDenied .notDirectory
    | .error e => .error e

def find (m : Machine) (name : Path) (args : List (List UInt8)) :
    Except FileTree.Refusal Found :=
  let words := name.bytes :: args
  if name.bytes = [] then .error .notFound
  else if name.bytes.contains Path.slash then
    Script.Program.words m.tree m.cwd Script.Program.depthLimit name words
  else if FileTree.nameLimit < name.bytes.length then .error .nameTooLong
  else m.search words (m.programPaths name) false .notFound

def environment (m : Machine) : List (Script.Letters × Script.Letters) :=
  m.bindings.map fun (name, value) ↦
    (Script.lettersOfString name, Script.lettersOfString value)

def hasZero (bytes : List UInt8) : Bool := bytes.contains 0

def start (c : Command) (m : Machine) : Except FileTree.Refusal Script.Left := do
  let args := c.args.map Text.Utf8.bytesOf
  if hasZero c.program.bytes || args.any hasZero || c.cwd.any fun p ↦ hasZero p.bytes then
    throw .zeroByteGiven
  let cwd ← match c.cwd with
    | none => .ok m.cwd
    | some p => m.tree.resolve m.cwd p
  if m.tree.get? cwd ≠ some .directory then throw .notDirectory
  let words ← { m with cwd := cwd }.find c.program args
  return Script.runProgram m.tree cwd m.environment words

def reported : Ending → WaitStatus
  | .code n => .exited n
  | .signal n => .killed n

def execute (c : Command) (m : Machine) : Except String StageOutput × Machine :=
  match start c m with
  | .ok left =>
    (.ok ⟨(reported left.ending).exitCode, Text.Utf8.textOf left.output,
      Text.Utf8.textOf left.complaints⟩, { m with tree := left.tree })
  | .error r => (.error ("failed to spawn `" ++ c.program.display ++ "`: " ++ r.message), m)

def makeDirectory (p : Path) (m : Machine) : Except String Path × Machine :=
  match m.tree.ensureDirectory m.cwd p with
  | (.ok q, tree) => (.ok q, { m with tree := tree })
  | (.error r, tree) => (.error r.message, { m with tree := tree })

def ensureDirectory (p : Path) (m : Machine) : Except Error Path × Machine :=
  let (made, m) := makeDirectory p m
  (made.mapError (.io p), m)

/-- A machine runs the programs of a pipeline; its clock stands still. -/
def host : Pipeline.Host Machine where
  ensureDirectory := makeDirectory
  execute := execute
  clock := fun _ ↦ 0

def tools : Doctor.Tools Machine where
  locate := fun p m ↦ m.locate p
  execute := execute

end BuildMatrix.Machine
