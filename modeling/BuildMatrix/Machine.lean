import BuildMatrix.Config.Layers
import BuildMatrix.Stage

namespace BuildMatrix

structure Machine where
  tree : FileTree
  cwd : Location
  bindings : List (String × String)
  deriving DecidableEq, Inhabited

namespace Machine

def place (m : Machine) : Place := ⟨m.tree, m.cwd⟩

def colon : UInt8 := 0x3A

def cutAtColons : List UInt8 → List (List UInt8)
  | [] => [[]]
  | b :: r =>
    if b = colon then [] :: cutAtColons r
    else
      match cutAtColons r with
      | [] => [[b]]
      | s :: rest => (b :: s) :: rest

def cutPath (s : String) : List (List UInt8) := cutAtColons (Text.Utf8.bytesOf s)

def defaultPath : String := "/bin:/usr/bin"

/-- The paths that a name of a program may stand for: itself if it holds a separator, and else one
in each directory of the search. -/
def programPaths (m : Machine) (name : Path) : List Path :=
  if name.bytes.contains Path.slash then [name]
  else (cutPath ((m.bindings.lookup "PATH").getD defaultPath)).map fun dir ↦
    if dir = [] then name else ⟨dir ++ Path.slash :: name.bytes⟩

def isProgram (m : Machine) (p : Path) : Bool :=
  match m.tree.node? m.cwd p with
  | .ok (.file _ true) => true
  | _ => false

/-- A directory of the search in which a tilde stands for the home directory. -/
def expandHome (m : Machine) (dir : Path) : Path :=
  match dir.components with
  | .name tilde :: rest =>
    if tilde = [0x7E] then
      match m.bindings.lookup "HOME" with
      | some home => (Path.ofString home).extend rest
      | none => dir
    else dir
  | _ => dir

/-- Looks a program up without running it: a path with several parts as seen from here, and else
each directory of the search. The answer is absolute and keeps `..` as it was given. -/
def locate (m : Machine) (name : Path) : Option Path :=
  let fromHere (p : Path) : Path :=
    if p.isAbsolute then p
    else (FileTree.pathOf m.cwd).extend (p.components.filter (· ≠ .here))
  if name.bytes = [] then none
  else if 1 < name.components.length then
    let p := fromHere name
    if m.isProgram p then some p else none
  else
    match m.bindings.lookup "PATH" with
    | none => none
    | some dirs =>
      let candidates := (cutPath dirs).map fun dir ↦ (m.expandHome ⟨dir⟩).join name
      (candidates.find? m.isProgram).map fromHere

end Machine

end BuildMatrix
