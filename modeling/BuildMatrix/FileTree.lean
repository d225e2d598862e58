import BuildMatrix.Path
import BuildMatrix.FileTree.Error

namespace BuildMatrix

/-- The names on the way from the root, without links, `.` and `..`. -/
abbrev Location := List (List UInt8)

inductive Node where
  | directory
  | file (content : List UInt8) (executable : Bool)
  | link (target : Path)
  deriving DecidableEq, Inhabited

structure FileTree where
  entries : List (Location × Node)
  deriving DecidableEq, Inhabited

namespace FileTree

def get? (t : FileTree) (l : Location) : Option Node :=
  if l = [] then some .directory else t.entries.lookup l

def put (t : FileTree) (l : Location) (n : Node) : FileTree :=
  ⟨t.entries.filter (fun e ↦ e.1 ≠ l) ++ [(l, n)]⟩

def nameLimit : Nat := 255

/-- A path of this length is refused. -/
def pathLimit : Nat := 4096

def linkLimit : Nat := 40

/-- Follows names from a directory, and links as far as allowed. An empty name stays where it is,
but only in a directory, as `.` and `..` do. -/
def walk (t : FileTree) (links : Nat) (dir : Location) (names : List (List UInt8)) :
    Except Refusal Location :=
  match names with
  | [] => .ok dir
  | name :: rest =>
    match t.get? dir with
    | some .directory =>
      if name = [] ∨ name = [Path.dot] then t.walk links dir rest
      else if name = [Path.dot, Path.dot] then t.walk links dir.dropLast rest
      else if nameLimit < name.length then .error .nameTooLong
      else
        match t.get? (dir ++ [name]) with
        | none => .error .notFound
        | some (.link target) =>
          match links with
          | 0 => .error .tooManyLinks
          | links + 1 =>
            t.walk links (if target.isAbsolute then [] else dir) (target.pieces ++ rest)
        | some _ => t.walk links (dir ++ [name]) rest
    | some _ => .error .notDirectory
    | none => .error .notFound
termination_by (links, names.length)

def check (p : Path) : Except Refusal Unit :=
  if p.bytes.contains 0 then .error .zeroByte
  else if p.bytes = [] then .error .notFound
  else if pathLimit ≤ p.bytes.length then .error .nameTooLong
  else .ok ()

def resolve (t : FileTree) (cwd : Location) (p : Path) : Except Refusal Location := do
  check p
  t.walk linkLimit (if p.isAbsolute then [] else cwd) p.pieces

def node? (t : FileTree) (cwd : Location) (p : Path) : Except Refusal Node := do
  match t.get? (← t.resolve cwd p) with
  | some n => return n
  | none => throw .notFound

def exists? (t : FileTree) (cwd : Location) (p : Path) : Bool := (t.node? cwd p).isOk

def isDirectory (t : FileTree) (cwd : Location) (p : Path) : Bool :=
  match t.node? cwd p with
  | .ok .directory => true
  | _ => false

def pathOf (l : Location) : Path :=
  ⟨if l = [] then [Path.slash] else l.flatMap fun name ↦ Path.slash :: name⟩

/-- The path without links and dots, or the path itself where it leads nowhere. -/
def canonical (t : FileTree) (cwd : Location) (p : Path) : Path :=
  match t.resolve cwd p with
  | .ok l => pathOf l
  | .error _ => p

def read (t : FileTree) (cwd : Location) (p : Path) : Except Refusal (List UInt8) := do
  match ← t.node? cwd p with
  | .file content _ => return content
  | _ => throw .isDirectory

def readText (t : FileTree) (cwd : Location) (p : Path) : Except Refusal String := do
  match Text.Utf8.decode? (← t.read cwd p) with
  | some s => return String.ofList s
  | none => throw .notText

/-- The place of a new entry: an existing directory and a name in it. A path that ends in `.` or
`..`, or that is the root, has no such name. -/
def place (t : FileTree) (cwd : Location) (p : Path) : Except Refusal (Location × List UInt8) := do
  check p
  match p.pieces.reverse.dropWhile (· = []) with
  | [] => throw .occupied
  | name :: front =>
    let dir ← t.walk linkLimit (if p.isAbsolute then [] else cwd) front.reverse
    if t.get? dir ≠ some .directory then throw .notDirectory
    if name = [Path.dot] ∨ name = [Path.dot, Path.dot] then throw .occupied
    if nameLimit < name.length then throw .nameTooLong
    return (dir, name)

def add (t : FileTree) (cwd : Location) (p : Path) (n : Node) : Except Refusal FileTree := do
  let (dir, name) ← t.place cwd p
  match t.get? (dir ++ [name]) with
  | some _ => throw .occupied
  | none => return t.put (dir ++ [name]) n

def makeDirectory (t : FileTree) (cwd : Location) (p : Path) : Except Refusal FileTree :=
  t.add cwd p .directory

def lineage : Nat → Path → List Path
  | 0, p => [p]
  | fuel + 1, p =>
    match p.parent? with
    | none => [p]
    | some q => p :: lineage fuel q

/-- Makes the first directory of a lineage and those of its ancestors that it needs. The tree holds
what was made even if the last step is refused. -/
def makeLineage (t : FileTree) (cwd : Location) : List Path → Except Refusal Unit × FileTree
  | [] => (.error .noAncestor, t)
  | p :: ancestors =>
    if p.bytes = [] then (.ok (), t)
    else
      match t.makeDirectory cwd p with
      | .ok t => (.ok (), t)
      | .error .notFound =>
        match t.makeLineage cwd ancestors with
        | (.error e, t) => (.error e, t)
        | (.ok (), t) =>
          match t.makeDirectory cwd p with
          | .ok t => (.ok (), t)
          | .error e => (if t.isDirectory cwd p then .ok () else .error e, t)
      | .error e => (if t.isDirectory cwd p then .ok () else .error e, t)

def ensureDirectory (t : FileTree) (cwd : Location) (p : Path) : Except Refusal Path × FileTree :=
  if t.isDirectory cwd p then (.ok (t.canonical cwd p), t)
  else
    match t.makeLineage cwd (lineage p.bytes.length p) with
    | (.ok (), t) => (.ok (t.canonical cwd p), t)
    | (.error e, t) => (.error e, t)

def write (t : FileTree) (cwd : Location) (p : Path) (content : List UInt8 → List UInt8) :
    Except Refusal FileTree := do
  match t.resolve cwd p with
  | .ok l =>
    match t.get? l with
    | some (.file old executable) => return t.put l (.file (content old) executable)
    | _ => throw .isDirectory
  | .error .notFound => t.add cwd p (.file (content []) false)
  | .error e => throw e

def below (l : Location) (e : Location × Node) : Option (List UInt8) :=
  if l.isPrefixOf e.1 && l.length < e.1.length then
    let names := [Path.slash].intercalate (e.1.drop l.length)
    some (if e.2 = .directory then names ++ [Path.slash] else names)
  else none

/-- The paths below a directory as seen from it, those of directories with a separator at the end,
in the order of their bytes. -/
def listing (t : FileTree) (l : Location) : List Path :=
  ((t.entries.filterMap (below l)).mergeSort fun a b ↦ a ≤ b).map Path.mk

end FileTree

end BuildMatrix
