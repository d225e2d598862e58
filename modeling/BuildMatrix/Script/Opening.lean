import BuildMatrix.Script.Device
import BuildMatrix.Script.Expansion
import BuildMatrix.Script.Glob

namespace BuildMatrix

namespace FileTree

/-- Where a new file is made for a path that leads nowhere. A link at its end is followed. With a
separator at its end the path could only be that of a directory. -/
def newPlace (t : FileTree) : Nat → Location → Path → Except Refusal Location
  | 0, _, _ => .error .tooManyLinks
  | links + 1, cwd, p => do
    check p
    let names := (p.pieces.reverse.dropWhile (· = [])).reverse
    let name := names.getLast?.getD []
    let dir ← t.walk linkLimit (if p.isAbsolute then [] else cwd) names.dropLast
    if t.get? dir ≠ some .directory then throw .notDirectory
    if names.length < p.pieces.length then throw .isDirectory
    if nameLimit < name.length then throw .nameTooLong
    match t.get? (dir ++ [name]) with
    | some (.link target) => t.newPlace links dir target
    | _ => return dir ++ [name]

end FileTree

namespace Script

def Refusal.isMissing (r : FileTree.Refusal) : Bool := r = .notFound || r = .notDirectory

def readReason (r : FileTree.Refusal) : Letters :=
  if Refusal.isMissing r then "No such file".toList else r.reason.toList

def createReason (r : FileTree.Refusal) : Letters :=
  if Refusal.isMissing r then "Directory nonexistent".toList else r.reason.toList

def openAt (l : Location) (mode : OpenMode) : Act (Except FileTree.Refusal Nat) := do
  let sh ← get
  match Device.ofLocation? l with
  | some .null => return .ok (← newChannel .nothing)
  | some .full => return .ok (← newChannel .full)
  | some .terminal => return .error .noDevice
  | some (.descriptor fd) =>
    match sh.descriptors.lookup fd with
    | some n => return .ok n
    | none => return .error .notFound
  | none =>
    match sh.world.tree.get? l, mode with
    | some (.file _ _), .read => return .ok (← newChannel (.file l 0 true false false))
    | _, .read => return .ok (← newChannel .nothing)
    | some (.file _ _), .readWrite => return .ok (← newChannel (.file l 0 true true false))
    | some (.file _ _), .append => return .ok (← newChannel (.file l 0 false true true))
    | some (.file _ executable), .create _ =>
      let tree := sh.world.tree.put l (.file [] executable)
      set { sh with world := { sh.world with tree := tree } }
      return .ok (← newChannel (.file l 0 false true false))
    | _, _ => return .error .isDirectory

def openNew (name : Letters) (mode : OpenMode) : Act (Except FileTree.Refusal Nat) := do
  let sh ← get
  match sh.world.tree.newPlace FileTree.linkLimit sh.cwd (pathOf name) with
  | .error r => return .error r
  | .ok l =>
    let tree := sh.world.tree.put l (.file [] false)
    set { sh with world := { sh.world with tree := tree } }
    return .ok (← newChannel (.file l 0 (mode = .readWrite) true (mode = .append)))

def isProtected (l : Location) : Act Bool := do
  let sh ← get
  if (Device.ofLocation? l).isSome || !sh.has .noclobber then return false
  match sh.world.tree.get? l with
  | some (.file _ _) => return true
  | _ => return false

def openFile (name : Letters) (mode : OpenMode) : Act Nat := do
  let sh ← get
  let found := sh.world.tree.resolve sh.cwd (pathOf name)
  let result ← match found with
    | .ok l =>
      if mode = .create false && (← isProtected l) then pure (.error .occupied)
      else openAt l mode
    | .error .notFound | .error .notDirectory =>
      let isLink := (sh.world.tree.entry? sh.cwd (pathOf name)).isOk
      if mode = .read then pure (.error .notFound)
      else if mode = .create false && isLink && sh.has .noclobber then pure (.error .occupied)
      else openNew name mode
    | .error r => pure (.error r)
  match result with
  | .ok n => return n
  | .error r =>
    let isOpened := mode = .create false && sh.has .noclobber && r ≠ .occupied && found.isOk
    if mode = .read || isOpened then
      fail ("cannot open ".toList ++ name ++ ": ".toList ++ readReason r)
    else fail ("cannot create ".toList ++ name ++ ": ".toList ++ createReason r)

inductive Change where
  | file (fd : Nat) (mode : OpenMode) (name : Letters)
  | copy (fd : Nat) (source : Option Nat)
  | document (fd number : Nat)
  deriving Inhabited

def expandFields (substitute : Substitute) (word : List Piece) : Act (List Letters) := do
  let x ← expand substitute .word word
  let fields := splitFields (← separators) none x
  let sh ← get
  return fields.flatMap fun f ↦
    let paths := if sh.has .noglob then [] else
      pathsOf sh.world.tree sh.cwd (Glyph.pattern f)
    if paths.isEmpty then [Glyph.text f] else paths

def failSyntax {α : Type} (message : String) : Act α := do
  modify fun sh ↦ { sh with line := sh.lineRead }
  fail ("Syntax error: ".toList ++ message.toList)

def Change.expand (substitute : Substitute) : Redirection → Act Change
  | .file fd mode name => return .file fd mode (← expandText substitute .single name)
  | .copy fd _ source => do
    match ← expandFields substitute source with
    | [] => failString "redir error"
    | ['-'] :: _ => return .copy fd none
    | [c] :: _ => if c.isDigit then return .copy fd (some (digitValue c)) else bad
    | _ => bad
  | .document fd number => return .document fd number
where
  bad : Act Change := failSyntax "Bad fd number"

def Change.descriptor : Change → Nat
  | file fd _ _ | copy fd _ | document fd _ => fd

/-- Keeps the channel of a descriptor among the redirections at work. -/
def saveDescriptor (fd : Nat) : Act Unit :=
  modify fun sh ↦
    match sh.redirected with
    | frame :: rest =>
      if frame.any fun e ↦ e.1 = fd then sh
      else { sh with redirected := ((fd, sh.descriptors.lookup fd) :: frame) :: rest }
    | [] => sh

def isSaved (fd : Nat) : Act Bool := do
  return (← get).redirected.head?.any fun frame ↦ frame.any fun e ↦ e.1 = fd

/-- Carries out a change; one that is undone later is saved first. -/
def Change.apply (substitute : Substitute) (saved : Bool) (c : Change) : Act Unit := do
  let put (fd : Nat) (channel : Option Nat) : Act Unit := do
    if saved then saveDescriptor fd
    attach fd channel
  match c with
  | .file fd mode name => put fd (some (← openFile name mode))
  | .copy fd none => put fd none
  | .copy fd (some source) =>
    if fd = source then return
    match (← get).descriptors.lookup source with
    | some n => put fd (some n)
    | none =>
      if saved && !(← isSaved fd) then put fd none
      fail (showNat source ++ ": Bad file descriptor".toList)
  | .document fd number =>
    let text ← match (← get).world.documents[number]? with
      | some d =>
        if d.expanded then expandText substitute .document d.pieces else pure (bare d.pieces)
      | none => pure []
    put fd (some (← newChannel (.source text)))

end Script

end BuildMatrix
