import BuildMatrix.Text.Utf8

namespace BuildMatrix

/-- A file path as the system sees it: any bytes, with `/` between the names. -/
structure Path where
  bytes : List UInt8
  deriving DecidableEq, Inhabited

namespace Path

def slash : UInt8 := 0x2F

def dot : UInt8 := 0x2E

def ofString (s : String) : Path := ⟨Text.Utf8.bytesOf s⟩

/-- The path as text, with U+FFFD where it is not UTF-8. -/
def display (p : Path) : String := Text.Utf8.textOf p.bytes

def text? (p : Path) : Option String := (Text.Utf8.decode? p.bytes).map String.ofList

/-- The bytes between the separators; one piece more than there are separators. -/
def cut : List UInt8 → List (List UInt8)
  | [] => [[]]
  | b :: r =>
    if b = slash then [] :: cut r
    else
      match cut r with
      | [] => [[b]]
      | s :: rest => (b :: s) :: rest

def pieces (p : Path) : List (List UInt8) := cut p.bytes

inductive Component where
  | root
  | here
  | up
  | name (bytes : List UInt8)
  deriving DecidableEq, Inhabited

namespace Component

/-- Nothing for an empty piece and for `.`, which do not change where a path leads. -/
def ofPiece (s : List UInt8) : Option Component :=
  if s = [] ∨ s = [dot] then none
  else if s = [dot, dot] then some up
  else some (name s)

def path : Component → Path
  | root => ⟨[slash]⟩
  | here => ⟨[dot]⟩
  | up => ⟨[dot, dot]⟩
  | name bytes => ⟨bytes⟩

end Component

def isAbsolute (p : Path) : Bool := p.bytes.head? == some slash

def components (p : Path) : List Component :=
  let start :=
    if p.isAbsolute then [Component.root]
    else if p.pieces.head? = some [dot] then [Component.here]
    else []
  start ++ p.pieces.filterMap Component.ofPiece

def same (p q : Path) : Bool := p.components == q.components

def join (p q : Path) : Path :=
  if q.isAbsolute then q
  else if p.bytes = [] ∨ p.bytes.getLast? = some slash then ⟨p.bytes ++ q.bytes⟩
  else ⟨p.bytes ++ slash :: q.bytes⟩

def extend (p : Path) (parts : List Component) : Path := parts.foldl (fun q c ↦ q.join c.path) p

/-- An absolute path for `p` seen from the directory `cwd`, without asking the file system: dots and
repeated separators go, `..` stays, a separator at the end stays, and so do exactly two at the
front. The empty path has none and stays empty. -/
def absolute (p cwd : Path) : Path :=
  if p.bytes = [] then p
  else
    let start :=
      if p.isAbsolute then
        if p.bytes.take 2 = [slash, slash] ∧ p.bytes.take 3 ≠ [slash, slash, slash] then
          ⟨[slash, slash]⟩
        else ⟨[slash]⟩
      else cwd
    let whole := start.extend (p.components.filter fun c ↦ c ≠ .root ∧ c ≠ .here)
    if p.bytes.getLast? = some slash then whole.join ⟨[]⟩ else whole

def quiet (s : List UInt8) : Bool := s = [] || s = [dot]

/-- The path without its last part; nothing for the root and the empty path. -/
def parent? (p : Path) : Option Path :=
  let fixed := if p.isAbsolute || p.pieces.head? == some [dot] then 1 else 0
  let front := p.pieces.take fixed
  let body := ((p.pieces.drop fixed).reverse.dropWhile quiet)
  match body with
  | _ :: rest =>
    let kept := front ++ (rest.dropWhile quiet).reverse
    let bytes := [slash].intercalate kept
    some ⟨if bytes = [] ∧ p.isAbsolute then [slash] else bytes⟩
  | [] => if front = [[dot]] then some ⟨[]⟩ else none

end Path

end BuildMatrix
