import BuildMatrix.FileTree

namespace BuildMatrix.Script

/-- Files that are no files: one that keeps nothing, one that has no room, the terminal, which
nobody has here, and those that stand for descriptors. -/
inductive Device where
  | null
  | full
  | terminal
  | descriptor (fd : Nat)
  deriving DecidableEq, Inhabited

namespace Device

def locationOf (names : List String) : Location := ("dev" :: names).map Text.Utf8.bytesOf

def table : List (Location × Device) :=
  [(locationOf ["null"], null), (locationOf ["full"], full), (locationOf ["tty"], terminal),
    (locationOf ["stdin"], descriptor 0), (locationOf ["stdout"], descriptor 1),
    (locationOf ["stderr"], descriptor 2)] ++
  (List.range 10).map fun fd ↦ (locationOf ["fd", toString fd], descriptor fd)

def ofLocation? (l : Location) : Option Device := table.lookup l

def isCharacter : Device → Bool
  | descriptor _ => false
  | _ => true

def entries : List (Location × Node) :=
  [(locationOf [], .directory), (locationOf ["fd"], .directory)] ++
    table.map fun e ↦ (e.1, .file [] false)

end Device

end BuildMatrix.Script
