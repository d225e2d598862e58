import BuildMatrix.FileTree
import BuildMatrix.Script.Pattern

namespace BuildMatrix

namespace FileTree

def names (t : FileTree) (dir : Location) : List (List UInt8) :=
  t.entries.filterMap fun (l, _) ↦
    if l.length = dir.length + 1 ∧ dir.isPrefixOf l then l.getLast? else none

/-- What stands at a path; a link at its end is not followed. -/
def entry? (t : FileTree) (cwd : Location) (p : Path) : Except Refusal Node := do
  match p.pieces.getLast? with
  | some name =>
    if name = [] ∨ name = [Path.dot] ∨ name = [Path.dot, Path.dot] then t.node? cwd p
    else
      check p
      let dir ← t.walk linkLimit (if p.isAbsolute then [] else cwd) p.pieces.dropLast
      if t.get? dir ≠ some .directory then throw .notDirectory
      if nameLimit < name.length then throw .nameTooLong
      match t.get? (dir ++ [name]) with
      | some n => return n
      | none => throw .notFound
  | none => t.node? cwd p

end FileTree

namespace Script

/-- A pattern cut at its slashes; one with a backslash before it is a slash all the same. -/
def cutPattern : Letters → List Letters
  | [] => [[]]
  | '\\' :: '/' :: rest => [] :: cutPattern rest
  | '\\' :: c :: rest =>
    match cutPattern rest with
    | [] => [['\\', c]]
    | part :: parts => ('\\' :: c :: part) :: parts
  | c :: rest =>
    if c = '/' then [] :: cutPattern rest
    else
      match cutPattern rest with
      | [] => [[c]]
      | part :: parts => (c :: part) :: parts

/-- Whether a bracket is closed after at least one character. -/
def closesBracket : Letters → Bool
  | '\\' :: _ :: rest => closes rest
  | _ :: rest => closes rest
  | [] => false
where
  closes : Letters → Bool
    | [] => false
    | ']' :: _ => true
    | '\\' :: _ :: rest => closes rest
    | _ :: rest => closes rest

def isPattern : Letters → Bool
  | [] => false
  | '\\' :: _ :: rest => isPattern rest
  | '*' :: _ | '?' :: _ => true
  | '[' :: rest =>
    closesBracket (if rest.head? = some '!' then rest.drop 1 else rest) || isPattern rest
  | _ :: rest => isPattern rest

def unguarded : Letters → Letters
  | '\\' :: c :: rest => c :: unguarded rest
  | c :: rest => c :: unguarded rest
  | [] => []

def pathsFrom (t : FileTree) (cwd : Location) : Nat → Letters → List Letters → List Letters
  | 0, _, _ => []
  | fuel + 1, front, parts =>
    let plain := parts.takeWhile fun p ↦ !isPattern p
    match parts.drop plain.length with
    | [] =>
      let path := front ++ ['/'].intercalate (plain.map unguarded)
      if front = [] then []
      else if (t.entry? cwd (pathOf path)).isOk then [path]
      else []
    | part :: rest =>
      let front := front ++ (plain.map fun p ↦ unguarded p ++ ['/']).flatten
      let dir := if front = [] then ['.'] else front
      match t.resolve cwd (pathOf dir) with
      | .error _ => []
      | .ok l =>
        if t.get? l ≠ some .directory then []
        else
          let first := if part.head? = some '\\' then part[1]? else part.head?
          let names := (t.names l).map lettersOf
          let names :=
            if first = some '.' then ['.'] :: ['.', '.'] :: names
            else names.filter fun n ↦ n.head? ≠ some '.'
          let fitting := names.filter (matchesPattern part)
          if rest = [] then fitting.map fun n ↦ front ++ n
          else fitting.flatMap fun n ↦ pathsFrom t cwd fuel (front ++ n ++ ['/']) rest

def pathsOf (t : FileTree) (cwd : Location) (pattern : Letters) : List Letters :=
  (pathsFrom t cwd (pattern.length + 1) [] (cutPattern pattern)).mergeSort
    fun a b ↦ !before b a

end Script

end BuildMatrix
