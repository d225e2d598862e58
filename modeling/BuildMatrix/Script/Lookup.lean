import BuildMatrix.Script.Builtin
import BuildMatrix.Script.Opening

namespace BuildMatrix.Script

/-- What a name stands for as a command: a program is at a place in the search, or at no place if
its name is a path. -/
inductive Meaning where
  | builtin (b : Builtin)
  | function (body : Tree)
  | program (place : Option Nat)
  | unknown

/-- A search for commands: the directories, whether they are those of the script, whether functions
count, whether a path has to lead somewhere, and whether a failure is reported. -/
structure Search where
  path : Letters
  own : Bool := true
  functions : Bool := true
  checksPaths : Bool := false
  complains : Bool := false

namespace Search

def standardPath : Letters :=
  "/usr/local/sbin:/usr/local/bin:/usr/sbin:/usr/bin:/sbin:/bin".toList

def firstProgram (tree : FileTree) (cwd : Location) :
    List (Letters × Nat) → FileTree.Refusal → Except FileTree.Refusal Nat
  | [], reason => .error reason
  | (path, i) :: rest, reason =>
    match tree.node? cwd (pathOf path) with
    | .ok (.file _ true) => .ok i
    | .ok _ => firstProgram tree cwd rest .denied
    | .error r => firstProgram tree cwd rest (if Refusal.isMissing r then reason else r)

def shownReason (r : FileTree.Refusal) : Letters :=
  if Refusal.isMissing r then "not found".toList else r.reason.toList

def track (name : Letters) (place : Nat) : Act Unit :=
  modify fun sh ↦
    { sh with
      tracked :=
        if sh.tracked.any fun e ↦ e.1 = name then
          sh.tracked.map fun e ↦ if e.1 = name then (name, ⟨place, false⟩) else e
        else sh.tracked ++ [(name, ⟨place, false⟩)] }

def untrack (name : Letters) : Act Unit :=
  modify fun sh ↦ { sh with tracked := sh.tracked.filter fun e ↦ e.1 ≠ name }

def findFile (s : Search) (name : Letters) : Act Meaning := do
  let sh ← get
  match firstProgram sh.world.tree sh.cwd (candidates s.path name).zipIdx .notFound with
  | .ok place =>
    if s.own then track name place
    return .program (some place)
  | .error r =>
    if s.own then untrack name
    if s.complains then warn (name ++ ": ".toList ++ shownReason r)
    return .unknown

def find (s : Search) (name : Letters) : Act Meaning := do
  let sh ← get
  if name.contains '/' then
    if s.checksPaths && !sh.world.tree.exists? sh.cwd (pathOf name) then return .unknown
    return .program none
  match if s.functions then sh.functions.lookup name else none with
  | some body => return .function body
  | none =>
    match Builtin.ofName? name with
    | some b => return .builtin b
    | none =>
      match if s.own then sh.tracked.lookup name else none with
      | some ⟨place, false⟩ => return .program (some place)
      | _ => s.findFile name

end Search

def ownSearch : Act Search := return { path := ← pathText "PATH" }

/-- Where names stand in a table of a number of rows, into which they are sorted by their
characters. -/
def tableRow (rows : Nat) (name : Letters) : Nat :=
  (name.foldl (fun n c ↦ n + c.toNat) (16 * (name.head?.elim 0 Char.toNat))) % 32768 % rows

def inRows {α : Type} (rows : Nat) (entries : List (Letters × α)) : List (Letters × α) :=
  (List.range rows).flatMap fun row ↦ entries.filter fun e ↦ tableRow rows e.1 = row

end BuildMatrix.Script
