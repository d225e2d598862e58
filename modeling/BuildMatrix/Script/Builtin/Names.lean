import BuildMatrix.Script.Lookup
import BuildMatrix.Script.Options

namespace BuildMatrix.Script

def showAlias (name value : Letters) : Letters := name ++ '=' :: quoted value

def mutter (s : Letters) : Act Unit := discard <| write 2 (s ++ ['\n'])

def notFound (what : String) (name : Letters) : Act Unit :=
  mutter (what.toList ++ ": ".toList ++ name ++ " not found".toList)

def setAlias (name value : Letters) : Act Unit :=
  modify fun sh ↦
    { sh with
      aliases :=
        if sh.aliases.any fun e ↦ e.1 = name then
          sh.aliases.map fun e ↦ if e.1 = name then (name, value) else e
        else sh.aliases ++ [(name, value)] }

/-- Sets aliases and shows them. An equals sign in the first place belongs to a name. -/
def runAlias (args : List Letters) : Act Nat := do
  if args = [] then
    for (name, value) in inRows 39 (← get).aliases do sayLine (showAlias name value)
    return 0
  let mut status := 0
  for arg in args do
    let tail := (arg.drop 1).dropWhile (· ≠ '=')
    match tail with
    | _ :: value => setAlias (arg.take (arg.length - tail.length)) value
    | [] =>
      match (← get).aliases.lookup arg with
      | some value => sayLine (showAlias arg value)
      | none =>
        notFound "alias" arg
        status := 1
  return status

def runUnalias (args : List Letters) : Act Nat := do
  let (given, args) ← options (plainly "a") args
  if given ≠ [] then
    modify fun sh ↦ { sh with aliases := [] }
    return 0
  let mut status := 0
  for arg in args do
    if (← get).aliases.any fun e ↦ e.1 = arg then
      modify fun sh ↦ { sh with aliases := sh.aliases.filter fun e ↦ e.1 ≠ arg }
    else
      notFound "unalias" arg
      status := 1
  return status

def pathAt (path name : Letters) (place : Option Nat) : Letters :=
  match place with
  | none => name
  | some i => ((candidates path name)[i]?).getD name

def describe (path : Option Letters) (inWords : Bool) (name : Letters) : Act Nat := do
  let sh ← get
  let own ← pathText "PATH"
  let search : Search := { path := path.getD own, own := path.isNone, checksPaths := true }
  let answer (words : Letters) (command : Letters) : Act Nat := do
    sayLine (if inWords then name ++ words else command)
    return 0
  if (Keyword.table.lookup name).isSome then
    return ← answer " is a shell keyword".toList name
  match sh.aliases.lookup name with
  | some value =>
    return ← answer (" is an alias for ".toList ++ value) ("alias ".toList ++ showAlias name value)
  | none => pure ()
  let isTracked := path.isNone && (sh.tracked.lookup name).isSome
  match ← search.find name with
  | .program place =>
    let shown := pathAt search.path name place
    answer ((if isTracked then " is a tracked alias for " else " is ").toList ++ shown) shown
  | .function _ => answer " is a shell function".toList name
  | .builtin b =>
    answer ((if b.isSpecial then " is a special shell builtin" else " is a shell builtin").toList)
      name
  | .unknown =>
    if inWords then sayLine (name ++ ": not found".toList)
    return 127

def runType (args : List Letters) : Act Nat := do
  let mut status := 0
  for arg in ← operands args do status := status ||| (← describe none true arg)
  return status

/-- What is left for `command` when it runs nothing: it says what a name stands for. -/
def runCommand (args : List Letters) : Act Nat := do
  let (given, args) ← options (plainly "pvV") args
  let path := if given.any fun g ↦ g.1 = 'p' then some Search.standardPath else none
  let inWords := given.any fun g ↦ g.1 = 'V'
  match args with
  | name :: _ =>
    if inWords || given.any fun g ↦ g.1 = 'v' then describe path inWords name else return 0
  | [] => return 0

def runHash (args : List Letters) : Act Nat := do
  let (given, args) ← options (plainly "r") args
  let sh ← get
  if given ≠ [] then
    set { sh with tracked := [] }
    return 0
  if args = [] then
    let path ← pathText "PATH"
    for (name, t) in inRows 31 sh.tracked do
      sayLine (pathAt path name (some t.place) ++ if t.stale then ['*'] else [])
    return 0
  let mut status := 0
  for arg in args do
    Search.untrack arg
    let search ← ownSearch
    match ← Search.find { search with complains := true } arg with
    | .unknown => status := 1
    | _ => pure ()
  return status

end BuildMatrix.Script
