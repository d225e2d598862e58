import BuildMatrix.Script.Expansion
import BuildMatrix.Script.Settings

namespace BuildMatrix.Script

def showVariables (front : Letters) (keep : Variable → Bool) : Act Unit := do
  for (name, v) in (← get).bindings.sorted do
    if keep v then
      let value := match v.value with
        | some s => '=' :: quoted s
        | none => []
      sayLine (front ++ name ++ value)

def markVariables (what : String) (isMarked : Variable → Bool) (exported readOnly : Bool)
    (args : List Letters) : Act Nat := do
  let (given, args) ← options (plainly "p") args
  if given ≠ [] || args = [] then
    showVariables (what.toList ++ [' ']) isMarked
    return 0
  for arg in args do
    let (name, value) := assignment arg
    let sh ← get
    match sh.bindings.lookup arg with
    | some v =>
      let v : Variable :=
        { v with exported := exported || v.exported, readOnly := readOnly || v.readOnly }
      set { sh with bindings := sh.bindings.put arg v }
    | none =>
      checkName name
      putVariable name (if arg.contains '=' then some value else none) exported readOnly
  return 0

def runExport (args : List Letters) : Act Nat :=
  markVariables "export" (·.exported) true false args

def runReadonly (args : List Letters) : Act Nat :=
  markVariables "readonly" (·.readOnly) false true args

def keepLocal (arg : Letters) (exported : Bool) : Act Unit := do
  let (name, value) := assignment arg
  let sh ← get
  if !arg.contains '=' && (sh.bindings.lookup name).isNone then checkName name
  hide name
  if arg.contains '=' then putVariable name (some value) exported false
  else if (sh.bindings.lookup name).isNone then putVariable name none exported false

def runLocal (args : List Letters) : Act Nat := do
  if (← get).hidden = [] then failString "not in a function"
  for arg in args do
    if arg = ['-'] then hideSettings else keepLocal arg false
  return 0

def runUnset (args : List Letters) : Act Nat := do
  let (given, args) ← options (plainly "vf") args
  let isFunction := given.getLast?.any fun g ↦ g.1 = 'f'
  for arg in args do
    if isFunction then
      modify fun sh ↦ { sh with functions := sh.functions.filter fun e ↦ e.1 ≠ arg }
    else unassign arg
  return 0

def setParams (params : List Letters) : Act Unit :=
  modify fun sh ↦ { sh with params := params, optionPlace := (1, none) }

def runSet (args : List Letters) : Act Nat := do
  if args = [] then
    showVariables [] (·.value.isSome)
    return 0
  let settled ← changeSettings false args
  refuseControl
  if settled.args ≠ [] then setParams settled.args
  return 0

def runShift (args : List Letters) : Act Nat := do
  let n ← match args with
    | [] => pure 1
    | s :: _ => number s
  let params := (← get).params
  if params.length < n then failString "can't shift that many"
  setParams (params.drop n)
  return 0

/-- A line in the course of reading: the word so far, where the region at hand began, how many
characters have been taken, and whether the last one was a backslash. -/
structure Taking where
  word : Expanding := {}
  start : Nat := 0
  count : Nat := 0
  escapes : Bool := false

namespace Taking

def close (t : Taking) : Taking := { t with word := t.word.region t.start false }

def reopen (t : Taking) : Taking := { t with start := t.word.size, escapes := false }

/-- Takes a line from a text, and tells whether it ended. What a backslash escapes is no part of a
region that is split; at the end of a line a backslash joins the next one to it. -/
def line (raw : Bool) : Letters → Taking → Taking × Bool
  | [], t => (if t.escapes then t else t.close, false)
  | c :: rest, t =>
    let t := { t with count := t.count + 1 }
    if c = '\x00' then line raw rest t
    else if t.escapes then
      if c = '\n' then line raw rest t.reopen
      else line raw rest { t with word := t.word.push (.letter c true) }.reopen
    else if c = '\\' && !raw then line raw rest { t.close with escapes := true }
    else if c = '\n' then (t.close, true)
    else line raw rest { t with word := t.word.push (.letter c false) }

end Taking

def assignFields : List Letters → List (List Glyph) → Act Unit
  | [], _ => return
  | name :: names, fields => do
    assign name (Glyph.text (fields.head?.getD []))
    assignFields names (fields.drop 1)

def runRead (args : List Letters) : Act Nat := do
  let (given, names) ← options [('p', true), ('r', false)] args
  if names = [] then failString "arg count"
  let raw := given.any fun g ↦ g.1 = 'r'
  let (t, whole) ← match ← channel? 0 with
    | none => pure ({ : Taking }.close, false)
    | some (n, channel) =>
      let (t, whole) := Taking.line raw (available (← get) channel) {}
      advance n t.count
      pure (t, whole)
  assignFields names (splitFields (← separators) (some names.length) t.word)
  return if whole then 0 else 1

structure Found where
  letter : Char
  text : Option Letters
  place : Nat × Option Nat
  done : Bool := false

/-- The next option among arguments. The place is the number of the next argument, and how much of
the one before it has been read. -/
def nextOption (known : Letters) (args : List Letters) (place : Nat × Option Nat) :
    Act Found := do
  let (index, offset) := place
  let word (i : Nat) : Option Letters := if i = 0 then none else args[i - 1]?
  let rest : Letters := match offset with
    | some n => if index ≤ 1 then [] else ((word (index - 1)).getD []).drop n
    | none => []
  let ended (index : Nat) : Found := ⟨'?', none, (index, none), true⟩
  let at_ : Option (Letters × Nat) :=
    if rest ≠ [] then some (rest, index)
    else
      match word index with
      | some ('-' :: c :: more) => some (c :: more, index + 1)
      | _ => none
  match at_ with
  | none => return ended index
  | some (['-'], index) =>
    if rest = [] then return ended index
    else letterAt known word '-' [] index
  | some (c :: more, index) => letterAt known word c more index
  | some ([], index) => return ended index
where
  isQuiet : Bool := known.head? = some ':'
  /-- Whether a letter is known, and whether a text goes with it. -/
  search (c : Char) : Letters → Option Bool
    | [] => none
    | d :: ':' :: rest => if c = d then some true else search c rest
    | d :: rest => if c = d then some false else search c rest
  letterAt (known : Letters) (word : Nat → Option Letters) (c : Char) (more : Letters)
      (index : Nat) : Act Found := do
    let left := if more = [] then none else some (((word (index - 1)).getD []).length - more.length)
    let complain (said : String) (after : String) (letter : Char) (i : Nat) (o : Option Nat) :
        Act Found := do
      if isQuiet then
        assign "OPTARG".toList [c]
        return ⟨letter, none, (i, o), false⟩
      else
        discard <| write 2 (said.toList ++ [c] ++ after.toList ++ ['\n'])
        unassign "OPTARG".toList
        return ⟨'?', none, (i, o), false⟩
    match search c known with
    | none => complain "Illegal option -" "" '?' index left
    | some false =>
      assign "OPTARG".toList []
      return ⟨c, none, (index, left), false⟩
    | some true =>
      if more ≠ [] then
        assign "OPTARG".toList more
        return ⟨c, none, (index, none), false⟩
      match word index with
      | some s =>
        assign "OPTARG".toList s
        return ⟨c, none, (index + 1, none), false⟩
      | none => complain "No arg for -" " option" ':' index none

def runGetopts (args : List Letters) : Act Nat := do
  let args ← operands args
  match args with
  | known :: name :: own =>
    let sh ← get
    let words := if own = [] then sh.params else own
    let place := if words.length + 1 < sh.optionPlace.1 then (1, none) else sh.optionPlace
    let found ← nextOption known words place
    putVariable "OPTIND".toList (some (showNat found.place.1)) false false
    assign name [found.letter]
    modify fun sh ↦ { sh with optionPlace := found.place }
    return if found.done then 1 else 0
  | _ => failString "Usage: getopts optstring var [arg]"

end BuildMatrix.Script
