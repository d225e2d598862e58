import BuildMatrix.Script.Builtin.Directory
import BuildMatrix.Script.Builtin.Processes
import BuildMatrix.Script.Builtin.Variables

namespace BuildMatrix.Script

/-- How commands are evaluated: whether somebody looks at their status, so that a failure does not
end the script, and whether the process ends after them. -/
structure Flags where
  tested : Bool := false
  last : Bool := false

/-- A simple command in the course of its expansion: the fields so far, how many of them are left
out at the front, the words to come, and what the first field stands for. -/
structure Call where
  fields : List Letters := []
  dropped : Nat := 0
  rest : List (List Piece)
  builtin : Option Builtin := none
  /-- Whether it is carried out as a special builtin, if it is one at all. -/
  special : Option Bool := none
  /-- Whether its assignments hold for itself alone. -/
  isLocal : Bool := false
  functions : Bool := true
  /-- The directories to search, if they are not those of the script. -/
  path : Option Letters := none

namespace Call

def args (c : Call) : List Letters := c.fields.drop c.dropped

def fill (substitute : Substitute) (place : Nat) (fields : List Letters) :
    List (List Piece) → Act (List Letters × List (List Piece))
  | [] => return (fields, [])
  | w :: rest => do
    if place < fields.length then return (fields, w :: rest)
    fill substitute place (fields ++ (← expandFields substitute w)) rest

def need (substitute : Substitute) (place : Nat) (c : Call) : Act Call := do
  let (fields, rest) ← fill substitute place c.fields c.rest
  return { c with fields, rest }

/-- Goes past the options of `command`; answers the place of the command after it, or nothing if
there is none or if `command` itself has to do with it. -/
def skipOptions (substitute : Substitute) : Nat → Nat → Call → Act (Call × Option Nat)
  | 0, _, c => return (c, none)
  | fuel + 1, place, c => do
    let c ← c.need substitute place
    match c.fields[place]? with
    | none => return (c, none)
    | some ('-' :: letter :: more) =>
      if letter = '-' && more = [] then
        let c ← c.need substitute (place + 1)
        return (c, if (c.fields[place + 1]?).isSome then some (place + 1) else none)
      else if (letter :: more).all (· = 'p') then
        skipOptions substitute fuel (place + 1) { c with path := some Search.standardPath }
      else return (c, none)
    | some _ => return (c, some place)

def identify (substitute : Substitute) : Nat → Call → Act Call
  | 0, c => return c
  | fuel + 1, c => do
    let name := c.args.head?.getD []
    let isFunction := c.functions && (← get).functions.any fun e ↦ e.1 = name
    match if isFunction then none else Builtin.ofName? name with
    | none => return { c with builtin := none, isLocal := true }
    | some b =>
      let special := c.special.getD b.isSpecial
      let isLocal := c.isLocal || !special
      let c := { c with builtin := some b, special := some special, isLocal }
      if b ≠ .command then return c
      match ← skipOptions substitute (c.fields.length + c.rest.length + 1) (c.dropped + 1) c with
      | (c, none) => return c
      | (c, some place) => identify substitute fuel { c with dropped := place, functions := false }

/-- Expands the words of a simple command. Those of a command that sets variables are not split if
they look like assignments. -/
def ofWords (substitute : Substitute) (words : List (List Piece)) : Act Call := do
  let c ← ({ rest := words } : Call).need substitute 0
  if c.fields = [] then return c
  let c ← identify substitute (c.fields.length + words.length + 1) c
  let mut fields := c.fields
  let assigns := c.builtin.any (·.takesAssignments)
  for w in c.rest do
    let more ← if assigns && isAssignment w then pure [← expandText substitute .set w]
      else expandFields substitute w
    fields := fields ++ more
  return { c with fields, rest := [] }

def isExec (c : Call) : Bool := c.builtin = some .exec

end Call

def reap (e : Ending) : Act Nat := do
  match e with
  | .code n => return n % 256
  | .signal n =>
    if n ≠ 2 && n ≠ Signal.pipe then discard <| write 2 (Signal.description n ++ ['\n'])
    return 128 + n

def Ending.status : Ending → Nat
  | code n => n % 256
  | signal n => 128 + n

abbrev Launch := Letters → List Letters → Act (Except FileTree.Refusal Ending)

def replace (launch : Launch) (path : Letters) (place : Nat) (args : List Letters) : Act Unit := do
  let name := args.head?.getD []
  attempt name
    (if name.contains '/' then [name] else (candidates path name).drop place) .notFound
where
  attempt (name : Letters) : List Letters → FileTree.Refusal → Act Unit
    | [], r => do
      warn (name ++ ": ".toList ++ Search.shownReason r)
      let isAbsent := Refusal.isMissing r || r = .tooManyLinks || r = .nameTooLong
      setStatus (if isAbsent then 127 else 126)
      throw .ended
    | path :: rest, r => do
      match ← launch path args with
      | .ok e => throw (.replaced e)
      | .error r' => attempt name rest (if Refusal.isMissing r' then r else r')

def Shell.hasTraps (sh : Shell) : Bool := sh.traps.any fun e ↦ e.2 ≠ []

/-- The image of a new process. Traps are for the process that has set them; what is ignored stays
ignored. -/
def Shell.offspring (sh : Shell) : Image :=
  { sh.toImage with
    id := sh.world.lastId + 1
    ancestors := sh.id :: sh.ancestors
    traps := sh.traps.filter fun e ↦ e.2 = []
    redirected := [] }

def Image.toShell (i : Image) (world : World) : Shell :=
  { i with world := world, jobs := [], caught := [], printed := [] }

def countProcess : Act Unit :=
  modify fun sh ↦ { sh with world := { sh.world with lastId := sh.world.lastId + 1 } }

/-- The first slot that no job holds whose status somebody may still ask for. -/
def freeSlot (jobs : List Job) : Nat :=
  let isTaken (n : Nat) : Bool :=
    jobs.any fun j ↦ j.slot = n && !(j.asked && j.course matches .known _)
  ((List.range (jobs.length + 1)).find? fun n ↦ !isTaken n).getD jobs.length

def addJob (body : Tree) (changes : List Redirection) : Act Unit := do
  let source ← newChannel .nothing
  let image := (← get).offspring
  countProcess
  let image :=
    { image with descriptors := (0, source) :: image.descriptors.filter fun e ↦ e.1 ≠ 0 }
  modify fun sh ↦
    let slot := freeSlot sh.jobs
    let jobs := sh.jobs.filter fun j ↦ j.slot ≠ slot
    { sh with
      jobs := ⟨image.id, slot, .waiting image body changes, false⟩ :: jobs
      lastJob := some image.id }

/-- What a loop makes of a call to leave it: nothing is asked of it, or it goes on, or it ends. -/
inductive Turn where
  | free
  | again
  | over
  deriving DecidableEq

def takeTurn : Act Turn := do
  let sh ← get
  match sh.skip with
  | .none => return .free
  | .breaks n =>
    set { sh with skip := if n ≤ 1 then .none else .breaks (n - 1) }
    return .over
  | .continues n =>
    if n ≤ 1 then
      set { sh with skip := .none }
      return .again
    set { sh with skip := .continues (n - 1) }
    return .over
  | .returns _ => return .over

def leaveLoops (skip : Nat → Skip) (args : List Letters) : Act Nat := do
  let n ← match args with
    | [] => pure 1
    | s :: _ => do
      let n ← number s
      if n = 0 then refuseNumber s
      pure n
  let n := min n (← get).loops
  if 0 < n then modify fun sh ↦ { sh with skip := skip n }
  return 0

def leaveFunction (args : List Letters) : Act Nat := do
  match args with
  | [] =>
    modify fun sh ↦ { sh with skip := .returns true }
    return (← get).status
  | s :: _ =>
    let n ← number s
    modify fun sh ↦ { sh with skip := .returns false }
    return n

def leaveShell {α : Type} (args : List Letters) : Act α := do
  match args with
  | [] => pure ()
  | s :: _ =>
    let n ← number s
    modify fun sh ↦ { sh with savedStatus := some n }
  throw .exit

def traceWords (words : List Letters) : Letters := [' '].intercalate words

/-- Writes a trace to where complaints went before the redirections of the command. -/
def writeTrace (s : Letters) : Act Unit := do
  let sh ← get
  match (sh.redirected.head?.getD []).lookup 2 with
  | some (some n) => discard <| writeChannel n s
  | _ => discard <| write 2 s

end BuildMatrix.Script
