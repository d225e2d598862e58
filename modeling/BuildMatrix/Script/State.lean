import BuildMatrix.FileTree
import BuildMatrix.Script.Reader
import BuildMatrix.Script.Signal
import BuildMatrix.Script.Variables
import BuildMatrix.Stage

namespace BuildMatrix.Script

/-- What a descriptor stands for: text to read, text that was written, a file with a position in
it, something without room, or nothing at all. -/
inductive Channel where
  | source (rest : Letters)
  | sink (chunks : List Letters) (room : Option Nat)
  | file (place : Location) (offset : Nat) (reads writes appends : Bool)
  | full
  | nothing
  deriving Inhabited

/-- What all programs share that run together. -/
structure World where
  tree : FileTree
  channels : Array Channel
  documents : Array Document
  /-- The number of the last process. -/
  lastId : Nat
  /-- Signals on their way, with the processes they are for. -/
  sent : List (Nat × Nat)
  deriving Inhabited

inductive Setting where
  | errexit
  | noglob
  | ignoreeof
  | interactive
  | monitor
  | noexec
  | stdin
  | xtrace
  | verbose
  | vi
  | emacs
  | noclobber
  | allexport
  | notify
  | nounset
  | privileged
  | nolog
  | debug
  deriving DecidableEq, Inhabited

namespace Setting

def table : List (Setting × String × Option Char) :=
  [(errexit, "errexit", some 'e'), (noglob, "noglob", some 'f'),
    (ignoreeof, "ignoreeof", some 'I'), (interactive, "interactive", some 'i'),
    (monitor, "monitor", some 'm'), (noexec, "noexec", some 'n'), (stdin, "stdin", some 's'),
    (xtrace, "xtrace", some 'x'), (verbose, "verbose", some 'v'), (vi, "vi", some 'V'),
    (emacs, "emacs", some 'E'), (noclobber, "noclobber", some 'C'),
    (allexport, "allexport", some 'a'), (notify, "notify", some 'b'),
    (nounset, "nounset", some 'u'), (privileged, "privileged", some 'p'),
    (nolog, "nolog", none), (debug, "debug", none)]

def ofLetter? (c : Char) : Option Setting :=
  (table.find? fun e ↦ e.2.2 = some c).map Prod.fst

def ofName? (s : Letters) : Option Setting :=
  (table.find? fun e ↦ e.2.1.toList = s).map Prod.fst

def put (x : Setting) (on : Bool) (settings : List Setting) : List Setting :=
  let others := settings.filter (· ≠ x)
  if on then x :: others else others

end Setting

/-- What is left out on the way to the end of a loop, a function or the script. A plain `return`
asks for no status of its own. -/
inductive Skip where
  | none
  | breaks (loops : Nat)
  | continues (loops : Nat)
  | returns (plain : Bool)
  deriving DecidableEq, Inhabited

inductive Ending where
  | code (n : Nat)
  | signal (n : Nat)
  deriving DecidableEq, Inhabited

/-- A program that was found in the search, with its place among the directories; it is looked up
anew after a change of the directory at hand. -/
structure Tracked where
  place : Nat
  stale : Bool
  deriving DecidableEq, Inhabited

/-- What a process that reads a script hands on to one that carries out a part of it. -/
structure Image where
  id : Nat
  /-- The number that the script takes for its own. -/
  rootId : Nat
  /-- The processes that wait for this one, the nearest first. -/
  ancestors : List Nat
  name : Letters
  params : List Letters
  bindings : Variables
  functions : List (Letters × Tree)
  aliases : List (Letters × Letters)
  tracked : List (Letters × Tracked)
  settings : List Setting
  cwd : Location
  /-- The directory at hand as the script came to it. -/
  directory : Letters
  descriptors : List (Nat × Nat)
  traps : List (Nat × Letters)
  status : Nat
  /-- The status to leave with while a trap or the end of the script is carried out. -/
  savedStatus : Option Nat
  /-- The status of the last substitution in a command. -/
  substitutionStatus : Nat
  /-- The line that complaints name. -/
  line : Nat
  /-- The line up to which the script has been read. -/
  lineRead : Nat
  /-- The command that complaints name. -/
  command : Option Letters
  skip : Skip
  loops : Nat
  depth : Nat
  /-- The values that variables had outside the functions at work, the innermost first; settings
  that a function keeps to itself are saved too. -/
  hidden : List (List (Letters × Option Variable) × Option (List Setting))
  /-- The channels that descriptors had before the redirections at work. -/
  redirected : List (List (Nat × Option Nat))
  lastJob : Option Nat
  optionPlace : Nat × Option Nat
  umask : Nat
  /-- A trace is being expanded. -/
  tracing : Bool

/-- How far a command has come that runs beside the script. It waits for a moment when the script
cannot go on without it. -/
inductive Course where
  | waiting (image : Image) (body : Tree) (changes : List Redirection)
  | over (e : Ending)
  | known (e : Ending)

structure Job where
  id : Nat
  slot : Nat
  course : Course
  /-- Whether somebody has asked for its status. -/
  asked : Bool

structure Shell extends Image where
  world : World
  jobs : List Job
  /-- Signals that have come and have a trap. -/
  caught : List Nat
  /-- What the command at hand has written and not yet sent off, the last part first. -/
  printed : List Letters

/-- Why a script goes no further: a failure, the end of its last command, a call to leave, a signal,
or another program that takes its place. -/
inductive Stop where
  | failure
  | ended
  | exit
  | killed (signal : Nat)
  | replaced (e : Ending)
  deriving DecidableEq, Inhabited

abbrev Act := ExceptT Stop (StateM Shell)

def Shell.has (sh : Shell) (x : Setting) : Bool := sh.settings.contains x

def has (x : Setting) : Act Bool := do return (← get).has x

def lookup (name : Letters) : Act (Option Letters) := do return (← get).bindings.get? name

def channel? (fd : Nat) : Act (Option (Nat × Channel)) := do
  let sh ← get
  match sh.descriptors.lookup fd with
  | none => return none
  | some n => return sh.world.channels[n]?.map (n, ·)

def setChannel (n : Nat) (c : Channel) : Act Unit :=
  modify fun sh ↦
    { sh with world := { sh.world with channels := sh.world.channels.setIfInBounds n c } }

def newChannel (c : Channel) : Act Nat := do
  let sh ← get
  set { sh with world := { sh.world with channels := sh.world.channels.push c } }
  return sh.world.channels.size

def attach (fd : Nat) (channel : Option Nat) : Act Unit :=
  modify fun sh ↦
    let others := sh.descriptors.filter fun e ↦ e.1 ≠ fd
    { sh with
      descriptors := match channel with
        | some n => (fd, n) :: others
        | none => others }

inductive WriteFault where
  | closed
  | broken
  deriving DecidableEq, Inhabited

/-- Writes to a channel. One who writes more than anybody reads is stopped. -/
def writeChannel (n : Nat) (s : Letters) : Act (Option WriteFault) := do
  let sh ← get
  match sh.world.channels[n]? with
  | some (.sink chunks room) =>
    match room with
    | none =>
      setChannel n (.sink (s :: chunks) none)
      return none
    | some room =>
      if room < s.length then return some .broken
      setChannel n (.sink (s :: chunks) (some (room - s.length)))
      return none
  | some (.file place offset reads true appends) =>
    match sh.world.tree.get? place with
    | some (.file content executable) =>
      let offset := if appends then content.length else offset
      let front := content.take offset
      let gap := List.replicate (offset - content.length) 0
      let content := front ++ gap ++ bytesOf s ++ content.drop (offset + s.length)
      let tree := if s = [] then sh.world.tree else
        sh.world.tree.put place (.file content executable)
      set { sh with world := { sh.world with tree := tree } }
      setChannel n (.file place (offset + s.length) reads true appends)
      return none
    | _ => return some .closed
  | some .nothing => return none
  | _ => return some .closed

def write (fd : Nat) (s : Letters) : Act Bool := do
  match (← get).descriptors.lookup fd with
  | none => return s = []
  | some n =>
    match ← writeChannel n s with
    | none => return true
    | some .closed => return s = []
    | some .broken =>
      if ((← get).traps.lookup Signal.pipe) = some [] then return false
      throw (.killed Signal.pipe)

def available (sh : Shell) : Channel → Letters
  | .source rest => rest
  | .file place offset true _ _ =>
    match sh.world.tree.get? place with
    | some (.file content _) => lettersOf (content.drop offset)
    | _ => []
  | _ => []

def advance (n count : Nat) : Act Unit := do
  match (← get).world.channels[n]? with
  | some (.source rest) => setChannel n (.source (rest.drop count))
  | some (.file place offset reads writes appends) =>
    setChannel n (.file place (offset + count) reads writes appends)
  | _ => return

def World.written (w : World) (n : Nat) : Letters :=
  match w.channels[n]? with
  | some (.sink chunks _) => chunks.reverse.flatten
  | _ => []

def Shell.heading (sh : Shell) : Letters :=
  sh.name ++ ": ".toList ++ showNat sh.line ++ ": ".toList ++
    match sh.command with
    | some c => c ++ ": ".toList
    | none => []

def warn (message : Letters) : Act Unit := do
  discard <| write 2 ((← get).heading ++ message ++ ['\n'])

def setStatus (n : Nat) : Act Unit := modify fun sh ↦ { sh with status := n }

/-- Keeps text for standard output until the command at hand ends. -/
def say (s : Letters) : Act Unit := modify fun sh ↦ { sh with printed := s :: sh.printed }

def sayLine (s : Letters) : Act Unit := say (s ++ ['\n'])

def flush : Act Bool := do
  let s := (← get).printed.reverse.flatten
  modify fun sh ↦ { sh with printed := [] }
  write 1 s

def fail {α : Type} (message : Letters) : Act α := do
  warn message
  discard flush
  setStatus 2
  throw .failure

def failString {α : Type} (message : String) : Act α := fail message.toList

def refuseNumber {α : Type} (s : Letters) : Act α := fail ("Illegal number: ".toList ++ s)

def number (s : Letters) : Act Nat := do
  match integer? 10 s with
  | some i => if i < 0 || 2147483647 < i then refuseNumber s else return i.toNat
  | none => refuseNumber s

def pathText (name : String) : Act Letters := do return (← lookup name.toList).getD []

def candidates (path name : Letters) : List Letters :=
  (splitAt ':' path).map fun dir ↦ if dir = [] then name else dir ++ '/' :: name

/-- Variables that are never forgotten, and the ones that a function keeps to itself. -/
def Shell.isFixed (sh : Shell) (name : Letters) : Bool :=
  ["IFS", "OPTIND", "PATH", "PS1", "PS2", "PS4"].contains (String.ofList name) ||
    sh.hidden.any fun frame ↦ frame.1.any fun e ↦ e.1 = name

def noteChange (name : Letters) (value : Option Letters) : Act Unit := do
  if name = "OPTIND".toList then
    let n ← number (value.getD [])
    modify fun sh ↦ { sh with optionPlace := (max 1 n, none) }
  if name = "PATH".toList then modify fun sh ↦ { sh with tracked := [] }

def putVariable (name : Letters) (value : Option Letters) (exported readOnly : Bool) :
    Act Unit := do
  let sh ← get
  let old := (sh.bindings.lookup name).getD { value := none }
  if old.readOnly then fail (name ++ ": is read only".toList)
  if sh.bindings.any fun e ↦ e.1 = name then noteChange name value
  let exported := exported || old.exported || sh.has .allexport
  modify fun sh ↦
    { sh with
      bindings := sh.bindings.put name ⟨value, exported, readOnly || old.readOnly⟩ }

def checkName (name : Letters) : Act Unit := do
  if !isName name then fail (name ++ ": bad variable name".toList)

def assign (name value : Letters) : Act Unit := do
  checkName name
  putVariable name (some value) false false

def assignment (s : Letters) : Letters × Letters :=
  (s.takeWhile (· ≠ '='), (s.dropWhile (· ≠ '=')).drop 1)

def unassign (name : Letters) : Act Unit := do
  checkName name
  let sh ← get
  match sh.bindings.lookup name with
  | none => return
  | some v =>
    if v.readOnly then fail (name ++ ": is read only".toList)
    noteChange name none
    modify fun sh ↦
      { sh with
        bindings :=
          if sh.isFixed name then sh.bindings.put name { v with value := none }
          else sh.bindings.erase name }

def hide (name : Letters) : Act Unit :=
  modify fun sh ↦
    match sh.hidden with
    | [] => sh
    | (frame, settings) :: rest =>
      if frame.any fun e ↦ e.1 = name then sh
      else { sh with hidden := ((name, sh.bindings.lookup name) :: frame, settings) :: rest }

def hideSettings : Act Unit :=
  modify fun sh ↦
    match sh.hidden with
    | (frame, none) :: rest => { sh with hidden := (frame, some sh.settings) :: rest }
    | _ => sh

def Shell.restore (sh : Shell) (e : Letters × Option Variable) : Shell :=
  let sh := match e.2 with
    | some v => { sh with bindings := sh.bindings.put e.1 v }
    | none => { sh with bindings := sh.bindings.erase e.1 }
  if e.1 = "PATH".toList then { sh with tracked := [] }
  else if e.1 = "OPTIND".toList then
    let n := e.2.bind fun v ↦ v.value.bind (integer? 10)
    { sh with optionPlace := (max 1 (n.getD 1).toNat, none) }
  else sh

def unhide (depth : Nat) : Act Unit :=
  modify fun sh ↦
    let extra := sh.hidden.take (sh.hidden.length - depth)
    let undo (sh : Shell) (frame : List (Letters × Option Variable) × Option (List Setting)) :=
      let sh := frame.1.foldl Shell.restore sh
      { sh with settings := frame.2.getD sh.settings }
    let sh := extra.foldl undo sh
    { sh with hidden := sh.hidden.drop extra.length }

def unredirect (depth : Nat) (keep : Bool) : Act Unit :=
  modify fun sh ↦
    let extra := sh.redirected.take (sh.redirected.length - depth)
    let restore (fds : List (Nat × Nat)) (e : Nat × Option Nat) : List (Nat × Nat) :=
      let others := fds.filter fun d ↦ d.1 ≠ e.1
      match e.2 with
      | some n => (e.1, n) :: others
      | none => others
    { sh with redirected := sh.redirected.drop extra.length,
              descriptors :=
                if keep then sh.descriptors else extra.flatten.foldl restore sh.descriptors }

end BuildMatrix.Script
