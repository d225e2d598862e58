import BuildMatrix.Script.Builtin.Names

namespace BuildMatrix.Script

/-- A signal comes to this process: it ends the process, unless there is a trap for it. -/
def receive (n : Nat) : Act Unit := do
  if n = 0 then return
  let sh ← get
  match if Signal.isCertain n then none else sh.traps.lookup n with
  | some [] => return
  | some _ => set { sh with caught := if sh.caught.contains n then sh.caught else n :: sh.caught }
  | none => if Signal.isHarmless n then return else throw (.killed n)

def receiveAll : Act Unit := do
  let sh ← get
  let mine := sh.world.sent.filter fun e ↦ e.1 = sh.id
  let others := sh.world.sent.filter fun e ↦ e.1 ≠ sh.id
  set { sh with world := { sh.world with sent := others } }
  for (_, n) in mine do receive n

/-- What a signal makes of a command that runs beside the script; such a command takes no interrupts
from the keyboard. -/
def Job.strike (n : Nat) (j : Job) : Job :=
  match j.course with
  | .waiting .. =>
    if n = 0 || n = 2 || n = 3 || Signal.isHarmless n then j
    else { j with course := .over (.signal n) }
  | _ => j

def send (id n : Nat) : Act Bool := do
  let sh ← get
  if id = sh.id then
    receive n
    return true
  else if sh.ancestors.contains id then
    set { sh with world := { sh.world with sent := sh.world.sent ++ [(id, n)] } }
    return true
  else
    let isAlive (j : Job) : Bool := j.id = id && !(j.course matches .known _)
    let struck := sh.jobs.map fun (j : Job) ↦ if j.id = id then j.strike n else j
    set { sh with jobs := struck }
    return sh.jobs.any isAlive || id = 1 && n = 0

def jobOf (s : Option Letters) : Act Job := do
  let jobs := (← get).jobs
  let pick (j : Option Job) (said : String) : Act Job :=
    match j with
    | some j => return j
    | none => failString said
  match s with
  | none | some ['%'] | some ['%', '+'] | some ['%', '%'] => pick jobs.head? "No current job"
  | some ['%', '-'] => pick jobs[1]? "No previous job"
  | some s =>
    let number := if s.drop 1 ≠ [] && (s.drop 1).all Char.isDigit then
        (s.drop 1).foldl (fun n c ↦ 10 * n + digitValue c) 0
      else 0
    match if s.head? = some '%' then jobs.find? fun j ↦ j.slot + 1 = number else none with
    | some j => return j
    | none => fail ("No such job: ".toList ++ s)

def killUsage : String :=
  "Usage: kill [-s sigspec | -signum | -sigspec] [pid | job]... or\nkill -l [exitstatus]"

def nameSignal (args : List Letters) : Act Nat := do
  match args with
  | [] =>
    sayLine ['0']
    for name in Signal.names do sayLine name
  | s :: _ =>
    let n ← number s
    let n := if 128 < n then n - 128 else n
    if 0 < n && n < Signal.count then sayLine (Signal.name n)
    else fail ("invalid signal number or exit status: ".toList ++ s)
  return 0

def signalEach (n : Nat) : List Letters → Act Nat
  | [] => return 0
  | s :: rest => do
    let found ← match s with
      | '%' :: _ =>
        discard <| jobOf (some s)
        pure false
      | '-' :: s =>
        discard <| number s
        pure false
      | s => send (← number s) n
    if !found then warn "No such process\n".toList
    let status ← signalEach n rest
    return if found then status else 1

def runKill (args : List Letters) : Act Nat := do
  if args = [] then failString killUsage
  let direct := match args with
    | ('-' :: s) :: rest => (Signal.number? false s).map (·, rest)
    | _ => none
  let (signal, isList, args) ← match direct with
    | some (n, rest) => pure (some n, false, rest)
    | none => do
      let startsDash := (args.head?.getD []).head? = some '-'
      let (given, rest) ← if startsDash then options [('l', false), ('s', true)] args
        else pure ([], args)
      let mut signal := none
      for (c, text) in given do
        if c = 's' then
          match Signal.number? false text with
          | some n => signal := some n
          | none => fail ("invalid signal number or name: ".toList ++ text)
      pure (signal, given.any fun g ↦ g.1 = 'l', rest)
  if isList then
    if signal.isSome then failString killUsage
    nameSignal args
  else if args = [] then failString killUsage
  else signalEach (signal.getD 15) args

def setTrap (n : Nat) (action : Option Letters) : Act Unit :=
  modify fun sh ↦
    let others := sh.traps.filter fun e ↦ e.1 ≠ n
    { sh with traps := match action with
        | some s => (n, s) :: others
        | none => others }

def setTraps (action : Option Letters) : List Letters → Act Nat
  | [] => return 0
  | s :: rest => do
    match Signal.number? true s with
    | some n =>
      setTrap n action
      setTraps action rest
    | none =>
      mutter ("trap: ".toList ++ s ++ ": bad trap".toList)
      return 1

def runTrap (args : List Letters) : Act Nat := do
  let args ← operands args
  match args with
  | [] =>
    let traps := (← get).traps.mergeSort fun a b ↦ a.1 ≤ b.1
    for (n, action) in traps do
      sayLine ("trap -- ".toList ++ quoted action ++ ' ' :: Signal.name n)
    return 0
  | [s] => setTraps none [s]
  | action :: signals =>
    let isNumber := action ≠ [] && action.all Char.isDigit && (Signal.number? true action).isSome
    if isNumber then setTraps none (action :: signals)
    else setTraps (if action = ['-'] then none else some action) signals

def Job.state (j : Job) : Letters :=
  match j.course with
  | .waiting .. => "Running".toList
  | .over (.code 0) | .known (.code 0) => "Done".toList
  | .over (.code n) | .known (.code n) => "Done(".toList ++ showNat n ++ [')']
  | .over (.signal n) | .known (.signal n) => Signal.description n

def Job.isOver (j : Job) : Bool := !(j.course matches .waiting ..)

def runJobs (args : List Letters) : Act Nat := do
  let (given, args) ← options (plainly "lp") args
  let sh ← get
  let listed ← if args = [] then pure sh.jobs else args.mapM fun s ↦ jobOf (some s)
  for j in listed do
    if given.getLast?.any fun g ↦ g.1 = 'p' then sayLine (showNat j.id)
    else
      let sign := if (sh.jobs.head?.map Job.id) = some j.id then '+'
        else if (sh.jobs[1]?.map Job.id) = some j.id then '-' else ' '
      let shown := '[' :: showNat (j.slot + 1) ++ "] ".toList ++ [sign, ' '] ++
        (if given ≠ [] then showNat j.id ++ [' '] else []) ++ j.state
      sayLine (shown ++ List.replicate (max 1 (33 - shown.length)) ' ')
  let isKept (j : Job) : Bool := !(j.isOver && listed.any fun k ↦ k.id = j.id)
  modify fun sh ↦ { sh with jobs := sh.jobs.filter isKept }
  return 0

/-- Jobs cannot be moved between the foreground and the background here. -/
def runForeground (args : List Letters) : Act Nat := do
  let args ← operands args
  discard <| jobOf args.head?
  fail ("job ".toList ++ args.head?.getD [] ++ " not created under job control".toList)

def limits : List (Char × String × String) :=
  [('t', "time(seconds)", "unlimited"), ('f', "file(blocks)", "unlimited"),
    ('d', "data(kbytes)", "unlimited"), ('s', "stack(kbytes)", "8192"),
    ('c', "coredump(blocks)", "0"), ('m', "memory(kbytes)", "unlimited"),
    ('l', "locked memory(kbytes)", "8192"), ('p', "process", "unlimited"),
    ('n', "nofiles", "1048576"), ('v', "vmemory(kbytes)", "unlimited"),
    ('w', "locks", "unlimited"), ('r', "rtprio", "0")]

def runUlimit (args : List Letters) : Act Nat := do
  let (given, args) ← options (plainly "HSatfdscmlpnvwr") args
  let all := given.any fun g ↦ g.1 = 'a'
  let letter := ((given.filter fun g ↦ !("HSa".toList.contains g.1)).getLast?.elim 'f' Prod.fst)
  match args with
  | value :: more =>
    if all || more ≠ [] then failString "too many arguments"
    if value ≠ "unlimited".toList && !value.all Char.isDigit then failString "bad number"
  | [] =>
    for (c, name, value) in limits do
      if all then
        sayLine (name.toList ++ List.replicate (21 - name.length) ' ' ++ value.toList)
      else if c = letter then sayLine value.toList
  return 0

/-- No time passes. -/
def runTimes : Act Nat := do
  for _ in [1, 2] do sayLine "0m0.000000s 0m0.000000s".toList
  return 0

end BuildMatrix.Script
