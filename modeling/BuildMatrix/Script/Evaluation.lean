import BuildMatrix.Script.Call
import BuildMatrix.Script.Condition
import BuildMatrix.Script.Format
import BuildMatrix.Script.Grammar

namespace BuildMatrix.Script

/-- How much a part of a pipeline may write before the next part reads. -/
def pipeRoom : Nat := 100000

/-- How often a loop goes round before the commands beside the script have their turn. -/
def patience : Nat := 500

def setLine (line : Nat) : Act Unit := modify fun sh ↦ { sh with line := line }

/-- Whether a failure of the command ends a script that asks for that. -/
def isChecked : Tree → Bool
  | .simple .. | .subshell .. | .background .. | .pipeline .. => true
  | _ => false

def readNext (r : Reader) : Act (Except Refusal (Option (Option Tree)) × Reader) := do
  let sh ← get
  let r := { r with aliases := sh.aliases, documents := sh.world.documents,
                    echoes := sh.has .verbose, echoed := [] }
  let (result, r) := Reader.readLine r
  set { sh with lineRead := r.line, world := { sh.world with documents := r.documents } }
  if r.echoed ≠ [] then discard <| write 2 r.echoed
  return (result, r)

def runEcho (args : List Letters) : Act Nat := do
  say (echo args)
  return 0

def runPrintf (args : List Letters) : Act Nat := do
  match ← operands args with
  | [] => failString "usage: printf format [arg ...]"
  | format :: args =>
    let p := printf format args
    for s in p.warnings.reverse do warn s
    say p.output.reverse.flatten
    match p.error with
    | some e => fail e
    | none => return if p.failed then 1 else 0

def runTest (name : Letters) (args : List Letters) : Act Nat := do
  let args ← if name ≠ ['['] then pure args
    else if args.getLast?.any fun s ↦ s.head? = some ']' then pure args.dropLast
    else failString "missing ]"
  return if ← Condition.evaluate (args.length + 2) args false then 0 else 1

def findScript (name : Letters) : Act Letters := do
  if name.contains '/' then return name
  let sh ← get
  let isFile (path : Letters) : Bool :=
    match sh.world.tree.node? sh.cwd (pathOf path) with
    | .ok (.file _ _) => true
    | _ => false
  match (candidates (← pathText "PATH") name).find? isFile with
  | some path => return path
  | none => fail (name ++ ": not found".toList)

def openScript (path : Letters) : Act Reader := do
  let n ← openFile path .read
  let sh ← get
  return .ofFile (available sh ((sh.world.channels[n]?).getD .nothing)) #[]

/-- Puts a process in order before it ends. The status it was asked to leave with counts, or else
the one at hand. -/
def tidy (takesSaved : Bool) : StateM Shell Unit := do
  let sh ← get
  set { sh with status := if takesSaved then sh.savedStatus.getD sh.status else sh.status
                savedStatus := none, skip := .none, loops := 0 }
  let (_, sh) := (unredirect 0 false).run (← get)
  set sh

mutual

def evaluate (launch : Launch) (fuel : Nat) (flags : Flags) (t : Tree) : Act Unit :=
  match fuel with
  | 0 => throw (.killed Signal.kill)
  | fuel + 1 => do
    if ← has .noexec then
      runTraps launch fuel
    else
      runTraps launch fuel
      evaluateTree launch fuel flags t
      runTraps launch fuel
      let sh ← get
      if isChecked t && !flags.tested && sh.status ≠ 0 && sh.has .errexit then throw .ended
    if flags.last then throw .ended

def evaluateTree (launch : Launch) (fuel : Nat) (flags : Flags) (t : Tree) : Act Unit :=
  match fuel with
  | 0 => throw (.killed Signal.kill)
  | fuel + 1 => do
    let tested : Flags := { tested := true }
    let plain : Flags := { tested := flags.tested }
    match t with
    | .simple line assignments words changes =>
      setLine line
      runSimple launch fuel flags assignments words changes
    | .pipeline parts beside =>
      if beside then
        addJob (.pipeline parts false) []
        setStatus 0
      else
        runWaiting launch fuel
        setStatus (← runPipeline launch fuel flags none parts)
    | .redirected line body changes =>
      setLine line
      runRedirected launch fuel plain body changes
    | .subshell line body changes =>
      setLine line
      runSubshell launch fuel flags body changes
    | .background line body changes =>
      setLine line
      addJob body changes
      setStatus 0
    | .not body =>
      evaluate launch fuel tested body
      let sh ← get
      if sh.skip = .none then setStatus (if sh.status = 0 then 1 else 0)
    | .andThen first second =>
      evaluate launch fuel tested first
      let sh ← get
      if sh.status = 0 && sh.skip = .none then evaluate launch fuel flags second
    | .orThen first second =>
      evaluate launch fuel tested first
      let sh ← get
      if sh.status ≠ 0 && sh.skip = .none then evaluate launch fuel flags second
    | .sequence first second =>
      evaluate launch fuel plain first
      if (← get).skip = .none then evaluate launch fuel flags second
    | .branch test yes no =>
      evaluate launch fuel tested test
      let sh ← get
      if sh.skip = .none then
        if sh.status = 0 then evaluate launch fuel flags yes
        else
          match no with
          | some t => evaluate launch fuel flags t
          | none => setStatus 0
    | .loop negated test body =>
      modify fun sh ↦ { sh with loops := sh.loops + 1 }
      let status ← runLoop launch fuel plain negated test body 0 0
      modify fun sh ↦ { sh with loops := sh.loops - 1, status := status }
    | .each line name words body =>
      setLine line
      let fields ← words.mapM (expandFields (substitute launch fuel))
      modify fun sh ↦ { sh with loops := sh.loops + 1 }
      let status ← runEach launch fuel plain name body 0 fields.flatten
      modify fun sh ↦ { sh with loops := sh.loops - 1, status := status }
    | .select line word choices =>
      setLine line
      let value ← expandText (substitute launch fuel) .single word
      runChoices launch fuel flags value choices
    | .define _ name body =>
      modify fun sh ↦
        { sh with
          functions := (name, body) :: sh.functions.filter fun e ↦ e.1 ≠ name
          tracked := sh.tracked.filter fun e ↦ e.1 ≠ name
          status := 0 }

def runLoop (launch : Launch) (fuel : Nat) (flags : Flags) (negated : Bool) (test body : Tree)
    (turns status : Nat) : Act Nat :=
  match fuel with
  | 0 => throw (.killed Signal.kill)
  | fuel + 1 => do
    if turns = patience then runWaiting launch fuel
    evaluate launch fuel { tested := true } test
    let sh ← get
    let asked := sh.skip = .returns false
    match ← takeTurn with
    | .over => return if asked then sh.status else status
    | .again => runLoop launch fuel flags negated test body (turns + 1) status
    | .free =>
      if (sh.status = 0) = negated then return status
      evaluate launch fuel flags body
      let status := (← get).status
      if (← takeTurn) = .over then return status
      runLoop launch fuel flags negated test body (turns + 1) status

def runEach (launch : Launch) (fuel : Nat) (flags : Flags) (name : Letters) (body : Tree)
    (status : Nat) (values : List Letters) : Act Nat :=
  match fuel, values with
  | 0, _ => throw (.killed Signal.kill)
  | _ + 1, [] => return status
  | fuel + 1, value :: values => do
    assign name value
    evaluate launch fuel flags body
    let status := (← get).status
    if (← takeTurn) = .over then return status
    runEach launch fuel flags name body status values

def runChoices (launch : Launch) (fuel : Nat) (flags : Flags) (value : Letters)
    (choices : List Choice) : Act Unit :=
  match fuel with
  | 0 => throw (.killed Signal.kill)
  | fuel + 1 => do
    match choices with
    | [] => setStatus 0
    | .mk patterns body :: rest =>
      if (← get).skip ≠ .none then return ← setStatus 0
      if ← matchesAny launch fuel value patterns then
        match body with
        | some t => evaluate launch fuel flags t
        | none => setStatus 0
      else runChoices launch fuel flags value rest

def matchesAny (launch : Launch) (fuel : Nat) (value : Letters) (patterns : List (List Piece)) :
    Act Bool :=
  match fuel with
  | 0 => throw (.killed Signal.kill)
  | fuel + 1 => do
    match patterns with
    | [] => return false
    | p :: rest =>
      let x ← expand (substitute launch fuel) .choice p
      if matchesPattern (Glyph.pattern x.glyphs.reverse) value then return true
      matchesAny launch fuel value rest

def runRedirected (launch : Launch) (fuel : Nat) (flags : Flags) (body : Tree)
    (changes : List Redirection) : Act Unit :=
  match fuel with
  | 0 => throw (.killed Signal.kill)
  | fuel + 1 => do
    let changes ← changes.mapM (Change.expand (substitute launch fuel))
    let depth := (← get).redirected.length
    modify fun sh ↦ { sh with redirected := [] :: sh.redirected }
    if ← redirect launch fuel changes then evaluate launch fuel flags body
    unredirect depth false

def redirect (launch : Launch) (fuel : Nat) (changes : List Change) : Act Bool :=
  match fuel with
  | 0 => throw (.killed Signal.kill)
  | fuel + 1 => do
    try
      for c in changes do c.apply (substitute launch fuel) true
      return true
    catch stop => if stop = .failure then return false else throw stop

def inChild (launch : Launch) (fuel : Nat) (act : Act Unit) : Act Ending :=
  match fuel with
  | 0 => throw (.killed Signal.kill)
  | fuel + 1 => do
    runWaiting launch fuel
    let image := (← get).offspring
    countProcess
    let sh ← get
    let (e, child) := finish launch fuel act (image.toShell sh.world)
    set { sh with world := child.world }
    receiveAll
    return e

def runSubshell (launch : Launch) (fuel : Nat) (flags : Flags) (body : Tree)
    (changes : List Redirection) : Act Unit :=
  match fuel with
  | 0 => throw (.killed Signal.kill)
  | fuel + 1 => do
    let changes ← changes.mapM (Change.expand (substitute launch fuel))
    let act : Act Unit := do
      for c in changes do c.apply (substitute launch fuel) false
      evaluate launch fuel { flags with last := true } body
    if flags.last && !(← get).hasTraps then act
    else setStatus (← reap (← inChild launch fuel act))

/-- The parts of a pipeline one after the other, each with what the one before it has written. -/
def runPipeline (launch : Launch) (fuel : Nat) (flags : Flags) (input : Option Nat)
    (parts : List Tree) : Act Nat :=
  match fuel with
  | 0 => throw (.killed Signal.kill)
  | fuel + 1 => do
    match parts with
    | [] => return 0
    | part :: rest =>
      let output ← if rest.isEmpty then pure none
        else some <$> newChannel (.sink [] (some pipeRoom))
      let e ← inChild launch fuel do
        if input.isSome then attach 0 input
        if output.isSome then attach 1 output
        evaluate launch fuel { flags with last := true } part
      let status ← reap e
      match output with
      | none => return status
      | some n =>
        let input ← newChannel (.source ((← get).world.written n))
        setChannel n .nothing
        runPipeline launch fuel flags (some input) rest

def substitute (launch : Launch) (fuel : Nat) (body : Option Tree) : Act Letters :=
  match fuel with
  | 0 => throw (.killed Signal.kill)
  | fuel + 1 => do
    match body with
    | none => return []
    | some t =>
      let n ← newChannel (.sink [] none)
      let e ← inChild launch fuel do
        attach 1 (some n)
        evaluate launch fuel { last := true } t
      let s := (← get).world.written n
      setChannel n .nothing
      let status ← reap e
      modify fun sh ↦ { sh with substitutionStatus := status }
      return s.filter (· ≠ '\x00')

def runWaiting (launch : Launch) (fuel : Nat) : Act Unit :=
  match fuel with
  | 0 => throw (.killed Signal.kill)
  | fuel + 1 => do
    match (← get).jobs.reverse.find? fun j ↦ j.course matches .waiting .. with
    | some j =>
      runJob launch fuel j
      runWaiting launch fuel
    | none =>
      let know (j : Job) : Job :=
        match j.course with
        | .over e => { j with course := .known e }
        | _ => j
      modify fun sh ↦ { sh with jobs := sh.jobs.map know }

def runJob (launch : Launch) (fuel : Nat) (j : Job) : Act Unit :=
  match fuel with
  | 0 => throw (.killed Signal.kill)
  | fuel + 1 => do
    match j.course with
    | .waiting image body changes =>
      let sh ← get
      let act : Act Unit := do
        let changes ← changes.mapM (Change.expand (substitute launch fuel))
        for c in changes do c.apply (substitute launch fuel) false
        evaluate launch fuel { last := true } body
      let (e, child) := finish launch fuel act (image.toShell sh.world)
      let ended := sh.jobs.map fun (k : Job) ↦
        if k.id = j.id then { k with course := .over e } else k
      set { sh with world := child.world, jobs := ended }
      receiveAll
    | _ => return

/-- Waits for jobs, and answers the status of the last one. A signal that has a trap ends that. -/
def runWait (launch : Launch) (fuel : Nat) (args : List Letters) : Act Nat :=
  match fuel with
  | 0 => throw (.killed Signal.kill)
  | fuel + 1 => do
    match ← operands args with
    | [] =>
      runWaiting launch fuel
      let sh ← get
      let asked := sh.jobs.map fun (j : Job) ↦ { j with asked := true }
      set { sh with jobs := asked }
      return match sh.caught with
        | n :: _ => 128 + n
        | [] => 0
    | args => waitEach launch fuel 127 args

def waitEach (launch : Launch) (fuel : Nat) (status : Nat) (args : List Letters) : Act Nat :=
  match fuel with
  | 0 => throw (.killed Signal.kill)
  | fuel + 1 => do
    match args with
    | [] => return status
    | s :: rest =>
      let job ← match s with
        | '%' :: _ => some <$> jobOf (some s)
        | s =>
          let id ← number s
          pure ((← get).jobs.find? fun (j : Job) ↦ j.id = id)
      match job with
      | none => waitEach launch fuel status rest
      | some j =>
        runJob launch fuel j
        let sh ← get
        let now := sh.jobs.find? fun (k : Job) ↦ k.id = j.id
        let status ← match now.map Job.course with
          | some (.over e) => reap e
          | some (.known e) => pure e.status
          | _ => pure status
        let note (k : Job) : Job :=
          if k.id ≠ j.id then k
          else
            match k.course with
            | .over e => { k with course := .known e, asked := true }
            | _ => { k with asked := true }
        modify fun sh ↦ { sh with jobs := sh.jobs.map note }
        match sh.caught with
        | n :: _ => return 128 + n
        | [] => waitEach launch fuel status rest

def runTraps (launch : Launch) (fuel : Nat) : Act Unit :=
  match fuel with
  | 0 => throw (.killed Signal.kill)
  | fuel + 1 => do
    let sh ← get
    if sh.caught = [] then return
    let status := sh.savedStatus.getD sh.status
    set { sh with savedStatus := some status }
    runEachTrap launch fuel status (sh.caught.mergeSort fun a b ↦ a ≤ b)
    modify fun now ↦ { now with savedStatus := sh.savedStatus }

def runEachTrap (launch : Launch) (fuel status : Nat) (signals : List Nat) : Act Unit :=
  match fuel, signals with
  | 0, _ => throw (.killed Signal.kill)
  | _ + 1, [] => return
  | fuel + 1, n :: rest => do
    let sh ← get
    if sh.skip ≠ .none then return
    set { sh with caught := sh.caught.filter (· ≠ n) }
    match sh.traps.lookup n with
    | none => pure ()
    | some action =>
      discard <| runText launch fuel {} action
      if (← get).skip ≠ .returns false then setStatus status
    runEachTrap launch fuel status rest

def runText (launch : Launch) (fuel : Nat) (flags : Flags) (text : Letters) : Act Nat :=
  match fuel with
  | 0 => throw (.killed Signal.kill)
  | fuel + 1 => do
    let line := (← get).lineRead
    let status ← runLines launch fuel flags 0 (.ofText text #[])
    modify fun sh ↦ { sh with lineRead := line }
    return status

def runLines (launch : Launch) (fuel : Nat) (flags : Flags) (status : Nat) (r : Reader) :
    Act Nat :=
  match fuel with
  | 0 => throw (.killed Signal.kill)
  | fuel + 1 => do
    let (result, r) ← readNext r
    match result with
    | .error refusal => failSyntax refusal.message
    | .ok none => return status
    | .ok (some t) =>
      let flags' := { flags with last := flags.last && r.isAtEnd }
      match t with
      | some t => evaluate launch fuel flags' t
      | none =>
        runTraps launch fuel
        if flags'.last then throw .ended
      let sh ← get
      let status := if t.isSome then sh.status else status
      if sh.skip ≠ .none then return status
      runLines launch fuel flags status r

/-- Carries out a script in a file. Leaving it is no matter of the commands around it. -/
def runFile (launch : Launch) (fuel : Nat) (r : Reader) : Act Nat :=
  match fuel with
  | 0 => throw (.killed Signal.kill)
  | fuel + 1 => do
    let line := (← get).lineRead
    let status ← runLines launch fuel {} 0 r
    modify fun sh ↦
      { sh with lineRead := line
                skip := if sh.skip matches .returns _ then .none else sh.skip }
    return status

/-- Carries out a simple command: words, then redirections, then assignments. -/
def runSimple (launch : Launch) (fuel : Nat) (flags : Flags) (assignments words : List (List Piece))
    (changes : List Redirection) : Act Unit :=
  match fuel with
  | 0 => throw (.killed Signal.kill)
  | fuel + 1 => do
    modify fun sh ↦ { sh with substitutionStatus := 0 }
    let call ← Call.ofWords (substitute launch fuel) words
    let sh ← get
    let hidden := sh.hidden.length
    let redirected := sh.redirected.length
    if call.isLocal then set { sh with hidden := ([], none) :: sh.hidden }
    let changes ← changes.mapM (Change.expand (substitute launch fuel))
    if changes ≠ [] then modify fun sh ↦ { sh with redirected := [] :: sh.redirected }
    let undo : Act Unit := do
      unredirect redirected call.isExec
      unhide hidden
    if !(← redirect launch fuel changes) then
      if call.special = some true then throw .failure
      return ← undo
    let shown ← runAssignments launch fuel call [] assignments
    if ← has .xtrace then trace launch fuel (shown ++ call.fields)
    runCall launch fuel flags call redirected hidden
    undo

def runAssignments (launch : Launch) (fuel : Nat) (call : Call) (done : List Letters)
    (assignments : List (List Piece)) : Act (List Letters) :=
  match fuel with
  | 0 => throw (.killed Signal.kill)
  | fuel + 1 => do
    match assignments with
    | [] => return done.reverse
    | word :: rest =>
      let s ← expandText (substitute launch fuel) .set word
      if call.isLocal then keepLocal s true
      else
        let (name, value) := assignment s
        putVariable name (some value) (call.isExec && 1 < call.args.length) false
      runAssignments launch fuel call (s :: done) rest

def trace (launch : Launch) (fuel : Nat) (words : List Letters) : Act Unit :=
  match fuel with
  | 0 => throw (.killed Signal.kill)
  | fuel + 1 => do
    let sh ← get
    if sh.tracing then return
    let front := (sh.bindings.get? "PS4".toList).getD []
    let reader := Reader.ofText front sh.world.documents
    let front ← match Reader.readText reader with
      | (.ok pieces, _) =>
        set { sh with tracing := true }
        let s ← expandText (substitute launch fuel) .document pieces
        modify fun sh ↦ { sh with tracing := false }
        pure s
      | (.error _, _) => pure front
    writeTrace (front ++ traceWords words ++ ['\n'])

def runCall (launch : Launch) (fuel : Nat) (flags : Flags) (call : Call)
    (redirected hidden : Nat) : Act Unit :=
  match fuel with
  | 0 => throw (.killed Signal.kill)
  | fuel + 1 => do
    match call.args with
    | [] => modify fun sh ↦ { sh with status := sh.substitutionStatus }
    | name :: args =>
      let own ← pathText "PATH"
      let path := call.path.getD own
      let search : Search :=
        { path := path, own := call.path.isNone, functions := call.functions, complains := true }
      let meaning ← match call.builtin with
        | some b => pure (Meaning.builtin b)
        | none => search.find name
      match meaning with
      | .unknown => setStatus 127
      | .program place =>
        let act := replace launch path (place.getD 0) (name :: args)
        if flags.last && !(← get).hasTraps then
          runWaiting launch fuel
          act
        else setStatus (← reap (← inChild launch fuel act))
      | .function body => runFunction launch fuel flags body args
      | .builtin b =>
        let command := (← get).command
        try runBuiltin launch fuel flags b name args
        catch stop =>
          modify fun sh ↦ { sh with command := command, printed := [] }
          if stop = .failure && call.special ≠ some true then
            unredirect (redirected + 1) false
            unhide (hidden + 1)
          else throw stop
        modify fun sh ↦ { sh with command := command }

def depthLimit : Nat := 1000

def runFunction (launch : Launch) (fuel : Nat) (flags : Flags) (body : Tree)
    (args : List Letters) : Act Unit :=
  match fuel with
  | 0 => throw (.killed Signal.kill)
  | fuel + 1 => do
    let sh ← get
    if depthLimit ≤ sh.depth then
      failString "Maximum function recursion depth (1000) reached"
    set { sh with params := args, optionPlace := (1, none), loops := 0, depth := sh.depth + 1 }
    let back : Act Unit := modify fun now ↦
      { now with
        params := sh.params, optionPlace := sh.optionPlace, loops := sh.loops, depth := sh.depth
        skip := if now.skip matches .returns _ then .none else now.skip }
    try evaluate launch fuel { tested := flags.tested } body
    catch stop =>
      back
      throw stop
    back

def runBuiltin (launch : Launch) (fuel : Nat) (flags : Flags) (b : Builtin) (name : Letters)
    (args : List Letters) : Act Unit :=
  match fuel with
  | 0 => throw (.killed Signal.kill)
  | fuel + 1 => do
    modify fun sh ↦ { sh with command := some name }
    let status ← match b with
      | .aliases => runAlias args
      | .background | .foreground => runForeground args
      | .break => leaveLoops .breaks args
      | .cd => runCd args
      | .colon | .true => pure 0
      | .command => runCommand args
      | .continue => leaveLoops .continues args
      | .dot =>
        match ← operands args with
        | [] => pure 0
        | file :: _ =>
          let path ← findScript file
          let reader ← openScript path
          modify fun sh ↦ { sh with command := some path }
          let status ← runFile launch fuel reader
          modify fun sh ↦ { sh with command := some path }
          pure status
      | .echo => runEcho args
      | .eval =>
        if args = [] then pure 0
        else runText launch fuel { tested := flags.tested } ([' '].intercalate args)
      | .exec =>
        match ← operands args with
        | [] => pure 0
        | args =>
          runWaiting launch fuel
          replace launch (← pathText "PATH") 0 args
          pure 0
      | .exit => leaveShell args
      | .export => runExport args
      | .false => pure 1
      | .getopts => runGetopts args
      | .hash => runHash args
      | .jobs => runJobs args
      | .kill => runKill args
      | .local => runLocal args
      | .printf => runPrintf args
      | .pwd => runPwd args
      | .read => runRead args
      | .readonly => runReadonly args
      | .return => leaveFunction args
      | .set => runSet args
      | .shift => runShift args
      | .test => runTest name args
      | .times => runTimes
      | .trap => runTrap args
      | .type => runType args
      | .ulimit => runUlimit args
      | .umask => runUmask args
      | .unalias => runUnalias args
      | .unset => runUnset args
      | .wait => runWait launch fuel args
    if ← flush then setStatus status
    else
      warn (name ++ ": I/O error".toList)
      setStatus (status ||| 1)

/-- Carries out a process to its end. What it put beside itself goes on without it. -/
def finish (launch : Launch) (fuel : Nat) (act : Act Unit) : StateM Shell Ending :=
  match fuel with
  | 0 => return .signal Signal.kill
  | fuel + 1 => do
    let (stop, sh) := act.run (← get)
    set sh
    match stop with
    | .ok _ => leave launch fuel
    | .error (.killed n) => afterwards launch fuel (.signal n)
    | .error (.replaced e) => return e
    | .error stop =>
      tidy (stop = .exit)
      leave launch fuel

def leave (launch : Launch) (fuel : Nat) : StateM Shell Ending :=
  match fuel with
  | 0 => return .signal Signal.kill
  | fuel + 1 => do
    let sh ← get
    match sh.traps.lookup 0 with
    | none => afterwards launch fuel (.code (sh.status % 256))
    | some action =>
      set { sh with savedStatus := some sh.status, skip := .none,
                    traps := sh.traps.filter fun e ↦ e.1 ≠ 0 }
      let (stop, sh) := (runText launch fuel {} action).run (← get)
      set sh
      match stop with
      | .error (.killed n) => return ← afterwards launch fuel (.signal n)
      | .error (.replaced e) => return e
      | .ok _ => tidy true
      | .error stop => tidy (stop = .exit)
      afterwards launch fuel (.code ((← get).status % 256))

def afterwards (launch : Launch) (fuel : Nat) (e : Ending) : StateM Shell Ending :=
  match fuel with
  | 0 => return e
  | fuel + 1 => do
    let (_, sh) := (runWaiting launch fuel).run (← get)
    set sh
    return e

end

end BuildMatrix.Script
