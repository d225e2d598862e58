import BuildMatrix.Script.Evaluation
import BuildMatrix.Script.Program

namespace BuildMatrix.Script

structure Setup where
  id : Nat
  ancestors : List Nat
  environment : List (Letters × Letters)
  cwd : Location
  descriptors : List (Nat × Nat)
  umask : Nat

def ownVariables (s : Setup) : Variables :=
  let keep (vs : Variables) (e : Letters × Letters) : Variables :=
    if isName e.1 then vs.put e.1 ⟨some e.2, true, false⟩ else vs
  let own (vs : Variables) (name : String) (value : String) : Variables :=
    let exported := (vs.lookup name.toList).any (·.exported)
    vs.put name.toList ⟨some value.toList, exported, false⟩
  let usual (vs : Variables) (e : String × String) : Variables :=
    if vs.any fun v ↦ v.1 = e.1.toList then vs else own vs e.1 e.2
  let vs := s.environment.foldl keep []
  let vs := [("PATH", String.ofList Search.standardPath), ("PS1", "# "), ("PS2", "> "),
    ("PS4", "+ ")].foldl usual vs
  let vs := own vs "IFS" " \t\n"
  let vs := own vs "OPTIND" "1"
  own vs "PPID" (String.ofList (showNat (s.ancestors.head?.getD 0)))

/-- The path that the directory at hand is known by: the one that the environment tells if it leads
there. -/
def startDirectory (s : Setup) (tree : FileTree) : Letters :=
  match s.environment.lookup "PWD".toList with
  | some path =>
    let leadsHere := match tree.resolve s.cwd (pathOf path) with
      | .ok l => l = s.cwd
      | .error _ => false
    if path.head? = some '/' && leadsHere then path else physical s.cwd
  | none => physical s.cwd

def Setup.shell (s : Setup) (world : World) : Shell :=
  let directory := startDirectory s world.tree
  { id := s.id
    rootId := s.id
    ancestors := s.ancestors
    name := []
    params := []
    bindings := (ownVariables s).put "PWD".toList ⟨some directory, true, false⟩
    functions := []
    aliases := []
    tracked := []
    settings := []
    cwd := s.cwd
    directory := directory
    descriptors := s.descriptors
    traps := []
    status := 0
    savedStatus := none
    substitutionStatus := 0
    line := 0
    lineRead := 0
    command := none
    skip := .none
    loops := 0
    depth := 0
    hidden := []
    redirected := []
    lastJob := none
    optionPlace := (1, none)
    umask := s.umask
    tracing := false
    world := world
    jobs := []
    caught := []
    printed := [] }

def stepLimit : Nat := 100000000

def runInput (launch : Launch) : Act Unit := do
  match ← channel? 0 with
  | none => return
  | some (n, channel) =>
    let text := available (← get) channel
    advance n text.length
    discard <| runFile launch stepLimit (.ofFile text #[])

/-- The shell as a program: settings first, then a text with commands, a file, or nothing if the
script comes from standard input. -/
def runShell (launch : Launch) (words : List Letters) : Act Unit := do
  modify fun sh ↦ { sh with name := words.head?.getD [] }
  let settled ← changeSettings true (words.drop 1)
  if settled.asksText && settled.args = [] then failString "-c requires an argument"
  refuseControl
  let fromInput := (← has .stdin) || (!settled.asksText && settled.args = [])
  match settled.asksText, settled.args with
  | true, text :: rest =>
    let name := (← get).name
    modify fun sh ↦ { sh with name := rest.head?.getD name, params := rest.drop 1 }
    discard <| runText launch stepLimit { last := !fromInput } text
    if fromInput then runInput launch
  | false, file :: params =>
    if fromInput then
      modify fun sh ↦ { sh with params := file :: params }
      runInput launch
    else
      let reader ← openScript file
      modify fun sh ↦ { sh with name := file, params := params }
      discard <| runFile launch stepLimit reader
  | _, [] => runInput launch

def launchLimit : Nat := 500

def carryOut (launch : Launch) (s : Setup) (words : List Letters) (world : World) :
    Ending × World :=
  let (e, sh) := (finish launch stepLimit (runShell launch words)).run (s.shell world)
  (e, sh.world)

/-- Runs a program as the process at hand. One that names no interpreter is a script for the
shell. -/
def launch : Nat → Launch
  | 0, _, _ => return .error .denied
  | depth + 1, path, args => do
    let sh ← get
    let start (words : List Letters) : Act (Except FileTree.Refusal Ending) := do
      let setup : Setup :=
        { id := sh.id, ancestors := sh.ancestors, environment := sh.bindings.exported
          cwd := sh.cwd, descriptors := sh.descriptors, umask := sh.umask }
      let (e, world) := carryOut (launch depth) setup words sh.world
      set { sh with world := world }
      return .ok e
    let tree := sh.world.tree
    match Program.words tree sh.cwd Program.depthLimit (pathOf path) (args.map bytesOf) with
    | .ok words => start (words.map lettersOf)
    | .error .badFormat => start ("/bin/sh".toList :: path :: args.drop 1)
    | .error r => return .error r

structure Left where
  ending : Ending
  output : List UInt8
  complaints : List UInt8
  tree : FileTree

def runProgram (tree : FileTree) (cwd : Location) (environment : List (Letters × Letters))
    (words : List (List UInt8)) : Left :=
  let world : World :=
    { tree := tree
      channels := #[.source [], .sink [] none, .sink [] none]
      documents := #[]
      lastId := 100
      sent := [] }
  let setup : Setup :=
    { id := 100, ancestors := [99], environment := environment, cwd := cwd
      descriptors := [(0, 0), (1, 1), (2, 2)], umask := 0o022 }
  let (e, world) := carryOut (launch launchLimit) setup (words.map lettersOf) world
  ⟨e, bytesOf (world.written 1), bytesOf (world.written 2), world.tree⟩

end BuildMatrix.Script
