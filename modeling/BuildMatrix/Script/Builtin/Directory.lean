import BuildMatrix.Script.Lookup
import BuildMatrix.Script.Options

namespace BuildMatrix.Script

/-- The directories of a path, without `.` and with `..` carried out on the text. -/
def foldNames (names : List Letters) : List Letters :=
  names.foldl
    (fun done name ↦
      if name = [] || name = ['.'] then done
      else if name = ['.', '.'] then done.dropLast
      else done ++ [name])
    []

/-- The path of a directory as the script sees it from another one. Two slashes at the front stay
two. -/
def seenFrom (directory dest : Letters) : Letters :=
  let whole := if dest.head? = some '/' then dest else directory ++ '/' :: dest
  let isDouble := whole.take 2 = ['/', '/'] && whole[2]? ≠ some '/'
  (if isDouble then ['/', '/'] else ['/']) ++
    ['/'].intercalate (foldNames (splitAt '/' whole))

def physical (cwd : Location) : Letters := lettersOf (FileTree.pathOf cwd).bytes

def setDirectory (shown : Letters) (keepsOld : Bool) : Act Unit := do
  if keepsOld then putVariable "OLDPWD".toList (some (← get).directory) true false
  modify fun sh ↦ { sh with directory := shown }
  putVariable "PWD".toList (some shown) true false

def staleAll (tracked : List (Letters × Tracked)) : List (Letters × Tracked) :=
  tracked.map fun (name, t) ↦ (name, { t with stale := true })

def enter (isPhysical : Bool) (dest : Letters) : Act Bool := do
  let sh ← get
  let shown := seenFrom sh.directory dest
  let goal := if isPhysical then dest else shown
  match sh.world.tree.resolve sh.cwd (pathOf goal) with
  | .error _ => return false
  | .ok l =>
    if sh.world.tree.get? l ≠ some .directory then return false
    set { sh with cwd := l, tracked := staleAll sh.tracked }
    setDirectory (if isPhysical then physical l else shown) true
    return true

def asksPhysical (given : List Given) : Bool := given.getLast?.any fun g ↦ g.1 = 'P'

/-- Whether a path starts from the root or with dots, so that it is not searched for. -/
def isDirect (dest : Letters) : Bool :=
  match splitAt '/' dest with
  | [] => false
  | first :: _ => dest.head? = some '/' || first = ['.'] || first = ['.', '.']

def searchDirectory (dest : Letters) : List Letters → Act (Option (Letters × Bool))
  | [] => return none
  | dir :: rest => do
    let sh ← get
    let path := if dir = [] then dest else dir ++ '/' :: dest
    if sh.world.tree.isDirectory sh.cwd (pathOf path) then return some (path, dir ≠ [])
    searchDirectory dest rest

def runCd (args : List Letters) : Act Nat := do
  let (given, args) ← options (plainly "LP") args
  let isPhysical := asksPhysical given
  let (dest, told) ← match args with
    | [] => pure ((← lookup "HOME".toList).getD [], false)
    | ['-'] :: _ => pure ((← lookup "OLDPWD".toList).getD [], true)
    | dest :: _ => pure (dest, false)
  let found ←
    if isDirect dest then pure none
    else
      let dest := if dest = [] then ['.'] else dest
      match ← lookup "CDPATH".toList with
      | some path => searchDirectory dest (splitAt ':' path)
      | none => searchDirectory dest [[]]
  let (goal, searched) := found.getD (dest, false)
  if !(← enter isPhysical goal) then fail ("can't cd to ".toList ++ dest)
  if told || searched then sayLine (← get).directory
  return 0

def runPwd (args : List Letters) : Act Nat := do
  let (given, _) ← options (plainly "LP") args
  let sh ← get
  sayLine (if asksPhysical given then physical sh.cwd else sh.directory)
  return 0

def showMask (mask : Nat) : Letters :=
  let part (who : Char) (shift : Nat) : Letters :=
    let bits := (mask >>> shift) % 8
    let letters := [('r', 4), ('w', 2), ('x', 1)].filterMap fun (c, bit) ↦
      if bits &&& bit = 0 then some c else none
    [who, '='] ++ letters
  [','].intercalate [part 'u' 6, part 'g' 3, part 'o' 0]

def whoOf (c : Char) : Nat :=
  match c with
  | 'a' => 0o111
  | 'u' => 0o100
  | 'g' => 0o010
  | _ => 0o001

def bitsOf (allowed : Nat) (c : Char) : Nat :=
  match c with
  | 'r' => 4
  | 'w' => 2
  | 'x' => 1
  | 'u' => allowed >>> 6
  | 'g' => allowed >>> 3
  | 'o' => allowed
  | 'X' => if allowed &&& 0o111 ≠ 0 then 1 else 0
  | _ => 0

/-- What a symbolic mode allows, or nothing if it is malformed. -/
def allow? (before : Nat) : Nat → Nat → Nat → Letters → Option Nat
  | 0, _, _, _ => none
  | fuel + 1, who, allowed, s =>
    let names := s.takeWhile fun c ↦ ['a', 'u', 'g', 'o'].contains c
    let who := names.foldl (fun n c ↦ n ||| whoOf c) who
    let who := if who = 0 then 0o111 else who
    match s.drop names.length with
    | [] => if names = [] && s = [] then some allowed else none
    | op :: rest =>
      if !("=+-".toList.contains op) then none
      else
        let letters := rest.takeWhile fun c ↦ "rwxugoXs".toList.contains c
        let bits := letters.foldl (fun n c ↦ n ||| bitsOf before c) 0 % 8 * who
        let allowed :=
          match op with
          | '-' => allowed &&& (0o777 ^^^ bits &&& 0o777)
          | '=' => bits ||| allowed &&& (0o777 ^^^ who * 7 &&& 0o777)
          | _ => allowed ||| bits
        match rest.drop letters.length with
        | [] => some allowed
        | ',' :: rest => allow? before fuel 0 allowed rest
        | c :: rest =>
          if ['=', '+', '-'].contains c then allow? before fuel who allowed (c :: rest)
          else none

def runUmask (args : List Letters) : Act Nat := do
  let (given, args) ← options (plainly "S") args
  let mask := (← get).umask
  match args with
  | [] =>
    if given ≠ [] then sayLine (showMask mask)
    else
      let digits := Nat.toDigits 8 mask
      sayLine (List.replicate (4 - digits.length) '0' ++ digits)
  | arg :: _ =>
    if arg.head?.any Char.isDigit then
      if !arg.all fun c ↦ '0' ≤ c && c ≤ '7' then refuseNumber arg
      let n := arg.foldl (fun n c ↦ (8 * n + digitValue c) % 0o1000) 0
      modify fun sh ↦ { sh with umask := n }
    else
      let before := 0o777 - mask
      match allow? before (arg.length + 1) 0 before arg with
      | some allowed => modify fun sh ↦ { sh with umask := 0o777 - allowed % 0o1000 }
      | none => fail ("Illegal mode: ".toList ++ arg)
  return 0

end BuildMatrix.Script
