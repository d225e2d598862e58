import BuildMatrix.Script.Options

namespace BuildMatrix.Script

def choose (x : Setting) (on : Bool) : Act Unit := do
  modify fun sh ↦ { sh with settings := Setting.put x on sh.settings }
  if on && x = .vi then
    modify fun sh ↦ { sh with settings := Setting.put .emacs false sh.settings }
  if on && x = .emacs then
    modify fun sh ↦ { sh with settings := Setting.put .vi false sh.settings }

def listSettings (asCommands : Bool) : Act Unit := do
  let sh ← get
  if !asCommands then sayLine "Current option settings".toList
  for (x, name, _) in Setting.table do
    let on := sh.has x
    if asCommands then
      sayLine ((if on then "set -o " else "set +o ").toList ++ name.toList)
    else
      let gap := List.replicate (16 - name.length) ' '
      sayLine (name.toList ++ gap ++ (if on then "on" else "off").toList)

structure Settled where
  asksText : Bool := false
  args : List Letters

def readSettings (atStart on : Bool) : Letters → Settled → Act Settled
  | [], s => return s
  | 'o' :: rest, s => do
    match s.args with
    | [] => listSettings (!on)
    | name :: _ =>
      match Setting.ofName? name with
      | some x => modify fun sh ↦ { sh with settings := Setting.put x on sh.settings }
      | none => fail ("Illegal option -o ".toList ++ name)
    readSettings atStart on rest { s with args := s.args.drop 1 }
  | c :: rest, s => do
    if atStart && c = 'c' then readSettings atStart on rest { s with asksText := true }
    else if atStart && c = 'l' then readSettings atStart on rest s
    else
      match Setting.ofLetter? c with
      | some x =>
        choose x on
        readSettings atStart on rest s
      | none => fail ("Illegal option -".toList ++ [c])

/-- The settings at the front of arguments. A dash alone ends them; so do two, and then the
parameters are set even if none follow. -/
def settle (atStart : Bool) : Nat → Settled → Act Settled
  | 0, s => return s
  | fuel + 1, s => do
    match s.args with
    | ['-'] :: rest =>
      if !atStart then
        choose .xtrace false
        choose .verbose false
      return { s with args := rest }
    | ['-', '-'] :: rest =>
      if !atStart && rest = [] then
        modify fun sh ↦ { sh with params := [], optionPlace := (1, none) }
      return { s with args := rest }
    | ('-' :: letters) :: rest =>
      settle atStart fuel (← readSettings atStart true letters { s with args := rest })
    | ('+' :: letters) :: rest =>
      settle atStart fuel (← readSettings atStart false letters { s with args := rest })
    | _ => return s

def refuseControl : Act Unit := do
  if (← has .monitor) then
    warn "can't access tty; job control turned off".toList
    choose .monitor false

def changeSettings (atStart : Bool) (args : List Letters) : Act Settled := do
  settle atStart (args.length + 1) { args := args }

end BuildMatrix.Script
