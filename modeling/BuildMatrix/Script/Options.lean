import BuildMatrix.Script.State

namespace BuildMatrix.Script

/-- Options that a command knows by their letters, some of them with a text that goes with them. -/
abbrev Known := List (Char × Bool)

def plainly (letters : String) : Known := letters.toList.map fun c ↦ (c, false)

abbrev Given := Char × Letters

def readCluster (known : Known) : Letters → List Letters → Act (List Given × List Letters)
  | [], args => return ([], args)
  | c :: rest, args =>
    match known.lookup c with
    | none => fail ("Illegal option -".toList ++ [c])
    | some false => do
      let (given, args) ← readCluster known rest args
      return ((c, []) :: given, args)
    | some true =>
      match rest, args with
      | _ :: _, _ => return ([(c, rest)], args)
      | [], s :: args => return ([(c, s)], args)
      | [], [] => fail ("No arg for -".toList ++ [c] ++ " option".toList)

def readOptions (known : Known) : Nat → List Letters → Act (List Given × List Letters)
  | fuel + 1, ('-' :: c :: letters) :: args => do
    if c = '-' && letters = [] then return ([], args)
    let (given, args) ← readCluster known (c :: letters) args
    let (more, args) ← readOptions known fuel args
    return (given ++ more, args)
  | _, args => return ([], args)

def options (known : Known) (args : List Letters) : Act (List Given × List Letters) :=
  readOptions known (args.length + 1) args

def operands (args : List Letters) : Act (List Letters) := return (← options [] args).2

end BuildMatrix.Script
