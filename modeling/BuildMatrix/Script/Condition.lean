import BuildMatrix.Script.Device
import BuildMatrix.Script.Glob
import BuildMatrix.Script.State

namespace BuildMatrix.Script

namespace Condition

inductive Sign where
  | unary (c : Char)
  | binary (s : Letters)
  | not
  | both
  | either
  | open
  | close
  deriving DecidableEq, Inhabited

def unaries : Letters :=
  ['r', 'w', 'x', 'e', 'f', 'd', 'c', 'b', 'p', 'u', 'g', 'k', 's', 't', 'z', 'n', 'h', 'O', 'G',
    'L', 'S']

def binaries : List Letters :=
  ["=", "!=", "<", ">", "-eq", "-ne", "-gt", "-ge", "-lt", "-le", "-nt", "-ot", "-ef"].map
    String.toList

def sign? (s : Letters) : Option Sign :=
  match s with
  | ['!'] => some .not
  | ['-', 'a'] => some .both
  | ['-', 'o'] => some .either
  | ['('] => some .open
  | [')'] => some .close
  | s =>
    if binaries.contains s then some (.binary s)
    else
      match s with
      | ['-', c] => if unaries.contains c then some (.unary c) else none
      | _ => none

def isBinary (s : Letters) : Bool :=
  match sign? s with
  | some (.binary _) => true
  | _ => false

inductive Lexeme where
  | finish
  | operand
  | sign (s : Sign)
  deriving DecidableEq, Inhabited

/-- A sign with one argument is an operand at the end, or before a sign with two; a parenthesis is
one at the end. -/
def lexeme (words : Array Letters) (i : Nat) : Lexeme :=
  match words[i]? with
  | none => .finish
  | some s =>
    match sign? s with
    | some (.unary c) =>
      let operand := match words[i + 1]?, words[i + 2]? with
        | none, _ => true
        | some _, none => false
        | some next, some _ => isBinary next
      if operand then .operand else .sign (.unary c)
    | some .open => if (words[i + 1]?).isNone then .operand else .sign .open
    | some s => .sign s
    | none => .operand

abbrev Check := StateT Nat Act

def refuse {α : Type} (s : Letters) (what : String) : Check α :=
  StateT.lift <| fail <| if s = [] then what.toList else s ++ ": ".toList ++ what.toList

def number (s : Letters) : Check Int := do
  match integer? 10 s with
  | some i => return i
  | none => StateT.lift (fail ("Illegal number: ".toList ++ s))

def file (c : Char) (name : Letters) : Check Bool := do
  let sh ← get (m := Act)
  let tree := sh.world.tree
  let p := pathOf name
  let node := if c = 'h' || c = 'L' then tree.entry? sh.cwd p else tree.node? sh.cwd p
  let isDevice := match tree.resolve sh.cwd p with
    | .ok l => (Device.ofLocation? l).any Device.isCharacter
    | .error _ => false
  match node with
  | .error _ => return false
  | .ok n =>
    match c, n with
    | 'f', .file .. => return !isDevice
    | 'c', .file .. => return isDevice
    | 'd', .directory => return true
    | 'h', .link _ | 'L', .link _ => return true
    | 's', .file content _ => return content ≠ []
    | 's', _ => return true
    | 'x', .file _ executable => return executable
    | 'x', _ => return true
    | c, _ => return ['e', 'r', 'w', 'O', 'G'].contains c

def unary (c : Char) (s : Letters) : Check Bool := do
  if c = 'z' then return s = []
  else if c = 'n' then return s ≠ []
  else if c = 't' then
    discard <| number s
    return false
  else file c s

def sameFile (a b : Letters) : Check Bool := do
  let sh ← get (m := Act)
  match sh.world.tree.resolve sh.cwd (pathOf a), sh.world.tree.resolve sh.cwd (pathOf b) with
  | .ok l, .ok k => return l = k
  | _, _ => return false

def binary (op a b : Letters) : Check Bool := do
  match String.ofList op with
  | "=" => return a = b
  | "!=" => return a ≠ b
  | "<" => return before a b
  | ">" => return before b a
  | "-eq" => return (← number a) = (← number b)
  | "-ne" => return (← number a) ≠ (← number b)
  | "-gt" => return (← number a) > (← number b)
  | "-ge" => return (← number a) ≥ (← number b)
  | "-lt" => return (← number a) < (← number b)
  | "-le" => return (← number a) ≤ (← number b)
  | "-ef" => sameFile a b
  | _ => return false

def here : Check Nat := getThe Nat

def step (n : Nat) : Check Unit := modifyThe Nat (· + n)

mutual

/-- A condition with `-o` between its parts; all parts are looked at. -/
def either (words : Array Letters) (fuel : Nat) (l : Lexeme) : Check Bool :=
  match fuel with
  | 0 => refuse [] "too long"
  | fuel + 1 => do
    let a ← both words fuel l
    if lexeme words ((← here) + 1) ≠ .sign .either then return a
    step 2
    let b ← either words fuel (lexeme words (← here))
    return a || b

def both (words : Array Letters) (fuel : Nat) (l : Lexeme) : Check Bool :=
  match fuel with
  | 0 => refuse [] "too long"
  | fuel + 1 => do
    let a ← negated words fuel l
    if lexeme words ((← here) + 1) ≠ .sign .both then return a
    step 2
    let b ← both words fuel (lexeme words (← here))
    return a && b

def negated (words : Array Letters) (fuel : Nat) (l : Lexeme) : Check Bool :=
  match fuel with
  | 0 => refuse [] "too long"
  | fuel + 1 => do
    if l ≠ .sign .not then return ← primary words fuel l
    let l := lexeme words ((← here) + 1)
    if l ≠ .finish then step 1
    return !(← negated words fuel l)

def primary (words : Array Letters) (fuel : Nat) (l : Lexeme) : Check Bool :=
  match fuel with
  | 0 => refuse [] "too long"
  | fuel + 1 => do
    match l with
    | .finish => return false
    | .sign .open =>
      step 1
      let l := lexeme words (← here)
      if l = .sign .close then return false
      let b ← either words fuel l
      step 1
      if lexeme words (← here) ≠ .sign .close then refuse [] "closing paren expected"
      return b
    | .sign (.unary c) =>
      step 1
      match words[← here]? with
      | none => refuse ['-', c] "argument expected"
      | some s => unary c s
    | _ =>
      let i ← here
      let s := (words[i]?).getD []
      match words[i + 1]? with
      | none => return s ≠ []
      | some op =>
        if !isBinary op then return s ≠ []
        step 2
        match words[i + 2]? with
        | none => refuse op "argument expected"
        | some t => binary op s t

end

def whole (words : List Letters) (operand : Bool) : Act Bool := do
  let a := words.toArray
  let (b, i) ← (either a (4 * a.size + 10) (if operand then .operand else lexeme a 0)).run 0
  if i + 1 < a.size then
    let s := (a[i]?).getD []
    fail (if s = [] then "unexpected operator".toList else s ++ ": unexpected operator".toList)
  return b

/-- The value of the words as a condition. Three or four words are told apart by the first and the
last of them; there a second sign of negation counts no more than one. -/
def evaluate (fuel : Nat) (words : List Letters) (negated : Bool) : Act Bool :=
  match fuel with
  | 0 => return false
  | fuel + 1 => do
    let answer (b : Bool) : Bool := b != negated
    let short := words.length = 3 || words.length = 4
    if words = [] then return negated
    else if words.length = 3 && isBinary ((words[1]?).getD []) then
      return answer (← whole words true)
    else if short && words.head? = some ['('] && words.getLast? = some [')'] then
      return answer (← whole (words.drop 1).dropLast false)
    else if short && words.head? = some ['!'] then evaluate fuel (words.drop 1) true
    else return answer (← whole words false)

end Condition

end BuildMatrix.Script
