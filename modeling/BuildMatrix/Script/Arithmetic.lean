import BuildMatrix.Number.Power
import BuildMatrix.Script.Integer

namespace BuildMatrix.Script.Arithmetic

inductive Operation where
  | multiply
  | divide
  | remainder
  | add
  | subtract
  | shiftLeft
  | shiftRight
  | less
  | lessEqual
  | greater
  | greaterEqual
  | equal
  | notEqual
  | both
  | exclusive
  | either
  deriving DecidableEq, Inhabited

/-- Operations of a lower rank bind more tightly. -/
def Operation.rank : Operation → Nat
  | multiply | divide | remainder => 0
  | add | subtract => 1
  | shiftLeft | shiftRight => 2
  | less | lessEqual | greater | greaterEqual => 3
  | equal | notEqual => 4
  | both => 5
  | exclusive => 6
  | either => 7

inductive Token where
  | number (i : Int)
  | name (s : Letters)
  | operation (o : Operation)
  | assign (o : Option Operation)
  | bitNot
  | not
  | andThen
  | orElse
  | question
  | colon
  | open
  | close
  | bad
  | finish
  deriving DecidableEq, Inhabited

def orAssign (o : Operation) : Letters → Token × Letters
  | '=' :: r => (.assign (some o), r)
  | r => (.operation o, r)

def next (s : Letters) : Token × Letters :=
  match s.dropWhile fun c ↦ c = ' ' || c = '\t' || c = '\n' with
  | [] => (.finish, [])
  | '=' :: '=' :: r => (.operation .equal, r)
  | '=' :: r => (.assign none, r)
  | '>' :: '=' :: r => (.operation .greaterEqual, r)
  | '>' :: '>' :: r => orAssign .shiftRight r
  | '>' :: r => (.operation .greater, r)
  | '<' :: '=' :: r => (.operation .lessEqual, r)
  | '<' :: '<' :: r => orAssign .shiftLeft r
  | '<' :: r => (.operation .less, r)
  | '|' :: '|' :: r => (.orElse, r)
  | '|' :: r => orAssign .either r
  | '&' :: '&' :: r => (.andThen, r)
  | '&' :: r => orAssign .both r
  | '!' :: '=' :: r => (.operation .notEqual, r)
  | '!' :: r => (.not, r)
  | '(' :: r => (.open, r)
  | ')' :: r => (.close, r)
  | '*' :: r => orAssign .multiply r
  | '/' :: r => orAssign .divide r
  | '%' :: r => orAssign .remainder r
  | '+' :: r => orAssign .add r
  | '-' :: r => orAssign .subtract r
  | '~' :: r => (.bitNot, r)
  | '^' :: r => orAssign .exclusive r
  | '?' :: r => (.question, r)
  | ':' :: r => (.colon, r)
  | c :: r =>
    if c.isDigit then
      let n := readNumeral 0 (c :: r)
      (.number (clamp n.value), n.rest)
    else if isNameStart c then
      let (name, rest) := splitName (c :: r)
      (.name name, rest)
    else (.bad, c :: r)

inductive Fault where
  /-- What is missing. -/
  | expecting (what : String)
  | divisionByZero
  /-- A division whose result is too large: the machine stops the program. -/
  | overflow
  | illegalNumber (s : Letters)
  | readOnly (name : Letters)
  deriving DecidableEq, Inhabited

structure Store (σ : Type) where
  get : σ → Letters → Letters
  set : σ → Letters → Letters → Option σ

structure Work (σ : Type) where
  store : σ
  rest : Letters
  last : Token := .finish

variable {σ : Type} (access : Store σ)

/-- What has been set stays so if the expression fails later. -/
abbrev Eval (σ α : Type) := ExceptT Fault (StateM (Work σ)) α

def advance : Eval σ Token := do
  let (t, rest) := next (← get).rest
  modify fun w ↦ { w with rest := rest }
  return t

def setLast (t : Token) : Eval σ Unit := modify fun w ↦ { w with last := t }

def unsigned (i : Int) : Nat := (i.emod 18446744073709551616).toNat

def flag (b : Bool) : Int := if b then 1 else 0

def apply (o : Operation) (a b : Int) : Except Fault Int :=
  match o with
  | .divide =>
    if b = 0 then .error .divisionByZero
    else if a = leastInt ∧ b = -1 then .error .overflow
    else .ok (a.tdiv b)
  | .remainder =>
    if b = 0 then .error .divisionByZero
    else if a = leastInt ∧ b = -1 then .error .overflow
    else .ok (a.tmod b)
  | .multiply => .ok (wrap (a * b))
  | .add => .ok (wrap (a + b))
  | .subtract => .ok (wrap (a - b))
  | .shiftLeft => .ok (wrap (a * Number.twoTo (unsigned b % 64)))
  | .shiftRight => .ok (a / Number.twoTo (unsigned b % 64))
  | .less => .ok (flag (a < b))
  | .lessEqual => .ok (flag (a ≤ b))
  | .greater => .ok (flag (b < a))
  | .greaterEqual => .ok (flag (b ≤ a))
  | .equal => .ok (flag (a = b))
  | .notEqual => .ok (flag (a ≠ b))
  | .both => .ok (wrap ↑(unsigned a &&& unsigned b))
  | .exclusive => .ok (wrap ↑(unsigned a ^^^ unsigned b))
  | .either => .ok (wrap ↑(unsigned a ||| unsigned b))

def valueOf (name : Letters) : Eval σ Int := do
  let s := access.get (← get).store name
  match integer? 0 s with
  | some i => return i
  | none => throw (.illegalNumber s)

def store (name : Letters) (i : Int) : Eval σ Int := do
  match access.set (← get).store name (showInt i) with
  | some s =>
    modify fun w ↦ { w with store := s }
    return i
  | none => throw (.readOnly name)

mutual

/-- A number, a variable, an expression in parentheses, or a sign before one of them. The first
two tokens have been read. With `idle` the value does not matter and nothing is looked up. -/
def primary (fuel : Nat) (token after : Token) (idle : Bool) : Eval σ Int :=
  match fuel with
  | 0 => throw (.expecting "primary")
  | fuel + 1 => do
    match token with
    | .open =>
      let i ← assignment fuel after idle
      if (← get).last ≠ .close then throw (.expecting "')'")
      setLast (← advance)
      return i
    | .number i =>
      setLast after
      return i
    | .name s =>
      setLast after
      if idle then return 0 else valueOf access s
    | .operation .add => primary fuel after (← advance) idle
    | .operation .subtract => return wrap (-(← primary fuel after (← advance) idle))
    | .not => return flag ((← primary fuel after (← advance) idle) = 0)
    | .bitNot => return -(← primary fuel after (← advance) idle) - 1
    | _ => throw (.expecting "primary")

/-- Goes on after an operation, as long as the operations that follow bind more tightly than
`limit`. -/
def chain (fuel : Nat) (a : Int) (o : Operation) (limit : Nat) (idle : Bool) : Eval σ Int :=
  match fuel with
  | 0 => throw (.expecting "primary")
  | fuel + 1 => do
    let token ← advance
    let b ← primary fuel token (← advance) idle
    let b ← match (← get).last with
      | .operation p => if p.rank < o.rank then chain fuel b p o.rank idle else pure b
      | _ => pure b
    let a ← if idle then pure b else apply o a b
    match (← get).last with
    | .operation p => if limit ≤ p.rank then return a else chain fuel a p limit idle
    | _ => return a

def binary (fuel : Nat) (token after : Token) (idle : Bool) : Eval σ Int :=
  match fuel with
  | 0 => throw (.expecting "primary")
  | fuel + 1 => do
    let a ← primary fuel token after idle
    match (← get).last with
    | .operation o => chain fuel a o 8 idle
    | _ => return a

def conjunction (fuel : Nat) (token after : Token) (idle : Bool) : Eval σ Int :=
  match fuel with
  | 0 => throw (.expecting "primary")
  | fuel + 1 => do
    let a ← binary fuel token after idle
    if (← get).last ≠ .andThen then return a
    let token ← advance
    let b ← conjunction fuel token (← advance) (idle || a = 0)
    return flag (a ≠ 0 ∧ b ≠ 0)

def disjunction (fuel : Nat) (token after : Token) (idle : Bool) : Eval σ Int :=
  match fuel with
  | 0 => throw (.expecting "primary")
  | fuel + 1 => do
    let a ← conjunction fuel token after idle
    if (← get).last ≠ .orElse then return a
    let token ← advance
    let b ← disjunction fuel token (← advance) (idle || a ≠ 0)
    return flag (a ≠ 0 ∨ b ≠ 0)

def conditional (fuel : Nat) (token after : Token) (idle : Bool) : Eval σ Int :=
  match fuel with
  | 0 => throw (.expecting "primary")
  | fuel + 1 => do
    let a ← disjunction fuel token after idle
    if (← get).last ≠ .question then return a
    let b ← assignment fuel (← advance) (idle || a = 0)
    if (← get).last ≠ .colon then throw (.expecting "':'")
    let token ← advance
    let c ← conditional fuel token (← advance) (idle || a ≠ 0)
    return if a ≠ 0 then b else c

def assignment (fuel : Nat) (token : Token) (idle : Bool) : Eval σ Int :=
  match fuel with
  | 0 => throw (.expecting "primary")
  | fuel + 1 => do
    let after ← advance
    match token, after with
    | .name s, .assign o =>
      let i ← assignment fuel (← advance) idle
      if idle then return i
      let i ← match o with
        | none => pure i
        | some o => apply o (← valueOf access s) i
      store access s i
    | _, _ => conditional fuel token after idle

end

def evaluate (s : Letters) (store : σ) : Except Fault Int × σ :=
  let whole : Eval σ Int := do
    let i ← assignment access (4 * s.length + 10) (← advance) false
    if (← get).last ≠ .finish then throw (.expecting "EOF")
    return i
  let (i, w) := whole.run.run { store := store, rest := s }
  (i, w.store)

end BuildMatrix.Script.Arithmetic
