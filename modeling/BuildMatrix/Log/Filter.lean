import BuildMatrix.Log
import BuildMatrix.Text.Numeral
import BuildMatrix.Text.Regex

namespace BuildMatrix.Log

/-- The rank that a level or a number from 0 to 5 stands for; `off` has the rank 0. -/
def rank? (s : List Char) : Option Nat :=
  let number := if s.head? = some '+' then s.tail else s
  if number ≠ [] ∧ number.all Char.isDigit then
    let n := number.foldl (fun n c ↦ 10 * n + (c.toNat - '0'.toNat)) 0
    if n ≤ 5 then some n else none
  else
    match String.ofList (Text.lower s) with
    | "off" => some 0
    | "error" => some 1
    | "warn" => some 2
    | "info" => some 3
    | "debug" => some 4
    | "trace" => some 5
    | _ => none

/-- Lets lines through up to a rank: those of a scope that starts with `target`, that name all the
fields. One that asks for a span, or for the value of a field, lets no line through. -/
structure Directive where
  target : Option (List Char) := none
  span : Option (List Char) := none
  fields : List (List Char × Option (List Char)) := []
  rank : Nat := 5
  deriving DecidableEq, Inhabited

namespace Directive

/-- Where the reading of a directive stands: `from` is where the part at hand began. -/
inductive Reading where
  | start
  | levelOrTarget
  | span (begin : Nat)
  | field (begin : Nat)
  | fields
  | target
  | level (begin : Nat)
  deriving DecidableEq, Inhabited

def slice (s : List Char) (i j : Nat) : List Char := (s.take j).drop i

def field? (s : List Char) : Option (List Char × Option (List Char)) :=
  if s = [] then none
  else
    match s.dropWhile (· ≠ '=') with
    | [] => some (s, none)
    | _ :: rest =>
      let value := rest.takeWhile (· ≠ '=')
      if Text.isNumeral value || Text.isRegex value then
        some (s.takeWhile (· ≠ '='), some value)
      else none

/-- One step at the character `c`, which is number `i`. Parts are cut from `whole`. -/
def step (whole : List Char) (i : Nat) (c : Char) :
    Directive × Reading → Option (Directive × Reading)
  | (d, .start) =>
    if c = '[' then some (d, .span (i + 1))
    else if ['-', ':', '_'].contains c || Text.isAlphanumeric c then some (d, .levelOrTarget)
    else none
  | (d, .levelOrTarget) =>
    if c = '=' then some ({ d with target := some (slice whole 0 i) }, .level (i + 1))
    else if c = '[' then some ({ d with target := some (slice whole 0 i) }, .span (i + 1))
    else some (d, .levelOrTarget)
  | (d, .span begin) =>
    let name := slice whole begin i
    if c = ']' then some ({ d with span := some name }, .target)
    else if c = '\x7b' then
      some ({ d with span := if name = [] then none else some name }, .field (i + 1))
    else some (d, .span begin)
  | (d, .field begin) =>
    if c = '\x7d' then do
      let f ← field? (slice whole begin i)
      some ({ d with fields := d.fields ++ [f] }, .fields)
    else some (d, .field begin)
  | (d, .fields) => if c = ']' then some (d, .target) else none
  | (d, .target) => if c = '=' then some (d, .level (i + 1)) else none
  | (d, .level begin) => some (d, .level begin)

/-- A directive without a level lets all levels through. -/
def finish (whole : List Char) : Directive × Reading → Option Directive
  | (d, .levelOrTarget) =>
    match rank? whole with
    | some rank => some { d with rank := rank }
    | none => some { d with target := some whole }
  | (d, .level begin) =>
    let level := whole.drop begin
    if level = [] then some d else (rank? level).map fun rank ↦ { d with rank := rank }
  | (d, .target) => some d
  | _ => none

def readFrom (whole : List Char) :
    Nat → List Char → Directive × Reading → Option (Directive × Reading)
  | _, [], r => some r
  | i, c :: rest, r => do readFrom whole (i + 1) rest (← step whole i c r)

/-- Reads `target[span{field=value}]=level`, of which most may be missing. The blanks around it
decide nothing, but the parts are counted from them on. -/
def parse? (s : List Char) : Option Directive :=
  (readFrom s 0 (Text.trim s) ({}, .start)).bind (finish s)

def isStatic (d : Directive) : Bool := d.span.isNone && d.fields.all fun f ↦ f.2.isNone

def matches? (d : Directive) (l : Line) : Bool :=
  d.isStatic && d.target.all (fun t ↦ t.isPrefixOf l.scope.toList) &&
    d.fields.all fun f ↦ l.fieldNames.contains (String.ofList f.1)

def reach (d : Directive) : Nat :=
  match d.target with
  | some t => t.length + 1
  | none => 0

def fieldNames (d : Directive) : List (List Char) := d.fields.map Prod.fst

def yields (d e : Directive) : Bool :=
  d.reach < e.reach || d.reach == e.reach &&
    (d.fields.length < e.fields.length || d.fields.length == e.fields.length &&
      !e.fieldNames.lex d.fieldNames fun a b ↦ a.lex b fun x y ↦ x < y)

end Directive

abbrev Filter := List Directive

namespace Filter

def parse? (s : String) : Option Filter := do
  let ds ← ((s.splitOn ",").filter (· ≠ "")).mapM fun d ↦ Directive.parse? d.toList
  return if ds = [] then [{ rank := 1 }] else ds

/-- Of the directives that a line matches the most specific one decides, of equals the last. -/
def decides (f : Filter) (l : Line) : Option Directive :=
  (f.filter (·.matches? l)).foldl
    (fun best d ↦
      match best with
      | some b => if b.yields d then some d else best
      | none => some d)
    none

def passes (f : Filter) (l : Line) : Bool := (f.decides l).any fun d ↦ l.level.rank ≤ d.rank

end Filter

end BuildMatrix.Log
