import BuildMatrix.Script.Real

namespace BuildMatrix.Script

def isOctal (c : Char) : Bool := '0' ≤ c && c ≤ '7'

/-- The character that an escape after a backslash stands for, and what follows it. One that means
nothing leaves the backslash, and its character is read again. -/
def readEscape : Letters → Char × Letters
  | [] => ('\\', [])
  | c :: r =>
    if isOctal c then
      let digits := ((c :: r).takeWhile isOctal).take 3
      let n := digits.foldl (fun n c ↦ 8 * n + digitValue c) 0
      (Char.ofNat (n % 256), (c :: r).drop digits.length)
    else
      match c with
      | '\\' => ('\\', r)
      | 'a' => ('\x07', r)
      | 'b' => ('\x08', r)
      | 'e' => ('\x1b', r)
      | 'f' => ('\x0c', r)
      | 'n' => ('\n', r)
      | 'r' => ('\r', r)
      | 't' => ('\t', r)
      | 'v' => ('\x0b', r)
      | _ => ('\\', c :: r)

/-- A text with its escapes read, and whether one of them asks to stop there. A zero may stand
before three octal digits. -/
def unescape : Nat → Letters → Letters × Bool
  | 0, _ => ([], false)
  | _ + 1, [] => ([], false)
  | _ + 1, '\\' :: 'c' :: _ => ([], true)
  | fuel + 1, '\\' :: r =>
    let r := match r with
      | '0' :: d :: more => if isOctal d then d :: more else r
      | _ => r
    let (c, rest) := readEscape r
    let (s, stop) := unescape fuel rest
    (c :: s, stop)
  | fuel + 1, c :: r =>
    let (s, stop) := unescape fuel r
    (c :: s, stop)

def unescapeAll (s : Letters) : Letters × Bool := unescape (s.length + 1) s

def echo (args : List Letters) : Letters :=
  let (quiet, args) :=
    match args with
    | ['-', 'n'] :: rest => (true, rest)
    | _ => (false, args)
  let (s, stop) := unescapeAll ([' '].intercalate args)
  if stop || quiet then s else s ++ ['\n']

structure Printing where
  output : List Letters := []
  warnings : List Letters := []
  args : List Letters
  failed : Bool := false
  stopped : Bool := false
  /-- Why nothing more is written. -/
  error : Option Letters := none
  deriving Inhabited

namespace Printing

def put (p : Printing) (s : Letters) : Printing := { p with output := s :: p.output }

def take (p : Printing) : Option Letters × Printing :=
  (p.args.head?, { p with args := p.args.drop 1 })

def check (p : Printing) (s rest : Letters) (found outOfRange : Bool) : Printing :=
  let complain (what : String) : Printing :=
    { p with warnings := (s ++ ": ".toList ++ what.toList) :: p.warnings, failed := true }
  if rest ≠ [] then
    complain (if found then "not completely converted" else "expected numeric value")
  else if outOfRange then complain "Numerical result out of range"
  else p

/-- The next argument as a number; after a quote the number of a character. -/
def takeInt (p : Printing) (unsigned : Bool) : Int × Printing :=
  match p.take with
  | (none, p) => (0, p)
  | (some s, p) =>
    match s with
    | '\'' :: r | '"' :: r => ((r.head?.elim 0 Char.toNat : Nat), p)
    | s =>
      let n := readNumeral 0 s
      if unsigned then
        let tooLarge := 18446744073709551615 < n.value.natAbs
        let value : Int := if tooLarge then 18446744073709551615
          else n.value.emod 18446744073709551616
        (value, p.check s n.rest n.found tooLarge)
      else (clamp n.value, p.check s n.rest n.found (clamp n.value ≠ n.value))

def takeReal (p : Printing) : Real × Printing :=
  match p.take with
  | (none, p) => (.zero false, p)
  | (some s, p) =>
    match s with
    | '\'' :: r | '"' :: r => (.finite false (.ofRatio (r.head?.elim 0 Char.toNat) 1), p)
    | s =>
      let x := Real.read s
      (x.value, p.check s x.rest x.found x.isPoor)

def setFlag (l : Layout) (c : Char) : Layout :=
  match c with
  | '-' => { l with left := true }
  | '+' => { l with plus := true }
  | ' ' => { l with blank := true }
  | '0' => { l with zero := true }
  | _ => { l with alternate := true }

def isFlag (c : Char) : Bool := ['#', '-', '+', ' ', '0'].contains c

def isCount (c : Char) : Bool := c = '*' || c.isDigit

def countOf (s : Letters) : Nat :=
  (s.takeWhile Char.isDigit).foldl (fun n c ↦ 10 * n + digitValue c) 0

/-- A width or a precision: digits, or a star that takes an argument, of which 32 bits count. -/
def readCount (p : Printing) (s : Letters) : Option Int × Letters × Printing :=
  match s with
  | '*' :: r =>
    let (i, p) := p.takeInt false
    (some (i.bmod 4294967296), r, p)
  | s =>
    let digits := s.takeWhile isCount
    (if digits = [] then none else some (countOf digits), s.drop digits.length, p)

def countLimit : Nat := 2147483647

def directive (p : Printing) (s : Letters) : Letters × Printing :=
  let flags := s.takeWhile isFlag
  let layout := flags.foldl setFlag {}
  let (width, t, p) := p.readCount (s.drop flags.length)
  let layout := match width with
    | some w => { layout with width := w.natAbs, left := layout.left || w < 0 }
    | none => layout
  let (layout, t, p) : Layout × Letters × Printing :=
    match t with
    | '.' :: r =>
      let (precision, t, p) := p.readCount r
      match precision with
      | some n => (if n < 0 then layout else { layout with precision := some n.toNat }, t, p)
      | none => ({ layout with precision := some 0 }, t, p)
    | t => (layout, t, p)
  match t with
  | [] => ([], { p with error := some "missing format character".toList })
  | c :: rest =>
    let fits := layout.width ≤ countLimit && layout.precision.all (· ≤ countLimit)
    let layout := if fits then layout else {}
    let write (p : Printing) (s : Letters) : Printing :=
      if fits then p.put s else { p with error := some "xvsnprintf failed".toList }
    let cut (s : Letters) := match layout.precision with
      | some n => s.take n
      | none => s
    if c = 'b' then
      let (a, p) := p.take
      let (s, stop) := unescapeAll (a.getD [])
      let p := write p (layout.pad (cut s))
      (rest, if stop then { p with stopped := true } else p)
    else if c = 'c' then
      let (a, p) := p.take
      (rest, write p (layout.pad (((a.getD []).head?.getD '\x00') :: [])))
    else if c = 's' then
      let (a, p) := p.take
      (rest, write p (layout.pad (cut (a.getD []))))
    else if c = 'd' || c = 'i' then
      let (i, p) := p.takeInt false
      (rest, write p (layout.signed i))
    else if ['o', 'u', 'x', 'X'].contains c then
      let (i, p) := p.takeInt true
      (rest, write p (layout.unsigned c i.toNat))
    else if "eEfFgGaA".toList.contains c then
      let (x, p) := p.takeReal
      (rest, write p (x.set layout c))
    else
      let shown := s.take (s.length - rest.length)
      (rest, { p with error := some ('%' :: shown ++ ": invalid directive".toList) })

def pass : Nat → Letters → Printing → Printing
  | 0, _, p => p
  | _ + 1, [], p => p
  | fuel + 1, '\\' :: r, p =>
    let (c, rest) := readEscape r
    pass fuel rest (p.put [c])
  | fuel + 1, '%' :: '%' :: r, p => pass fuel r (p.put ['%'])
  | fuel + 1, '%' :: r, p =>
    let (rest, p) := p.directive r
    if p.stopped || p.error.isSome then p else pass fuel rest p
  | fuel + 1, c :: r, p => pass fuel r (p.put [c])

/-- The format is used again as long as it takes arguments. -/
def passes (format : Letters) : Nat → Printing → Printing
  | 0, p => p
  | fuel + 1, p =>
    let q := pass (format.length + 1) format p
    if q.stopped || q.error.isSome || q.args.isEmpty || q.args.length = p.args.length then q
    else passes format fuel q

end Printing

def printf (format : Letters) (args : List Letters) : Printing :=
  Printing.passes format (args.length + 1) { args := args }

end BuildMatrix.Script
