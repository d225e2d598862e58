import BuildMatrix.Script.Arithmetic
import BuildMatrix.Script.Fields
import BuildMatrix.Script.Pattern
import BuildMatrix.Script.State

namespace BuildMatrix.Script

structure Manner where
  /-- It may become several fields. -/
  fields : Bool := false
  /-- It becomes a pattern. -/
  pattern : Bool := false
  /-- A tilde at its front stands for a directory. -/
  tilde : Bool := false
  /-- So does one after the first `=`, and after colons. -/
  assignment : Bool := false
  afterEquals : Bool := false
  quoted : Bool := false
  /-- It stands inside a reference. -/
  inner : Bool := false
  /-- Nothing comes of it. -/
  discarded : Bool := false
  deriving Inhabited

namespace Manner

def keepsQuotes (m : Manner) : Bool := m.fields || m.pattern

def word : Manner := { fields := true, tilde := true }

def single : Manner := { tilde := true }

def set : Manner := { assignment := true }

def document : Manner := { quoted := true }

def choice : Manner := { tilde := true, pattern := true }

end Manner

def glyphsOf (m : Manner) (s : Letters) : List Glyph :=
  s.map fun c ↦
    let guards := Reader.isInner c || m.quoted && (Reader.isGuarded c || c = '\\')
    .letter c (m.keepsQuotes && guards)

def accounts : List (String × String) :=
  [("root", "/root"), ("daemon", "/usr/sbin"), ("bin", "/bin"), ("sys", "/dev"), ("sync", "/bin"),
    ("games", "/usr/games"), ("man", "/var/cache/man"), ("lp", "/var/spool/lpd"),
    ("mail", "/var/mail"), ("news", "/var/spool/news"), ("uucp", "/var/spool/uucp"),
    ("proxy", "/bin"), ("www-data", "/var/www"), ("backup", "/var/backups"),
    ("list", "/var/list"), ("irc", "/run/ircd"), ("nobody", "/nonexistent")]

/-- The name between a tilde and the next slash, or colon in an assignment; none if something is
quoted or expanded there. -/
def tildeName? (m : Manner) : List Piece → Option Letters
  | [] => some []
  | .plain c :: rest =>
    if c = '/' || (c = ':' && m.assignment) then some []
    else (tildeName? m rest).map (c :: ·)
  | _ => none

def homeOf (name : Letters) : Act (Option Letters) := do
  if name = [] then lookup "HOME".toList
  else return (accounts.lookup (String.ofList name)).map String.toList

def expandTilde (m : Manner) (pieces : List Piece) (x : Expanding) :
    Act (List Piece × Expanding) := do
  match pieces with
  | .plain '~' :: rest =>
    match tildeName? m rest with
    | none => return (pieces, x)
    | some name =>
      let rest := rest.drop name.length
      if m.discarded then return (rest, x)
      match ← homeOf name with
      | some home => return (rest, x.append (glyphsOf { m with quoted := true } home))
      | none => return (pieces, x)
  | _ => return (pieces, x)

def separators : Act Letters := do return (← lookup "IFS".toList).getD [' ', '\t', '\n']

def settingLetters (sh : Shell) : Letters :=
  (Setting.table.reverse.filter fun e ↦ sh.has e.1).filterMap fun e ↦ e.2.2

def parameterList (m : Manner) (all : Bool) : Act (List Glyph) := do
  let sh ← get
  let parts := sh.params.map (glyphsOf m)
  let first : List Glyph :=
    match sh.bindings.get? "IFS".toList with
    | none => glyphsOf m [' ']
    | some ifs => glyphsOf m (ifs.take 1)
  let between : List Glyph :=
    if m.fields && m.quoted && !all then [.gap]
    else if m.fields && !m.quoted then
      if (sh.bindings.get? "IFS".toList).isNone then glyphsOf m [' '] else [.gap]
    else first
  return between.intercalate parts

def parameterValue (m : Manner) (name : Letters) : Act (Option (List Glyph)) := do
  let sh ← get
  let number (n : Nat) : Option (List Glyph) := some (glyphsOf m (showNat n))
  match name with
  | ['$'] => return number sh.rootId
  | ['?'] => return number sh.status
  | ['#'] => return number sh.params.length
  | ['!'] => return sh.lastJob.bind number
  | ['-'] => return some ((settingLetters sh).map fun c ↦ .letter c false)
  | ['@'] => return some (← parameterList m false)
  | ['*'] => return some (← parameterList m true)
  | c :: _ =>
    if c.isDigit then
      let n := name.foldl (fun n c ↦ 10 * n + digitValue c) 0
      if n = 0 then return some (glyphsOf m sh.name)
      return (sh.params[n - 1]?).map (glyphsOf m)
    return (sh.bindings.get? name).map (glyphsOf m)
  | [] => return none

def refuseUnset {α : Type} (name : Letters) (said : Option Letters) (orEmpty : Bool) : Act α :=
  fail <| name ++ ": ".toList ++
    match said with
    | some s => s
    | none => "parameter not set".toList ++ if orEmpty then " or null".toList else []

/-- The part of a text in front of the first gap. -/
def frontText (gs : List Glyph) : Letters := Glyph.text (gs.takeWhile (· ≠ .gap))

def dropStart (longest : Bool) (signs : List Sign) (gs : List Glyph) : List Glyph :=
  let places := List.range (gs.length + 1)
  match (if longest then places.reverse else places).find? fun n ↦
      fits signs (frontText (gs.take n)) with
  | some n => gs.drop n
  | none => gs

def dropEnd (longest : Bool) (signs : List Sign) (gs : List Glyph) : List Glyph :=
  let places := List.range (gs.length + 1)
  match (if longest then places else places.reverse).find? fun n ↦
      fits signs (frontText (gs.drop n)) with
  | some n => gs.take n
  | none => gs

def arithmeticStore : Arithmetic.Store Shell where
  get sh name := (sh.bindings.get? name).getD []
  set sh name value :=
    match (assign name value).run.run sh with
    | (.ok _, sh) => some sh
    | (.error _, _) => none

def evaluateArithmetic (s : Letters) : Act Int := do
  let (i, sh) := Arithmetic.evaluate arithmeticStore s (← get)
  set sh
  match i with
  | .ok i => return i
  | .error f =>
    let complaint (what : String) : Act Int :=
      fail ("arithmetic expression: ".toList ++ what.toList ++ ": \"".toList ++ s ++ ['"'])
    match f with
    | .expecting what => complaint ("expecting " ++ what)
    | .divisionByZero => complaint "division by zero"
    | .overflow => throw (.killed 8)
    | .illegalNumber n => fail ("Illegal number: ".toList ++ n)
    | .readOnly name => fail (name ++ ": is read only".toList)

/-- Adds plain characters to a word; inside a reference they are split. -/
def addPlain (m : Manner) (inQuotes : Bool) (s : Letters) (x : Expanding) : Expanding :=
  if m.discarded then x
  else
    let y := x.append (s.map fun c ↦ .letter c false)
    if m.inner && !m.quoted && !inQuotes && s ≠ [] then y.region x.size false else y

/-- The plain characters at the front of a word up to one after which a tilde counts. -/
def plainRun (m : Manner) : List Piece → Letters × List Piece
  | .plain c :: rest =>
    if m.assignment && (c = ':' || c = '=' && !m.afterEquals) then ([c], rest)
    else
      let (s, rest) := plainRun m rest
      (c :: s, rest)
  | rest => ([], rest)

/-- Whether a reference to all parameters stands alone between quotes. -/
def isQuotedAll : List Piece → Option (List Piece)
  | .parameter ['@'] .value false _ :: .mark :: rest => some rest
  | _ => none

abbrev Substitute := Option Tree → Act Letters

mutual

def expandPieces (substitute : Substitute) (fuel : Nat) (m : Manner) (pieces : List Piece)
    (x : Expanding) : Act Expanding :=
  match fuel with
  | 0 => throw .failure
  | fuel + 1 => do
    if m.tilde then
      let (pieces, x) ← expandTilde { m with tilde := false } pieces x
      expandFrom substitute fuel { m with tilde := false } false pieces x
    else expandFrom substitute fuel m false pieces x

def expandFrom (substitute : Substitute) (fuel : Nat) (m : Manner) (inQuotes : Bool)
    (pieces : List Piece) (x : Expanding) : Act Expanding :=
  match fuel with
  | 0 => throw .failure
  | fuel + 1 => do
    let within := { m with quoted := m.quoted || inQuotes }
    let put (g : Glyph) (x : Expanding) := if m.discarded then x else x.push g
    match pieces with
    | [] => return x
    | .plain c :: rest =>
      let (s, rest) := plainRun m (.plain c :: rest)
      let x := addPlain m inQuotes s x
      let last := s.getLast?
      if m.assignment && (last = some ':' || last = some '=' && !m.afterEquals) then
        let m := if last = some '=' then { m with afterEquals := true } else m
        let (rest, x) ← expandTilde m rest x
        expandFrom substitute fuel m inQuotes rest x
      else expandFrom substitute fuel m inQuotes rest x
    | .escaped c :: rest =>
      expandFrom substitute fuel m inQuotes rest (put (.letter c m.keepsQuotes) x)
    | .mark :: rest =>
      match if inQuotes then none else isQuotedAll rest with
      | some more =>
        let x ← expandParameter substitute fuel { m with quoted := true } ['@'] .value false [] x
        expandFrom substitute fuel m inQuotes more x
      | none =>
        let x := if m.keepsQuotes then put .mark x else x
        expandFrom substitute fuel m (!inQuotes) rest x
    | .parameter name .value true word :: _ =>
      /- A colon without a sign: the word up to the brace follows the value, and ends all. -/
      let x ← expandParameter substitute fuel within name .value true [] x
      expandFrom substitute fuel m inQuotes word x
    | .parameter name look orEmpty word :: rest =>
      let x ← expandParameter substitute fuel within name look orEmpty word x
      expandFrom substitute fuel m inQuotes rest x
    | .substitution body :: rest =>
      if m.discarded then expandFrom substitute fuel m inQuotes rest x
      else
        let s ← substitute body
        let s := (s.reverse.dropWhile (· = '\n')).reverse
        let y := x.append (glyphsOf within s)
        let y := if within.quoted then y else y.region x.size false
        expandFrom substitute fuel m inQuotes rest y
    | .arithmetic expression :: rest =>
      let y ← expandPieces substitute fuel { discarded := m.discarded } expression x
      if m.discarded then expandFrom substitute fuel m inQuotes rest x
      else
        let i ← evaluateArithmetic (Glyph.text (y.after x.size))
        let x := (y.cut x.size).cutRegions x.size
        let y := x.append (glyphsOf within (showInt i))
        let y := if within.quoted then y else y.region x.size false
        expandFrom substitute fuel m inQuotes rest y

def expandParameter (substitute : Substitute) (fuel : Nat) (m : Manner) (name : Letters)
    (look : Look) (orEmpty : Bool) (word : List Piece) (x : Expanding) : Act Expanding :=
  match fuel with
  | 0 => throw .failure
  | fuel + 1 => do
    if look = .nonsense && !m.discarded then failString "Bad substitution"
    let quiet := m.discarded || look = .ifSet || look = .length
    let value ← parameterValue
      (if quiet then { m with fields := false, pattern := false } else m) name
    let value := if look = .nonsense then none else value
    let y := if quiet then x else x.append (value.getD [])
    let missing := match value with
      | none => true
      | some gs => orEmpty && gs.isEmpty
    /- What was added is split, or only at its gaps if it is all parameters in quotes. -/
    let record (y : Expanding) : Act Expanding := do
      if m.quoted then
        if name = ['@'] && !(← get).params.isEmpty then return y.region x.size true
        return y
      return y.region x.size false
    let inside (discarded : Bool) : Manner :=
      { m with tilde := true, inner := true, discarded := m.discarded || discarded }
    match look with
    | .orElse | .nonsense =>
      let y ← expandPieces substitute fuel (inside !missing) word y
      if m.discarded || missing then return y else record y
    | .ifSet =>
      let y ← expandPieces substitute fuel (inside missing) word y
      if m.discarded || !missing then return y else record y
    | .orAssign | .orFail =>
      if m.discarded then return x
      if !missing then return ← record y
      let z ← expandPieces substitute fuel { tilde := true } word x
      let s := Glyph.text (z.after x.size)
      if look = .orFail then
        refuseUnset name (if word.isEmpty then none else some s) orEmpty
      assign name s
      let value ← parameterValue m name
      record (x.append (value.getD []))
    | .value | .length | .dropEnd _ | .dropStart _ =>
      if m.discarded then return x
      if missing && (← has .nounset) then refuseUnset name none false
      match look with
      | .length =>
        let length := (value.getD []).length
        record (x.append (glyphsOf m (showNat length)))
      | .dropEnd longest | .dropStart longest =>
        if missing then return x
        let z ← expandPieces substitute fuel { tilde := true, pattern := true } word y
        let signs := Sign.ofPattern (Glyph.pattern (z.after y.size))
        let gs := y.after x.size
        let kept := if look matches .dropEnd _ then dropEnd longest signs gs
          else dropStart longest signs gs
        record (((z.cut x.size).cutRegions x.size).append kept)
      | _ => if missing then return y else record y

end

def expansionLimit : Nat := 100000000

def expand (substitute : Substitute) (m : Manner) (word : List Piece) : Act Expanding :=
  expandPieces substitute expansionLimit m word {}

def expandText (substitute : Substitute) (m : Manner) (word : List Piece) : Act Letters := do
  return Glyph.text (← expand substitute m word).glyphs.reverse

end BuildMatrix.Script
