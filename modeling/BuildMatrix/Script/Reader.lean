import BuildMatrix.Script.Tree

namespace BuildMatrix.Script

inductive Keyword where
  | negation
  | caseOf
  | doBody
  | doneBody
  | elifTest
  | elseBody
  | esacEnd
  | fiEnd
  | forEach
  | ifTest
  | inWords
  | thenBody
  | untilTest
  | whileTest
  | openBrace
  | closeBrace
  deriving DecidableEq, Inhabited

namespace Keyword

def table : List (Letters × Keyword) :=
  [(['!'], negation), ("case".toList, caseOf), ("do".toList, doBody), ("done".toList, doneBody),
    ("elif".toList, elifTest), ("else".toList, elseBody), ("esac".toList, esacEnd),
    ("fi".toList, fiEnd), ("for".toList, forEach), ("if".toList, ifTest), ("in".toList, inWords),
    ("then".toList, thenBody), ("until".toList, untilTest), ("while".toList, whileTest),
    (['\x7b'], openBrace), (['\x7d'], closeBrace)]

def text (k : Keyword) : String :=
  String.ofList ((table.find? fun e ↦ e.2 = k).elim [] Prod.fst)

end Keyword

inductive Arrow where
  | file (mode : OpenMode)
  | copy (input : Bool)
  | document (stripTabs : Bool)
  deriving DecidableEq, Inhabited

inductive Token where
  | endOfFile
  | newline
  | semicolon
  | ampersand
  | andIf
  | orIf
  | bar
  | openParen
  | closeParen
  | endCase
  | redirection (fd : Nat) (arrow : Arrow)
  | word (pieces : List Piece) (quoted : Bool)
  | keyword (k : Keyword) (pieces : List Piece)

inductive Wanted where
  | closeParen
  | endCase
  | word
  | keyword (k : Keyword)
  deriving DecidableEq, Inhabited

inductive Refusal where
  | unexpected (found : String) (wanted : Option String)
  | loopVariable
  | functionName
  | descriptor
  | unclosedQuote
  | unclosedBrace
  | unclosedArithmetic
  | unclosedBackquote
  | tooLong
  deriving DecidableEq, Inhabited

namespace Refusal

def message : Refusal → String
  | unexpected found none => found ++ " unexpected"
  | unexpected found (some wanted) => found ++ " unexpected (expecting " ++ wanted ++ ")"
  | loopVariable => "Bad for loop variable"
  | functionName => "Bad function name"
  | descriptor => "Bad fd number"
  | unclosedQuote => "Unterminated quoted string"
  | unclosedBrace => "Missing '\x7d'"
  | unclosedArithmetic => "Missing '))'"
  | unclosedBackquote => "EOF in backquote substitution"
  | tooLong => "too long"

end Refusal

def inQuotes (s : String) : String := "\"" ++ s ++ "\""

namespace Token

def shown : Token → String
  | endOfFile => "end of file"
  | newline => "newline"
  | semicolon => inQuotes ";"
  | ampersand => inQuotes "&"
  | andIf => inQuotes "&&"
  | orIf => inQuotes "||"
  | bar => inQuotes "|"
  | openParen => inQuotes "("
  | closeParen => inQuotes ")"
  | endCase => inQuotes ";;"
  | redirection .. => "redirection"
  | word .. => "word"
  | keyword k _ => inQuotes k.text

instance : Inhabited Token := ⟨.endOfFile⟩

def endsList : Token → Bool
  | endOfFile | closeParen | endCase => true
  | keyword k _ =>
    [Keyword.doBody, .doneBody, .elifTest, .elseBody, .esacEnd, .fiEnd, .thenBody,
      .closeBrace].contains k
  | _ => false

end Token

def Wanted.shown : Wanted → String
  | closeParen => inQuotes ")"
  | endCase => inQuotes ";;"
  | word => "word"
  | keyword k => inQuotes k.text

structure Insertion where
  text : Letters
  source : Option Letters
  endsBlank : Bool
  deriving Inhabited

/-- What the next token may be besides itself: newlines before it are skipped, and words can be
keywords, stand for an alias, or end a document, where dollars and backquotes are plain. -/
structure Expectation where
  skipNewlines : Bool := false
  keywords : Bool := false
  aliases : Bool := false
  delimiter : Bool := false
  deriving Inhabited

structure Announced where
  number : Nat
  delimiter : Letters
  stripTabs : Bool
  expanded : Bool
  deriving Inhabited

structure Document where
  pieces : List Piece
  expanded : Bool
  deriving Inhabited

/-- A script that is being read: the line at hand, the lines below, the number of the line and
what was found so far. -/
structure Reader where
  inserted : List Insertion := []
  text : Letters := []
  below : Letters := []
  line : Nat := 1
  last : Token := .newline
  pushedBack : Bool := false
  expected : Expectation := {}
  announced : List Announced := []
  documents : Array Document
  aliases : List (Letters × Letters)
  echoes : Bool := false
  echoed : Letters := []
  deriving Inhabited

abbrev Read := ExceptT Refusal (StateM Reader)

namespace Reader

/-- A script as a file, which is taken line by line. -/
def ofFile (content : Letters) (documents : Array Document) : Reader :=
  { below := content, documents := documents, aliases := [] }

/-- A script as a text, which is taken at once. -/
def ofText (content : Letters) (documents : Array Document) : Reader :=
  { text := content, documents := documents, aliases := [] }

def refuse {α : Type} (r : Refusal) : Read α := throw r

def popInserted : List Insertion → Reader → Reader
  | [], r => { r with inserted := [] }
  | i :: rest, r =>
    if i.text = [] then
      popInserted rest
        (if i.source.isSome && i.endsBlank then
          { r with expected := { r.expected with aliases := true } }
        else r)
    else { r with inserted := i :: rest }

def refill (r : Reader) : Reader :=
  let line := r.below.takeWhile (· ≠ '\n')
  let rest := r.below.drop line.length
  let line := line ++ rest.take 1
  { r with text := line, below := rest.drop 1,
           echoed := if r.echoes then r.echoed ++ line else r.echoed }

def next : Read (Option Char) := fun r ↦
  match r.inserted with
  | { text := c :: rest, source, endsBlank } :: more =>
    (.ok (some c), { r with inserted := ⟨rest, source, endsBlank⟩ :: more })
  | inserted =>
    let r := popInserted inserted r
    match r.inserted with
    | { text := c :: rest, source, endsBlank } :: more =>
      (.ok (some c), { r with inserted := ⟨rest, source, endsBlank⟩ :: more })
    | _ =>
      match r.text with
      | c :: rest => (.ok (some c), { r with text := rest })
      | [] =>
        let r := r.refill
        match r.text with
        | c :: rest => (.ok (some c), { r with text := rest })
        | [] => (.ok none, r)

def back (c : Option Char) : Read Unit :=
  match c with
  | none => return
  | some c => modify fun r ↦
    match r.inserted with
    | i :: more => { r with inserted := { i with text := c :: i.text } :: more }
    | [] => { r with text := c :: r.text }

def insert (text : Letters) (source : Option Letters) : Read Unit :=
  let last := text.getLast?
  let blank := last = some ' ' || last = some '\t'
  modify fun r ↦ { r with inserted := ⟨text, source, blank⟩ :: r.inserted }

def newLine : Read Unit := modify fun r ↦ { r with line := r.line + 1 }

/-- The next character, after lines that end with a backslash have been joined to theirs. -/
def joined : Nat → Read (Option Char)
  | 0 => refuse .tooLong
  | fuel + 1 => do
    let c ← next
    if c ≠ some '\\' then return c
    let d ← next
    if d = some '\n' then
      newLine
      joined fuel
    else
      back d
      return c

def skipComment : Nat → Read Unit
  | 0 => refuse .tooLong
  | fuel + 1 => do
    let c ← next
    if c = none ∨ c = some '\n' then back c else skipComment fuel

def setLast (t : Token) : Read Token := do
  modify fun r ↦ { r with last := t }
  return t

def pushBack : Read Unit := modify fun r ↦ { r with pushedBack := true }

def expect (e : Expectation) : Read Unit := modify fun r ↦ { r with expected := e }

def anyCommand : Expectation := ⟨true, true, true, false⟩

def thisCommand : Expectation := ⟨false, true, true, false⟩

def unexpected {α : Type} (wanted : Option Wanted) : Read α := do
  refuse (.unexpected (← get).last.shown (wanted.map Wanted.shown))

/-- Takes the characters of a delimiter; answers those that were read, and whether they are the
whole line. -/
def matchLine : Letters → Option Char → Letters → Read (Letters × Option Char × Bool)
  | [], c, seen =>
    return (seen, c, c = none ∨ c = some '\n')
  | d :: rest, c, seen => do
    if c = some d then matchLine rest (← next) (d :: seen)
    else return (seen, c, false)

def skipTabs : Nat → Option Char → Read (Option Char)
  | 0, _ => refuse .tooLong
  | fuel + 1, c => do if c = some '\t' then skipTabs fuel (← next) else return c

/-- At the front of a line of a document: nothing if the line is its delimiter, and else the
first character. -/
def startLine (fuel : Nat) (doc : Option (Letters × Bool)) (c : Option Char) :
    Read (Option Char) := do
  match doc with
  | none => return c
  | some (delimiter, stripTabs) =>
    let c ← if stripTabs then skipTabs fuel c else pure c
    let (seen, after, whole) ← matchLine delimiter c []
    if whole then
      newLine
      return none
    match seen.reverse with
    | [] => return c
    | first :: more =>
      back after
      insert more none
      return some first

inductive Table where
  | base
  | double
  | single
  | arithmetic
  deriving DecidableEq, Inhabited

inductive Class where
  | newline
  | word
  | guarded
  | backslash
  | single
  | double
  | endQuote
  | dollar
  | closeBrace
  | openParen
  | closeParen
  | backquote
  | separator
  deriving DecidableEq, Inhabited

def isGuarded (c : Char) : Bool :=
  ['!', '*', '?', '[', '=', '~', ':', '/', '-', ']'].contains c

def isInner (c : Char) : Bool := 0x81 ≤ c.toNat && c.toNat ≤ 0x88

def Table.classOf (t : Table) (c : Char) : Class :=
  if c = '\n' then .newline
  else if isInner c then .guarded
  else
    match t with
    | .single => if c = '\'' then .endQuote else if c = '\\' || isGuarded c then .guarded else .word
    | .base =>
      match c with
      | '\\' => .backslash
      | '\'' => .single
      | '"' => .double
      | '\x60' => .backquote
      | '$' => .dollar
      | '\x7d' => .closeBrace
      | '<' | '>' | '(' | ')' | ';' | '&' | '|' | ' ' | '\t' => .separator
      | _ => .word
    | .double =>
      match c with
      | '\\' => .backslash
      | '"' => .endQuote
      | '\x60' => .backquote
      | '$' => .dollar
      | '\x7d' => .closeBrace
      | _ => if isGuarded c then .guarded else .word
    | .arithmetic =>
      match c with
      | '\\' => .backslash
      | '\x60' => .backquote
      | '$' => .dollar
      | '\x7d' => .closeBrace
      | '(' => .openParen
      | ')' => .closeParen
      | _ => .word

/-- How text is read inside quotes, references and expressions: the table that holds, whether
double quotes are open around it or inside a reference, and how many references and parentheses
are open. -/
structure Layer where
  table : Table
  doubled : Bool := false
  innerDouble : Bool := false
  pushed : Bool := false
  depth : Nat := 0
  doubledOpen : Nat := 0
  parens : Nat := 0
  deriving Inhabited

inductive Frame where
  | parameter (name : Letters) (look : Look) (orEmpty : Bool)
  | arithmetic
  deriving Inhabited

structure Draft where
  layer : Layer
  outer : List Layer := []
  frames : List (Frame × List Piece) := []
  /-- The pieces of the innermost frame, the last one first. -/
  pieces : List Piece := []
  quoted : Bool := false
  deriving Inhabited

namespace Draft

def emit (d : Draft) (p : Piece) : Draft := { d with pieces := p :: d.pieces }

def openFrame (d : Draft) (f : Frame) : Draft :=
  { d with frames := (f, d.pieces) :: d.frames, pieces := [] }

def closeFrame (d : Draft) : Draft :=
  match d.frames with
  | [] => d
  | (.parameter name look orEmpty, outer) :: rest =>
    { d with frames := rest, pieces := .parameter name look orEmpty d.pieces.reverse :: outer }
  | (.arithmetic, outer) :: rest =>
    { d with frames := rest, pieces := .arithmetic d.pieces.reverse :: outer }

def push (d : Draft) (l : Layer) : Draft := { d with layer := l, outer := d.layer :: d.outer }

def pop (d : Draft) : Draft :=
  match d.outer with
  | [] => d
  | l :: rest => { d with layer := l, outer := rest }

def closeBrace (d : Draft) : Draft :=
  if d.layer.innerDouble || d.layer.depth = 0 then d.emit (.plain '\x7d')
  else
    let l := { d.layer with depth := d.layer.depth - 1 }
    let d := { d with layer := l }.closeFrame
    if l.depth = 0 && l.pushed then d.pop
    else { d with layer := { l with doubledOpen := l.doubledOpen - 1 } }

/-- Notes that a quote stands here; in a document quotes are plain. -/
def markQuote (d : Draft) (document : Bool) : Draft := if document then d else d.emit .mark

def toggleDouble (d : Draft) : Draft :=
  if 0 < d.layer.depth then
    { d with layer := { d.layer with innerDouble := !d.layer.innerDouble } }
  else d

end Draft

structure Reference where
  name : Letters
  look : Look
  orEmpty : Bool
  /-- Whether a pattern follows. -/
  pattern : Bool := false

def readName (fuel : Nat) (keep : Char → Bool) : Nat → Option Char → Letters →
    Read (Letters × Option Char)
  | 0, _, _ => refuse .tooLong
  | n + 1, c, seen =>
    match c with
    | some ch => do
      if keep ch then readName fuel keep n (← joined fuel) (ch :: seen)
      else return (seen.reverse, c)
    | none => return (seen.reverse, none)

def readSign (fuel : Nat) (name : Letters) (c : Option Char) : Read Reference := do
  let sign (orEmpty : Bool) (c : Option Char) : Reference :=
    match c with
    | some '\x7d' => ⟨name, .value, orEmpty, false⟩
    | some '-' => ⟨name, .orElse, orEmpty, false⟩
    | some '+' => ⟨name, .ifSet, orEmpty, false⟩
    | some '?' => ⟨name, .orFail, orEmpty, false⟩
    | some '=' => ⟨name, .orAssign, orEmpty, false⟩
    | _ => ⟨name, .nonsense, orEmpty, false⟩
  let trim (look : Bool → Look) (c : Char) : Read Reference := do
    let d ← joined fuel
    if d = some c then return ⟨name, look true, false, true⟩
    back d
    return ⟨name, look false, false, true⟩
  match c with
  | some ':' => return sign true (← joined fuel)
  | some '%' => trim .dropEnd '%'
  | some '#' => trim .dropStart '#'
  | c => return sign false c

def nonsense : Reference := ⟨[], .nonsense, false, false⟩

def readReference (fuel : Nat) (braces : Bool) (c : Option Char) : Read Reference := do
  /- The name; `counted` after a `#` that asks for the length. -/
  let named (counted : Bool) (c : Option Char) : Read Reference := do
    let finish (name : Letters) (c : Option Char) : Read Reference := do
      if counted then
        back c
        return ⟨name, if c = some '\x7d' then .length else .nonsense, false, false⟩
      else if braces then readSign fuel name c
      else
        back c
        return ⟨name, .value, false, false⟩
    match c with
    | none => do
      let d ← joined fuel
      back d
      return nonsense
    | some ch =>
      if isNameStart ch then
        let (name, c) ← readName fuel isNameChar fuel c []
        finish name c
      else if ch.isDigit then
        if braces then
          let (name, c) ← readName fuel Char.isDigit fuel c []
          finish name c
        else finish [ch] (← joined fuel)
      else if ch = '\x7d' then
        back c
        return nonsense
      else
        let d ← joined fuel
        if isSpecial ch then finish [ch] d
        else
          back d
          return nonsense
  if braces && c = some '#' then
    let d ← joined fuel
    match d with
    | some ch =>
      if ch = '_' || ch.isAlphanum then named true d
      else
        let e ← joined fuel
        if ch = '\x7d' || e ≠ some '\x7d' then
          back e
          readSign fuel ['#'] d
        else if isSpecial ch then
          back e
          return ⟨[ch], .length, false, false⟩
        else
          back e
          return nonsense
    | none =>
      let e ← joined fuel
      back e
      readSign fuel ['#'] d
  else named false c

def openReference (d : Draft) (r : Reference) : Draft :=
  let table := if r.pattern then .base else d.layer.table
  let table := if table = .arithmetic then .double else table
  if r.look = .value && !r.orEmpty then d.emit (.parameter r.name .value false [])
  else
    let d := d.openFrame (.parameter r.name r.look r.orEmpty)
    let d :=
      if table ≠ d.layer.table || d.layer.innerDouble then
        d.push { table := table, pushed := true, doubled := table ≠ .base }
      else d
    { d with
      layer :=
        { d.layer with
          depth := d.layer.depth + 1
          doubledOpen := d.layer.doubledOpen + if d.layer.doubled then 1 else 0 } }

def readBackquoted (doubled : Bool) : Nat → Letters → Read Letters
  | 0, _ => refuse .tooLong
  | fuel + 1, seen => do
    match ← joined fuel with
    | none => refuse .unclosedBackquote
    | some '\x60' => return seen.reverse
    | some '\\' =>
      let c ← next
      match c with
      | none => readBackquoted doubled fuel ('\\' :: seen)
      | some c =>
        let kept := c ≠ '\\' && c ≠ '\x60' && c ≠ '$' && (!doubled || c ≠ '"')
        readBackquoted doubled fuel (c :: if kept then '\\' :: seen else seen)
    | some '\n' =>
      newLine
      readBackquoted doubled fuel ('\n' :: seen)
    | some c => readBackquoted doubled fuel (c :: seen)

/-- The descriptor that stands in front of a redirection, if the word at hand can be one. -/
def descriptor? : List Piece → Option (Option Nat)
  | [] => some none
  | [.plain c] => if c.isDigit then some (some (digitValue c)) else none
  | _ => none

def readArrow (fuel : Nat) (c : Char) : Read Arrow := do
  let d ← joined fuel
  if c = '>' then
    match d with
    | some '>' => return .file .append
    | some '|' => return .file (.create true)
    | some '&' => return .copy false
    | _ =>
      back d
      return .file (.create false)
  else
    match d with
    | some '<' =>
      let e ← joined fuel
      if e = some '-' then return .document true
      back e
      return .document false
    | some '&' => return .copy true
    | some '>' => return .file .readWrite
    | _ =>
      back d
      return .file .read

end Reader

end BuildMatrix.Script
