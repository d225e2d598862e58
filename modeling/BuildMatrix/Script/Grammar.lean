import BuildMatrix.Script.Builtin
import BuildMatrix.Script.Reader

namespace BuildMatrix.Script

namespace Reader

/-- Which commands a list reads: one line of them, as many as there are, or also none at all. -/
inductive Extent where
  | line
  | some
  | any
  deriving DecidableEq, Inhabited

def functionName? (word : List Piece) : Option Letters := do
  let name ← plainText? word
  let isFree := match Builtin.ofName? name with
    | Option.some b => !b.isSpecial
    | none => true
  if isName name && isFree then Option.some name else none

def newDocument : Read Nat := do
  let r ← get
  set { r with documents := r.documents.push default }
  return r.documents.size

def announce (a : Announced) : Read Unit :=
  modify fun r ↦ { r with announced := r.announced ++ [a] }

def keyword? (pieces : List Piece) : Option Keyword :=
  (plainText? pieces).bind fun s ↦ Keyword.table.lookup s

def aliasInUse (r : Reader) (name : Letters) : Bool :=
  r.inserted.any fun i ↦ i.source = Option.some name

def wordOf : Token → List Piece
  | .word pieces _ | .keyword _ pieces => pieces
  | _ => []

def sequence (first : Option Tree) (second : Tree) : Tree :=
  match first with
  | Option.some first => .sequence first second
  | none => second

def inBackground : Tree → Tree
  | .pipeline parts _ => .pipeline parts true
  | .redirected line body changes => .background line body changes
  | t => .background 0 t []

def wantKeyword (t : Token) (k : Keyword) : Read Unit := do
  match t with
  | .keyword found _ => if found = k then return
  | _ => pure ()
  unexpected (Option.some (.keyword k))

mutual

/-- The next character of a word and the rest of it. Quotes, references and substitutions are
taken to pieces; `doc` holds the delimiter if a document is read. -/
def readPieces (fuel : Nat) (doc : Option (Letters × Bool)) (delimiter : Bool) (d : Draft)
    (c : Option Char) : Read (Draft × Option Char) :=
  match fuel with
  | 0 => refuse .tooLong
  | fuel + 1 => do
    let inDocument := doc.isSome
    let go (d : Draft) : Read (Draft × Option Char) := do
      let c ← if d.layer.table = .single then next else joined fuel
      readPieces fuel doc delimiter d c
    match c with
    | none => return (d, none)
    | Option.some ch =>
      match d.layer.table.classOf ch with
      | .newline =>
        if d.layer.table = .base && d.layer.depth = 0 then return (d, c)
        newLine
        let c ← if d.layer.table = .single then next else joined fuel
        readPieces fuel doc delimiter (d.emit (.plain ch)) (← startLine fuel doc c)
      | .word => go (d.emit (.plain ch))
      | .guarded =>
        go (d.emit (if !inDocument || d.layer.doubled then .escaped ch else .plain ch))
      | .backslash =>
        let e ← next
        match e with
        | none => go (d.emit (.escaped '\\'))
        | Option.some e =>
          let l := d.layer
          let kept :=
            l.doubled && e ≠ '\\' && e ≠ '\x60' && e ≠ '$' &&
              (e ≠ '"' || (inDocument && l.depth = 0)) && (e ≠ '\x7d' || l.depth = 0)
          let d := if kept then d.emit (.escaped '\\') else d
          go { d.emit (.escaped e) with quoted := true }
      | .single =>
        go ({ d with layer := { d.layer with table := .single } }.markQuote inDocument)
      | .double =>
        let d := { d with layer := { d.layer with table := .double, doubled := true } }
        go (d.toggleDouble.markQuote inDocument)
      | .endQuote =>
        if inDocument && d.layer.depth = 0 then go (d.emit (.plain ch))
        else
          let d :=
            if d.layer.doubledOpen = 0 then
              { d with layer := { d.layer with table := .base, doubled := false } }
            else d
          let d := { d with quoted := true }
          go ((if ch = '"' then d.toggleDouble else d).markQuote inDocument)
      | .closeBrace => go d.closeBrace
      | .openParen =>
        go ({ d with layer := { d.layer with parens := d.layer.parens + 1 } }.emit (.plain ch))
      | .closeParen =>
        if 0 < d.layer.parens then
          go ({ d with layer := { d.layer with parens := d.layer.parens - 1 } }.emit (.plain ch))
        else
          let e ← joined fuel
          if e = Option.some ')' then go d.closeFrame.pop
          else
            back e
            go (d.emit (.plain ch))
      | .backquote =>
        if delimiter then go (d.emit (.plain ch))
        else
          let text ← readBackquoted d.layer.doubled fuel []
          let body ← readInner fuel text
          go (d.emit (.substitution body))
      | .separator => if d.layer.depth = 0 then return (d, c) else go (d.emit (.plain ch))
      | .dollar =>
        let e ← joined fuel
        match e with
        | Option.some '(' =>
          if delimiter then
            back e
            go (d.emit (.plain '$'))
          else
            let f ← joined fuel
            if f = Option.some '(' then
              go ((d.openFrame .arithmetic).push { table := .arithmetic, doubled := true })
            else
              back f
              let body ← readSubstitution fuel
              go (d.emit (.substitution body))
        | _ =>
          let starts := e.any fun e ↦ e = '\x7b' || isNameStart e || isSpecial e
          if delimiter || !starts then
            back e
            go (d.emit (.plain '$'))
          else
            let braces := e = Option.some '\x7b'
            let c ← if braces then joined fuel else pure e
            go (openReference d (← readReference fuel braces c))

def finishPieces (fuel : Nat) (doc : Option (Letters × Bool)) (d : Draft) : Read (List Piece) :=
  match fuel with
  | 0 => refuse .tooLong
  | _ + 1 => do
    if d.layer.table = .arithmetic then refuse .unclosedArithmetic
    if d.layer.table ≠ .base && doc.isNone then refuse .unclosedQuote
    if d.layer.depth ≠ 0 then refuse .unclosedBrace
    return d.pieces.reverse

/-- The commands of a text in backquotes, which is read by itself. -/
def readInner (fuel : Nat) (text : Letters) : Read (Option Tree) :=
  match fuel with
  | 0 => refuse .tooLong
  | fuel + 1 => do
    let r ← get
    set { r with inserted := [], text := text, below := [], line := 1, announced := [] }
    let body ← readList fuel .any
    readDocuments fuel
    modify fun i ↦
      { i with inserted := r.inserted, text := r.text, below := r.below, line := r.line,
               announced := r.announced, pushedBack := false }
    return body

/-- The commands up to a closing parenthesis. A document that is announced there is empty. -/
def readSubstitution (fuel : Nat) : Read (Option Tree) :=
  match fuel with
  | 0 => refuse .tooLong
  | fuel + 1 => do
    let announced := (← get).announced
    modify fun r ↦ { r with announced := [] }
    let body ← readList fuel .any
    match ← readToken fuel with
    | .closeParen => pure ()
    | _ => unexpected (Option.some .closeParen)
    let r ← get
    set { r with inserted := [], text := [], below := [] }
    readDocuments fuel
    modify fun i ↦
      { i with inserted := r.inserted, text := r.text, below := r.below, line := r.line,
               announced := announced }
    return body

def readDocuments (fuel : Nat) : Read Unit :=
  match fuel with
  | 0 => refuse .tooLong
  | fuel + 1 => do
    match (← get).announced with
    | [] => return
    | a :: rest =>
      modify fun r ↦ { r with announced := rest }
      let c ← if a.expanded then joined fuel else next
      let doc := Option.some (a.delimiter, a.stripTabs)
      let layer : Layer :=
        if a.expanded then { table := .double, doubled := true } else { table := .single }
      let (d, _) ← readPieces fuel doc false { layer := layer } (← startLine fuel doc c)
      let pieces ← finishPieces fuel doc d
      modify fun r ↦
        { r with documents := r.documents.setIfInBounds a.number ⟨pieces, a.expanded⟩ }
      readDocuments fuel

def readWordToken (fuel : Nat) (c : Option Char) : Read Token :=
  match fuel with
  | 0 => refuse .tooLong
  | fuel + 1 => do
    let delimiter := (← get).expected.delimiter
    let (d, c) ← readPieces fuel none delimiter { layer := { table := .base } } c
    let pieces ← finishPieces fuel none d
    match c, descriptor? pieces with
    | Option.some c, Option.some fd =>
      if (c = '>' || c = '<') && !d.quoted then
        let arrow ← readArrow fuel c
        return ← setLast (.redirection (fd.getD (if c = '>' then 1 else 0)) arrow)
      back c
    | c, _ => back c
    setLast (.word pieces d.quoted)

def readTarget (fuel fd : Nat) (arrow : Arrow) : Read Redirection :=
  match fuel with
  | 0 => refuse .tooLong
  | fuel + 1 => do
    if arrow matches .document _ then expect { delimiter := true }
    match ← readToken fuel with
    | .word pieces quoted =>
      match arrow with
      | .file mode => return .file fd mode pieces
      | .copy input => return .copy fd input pieces
      | .document stripTabs =>
        let number ← newDocument
        announce ⟨number, bare pieces, stripTabs, !quoted⟩
        return .document fd number
    | _ => unexpected none

def readRaw (fuel : Nat) : Read Token :=
  match fuel with
  | 0 => refuse .tooLong
  | fuel + 1 => do
    let r ← get
    if r.pushedBack then
      set { r with pushedBack := false }
      return r.last
    let c ← joined fuel
    match c with
    | Option.some ' ' | Option.some '\t' => readRaw fuel
    | Option.some '#' =>
      skipComment fuel
      readRaw fuel
    | Option.some '\n' =>
      newLine
      setLast .newline
    | none => setLast .endOfFile
    | Option.some '&' => pair fuel '&' .andIf .ampersand
    | Option.some '|' => pair fuel '|' .orIf .bar
    | Option.some ';' => pair fuel ';' .endCase .semicolon
    | Option.some '(' => setLast .openParen
    | Option.some ')' => setLast .closeParen
    | c => readWordToken fuel c

def pair (fuel : Nat) (sign : Char) (twice once : Token) : Read Token :=
  match fuel with
  | 0 => refuse .tooLong
  | fuel + 1 => do
    let c ← joined fuel
    if c = Option.some sign then setLast twice
    else
      back c
      setLast once

def readRawPast (fuel : Nat) (skip : Bool) : Read Token :=
  match fuel with
  | 0 => refuse .tooLong
  | fuel + 1 => do
    match ← readRaw fuel with
    | .newline =>
      if skip then
        readDocuments fuel
        expect {}
        readRawPast fuel skip
      else return .newline
    | t => return t

def readToken (fuel : Nat) : Read Token :=
  match fuel with
  | 0 => refuse .tooLong
  | fuel + 1 => do readTokenAs fuel (← get).expected

def readTokenAs (fuel : Nat) (e : Expectation) : Read Token :=
  match fuel with
  | 0 => refuse .tooLong
  | fuel + 1 => do
    let t ← readRawPast fuel e.skipNewlines
    let more := (← get).expected
    let e : Expectation :=
      ⟨e.skipNewlines || more.skipNewlines, e.keywords || more.keywords,
        e.aliases || more.aliases, false⟩
    expect {}
    match t with
    | .word pieces false =>
      match if e.keywords then keyword? pieces else none with
      | Option.some k => setLast (.keyword k pieces)
      | none =>
        let r ← get
        let known := if e.aliases then (plainText? pieces).bind fun name ↦
            (r.aliases.lookup name).map (name, ·)
          else none
        match known with
        | Option.some (name, value) =>
          if aliasInUse r name then return t
          insert value (Option.some name)
          readTokenAs fuel e
        | none => return t
    | t => return t

def readList (fuel : Nat) (extent : Extent) : Read (Option Tree) :=
  match fuel with
  | 0 => refuse .tooLong
  | fuel + 1 => readListFrom fuel extent none

def readListFrom (fuel : Nat) (extent : Extent) (front : Option Tree) : Read (Option Tree) :=
  match fuel with
  | 0 => refuse .tooLong
  | fuel + 1 => do
    let isLine := extent = .line
    expect { skipNewlines := !isLine, keywords := true, aliases := true }
    let t ← readToken fuel
    match t with
    | .newline =>
      readDocuments fuel
      return front
    | .endOfFile =>
      readDocuments fuel
      discard <| setLast .endOfFile
      pushBack
      return front
    | _ => pure ()
    pushBack
    if extent = .any && t.endsList then return front
    let extent := if isLine then extent else .any
    let command ← readAndOr fuel
    let t ← readToken fuel
    let command := if t matches .ampersand then inBackground command else command
    let front := Option.some (sequence front command)
    match t with
    | .endOfFile =>
      readDocuments fuel
      discard <| setLast .endOfFile
      pushBack
      return front
    | .newline =>
      pushBack
      readListFrom fuel extent front
    | .ampersand | .semicolon => readListFrom fuel extent front
    | _ =>
      if isLine then unexpected none
      pushBack
      return front

def readAndOr (fuel : Nat) : Read Tree :=
  match fuel with
  | 0 => refuse .tooLong
  | fuel + 1 => do readAndOrFrom fuel (← readPipeline fuel)

def readAndOrFrom (fuel : Nat) (first : Tree) : Read Tree :=
  match fuel with
  | 0 => refuse .tooLong
  | fuel + 1 => do
    match ← readToken fuel with
    | .andIf =>
      expect anyCommand
      readAndOrFrom fuel (.andThen first (← readPipeline fuel))
    | .orIf =>
      expect anyCommand
      readAndOrFrom fuel (.orThen first (← readPipeline fuel))
    | _ =>
      pushBack
      return first

def readPipeline (fuel : Nat) : Read Tree :=
  match fuel with
  | 0 => refuse .tooLong
  | fuel + 1 => do
    let negated ← match ← readToken fuel with
      | .keyword .negation _ =>
        expect thisCommand
        pure true
      | _ =>
        pushBack
        pure false
    let first ← readCommand fuel
    let t ← match ← readMoreParts fuel with
      | [] => pure first
      | parts => pure (.pipeline (first :: parts) false)
    return if negated then .not t else t

def readMoreParts (fuel : Nat) : Read (List Tree) :=
  match fuel with
  | 0 => refuse .tooLong
  | fuel + 1 => do
    match ← readToken fuel with
    | .bar =>
      expect anyCommand
      let part ← readCommand fuel
      return part :: (← readMoreParts fuel)
    | _ =>
      pushBack
      return []

/-- Commands that cannot be missing, but for the end of the script: then what should close them is
missing too, and is what the refusal is about. -/
def readBody (fuel : Nat) : Read Tree :=
  match fuel with
  | 0 => refuse .tooLong
  | fuel + 1 => return (← readList fuel .some).getD (.simple 0 [] [] [])

def readCommand (fuel : Nat) : Read Tree :=
  match fuel with
  | 0 => refuse .tooLong
  | fuel + 1 => do
    let line := (← get).line
    match ← readToken fuel with
    | .keyword .ifTest _ => readChanges fuel line (← readBranch fuel)
    | .keyword .whileTest _ => readChanges fuel line (← readLoop fuel false)
    | .keyword .untilTest _ => readChanges fuel line (← readLoop fuel true)
    | .keyword .forEach _ => readChanges fuel line (← readEach fuel line)
    | .keyword .caseOf _ => readChanges fuel line (← readSelect fuel line)
    | .keyword .openBrace _ =>
      let body ← readBody fuel
      wantKeyword (← readToken fuel) .closeBrace
      readChanges fuel line body
    | .openParen =>
      let body ← readBody fuel
      match ← readToken fuel with
      | .closeParen => readChanges fuel line (.subshell line body [])
      | _ => unexpected (Option.some .closeParen)
    | .word .. | .redirection .. =>
      pushBack
      readSimple fuel (← get).line true [] [] []
    | _ => unexpected none

def readChanges (fuel line : Nat) (body : Tree) : Read Tree :=
  match fuel with
  | 0 => refuse .tooLong
  | fuel + 1 => do
    expect thisCommand
    match ← readRedirections fuel with
    | [] => return body
    | changes =>
      match body with
      | .subshell line body _ => return .subshell line body changes
      | body => return .redirected line body changes

def readRedirections (fuel : Nat) : Read (List Redirection) :=
  match fuel with
  | 0 => refuse .tooLong
  | fuel + 1 => do
    match ← readToken fuel with
    | .redirection fd arrow =>
      let r ← readTarget fuel fd arrow
      return r :: (← readRedirections fuel)
    | _ =>
      pushBack
      return []

def readBranch (fuel : Nat) : Read Tree :=
  match fuel with
  | 0 => refuse .tooLong
  | fuel + 1 => do
    let t ← readBranchFrom fuel
    wantKeyword (← readToken fuel) .fiEnd
    return t

def readBranchFrom (fuel : Nat) : Read Tree :=
  match fuel with
  | 0 => refuse .tooLong
  | fuel + 1 => do
    let test ← readBody fuel
    wantKeyword (← readToken fuel) .thenBody
    let yes ← readBody fuel
    match ← readToken fuel with
    | .keyword .elifTest _ => return .branch test yes (← readBranchFrom fuel)
    | .keyword .elseBody _ => return .branch test yes (← readBody fuel)
    | _ =>
      pushBack
      return .branch test yes none

def readLoop (fuel : Nat) (negated : Bool) : Read Tree :=
  match fuel with
  | 0 => refuse .tooLong
  | fuel + 1 => do
    let test ← readBody fuel
    wantKeyword (← readToken fuel) .doBody
    let body ← readBody fuel
    wantKeyword (← readToken fuel) .doneBody
    return .loop negated test body

def readEach (fuel line : Nat) : Read Tree :=
  match fuel with
  | 0 => refuse .tooLong
  | fuel + 1 => do
    let name ← match ← readToken fuel with
      | .word pieces false =>
        match plainText? pieces with
        | Option.some name => if isName name then pure name else refuse .loopVariable
        | none => refuse .loopVariable
      | _ => refuse .loopVariable
    expect anyCommand
    let words ← match ← readToken fuel with
      | .keyword .inWords _ =>
        let words ← readWords fuel
        match (← get).last with
        | .newline | .semicolon => pure words
        | _ => unexpected none
      | .semicolon => pure [[.mark, .parameter ['@'] .value false [], .mark]]
      | _ =>
        pushBack
        pure [[.mark, .parameter ['@'] .value false [], .mark]]
    expect anyCommand
    wantKeyword (← readToken fuel) .doBody
    let body ← readBody fuel
    wantKeyword (← readToken fuel) .doneBody
    return .each line name words body

def readWords (fuel : Nat) : Read (List (List Piece)) :=
  match fuel with
  | 0 => refuse .tooLong
  | fuel + 1 => do
    match ← readToken fuel with
    | .word pieces _ => return pieces :: (← readWords fuel)
    | _ => return []

def readSelect (fuel line : Nat) : Read Tree :=
  match fuel with
  | 0 => refuse .tooLong
  | fuel + 1 => do
    match ← readToken fuel with
    | .word word _ =>
      expect anyCommand
      wantKeyword (← readToken fuel) .inWords
      return .select line word (← readChoices fuel)
    | _ => unexpected (Option.some .word)

def readChoices (fuel : Nat) : Read (List Choice) :=
  match fuel with
  | 0 => refuse .tooLong
  | fuel + 1 => do
    expect { skipNewlines := true, keywords := true }
    match ← readToken fuel with
    | .keyword .esacEnd _ => return []
    | t =>
      let t ← if t matches .openParen then readToken fuel else pure t
      let patterns ← readPatterns fuel t
      match (← get).last with
      | .closeParen => pure ()
      | _ => unexpected (Option.some .closeParen)
      let body ← readList fuel .any
      expect { skipNewlines := true, keywords := true }
      match ← readToken fuel with
      | .keyword .esacEnd _ => return [.mk patterns body]
      | .endCase => return .mk patterns body :: (← readChoices fuel)
      | _ => unexpected (Option.some .endCase)

/-- Patterns with bars between them; the first has been read. -/
def readPatterns (fuel : Nat) (t : Token) : Read (List (List Piece)) :=
  match fuel with
  | 0 => refuse .tooLong
  | fuel + 1 => do
    match ← readToken fuel with
    | .bar => return wordOf t :: (← readPatterns fuel (← readToken fuel))
    | _ => return [wordOf t]

/-- A simple command, or the definition of a function. The parts come last one first;
`assigns` tells whether no word has been read yet. -/
def readSimple (fuel line : Nat) (assigns : Bool) (assignments words : List (List Piece))
    (changes : List Redirection) : Read Tree :=
  match fuel with
  | 0 => refuse .tooLong
  | fuel + 1 => do
    expect { aliases := assigns }
    match ← readToken fuel with
    | .word pieces _ =>
      if assigns && isAssignment pieces then
        readSimple fuel line true (pieces :: assignments) words changes
      else readSimple fuel line false assignments (pieces :: words) changes
    | .redirection fd arrow =>
      let r ← readTarget fuel fd arrow
      readSimple fuel line assigns assignments words (r :: changes)
    | .openParen =>
      match assignments, words, changes with
      | [], [word], [] =>
        match ← readToken fuel with
        | .closeParen => pure ()
        | _ => unexpected (Option.some .closeParen)
        match functionName? word with
        | none => refuse .functionName
        | Option.some name =>
          expect anyCommand
          let line := (← get).line
          return .define line name (← readCommand fuel)
      | _, _, _ =>
        pushBack
        return .simple line assignments.reverse words.reverse changes.reverse
    | _ =>
      pushBack
      return .simple line assignments.reverse words.reverse changes.reverse

end

def stepLimit : Nat := 100000000

def readLine : Read (Option (Option Tree)) := do
  modify fun r ↦ { r with pushedBack := false, expected := {}, announced := [] }
  let t ← readList stepLimit .line
  let ended := (← get).last matches .endOfFile
  if t.isNone && ended then return none
  return Option.some t

/-- A whole text as the inside of a document. No line of it is the delimiter, which no text can
hold. -/
def readText : Read (List Piece) := do
  let doc := Option.some (['\x00'], false)
  let layer : Layer := { table := .double, doubled := true }
  let (d, _) ← readPieces stepLimit doc false { layer := layer } (← joined stepLimit)
  finishPieces stepLimit doc d

def isAtEnd (r : Reader) : Bool := r.pushedBack && r.last matches .endOfFile

end Reader

end BuildMatrix.Script
