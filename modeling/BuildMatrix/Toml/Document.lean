import BuildMatrix.Toml.Scalar
import BuildMatrix.Toml.Table

namespace BuildMatrix.Toml

def dropBlanks (s : List Char) : List Char := s.dropWhile fun c ↦ c = ' ' || c = '\t'

def skipGap (inComment : Bool) : List Char → Option (List Char)
  | [] => some []
  | '\n' :: r => skipGap false r
  | '\r' :: '\n' :: r => skipGap false r
  | c :: r =>
    if inComment then if isPlain c then skipGap true r else none
    else if c = ' ' ∨ c = '\t' then skipGap false r
    else if c = '#' then skipGap true r
    else some (c :: r)

def endLine (s : List Char) : Option (List Char) :=
  let s := dropBlanks s
  let s := if s.head? = some '#' then s.dropWhile isPlain else s
  match s with
  | [] => some []
  | '\n' :: r => some r
  | '\r' :: '\n' :: r => some r
  | _ => none

def isBareKeyChar (c : Char) : Bool := c.isAlphanum || c = '_' || c = '-'

def simpleKey? : List Char → Option (List Char × List Char)
  | '"' :: r => basic r
  | '\'' :: r => literal r
  | s =>
    match s.takeWhile isBareKeyChar with
    | [] => none
    | key => some (key, s.dropWhile isBareKeyChar)

def keyPath : Nat → List Char → Option (List String × List Char)
  | 0, _ => none
  | fuel + 1, s => do
    let (key, s) ← simpleKey? (dropBlanks s)
    match dropBlanks s with
    | '.' :: r =>
      let (path, s) ← keyPath fuel r
      return (String.ofList key :: path, s)
    | s => return ([String.ofList key], s)

/-- Arrays, tables in braces and keys are this deep at most, less one. -/
def depthLimit : Nat := 80

def key? (s : List Char) : Option (List String × List Char) := keyPath (depthLimit - 1) s

def arrayItems (item : List Char → Option (Value × List Char)) :
    Nat → List Char → Option (List Value × List Char)
  | 0, _ => none
  | fuel + 1, s => do
    match ← skipGap false s with
    | ']' :: r => return ([], r)
    | s =>
      let (v, s) ← item s
      match ← skipGap false s with
      | ']' :: r => return ([v], r)
      | ',' :: r =>
        let (vs, s) ← arrayItems item fuel r
        return (v :: vs, s)
      | _ => none

def inlineEntries (item : List Char → Option (Value × List Char)) :
    Nat → Value → List Char → Option (Value × List Char)
  | 0, _, _ => none
  | fuel + 1, t, s => do
    let (path, s) ← key? s
    match s with
    | '=' :: s =>
      let (v, s) ← item (dropBlanks s)
      let t ← setKey path v t
      match dropBlanks s with
      | '\x7d' :: r => return (t, r)
      | ',' :: r => inlineEntries item fuel t r
      | _ => none
    | _ => none

def closed : Value → Value
  | .table _ entries => .table .braces entries
  | v => v

def value? : Nat → List Char → Option (Value × List Char)
  | _, [] => none
  | depth, c :: r =>
    if c = '"' ∨ c = '\'' then do
      let (s, rest) ← quoted? (c :: r)
      return (.string (String.ofList s), rest)
    else if c = '[' then
      match depth with
      | 0 => none
      | depth + 1 => do
        let (items, rest) ← arrayItems (value? depth) (r.length + 1) r
        return (.array items, rest)
    else if c = '\x7b' then
      match depth with
      | 0 => none
      | depth + 1 =>
        match dropBlanks r with
        | '\x7d' :: rest => some (.table .braces [], rest)
        | r => do
          let (t, rest) ← inlineEntries (value? depth) (r.length + 1) (.table .header []) r
          return (closed t, rest)
    else scalar? (c :: r)

structure Progress where
  root : Value
  header : List String

def headerLine (double : Bool) (p : Progress) (s : List Char) : Option (Progress × List Char) := do
  let (path, s) ← key? s
  let s ← match double, s with
    | true, ']' :: ']' :: r => some r
    | false, ']' :: r => some r
    | _, _ => none
  let s ← endLine s
  return (⟨← addHeader double path p.root, path⟩, s)

def entryLine (p : Progress) (s : List Char) : Option (Progress × List Char) := do
  let (path, s) ← key? s
  match s with
  | '=' :: s =>
    let (v, s) ← value? (depthLimit - 1) (dropBlanks s)
    let s ← endLine s
    return (⟨← addUnder p.header path v p.root, p.header⟩, s)
  | _ => none

def line (p : Progress) (s : List Char) : Option (Progress × List Char) :=
  match s with
  | '[' :: '[' :: r => headerLine true p r
  | '[' :: r => headerLine false p r
  | '#' :: _ | '\n' :: _ | '\r' :: _ => (endLine s).map (p, ·)
  | _ => entryLine p s

def documentFrom : Nat → Progress → List Char → Option Value
  | 0, _, _ => none
  | fuel + 1, p, s =>
    match dropBlanks s with
    | [] => some p.root
    | s => do
      let (p, s) ← line p s
      documentFrom fuel p s

def parse? (text : String) : Option Value :=
  let s := text.toList
  let s := if s.head? = some '\uFEFF' then s.drop 1 else s
  documentFrom (s.length + 1) ⟨.table .header [], []⟩ s

end BuildMatrix.Toml
