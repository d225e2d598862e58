namespace BuildMatrix.Toml

def isPlain (c : Char) : Bool := c = '\t' || (0x20 ≤ c.toNat && c.toNat ≠ 0x7F)

def hexValue? (c : Char) : Option Nat :=
  if c.isDigit then some (c.toNat - '0'.toNat)
  else if 'a' ≤ c ∧ c ≤ 'f' then some (c.toNat - 'a'.toNat + 10)
  else if 'A' ≤ c ∧ c ≤ 'F' then some (c.toNat - 'A'.toNat + 10)
  else none

def hexNumber? (cs : List Char) : Option Nat :=
  cs.foldlM (fun n c ↦ (hexValue? c).map (16 * n + ·)) 0

def codePoint? (cs : List Char) : Option Char := do
  let n ← hexNumber? cs
  if n < 0xD800 ∨ (0xE000 ≤ n ∧ n < 0x110000) then some (Char.ofNat n) else none

def shortEscape? : Char → Option Char
  | 'b' => some '\x08'
  | 't' => some '\t'
  | 'n' => some '\n'
  | 'f' => some '\x0c'
  | 'r' => some '\r'
  | '"' => some '"'
  | '\\' => some '\\'
  | _ => none

def push (c : Char) : Option (List Char × List Char) → Option (List Char × List Char)
  | some (s, rest) => some (c :: s, rest)
  | none => none

def basic : List Char → Option (List Char × List Char)
  | [] => none
  | '"' :: r => some ([], r)
  | '\\' :: 'u' :: a :: b :: c :: d :: r => do push (← codePoint? [a, b, c, d]) (basic r)
  | '\\' :: 'U' :: a :: b :: c :: d :: e :: f :: g :: h :: r => do
    push (← codePoint? [a, b, c, d, e, f, g, h]) (basic r)
  | '\\' :: c :: r => do push (← shortEscape? c) (basic r)
  | c :: r => if isPlain c && c != '\\' then push c (basic r) else none

def literal : List Char → Option (List Char × List Char)
  | [] => none
  | '\'' :: r => some ([], r)
  | c :: r => if isPlain c then push c (literal r) else none

/-- Within a string of several lines: its text, the blanks after a backslash at the end of a line,
or the blanks and newlines after that. -/
inductive Fold where
  | text
  | tail
  | gap
  deriving DecidableEq

/-- A string of several lines after its opening quotes. Up to two quotes may stand before the three
that close it, and a backslash at the end of a line joins it to the next. -/
def multiBasic : Fold → List Char → Option (List Char × List Char)
  | _, [] => none
  | .tail, ' ' :: r => multiBasic .tail r
  | .tail, '\t' :: r => multiBasic .tail r
  | .tail, '\n' :: r => multiBasic .gap r
  | .tail, '\r' :: '\n' :: r => multiBasic .gap r
  | .tail, _ :: _ => none
  | .gap, ' ' :: r => multiBasic .gap r
  | .gap, '\t' :: r => multiBasic .gap r
  | .gap, '\n' :: r => multiBasic .gap r
  | .gap, '\r' :: '\n' :: r => multiBasic .gap r
  | _, '"' :: '"' :: '"' :: '"' :: '"' :: r => some (['"', '"'], r)
  | _, '"' :: '"' :: '"' :: '"' :: r => some (['"'], r)
  | _, '"' :: '"' :: '"' :: r => some ([], r)
  | _, '\n' :: r => push '\n' (multiBasic .text r)
  | _, '\r' :: '\n' :: r => push '\n' (multiBasic .text r)
  | _, '\\' :: ' ' :: r => multiBasic .tail r
  | _, '\\' :: '\t' :: r => multiBasic .tail r
  | _, '\\' :: '\n' :: r => multiBasic .gap r
  | _, '\\' :: '\r' :: '\n' :: r => multiBasic .gap r
  | _, '\\' :: 'u' :: a :: b :: c :: d :: r => do
    push (← codePoint? [a, b, c, d]) (multiBasic .text r)
  | _, '\\' :: 'U' :: a :: b :: c :: d :: e :: f :: g :: h :: r => do
    push (← codePoint? [a, b, c, d, e, f, g, h]) (multiBasic .text r)
  | _, '\\' :: c :: r => do push (← shortEscape? c) (multiBasic .text r)
  | _, c :: r => if isPlain c && c != '\\' then push c (multiBasic .text r) else none

def multiLiteral : List Char → Option (List Char × List Char)
  | [] => none
  | '\'' :: '\'' :: '\'' :: '\'' :: '\'' :: r => some (['\'', '\''], r)
  | '\'' :: '\'' :: '\'' :: '\'' :: r => some (['\''], r)
  | '\'' :: '\'' :: '\'' :: r => some ([], r)
  | '\n' :: r => push '\n' (multiLiteral r)
  | '\r' :: '\n' :: r => push '\n' (multiLiteral r)
  | c :: r => if isPlain c then push c (multiLiteral r) else none

/-- A newline directly after the opening quotes is not part of the string. -/
def dropNewline : List Char → List Char
  | '\n' :: r => r
  | '\r' :: '\n' :: r => r
  | r => r

def quoted? : List Char → Option (List Char × List Char)
  | '"' :: '"' :: '"' :: r => multiBasic .text (dropNewline r)
  | '"' :: r => basic r
  | '\'' :: '\'' :: '\'' :: r => multiLiteral (dropNewline r)
  | '\'' :: r => literal r
  | _ => none

end BuildMatrix.Toml
