import BuildMatrix.Script.Letters

namespace BuildMatrix.Script

inductive Item where
  | range (low high : Char)
  | named (name : Letters)
  deriving DecidableEq, Inhabited

inductive Sign where
  | char (c : Char)
  | one
  | many
  | set (negated : Bool) (items : List Item)
  deriving DecidableEq, Inhabited

namespace Sign

/-- Bytes are ordered as signed numbers. -/
def order (c : Char) : Int := if c.toNat < 128 then c.toNat else (c.toNat : Int) - 256

def isPunctuation (c : Char) : Bool := 0x21 ≤ c.toNat && c.toNat ≤ 0x7E && !c.isAlphanum

def classes : List (Letters × (Char → Bool)) :=
  [("alnum".toList, Char.isAlphanum), ("alpha".toList, Char.isAlpha),
    ("blank".toList, fun c ↦ c = ' ' || c = '\t'),
    ("cntrl".toList, fun c ↦ c.toNat < 0x20 || c.toNat == 0x7F),
    ("digit".toList, Char.isDigit),
    ("graph".toList, fun c ↦ 0x21 ≤ c.toNat && c.toNat ≤ 0x7E), ("lower".toList, Char.isLower),
    ("print".toList, fun c ↦ 0x20 ≤ c.toNat && c.toNat ≤ 0x7E),
    ("punct".toList, isPunctuation), ("space".toList, isSpace), ("upper".toList, Char.isUpper),
    ("xdigit".toList, fun c ↦
      c.isDigit || ('a' ≤ c && c ≤ 'f') || ('A' ≤ c && c ≤ 'F'))]

def class? (s : Letters) : Option (Letters × Letters) :=
  (classes.find? fun e ↦ (':' :: e.1 ++ [':', ']']).isPrefixOf s).map fun e ↦
    (e.1, s.drop (e.1.length + 3))

/-- The members of a set up to its closing bracket, and what follows it; a bracket in the first
place is a member. -/
def items? : Nat → Letters → Option (List Item × Letters)
  | 0, _ => none
  | fuel + 1, s =>
    let after (item : Item) (rest : Letters) : Option (List Item × Letters) :=
      match rest with
      | ']' :: rest => some ([item], rest)
      | rest => (items? fuel rest).map fun (items, rest) ↦ (item :: items, rest)
    let single (c : Char) (rest : Letters) : Option (List Item × Letters) :=
      match rest with
      | '-' :: ']' :: _ => after (.range c c) rest
      | '-' :: '\\' :: d :: more => after (.range c d) more
      | '-' :: d :: more => after (.range c d) more
      | _ => after (.range c c) rest
    match s with
    | [] => none
    | '[' :: rest =>
      match class? rest with
      | some (name, rest) => after (.named name) rest
      | none => single '[' rest
    | '\\' :: c :: rest => single c rest
    | c :: rest => single c rest

/-- The signs of a pattern, in which a backslash takes away the meaning of a character. A bracket
that is not closed stands for itself. -/
def parse : Nat → Letters → List Sign
  | 0, _ => []
  | _ + 1, [] => []
  | fuel + 1, '\\' :: c :: rest => char c :: parse fuel rest
  | fuel + 1, '?' :: rest => one :: parse fuel rest
  | fuel + 1, '*' :: rest => many :: parse fuel rest
  | fuel + 1, '[' :: rest =>
    let (negated, inside) :=
      match rest with
      | '!' :: more => (true, more)
      | more => (false, more)
    match items? (inside.length + 1) inside with
    | some (items, more) => set negated items :: parse fuel more
    | none => char '[' :: parse fuel rest
  | fuel + 1, c :: rest => char c :: parse fuel rest

def ofPattern (pattern : Letters) : List Sign := parse (pattern.length + 1) pattern

def accepts (c : Char) : Item → Bool
  | .range low high => order low ≤ order c && order c ≤ order high
  | .named name => (classes.lookup name).any fun f ↦ f c

end Sign

def fits : List Sign → Letters → Bool
  | [], s => s.isEmpty
  | .many :: p, [] => fits p []
  | .many :: p, c :: s => fits p (c :: s) || fits (.many :: p) s
  | .one :: p, _ :: s => fits p s
  | .char c :: p, d :: s => c = d && fits p s
  | .set negated items :: p, d :: s => items.any (Sign.accepts d) != negated && fits p s
  | _ :: _, [] => false

def matchesPattern (pattern s : Letters) : Bool := fits (Sign.ofPattern pattern) s

end BuildMatrix.Script
