import BuildMatrix.Text.Alphanumeric

namespace BuildMatrix.Text

namespace Regex

structure State where
  repeats : Bool := false
  depth : Nat := 0
  deriving DecidableEq, Inhabited

def isHex (c : Char) : Bool :=
  c.isDigit || ('a' ≤ c && c ≤ 'f') || ('A' ≤ c && c ≤ 'F')

def hex? (count : Nat) (s : List Char) : Option (List Char) :=
  if (s.take count).length = count && (s.take count).all isHex then some (s.drop count) else none

def escape? : List Char → Option (List Char)
  | [] => none
  | c :: rest =>
    if "afnrtvdDsSwW".toList.contains c then some rest
    else if c = 'x' then hex? 2 rest
    else if c = 'u' then hex? 4 rest
    else if c = 'U' then hex? 8 rest
    else if c = 'p' || c = 'P' then
      if rest.head?.any fun d ↦ "LMNPSZC".toList.contains d then some (rest.drop 1) else none
    else if c.toNat < 128 && !c.isAlphanum && 0x20 < c.toNat && c ≠ '<' && c ≠ '>' then some rest
    else none

def set? : Nat → Nat → Bool → List Char → Option (List Char)
  | 0, _, _, _ => none
  | _ + 1, _, _, [] => none
  | fuel + 1, depth, first, c :: rest =>
    if c = ']' && !first then
      match depth with
      | 0 => some rest
      | depth + 1 => set? fuel depth false rest
    else if c = '[' then
      let rest := if rest.head? = some '^' then rest.drop 1 else rest
      set? fuel (depth + 1) true rest
    else if c = '\\' then do set? fuel depth false (← escape? rest)
    else
      match rest with
      | '-' :: d :: more =>
        if d ≠ ']' && d ≠ '[' && d ≠ '\\' && d ≠ '-' then
          if d < c then none else set? fuel depth false more
        else set? fuel depth false rest
      | _ => set? fuel depth false rest

/-- What follows the front of a group: its name or its flags. Answers also whether the group stays
open. -/
def front? (s : List Char) : Option (Bool × List Char) :=
  let named (s : List Char) : Option (Bool × List Char) :=
    let name := s.takeWhile (· ≠ '>')
    let isName := name.head?.any (fun c ↦ c = '_' || c.isAlpha) &&
      name.all fun c ↦ c = '_' || c.isAlphanum || c = '.'
    match s.drop name.length with
    | _ :: rest => if isName then some (true, rest) else none
    | [] => none
  match s with
  | '?' :: 'P' :: '<' :: rest | '?' :: '<' :: rest => named rest
  | '?' :: rest =>
    let flags := rest.takeWhile fun c ↦ c = '-' || c.isAlpha
    let isGood := flags.all (fun c ↦ "-imsUuxR".toList.contains c) && flags.getLast? ≠ some '-' &&
      flags.eraseDups = flags
    match rest.drop flags.length with
    | ':' :: rest => if isGood then some (true, rest) else none
    | ')' :: rest => if isGood && flags ≠ [] then some (false, rest) else none
    | _ => none
  | _ => some (true, s)

def accepts : Nat → State → List Char → Bool
  | 0, _, _ => false
  | _ + 1, st, [] => st.depth = 0
  | fuel + 1, st, c :: rest =>
    match c with
    | '\\' => (escape? rest).any (accepts fuel { st with repeats := true })
    | '[' =>
      let rest := if rest.head? = some '^' then rest.drop 1 else rest
      (set? fuel 0 true rest).any (accepts fuel { st with repeats := true })
    | '(' =>
      match front? rest with
      | some (true, rest) => accepts fuel ⟨false, st.depth + 1⟩ rest
      | some (false, rest) => accepts fuel { st with repeats := false } rest
      | none => false
    | ')' => 0 < st.depth && accepts fuel ⟨true, st.depth - 1⟩ rest
    | '|' => accepts fuel { st with repeats := false } rest
    | '*' | '+' | '?' => st.repeats && accepts fuel st rest
    | '\x7b' => false
    | _ => accepts fuel { st with repeats := true } rest

end Regex

/-- Whether a text is a regular expression that can be matched from left to right. Counted
repetitions are left out. -/
def isRegex (s : List Char) : Bool := Regex.accepts (s.length + 1) {} s

end BuildMatrix.Text
