import Mathlib.Data.List.Basic
import Mathlib.Tactic.SplitIfs

namespace BuildMatrix.ShellLine

structure Letter where
  char : Char
  isQuoted : Bool
  deriving DecidableEq

namespace Letter

def bare (c : Char) : Letter := ⟨c, false⟩

def quoted (c : Char) : Letter := ⟨c, true⟩

end Letter

abbrev Word := List Letter

/-- Where the shell is in a line: between words or in one, in quotes of either kind, behind a
backslash, or in a comment. -/
inductive Place where
  | between
  | bare
  | escaped (inWord : Bool)
  | double
  | doubleEscaped
  | single
  | comment
  deriving DecidableEq

inductive Act where
  | part
  | put (letters : List Letter) (next : Place)

def isBlank (c : Char) : Bool := c = ' ' || c = '\t'

def isExpansion (c : Char) : Bool := c = '$' || c = '\x60'

def isOperator (c : Char) : Bool := "\n|&;<>()".toList.contains c

def isEscapable (c : Char) : Bool := isExpansion c || c = '"' || c = '\\' || c = '\n'

def unquoted (inWord : Bool) (c : Char) : Option Act :=
  if c = '\\' then some (.put [] (.escaped inWord))
  else if c = '"' then some (.put [] .double)
  else if c = '\x27' then some (.put [] .single)
  else if isExpansion c || isOperator c then none
  else some (.put [.bare c] .bare)

/-- What a character does in a place, unless the line is no plain command with it. -/
def step : Place → Char → Option Act
  | .between, c =>
    if isBlank c then some (.put [] .between)
    else if c = '#' then some (.put [] .comment)
    else unquoted false c
  | .bare, c => if isBlank c then some .part else unquoted true c
  | .escaped inWord, c =>
    if c = '\n' then some (.put [] (if inWord then .bare else .between))
    else some (.put [.quoted c] .bare)
  | .double, c =>
    if c = '"' then some (.put [] .bare)
    else if c = '\\' then some (.put [] .doubleEscaped)
    else if isExpansion c then none
    else some (.put [.quoted c] .double)
  | .doubleEscaped, c =>
    if c = '\n' then some (.put [] .double)
    else if isEscapable c then some (.put [.quoted c] .double)
    else some (.put [.quoted '\\', .quoted c] .double)
  | .single, c => if c = '\x27' then some (.put [] .bare) else some (.put [.quoted c] .single)
  | .comment, c => if c = '\n' then none else some (.put [] .comment)

def push (l : Letter) : List Word → List Word
  | [] => [[l]]
  | w :: ws => (l :: w) :: ws

def scan : Place → List Char → Option (List Word)
  | .between, [] | .comment, [] => some []
  | .bare, [] => some [[]]
  -- A backslash at the end takes the newline that the line is ended with.
  | _, [] => none
  | p, c :: s =>
    match step p c with
    | none => none
    | some .part => (scan .between s).map ([] :: ·)
    | some (.put letters next) => (scan next s).map fun ws ↦ letters.foldr push ws

/-- Words that are no names of commands: some shells have more of them than others. -/
def reserved : List String :=
  ["!", "\x7b", "\x7d", "case", "do", "done", "elif", "else", "esac", "fi", "for", "if", "in",
    "then", "until", "while", "[[", "]]", "function", "namespace", "select", "time"]

def isReserved (w : Word) : Bool := reserved.any fun s ↦ s.toList.map .bare = w

def isNameStart (l : Letter) : Bool := !l.isQuoted && (l.char.isAlpha || l.char = '_')

def isNamePart (l : Letter) : Bool := isNameStart l || !l.isQuoted && l.char.isDigit

def isAssignment (w : Word) : Bool :=
  w.head?.any isNameStart && (w.dropWhile isNamePart).head? == some (.bare '=')

def isHome (w : Word) : Bool :=
  w.head? == some (.bare '~') && (w.takeWhile (· ≠ .bare '/')).all (!·.isQuoted)

def closesSet : Word → Bool
  | [] => false
  | l :: w => l.char ≠ '/' && (l = .bare ']' || closesSet w)

def opensSet (w : Word) : Bool :=
  w.head? == some (.bare '[') &&
    match if w.tail.head? == some (.bare '!') then w.tail.tail else w.tail with
    | [] => false
    | l :: w => l.char ≠ '/' && closesSet w

def isPattern (w : Word) : Bool :=
  w.contains (.bare '*') || w.contains (.bare '?') || w.tails.any opensSet

def expands (w : Word) : Bool := isHome w || isPattern w

def spell (ws : List Word) : List (List Char) := ws.map (·.map Letter.char)

def isPlain : List Word → Bool
  | [] => false
  | w :: ws => !isReserved w && !isAssignment w && (w :: ws).all fun w ↦ !expands w

/-- What a shell that is given a line runs with which arguments, if the line is one simple command
that says so by itself: without operators, variables, patterns and what else depends on more than
the line. -/
def read? (s : List Char) : Option (List (List Char)) :=
  (scan .between s).bind fun ws ↦ if isPlain ws then some (spell ws) else none

section

variable {p q next : Place} {c d : Char} {s t : List Char} {letters : List Letter}
  {ws : List Word}

theorem scan_cons (p : Place) (c : Char) (s : List Char) : scan p (c :: s) =
    match step p c with
    | none => none
    | some .part => (scan .between s).map ([] :: ·)
    | some (.put letters next) => (scan next s).map fun ws ↦ letters.foldr push ws := by
  cases p <;> rfl

theorem scan_of_put (h : step p c = some (.put letters next)) :
    scan p (c :: s) = (scan next s).map fun ws ↦ letters.foldr push ws := by
  rw [scan_cons, h]

theorem scan_of_skip (h : step p c = some (.put [] next)) : scan p (c :: s) = scan next s :=
  (scan_of_put h).trans Option.map_id'

theorem scan_of_refused (h : step p c = none) : scan p (c :: s) = none := by
  rw [scan_cons, h]

theorem spell_push (l : Letter) (ws : List Word) :
    (spell (push l ws)).flatten = l.char :: (spell ws).flatten := by
  cases ws <;> rfl

theorem spell_foldr_push (letters : List Letter) (ws : List Word) :
    (spell (letters.foldr push ws)).flatten = letters.map Letter.char ++ (spell ws).flatten := by
  induction letters with
  | nil => rfl
  | cons l letters ih => rw [List.foldr_cons, spell_push, ih, List.map_cons, List.cons_append]

theorem foldr_push_cons (letters w : Word) (ws : List Word) :
    letters.foldr push (w :: ws) = (letters ++ w) :: ws := by
  induction letters with
  | nil => rfl
  | cons l letters ih => rw [List.foldr_cons, ih, push, List.cons_append]

theorem spell_nil_cons (ws : List Word) : (spell ([] :: ws)).flatten = (spell ws).flatten := rfl

theorem scan_comment (h : scan .comment s = some ws) : ws = [] := by
  induction s with
  | nil => exact (Option.some_inj.1 h).symm
  | cons c s ih =>
    by_cases hc : c = '\n'
    · rw [scan_of_refused (by simp [step, hc])] at h
      cases h
    · have hstep : step .comment c = some (.put [] .comment) := by simp [step, hc]
      rw [scan_of_skip hstep] at h
      exact ih h

def singles (s : List Char) : Nat := s.count '\x27'

def slashes (s : List Char) : Nat := s.count '\\'

def marks (s : List Char) : Nat := s.count '\\' + s.count '"'

theorem singles_append (s t : List Char) : singles (s ++ t) = singles s + singles t :=
  List.count_append

theorem slashes_append (s t : List Char) : slashes (s ++ t) = slashes s + slashes t :=
  List.count_append

theorem marks_append (s t : List Char) : marks (s ++ t) = marks s + marks t := by
  rw [marks, marks, marks, List.count_append, List.count_append]
  omega

theorem singles_cons (c : Char) (s : List Char) : singles (c :: s) = singles [c] + singles s :=
  singles_append [c] s

theorem slashes_cons (c : Char) (s : List Char) : slashes (c :: s) = slashes [c] + slashes s :=
  slashes_append [c] s

theorem marks_cons (c : Char) (s : List Char) : marks (c :: s) = marks [c] + marks s :=
  marks_append [c] s

def Place.due : Place → Nat
  | .single => 1
  | _ => 0

def Place.spare : Place → Nat
  | .escaped _ | .doubleEscaped => 1
  | _ => 0

theorem eq_bare_of_part (h : step p c = some .part) : p = .bare := by
  cases p
  case bare => rfl
  all_goals
    simp only [step, unquoted] at h
    split_ifs at h
  all_goals cases h

theorem step_singles (h : step p c = some (.put letters next)) :
    singles (letters.map Letter.char) ≤ singles [c] ∧
      singles (letters.map Letter.char) + p.due ≤ singles [c] + next.due := by
  cases p
  all_goals
    simp only [step, unquoted] at h
    split_ifs at h
  all_goals cases h <;> simp_all [singles, Place.due, Letter.bare, Letter.quoted]

theorem step_marks (h : step p c = some (.put letters next)) (hp : p.due = 0)
    (hnext : next.due = 0) :
    marks (letters.map Letter.char) + next.spare ≤ slashes [c] + p.spare := by
  have hcount : [c].count '"' ≤ 1 := List.count_le_length
  cases p
  all_goals
    simp only [step, unquoted] at h
    split_ifs at h
  all_goals cases h <;> simp_all [marks, slashes, isEscapable, Place.due, Place.spare,
    Letter.bare, Letter.quoted]

/-- Letters come from the line: a single quote that is taken for a quote is one too few, and so is
a backslash that another one takes the meaning of. -/
theorem scan_thrift (h : scan p s = some ws) :
    singles (spell ws).flatten + p.due ≤ singles s ∧
      (singles (spell ws).flatten = singles s →
        marks (spell ws).flatten ≤ slashes s + p.spare) := by
  induction s generalizing p ws with
  | nil =>
    have hws : (spell ws).flatten = [] ∧ p.due = 0 := by
      cases p <;> cases h <;> exact ⟨rfl, rfl⟩
    simp [hws, marks, singles]
  | cons c s ih =>
    rw [singles_cons, slashes_cons]
    rw [scan_cons] at h
    split at h
    case h_1 => cases h
    case h_2 hstep =>
      -- A blank that ends a word adds no letter to it.
      obtain rfl := eq_bare_of_part hstep
      obtain ⟨ws', hws', rfl⟩ := Option.map_eq_some_iff.1 h
      obtain ⟨hdue, hspare⟩ := ih hws'
      rw [spell_nil_cons]
      simp only [Place.due, Place.spare] at hdue hspare ⊢
      refine ⟨by omega, fun heq ↦ ?_⟩
      have hrest := hspare (by omega)
      omega
    case h_3 letters next hstep =>
      obtain ⟨ws', hws', rfl⟩ := Option.map_eq_some_iff.1 h
      obtain ⟨hdue, hspare⟩ := ih hws'
      obtain ⟨hletters, hstep_due⟩ := step_singles hstep
      rw [spell_foldr_push, singles_append, marks_append]
      refine ⟨by omega, fun heq ↦ ?_⟩
      have hmarks := step_marks hstep (by omega) (by omega)
      have hrest := hspare (by omega)
      omega

end

end BuildMatrix.ShellLine
