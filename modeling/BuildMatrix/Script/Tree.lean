import BuildMatrix.Script.Letters

namespace BuildMatrix.Script

inductive Look where
  | value
  | orElse
  | ifSet
  | orFail
  | orAssign
  | dropEnd (longest : Bool)
  | dropStart (longest : Bool)
  | length
  | nonsense
  deriving DecidableEq, Inhabited

inductive OpenMode where
  | read
  | readWrite
  | create (force : Bool)
  | append
  deriving DecidableEq, Inhabited

mutual

/-- A part of a word. Marks stand where quotes were; characters between them, and those after a
backslash, are escaped if they could mean something else. A reference holds the word after its
sign; with `orEmpty` an empty value counts as none. -/
inductive Piece where
  | plain (c : Char)
  | escaped (c : Char)
  | mark
  | parameter (name : Letters) (look : Look) (orEmpty : Bool) (word : List Piece)
  | substitution (body : Option Tree)
  | arithmetic (expression : List Piece)

/-- A change to a descriptor: a file, another descriptor, or a document in the script, which is
looked up by its number when it is needed. -/
inductive Redirection where
  | file (fd : Nat) (mode : OpenMode) (name : List Piece)
  | copy (fd : Nat) (input : Bool) (source : List Piece)
  | document (fd : Nat) (number : Nat)

inductive Tree where
  | simple (line : Nat) (assignments words : List (List Piece)) (changes : List Redirection)
  | pipeline (parts : List Tree) (background : Bool)
  | redirected (line : Nat) (body : Tree) (changes : List Redirection)
  | subshell (line : Nat) (body : Tree) (changes : List Redirection)
  | background (line : Nat) (body : Tree) (changes : List Redirection)
  | not (body : Tree)
  | andThen (first second : Tree)
  | orThen (first second : Tree)
  | sequence (first second : Tree)
  | branch (test yes : Tree) (no : Option Tree)
  | loop (negated : Bool) (test body : Tree)
  | each (line : Nat) (name : Letters) (words : List (List Piece)) (body : Tree)
  | select (line : Nat) (word : List Piece) (choices : List Choice)
  | define (line : Nat) (name : Letters) (body : Tree)

inductive Choice where
  | mk (patterns : List (List Piece)) (body : Option Tree)

end

def bare (word : List Piece) : Letters :=
  word.filterMap fun
    | .plain c | .escaped c => some c
    | _ => none

def plainText? : List Piece → Option Letters
  | [] => some []
  | .plain c :: rest => (plainText? rest).map (c :: ·)
  | _ :: _ => none

/-- Whether a word sets a variable: a name and `=` stand at its front. -/
def isAssignment (word : List Piece) : Bool :=
  let front := word.takeWhile fun
    | .plain c => isNameChar c
    | _ => false
  isName (bare front) &&
    match word.drop front.length with
    | .plain '=' :: _ => true
    | _ => false

end BuildMatrix.Script
