import BuildMatrix.FileTree

namespace BuildMatrix.Script.Program

def isBlank (b : UInt8) : Bool := b = 0x20 || b = 0x09

def trim (s : List UInt8) : List UInt8 := (s.reverse.dropWhile isBlank).reverse

def headLength : Nat := 255

/-- The interpreter that the first line of a program names, and the rest of the line if there is
any: one word more for the interpreter. -/
def interpreter? (content : List UInt8) : Option (List UInt8 × Option (List UInt8)) :=
  match content with
  | 0x23 :: 0x21 :: rest =>
    let head := rest.take (headLength - 2)
    let line := head.takeWhile (· ≠ 0x0A)
    let isEnded := line.length < head.length || content.length < headLength
    let line := line.dropWhile isBlank
    let name := line.takeWhile fun b ↦ !isBlank b && b ≠ 0
    let rest := line.drop name.length
    if name = [] || (rest = [] && !isEnded) then none
    else if rest.head? = some 0 then some (name, none)
    else
      let word := trim (rest.dropWhile isBlank)
      some (name, if word = [] then none else some (word.takeWhile (· ≠ 0)))
  | _ => none

def depthLimit : Nat := 6

def shells : List Location :=
  [["bin", "sh"], ["bin", "dash"], ["usr", "bin", "sh"], ["usr", "bin", "dash"]].map fun l ↦
    l.map Text.Utf8.bytesOf

/-- The words that the shell is started with to carry out a program. A program is the shell, or a
file whose first line names one as its interpreter. -/
def words (tree : FileTree) (cwd : Location) :
    Nat → Path → List (List UInt8) → Except FileTree.Refusal (List (List UInt8))
  | 0, _, _ => .error .tooManyLinks
  | depth + 1, p, args => do
    match ← tree.node? cwd p with
    | .file content true =>
      if shells.contains (← tree.resolve cwd p) then return args
      match interpreter? content with
      | some (name, word) =>
        words tree cwd depth ⟨name⟩ (name :: word.toList ++ p.bytes :: args.drop 1)
      | none => throw .badFormat
    | _ => throw .denied

end BuildMatrix.Script.Program
