import BuildMatrix.Compiler
import BuildMatrix.Error
import BuildMatrix.Variant

namespace BuildMatrix

def selectorKey (s : String) : List Char := Text.lower (Text.trim s.toList)

def Compiler.parse (s : String) : Except Error Compiler :=
  match Compiler.all.find? fun c ↦ c.name.toList = selectorKey s with
  | some c => .ok c
  | none => .error (.unknownCompiler s (Compiler.all.map Compiler.name))

def dashAsUnderscore (c : Char) : Char := if c = '-' then '_' else c

/-- The variant with this name or slug, in any case and between blanks; `-` stands for `_`. -/
def Variant.parse (s : String) : Except Error Variant :=
  let key := (selectorKey s).map dashAsUnderscore
  match Variant.all.find? fun v ↦ v.slug.toList = key || Text.lower v.name.toList = key with
  | some v => .ok v
  | none => .error (.unknownVariant s (Variant.all.map Variant.name))

end BuildMatrix
