import BuildMatrix.Context
import BuildMatrix.Text.Column

namespace BuildMatrix.Matrix

structure Row where
  compiler : Compiler
  variant : Variant
  buildDir : Path
  supported : Bool
  cross : Bool
  memcheck : Bool
  deriving DecidableEq, Inhabited

def Row.ofContext (ctx : Context) : Row where
  compiler := ctx.compiler
  variant := ctx.variant
  buildDir := ctx.buildDir
  supported := ctx.skip.isNone
  cross := !ctx.compiler.isNative
  memcheck := ctx.variant.needsMemcheck

def contexts (s : Settings) : List Context :=
  Compiler.all.flatMap fun c ↦ Variant.all.map fun v ↦ Context.resolve c v s

def rows (s : Settings) : List Row := (contexts s).map Row.ofContext

namespace Row

def mode (r : Row) : String :=
  if !r.supported then "unsupported"
  else if r.cross then "build-only"
  else if r.memcheck then "memcheck"
  else "native"

def columns (compiler variant mode dir : String) : String :=
  Text.padRight 12 compiler ++ " " ++ Text.padRight 12 variant ++ " " ++ Text.padRight 12 mode ++
    " " ++ dir ++ "\n"

def text (r : Row) : String :=
  columns r.compiler.name r.variant.name r.mode r.buildDir.display

/-- A row as an object with its keys in order; nothing if the directory is not UTF-8. -/
def toJson? (r : Row) : Option Json := do
  return .obj [("build_dir", .str (← r.buildDir.text?)), ("compiler", .str r.compiler.name),
    ("cross", .bool r.cross), ("memcheck", .bool r.memcheck), ("supported", .bool r.supported),
    ("variant", .str r.variant.name)]

end Row

def header : String := Row.columns "COMPILER" "VARIANT" "MODE" "BUILD DIR"

end BuildMatrix.Matrix
