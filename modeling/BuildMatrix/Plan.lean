import BuildMatrix.Context

namespace BuildMatrix

/-- What a run would do, as command lines; the absent ones would not be given. -/
structure Plan where
  compiler : Compiler
  variant : Variant
  optimization : Optimization
  flags : String
  toolchain : Toolchain
  buildDir : Path
  skip : Option SkipReason
  generate : Option String
  build : Option String
  test : Option String
  deriving DecidableEq, Inhabited

namespace Plan

def ofContext (ctx : Context) : Plan where
  compiler := ctx.compiler
  variant := ctx.variant
  optimization := ctx.profile.optimization
  flags := ctx.profile.flags
  toolchain := ctx.toolchain
  buildDir := ctx.buildDir
  skip := ctx.skip.or (if ctx.compiler.isNative then none else some .crossCompiled)
  generate := if ctx.skip.isNone then some ctx.configureCommand.display else none
  build := if ctx.skip.isNone then some ctx.buildCommand.display else none
  test := if ctx.hasTestStage then some ctx.testCommand.display else none

def commands (p : Plan) : List (Stage × String) :=
  (p.generate.map (Stage.generate, ·)).toList ++ (p.build.map (Stage.build, ·)).toList ++
    (p.test.map (Stage.test, ·)).toList

/-- A plan as an object with its keys in order; nothing if the directory is not UTF-8. -/
def toJson? (p : Plan) : Option Json := do
  let dir ← p.buildDir.text?
  let skip := match p.skip with
    | some s => [("skip", s.toJson)]
    | none => []
  return .obj ([("build", Json.ofOption .str p.build), ("build_dir", .str dir),
    ("build_type", .str p.optimization.name), ("cc", .str p.toolchain.cc),
    ("compiler", .str p.compiler.name), ("compiler_flags", .str p.flags),
    ("cxx", .str p.toolchain.cxx),
    ("definitions", .arr (p.toolchain.definitions.map .str)),
    ("generate", Json.ofOption .str p.generate)] ++ skip ++
    [("test", Json.ofOption .str p.test), ("variant", .str p.variant.name)])

end Plan

end BuildMatrix
