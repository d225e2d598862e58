import BuildMatrix.Command
import BuildMatrix.Json
import BuildMatrix.Log
import BuildMatrix.Selection
import BuildMatrix.Settings

namespace BuildMatrix

inductive SkipReason where
  | unsupportedPair (reason : String)
  | crossCompiled
  deriving DecidableEq, Inhabited

namespace SkipReason

def message : SkipReason → String
  | unsupportedPair reason => reason
  | crossCompiled => "cross-compiled output has no test stage"

def toJson : SkipReason → Json
  | unsupportedPair reason =>
    .obj [("kind", .str "unsupported-pair"), ("reason", .str reason)]
  | crossCompiled => .obj [("kind", .str "cross-compiled")]

end SkipReason

structure Context where
  compiler : Compiler
  variant : Variant
  toolchain : Toolchain
  profile : Profile
  buildDir : Path
  skip : Option SkipReason
  settings : Settings
  deriving DecidableEq, Inhabited

def unsupportedReason : Compiler → Variant → Option String
  | .gcc, .msan => some "gcc does not implement MemorySanitizer"
  | _, _ => none

def buildDirName (c : Compiler) (v : Variant) : String := c.name ++ "-" ++ v.slug

namespace Context

def resolve (c : Compiler) (v : Variant) (s : Settings) : Context where
  compiler := c
  variant := v
  toolchain := c.toolchain
  profile := v.profile
  buildDir := s.buildRoot.join (.ofString (buildDirName c v))
  skip := (unsupportedReason c v).map .unsupportedPair
  settings := s

/-- The context that two selectors name. Both have to be given before either is read. -/
def resolveSelectors (compiler variant : Option String) (s : Settings) : Except Error Context := do
  let some compiler := compiler | throw (.missingSelector .compiler)
  let some variant := variant | throw (.missingSelector .variant)
  return resolve (← Compiler.parse compiler) (← Variant.parse variant) s

def testBinary (ctx : Context) : Path := ctx.buildDir.join ctx.settings.testBinary

def hasTestStage (ctx : Context) : Bool := ctx.skip.isNone && ctx.compiler.isNative

def configureArgs (ctx : Context) : List String :=
  ["-G", ctx.settings.generator, "-DCMAKE_BUILD_TYPE=" ++ ctx.profile.optimization.name,
    "-DCMAKE_CXX_FLAGS=" ++ ctx.profile.flags] ++ ctx.toolchain.definitions ++
    ["-DCMAKE_C_COMPILER=" ++ ctx.toolchain.cc, "-DCMAKE_CXX_COMPILER=" ++ ctx.toolchain.cxx,
      ctx.settings.sourceDir.display]

def configureCommand (ctx : Context) : Command :=
  (Command.ofProgram ctx.settings.generatorProgram).withArgs ctx.configureArgs
    |>.withCwd ctx.buildDir

def buildCommand (ctx : Context) : Command :=
  (Command.ofProgram ctx.settings.buildTool).withCwd ctx.buildDir

end Context

def memcheckArgs : List String := ["--leak-check=full", "--verbose", "--track-origins=yes"]

/-- Runs the binary itself, or the memory checker on it where the variant needs that. -/
def Variant.testCommand (v : Variant) (binary harness : Path) : Command :=
  if v.needsMemcheck then
    (Command.ofProgram harness).withArgs (memcheckArgs ++ [binary.display])
  else Command.ofProgram binary

def Context.testCommand (ctx : Context) : Command :=
  (ctx.variant.testCommand ctx.testBinary ctx.settings.harness).withCwd ctx.buildDir

def Context.command (ctx : Context) : Stage → Command
  | .generate => ctx.configureCommand
  | .build => ctx.buildCommand
  | .test => ctx.testCommand

def Context.resolvedLine (ctx : Context) : Log.Line where
  level := .debug
  scope := "psp_build::builder::context"
  message := "resolved build context"
  fields := [("compiler", ctx.compiler.name), ("variant", ctx.variant.name),
    ("build_dir", ctx.buildDir.display)]

end BuildMatrix
