import BuildMatrix.Config.Schema
import BuildMatrix.Error
import BuildMatrix.FileTree

namespace BuildMatrix

structure Settings where
  buildRoot : Path
  sourceDir : Path
  generator : String
  generatorProgram : Path
  buildTool : Path
  testBinary : Path
  harness : Path
  deriving DecidableEq, Inhabited

namespace Settings

def projectFile : Path := .ofString "psp-build.toml"

def defaultGeneratorProgram : Path := .ofString "cmake"

def defaultBuildTool : Path := .ofString "ninja"

def defaultHarness : Path := .ofString "valgrind"

/-- A program with a directory part is seen from the project; a bare name is left for the search. -/
def programPath (root : Path) (configured : Option Path) (default : Path) : Path :=
  match configured with
  | some p => if !p.isAbsolute && 1 < p.components.length then root.join p else p
  | none => default

end Settings

namespace Config

def path? (c : Config) (f : Field) : Option Path := (c.get f).map f.kind.toPath

def settings (c : Config) (cwd root : Path) : Settings :=
  let root := root.absolute cwd
  { buildRoot := root.join ((c.path? .buildRoot).getD (.ofString "build"))
    sourceDir := ((c.path? .sourceDir).map root.join).getD root
    generator := (c.get .generator).getD "Ninja"
    generatorProgram := Settings.programPath root (c.path? .generatorProgram)
      Settings.defaultGeneratorProgram
    buildTool := Settings.programPath root (c.path? .buildTool) Settings.defaultBuildTool
    testBinary := (c.path? .testBinary).getD (.ofString "install/psp_test")
    harness := Settings.programPath root (c.path? .harnessProgram) Settings.defaultHarness }

end Config

end BuildMatrix
