import BuildMatrix.Diagnostic
import BuildMatrix.Stage
import BuildMatrix.Text.Blank

namespace BuildMatrix

inductive Selector where
  | compiler
  | variant
  deriving DecidableEq, Inhabited

namespace Selector

def name : Selector → String
  | compiler => "Compiler"
  | variant => "BuildType"

def flag : Selector → String
  | compiler => "--compiler"
  | variant => "--variant"

end Selector

inductive Error where
  | unknownCompiler (value : String) (expected : List String)
  | unknownVariant (value : String) (expected : List String)
  | invalidConfig (path : Path) (message : String)
  | missingSelector (selector : Selector)
  | stageFailed (stage : Stage) (command : String) (output : StageOutput)
  | io (path : Path) (message : String)
  deriving DecidableEq, Inhabited

namespace Error

def commaJoin (names : List String) : String := ", ".intercalate names

def message : Error → String
  | unknownCompiler value expected =>
    "unknown compiler `" ++ value ++ "` (expected one of: " ++ commaJoin expected ++ ")"
  | unknownVariant value expected =>
    "unknown build variant `" ++ value ++ "` (expected one of: " ++ commaJoin expected ++ ")"
  | invalidConfig path message => "invalid configuration in " ++ path.display ++ ": " ++ message
  | missingSelector s => "required selector `" ++ s.name ++ "` is not set"
  | stageFailed stage _ output =>
    stage.name ++ " step failed with exit code " ++ toString output.code
  | io path _ => "I/O error at " ++ path.display

def isConfiguration : Error → Bool
  | unknownCompiler .. | unknownVariant .. | invalidConfig .. | missingSelector _ => true
  | stageFailed .. | io .. => false

def configurationCode : Int := 2

def exitCode : Error → Int
  | stageFailed _ _ output => output.code
  | io .. => 1
  | _ => configurationCode

def code : Error → String
  | unknownCompiler .. => "psp_build::config::unknown_compiler"
  | unknownVariant .. => "psp_build::config::unknown_variant"
  | invalidConfig .. => "psp_build::config::invalid"
  | missingSelector _ => "psp_build::env::missing_selector"
  | stageFailed .. => "psp_build::stage::failed"
  | io .. => "psp_build::io"

def help : Error → Option String
  | missingSelector s => some ("export `" ++ s.name ++ "` or pass it on the command line")
  | _ => none

def addCaptured (title text : String) (d : Diagnostic) : Diagnostic :=
  if (Text.trim text.toList).isEmpty then d
  else d.withContext (title ++ ":\n" ++ String.ofList (Text.trimEnd text.toList))

def toDiagnostic : Error → Diagnostic
  | unknownCompiler value expected =>
    (Diagnostic.error ("unknown compiler `" ++ value ++ "`")
      |>.withContext ("supported compilers: " ++ commaJoin expected)
      |>.withSuggestion "Set `Compiler` to one of the supported compilers")
  | unknownVariant value expected =>
    (Diagnostic.error ("unknown build variant `" ++ value ++ "`")
      |>.withContext ("supported variants: " ++ commaJoin expected)
      |>.withSuggestion "Set `BuildType` to one of the supported variants")
  | invalidConfig path message =>
    (Diagnostic.error "invalid configuration file" |>.withLocation path |>.withContext message)
  | missingSelector s =>
    (Diagnostic.error ("required selector `" ++ s.name ++ "` is not set")
      |>.withSuggestion ("Export `" ++ s.name ++ "` in the job environment")
      |>.withSuggestion ("Pass `" ++ s.flag ++ "` on the command line"))
  | stageFailed stage command output =>
    (Diagnostic.error (message (stageFailed stage command output))
      |>.withContext ("command: " ++ command)
      |> addCaptured "stdout" output.stdout
      |> addCaptured "stderr" output.stderr)
  | io path message => Diagnostic.error message |>.withLocation path

end Error

end BuildMatrix
