import BuildMatrix.CommandLine.Arguments

namespace BuildMatrix.CommandLine

def Subcommand.summary : Subcommand → String
  | run => "Resolve the selectors and run generate, build and test"
  | resolve => "Print the resolved configuration and commands without running them"
  | matrix => "List every compiler and variant pair"
  | doctor => "Check that the required tools are installed"
  | completions => "Generate shell completions"

def usageText : String := "Usage: psp-build [OPTIONS] <COMMAND>\n"

def helpText : String :=
  let subcommand (c : Subcommand) := "  " ++ Text.padRight 12 c.name ++ " " ++ c.summary ++ "\n"
  let written : String × Kind → String
    | (name, .flag) => "  --" ++ name ++ "\n"
    | (name, .value _) => "  --" ++ name ++ " <VALUE>\n"
  usageText ++ "\nCommands:\n" ++ String.join (Subcommand.all.map subcommand) ++
    "\nOptions:\n" ++ String.join (globalOptions.map written)

def completionText (shell : String) : String :=
  let names := " ".intercalate (Subcommand.all.map Subcommand.name)
  match shell with
  | "fish" => "complete -c psp-build -f -a '" ++ names ++ "'\n"
  | "zsh" => "compctl -k '(" ++ names ++ ")' psp-build\n"
  | "bash" => "complete -W '" ++ names ++ "' psp-build\n"
  | _ => names ++ "\n"

end BuildMatrix.CommandLine
