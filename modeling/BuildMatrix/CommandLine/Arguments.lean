import BuildMatrix.Console

namespace BuildMatrix.CommandLine

/-- How an option is written: alone, or with a value that it accepts. -/
inductive Kind where
  | flag
  | value (accepts : String → Bool)

inductive Subcommand where
  | run
  | resolve
  | matrix
  | doctor
  | completions
  deriving DecidableEq, Inhabited

namespace Subcommand

def all : List Subcommand := [run, resolve, matrix, doctor, completions]

def name : Subcommand → String
  | run => "run"
  | resolve => "resolve"
  | matrix => "matrix"
  | doctor => "doctor"
  | completions => "completions"

def parse? (s : String) : Option Subcommand := all.find? fun c ↦ c.name = s

end Subcommand

def shells : List String := ["bash", "elvish", "fish", "powershell", "zsh"]

def anyText (_ : String) : Bool := true

def isPath (s : String) : Bool := s ≠ ""

def isFormat (s : String) : Bool := s = "human" || s = "json"

def globalOptions : List (String × Kind) :=
  [("verbose", .flag), ("quiet", .flag),
    ("color", .value fun s ↦ (ColorChoice.parse? s).isSome), ("message-format", .value isFormat),
    ("manifest-dir", .value isPath)]

def Subcommand.options : Subcommand → List (String × Kind)
  | run =>
    [("compiler", .value anyText), ("variant", .value anyText), ("dry-run", .flag),
      ("build-root", .value isPath)]
  | resolve =>
    [("compiler", .value anyText), ("variant", .value anyText), ("build-root", .value isPath)]
  | doctor => [("compiler", .value anyText), ("variant", .value anyText)]
  | matrix | completions => []

inductive Level where
  | top
  | inside (c : Subcommand)
  deriving DecidableEq, Inhabited

namespace Level

def options : Level → List (String × Kind)
  | top => globalOptions
  | inside c => c.options ++ globalOptions

def takesWord : Level → Bool
  | inside .completions => true
  | _ => false

end Level

inductive Stop where
  | usage
  | help
  | version
  deriving DecidableEq, Inhabited

/-- The options and words read on a level. The value of the last option is not checked before
something follows it. -/
structure Given where
  options : List (String × String) := []
  words : List String := []
  pending : Option (String × String) := none
  deriving DecidableEq, Inhabited

def accepts (level : Level) (name value : String) : Bool :=
  match level.options.lookup name with
  | some (.value f) => f value
  | _ => false

namespace Given

def settle (g : Given) (level : Level) : Except Stop Given :=
  match g.pending with
  | none => .ok g
  | some (name, value) =>
    if (g.options.lookup name).isSome then .error .usage
    else if accepts level name value then
      .ok { g with options := g.options ++ [(name, value)], pending := none }
    else .error .usage

def addFlag (g : Given) (level : Level) (name : String) : Except Stop Given := do
  let g ← g.settle level
  if (g.options.lookup name).isSome then throw .usage
  return { g with options := g.options ++ [(name, "")] }

def addWord (g : Given) (level : Level) (word : String) : Except Stop Given :=
  if level.takesWord && g.words.isEmpty then .ok { g with words := [word] } else .error .usage

def settleWords (g : Given) : Except Stop Given :=
  if g.words.all shells.contains then .ok g else .error .usage

end Given

def isOption (s : String) : Bool := "-".toList.isPrefixOf s.toList && s ≠ "-"

def splitLong (s : List Char) : String × Option String :=
  let name := String.ofList (s.takeWhile (· ≠ '='))
  match s.dropWhile (· ≠ '=') with
  | _ :: value => (name, some (String.ofList value))
  | [] => (name, none)

def readShort (level : Level) : List Char → Given → Except Stop Given
  | [], g => .ok g
  | c :: rest, g =>
    if c = 'v' then do readShort level rest (← g.addFlag level "verbose")
    else if c = 'q' then do readShort level rest (← g.addFlag level "quiet")
    else if c = 'h' then do
      let _ ← (← g.settle level).settleWords
      throw .help
    else if c = 'V' ∧ level = .top then do
      let _ ← g.settle level
      throw .version
    else throw .usage

/-- Reads arguments up to the first that names a subcommand on the top level, and answers what
follows that name. After `--` only words are read. -/
def read (level : Level) :
    List String → Given → Except Stop (Given × Option (Subcommand × List String))
  | [], g => .ok (g, none)
  | "--" :: rest, g => do
    return (← rest.foldlM (fun g w ↦ g.addWord level w) g, none)
  | arg :: rest, g =>
    match arg.toList with
    | '-' :: '-' :: long =>
      let (name, value) := splitLong long
      if name = "help" ∧ value = none then do
        let _ ← (← g.settle level).settleWords
        throw .help
      else if name = "version" ∧ value = none ∧ level = .top then do
        let _ ← g.settle level
        throw .version
      else
        match level.options.lookup name, value with
        | some .flag, none => do read level rest (← g.addFlag level name)
        | some (.value _), some v => do
          read level rest { ← g.settle level with pending := some (name, v) }
        | some (.value _), none =>
          match rest with
          | v :: rest =>
            if isOption v then throw .usage
            else do read level rest { ← g.settle level with pending := some (name, v) }
          | [] => throw .usage
        | _, _ => throw .usage
    | '-' :: c :: short => do read level rest (← readShort level (c :: short) g)
    | _ =>
      do
        let g ← g.settle level
        if level = .top then
          if arg = "help" then throw (if helpNames rest then .help else .usage)
          match Subcommand.parse? arg with
          | some c => return (g, some (c, rest))
          | none => throw .usage
        else read level rest (← g.addWord level arg)
where
  /-- What help can be asked for: everything, or one subcommand. -/
  helpNames : List String → Bool
    | [] => true
    | [name] => name = "help" || (Subcommand.parse? name).isSome
    | _ => false

def finish (level : Level) (g : Given) : Except Stop Given := do
  let g ← (← g.settle level).settleWords
  if (g.options.lookup "verbose").isSome && (g.options.lookup "quiet").isSome then throw .usage
  if level.takesWord && g.words.isEmpty then throw .usage
  return g

structure Invocation where
  subcommand : Subcommand
  options : List (String × String)
  words : List String
  deriving DecidableEq, Inhabited

namespace Invocation

def has (i : Invocation) (name : String) : Bool := (i.options.lookup name).isSome

def get? (i : Invocation) (name : String) : Option String := i.options.lookup name

def color (i : Invocation) : ColorChoice := ((i.get? "color").bind ColorChoice.parse?).getD .auto

def isJson (i : Invocation) : Bool := i.get? "message-format" = some "json"

def console (i : Invocation) (terminal : Bool) : Console :=
  .ofFlags terminal (i.has "quiet") (i.has "verbose") i.color i.isJson

end Invocation

/-- The task that arguments name. An option given after the subcommand goes before the same one
given in front of it. -/
def parse (args : List String) : Except Stop Invocation := do
  let (outer, rest) ← read .top args {}
  match rest with
  | none =>
    let _ ← finish .top outer
    throw .usage
  | some (c, rest) =>
    let (inner, _) ← read (.inside c) rest {}
    let inner ← finish (.inside c) inner
    let outer ← finish .top outer
    return ⟨c, inner.options ++ outer.options, inner.words⟩

end BuildMatrix.CommandLine
