import BuildMatrix.Script.Letters

namespace BuildMatrix.Script

inductive Builtin where
  | aliases
  | background
  | break
  | cd
  | colon
  | command
  | continue
  | dot
  | echo
  | eval
  | exec
  | exit
  | export
  | false
  | foreground
  | getopts
  | hash
  | jobs
  | kill
  | local
  | printf
  | pwd
  | read
  | readonly
  | return
  | set
  | shift
  | test
  | times
  | trap
  | true
  | type
  | ulimit
  | umask
  | unalias
  | unset
  | wait
  deriving DecidableEq, Inhabited

namespace Builtin

def table : List (Letters × Builtin) :=
  [("alias".toList, aliases), ("bg".toList, background), ("break".toList, .break),
    ("cd".toList, cd), ("chdir".toList, cd), ([':'], colon), ("command".toList, command),
    ("continue".toList, .continue), (['.'], dot), ("echo".toList, echo), ("eval".toList, eval),
    ("exec".toList, exec), ("exit".toList, exit), ("export".toList, .export),
    ("false".toList, .false), ("fg".toList, foreground), ("getopts".toList, getopts),
    ("hash".toList, hash), ("jobs".toList, jobs), ("kill".toList, kill),
    ("local".toList, .local), ("printf".toList, printf), ("pwd".toList, pwd),
    ("read".toList, read), ("readonly".toList, readonly), ("return".toList, .return),
    ("set".toList, set), ("shift".toList, shift), ("test".toList, test), (['['], test),
    ("times".toList, times), ("trap".toList, trap), ("true".toList, .true), ("type".toList, type),
    ("ulimit".toList, ulimit), ("umask".toList, umask), ("unalias".toList, unalias),
    ("unset".toList, unset), ("wait".toList, wait)]

def ofName? (name : Letters) : Option Builtin := table.lookup name

/-- Special ones keep their assignments, and a failure of one ends the script. -/
def isSpecial : Builtin → Bool
  | .break | colon | .continue | dot | eval | exec | exit | .export | .local | readonly
  | .return | set | shift | times | trap | unset => Bool.true
  | _ => Bool.false

/-- The ones that are found before the search for programs. -/
def isRegular : Builtin → Bool
  | echo | hash | printf | type | ulimit | test => Bool.false
  | _ => Bool.true

/-- Arguments of these ones may be assignments, which are not split. -/
def takesAssignments : Builtin → Bool
  | .export | .local | readonly => Bool.true
  | _ => Bool.false

end Builtin

end BuildMatrix.Script
