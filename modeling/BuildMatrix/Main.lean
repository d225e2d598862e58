import BuildMatrix.CommandLine.Commands
import BuildMatrix.CommandLine.Help

namespace BuildMatrix.Main

abbrev Entries := List (Location × Node)

def locationOf (path : String) : Location :=
  ((path.splitOn "/").filter (· ≠ "")).map Text.Utf8.bytesOf

def pathText (l : Location) : String := (FileTree.pathOf l).display

/-- Programs are the files that name an interpreter. -/
def nodeOf (content : ByteArray) : Node :=
  let bytes := content.toList
  .file bytes (Script.Program.interpreter? bytes).isSome

def ifReadable {α : Type} (reading : IO (List α)) : IO (List α) :=
  tryCatch reading fun _ ↦ pure []

def readFile (path : String) : IO Entries :=
  ifReadable do return [(locationOf path, nodeOf (← IO.FS.readBinFile path))]

partial def readEntry (entry : IO.FS.DirEntry) : IO Entries := ifReadable do
  let place := locationOf entry.path.toString
  match (← entry.path.symlinkMetadata).type with
  | .dir =>
    let inside ← (← entry.path.readDir).toList.mapM readEntry
    return (place, .directory) :: inside.flatten
  | .symlink =>
    let target ← IO.FS.realPath entry.path
    return [(place, .link (.ofString target.toString))]
  | .file => readFile entry.path.toString
  | .other => return []

def readBelow (directory : String) : IO Entries := ifReadable do
  let found ← (← (← IO.FS.realPath directory).readDir).toList.mapM readEntry
  return found.flatten

/-- A program of the search. One that is no script cannot be carried out and stays unread. -/
def readProgram (directory : String) (entry : IO.FS.DirEntry) : IO Entries := ifReadable do
  let start ← IO.FS.withFile entry.path .read fun h ↦ h.read 2
  let node ←
    if start.toList = [0x23, 0x21] then nodeOf <$> IO.FS.readBinFile entry.path
    else pure (.file [] true)
  return [(locationOf (directory ++ "/" ++ entry.fileName), node)]

def readPrograms (directory : String) : IO Entries := ifReadable do
  let found ← (← (← IO.FS.realPath directory).readDir).toList.mapM (readProgram directory)
  return found.flatten

def grow (found : Entries) : FileTree :=
  found.foldl
    (fun t (l, n) ↦
      let above := ((List.range l.length).map l.take).filter fun d ↦ (t.get? d).isNone
      let t := above.foldl (fun t d ↦ t.put d .directory) t
      if (t.get? l).isNone then t.put l n else t)
    ⟨Script.Device.entries⟩

def readVariables : IO (List (String × String)) := ifReadable do
  let content ← IO.FS.readBinFile "/proc/self/environ"
  let texts := (Text.Utf8.textOf content.toList).splitOn "\x00"
  return texts.filterMap fun text ↦
    match text.splitOn "=" with
    | name :: value@(_ :: _) => some (name, "=".intercalate value)
    | _ => none

/-- The files that a command may ask for: those below the directory at hand, the programs of the
search, and the configuration of the user. -/
def readMachine : IO Machine := do
  let cwd := (← IO.currentDir).toString
  let bindings ← readVariables
  let search := ((bindings.lookup "PATH").getD Machine.defaultPath).splitOn ":"
  let shell := Script.Program.shells.map fun l ↦ (l, Node.file [] true)
  let here ← readBelow cwd
  let programs ← (search.filter (·.startsWith "/")).mapM readPrograms
  let user ← match bindings.lookup "HOME" with
    | some home => readFile (Config.userPath (.ofString home)).display
    | none => pure []
  return {
    tree := grow ((locationOf cwd, .directory) :: shell ++ here ++ programs.flatten ++ user)
    cwd := locationOf cwd
    bindings := bindings }

def writeTree (before after : FileTree) : IO Unit :=
  after.entries.forM fun (l, n) ↦ do
    if before.get? l ≠ some n then
      match n with
      | .directory => IO.FS.createDir (pathText l)
      | .file content _ => IO.FS.writeBinFile (pathText l) ⟨content.toArray⟩
      | .link _ => pure ()

def print (o : Output) : IO Unit := do
  (← IO.getStdout).putStr o.stdout
  (← IO.getStderr).putStr o.stderr

def statusOf (code : Int) : UInt32 := (code % 256).toNat.toUInt32

def run (args : List String) : IO UInt32 := do
  let machine ← readMachine
  match CommandLine.answer ⟨args, none, machine⟩ with
  | .usage =>
    print (.err CommandLine.usageText)
    return 2
  | .help =>
    print (.out CommandLine.helpText)
    return 0
  | .completions shell log =>
    print ⟨CommandLine.completionText shell, log⟩
    return 0
  | .done r =>
    print r.output
    writeTree machine.tree r.machine.tree
    return statusOf r.code

end BuildMatrix.Main

def main (args : List String) : IO UInt32 := BuildMatrix.Main.run args
