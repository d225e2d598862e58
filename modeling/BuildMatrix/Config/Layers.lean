import BuildMatrix.Log
import BuildMatrix.Settings

namespace BuildMatrix

structure Place where
  tree : FileTree
  cwd : Location
  deriving DecidableEq, Inhabited

def Place.cwdPath (w : Place) : Path := FileTree.pathOf w.cwd

namespace Config

def load (w : Place) (p : Path) : Except Error Config :=
  match w.tree.readText w.cwd p with
  | .error refusal => .error (.io p refusal.message)
  | .ok text =>
    match ofText text with
    | .ok c => .ok c
    | .error fault => .error (.invalidConfig p fault.message)

/-- A layer that is not there sets nothing. -/
def loadIfExists (w : Place) (p : Path) : Except Error Config :=
  if w.tree.exists? w.cwd p then load w p else .ok empty

def projectPath (root : Path) : Path := root.join Settings.projectFile

/-- The layer of the user below that of the project. -/
def loadLayers (w : Place) (user : Option Path) (root : Path) : Except Error Config := do
  let lower ← match user with
    | some p => loadIfExists w p
    | none => .ok empty
  return lower.merge (← loadIfExists w (projectPath root))

def absentLine (p : Path) : Log.Line where
  level := .debug
  scope := "psp_build::util::config"
  message := "no config file at " ++ p.display

def absentLines (w : Place) (p : Path) : List Log.Line :=
  if w.tree.exists? w.cwd p then [] else [absentLine p]

/-- What is told while the layers are loaded, up to the first one that fails. -/
def layerLines (w : Place) (user : Option Path) (root : Path) : List Log.Line :=
  let project := absentLines w (projectPath root)
  match user with
  | none => project
  | some p => absentLines w p ++ if (loadIfExists w p).isOk then project else []

def userPath (home : Path) : Path :=
  (home.join (.ofString ".psp-build")).join (.ofString "config.toml")

end Config

end BuildMatrix
