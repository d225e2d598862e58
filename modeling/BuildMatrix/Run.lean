import BuildMatrix.Config.Layers
import BuildMatrix.Pipeline

namespace BuildMatrix

structure Request where
  projectRoot : Path
  compiler : Option String := none
  variant : Option String := none
  buildRoot : Option Path := none
  dryRun : Bool := false
  userConfig : Option Path := none
  deriving DecidableEq, Inhabited

namespace Request

def loadSettings (w : Place) (root : Path) (user buildRoot : Option Path) :
    Except Error Settings := do
  let config ← Config.loadLayers w user root
  let settings := config.settings w.cwdPath root
  match buildRoot with
  | none => return settings
  | some dir => return { settings with buildRoot := (root.join dir).absolute w.cwdPath }

def resolve (r : Request) (w : Place) : Except Error Context := do
  let settings ← loadSettings w r.projectRoot r.userConfig r.buildRoot
  Context.resolveSelectors r.compiler r.variant settings

def settingsLine (s : Settings) : Log.Line where
  level := .debug
  scope := "psp_build::ops::psp_run"
  message := "loaded settings"
  fields := [("build_root", s.buildRoot.display), ("source_dir", s.sourceDir.display)]

def settingsLines (w : Place) (root : Path) (user buildRoot : Option Path) : List Log.Line :=
  Config.layerLines w user root ++
    match loadSettings w root user buildRoot with
    | .ok s => [settingsLine s]
    | .error _ => []

def resolveLines (r : Request) (w : Place) : List Log.Line :=
  settingsLines w r.projectRoot r.userConfig r.buildRoot ++
    match r.resolve w with
    | .ok ctx => [ctx.resolvedLine]
    | .error _ => []

def startLine (r : Request) (ctx : Context) : Log.Line where
  level := .info
  scope := "psp_build::ops::psp_run"
  message := "starting pipeline"
  fields := [("compiler", ctx.compiler.name), ("variant", ctx.variant.name),
    ("dry_run", toString r.dryRun)]

/-- Resolves a request and runs it on a host; an error comes before anything is touched. -/
def run {σ : Type} (r : Request) (w : Place) (host : Pipeline.Host σ) (world : σ) :
    Except Error (Pipeline.Ended σ) := do
  let ctx ← r.resolve w
  return Pipeline.run host r.dryRun ctx world

end Request

end BuildMatrix
