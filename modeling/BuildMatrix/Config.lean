import BuildMatrix.Json
import BuildMatrix.Path

namespace BuildMatrix

inductive Field where
  | buildRoot
  | generator
  | generatorProgram
  | buildTool
  | sourceDir
  | testBinary
  | harnessProgram
  deriving DecidableEq, Inhabited

inductive Section where
  | build
  | test
  | harness
  deriving DecidableEq, Inhabited

namespace Section

def all : List Section := [build, test, harness]

def key : Section → String
  | build => "build"
  | test => "test"
  | harness => "harness"

def fields : Section → List Field
  | build => [.buildRoot, .generator, .generatorProgram, .buildTool, .sourceDir]
  | test => [.testBinary]
  | harness => [.harnessProgram]

end Section

def Field.key : Field → String
  | buildRoot => "root"
  | generator => "generator"
  | generatorProgram => "generator-program"
  | buildTool => "build-tool"
  | sourceDir => "source-dir"
  | testBinary => "binary"
  | harnessProgram => "program"

inductive Field.Kind where
  | text
  | path
  deriving DecidableEq, Inhabited

namespace Field.Kind

abbrev Value : Kind → Type
  | text => String
  | path => Path

def ofText : (k : Kind) → String → k.Value
  | text, s => s
  | path, s => .ofString s

def toPath : (k : Kind) → k.Value → Path
  | text, s => .ofString s
  | path, p => p

/-- A path is written down only if it is a text. -/
def toText? : (k : Kind) → k.Value → Option String
  | text, s => some s
  | path, p => p.text?

end Field.Kind

def Field.kind : Field → Field.Kind
  | generator => .text
  | _ => .path

abbrev Field.Value (f : Field) : Type := f.kind.Value

structure Config where
  get : (f : Field) → Option f.Value

namespace Config

def empty : Config := ⟨fun _ ↦ none⟩

def set (c : Config) (f : Field) (value : f.Value) : Config :=
  ⟨fun g ↦ if h : f = g then some (h ▸ value) else c.get g⟩

/-- The upper layer wins where it sets a field. -/
def merge (lower upper : Config) : Config := ⟨fun f ↦ (upper.get f).or (lower.get f)⟩

instance : Inhabited Config := ⟨empty⟩

def sectionJson (c : Config) (s : Section) : Json :=
  .obj (s.fields.map fun f ↦ (f.key, Json.ofOption .str ((c.get f).bind f.kind.toText?)))

def toJson (c : Config) : Json := .obj (Section.all.map fun s ↦ (s.key, c.sectionJson s))

end Config

end BuildMatrix
