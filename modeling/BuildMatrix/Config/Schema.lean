import BuildMatrix.Config
import BuildMatrix.Text.Escaped
import BuildMatrix.Toml.Document

namespace BuildMatrix.Config

inductive Fault where
  | malformed
  | unknownKey (key : String) (expected : List String)
  | wrongType (found expected : String)
  deriving DecidableEq, Inhabited

def quoteKey (key : String) : String := "`" ++ key ++ "`"

def Fault.message : Fault → String
  | malformed => "<toml syntax>"
  | unknownKey key [only] => "unknown field " ++ quoteKey key ++ ", expected " ++ quoteKey only
  | unknownKey key expected =>
    "unknown field " ++ quoteKey key ++ ", expected one of " ++
      ", ".intercalate (expected.map quoteKey)
  | wrongType found expected => "invalid type: " ++ found ++ ", expected " ++ expected

def found : Toml.Value → String
  | .string s => "string " ++ Text.escaped s
  | .integer i => "integer `" ++ toString i ++ "`"
  | .float f => "floating point `" ++ f.display ++ "`"
  | .boolean b => "boolean `" ++ toString b ++ "`"
  | .date => "map"
  | .array _ | .tables _ => "sequence"
  | .table _ _ => "map"

def expectedOf (f : Field) : String :=
  match f.kind with
  | .text => "a string"
  | .path => "path string"

def structureName : Section → String
  | .build => "struct BuildConfig"
  | .test => "struct TestConfig"
  | .harness => "struct HarnessConfig"

/-- The one key that a date has where a section is expected. -/
def dateKey : String := "$__toml_private_datetime"

def readField (c : Config) (f : Field) : Toml.Value → Except Fault Config
  | .string s => .ok (c.set f (f.kind.ofText s))
  | v => .error (.wrongType (found v) (expectedOf f))

def unknownIn (s : Section) (key : String) : Fault :=
  .unknownKey key (s.fields.map Field.key)

def readEntry (s : Section) (c : Config) (entry : String × Toml.Value) : Except Fault Config :=
  match s.fields.find? fun f ↦ f.key = entry.1 with
  | some f => readField c f entry.2
  | none => .error (unknownIn s entry.1)

/-- A section is a table, or an array of its fields in order; items without a field do not
matter. -/
def readSection (s : Section) (c : Config) : Toml.Value → Except Fault Config
  | .table _ entries => entries.foldlM (readEntry s) c
  | .array items | .tables items =>
    (s.fields.zip items).foldlM (fun c (f, v) ↦ readField c f v) c
  | .date => .error (unknownIn s dateKey)
  | v => .error (.wrongType (found v) (structureName s))

def readTop (c : Config) (entry : String × Toml.Value) : Except Fault Config :=
  match Section.all.find? fun s ↦ s.key = entry.1 with
  | some s => readSection s c entry.2
  | none => .error (.unknownKey entry.1 (Section.all.map Section.key))

/-- The layer that the entries of a document set; the first wrong entry refuses it. -/
def ofEntries (entries : List (String × Toml.Value)) : Except Fault Config :=
  entries.foldlM readTop empty

def ofText (text : String) : Except Fault Config :=
  match Toml.parse? text with
  | some (.table _ entries) => ofEntries entries
  | _ => .error .malformed

end BuildMatrix.Config
