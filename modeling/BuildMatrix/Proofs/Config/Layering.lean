import BuildMatrix.Run

namespace BuildMatrix

namespace Config

theorem eq_of_get {a b : Config} (h : ∀ f, a.get f = b.get f) : a = b := by
  rcases a with ⟨a⟩
  rcases b with ⟨b⟩
  congr 1
  funext f
  exact h f

variable (a b c : Config)

@[simp] theorem empty_get (f : Field) : empty.get f = none := rfl

@[simp] theorem merge_get (f : Field) : (a.merge b).get f = (b.get f).or (a.get f) := rfl

theorem merge_assoc : (a.merge b).merge c = a.merge (b.merge c) :=
  eq_of_get fun f ↦ by simp [Option.or_assoc]

theorem empty_merge : empty.merge c = c := eq_of_get fun f ↦ by simp

theorem merge_empty : c.merge empty = c := eq_of_get fun f ↦ by simp

theorem merge_self : c.merge c = c := eq_of_get fun f ↦ by simp

def layered (cs : List Config) : Config := cs.foldl merge empty

theorem foldl_merge_get (cs : List Config) (f : Field) :
    (cs.foldl merge c).get f = (cs.reverse.findSome? fun d ↦ d.get f).or (c.get f) := by
  induction cs generalizing c with
  | nil => rfl
  | cons d cs ih =>
    rw [List.foldl_cons, ih, merge_get, List.reverse_cons, List.findSome?_append, Option.or_assoc]
    simp

theorem layered_get (cs : List Config) (f : Field) :
    (layered cs).get f = cs.reverse.findSome? fun d ↦ d.get f := by
  rw [layered, foldl_merge_get, empty_get, Option.or_none]

theorem layered_get_eq_some_iff {cs : List Config} {f : Field} {v : f.Value} :
    (layered cs).get f = some v ↔ ∃ below d above, cs = below ++ d :: above ∧
      d.get f = some v ∧ ∀ e ∈ above, e.get f = none := by
  rw [layered_get, List.findSome?_eq_some_iff]
  constructor
  · rintro ⟨above, d, below, hcs, hd, habove⟩
    refine ⟨below.reverse, d, above.reverse, ?_, hd, fun e he ↦ habove e (List.mem_reverse.1 he)⟩
    rw [← List.reverse_reverse cs, hcs]
    simp
  · rintro ⟨below, d, above, rfl, hd, habove⟩
    refine ⟨above.reverse, d, below.reverse, ?_, hd, fun e he ↦ habove e (List.mem_reverse.1 he)⟩
    simp

theorem layered_get_eq_none_iff {cs : List Config} {f : Field} :
    (layered cs).get f = none ↔ ∀ d ∈ cs, d.get f = none := by
  rw [layered_get, List.findSome?_eq_none_iff]
  simp

end Config

/-- The value that a field has if no layer sets it. Only the source directory has none; it is the
project itself. -/
def Field.builtin : (f : Field) → Option f.Value
  | buildRoot => some (Path.ofString "build")
  | generator => some "Ninja"
  | generatorProgram => some (Path.ofString "cmake")
  | buildTool => some (Path.ofString "ninja")
  | sourceDir => none
  | testBinary => some (Path.ofString "install/psp_test")
  | harnessProgram => some (Path.ofString "valgrind")

inductive Settings.Value where
  | text (s : String)
  | path (p : Path)
  deriving DecidableEq

def Field.place (root : Path) : (f : Field) → f.Value → Settings.Value
  | generator, v => .text v
  | testBinary, p => .path p
  | buildRoot, p | sourceDir, p => .path (root.join p)
  | generatorProgram, p | buildTool, p | harnessProgram, p =>
    .path (if !p.isAbsolute && 1 < p.components.length then root.join p else p)

namespace Settings

def get (s : Settings) : Field → Value
  | .buildRoot => .path s.buildRoot
  | .generator => .text s.generator
  | .generatorProgram => .path s.generatorProgram
  | .buildTool => .path s.buildTool
  | .sourceDir => .path s.sourceDir
  | .testBinary => .path s.testBinary
  | .harnessProgram => .path s.harness

theorem programPath_eq {root default : Path} (h : default.components.length ≤ 1)
    (configured : Option Path) :
    programPath root configured default =
      let p := configured.getD default
      if !p.isAbsolute && 1 < p.components.length then root.join p else p := by
  cases configured with
  | none =>
    have hbare : ¬1 < default.components.length := Nat.not_lt.2 h
    simp [programPath, hbare]
  | some p => rfl

end Settings

namespace Config

/-- A setting is the value of its field, or else the built-in one, as it is seen from the
project. -/
theorem settings_get (c : Config) (cwd root : Path) (f : Field) :
    (c.settings cwd root).get f =
      match (c.get f).or f.builtin with
      | some v => f.place (root.absolute cwd) v
      | none => .path (root.absolute cwd) := by
  cases f <;> simp only [settings, path?, Settings.get, Field.builtin]
  -- A built-in program is a bare name, so it may as well be a configured one.
  case generatorProgram =>
    rw [Settings.programPath_eq (by decide)]
    cases c.get .generatorProgram <;> rfl
  case buildTool =>
    rw [Settings.programPath_eq (by decide)]
    cases c.get .buildTool <;> rfl
  case harnessProgram =>
    rw [Settings.programPath_eq (by decide)]
    cases c.get .harnessProgram <;> rfl
  case buildRoot => cases c.get .buildRoot <;> rfl
  case generator => cases c.get .generator <;> rfl
  case sourceDir => cases c.get .sourceDir <;> rfl
  case testBinary => cases c.get .testBinary <;> rfl

/-- What a place of configuration holds: nothing if there is no such place or no file, and else
what the file sets. -/
inductive Holds (w : Place) : Option Path → Config → Prop
  | nowhere : Holds w none empty
  | missing {p : Path} (h : w.tree.exists? w.cwd p = false) : Holds w (some p) empty
  | file {p : Path} {c : Config} (h : w.tree.exists? w.cwd p = true) (hc : load w p = .ok c) :
    Holds w (some p) c

def layer (w : Place) : Option Path → Except Error Config
  | some p => loadIfExists w p
  | none => .ok empty

theorem layer_eq_ok_iff {w : Place} {p? : Option Path} {c : Config} :
    layer w p? = .ok c ↔ Holds w p? c := by
  constructor
  · intro h
    cases p? with
    | none =>
      obtain rfl : empty = c := Except.ok.inj h
      exact .nowhere
    | some p =>
      change (if w.tree.exists? w.cwd p then load w p else .ok empty) = .ok c at h
      split at h
      case isTrue he => exact .file he h
      case isFalse he =>
        obtain rfl : empty = c := Except.ok.inj h
        exact .missing (Bool.eq_false_iff.2 he)
  · rintro (_ | he | ⟨he, hc⟩)
    · rfl
    · simp [layer, loadIfExists, he]
    · simp [layer, loadIfExists, he, hc]

theorem loadLayers_eq (w : Place) (user : Option Path) (root : Path) :
    loadLayers w user root = (layer w user).bind fun lower ↦
      (layer w (some (projectPath root))).map lower.merge := by
  have hproject (lower : Config) : (do return lower.merge (← loadIfExists w (projectPath root))) =
      (layer w (some (projectPath root))).map lower.merge := by
    change _ = (loadIfExists w (projectPath root)).map lower.merge
    cases loadIfExists w (projectPath root) <;> rfl
  cases user with
  | none => exact hproject empty
  | some p => exact congrArg (loadIfExists w p).bind (funext hproject)

theorem loadLayers_eq_ok_iff {w : Place} {user : Option Path} {root : Path} {c : Config} :
    loadLayers w user root = .ok c ↔ ∃ lower upper, Holds w user lower ∧
      Holds w (some (projectPath root)) upper ∧ c = layered [lower, upper] := by
  have hlayered (lower upper : Config) : layered [lower, upper] = lower.merge upper := by
    simp [layered, empty_merge]
  simp only [← layer_eq_ok_iff, hlayered, loadLayers_eq]
  cases layer w user <;> cases layer w (some (projectPath root)) <;>
    simp [Except.bind, Except.map, eq_comm]

end Config

namespace Request

variable {w : Place} {root : Path} {user : Option Path}

theorem loadSettings_some (dir : Path) : loadSettings w root user (some dir) =
    (loadSettings w root user none).map
      fun s ↦ { s with buildRoot := (root.join dir).absolute w.cwdPath } := by
  unfold loadSettings
  cases Config.loadLayers w user root <;> rfl

theorem loadSettings_none_eq_ok_iff {s : Settings} :
    loadSettings w root user none = .ok s ↔
      ∃ c, Config.loadLayers w user root = .ok c ∧ s = c.settings w.cwdPath root := by
  unfold loadSettings
  cases Config.loadLayers w user root <;>
    simp [bind, Except.bind, pure, Except.pure, eq_comm]

end Request

/-- Of the layers that set a field the last decides it, whatever they say of other fields. A request
reads the layer of the user and that of the project upon it, and below both are the built-in
values; a directory given for the builds changes nothing else. -/
theorem Config.last_layer_wins :
    (∀ (cs : List Config) (f : Field) (v : f.Value), (layered cs).get f = some v ↔
      ∃ below c above, cs = below ++ c :: above ∧ c.get f = some v ∧
        ∀ d ∈ above, d.get f = none) ∧
      (∀ (cs : List Config) (f : Field),
        (layered cs).get f = none ↔ ∀ c ∈ cs, c.get f = none) ∧
      (∀ a b c : Config, (a.merge b).merge c = a.merge (b.merge c)) ∧
      (∀ c : Config, empty.merge c = c ∧ c.merge empty = c ∧ c.merge c = c) ∧
      (∀ (w : Place) (user : Option Path) (root : Path) (c : Config),
        loadLayers w user root = .ok c ↔ ∃ lower upper, Holds w user lower ∧
          Holds w (some (projectPath root)) upper ∧ c = layered [lower, upper]) ∧
      (∀ (lower upper : Config) (cwd root : Path) (f : Field),
        ((layered [lower, upper]).settings cwd root).get f =
          match (upper.get f).or ((lower.get f).or f.builtin) with
          | some v => f.place (root.absolute cwd) v
          | none => .path (root.absolute cwd)) ∧
      ∀ (w : Place) (root : Path) (user : Option Path),
        (∀ s, Request.loadSettings w root user none = .ok s ↔
          ∃ c, loadLayers w user root = .ok c ∧ s = c.settings w.cwdPath root) ∧
        ∀ dir, Request.loadSettings w root user (some dir) =
          (Request.loadSettings w root user none).map
            fun s ↦ { s with buildRoot := (root.join dir).absolute w.cwdPath } := by
  refine ⟨fun cs f v ↦ layered_get_eq_some_iff, fun cs f ↦ layered_get_eq_none_iff, merge_assoc,
    fun c ↦ ⟨empty_merge c, merge_empty c, merge_self c⟩,
    fun w user root c ↦ loadLayers_eq_ok_iff, fun lower upper cwd root f ↦ ?_,
    fun w root user ↦ ⟨fun s ↦ Request.loadSettings_none_eq_ok_iff,
      fun dir ↦ Request.loadSettings_some dir⟩⟩
  have hget : (layered [lower, upper]).get f = (upper.get f).or (lower.get f) := by
    simp [layered]
  rw [settings_get, hget, Option.or_assoc]

end BuildMatrix
