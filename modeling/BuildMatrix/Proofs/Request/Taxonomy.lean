import BuildMatrix.Proofs.Request.Phases
import Mathlib

namespace BuildMatrix

open Text.Utf8 (bytesOf)

theorem Error.exitCode_of_isConfiguration {e : Error} (h : e.isConfiguration = true) :
    e.exitCode = configurationCode := by
  cases e with
  | stageFailed stage command output => simp [isConfiguration] at h
  | io path message => simp [isConfiguration] at h
  | _ => rfl

namespace FileTree

variable {t : FileTree} {cwd : Location} {p : Path}

theorem refusal_of_readText {r : Refusal} (hp : t.exists? cwd p = true)
    (h : t.readText cwd p = .error r) : r = .isDirectory ∨ r = .notText := by
  have hother (hread : t.read cwd p = .error .isDirectory) : r = .isDirectory := by
    rw [readText, hread] at h
    exact (Except.error.inj h).symm
  unfold exists? at hp
  cases hn : t.node? cwd p with
  | error e => simp [hn, Except.isOk, Except.toBool] at hp
  | ok n =>
    cases n with
    | file content executable =>
      have hread : t.read cwd p = .ok content := by
        rw [read, hn]
        rfl
      right
      rw [readText, hread] at h
      cases hd : Text.Utf8.decode? content with
      | none => simpa [hd, bind, Except.bind, throw, throwThe, MonadExceptOf.throw] using h.symm
      | some s => simp [hd, bind, Except.bind, pure, Except.pure] at h
    | directory => exact .inl (hother (by rw [read, hn]; rfl))
    | link target => exact .inl (hother (by rw [read, hn]; rfl))

end FileTree

namespace Config

/-- A file is there, but it cannot be read as text, for this reason. -/
def Unreadable (w : Place) (p : Path) (r : FileTree.Refusal) : Prop :=
  w.tree.exists? w.cwd p = true ∧ w.tree.readText w.cwd p = .error r

variable {w : Place} {p : Path} {r : FileTree.Refusal}

theorem fileFault?_of_unreadable (h : Unreadable w p r) :
    fileFault? w p = some (.io p r.message) := by
  rw [fileFault?, if_pos h.1, h.2]

theorem fileFault?_of_readable {e : Error} (h : fileFault? w p = some e)
    (hr : ∀ r, ¬Unreadable w p r) : e.isConfiguration = true := by
  unfold fileFault? at h
  split at h
  case isTrue hp =>
    cases ht : w.tree.readText w.cwd p with
    | error r => exact absurd ⟨hp, ht⟩ (hr r)
    | ok text =>
      rw [ht] at h
      dsimp only at h
      split at h
      · rw [← Option.some_inj.1 h]
        rfl
      · simp at h
  case isFalse => simp at h

end Config

theorem Selector.all_fault? (x : Selector) (given : Option String) :
    (x.fault? given).all Error.isConfiguration = true := by
  unfold fault?
  split <;> rfl

theorem Compiler.all_fault? (s : String) : (fault? s).all Error.isConfiguration = true := by
  unfold fault?
  split <;> rfl

theorem Variant.all_fault? (s : String) : (fault? s).all Error.isConfiguration = true := by
  simp only [fault?]
  split <;> rfl

theorem Context.isConfiguration_of_resolveSelectors {compiler variant : Option String}
    {s : Settings} {e : Error} (h : resolveSelectors compiler variant s = .error e) :
    e.isConfiguration = true := by
  have hc := Selector.all_fault? .compiler compiler
  have hv := Selector.all_fault? .variant variant
  rw [← fault?_eq_some_iff, Request.fault?_resolveSelectors] at h
  simp only [Option.or_eq_some_iff, Option.bind_eq_some_iff] at h
  obtain (h | ⟨-, h⟩) | ⟨-, ⟨c, -, h⟩ | ⟨-, v, -, h⟩⟩ := h
  · simpa [h] using hc
  · simpa [h] using hv
  · simpa [h] using Compiler.all_fault? c
  · simpa [h] using Variant.all_fault? v

namespace Request

/-- The first file of the configuration that is refused is there, but cannot be read as text. -/
def Stumbles (r : Request) (w : Place) (p : Path) (refusal : FileTree.Refusal) : Prop :=
  Config.Unreadable w p refusal ∧
    (r.userConfig = some p ∨
      r.userConfig.bind (Config.fileFault? w) = none ∧ p = Config.projectPath r.projectRoot)

variable {r : Request} {w : Place}

theorem resolve_of_stumbles {p : Path} {refusal : FileTree.Refusal} (h : r.Stumbles w p refusal) :
    r.resolve w = .error (.io p refusal.message) := by
  have hfault := Config.fileFault?_of_unreadable h.1
  rw [← fault?_eq_some_iff, fault?_resolve, faults]
  rcases h.2 with huser | ⟨huser, rfl⟩
  · simp [huser, hfault]
  · simp [huser, hfault]

theorem isConfiguration_of_resolve {e : Error} (h : r.resolve w = .error e)
    (hr : ∀ p refusal, ¬r.Stumbles w p refusal) : e.isConfiguration = true := by
  rw [← fault?_eq_some_iff, resolve] at h
  cases hs : loadSettings w r.projectRoot r.userConfig r.buildRoot with
  | ok s =>
    rw [hs] at h
    exact Context.isConfiguration_of_resolveSelectors (fault?_eq_some_iff.1 h)
  | error e' =>
    obtain rfl : e' = e := by simpa [hs, fault?, bind, Except.bind] using h
    rw [← fault?_eq_some_iff, fault?_loadSettings, Option.or_eq_some_iff] at hs
    rcases hs with huser | ⟨huser, hproject⟩
    · obtain ⟨p, hp, hfault⟩ := Option.bind_eq_some_iff.1 huser
      exact Config.fileFault?_of_readable hfault fun refusal hun ↦ hr p refusal ⟨hun, .inl hp⟩
    · exact Config.fileFault?_of_readable hproject
        fun refusal hun ↦ hr _ refusal ⟨hun, .inr ⟨huser, rfl⟩⟩

/-- A request that is refused is told as an error of the configuration, with a code of its own,
unless it stumbles over a file: then the error is told like one of the build directory. -/
theorem resolve_told {e : Error} (h : r.resolve w = .error e) :
    (e.isConfiguration = true ∧ e.exitCode = 2 ∧ ∀ p refusal, ¬r.Stumbles w p refusal) ∨
      ∃ p refusal, r.Stumbles w p refusal ∧ (refusal = .isDirectory ∨ refusal = .notText) ∧
        e = .io p refusal.message ∧ e.isConfiguration = false ∧ e.exitCode = 1 := by
  by_cases hr : ∃ p refusal, r.Stumbles w p refusal
  · obtain ⟨p, refusal, hp⟩ := hr
    obtain rfl : Error.io p refusal.message = e :=
      Except.error.inj ((resolve_of_stumbles hp).symm.trans h)
    exact .inr ⟨p, refusal, hp, FileTree.refusal_of_readText hp.1.1 hp.1.2, rfl, rfl, rfl⟩
  · have hnone : ∀ p refusal, ¬r.Stumbles w p refusal := fun p refusal hp ↦ hr ⟨p, refusal, hp⟩
    have hconfiguration := isConfiguration_of_resolve h hnone
    exact .inl ⟨hconfiguration, Error.exitCode_of_isConfiguration hconfiguration, hnone⟩

def projectWith (config : Node) : Place where
  tree := ⟨[([bytesOf "p"], .directory), ([bytesOf "p", bytesOf "psp-build.toml"], config)]⟩
  cwd := []

def inProject : Request where
  projectRoot := .ofString "/p"
  compiler := some "gcc"
  variant := some "Release"

theorem resolve_told_bytes :
    let e := Error.io (.ofString "/p/psp-build.toml") "stream did not contain valid UTF-8"
    inProject.resolve (projectWith (.file [0xFF] false)) = .error e ∧
      ∃ p refusal, inProject.Stumbles (projectWith (.file [0xFF] false)) p refusal := by
  intro e
  have h : inProject.resolve (projectWith (.file [0xFF] false)) = .error e := by cbv
  refine ⟨h, ?_⟩
  rcases resolve_told h with ⟨hconfiguration, -⟩ | ⟨p, refusal, hp, -⟩
  · simp [e, Error.isConfiguration] at hconfiguration
  · exact ⟨p, refusal, hp⟩

/-- A directory in the place of the configuration is no error of the configuration. -/
theorem resolve_directory_untold :
    ¬∀ (r : Request) (w : Place) (e : Error), r.resolve w = .error e →
      e.isConfiguration = true ∧ e.exitCode = 2 := by
  intro h
  have hr : inProject.resolve (projectWith .directory) =
      .error (.io (.ofString "/p/psp-build.toml") "Is a directory (os error 21)") := by cbv
  exact absurd (h _ _ _ hr).1 (by decide)

end Request

end BuildMatrix
