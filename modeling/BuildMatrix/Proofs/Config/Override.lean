import BuildMatrix.Proofs.Config.Anchoring
import BuildMatrix.Proofs.Config.Layering
import Mathlib

namespace BuildMatrix

namespace Path

variable {root dir cwd : Path}

theorem bytes_join_ne_nil (h : root.bytes ≠ []) (hdir : dir.isAbsolute = false) :
    (root.join dir).bytes ≠ [] := by
  unfold join
  rw [hdir, if_neg Bool.false_ne_true]
  split
  · exact List.append_ne_nil_of_left_ne_nil h _
  · simp

/-- What is joined to a path and then made absolute has the parts of what is joined to the absolute
path: dots, repeated separators and one at the end are no parts, in either order. -/
theorem same_absolute_join (hroot : root.bytes ≠ []) (hcwd : cwd.isAbsolute = true) (dir : Path) :
    ((root.join dir).absolute cwd).same ((root.absolute cwd).join dir) = true := by
  have habsolute : (root.absolute cwd).isAbsolute = true := isAbsolute_absolute hroot (.inl hcwd)
  rw [same_iff]
  cases hdir : dir.isAbsolute with
  | true =>
    have hkept : (dir.absolute cwd).components = dir.components :=
      same_iff.1 (same_absolute hdir cwd)
    rw [join_of_isAbsolute hdir, join_of_isAbsolute hdir, hkept]
  | false =>
    have hjoin : (root.join dir).isAbsolute = root.isAbsolute := by
      rw [isAbsolute_join, hdir, Bool.or_false]
    rw [components_absolute (bytes_join_ne_nil hroot hdir) (.inl hcwd),
      components_join habsolute hdir, components_absolute hroot (.inl hcwd), hjoin]
    split
    case isTrue h => exact components_join h hdir
    case isFalse => rw [body_join hdir, List.append_assoc]

end Path

theorem FileTree.isAbsolute_pathOf (l : Location) : (pathOf l).isAbsolute = true := by
  cases l with
  | nil => rfl
  | cons name l => simp [pathOf, Path.isAbsolute]

namespace Config

def buildRootLayer (dir : Path) : Config := empty.set .buildRoot dir

theorem path?_merge_buildRootLayer (c : Config) (dir : Path) :
    (c.merge (buildRootLayer dir)).path? = Function.update c.path? .buildRoot (some dir) := by
  funext f
  cases f <;> rfl

theorem settings_merge_buildRootLayer (c : Config) (dir cwd root : Path) :
    (c.merge (buildRootLayer dir)).settings cwd root =
      Settings.ofFields (Function.update c.path? .buildRoot (some dir)) (c.get .generator) cwd
        root := by
  rw [Settings.ofFields_eq, path?_merge_buildRootLayer]
  rfl

end Config

namespace Settings

theorem same_ofFields_update (path : Field → Option Path) (generator : Option String)
    {cwd root : Path} (hcwd : cwd.isAbsolute = true) (hroot : root.bytes ≠ []) (dir : Path) :
    Same { ofFields path generator cwd root with buildRoot := (root.join dir).absolute cwd }
      (ofFields (Function.update path .buildRoot (some dir)) generator cwd root) where
  buildRoot := Path.same_absolute_join hroot hcwd dir
  sourceDir := Path.same_iff.2 rfl
  generator := rfl
  generatorProgram := Path.same_iff.2 rfl
  buildTool := Path.same_iff.2 rfl
  testBinary := Path.same_iff.2 rfl
  harness := Path.same_iff.2 rfl

end Settings

namespace Request

/-- A directory given for the builds is one more layer upon those of the user and the project: the
settings are those of the merged layers with that field set, to bytes of any kind. -/
theorem loadSettings_overridden (w : Place) (root : Path) (user : Option Path) (dir : Path)
    (hroot : root.bytes ≠ []) :
    (∀ e, Config.loadLayers w user root = .error e →
      loadSettings w root user (some dir) = .error e) ∧
    ∀ c, Config.loadLayers w user root = .ok c →
      loadSettings w root user none =
        .ok (Settings.ofFields c.path? (c.get .generator) w.cwdPath root) ∧
      ∃ s, loadSettings w root user (some dir) = .ok s ∧
        s.Same (Settings.ofFields (Function.update c.path? .buildRoot (some dir))
          (c.get .generator) w.cwdPath root) ∧
        s.Same ((c.merge (Config.buildRootLayer dir)).settings w.cwdPath root) := by
  have hcwd : w.cwdPath.isAbsolute = true := FileTree.isAbsolute_pathOf w.cwd
  constructor
  · intro e he
    rw [loadSettings, he]
    rfl
  · intro c hc
    have hnone : loadSettings w root user none =
        .ok (Settings.ofFields c.path? (c.get .generator) w.cwdPath root) :=
      loadSettings_none_eq_ok_iff.2 ⟨c, hc, rfl⟩
    have hsame := Settings.same_ofFields_update c.path? (c.get .generator) hcwd hroot dir
    refine ⟨hnone, _, by rw [loadSettings_some, hnone]; rfl, hsame, ?_⟩
    rw [Config.settings_merge_buildRootLayer]
    exact hsame

theorem loadSettings_overridden_dotted :
    let w : Place := ⟨⟨[]⟩, [[0x77]]⟩
    let root := Path.ofString "../x//"
    let dir : Path := ⟨[0x2E, 0x2F, 0xFF, 0x2F, 0x2E, 0x2E, 0x2F, 0x2F]⟩
    root.bytes ≠ [] ∧ ∃ s, loadSettings w root none (some dir) = .ok s ∧
      s.Same (Settings.ofFields (Function.update (fun _ ↦ none) .buildRoot (some dir)) none
        w.cwdPath root) := by
  have hmissing :
      FileTree.exists? ⟨[]⟩ [[0x77]] (Config.projectPath (.ofString "../x//")) = false := by cbv
  intro w root dir
  have hroot : root.bytes ≠ [] := by decide
  have hlayers : Config.loadLayers w none root = .ok (Config.layered [.empty, .empty]) :=
    Config.loadLayers_eq_ok_iff.2 ⟨_, _, .nowhere, .missing hmissing, rfl⟩
  obtain ⟨-, s, hs, hsame, -⟩ := (loadSettings_overridden w root none dir hroot).2 _ hlayers
  exact ⟨hroot, s, hs, hsame⟩

end Request

end BuildMatrix
