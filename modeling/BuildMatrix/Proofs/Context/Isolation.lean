import BuildMatrix.Proofs.Config.Anchoring
import Mathlib.Data.List.Basic

namespace BuildMatrix

open Text.Utf8 (bytesOf)

def Path.IsAbove (p q : Path) : Prop := p.components <+: q.components

def dash : UInt8 := 0x2D

theorem Compiler.eq_of_bytesOf_name {c c' : Compiler} (h : bytesOf c.name = bytesOf c'.name) :
    c = c' := by
  revert h
  cases c <;> cases c' <;> decide

theorem Compiler.dash_not_mem_name (c : Compiler) : dash ∉ bytesOf c.name := by
  cases c <;> decide

theorem Variant.eq_of_bytesOf_slug {v v' : Variant} (h : bytesOf v.slug = bytesOf v'.slug) :
    v = v' := by
  revert h
  cases v <;> cases v' <;> decide

theorem Variant.dash_not_mem_slug (v : Variant) : dash ∉ bytesOf v.slug := by
  cases v <;> decide

theorem bytesOf_buildDirName (c : Compiler) (v : Variant) :
    bytesOf (buildDirName c v) = bytesOf c.name ++ dash :: bytesOf v.slug := by
  have happend (s t : String) : bytesOf (s ++ t) = bytesOf s ++ bytesOf t := by
    simp [bytesOf, Text.Utf8.encode]
  rw [buildDirName, happend, happend, List.append_assoc]
  rfl

theorem slash_not_mem_buildDirName (c : Compiler) (v : Variant) :
    Path.slash ∉ bytesOf (buildDirName c v) := by
  have hname : Path.slash ∉ bytesOf c.name := by cases c <;> decide
  have hslug : Path.slash ∉ bytesOf v.slug := by cases v <;> decide
  have hdash : Path.slash ≠ dash := by decide
  simp [bytesOf_buildDirName, hname, hslug, hdash]

/-- Neither part of the name of a directory holds a dash, so the name tells both. -/
theorem bytesOf_buildDirName_inj {c c' : Compiler} {v v' : Variant} :
    bytesOf (buildDirName c v) = bytesOf (buildDirName c' v') ↔ c = c' ∧ v = v' := by
  constructor
  · intro h
    rw [bytesOf_buildDirName, bytesOf_buildDirName,
      List.append_cons_inj_of_notMem c.dash_not_mem_name v.dash_not_mem_slug] at h
    exact ⟨Compiler.eq_of_bytesOf_name h.1, Variant.eq_of_bytesOf_slug h.2.2⟩
  · rintro ⟨rfl, rfl⟩
    rfl

namespace Context

/-- A name with a dash in it is none of the pieces of a path that stand for no name. -/
theorem components_buildDir (c : Compiler) (v : Variant) (s : Settings) :
    (resolve c v s).buildDir.components =
      s.buildRoot.components ++ [.name (bytesOf (buildDirName c v))] := by
  have hdash : dash ∈ bytesOf (buildDirName c v) := by simp [bytesOf_buildDirName]
  have hpieces : (Path.ofString (buildDirName c v)).pieces = [bytesOf (buildDirName c v)] :=
    Path.cut_of_not_mem (slash_not_mem_buildDirName c v)
  have hne (t : List UInt8) (ht : dash ∉ t) : bytesOf (buildDirName c v) ≠ t := by
    rintro rfl
    exact ht hdash
  have hempty := hne [] (by decide)
  have hhere := hne [Path.dot] (by decide)
  have hup := hne [Path.dot, Path.dot] (by decide)
  have hbody : (Path.ofString (buildDirName c v)).body = [.name (bytesOf (buildDirName c v))] := by
    simp [Path.body, hpieces, Path.Component.ofPiece, hempty, hhere, hup]
  rw [resolve, Path.components_join_of_dotless (body_buildDirName c v).1 (by simp [hpieces, hhere]),
    hbody]

variable {c c' : Compiler} {v v' : Variant}

theorem same_buildDir_iff (s : Settings) :
    (resolve c v s).buildDir.same (resolve c' v' s).buildDir = true ↔ c = c' ∧ v = v' := by
  rw [Path.same_iff, components_buildDir, components_buildDir, ← bytesOf_buildDirName_inj]
  simp

theorem same_buildDir_of_isAbove {s : Settings}
    (h : (resolve c v s).buildDir.IsAbove (resolve c' v' s).buildDir) :
    (resolve c v s).buildDir.same (resolve c' v' s).buildDir = true := by
  refine Path.same_iff.2 (h.eq_of_length ?_)
  simp [components_buildDir]

/-- What accepted selectors come to: the pair that they spell, and one name of its own below the
parent of all builds. -/
structure Named (s : Settings) (compiler variant : String) (ctx : Context) : Prop where
  compiler : Compiler.parse compiler = .ok ctx.compiler
  variant : Variant.parse variant = .ok ctx.variant
  resolved : ctx = resolve ctx.compiler ctx.variant s
  components : ctx.buildDir.components =
    s.buildRoot.components ++ [.name (bytesOf (buildDirName ctx.compiler ctx.variant))]

theorem named_of_resolveSelectors {s : Settings} {compiler variant : String} {ctx : Context}
    (h : resolveSelectors (some compiler) (some variant) s = .ok ctx) :
    Named s compiler variant ctx := by
  cases hc : Compiler.parse compiler with
  | error e => simp [resolveSelectors, hc, bind, Except.bind] at h
  | ok c =>
    cases hv : Variant.parse variant with
    | error e => simp [resolveSelectors, hc, hv, bind, Except.bind] at h
    | ok v =>
      obtain rfl : resolve c v s = ctx := by
        simpa [resolveSelectors, hc, hv, bind, Except.bind, pure, Except.pure] using h
      exact ⟨hc, hv, rfl, components_buildDir c v s⟩

/-- However selectors are spelled, they come to the same directory just if they name the same pair,
and else neither directory holds the other. -/
theorem resolveSelectors_isolated (s : Settings) {c v c' v' : String} {ctx ctx' : Context}
    (h : resolveSelectors (some c) (some v) s = .ok ctx)
    (h' : resolveSelectors (some c') (some v') s = .ok ctx') :
    Named s c v ctx ∧ Named s c' v' ctx' ∧
      (ctx.buildDir.same ctx'.buildDir = true ↔
        ctx.compiler = ctx'.compiler ∧ ctx.variant = ctx'.variant) ∧
      (ctx.buildDir.same ctx'.buildDir = false →
        ¬ctx.buildDir.IsAbove ctx'.buildDir ∧ ¬ctx'.buildDir.IsAbove ctx.buildDir) := by
  have hn := named_of_resolveSelectors h
  have hn' := named_of_resolveSelectors h'
  refine ⟨hn, hn', ?_, fun hdiffer ↦ ⟨fun habove ↦ ?_, fun habove ↦ ?_⟩⟩
  · rw [hn.resolved, hn'.resolved]
    exact same_buildDir_iff s
  · rw [hn.resolved, hn'.resolved] at hdiffer habove
    simp [same_buildDir_of_isAbove habove] at hdiffer
  · rw [hn.resolved, hn'.resolved] at hdiffer habove
    have hsame := Path.same_iff.1 (same_buildDir_of_isAbove habove)
    simp [Path.same_iff.2 hsame.symm] at hdiffer

theorem resolveSelectors_isolated_spelled :
    let s := Config.empty.settings (.ofString "/w") (.ofString "..//x/")
    let ctx := resolve .gcc .valgrindDbg s
    let ctx' := resolve .gcc .valgrind s
    resolveSelectors (some "\tGCC ") (some "Valgrind-DBG") s = .ok ctx ∧
      resolveSelectors (some "Gcc") (some " VALGRIND") s = .ok ctx' ∧
      ctx.buildDir.same ctx'.buildDir = false ∧ ¬ctx'.buildDir.IsAbove ctx.buildDir := by
  intro s ctx ctx'
  have h : resolveSelectors (some "\tGCC ") (some "Valgrind-DBG") s = .ok ctx := rfl
  have h' : resolveSelectors (some "Gcc") (some " VALGRIND") s = .ok ctx' := rfl
  obtain ⟨-, -, hsame, habove⟩ := resolveSelectors_isolated s h h'
  have hdiffer : ctx.buildDir.same ctx'.buildDir = false := by
    rw [Bool.eq_false_iff, Ne, hsame]
    decide
  exact ⟨h, h', hdiffer, (habove hdiffer).2⟩

end Context

end BuildMatrix
