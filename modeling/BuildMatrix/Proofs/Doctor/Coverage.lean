import BuildMatrix.Machine.Execution
import BuildMatrix.Proofs.Config.Anchoring
import BuildMatrix.Proofs.Pipeline.DryRun
import BuildMatrix.Proofs.Request.ExitStatus
import Mathlib

namespace BuildMatrix

open Text.Utf8 (bytesOf)

namespace Doctor

theorem Report.allRequiredPassed_iff (r : Report) :
    r.allRequiredPassed = true ↔ ∀ c ∈ r.checks, c.required = true → c.passed = true := by
  simp only [allRequiredPassed, List.all_eq_true, List.mem_filter, and_imp]

section

variable {σ : Type} (tools : Tools σ)

def visit (w : σ) (p : Probe) : Progress σ := inspect tools ⟨[], [], w⟩ p

/-- The probes with the worlds that they are made in: asking a program for its version may change
the world for those that follow. -/
def visits : List Probe → σ → List (Probe × σ)
  | [], _ => []
  | p :: rest, w => (p, w) :: visits rest (visit tools w p).world

theorem inspect_eq (d : Progress σ) (p : Probe) : inspect tools d p =
    ⟨d.checks ++ (visit tools d.world p).checks, d.calls ++ (visit tools d.world p).calls,
      (visit tools d.world p).world⟩ := by
  unfold visit inspect
  cases tools.locate p.program d.world with
  | none => simp
  | some path => cases p.readVersion <;> simp

variable {tools} in
theorem visit_of_none {w : σ} {p : Probe} (h : tools.locate p.program w = none) :
    visit tools w p = ⟨[missing p], [], w⟩ := by
  simp [visit, inspect, h]

variable {tools} in
theorem visit_of_some {w : σ} {p : Probe} {path : Path}
    (h : tools.locate p.program w = some path) :
    ∃ version, (visit tools w p).checks = [present p path version] ∧
      ((visit tools w p).world = w ∨
        (visit tools w p).world = (tools.execute (versionCommand path) w).2) := by
  unfold visit inspect
  rw [h]
  cases p.readVersion with
  | false => exact ⟨none, rfl, .inl rfl⟩
  | true => exact ⟨_, rfl, .inr rfl⟩

theorem visit_checks (w : σ) (p : Probe) : ∃ c, (visit tools w p).checks = [c] ∧
    c.required = p.required ∧ c.passed = (tools.locate p.program w).isSome := by
  cases h : tools.locate p.program w with
  | none => exact ⟨missing p, by rw [visit_of_none h], rfl, rfl⟩
  | some path =>
    obtain ⟨version, hchecks, -⟩ := visit_of_some h
    exact ⟨present p path version, hchecks, rfl, rfl⟩

theorem foldl_inspect (ps : List Probe) (d : Progress σ) :
    (∀ c ∈ (ps.foldl (inspect tools) d).checks, c.required = true → c.passed = true) ↔
      (∀ c ∈ d.checks, c.required = true → c.passed = true) ∧
        ∀ v ∈ visits tools ps d.world, v.1.required = true →
          (tools.locate v.1.program v.2).isSome = true := by
  induction ps generalizing d with
  | nil => simp [visits]
  | cons p ps ih =>
    obtain ⟨c, hchecks, hrequired, hpassed⟩ := visit_checks tools d.world p
    rw [List.foldl_cons, ih, inspect_eq, visits, hchecks, List.forall_mem_append,
      List.forall_mem_singleton, List.forall_mem_cons, hrequired, hpassed, and_assoc]

theorem map_fst_visits (ps : List Probe) (w : σ) : (visits tools ps w).map Prod.fst = ps := by
  induction ps generalizing w with
  | nil => rfl
  | cons p ps ih => rw [visits, List.map_cons, ih]

variable (s : Settings) (compiler : Option Compiler) (variant : Option Variant) (world : σ)

def Tools.Supplies : Prop :=
  ∀ v ∈ visits tools (probes s compiler variant) world, v.1.required = true →
    (tools.locate v.1.program v.2).isSome = true

theorem allRequiredPassed_examine :
    (examine tools s compiler variant world).1.allRequiredPassed = true ↔
      tools.Supplies s compiler variant world := by
  have h := foldl_inspect tools (probes s compiler variant) ⟨[], [], world⟩
  simp only [List.not_mem_nil, IsEmpty.forall_iff, implies_true, true_and] at h
  rw [Report.allRequiredPassed_iff]
  exact h

end

/-- All programs that a compiler and a variant need are found; one that was not chosen needs
none. -/
structure Equipped (found : Path → Prop) (s : Settings) (compiler : Option Compiler)
    (variant : Option Variant) : Prop where
  generator : found s.generatorProgram
  buildTool : found s.buildTool
  cc : ∀ c, compiler = some c → found (.ofString c.toolchain.cc)
  cxx : ∀ c, compiler = some c → found (.ofString c.toolchain.cxx)
  harness : ∀ v, variant = some v → v.needsMemcheck = true → found s.harness

variable {found : Path → Prop} {s : Settings} {compiler : Option Compiler}
  {variant : Option Variant}

theorem mem_probes {p : Probe} : p ∈ probes s compiler variant ↔
    p = configured "Generator" s.generatorProgram Settings.defaultGeneratorProgram true ∨
      p = configured "Build Tool" s.buildTool Settings.defaultBuildTool true ∨
      (match compiler with
        | some c => p ∈ compilerProbes true c
        | none => ∃ c, p ∈ compilerProbes false c) ∨
      p = configured "Memcheck Harness" s.harness Settings.defaultHarness
        (variant.any Variant.needsMemcheck) := by
  have hall (c : Compiler) : c ∈ Compiler.all := by cases c <;> decide
  cases compiler <;> simp [probes, hall]

theorem equipped_iff : Equipped found s compiler variant ↔
    ∀ p ∈ probes s compiler variant, p.required = true → found p.program := by
  constructor
  · intro h p hp hrequired
    rcases mem_probes.1 hp with rfl | rfl | hp | rfl
    · exact h.generator
    · exact h.buildTool
    · cases compiler with
      | none =>
        obtain ⟨c, hp⟩ := hp
        obtain rfl | rfl : p = _ ∨ p = _ := by simpa [compilerProbes] using hp
        all_goals simp at hrequired
      | some c =>
        obtain rfl | rfl : p = _ ∨ p = _ := by simpa [compilerProbes] using hp
        · exact h.cc c rfl
        · exact h.cxx c rfl
    · obtain ⟨v, hv, hmemcheck⟩ := (Option.any_eq_true _ _).1 hrequired
      exact h.harness v hv hmemcheck
  · intro h
    refine ⟨h _ (mem_probes.2 (.inl rfl)) rfl, h _ (mem_probes.2 (.inr (.inl rfl))) rfl, ?_, ?_,
      ?_⟩
    · rintro c rfl
      exact h _ (mem_probes.2 (.inr (.inr (.inl (.head _))))) rfl
    · rintro c rfl
      exact h _ (mem_probes.2 (.inr (.inr (.inl (.tail _ (.head _)))))) rfl
    · rintro v rfl hmemcheck
      exact h _ (mem_probes.2 (.inr (.inr (.inr rfl)))) hmemcheck

end Doctor

namespace Doctor

/-- Nothing that is run for its version changes where the programs are that are looked for
later. -/
def Tools.Steady {σ : Type} (tools : Tools σ) (ps : List Probe) (world : σ) : Prop :=
  ∀ v ∈ visits tools ps world, tools.locate v.1.program v.2 = tools.locate v.1.program world

section

variable {σ : Type} {tools : Tools σ}

/-- The verdict is right about what is found at the start if that does not change meanwhile. -/
theorem Tools.Steady.allRequiredPassed_iff {world : σ}
    (h : tools.Steady (probes s compiler variant) world) :
    (examine tools s compiler variant world).1.allRequiredPassed = true ↔
      Equipped (fun p ↦ (tools.locate p world).isSome = true) s compiler variant := by
  have hprobes : probes s compiler variant =
      (visits tools (probes s compiler variant) world).map Prod.fst :=
    (map_fst_visits tools _ world).symm
  rw [allRequiredPassed_examine, Tools.Supplies, equipped_iff, hprobes, List.forall_mem_map,
    ← hprobes]
  exact forall₂_congr fun v hv ↦ by rw [h v hv]

end

end Doctor

namespace Machine

variable {m : Machine} {path : Path}

end Machine

namespace FailsEarly

theorem parseGiven {α : Type} {parse : String → Except Error α} (h : ∀ s, FailsEarly (parse s))
    (given : Option String) : FailsEarly (CommandLine.Session.parseGiven parse given) := by
  cases given with
  | none => exact .ok none
  | some s =>
    have hbind : (parse s).map some = parse s >>= fun a ↦ .ok (some a) := by
      cases parse s <;> rfl
    rw [CommandLine.Session.parseGiven, hbind]
    exact (h s).bind fun a ↦ .ok (some a)

theorem chosen (s : CommandLine.Session) : FailsEarly s.chosen :=
  (parseGiven parseCompiler _).bind fun c ↦ (parseGiven parseVariant _).bind fun v ↦ .ok (c, v)

end FailsEarly

namespace CommandLine.Session

variable (s : Session)

variable {s}

end CommandLine.Session

namespace Doctor

end Doctor

end BuildMatrix
