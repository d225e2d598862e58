import BuildMatrix.Plan
import BuildMatrix.Proofs.Pipeline.FailFast
import BuildMatrix.Proofs.Pipeline.StateMachine

namespace BuildMatrix

def Context.issued (ctx : Context) (stage : Stage) : Stage × String :=
  (stage, (ctx.command stage).display)

theorem Plan.commands_ofContext (ctx : Context) :
    (Plan.ofContext ctx).commands = ctx.stages.map ctx.issued := by
  cases hs : ctx.skip <;> cases hn : ctx.compiler.isNative <;>
    simp [commands, ofContext, Context.stages, Context.hasTestStage, Context.issued, hs, hn]

theorem Plan.test_eq_none_iff (ctx : Context) :
    (Plan.ofContext ctx).test = none ↔ (Plan.ofContext ctx).skip.isSome = true := by
  cases hs : ctx.skip <;> cases hn : ctx.compiler.isNative <;>
    simp [ofContext, Context.hasTestStage, hs, hn]

namespace Pipeline

def Attempt.assumed (ctx : Context) (stage : Stage) : Attempt :=
  ⟨stage, ctx.command stage, .assumed, 0⟩

theorem Attempt.outcome_assumed (ctx : Context) :
    outcome ctx (ctx.stages.map (assumed ctx)) =
      match (Plan.ofContext ctx).skip with
      | some reason => .skipped reason
      | none => .testRun .silent := by
  cases hs : ctx.skip <;> cases hn : ctx.compiler.isNative <;>
    simp [outcome, Context.stages, Plan.ofContext, assumed, ending, Answer.isRefused, hs, hn]
  rfl

variable {σ : Type} (host : Host σ) (dryRun : Bool) (ctx : Context)

theorem interview_dry (stages : List Stage) (w : σ) :
    interview host true ctx stages w = stages.map (Attempt.assumed ctx) := by
  induction stages generalizing w with
  | nil => rfl
  | cons stage rest ih => rw [interview, attempt_dry, List.map_cons, ← ih w]; rfl

theorem walk_dry_world (stages : List Stage) (w : σ) : (walk host true ctx stages w).2 = w := by
  induction stages generalizing w with
  | nil => rfl
  | cons stage rest ih =>
    have ht := attempt_dry host stage (ctx.command stage) w
    cases ha : Attempt.ending ⟨stage, ctx.command stage, .assumed, 0⟩ with
    | none => rw [walk_cons_of_none ht ha, ih w]
    | some o => rw [walk_cons_of_some ht ha]

theorem interview_issued (stages : List Stage) (w : σ) :
    (interview host dryRun ctx stages w).map Attempt.issued = stages.map ctx.issued := by
  rw [← interview_stage host dryRun ctx stages w, List.map_map, interview_stage]
  refine List.map_congr_left fun a ha ↦ ?_
  rw [Attempt.issued, command_of_mem_interview host dryRun ctx ha]
  rfl

theorem prepared_dry (dir : Path) (w : σ) : prepared host true dir w = (.ok (), w) := rfl

theorem attempts_dry (w : σ) :
    attempts host true ctx w = ctx.stages.map (Attempt.assumed ctx) := by
  rw [attempts_of_prepared host true ctx (prepared_dry host ctx.buildDir w), interview_dry]
  refine Attempt.untilFailure_of_passed fun a ha ↦ ?_
  obtain ⟨stage, -, rfl⟩ := List.mem_map.1 (List.dropLast_subset _ ha)
  rfl

/-- A dry run is the same on all hosts with the same clock. -/
theorem run_dry_congr (ensureDirectory : Path → σ → Except String Path × σ)
    (execute : Command → σ → Except String StageOutput × σ) (w : σ) :
    run { host with ensureDirectory, execute } true ctx w = run host true ctx w := by
  simp [run, drive, prepare, checkStage, testStage, runStage_dry]

theorem commands_dry (w : σ) :
    (run host true ctx w).report.commands = ctx.stages.map ctx.issued := by
  rw [run_commands, attempts_dry, List.map_map]
  rfl

theorem outcome_dry (w : σ) :
    (run host true ctx w).report.outcome =
      match (Plan.ofContext ctx).skip with
      | some reason => .skipped reason
      | none => .testRun .silent := by
  have ha := attempts_dry host ctx w
  rw [attempts, prepared_dry] at ha
  rw [(run_of_prepared (prepared_dry host ctx.buildDir w)).1, ← Attempt.outcome_assumed, ← ha]
  rfl

theorem calls_dry (w : σ) : (run host true ctx w).calls = [] := by
  rw [run_calls, attempts_dry, List.filterMap_map, List.filterMap_eq_nil_iff]
  exact fun _ _ ↦ rfl

theorem world_dry (w : σ) : (run host true ctx w).world = w := by
  rw [(run_of_prepared (prepared_dry host ctx.buildDir w)).2.2, walk_dry_world]

theorem commands_prefix_stages (w : σ) :
    (run host dryRun ctx w).report.commands <+: ctx.stages.map ctx.issued := by
  rw [run_commands, ← interview_issued]
  exact (attempts_prefix_interview host dryRun ctx w).map Attempt.issued

/-- A run whose directory is ready gives all commands of its context, unless one that is no test
stops it. -/
theorem commands_of_passed {w w₁ : σ} (hp : prepared host dryRun ctx.buildDir w = (.ok (), w₁))
    (h : ∀ a ∈ interview host dryRun ctx ctx.stages w₁, a.stage ≠ .test → a.passed = true) :
    (run host dryRun ctx w).report.commands = ctx.stages.map ctx.issued := by
  rw [run_commands, attempts_of_prepared host dryRun ctx hp, Attempt.untilFailure_of_passed,
    interview_issued]
  intro a ha
  refine h a (List.dropLast_subset _ ha) fun htest ↦ test_not_mem_dropLast ctx ?_
  rw [← interview_stage host dryRun ctx ctx.stages w₁, ← List.map_dropLast, ← htest]
  exact List.mem_map_of_mem ha

/-- A dry run gives the commands of the plan and ends as it says, without touching the world; a real
run stops early at most. -/
theorem run_plan {σ : Type} (host : Host σ) (ctx : Context) (w : σ) :
    let plan := Plan.ofContext ctx
    let dry := run host true ctx w
    let real := run host false ctx w
    dry.report.commands = plan.commands ∧
      (∀ reason, dry.report.outcome = .skipped reason ↔ plan.skip = some reason) ∧
      (plan.skip = none →
        dry.report.state = .testRun ∧ dry.report.outcome = .testRun .silent ∧
          dry.report.exitCode = 0) ∧
      (plan.test = none ↔ plan.skip.isSome = true) ∧
      (dry.calls = [] ∧ dry.world = w ∧
        ∀ ensureDirectory execute,
          run { host with ensureDirectory, execute } true ctx w = dry) ∧
      real.report.commands <+: dry.report.commands ∧
      ∀ made w₁, host.ensureDirectory ctx.buildDir w = (.ok made, w₁) →
        (∀ a ∈ interview host false ctx ctx.stages w₁, a.stage ≠ .test → a.passed = true) →
        real.report.commands = dry.report.commands := by
  intro plan dry real
  have hcommands : dry.report.commands = ctx.stages.map ctx.issued := commands_dry host ctx w
  have hout := outcome_dry host ctx w
  refine ⟨hcommands.trans (Plan.commands_ofContext ctx).symm, fun reason ↦ ?_, fun hskip ↦ ?_,
    Plan.test_eq_none_iff ctx, ⟨calls_dry host ctx w, world_dry host ctx w, fun ensure execute ↦
      run_dry_congr host ctx ensure execute w⟩, ?_, fun made w₁ h hpass ↦ ?_⟩
  · change dry.report.outcome = match plan.skip with | some reason => _ | none => _ at hout
    rw [hout]
    cases plan.skip <;> simp
  · change dry.report.outcome = match plan.skip with | some reason => _ | none => _ at hout
    rw [hskip] at hout
    have hstate : dry.report.state = dry.report.outcome.state := run_state host true ctx w
    exact ⟨hstate.trans (by rw [hout]; rfl), hout, by rw [Report.exitCode, hout]; rfl⟩
  · rw [hcommands]
    exact commands_prefix_stages host false ctx w
  · rw [hcommands]
    exact commands_of_passed host false ctx (prepared_of_ok host h) hpass

end Pipeline

end BuildMatrix
