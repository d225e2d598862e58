import BuildMatrix.Matrix
import BuildMatrix.Proofs.Context.Isolation
import BuildMatrix.Proofs.Pipeline.DryRun
import BuildMatrix.Proofs.Pipeline.EventLog

namespace BuildMatrix

namespace Command

def alone (program cwd : Path) : Command := ⟨program, [], some cwd⟩

def checked (harness program cwd : Path) : Command :=
  ⟨harness, ["--leak-check=full", "--verbose", "--track-origins=yes", program.display], some cwd⟩

/-- Whatever the memory checker is called, its command is longer than that of the program. -/
theorem display_checked_ne_display_alone (harness program cwd : Path) :
    (checked harness program cwd).display ≠ (alone program cwd).display := by
  intro h
  have hlength := congrArg (fun s : String ↦ s.toList.length) h
  simp only [display, checked, alone, words, List.map_cons, List.map_nil, String.toList_ofList,
    List.intercalate, List.intersperse, List.flatten_cons, List.flatten_nil, List.length_append,
    List.length_cons, List.length_nil] at hlength
  omega

end Command

theorem Context.testCommand_eq (ctx : Context) : ctx.testCommand =
    if ctx.variant.needsMemcheck then
      .checked ctx.settings.harness ctx.testBinary ctx.buildDir
    else .alone ctx.testBinary ctx.buildDir := by
  unfold testCommand Variant.testCommand
  cases ctx.variant.needsMemcheck <;> rfl

theorem Context.mem_stages (ctx : Context) {stage : Stage} :
    stage ∈ ctx.stages ↔ ctx.skip = none ∧ (stage = .test → ctx.compiler.isNative = true) := by
  unfold stages
  cases stage <;> cases hs : ctx.skip <;> cases hn : ctx.compiler.isNative <;> simp

namespace Pipeline

variable {σ : Type} (host : Host σ) (ctx : Context) (w : σ)

theorem ran_dry {stage : Stage} :
    (run host true ctx w).report.ran stage = true ↔ stage ∈ ctx.stages := by
  rw [Report.ran_iff, commands_dry]
  simp [Context.issued]

theorem history_dry (h : ctx.skip.isSome = true) :
    (run host true ctx w).report.history = [.created, .directoryReady, .skipped] := by
  have hstages : ctx.stages = [] := if_pos h
  rw [(run_of_prepared (prepared_dry host ctx.buildDir w)).1, hstages]
  rfl

theorem commandsFor_test_dry (h : .test ∈ ctx.stages) :
    (run host true ctx w).report.commandsFor .test = [ctx.testCommand.display] := by
  have hstages : ctx.stages = [.generate, .build, .test] := by
    obtain ⟨hskip, hnative⟩ := ctx.mem_stages.1 h
    simp [Context.stages, hskip, hnative]
  rw [Report.commandsFor, commands_dry, hstages]
  rfl

end Pipeline

namespace Matrix

def Row.pair (r : Row) : Compiler × Variant := (r.compiler, r.variant)

/-- A row agrees with a dry run of its pair. -/
structure Row.Foretells {σ : Type} (r : Row) (s : Settings) (dry : Pipeline.Ended σ) : Prop where
  buildDir : dry.report.buildDir = r.buildDir
  supported : r.supported = true ↔
    dry.report.ran .generate = true ∧ dry.report.ran .build = true
  unsupported : r.supported = false →
    dry.report.history = [.created, .directoryReady, .skipped] ∧ dry.report.commands = []
  tested : r.supported = true ∧ r.cross = false ↔ dry.report.ran .test = true
  testCommand : dry.report.ran .test = true →
    let binary := r.buildDir.join s.testBinary
    let test := (Context.resolve r.compiler r.variant s).testCommand
    let checked := Command.checked s.harness binary r.buildDir
    let alone := Command.alone binary r.buildDir
    dry.report.commandsFor .test = [test.display] ∧ (r.memcheck = true ↔ test = checked) ∧
      (r.memcheck = false ↔ test = alone) ∧ checked.display ≠ alone.display
  started : ∀ stage command cwd, .stageStarted stage command cwd ∈ dry.events ↔
    (stage, command) ∈ dry.report.commands ∧ cwd = some r.buildDir

theorem map_pair_rows (s : Settings) :
    (rows s).map Row.pair = Compiler.all.flatMap fun c ↦ Variant.all.map fun v ↦ (c, v) := rfl

theorem eq_of_mem_rows {s : Settings} {r : Row} (h : r ∈ rows s) :
    r = Row.ofContext (Context.resolve r.compiler r.variant s) := by
  obtain ⟨ctx, hctx, rfl⟩ := List.mem_map.1 h
  obtain ⟨c, -, hc⟩ := List.mem_flatMap.1 hctx
  obtain ⟨v, -, rfl⟩ := List.mem_map.1 hc
  rfl

theorem foretells_ofContext {σ : Type} (host : Pipeline.Host σ) (w : σ) (c : Compiler)
    (v : Variant) (s : Settings) :
    let ctx := Context.resolve c v s
    (Row.ofContext ctx).Foretells s (Pipeline.run host true ctx w) := by
  intro ctx
  have hran (stage : Stage) : (Pipeline.run host true ctx w).report.ran stage = true ↔
      ctx.skip = none ∧ (stage = .test → c.isNative = true) :=
    (Pipeline.ran_dry host ctx w).trans ctx.mem_stages
  have hsupported : (Row.ofContext ctx).supported = true ↔ ctx.skip = none :=
    Option.isNone_iff_eq_none
  refine ⟨rfl, ?_, fun hskip ↦ ?_, ?_, fun htest ↦ ?_, fun stage command cwd ↦ ?_⟩
  · simp [hran, hsupported]
  · have hsome : ctx.skip.isSome = true := by simpa [Row.ofContext] using hskip
    have hstages : ctx.stages = [] := if_pos hsome
    refine ⟨Pipeline.history_dry host ctx w hsome, ?_⟩
    rw [Pipeline.commands_dry, hstages]
    rfl
  · have hcross : (Row.ofContext ctx).cross = false ↔ c.isNative = true :=
      iff_of_eq (Bool.not_eq_false' c.isNative)
    simp [hran, hsupported, hcross]
  · intro binary test checked alone
    have hdisplay : checked.display ≠ alone.display :=
      Command.display_checked_ne_display_alone s.harness binary ctx.buildDir
    have hne : checked ≠ alone := fun h ↦ hdisplay (congrArg Command.display h)
    have heq : test = if v.needsMemcheck then checked else alone := ctx.testCommand_eq
    refine ⟨Pipeline.commandsFor_test_dry host ctx w ((Pipeline.ran_dry host ctx w).1 htest), ?_,
      ?_, hdisplay⟩
    · change v.needsMemcheck = true ↔ test = checked
      rw [heq]
      cases v.needsMemcheck <;> simp [hne.symm]
    · change v.needsMemcheck = false ↔ test = alone
      rw [heq]
      cases v.needsMemcheck <;> simp [hne]
  · exact (Pipeline.Ended.mem_events _).trans (Pipeline.started_mem_trace host true ctx)

/-- The matrix has one row for each pair, the pairs of one compiler together, each with a directory
of its own, and every row agrees with what a dry run of its pair does. -/
theorem rows_foretell (s : Settings) :
    (rows s).map Row.pair = (Compiler.all.flatMap fun c ↦ Variant.all.map fun v ↦ (c, v)) ∧
      (∀ pair, ((rows s).map Row.pair).count pair = 1) ∧
      ((rows s).Pairwise fun r r' ↦ r.buildDir.same r'.buildDir = false) ∧
      ∀ r ∈ rows s, ∀ {σ : Type} (host : Pipeline.Host σ) (w : σ),
        r.Foretells s
          (Pipeline.run host true (Context.resolve r.compiler r.variant s) w) := by
  refine ⟨map_pair_rows s, fun ⟨c, v⟩ ↦ ?_, ?_, fun r hr σ host w ↦ ?_⟩
  · rw [map_pair_rows]
    cases c <;> cases v <;> rfl
  · have hnodup : ((rows s).map Row.pair).Nodup := by
      rw [map_pair_rows]
      decide
    refine (List.pairwise_map.1 hnodup).imp_of_mem fun {r r'} hr hr' hne ↦ ?_
    rw [eq_of_mem_rows hr, eq_of_mem_rows hr', Bool.eq_false_iff]
    exact fun hsame ↦ hne (Prod.ext_iff.2 ((Context.same_buildDir_iff s).1 hsame))
  · obtain ⟨c, v, rfl⟩ : ∃ c v, r = Row.ofContext (Context.resolve c v s) :=
      ⟨_, _, eq_of_mem_rows hr⟩
    exact foretells_ofContext host w c v s

end Matrix

end BuildMatrix
