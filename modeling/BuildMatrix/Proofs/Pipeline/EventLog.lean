import BuildMatrix.Proofs.Pipeline.FailFast

namespace BuildMatrix

theorem Context.command_cwd (ctx : Context) (stage : Stage) :
    (ctx.command stage).cwd = some ctx.buildDir := by
  cases stage <;> rfl

theorem Outcome.mem_entries {o : Outcome} {e : Pipeline.Entry} :
    e ∈ o.entries ↔ ∃ reason, o = .skipped reason ∧ e = .event (.pipelineSkipped reason) := by
  cases o <;> simp [entries]

namespace Pipeline

def Entry.isFinish : Entry → Bool
  | event (.pipelineFinished ..) => true
  | _ => false

namespace Attempt

theorem mem_block {a : Attempt} {e : Entry} :
    e ∈ a.block ↔ e = a.started ∨ (a.answer ≠ .assumed ∧ e = .call a.command) ∨
      (a.answer.isRefused = false ∧ e = a.finished) ∨
      (a.answer ≠ .assumed ∧ a.tells = true ∧ e = a.told) := by
  rcases a with ⟨stage, c, _ | output | reason, n⟩
  · simp [block, Answer.isRefused]
  · cases h : tells ⟨stage, c, .ended output, n⟩ <;> simp [block, Answer.isRefused, h]
  · simp [block, Answer.isRefused, tells]

theorem skip_not_mem_block (a : Attempt) (reason : SkipReason) :
    .event (.pipelineSkipped reason) ∉ a.block := by
  simp [mem_block, started, finished, told]

theorem isFinish_of_mem_block {a : Attempt} {e : Entry} (h : e ∈ a.block) : e.isFinish = false := by
  rcases mem_block.1 h with rfl | ⟨-, rfl⟩ | ⟨-, rfl⟩ | ⟨-, -, rfl⟩ <;> rfl

theorem started_mem_block {a : Attempt} {stage : Stage} {command : String} {cwd : Option Path} :
    .event (.stageStarted stage command cwd) ∈ a.block ↔
      (stage, command) = a.issued ∧ cwd = a.command.cwd := by
  simp [mem_block, started, finished, told, issued, and_assoc]

theorem output_mem_block {a : Attempt} {stage : Stage} {command : String} {output : StageOutput} :
    .event (.stageOutput stage command output) ∈ a.block ↔
      a.answer ≠ .assumed ∧ a.tells = true ∧
        stage = a.stage ∧ command = a.command.display ∧ output = a.output := by
  simp [mem_block, started, finished, told]

end Attempt

variable {σ : Type} (host : Host σ) (dryRun : Bool) (ctx : Context)

/-- The log of a run is the blocks of its stages, the skip if there is one, and the end. -/
theorem run_trace (w : σ) :
    let r := run host dryRun ctx w
    r.trace = (attempts host dryRun ctx w).flatMap Attempt.block ++ r.report.outcome.entries ++
      [r.report.finished (host.clock r.world - host.clock w)] := by
  intro r
  rcases hp : prepared host dryRun ctx.buildDir w with ⟨reason | ⟨⟩, w₁⟩
  · obtain ⟨hr, ht, hw⟩ := run_of_unprepared hp
    rw [ht, attempts_of_unprepared host dryRun ctx hp, ← hw]
    simp [r, hr, Outcome.entries]
  · obtain ⟨hr, ht, hw⟩ := run_of_prepared hp
    rw [ht, ← hw, attempts, hp]
    simp [r, hr, Attempt.entries, Attempt.report]

theorem mem_trace {w : σ} {e : Entry} :
    let r := run host dryRun ctx w
    e ∈ r.trace ↔ (∃ a ∈ attempts host dryRun ctx w, e ∈ a.block) ∨
      (∃ reason, r.report.outcome = .skipped reason ∧ e = .event (.pipelineSkipped reason)) ∨
      e = r.report.finished (host.clock r.world - host.clock w) := by
  intro r
  rw [run_trace, List.mem_append, List.mem_append, List.mem_flatMap, Outcome.mem_entries,
    List.mem_singleton, or_assoc]

theorem attempts_prefix_stages (w : σ) :
    attempts host dryRun ctx w <+: interview host dryRun ctx [.generate, .build, .test]
      (prepared host dryRun ctx.buildDir w).2 :=
  (attempts_prefix_interview host dryRun ctx w).trans
    (interview_mono host dryRun ctx (stages_prefix_all ctx) _)

theorem started_mem_trace {w : σ} {stage : Stage} {command : String} {cwd : Option Path} :
    let r := run host dryRun ctx w
    .event (.stageStarted stage command cwd) ∈ r.trace ↔
      (stage, command) ∈ r.report.commands ∧ cwd = some ctx.buildDir := by
  intro r
  have hcwd {a : Attempt} (ha : a ∈ attempts host dryRun ctx w) :
      a.command.cwd = some ctx.buildDir := by
    rw [command_of_mem_interview host dryRun ctx
      ((attempts_prefix_interview host dryRun ctx w).subset ha), Context.command_cwd]
  refine (mem_trace host dryRun ctx).trans ?_
  simp only [r, run_commands, List.mem_map, Attempt.started_mem_block, Report.finished,
    Entry.event.injEq, reduceCtorEq, and_false, exists_false, or_false]
  constructor
  · rintro ⟨a, ha, hissued, rfl⟩
    exact ⟨⟨a, ha, hissued.symm⟩, hcwd ha⟩
  · rintro ⟨⟨a, ha, hissued⟩, rfl⟩
    exact ⟨a, ha, hissued.symm, (hcwd ha).symm⟩

theorem output_mem_trace {w : σ} {stage : Stage} {command : String} {output : StageOutput} :
    .event (.stageOutput stage command output) ∈ (run host dryRun ctx w).trace ↔
      dryRun = false ∧ ∃ a ∈ attempts host dryRun ctx w, a.tells = true ∧
        stage = a.stage ∧ command = a.command.display ∧ output = a.output := by
  have hanswer {a : Attempt} (ha : a ∈ attempts host dryRun ctx w) :
      a.answer ≠ .assumed ↔ dryRun = false := by
    have hmem := (attempts_prefix_interview host dryRun ctx w).subset ha
    rw [Ne, answer_of_mem_interview host dryRun ctx hmem, Bool.not_eq_true]
  simp only [mem_trace, Attempt.output_mem_block, Report.finished, Entry.event.injEq, reduceCtorEq,
    and_false, exists_false, or_false]
  constructor
  · rintro ⟨a, ha, hne, h⟩
    exact ⟨(hanswer ha).1 hne, a, ha, h⟩
  · rintro ⟨hdry, a, ha, h⟩
    exact ⟨a, ha, (hanswer ha).2 hdry, h⟩

theorem skip_mem_trace {w : σ} {reason : SkipReason} :
    .event (.pipelineSkipped reason) ∈ (run host dryRun ctx w).trace ↔
      (run host dryRun ctx w).report.outcome = .skipped reason := by
  simp only [mem_trace, Attempt.skip_not_mem_block, and_false, exists_false, false_or,
    Entry.event.injEq, Event.pipelineSkipped.injEq, Report.finished, reduceCtorEq, or_false]
  constructor
  · rintro ⟨_, h, rfl⟩
    exact h
  · intro h
    exact ⟨reason, h, rfl⟩

theorem filter_isFinish (w : σ) :
    let r := run host dryRun ctx w
    r.trace.filter Entry.isFinish =
      [r.report.finished (host.clock r.world - host.clock w)] := by
  intro r
  have hblocks : ((attempts host dryRun ctx w).flatMap Attempt.block ++
      r.report.outcome.entries).filter Entry.isFinish = [] := by
    rw [List.filter_eq_nil_iff]
    intro e he
    rcases List.mem_append.1 he with he | he
    · obtain ⟨a, -, he⟩ := List.mem_flatMap.1 he
      simp [Attempt.isFinish_of_mem_block he]
    · obtain ⟨reason, -, rfl⟩ := Outcome.mem_entries.1 he
      simp [Entry.isFinish]
  rw [run_trace, List.filter_append, hblocks]
  rfl

/-- The grammar of a log: one block for each stage that is come to, in order and as the host
answers, then a skip if the rest is skipped, then the end as the report has it. -/
theorem run_log {σ : Type} (host : Host σ) (dryRun : Bool) (ctx : Context) (w : σ) :
    let r := run host dryRun ctx w
    let as := attempts host dryRun ctx w
    let last := r.report.finished (host.clock r.world - host.clock w)
    r.trace = as.flatMap Attempt.block ++ r.report.outcome.entries ++ [last] ∧
      as.map Attempt.stage <+: [.generate, .build, .test] ∧
      as <+: interview host dryRun ctx [.generate, .build, .test]
        (prepared host dryRun ctx.buildDir w).2 ∧
      (∀ a ∈ as, a.command = ctx.command a.stage ∧ a.command.cwd = some ctx.buildDir ∧
        (a.answer = .assumed ↔ dryRun = true)) ∧
      (∀ stage command output, .event (.stageOutput stage command output) ∈ r.trace ↔
        dryRun = false ∧ ∃ a ∈ as, (a.stage = .test ∨ a.passed = false) ∧
          stage = a.stage ∧ command = a.command.display ∧ output = a.output) ∧
      (∀ reason, .event (.pipelineSkipped reason) ∈ r.trace ↔
        r.report.outcome = .skipped reason) ∧
      r.trace.filter Entry.isFinish = [last] := by
  intro r as last
  have hall := attempts_prefix_stages host dryRun ctx w
  refine ⟨run_trace host dryRun ctx w, ?_, hall, fun a ha ↦ ?_, fun stage command output ↦ ?_,
    fun reason ↦ skip_mem_trace host dryRun ctx, filter_isFinish host dryRun ctx w⟩
  · rw [← interview_stage host dryRun ctx [.generate, .build, .test]
      (prepared host dryRun ctx.buildDir w).2]
    exact hall.map Attempt.stage
  · have hcommand := command_of_mem_interview host dryRun ctx (hall.subset ha)
    exact ⟨hcommand, by rw [hcommand, Context.command_cwd],
      answer_of_mem_interview host dryRun ctx (hall.subset ha)⟩
  · refine (output_mem_trace host dryRun ctx).trans ?_
    simp [Attempt.tells, as]

end Pipeline

end BuildMatrix
