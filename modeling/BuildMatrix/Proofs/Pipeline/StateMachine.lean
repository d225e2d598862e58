import BuildMatrix.Proofs.Pipeline.Course
import Mathlib.Data.List.Chain

namespace BuildMatrix

namespace State

inductive Transition : State → State → Prop
  | ready : Transition .created .directoryReady
  | unsupported : Transition .directoryReady .skipped
  | generated : Transition .directoryReady .generated
  | built : Transition .generated .built
  | selected : Transition .built .testSelected
  | crossCompiled : Transition .built .skipped
  | tested : Transition .testSelected .testRun
  | failed {s : State} (h : s ∈ [created, directoryReady, generated, testSelected]) :
      Transition s .failed

inductive Route : State → List State → State → Prop
  | nil (s : State) : Route s [] s
  | cons {s u t : State} {l : List State} : Transition s u → Route u l t → Route s (u :: l) t

theorem Route.one {s t : State} (h : Transition s t) : Route s [t] t := .cons h (.nil t)

theorem Route.trans {s t u : State} {l m : List State} (h : Route s l t) (h' : Route t m u) :
    Route s (l ++ m) u := by
  induction h with
  | nil => exact h'
  | cons ht _ ih => exact .cons ht (ih h')

theorem Route.isChain {s t : State} {l : List State} (h : Route s l t) :
    List.IsChain Transition (s :: l) := by
  induction h with
  | nil s => exact .singleton s
  | cons ht _ ih => exact .cons_cons ht ih

theorem Route.getLast? {s t : State} {l : List State} (h : Route s l t) :
    (s :: l).getLast? = some t := by
  induction h with
  | nil => rfl
  | cons _ _ ih => rw [List.getLast?_cons_cons, ih]

theorem Transition.not_terminal {s t : State} (h : Transition s t) : s.isTerminal = false := by
  cases h with
  | failed h =>
    simp only [List.mem_cons, List.not_mem_nil, or_false] at h
    rcases h with rfl | rfl | rfl | rfl <;> rfl
  | _ => rfl

theorem Route.filter_terminal {s t : State} {l : List State} (h : Route s l t)
    (ht : t.isTerminal = true) : (s :: l).filter isTerminal = [t] := by
  induction h with
  | nil => simp [ht]
  | cons hs _ ih => rw [List.filter_cons_of_neg (by simp [hs.not_terminal]), ih ht]

end State

theorem Outcome.state_terminal (o : Outcome) : o.state.isTerminal = true := by
  cases o <;> rfl

theorem Report.ran_iff {r : Report} {stage : Stage} :
    r.ran stage = true ↔ ∃ c ∈ r.commands, c.1 = stage := by
  simp [ran, commandsFor]

def Stage.origin : Stage → State
  | generate => .directoryReady
  | build => .generated
  | test => .built

namespace Pipeline

open State

theorem Attempt.reached_eq_or (a : Attempt) :
    a.reached = a.stage.reached ∨ a.reached = .failed := by
  cases h : a.ending with
  | none => exact .inl (reached_of_none h)
  | some o =>
    rw [reached_of_some h]
    rcases ending_eq_some_iff.1 h with ⟨hs, -, rfl⟩ | ⟨-, -, rfl⟩
    · exact .inl (by rw [hs]; rfl)
    · exact .inr rfl

theorem Attempt.route (a : Attempt) : Route a.stage.origin a.states a.reached := by
  have h := a.reached_eq_or
  rcases a with ⟨_ | _ | _, c, answer, elapsed⟩ <;> unfold states <;>
    rcases h with h | h <;> rw [h]
  · exact .one .generated
  · exact .one (.failed (by simp [Stage.origin]))
  · exact .one .built
  · exact .one (.failed (by simp [Stage.origin]))
  · exact .cons .selected (.one .tested)
  · exact .cons .selected (.one (.failed (by simp)))

def Follows : State → List Stage → Prop
  | s, [] => Transition s .skipped
  | s, stage :: rest => stage.origin = s ∧ (stage ≠ .test → Follows stage.reached rest)

theorem follows_stages (ctx : Context) : Follows .directoryReady ctx.stages := by
  unfold Context.stages
  split_ifs
  · exact .unsupported
  · simp [Follows, Stage.origin, Stage.reached]
  · simpa [Follows, Stage.origin, Stage.reached] using Transition.crossCompiled

variable {σ : Type} (host : Host σ) (dryRun : Bool) (ctx : Context)

/-- The history of a run leads from one state to the next, up to that of the outcome. -/
theorem walk_route {s : State} {stages : List Stage} (hs : Follows s stages) (w : σ) :
    Route s (Attempt.history ctx (walk host dryRun ctx stages w).1)
      (Attempt.outcome ctx (walk host dryRun ctx stages w).1).state := by
  induction stages generalizing s w with
  | nil => exact .one hs
  | cons stage rest ih =>
    obtain ⟨rfl, hrest⟩ := hs
    rcases ht : attempt host dryRun stage (ctx.command stage) w with ⟨a, w'⟩
    obtain rfl : a.stage = stage := stage_of_attempt ht
    have hp := a.route
    cases ha : a.ending with
    | none =>
      rw [walk_cons_of_none ht ha, Attempt.history_cons_of_none ha, Attempt.outcome_cons_of_none ha]
      rw [Attempt.reached_of_none ha] at hp
      exact hp.trans (ih (hrest (Attempt.stage_ne_test_of_none ha)) w')
    | some o =>
      rw [walk_cons_of_some ht ha, Attempt.history_singleton_of_some ha,
        Attempt.outcome_cons_of_some ha, ← Attempt.reached_of_some ha]
      exact hp

theorem run_route (w : σ) :
    ∃ l, (run host dryRun ctx w).report.history = .created :: l ∧
      Route .created l (run host dryRun ctx w).report.outcome.state := by
  rcases hp : prepared host dryRun ctx.buildDir w with ⟨reason | ⟨⟩, w₁⟩
  · obtain ⟨hr, -, -⟩ := run_of_unprepared hp
    rw [hr]
    exact ⟨_, rfl, .one (.failed (by simp))⟩
  · obtain ⟨hr, -, -⟩ := run_of_prepared hp
    rw [hr]
    exact ⟨_, rfl, .cons .ready (walk_route host dryRun ctx (follows_stages ctx) w₁)⟩

theorem run_state (w : σ) :
    (run host dryRun ctx w).report.state = (run host dryRun ctx w).report.outcome.state := by
  obtain ⟨l, hl, hroute⟩ := run_route host dryRun ctx w
  rw [Report.state, hl, hroute.getLast?]
  rfl

theorem Attempt.reached_mem_states {stage : Stage} (hs : stage ≠ .test) (a : Attempt) :
    stage.reached ∈ a.states ↔ a.stage = stage ∧ a.passed = true := by
  by_cases ha : a.stage = .test
  · have h := a.reached_eq_or
    cases stage <;> simp_all [states, Stage.entered, Stage.reached] <;> grind
  · rw [states_of_ne_test ha, reached_of_ne_test ha]
    cases h : a.stage <;> cases stage <;> cases a.passed <;> simp_all [Stage.reached]

theorem Attempt.reached_mem_history {stage : Stage} (hs : stage ≠ .test) (as : List Attempt) :
    stage.reached ∈ (report ctx as).history ↔ ∃ a ∈ as, a.stage = stage ∧ a.passed = true := by
  have hskip : stage.reached ∉ (outcome ctx as).history := by
    cases outcome ctx as <;> cases stage <;> simp [Outcome.history, Stage.reached]
  have hstart : stage.reached ∉ [State.created, .directoryReady] := by
    cases stage <;> simp [Stage.reached]
  change stage.reached ∈ [State.created, .directoryReady] ++ history ctx as ↔ _
  simp only [history, List.mem_append, hskip, hstart, List.mem_flatMap, reached_mem_states hs,
    false_or, or_false]

section

variable (stage : Stage) (c : Command) (w : σ)

theorem attempt_world : (attempt host false stage c w).2 = (host.execute c w).2 := by
  rcases h : host.execute c w with ⟨_ | _, _⟩ <;> simp [attempt, ask, h]

theorem attempt_passed_iff : (attempt host dryRun stage c w).1.passed = true ↔
    dryRun = true ∨ ∃ o, (host.execute c w).1 = .ok o ∧ o.code = 0 := by
  cases dryRun with
  | true => simp [attempt_dry]
  | false =>
    rcases h : host.execute c w with ⟨_ | _, _⟩
    · simp [attempt_refused h]
    · simp [attempt_ended h, StageOutput.success]

theorem attempt_isRefused_iff : (attempt host dryRun stage c w).1.answer.isRefused = false ↔
    dryRun = true ∨ ∃ o, (host.execute c w).1 = .ok o := by
  cases dryRun with
  | true => simp [attempt_dry, Answer.isRefused]
  | false =>
    rcases h : host.execute c w with ⟨_ | _, _⟩
    · simp [attempt_refused h, Answer.isRefused]
    · simp [attempt_ended h, Answer.isRefused]

end

/-- What becomes of a stage if a run comes to it, each stage being tried in the world that the one
before has left. -/
def tried (w : σ) : Stage → Attempt
  | .generate => (attempt host dryRun .generate ctx.configureCommand w).1
  | .build =>
    (attempt host dryRun .build ctx.buildCommand
      (attempt host dryRun .generate ctx.configureCommand w).2).1
  | .test =>
    (attempt host dryRun .test ctx.testCommand
      (attempt host dryRun .build ctx.buildCommand
        (attempt host dryRun .generate ctx.configureCommand w).2).2).1

theorem eq_tried_of_mem_walk {w : σ} {a : Attempt}
    (h : a ∈ (walk host dryRun ctx ctx.stages w).1) : a = tried host dryRun ctx w a.stage := by
  have hall := (interview_mono host dryRun ctx (stages_prefix_all ctx) w).subset
    ((walk_prefix_interview host dryRun ctx ctx.stages w).subset h)
  simp only [interview, Context.command_generate, Context.command_build, Context.command_test,
    List.mem_cons, List.not_mem_nil, or_false] at hall
  rcases hall with rfl | rfl | rfl <;> rfl

theorem exists_stage_iff {as : List Attempt} {x : Attempt} {stage : Stage} (P : Attempt → Prop)
    (h : ∀ a ∈ as, a.stage = stage → a = x) :
    (∃ a ∈ as, a.stage = stage ∧ P a) ↔ (∃ a ∈ as, a.stage = stage) ∧ P x := by
  constructor
  · rintro ⟨a, ha, hs, hp⟩
    exact ⟨⟨a, ha, hs⟩, h a ha hs ▸ hp⟩
  · rintro ⟨⟨a, ha, hs⟩, hp⟩
    exact ⟨a, ha, hs, (h a ha hs).symm ▸ hp⟩

theorem outcome_walk_eq_testRun (stages : List Stage) (w : σ) :
    (∃ o, Attempt.outcome ctx (walk host dryRun ctx stages w).1 = .testRun o) ↔
      ∃ a ∈ (walk host dryRun ctx stages w).1, a.stage = .test ∧ a.answer.isRefused = false := by
  constructor
  · rintro ⟨o, ho⟩
    cases hf : (walk host dryRun ctx stages w).1.findSome? Attempt.ending with
    | none => simp [Attempt.outcome, hf] at ho
    | some o' =>
      obtain ⟨a, ha, hend⟩ := List.exists_of_findSome?_eq_some hf
      obtain rfl : o' = .testRun o := by simpa [Attempt.outcome, hf] using ho
      rcases Attempt.ending_eq_some_iff.1 hend with ⟨hs, hr, -⟩ | ⟨-, -, ho⟩
      · exact ⟨a, ha, hs, hr⟩
      · simp at ho
  · rintro ⟨a, ha, hs, hr⟩
    exact ⟨_, outcome_of_mem_walk host dryRun ctx ha (o := .testRun a.output)
      (by simp [Attempt.ending, hs, hr])⟩

theorem prepared_world (dir : Path) (w : σ) :
    (prepared host false dir w).2 = (host.ensureDirectory dir w).2 := by
  rcases h : host.ensureDirectory dir w with ⟨_ | _, _⟩ <;> simp [prepared, h]

theorem ran_report_iff {stage : Stage} {as : List Attempt} :
    (Attempt.report ctx as).ran stage = true ↔ ∃ a ∈ as, a.stage = stage := by
  rw [Report.ran_iff]
  simp [Attempt.report, Attempt.issued]

theorem reached_mem_run {stage : Stage} (hs : stage ≠ .test) (w : σ) :
    stage.reached ∈ (run host dryRun ctx w).report.history ↔
      (run host dryRun ctx w).report.ran stage = true ∧
        (tried host dryRun ctx (prepared host dryRun ctx.buildDir w).2 stage).passed = true := by
  rcases hp : prepared host dryRun ctx.buildDir w with ⟨reason | ⟨⟩, w₁⟩
  · obtain ⟨hr, -, -⟩ := run_of_unprepared hp
    rw [hr]
    cases stage <;> simp [Stage.reached, Report.ran_iff]
  · obtain ⟨hr, -, -⟩ := run_of_prepared hp
    rw [hr, Attempt.reached_mem_history ctx hs, ran_report_iff]
    exact exists_stage_iff (fun a ↦ a.passed = true) fun a ha has ↦
      has ▸ eq_tried_of_mem_walk host dryRun ctx ha

theorem state_run_eq_testRun (w : σ) :
    (run host dryRun ctx w).report.state = .testRun ↔
      (run host dryRun ctx w).report.ran .test = true ∧
        (tried host dryRun ctx (prepared host dryRun ctx.buildDir w).2 .test).answer.isRefused =
          false := by
  rw [run_state]
  rcases hp : prepared host dryRun ctx.buildDir w with ⟨reason | ⟨⟩, w₁⟩
  · obtain ⟨hr, -, -⟩ := run_of_unprepared hp
    rw [hr]
    simp [Outcome.state, Report.ran_iff]
  · obtain ⟨hr, -, -⟩ := run_of_prepared hp
    have hstate (o : Outcome) : o.state = .testRun ↔ ∃ output, o = .testRun output := by
      cases o <;> simp [Outcome.state]
    rw [hr, hstate, ran_report_iff]
    exact (outcome_walk_eq_testRun host dryRun ctx ctx.stages w₁).trans <|
      exists_stage_iff (fun a ↦ a.answer.isRefused = false) fun a ha has ↦
        has ▸ eq_tried_of_mem_walk host dryRun ctx ha

/-- A run takes the steps of its state machine only, and ends in the one terminal state of its
history, which is that of its outcome. -/
theorem run_history {σ : Type} (host : Host σ) (dryRun : Bool) (ctx : Context) (w : σ) :
    let r := (run host dryRun ctx w).report
    let w₁ := (host.ensureDirectory ctx.buildDir w).2
    let w₂ := (host.execute ctx.configureCommand w₁).2
    let w₃ := (host.execute ctx.buildCommand w₂).2
    r.history.head? = some .created ∧
      r.history.IsChain Transition ∧
      r.history.filter State.isTerminal = [r.state] ∧ r.history.getLast? = some r.state ∧
      ((r.state = .testRun ↔ ∃ o, r.outcome = .testRun o) ∧
        (r.state = .skipped ↔ ∃ s, r.outcome = .skipped s) ∧
        (r.state = .failed ↔ ∃ e, r.outcome = .failed e)) ∧
      (.generated ∈ r.history ↔ r.ran .generate = true ∧
        (dryRun = true ∨ ∃ o, (host.execute ctx.configureCommand w₁).1 = .ok o ∧ o.code = 0)) ∧
      (.built ∈ r.history ↔ r.ran .build = true ∧
        (dryRun = true ∨ ∃ o, (host.execute ctx.buildCommand w₂).1 = .ok o ∧ o.code = 0)) ∧
      (r.state = .testRun ↔ r.ran .test = true ∧
        (dryRun = true ∨ ∃ o, (host.execute ctx.testCommand w₃).1 = .ok o)) := by
  intro r w₁ w₂ w₃
  obtain ⟨l, hl, hroute⟩ := run_route host dryRun ctx w
  have hstate : r.state = r.outcome.state := run_state host dryRun ctx w
  change r.history = _ at hl
  change Route .created l r.outcome.state at hroute
  rw [← hstate] at hroute
  have hterminal : r.state.isTerminal = true := hstate ▸ r.outcome.state_terminal
  refine ⟨by rw [hl]; rfl, hl ▸ hroute.isChain, hl ▸ hroute.filter_terminal hterminal,
    hl ▸ hroute.getLast?, ?_, ?_, ?_, ?_⟩
  · rw [hstate]
    cases r.outcome <;> simp [Outcome.state]
  · have hs : Stage.generate ≠ .test := by decide
    refine (reached_mem_run host dryRun ctx hs w).trans (and_congr_right' ?_)
    rw [tried, attempt_passed_iff]
    cases dryRun <;> simp [prepared_world, w₁]
  · have hs : Stage.build ≠ .test := by decide
    refine (reached_mem_run host dryRun ctx hs w).trans (and_congr_right' ?_)
    rw [tried, attempt_passed_iff]
    cases dryRun <;> simp [prepared_world, attempt_world, w₁, w₂]
  · refine (state_run_eq_testRun host dryRun ctx w).trans (and_congr_right' ?_)
    rw [tried, attempt_isRefused_iff]
    cases dryRun <;> simp [prepared_world, attempt_world, w₁, w₂, w₃]

end Pipeline

end BuildMatrix
