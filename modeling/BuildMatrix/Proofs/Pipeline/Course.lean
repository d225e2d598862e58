import BuildMatrix.Proofs.Pipeline.Attempt

namespace BuildMatrix

/-- The stages of a run, in order: none for a pair that is not supported, and no test of what does
not run on this machine. -/
def Context.stages (ctx : Context) : List Stage :=
  if ctx.skip.isSome then []
  else if ctx.compiler.isNative then [.generate, .build, .test]
  else [.generate, .build]

@[simp] theorem Context.command_generate (ctx : Context) :
    ctx.command .generate = ctx.configureCommand := rfl

@[simp] theorem Context.command_build (ctx : Context) :
    ctx.command .build = ctx.buildCommand := rfl

@[simp] theorem Context.command_test (ctx : Context) :
    ctx.command .test = ctx.testCommand := rfl

def Outcome.history : Outcome → List State
  | skipped _ => [.skipped]
  | _ => []

def Outcome.entries : Outcome → List Pipeline.Entry
  | skipped reason => [.event (.pipelineSkipped reason)]
  | _ => []

def Report.finished (r : Report) (elapsed : Nat) : Pipeline.Entry :=
  .event (.pipelineFinished r.state r.success r.exitCode elapsed)

namespace Pipeline

def Ended.trace {σ : Type} (r : Ended σ) : List Entry := r.entries.filter (!·.isLog)

namespace Attempt

theorem passed_iff {a : Attempt} : a.passed = true ↔ a.output.code = 0 := beq_iff_eq

theorem passed_of_isRefused {a : Attempt} (h : a.answer.isRefused = true) : a.passed = false := by
  rcases a with ⟨stage, c, _ | output | reason, n⟩
  · simp [Answer.isRefused] at h
  · simp [Answer.isRefused] at h
  · rfl

/-- A stage ends a run as a test that could be started, or with an error. -/
theorem ending_eq_some_iff {a : Attempt} {o : Outcome} :
    a.ending = some o ↔
      (a.stage = .test ∧ a.answer.isRefused = false ∧ o = .testRun a.output) ∨
        ((a.stage ≠ .test ∨ a.answer.isRefused = true) ∧ a.passed = false ∧
          o = .failed a.error) := by
  have h := @passed_of_isRefused a
  unfold ending
  grind

theorem ending_of_ne_test {a : Attempt} (h : a.stage ≠ .test) :
    a.ending = if a.passed then none else some (.failed a.error) := by
  have hr := @passed_of_isRefused a
  unfold ending
  grind

theorem stage_ne_test_of_none {a : Attempt} (h : a.ending = none) : a.stage ≠ .test := by
  unfold ending at h
  grind

theorem history_of_ending {a : Attempt} {o : Outcome} (h : a.ending = some o) :
    o.history = [] := by
  rcases ending_eq_some_iff.1 h with ⟨-, -, rfl⟩ | ⟨-, -, rfl⟩ <;> rfl

theorem entries_of_ending {a : Attempt} {o : Outcome} (h : a.ending = some o) :
    o.entries = [] := by
  rcases ending_eq_some_iff.1 h with ⟨-, -, rfl⟩ | ⟨-, -, rfl⟩ <;> rfl

theorem states_of_ne_test {a : Attempt} (h : a.stage ≠ .test) : a.states = [a.reached] := by
  rcases a with ⟨_ | _ | _, c, answer, elapsed⟩ <;> simp_all [states, Stage.entered]

theorem reached_of_ne_test {a : Attempt} (h : a.stage ≠ .test) :
    a.reached = if a.passed then a.stage.reached else .failed := by
  rw [reached, ending_of_ne_test h]
  cases a.passed <;> rfl

theorem reached_of_none {a : Attempt} (h : a.ending = none) : a.reached = a.stage.reached := by
  simp [reached, h]

theorem reached_of_some {a : Attempt} {o : Outcome} (h : a.ending = some o) :
    a.reached = o.state := by
  simp [reached, h]

/-- The outcome of a run that comes to these stages: the first end that one of them makes, and if
there is none the rest is skipped. -/
def outcome (ctx : Context) (as : List Attempt) : Outcome :=
  (as.findSome? ending).getD (.skipped (ctx.skip.getD .crossCompiled))

def history (ctx : Context) (as : List Attempt) : List State :=
  as.flatMap states ++ (outcome ctx as).history

def entries (ctx : Context) (as : List Attempt) : List Entry :=
  as.flatMap block ++ (outcome ctx as).entries

def report (ctx : Context) (as : List Attempt) : Report where
  history := .created :: .directoryReady :: history ctx as
  commands := as.map issued
  outcome := outcome ctx as
  buildDir := ctx.buildDir

section

variable {ctx : Context} {a : Attempt} {as : List Attempt} {o : Outcome}

theorem outcome_cons_of_none (h : a.ending = none) : outcome ctx (a :: as) = outcome ctx as := by
  simp [outcome, h]

theorem outcome_cons_of_some (h : a.ending = some o) : outcome ctx (a :: as) = o := by
  simp [outcome, h]

theorem history_nil : history ctx [] = [.skipped] := rfl

theorem history_cons_of_none (h : a.ending = none) :
    history ctx (a :: as) = a.states ++ history ctx as := by
  simp [history, outcome_cons_of_none h]

theorem history_singleton_of_some (h : a.ending = some o) : history ctx [a] = a.states := by
  simp [history, outcome_cons_of_some h, history_of_ending h]

theorem entries_nil :
    entries ctx [] = [.event (.pipelineSkipped (ctx.skip.getD .crossCompiled))] := rfl

theorem entries_cons_of_none (h : a.ending = none) :
    entries ctx (a :: as) = a.block ++ entries ctx as := by
  simp [entries, outcome_cons_of_none h]

theorem entries_singleton_of_some (h : a.ending = some o) : entries ctx [a] = a.block := by
  simp [entries, outcome_cons_of_some h, entries_of_ending h]

end

end Attempt

variable {σ : Type} (host : Host σ) (dryRun : Bool) (ctx : Context)

def proceed : List Stage → Progress σ → Outcome × Progress σ
  | [], p => skip (ctx.skip.getD .crossCompiled) p
  | .test :: _, p => testStage host dryRun ctx.testCommand (p.enter .testSelected)
  | stage :: rest, p =>
    match checkStage host dryRun stage (ctx.command stage) p with
    | (.error e, p) => fail e p
    | (.ok (), p) => proceed rest (p.enter stage.reached)

/-- What becomes of stages that are come to in order, up to the first that ends the run. -/
def walk : List Stage → σ → List Attempt × σ
  | [], w => ([], w)
  | stage :: rest, w =>
    let (a, w) := attempt host dryRun stage (ctx.command stage) w
    if a.ending.isNone then
      let (as, w) := walk rest w
      (a :: as, w)
    else ([a], w)

theorem drive_eq (p : Progress σ) :
    drive host dryRun ctx p =
      match prepare host dryRun ctx.buildDir p with
      | (.error e, p) => fail e p
      | (.ok (), p) => proceed host dryRun ctx ctx.stages (p.enter .directoryReady) := by
  rcases hp : prepare host dryRun ctx.buildDir p with ⟨e | ⟨⟩, q⟩
  · simp [drive, hp]
  · cases hs : ctx.skip with
    | some reason => simp [drive, hp, Context.stages, hs, proceed]
    | none =>
      rcases hg : checkStage host dryRun .generate ctx.configureCommand (q.enter .directoryReady)
        with ⟨e | ⟨⟩, q₁⟩
      · cases hn : ctx.compiler.isNative <;>
          simp [drive, hp, Context.stages, hs, hn, proceed, hg]
      · rcases hb : checkStage host dryRun .build ctx.buildCommand (q₁.enter .generated)
          with ⟨e | ⟨⟩, q₂⟩
        all_goals
          cases hn : ctx.compiler.isNative <;>
            simp [drive, hp, Context.stages, hs, hn, proceed, hg, hb, Stage.reached]

section

variable {host dryRun ctx} {stage : Stage} {rest : List Stage} {a : Attempt} {w w' : σ}

theorem walk_cons_of_none (ht : attempt host dryRun stage (ctx.command stage) w = (a, w'))
    (ha : a.ending = none) :
    walk host dryRun ctx (stage :: rest) w =
      (a :: (walk host dryRun ctx rest w').1, (walk host dryRun ctx rest w').2) := by
  simp [walk, ht, ha]

theorem walk_cons_of_some {o : Outcome}
    (ht : attempt host dryRun stage (ctx.command stage) w = (a, w')) (ha : a.ending = some o) :
    walk host dryRun ctx (stage :: rest) w = ([a], w') := by
  simp [walk, ht, ha]

theorem walk_singleton (ht : attempt host dryRun stage (ctx.command stage) w = (a, w')) :
    walk host dryRun ctx [stage] w = ([a], w') := by
  cases ha : a.ending with
  | none =>
    rw [walk_cons_of_none ht ha]
    rfl
  | some o => exact walk_cons_of_some ht ha

theorem proceed_cons_of_ok (hs : stage ≠ .test) {q r : Progress σ}
    (h : checkStage host dryRun stage (ctx.command stage) q = (.ok (), r)) :
    proceed host dryRun ctx (stage :: rest) q =
      proceed host dryRun ctx rest (r.enter stage.reached) := by
  cases stage <;> simp_all [proceed]

theorem proceed_cons_of_error (hs : stage ≠ .test) {q r : Progress σ} {e : Error}
    (h : checkStage host dryRun stage (ctx.command stage) q = (.error e, r)) :
    proceed host dryRun ctx (stage :: rest) q = fail e r := by
  cases stage <;> simp_all [proceed]

end

section

variable {p q : Progress σ} {h : List State} {c : List (Stage × String)} {e : List Entry} {w : σ}

/-- To go through stages is to make their attempts: the outcome, the history, the commands and the
log are as the attempts say. -/
theorem proceed_account (stages : List Stage) (hq : q.account = p.account.add h c e w) :
    let t := walk host dryRun ctx stages w
    ∃ r, proceed host dryRun ctx stages q = (Attempt.outcome ctx t.1, r) ∧
      r.account = p.account.add (h ++ Attempt.history ctx t.1) (c ++ t.1.map Attempt.issued)
        (e ++ Attempt.entries ctx t.1) t.2 := by
  induction stages generalizing q h c e w with
  | nil =>
    refine ⟨(skip (ctx.skip.getD .crossCompiled) q).2, rfl, ?_⟩
    rw [Progress.skip_account hq]
    simp [walk, Attempt.history_nil, Attempt.entries_nil]
  | cons stage rest ih =>
    rcases ht : attempt host dryRun stage (ctx.command stage) w with ⟨a, w'⟩
    have hs : a.stage = stage := stage_of_attempt ht
    -- A test that could be started ends the run with any code, another stage only if it fails.
    by_cases htest : stage = .test
    · subst htest
      obtain ⟨o, r, hrun, hend, hr⟩ := testStage_account host dryRun ctx.testCommand
        (Progress.enter_account hq .testSelected)
      change attempt host dryRun .test ctx.testCommand w = _ at ht
      rw [ht] at hend hr
      have hstates : a.states = [.testSelected, a.reached] := by
        simp [Attempt.states, hs, Stage.entered]
      refine ⟨r, ?_, ?_⟩
      · rw [walk_cons_of_some ht hend, Attempt.outcome_cons_of_some hend]
        exact hrun
      · rw [hr, walk_cons_of_some ht hend, Attempt.history_singleton_of_some hend,
          Attempt.entries_singleton_of_some hend, hstates]
        simp
    · obtain ⟨r, hrun, hr⟩ := checkStage_account host dryRun htest (ctx.command stage) hq
      rw [ht] at hrun hr
      have hend := Attempt.ending_of_ne_test (hs ▸ htest)
      have hstates := Attempt.states_of_ne_test (hs ▸ htest)
      cases hp : a.passed with
      | true =>
        rw [hp] at hrun hend
        obtain ⟨r', hrun', hr'⟩ := ih (Progress.enter_account hr stage.reached)
        refine ⟨r', ?_, ?_⟩
        · rw [proceed_cons_of_ok htest hrun, walk_cons_of_none ht hend,
            Attempt.outcome_cons_of_none hend]
          exact hrun'
        · rw [hr', walk_cons_of_none ht hend, Attempt.history_cons_of_none hend,
            Attempt.entries_cons_of_none hend, hstates, Attempt.reached_of_none hend, hs]
          simp
      | false =>
        rw [hp] at hrun hend
        refine ⟨r.enter .failed, ?_, ?_⟩
        · rw [proceed_cons_of_error htest hrun, walk_cons_of_some ht hend,
            Attempt.outcome_cons_of_some hend]
          rfl
        · rw [Progress.enter_account hr, walk_cons_of_some ht hend,
            Attempt.history_singleton_of_some hend, Attempt.entries_singleton_of_some hend, hstates,
            Attempt.reached_of_some hend]
          rfl

variable {host dryRun ctx}

theorem run_of_drive {o : Outcome} {w₀ : σ}
    (hd : drive host dryRun ctx (.start w₀) = (o, q))
    (hq : q.account = (Progress.start w₀).account.add h c e w) :
    let r := run host dryRun ctx w₀
    r.report = ⟨.created :: h, c, o, ctx.buildDir⟩ ∧
      r.trace = e ++ [r.report.finished (host.clock w - host.clock w₀)] ∧ r.world = w := by
  have hh : q.history = .created :: h := congrArg Progress.history hq
  have hc : q.commands = c := congrArg Progress.commands hq
  have he : q.entries.filter (!·.isLog) = e := congrArg Progress.entries hq
  have hw : q.world = w := congrArg Progress.world hq
  simp [run, hd, Ended.trace, Report.finished, Progress.log, Progress.emit, hh, hc, he, hw]

theorem run_of_unprepared {reason : String} {w₀ : σ}
    (hp : prepared host dryRun ctx.buildDir w₀ = (.error reason, w)) :
    let r := run host dryRun ctx w₀
    r.report = ⟨[.created, .failed], [], .failed (.io ctx.buildDir reason), ctx.buildDir⟩ ∧
      r.trace = [r.report.finished (host.clock w - host.clock w₀)] ∧ r.world = w := by
  obtain ⟨q, hq, ha⟩ := prepare_spec host dryRun ctx.buildDir (.start w₀)
  rw [Progress.start_world, hp] at hq ha
  refine run_of_drive (q := q.enter .failed) ?_ (Progress.enter_account ha .failed)
  rw [drive_eq, hq]
  rfl

theorem run_of_prepared {w₀ : σ} (hp : prepared host dryRun ctx.buildDir w₀ = (.ok (), w)) :
    let t := walk host dryRun ctx ctx.stages w
    let r := run host dryRun ctx w₀
    r.report = Attempt.report ctx t.1 ∧
      r.trace = Attempt.entries ctx t.1 ++ [r.report.finished (host.clock t.2 - host.clock w₀)] ∧
      r.world = t.2 := by
  obtain ⟨q, hq, ha⟩ := prepare_spec host dryRun ctx.buildDir (.start w₀)
  rw [Progress.start_world, hp] at hq ha
  obtain ⟨r, hr, har⟩ := proceed_account host dryRun ctx ctx.stages
    (Progress.enter_account ha .directoryReady)
  exact run_of_drive (by rw [drive_eq, hq]; exact hr) har

end

def attempts (w : σ) : List Attempt :=
  match prepared host dryRun ctx.buildDir w with
  | (.error _, _) => []
  | (.ok (), w) => (walk host dryRun ctx ctx.stages w).1

/-- What would become of stages that are all come to in order, whatever becomes of each. -/
def interview : List Stage → σ → List Attempt
  | [], _ => []
  | stage :: rest, w =>
    let (a, w) := attempt host dryRun stage (ctx.command stage) w
    a :: interview rest w

theorem interview_mono {stages stages' : List Stage} (h : stages <+: stages') (w : σ) :
    interview host dryRun ctx stages w <+: interview host dryRun ctx stages' w := by
  induction stages generalizing stages' w with
  | nil => exact List.nil_prefix
  | cons stage rest ih =>
    obtain ⟨rest', rfl, hrest⟩ : ∃ l, stages' = stage :: l ∧ rest <+: l := by
      obtain ⟨t, rfl⟩ := h
      exact ⟨rest ++ t, rfl, List.prefix_append rest t⟩
    exact (List.prefix_cons_inj _).2 (ih hrest _)

theorem interview_stage (stages : List Stage) (w : σ) :
    (interview host dryRun ctx stages w).map Attempt.stage = stages := by
  induction stages generalizing w with
  | nil => rfl
  | cons stage rest ih =>
    rcases ht : attempt host dryRun stage (ctx.command stage) w with ⟨a, w'⟩
    rw [interview, ht, List.map_cons, stage_of_attempt ht, ih w']

theorem exists_of_mem_interview {stages : List Stage} {w : σ} {a : Attempt}
    (h : a ∈ interview host dryRun ctx stages w) :
    ∃ stage w', (attempt host dryRun stage (ctx.command stage) w').1 = a := by
  induction stages generalizing w with
  | nil => simp [interview] at h
  | cons stage rest ih =>
    rcases List.mem_cons.1 h with rfl | h
    · exact ⟨stage, w, rfl⟩
    · exact ih h

theorem command_of_mem_interview {stages : List Stage} {w : σ} {a : Attempt}
    (h : a ∈ interview host dryRun ctx stages w) : a.command = ctx.command a.stage := by
  obtain ⟨stage, w', rfl⟩ := exists_of_mem_interview host dryRun ctx h
  rfl

theorem answer_of_mem_interview {stages : List Stage} {w : σ} {a : Attempt}
    (h : a ∈ interview host dryRun ctx stages w) : a.answer = .assumed ↔ dryRun = true := by
  obtain ⟨stage, w', rfl⟩ := exists_of_mem_interview host dryRun ctx h
  exact ask_eq_assumed_iff host dryRun (ctx.command stage) w'

theorem walk_prefix_interview (stages : List Stage) (w : σ) :
    (walk host dryRun ctx stages w).1 <+: interview host dryRun ctx stages w := by
  induction stages generalizing w with
  | nil => exact List.nil_prefix
  | cons stage rest ih =>
    rcases ht : attempt host dryRun stage (ctx.command stage) w with ⟨a, w'⟩
    simp only [interview, ht]
    cases ha : a.ending with
    | none =>
      rw [walk_cons_of_none ht ha]
      exact (List.prefix_cons_inj a).2 (ih w')
    | some o =>
      rw [walk_cons_of_some ht ha]
      exact (List.prefix_cons_inj a).2 List.nil_prefix

theorem attempts_prefix_interview (w : σ) :
    attempts host dryRun ctx w <+:
      interview host dryRun ctx ctx.stages (prepared host dryRun ctx.buildDir w).2 := by
  unfold attempts
  rcases prepared host dryRun ctx.buildDir w with ⟨_ | ⟨⟩, w₁⟩
  · exact List.nil_prefix
  · exact walk_prefix_interview host dryRun ctx ctx.stages w₁

theorem stages_prefix_all : ctx.stages <+: [.generate, .build, .test] := by
  unfold Context.stages
  split
  · exact List.nil_prefix
  · split <;> decide

theorem outcome_of_mem_walk {stages : List Stage} {w : σ} {a : Attempt} {o : Outcome}
    (h : a ∈ (walk host dryRun ctx stages w).1) (ha : a.ending = some o) :
    Attempt.outcome ctx (walk host dryRun ctx stages w).1 = o := by
  induction stages generalizing w with
  | nil => simp [walk] at h
  | cons stage rest ih =>
    rcases ht : attempt host dryRun stage (ctx.command stage) w with ⟨a', w'⟩
    cases ha' : a'.ending with
    | none =>
      rw [walk_cons_of_none ht ha'] at h ⊢
      rw [Attempt.outcome_cons_of_none ha']
      rcases List.mem_cons.1 h with rfl | h
      · simp [ha'] at ha
      · exact ih h
    | some o' =>
      rw [walk_cons_of_some ht ha'] at h ⊢
      obtain rfl := List.mem_singleton.1 h
      exact Attempt.outcome_cons_of_some ha

end Pipeline

end BuildMatrix
