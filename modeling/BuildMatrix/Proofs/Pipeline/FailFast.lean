import BuildMatrix.Proofs.Pipeline.Recorder

namespace BuildMatrix

/-- How a run ends whose first stage that does not pass is the given one, if there is one. -/
def Report.EndsWith (r : Report) : Option Pipeline.Attempt → Prop
  | none => r.exitCode = 0
  | some ⟨stage, c, .ended output, _⟩ =>
    r.exitCode = output.code ∧ output.code ≠ 0 ∧
      r.outcome = if stage = .test then .testRun output
        else .failed (.stageFailed stage c.display output)
  | some ⟨stage, c, .refused reason, _⟩ =>
    r.exitCode = 127 ∧ r.outcome = .failed (.stageFailed stage c.display ⟨127, "", reason⟩)
  | some ⟨_, _, .assumed, _⟩ => False

namespace Pipeline

namespace Attempt

def untilFailure (as : List Attempt) : List Attempt :=
  as.takeWhile passed ++ (as.find? (!·.passed)).toList

section

variable {a : Attempt} {as : List Attempt}

theorem untilFailure_cons_of_passed (h : a.passed = true) :
    untilFailure (a :: as) = a :: untilFailure as := by
  simp [untilFailure, h]

theorem untilFailure_cons_of_failed (h : a.passed = false) : untilFailure (a :: as) = [a] := by
  simp [untilFailure, h]

theorem untilFailure_singleton : untilFailure [a] = [a] := by
  cases h : a.passed <;> simp [untilFailure, h]

theorem untilFailure_of_passed (h : ∀ a ∈ as.dropLast, a.passed = true) :
    untilFailure as = as := by
  induction as with
  | nil => rfl
  | cons a as ih =>
    cases as with
    | nil => exact untilFailure_singleton
    | cons b as =>
      rw [List.dropLast_cons_cons] at h
      rw [untilFailure_cons_of_passed (h a List.mem_cons_self),
        ih fun c hc ↦ h c (List.mem_cons_of_mem a hc)]

theorem mem_untilFailure_of_find? (h : as.find? (!·.passed) = some a) : a ∈ untilFailure as := by
  simp [untilFailure, h]

theorem passed_untilFailure :
    (∀ a ∈ untilFailure as, a.passed = true) ↔ as.find? (!·.passed) = none := by
  constructor
  · intro h
    cases hf : as.find? (!·.passed) with
    | none => rfl
    | some a =>
      have hp : a.passed = false := by simpa using List.find?_some hf
      simp [h a (mem_untilFailure_of_find? hf)] at hp
  · intro h
    have hall : ∀ a ∈ as, a.passed = true := by simpa using h
    rwa [untilFailure_of_passed fun a ha ↦ hall a (List.dropLast_subset as ha)]

theorem ending_of_failed (h : a.passed = false) :
    a.ending = some (if a.stage = .test ∧ a.answer.isRefused = false then .testRun a.output
      else .failed a.error) := by
  rw [ending_eq_some_iff]
  by_cases ht : a.stage = .test ∧ a.answer.isRefused = false
  · exact .inl ⟨ht.1, ht.2, if_pos ht⟩
  · exact .inr ⟨by grind, h, if_neg ht⟩

theorem exitCode_of_passed (h : a.passed = true) {o : Outcome} (ho : a.ending = some o) :
    o.exitCode = 0 := by
  rcases ending_eq_some_iff.1 ho with ⟨-, -, rfl⟩ | ⟨-, hf, -⟩
  · exact passed_iff.1 h
  · simp [h] at hf

theorem outcome_of_passed (ctx : Context) (h : ∀ a ∈ as, a.passed = true) :
    (outcome ctx as).exitCode = 0 := by
  unfold outcome
  cases hf : as.findSome? ending with
  | none => rfl
  | some o =>
    obtain ⟨a, ha, ho⟩ := List.exists_of_findSome?_eq_some hf
    exact exitCode_of_passed (h a ha) ho

theorem exitCode_of_failed {e : Error} (h : a.ending = some (.failed e)) : e.exitCode ≠ 0 := by
  rcases ending_eq_some_iff.1 h with ⟨-, -, he⟩ | ⟨-, hf, he⟩
  · simp at he
  · obtain rfl : e = a.error := by simpa using he
    intro hcode
    simp [passed_iff.2 hcode] at hf

theorem outcome_ne_zero (ctx : Context) {e : Error} (h : outcome ctx as = .failed e) :
    e.exitCode ≠ 0 := by
  unfold outcome at h
  cases hf : as.findSome? ending with
  | none => simp [hf] at h
  | some o =>
    obtain ⟨a, -, ho⟩ := List.exists_of_findSome?_eq_some hf
    obtain rfl : o = .failed e := by simpa [hf] using h
    exact exitCode_of_failed ho

end

end Attempt

variable {σ : Type} (host : Host σ) (dryRun : Bool) (ctx : Context)

theorem walk_eq_untilFailure {stages : List Stage} (h : .test ∉ stages.dropLast) (w : σ) :
    (walk host dryRun ctx stages w).1 =
      Attempt.untilFailure (interview host dryRun ctx stages w) := by
  induction stages generalizing w with
  | nil => rfl
  | cons stage rest ih =>
    rcases ht : attempt host dryRun stage (ctx.command stage) w with ⟨a, w'⟩
    have hs : a.stage = stage := stage_of_attempt ht
    simp only [interview, ht]
    cases rest with
    | nil => rw [walk_singleton ht, interview, Attempt.untilFailure_singleton]
    | cons stage' rest =>
      rw [List.dropLast_cons_cons, List.mem_cons, not_or] at h
      have hend := Attempt.ending_of_ne_test (hs ▸ Ne.symm h.1)
      cases hp : a.passed with
      | true =>
        rw [hp] at hend
        rw [walk_cons_of_none ht hend, Attempt.untilFailure_cons_of_passed hp, ih h.2]
      | false =>
        rw [hp] at hend
        rw [walk_cons_of_some ht hend, Attempt.untilFailure_cons_of_failed hp]

theorem test_not_mem_dropLast : Stage.test ∉ ctx.stages.dropLast := by
  unfold Context.stages
  split
  · decide
  · split <;> decide

theorem attempts_of_unprepared {w w₁ : σ} {reason : String}
    (hp : prepared host dryRun ctx.buildDir w = (.error reason, w₁)) :
    attempts host dryRun ctx w = [] := by
  simp [attempts, hp]

theorem attempts_of_prepared {w w₁ : σ}
    (hp : prepared host dryRun ctx.buildDir w = (.ok (), w₁)) :
    attempts host dryRun ctx w =
      Attempt.untilFailure (interview host dryRun ctx ctx.stages w₁) := by
  rw [← walk_eq_untilFailure host dryRun ctx (test_not_mem_dropLast ctx), attempts, hp]

theorem outcome_of_find? {w : σ} {a : Attempt}
    (h : (interview host dryRun ctx ctx.stages w).find? (!·.passed) = some a) :
    Attempt.outcome ctx (walk host dryRun ctx ctx.stages w).1 =
      if a.stage = .test ∧ a.answer.isRefused = false then .testRun a.output
      else .failed a.error := by
  refine outcome_of_mem_walk host dryRun ctx (a := a) ?_ (Attempt.ending_of_failed ?_)
  · rw [walk_eq_untilFailure host dryRun ctx (test_not_mem_dropLast ctx)]
    exact Attempt.mem_untilFailure_of_find? h
  · simpa using List.find?_some h

theorem outcome_of_find?_eq_none {w : σ}
    (h : (interview host dryRun ctx ctx.stages w).find? (!·.passed) = none) :
    (Attempt.outcome ctx (walk host dryRun ctx ctx.stages w).1).exitCode = 0 := by
  rw [walk_eq_untilFailure host dryRun ctx (test_not_mem_dropLast ctx)]
  exact Attempt.outcome_of_passed ctx (Attempt.passed_untilFailure.2 h)

theorem answer_ne_assumed {stages : List Stage} {w : σ} {a : Attempt}
    (h : a ∈ interview host false ctx stages w) : a.answer ≠ .assumed :=
  fun ha ↦ Bool.false_ne_true ((answer_of_mem_interview host false ctx h).1 ha)

theorem interview_walk (stages : List Stage) (w : σ) :
    interview host dryRun ctx ((walk host dryRun ctx stages w).1.map Attempt.stage) w =
      (walk host dryRun ctx stages w).1 := by
  induction stages generalizing w with
  | nil => rfl
  | cons stage rest ih =>
    rcases ht : attempt host dryRun stage (ctx.command stage) w with ⟨a, w'⟩
    obtain rfl : a.stage = stage := stage_of_attempt ht
    cases ha : a.ending with
    | none => simp [walk_cons_of_none ht ha, interview, ht, ih]
    | some o => simp [walk_cons_of_some ht ha, interview, ht]

/-- A host that gives the answers of another to the commands that this one was given is given no
other commands. -/
theorem walk_congr {τ : Type} (host' : Host τ) {stages : List Stage} {w : σ} {w' : τ}
    (h : (interview host' dryRun ctx ((walk host dryRun ctx stages w).1.map Attempt.stage) w').map
      Attempt.answer = (walk host dryRun ctx stages w).1.map Attempt.answer) :
    (walk host' dryRun ctx stages w').1.map Attempt.untimed =
      (walk host dryRun ctx stages w).1.map Attempt.untimed := by
  induction stages generalizing w w' with
  | nil => rfl
  | cons stage rest ih =>
    rcases ht : attempt host dryRun stage (ctx.command stage) w with ⟨a, v⟩
    rcases ht' : attempt host' dryRun stage (ctx.command stage) w' with ⟨a', v'⟩
    have hs : a.stage = stage := stage_of_attempt ht
    have hsame (h : a'.answer = a.answer) : a'.untimed = a.untimed := by
      rw [Attempt.untimed, Attempt.untimed, h, hs, stage_of_attempt ht', command_of_attempt ht,
        command_of_attempt ht']
    -- The same answer ends both runs or none.
    cases ha : a.ending with
    | none =>
      rw [walk_cons_of_none ht ha] at h ⊢
      simp only [List.map_cons, hs, interview, ht', List.cons.injEq] at h
      have hu := hsame h.1
      have ha' : a'.ending = none := by
        rw [← Attempt.ending_untimed, hu, Attempt.ending_untimed, ha]
      rw [walk_cons_of_none ht' ha', List.map_cons, List.map_cons, hu, ih h.2]
    | some o =>
      rw [walk_cons_of_some ht ha] at h ⊢
      simp only [List.map_cons, hs, interview, ht', List.cons.injEq] at h
      have hu := hsame h.1
      have ha' : a'.ending = some o := by
        rw [← Attempt.ending_untimed, hu, Attempt.ending_untimed, ha]
      rw [walk_cons_of_some ht' ha', List.map_singleton, List.map_singleton, hu]

def answers (stages : List Stage) (w : σ) : List Answer :=
  (interview host dryRun ctx stages (prepared host dryRun ctx.buildDir w).2).map Attempt.answer

theorem attempts_congr {τ : Type} (host' : Host τ) {w : σ} {w' : τ}
    (hp : (prepared host' dryRun ctx.buildDir w').1 = (prepared host dryRun ctx.buildDir w).1)
    (ha : let stages := (attempts host dryRun ctx w).map Attempt.stage
      answers host' dryRun ctx stages w' = answers host dryRun ctx stages w) :
    (attempts host' dryRun ctx w').map Attempt.untimed =
      (attempts host dryRun ctx w).map Attempt.untimed := by
  rcases h : prepared host dryRun ctx.buildDir w with ⟨reason | ⟨⟩, w₁⟩ <;>
    rcases h' : prepared host' dryRun ctx.buildDir w' with ⟨reason' | ⟨⟩, w₁'⟩ <;>
    simp only [h, h', reduceCtorEq] at hp
  · simp [attempts, h, h']
  · simp only [answers, attempts, h, h', interview_walk] at ha ⊢
    exact walk_congr host dryRun ctx host' ha

theorem prepared_of_error {dir : Path} {reason : String} {w w₁ : σ}
    (h : host.ensureDirectory dir w = (.error reason, w₁)) :
    prepared host false dir w = (.error reason, w₁) := by
  simp [prepared, h]

theorem prepared_of_ok {dir made : Path} {w w₁ : σ}
    (h : host.ensureDirectory dir w = (.ok made, w₁)) :
    prepared host false dir w = (.ok (), w₁) := by
  simp [prepared, h]

theorem run_of_unready {reason : String} {w w₁ : σ}
    (h : host.ensureDirectory ctx.buildDir w = (.error reason, w₁)) :
    let r := run host false ctx w
    r.calls = [] ∧ r.report.commands = [] ∧
      r.report.outcome = .failed (.io ctx.buildDir reason) ∧ r.report.exitCode = 1 := by
  intro r
  have hp := prepared_of_error host h
  obtain ⟨hr, -, -⟩ := run_of_unprepared hp
  refine ⟨?_, ?_, congrArg Report.outcome hr, congrArg Report.exitCode hr⟩
  · rw [run_calls, attempts_of_unprepared host false ctx hp]
    rfl
  · rw [run_commands, attempts_of_unprepared host false ctx hp]
    rfl

theorem calls_of_ready {made : Path} {w w₁ : σ}
    (h : host.ensureDirectory ctx.buildDir w = (.ok made, w₁)) :
    (run host false ctx w).calls =
      (Attempt.untilFailure (interview host false ctx ctx.stages w₁)).map Attempt.command := by
  rw [run_calls, attempts_of_prepared host false ctx (prepared_of_ok host h),
    ← walk_eq_untilFailure host false ctx (test_not_mem_dropLast ctx)]
  exact Attempt.filterMap_call? fun a ha ↦
    answer_ne_assumed host ctx ((walk_prefix_interview host false ctx _ _).subset ha)

/-- The first stage that does not pass decides how a run ends. -/
theorem outcome_of_ready {made : Path} {w w₁ : σ}
    (h : host.ensureDirectory ctx.buildDir w = (.ok made, w₁)) :
    (run host false ctx w).report.EndsWith
      ((interview host false ctx ctx.stages w₁).find? (!·.passed)) := by
  have hp := prepared_of_ok host h
  obtain ⟨hr, -, -⟩ := run_of_prepared hp
  generalize (run host false ctx w).report = r at hr ⊢
  have hcode : r.exitCode = r.outcome.exitCode := rfl
  have hout : r.outcome = Attempt.outcome ctx (walk host false ctx ctx.stages w₁).1 :=
    congrArg Report.outcome hr
  cases hf : (interview host false ctx ctx.stages w₁).find? (!·.passed) with
  | none =>
    rw [Report.EndsWith, hcode, hout]
    exact outcome_of_find?_eq_none host false ctx hf
  | some a =>
    rw [outcome_of_find? host false ctx hf] at hout
    have hpassed : a.passed = false := by simpa using List.find?_some hf
    rcases a with ⟨stage, c, _ | output | reason, n⟩
    · exact absurd rfl (answer_ne_assumed host ctx (List.mem_of_find?_eq_some hf))
    · have hne : output.code ≠ 0 := by simpa [StageOutput.success] using hpassed
      have hout : r.outcome = if stage = .test then .testRun output
          else .failed (.stageFailed stage c.display output) := by
        simpa [Answer.isRefused, Attempt.error, Attempt.output, Answer.output] using hout
      refine ⟨?_, hne, hout⟩
      rw [hcode, hout]
      split <;> rfl
    · have hout : r.outcome = .failed (.stageFailed stage c.display ⟨127, "", reason⟩) :=
        hout.trans (if_neg (by simp [Answer.isRefused]))
      exact ⟨by rw [hcode, hout]; rfl, hout⟩

theorem exitCode_ne_zero_of_outcome (w : σ) {e : Error}
    (h : (run host dryRun ctx w).report.outcome = .failed e) :
    (run host dryRun ctx w).report.exitCode ≠ 0 := by
  rw [Report.exitCode, h]
  rcases hp : prepared host dryRun ctx.buildDir w with ⟨reason | ⟨⟩, w₁⟩
  · obtain ⟨hr, -, -⟩ := run_of_unprepared hp
    rw [hr] at h
    obtain rfl : Error.io ctx.buildDir reason = e := by simpa using h
    exact Int.one_ne_zero
  · obtain ⟨hr, -, -⟩ := run_of_prepared hp
    rw [hr] at h
    exact Attempt.outcome_ne_zero ctx h

theorem success_iff (w : σ) :
    (run host false ctx w).report.success = true ↔
      (host.ensureDirectory ctx.buildDir w).1.isOk = true ∧
        ∀ a ∈ attempts host false ctx w, a.passed = true := by
  rw [Report.success, beq_iff_eq]
  rcases h : host.ensureDirectory ctx.buildDir w with ⟨reason | made, w₁⟩
  · simp [(run_of_unready host ctx h).2.2.2, Except.isOk, Except.toBool]
  · rw [attempts_of_prepared host false ctx (prepared_of_ok host h), Attempt.passed_untilFailure]
    have hout := outcome_of_ready host ctx h
    cases hf : (interview host false ctx ctx.stages w₁).find? (!·.passed) with
    | none =>
      rw [hf] at hout
      simpa [Except.isOk, Except.toBool, Report.EndsWith] using hout
    | some a =>
      rw [hf] at hout
      rcases a with ⟨stage, c, _ | output | reason, n⟩
      · exact hout.elim
      · simp [hout.1, hout.2.1]
      · simp [hout.1]

theorem run_congr_answers {τ : Type} (host' : Host τ) {w : σ} {w' : τ}
    (hp : (prepared host' dryRun ctx.buildDir w').1 = (prepared host dryRun ctx.buildDir w).1)
    (ha : let stages := (run host dryRun ctx w).report.commands.map Prod.fst
      answers host' dryRun ctx stages w' = answers host dryRun ctx stages w) :
    let r := run host dryRun ctx w
    let r' := run host' dryRun ctx w'
    r'.report = r.report ∧ r'.calls = r.calls ∧
      r'.events.map Event.untimed = r.events.map Event.untimed := by
  intro r r'
  have hstages : r.report.commands.map Prod.fst =
      (attempts host dryRun ctx w).map Attempt.stage := by
    rw [run_commands, List.map_map]
    rfl
  rw [hstages] at ha
  obtain ⟨hr, ht⟩ := run_congr host dryRun ctx host' hp
    (attempts_congr host dryRun ctx host' hp ha)
  refine ⟨hr, ?_, ?_⟩
  · rw [Ended.calls_of_untimed, Ended.calls_of_untimed, ht]
  · rw [Ended.untimed_events, Ended.untimed_events, ht]

theorem prepared_fst_congr {τ : Type} (host' : Host τ) {dir : Path} {w : σ} {w' : τ}
    (h : (host'.ensureDirectory dir w').1 = (host.ensureDirectory dir w).1) :
    (prepared host' false dir w').1 = (prepared host false dir w).1 := by
  rcases hd : host.ensureDirectory dir w with ⟨_ | _, _⟩ <;>
    rcases hd' : host'.ensureDirectory dir w' with ⟨_ | _, _⟩ <;> simp_all [prepared]

/-- A run hands over its commands in order up to the first that does not end with code 0, and ends
with that code. -/
theorem run_untilFailure {σ : Type} (host : Host σ) (ctx : Context) (w : σ) :
    let r := run host false ctx w
    (run host.recorded false ctx (w, [])).world = (r.world, r.calls) ∧
      (match host.ensureDirectory ctx.buildDir w with
      | (.error reason, _) =>
        r.calls = [] ∧ r.report.commands = [] ∧
          r.report.outcome = .failed (.io ctx.buildDir reason) ∧ r.report.exitCode = 1
      | (.ok _, w₁) =>
        let asked := interview host false ctx ctx.stages w₁
        r.calls = (Attempt.untilFailure asked).map Attempt.command ∧
          r.report.commands = (Attempt.untilFailure asked).map Attempt.issued ∧
          r.report.EndsWith (asked.find? (!·.passed))) ∧
      (∀ e, r.report.outcome = .failed e → r.report.exitCode ≠ 0) ∧
      (r.report.success = true ↔ (host.ensureDirectory ctx.buildDir w).1.isOk = true ∧
        ∀ a ∈ attempts host false ctx w, a.passed = true) ∧
      ∀ {τ : Type} (host' : Host τ) (w' : τ),
        let stages := r.report.commands.map Prod.fst
        let r' := run host' false ctx w'
        (host'.ensureDirectory ctx.buildDir w').1 = (host.ensureDirectory ctx.buildDir w).1 →
          answers host' false ctx stages w' = answers host false ctx stages w →
          r'.report = r.report ∧ r'.calls = r.calls ∧
            r'.events.map Event.untimed = r.events.map Event.untimed := by
  intro r
  refine ⟨(run_recorded host false ctx w).2.2, ?_,
    fun e ↦ exitCode_ne_zero_of_outcome host false ctx w, success_iff host ctx w,
    fun host' w' hp ha ↦
      run_congr_answers host false ctx host' (prepared_fst_congr host host' hp) ha⟩
  rcases h : host.ensureDirectory ctx.buildDir w with ⟨reason | made, w₁⟩
  · exact run_of_unready host ctx h
  · refine ⟨calls_of_ready host ctx h, ?_, outcome_of_ready host ctx h⟩
    rw [run_commands, attempts_of_prepared host false ctx (prepared_of_ok host h)]

end Pipeline

end BuildMatrix
