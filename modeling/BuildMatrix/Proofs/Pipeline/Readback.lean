import BuildMatrix.CommandLine.Commands
import BuildMatrix.Proofs.Pipeline.DryRun
import BuildMatrix.Proofs.Pipeline.EventLog

namespace BuildMatrix

abbrev Captured := Stage × String × StageOutput

namespace Event

/-- The states that an event shows a run to have come to. The state in which a stage ends a run is
shown by the last event only. -/
def states : Event → List State
  | stageStarted stage _ _ => stage.entered
  | stageFinished stage code _ => if stage ≠ .test ∧ code = 0 then [stage.reached] else []
  | pipelineFinished state _ _ _ => [state]
  | _ => []

def issued : Event → List (Stage × String)
  | stageStarted stage command _ => [(stage, command)]
  | _ => []

def captured : Event → List Captured
  | stageOutput stage command output => [(stage, command, output)]
  | _ => []

def skips : Event → List SkipReason
  | pipelineSkipped reason => [reason]
  | _ => []

end Event

namespace Outcome

/-- The outcome that events tell of. An error that no stage made has left no words in them. -/
def ofEvents (es : List Event) : Outcome :=
  match (es.flatMap Event.states).getLast?, es.flatMap Event.captured with
  | some .skipped, _ => .skipped ((es.flatMap Event.skips).headD .crossCompiled)
  | some .testRun, captured => .testRun (captured.head?.elim .silent fun c ↦ c.2.2)
  | _, (stage, command, output) :: _ => .failed (.stageFailed stage command output)
  | _, [] => .failed (.io ⟨[]⟩ "")

def told : Outcome → Outcome
  | failed (.io _ _) => failed (.io ⟨[]⟩ "")
  | o => o

def events : Outcome → List Event
  | skipped reason => [.pipelineSkipped reason]
  | _ => []

theorem entries_event? (o : Outcome) : o.entries.filterMap Pipeline.Entry.event? = o.events := by
  cases o <;> rfl

@[simp] theorem events_states (o : Outcome) : o.events.flatMap Event.states = [] := by
  cases o <;> rfl

@[simp] theorem events_issued (o : Outcome) : o.events.flatMap Event.issued = [] := by
  cases o <;> rfl

@[simp] theorem events_captured (o : Outcome) : o.events.flatMap Event.captured = [] := by
  cases o <;> rfl

section

variable {es : List Event}

theorem ofEvents_skipped {reason : SkipReason}
    (hs : (es.flatMap Event.states).getLast? = some .skipped)
    (hk : es.flatMap Event.skips = [reason]) : ofEvents es = .skipped reason := by
  simp [ofEvents, hs, hk]

theorem ofEvents_testRun (hs : (es.flatMap Event.states).getLast? = some .testRun) :
    ofEvents es =
      .testRun ((es.flatMap Event.captured).head?.elim .silent fun c ↦ c.2.2) := by
  simp [ofEvents, hs]

theorem ofEvents_failed {c : Captured} (hs : (es.flatMap Event.states).getLast? = some .failed)
    (hc : es.flatMap Event.captured = [c]) :
    ofEvents es = .failed (.stageFailed c.1 c.2.1 c.2.2) := by
  simp [ofEvents, hs, hc]

end

theorem exitCode_told (o : Outcome) : o.told.exitCode = o.exitCode := by
  rcases o with _ | _ | ⟨_ | _ | _ | _ | _ | _⟩ <;> rfl

end Outcome

namespace Report

def ofEvents (es : List Event) : Report where
  history := .created :: (if es.length = 1 then [] else [.directoryReady]) ++
    es.flatMap Event.states
  commands := es.flatMap Event.issued
  outcome := .ofEvents es
  buildDir := ⟨[]⟩

def told (r : Report) : Report := { r with outcome := r.outcome.told, buildDir := ⟨[]⟩ }

def captured (r : Report) : List Captured :=
  match r.outcome with
  | .testRun output => (r.commands.getLast?.map fun c ↦ (c.1, c.2, output)).toList
  | .failed (.stageFailed stage command output) => [(stage, command, output)]
  | _ => []

end Report

namespace Pipeline

namespace Attempt

def events (a : Attempt) : List Event := a.block.filterMap Entry.event?

/-- A stage tells of its command, then of its end unless it was refused, and then of its output if
that is to be told. -/
theorem events_eq (a : Attempt) : a.events =
    .stageStarted a.stage a.command.display a.command.cwd ::
      ((if a.answer.isRefused then [] else [.stageFinished a.stage a.output.code a.elapsed]) ++
        if a.answer ≠ .assumed ∧ a.tells = true then
          [.stageOutput a.stage a.command.display a.output]
        else []) := by
  rcases a with ⟨stage, c, _ | output | reason, n⟩
  · rfl
  · cases h : tells ⟨stage, c, .ended output, n⟩ <;> simp only [events, block, h] <;> rfl
  · have htells : tells ⟨stage, c, .refused reason, n⟩ = true := by simp [tells]
    simp only [htells]
    rfl

theorem events_issued (a : Attempt) : a.events.flatMap Event.issued = [a.issued] := by
  rw [events_eq]
  split <;> split <;> rfl

theorem events_skips (a : Attempt) : a.events.flatMap Event.skips = [] := by
  rw [events_eq]
  split <;> split <;> rfl

theorem events_captured (a : Attempt) : a.events.flatMap Event.captured =
    if a.answer ≠ .assumed ∧ a.tells = true then [(a.stage, a.command.display, a.output)]
    else [] := by
  rw [events_eq]
  split <;> split <;> rfl

theorem ending_eq_none_iff {a : Attempt} :
    a.ending = none ↔ a.stage ≠ .test ∧ a.passed = true := by
  constructor
  · intro h
    have hs := stage_ne_test_of_none h
    rw [ending_of_ne_test hs] at h
    exact ⟨hs, by simpa using h⟩
  · rintro ⟨hs, hp⟩
    simp [ending_of_ne_test hs, hp]

/-- The events of a stage show the states that it goes through, but for the one in which it ends
the run. -/
theorem events_states (a : Attempt) : a.events.flatMap Event.states =
    a.stage.entered ++ if a.ending.isNone then [a.stage.reached] else [] := by
  have hnone : a.ending.isNone = true ↔ a.stage ≠ .test ∧ a.output.code = 0 := by
    rw [Option.isNone_iff_eq_none, ending_eq_none_iff, passed_iff]
  have hcode (hr : a.answer.isRefused = true) : a.output.code ≠ 0 := by
    intro hzero
    have hp := passed_of_isRefused hr
    rw [passed_iff.2 hzero] at hp
    exact Bool.noConfusion hp
  have htold : List.flatMap Event.states (if a.answer ≠ .assumed ∧ a.tells = true then
      [.stageOutput a.stage a.command.display a.output] else []) = [] := by
    split <;> rfl
  rw [events_eq, List.flatMap_cons, List.flatMap_append, htold, List.append_nil]
  simp only [hnone]
  cases hr : a.answer.isRefused with
  | true => simp [Event.states, hcode hr]
  | false => simp [Event.states]

theorem observe_passed {as : List Attempt} (h : ∀ a ∈ as, a.ending = none) :
    (as.flatMap events).flatMap Event.states = as.flatMap states ∧
      (as.flatMap events).flatMap Event.captured = [] := by
  induction as with
  | nil => exact ⟨rfl, rfl⟩
  | cons a as ih =>
    obtain ⟨hstates, hcaptured⟩ := ih fun b hb ↦ h b (List.mem_cons_of_mem a hb)
    have ha := h a List.mem_cons_self
    obtain ⟨hs, hp⟩ := ending_eq_none_iff.1 ha
    constructor
    · rw [List.flatMap_cons, List.flatMap_append, List.flatMap_cons, hstates, events_states, ha,
        states, reached_of_none ha]
      rfl
    · rw [List.flatMap_cons, List.flatMap_append, hcaptured, events_captured]
      simp [tells, hs, hp]

theorem observe_issued (as : List Attempt) :
    (as.flatMap events).flatMap Event.issued = as.map issued := by
  induction as with
  | nil => rfl
  | cons a as ih => rw [List.flatMap_cons, List.flatMap_append, ih, events_issued]; rfl

theorem observe_skips (as : List Attempt) : (as.flatMap events).flatMap Event.skips = [] := by
  induction as with
  | nil => rfl
  | cons a as ih => rw [List.flatMap_cons, List.flatMap_append, ih, events_skips]; rfl

theorem outcome_append_of_passed {ctx : Context} {as : List Attempt}
    (h : ∀ a ∈ as, a.ending = none) (bs : List Attempt) :
    outcome ctx (as ++ bs) = outcome ctx bs := by
  induction as with
  | nil => rfl
  | cons a as ih =>
    rw [List.cons_append, outcome_cons_of_none (h a List.mem_cons_self),
      ih fun b hb ↦ h b (List.mem_cons_of_mem a hb)]

section

variable {ctx : Context} {front : List Attempt} {a : Attempt} {o : Outcome}

theorem outcome_of_last (h : ∀ b ∈ front, b.ending = none) (ha : a.ending = some o) :
    outcome ctx (front ++ [a]) = o := by
  rw [outcome_append_of_passed h, outcome_cons_of_some ha]

theorem history_of_last (h : ∀ b ∈ front, b.ending = none) (ha : a.ending = some o) :
    ((front ++ [a]).flatMap events).flatMap Event.states ++ [o.state] =
      history ctx (front ++ [a]) := by
  rw [history, outcome_of_last h ha, history_of_ending ha, List.flatMap_append, List.flatMap_append,
    (observe_passed h).1, List.flatMap_singleton, events_states, ha, List.flatMap_append,
    List.flatMap_singleton, states, reached_of_some ha]
  simp

theorem captured_of_last (h : ∀ b ∈ front, b.ending = none) (ha : a.ending = some o) :
    ((front ++ [a]).flatMap events).flatMap Event.captured =
      if a.answer = .assumed then [] else [(a.stage, a.command.display, a.output)] := by
  have htells : a.tells = true := by
    rcases ending_eq_some_iff.1 ha with ⟨hs, -, -⟩ | ⟨-, hp, -⟩ <;> simp [tells, *]
  rw [List.flatMap_append, List.flatMap_append, (observe_passed h).2, List.flatMap_singleton,
    events_captured, htells]
  by_cases hanswer : a.answer = .assumed <;> simp [hanswer]

theorem report_captured_of_last (h : ∀ b ∈ front, b.ending = none) (ha : a.ending = some o) :
    (report ctx (front ++ [a])).captured = [(a.stage, a.command.display, a.output)] := by
  have ho : (report ctx (front ++ [a])).outcome = o := outcome_of_last h ha
  have hlast : (report ctx (front ++ [a])).commands.getLast? = some a.issued := by
    simp [report]
  rw [Report.captured, ho, hlast]
  rcases ending_eq_some_iff.1 ha with ⟨hs, -, rfl⟩ | ⟨-, -, rfl⟩ <;> rfl

theorem outcome_of_none (h : ∀ b ∈ front, b.ending = none) :
    outcome ctx front = .skipped (ctx.skip.getD .crossCompiled) := by
  rw [← List.append_nil front, outcome_append_of_passed h]
  rfl

theorem output_of_assumed (h : a.answer = .assumed) : a.output = .silent := by
  rw [output, h]
  rfl

theorem length_ne_one {es : List Event} {e : Event} (h : es ≠ []) : (es ++ [e]).length ≠ 1 := by
  have hpos := List.length_pos_iff.2 h
  rw [List.length_append, List.length_singleton]
  omega

theorem ofEvents_of_none {success : Bool} {code : Int} {elapsed : Nat}
    (h : ∀ b ∈ front, b.ending = none) :
    Report.ofEvents (front.flatMap events ++ (outcome ctx front).events ++
        [.pipelineFinished (outcome ctx front).state success code elapsed]) =
      (report ctx front).told := by
  have ho : outcome ctx front = .skipped (ctx.skip.getD .crossCompiled) := outcome_of_none h
  have hstates := (observe_passed h).1
  have hne : front.flatMap events ++ (outcome ctx front).events ≠ [] := by
    simp [ho, Outcome.events]
  have houtcome : Outcome.ofEvents (front.flatMap events ++ (outcome ctx front).events ++
      [.pipelineFinished (outcome ctx front).state success code elapsed]) = outcome ctx front := by
    rw [ho]
    apply Outcome.ofEvents_skipped
    · simp [Event.states, Outcome.state]
    · rw [List.flatMap_append, List.flatMap_append, observe_skips]
      rfl
  rw [Report.ofEvents, houtcome, if_neg (length_ne_one hne), List.flatMap_append,
    List.flatMap_append, List.flatMap_append, List.flatMap_append, hstates, observe_issued]
  simp [Report.told, report, history, ho, Outcome.told, Outcome.history, Outcome.state,
    Event.states, Event.issued]

theorem ofEvents_of_last {success : Bool} {code : Int} {elapsed : Nat}
    (h : ∀ b ∈ front, b.ending = none) (ha : a.ending = some o) :
    Report.ofEvents ((front ++ [a]).flatMap events ++ (outcome ctx (front ++ [a])).events ++
        [.pipelineFinished (outcome ctx (front ++ [a])).state success code elapsed]) =
      (report ctx (front ++ [a])).told := by
  have ho : outcome ctx (front ++ [a]) = o := outcome_of_last h ha
  have hevents : o.events = [] := by
    rw [← Outcome.entries_event?, entries_of_ending ha]
    rfl
  have htold : o.told = o := by
    rcases ending_eq_some_iff.1 ha with ⟨-, -, rfl⟩ | ⟨-, -, rfl⟩ <;> rfl
  have hne : (front ++ [a]).flatMap events ≠ [] := by
    simp [events_eq]
  have hhistory : ((front ++ [a]).flatMap events).flatMap Event.states ++ [o.state] =
      history ctx (front ++ [a]) := history_of_last h ha
  have hcaptured := captured_of_last h ha
  rw [ho, hevents, List.append_nil]
  generalize hes : (front ++ [a]).flatMap events = es at hne hhistory hcaptured ⊢
  let last : Event := .pipelineFinished o.state success code elapsed
  have hlast : ((es ++ [last]).flatMap Event.states).getLast? = some o.state := by
    simp [last, Event.states]
  have htells : (es ++ [last]).flatMap Event.captured =
      if a.answer = .assumed then [] else [(a.stage, a.command.display, a.output)] := by
    rw [List.flatMap_append, hcaptured]
    simp [last, Event.captured]
  -- The last state tells how the stage ended the run, and its output the rest of the outcome.
  have houtcome : Outcome.ofEvents (es ++ [last]) = o := by
    rcases ending_eq_some_iff.1 ha with ⟨-, -, rfl⟩ | ⟨-, hp, rfl⟩
    · rw [Outcome.ofEvents_testRun hlast, htells]
      by_cases hanswer : a.answer = .assumed
      · simp [hanswer, output_of_assumed hanswer]
      · simp [hanswer]
    · have hanswer : a.answer ≠ .assumed := by
        intro hanswer
        rw [passed, output_of_assumed hanswer] at hp
        exact Bool.noConfusion hp
      rw [if_neg hanswer] at htells
      exact Outcome.ofEvents_failed hlast htells
  rw [Report.ofEvents, houtcome, if_neg (length_ne_one hne), List.flatMap_append,
    List.flatMap_append, List.flatMap_singleton, List.flatMap_singleton, Report.told, report, ho,
    htold, ← hhistory, ← hes, observe_issued]
  simp [Event.states, Event.issued]

end

end Attempt

variable {σ : Type} (host : Host σ) (dryRun : Bool) (ctx : Context)

theorem walk_cases (stages : List Stage) (w : σ) :
    let as := (walk host dryRun ctx stages w).1
    (∀ a ∈ as, a.ending = none) ∨
      ∃ front a o, as = front ++ [a] ∧ (∀ b ∈ front, b.ending = none) ∧ a.ending = some o := by
  induction stages generalizing w with
  | nil => exact .inl (by simp [walk])
  | cons stage rest ih =>
    rcases ht : attempt host dryRun stage (ctx.command stage) w with ⟨a, w'⟩
    cases ha : a.ending with
    | none =>
      rw [walk_cons_of_none ht ha]
      rcases ih w' with h | ⟨front, b, o, hb, hfront, hend⟩
      · exact .inl (List.forall_mem_cons.2 ⟨ha, h⟩)
      · exact .inr ⟨a :: front, b, o, by rw [hb]; rfl, List.forall_mem_cons.2 ⟨ha, hfront⟩, hend⟩
    | some o =>
      rw [walk_cons_of_some ht ha]
      exact .inr ⟨[], a, o, rfl, by simp, ha⟩

theorem run_events (w : σ) : ∃ elapsed, (run host dryRun ctx w).events =
    (attempts host dryRun ctx w).flatMap Attempt.events ++
      (run host dryRun ctx w).report.outcome.events ++
      [.pipelineFinished (run host dryRun ctx w).report.outcome.state
        (run host dryRun ctx w).report.success (run host dryRun ctx w).report.exitCode
        elapsed] := by
  refine ⟨host.clock (run host dryRun ctx w).world - host.clock w, ?_⟩
  rw [Ended.events_eq, run_trace, List.filterMap_append, List.filterMap_append,
    Outcome.entries_event?, List.filterMap_flatMap, ← run_state]
  rfl

section

variable {host dryRun ctx} {w w₁ : σ}

theorem events_of_unprepared {reason : String}
    (hp : prepared host dryRun ctx.buildDir w = (.error reason, w₁)) :
    ∃ success code elapsed,
      (run host dryRun ctx w).events = [.pipelineFinished .failed success code elapsed] := by
  obtain ⟨elapsed, h⟩ := run_events host dryRun ctx w
  rw [attempts_of_unprepared host dryRun ctx hp, (run_of_unprepared hp).1] at h
  exact ⟨_, _, _, h⟩

theorem events_of_prepared (hp : prepared host dryRun ctx.buildDir w = (.ok (), w₁)) :
    let as := (walk host dryRun ctx ctx.stages w₁).1
    ∃ success code elapsed, (run host dryRun ctx w).events =
      as.flatMap Attempt.events ++ (Attempt.outcome ctx as).events ++
        [.pipelineFinished (Attempt.outcome ctx as).state success code elapsed] := by
  obtain ⟨elapsed, h⟩ := run_events host dryRun ctx w
  rw [attempts, hp, (run_of_prepared hp).1] at h
  exact ⟨_, _, _, h⟩

theorem assumed_of_mem_walk {stages : List Stage} {a : Attempt}
    (h : a ∈ (walk host dryRun ctx stages w).1) : a.answer = .assumed ↔ dryRun = true :=
  answer_of_mem_interview host dryRun ctx ((walk_prefix_interview host dryRun ctx _ _).subset h)

/-- The report of a run is read back from its events. -/
theorem ofEvents_events (w : σ) :
    Report.ofEvents (run host dryRun ctx w).events = (run host dryRun ctx w).report.told := by
  rcases hp : prepared host dryRun ctx.buildDir w with ⟨reason | ⟨⟩, w₁⟩
  · obtain ⟨success, code, elapsed, hevents⟩ := events_of_unprepared hp
    rw [hevents, (run_of_unprepared hp).1]
    rfl
  · obtain ⟨success, code, elapsed, hevents⟩ := events_of_prepared hp
    rw [hevents, (run_of_prepared hp).1]
    rcases walk_cases host dryRun ctx ctx.stages w₁ with h | ⟨front, a, o, has, hfront, ha⟩
    · exact Attempt.ofEvents_of_none h
    · rw [has]
      exact Attempt.ofEvents_of_last hfront ha

/-- The output that the events of a run carry is what its report holds, if anything was run. -/
theorem captured_events (w : σ) : (run host dryRun ctx w).events.flatMap Event.captured =
    if dryRun then [] else (run host dryRun ctx w).report.captured := by
  rcases hp : prepared host dryRun ctx.buildDir w with ⟨reason | ⟨⟩, w₁⟩
  · obtain ⟨success, code, elapsed, hevents⟩ := events_of_unprepared hp
    rw [hevents, (run_of_unprepared hp).1]
    cases dryRun <;> rfl
  · obtain ⟨success, code, elapsed, hevents⟩ := events_of_prepared hp
    rw [hevents, (run_of_prepared hp).1, List.flatMap_append, List.flatMap_append,
      Outcome.events_captured]
    rcases walk_cases host dryRun ctx ctx.stages w₁ with h | ⟨front, a, o, has, hfront, ha⟩
    · rw [(Attempt.observe_passed h).2, Report.captured, Attempt.report,
        Attempt.outcome_of_none h]
      simp [Event.captured]
    · have hmem : a ∈ (walk host dryRun ctx ctx.stages w₁).1 := by
        rw [has]
        exact List.mem_append_right front (List.mem_singleton_self a)
      have hassumed := assumed_of_mem_walk hmem
      rw [has, Attempt.captured_of_last hfront ha, Attempt.report_captured_of_last hfront ha]
      simp [Event.captured, hassumed]

end

end Pipeline

theorem Event.states_untimed (e : Event) : e.untimed.states = e.states := by
  cases e <;> rfl

theorem Event.issued_untimed (e : Event) : e.untimed.issued = e.issued := by
  cases e <;> rfl

theorem Event.captured_untimed (e : Event) : e.untimed.captured = e.captured := by
  cases e <;> rfl

theorem Event.skips_untimed (e : Event) : e.untimed.skips = e.skips := by
  cases e <;> rfl

theorem Report.ofEvents_untimed (es : List Event) :
    ofEvents (es.map Event.untimed) = ofEvents es := by
  simp only [ofEvents, Outcome.ofEvents, List.flatMap_map, List.length_map, Event.states_untimed,
    Event.issued_untimed, Event.captured_untimed, Event.skips_untimed]

theorem Outcome.eq_of_told {o o' : Outcome} (h : o.told = o'.told) :
    o = o' ∨ ∃ dir reason dir' reason',
      o = .failed (.io dir reason) ∧ o' = .failed (.io dir' reason') := by
  by_cases ho : ∃ dir reason, o = .failed (.io dir reason)
  · obtain ⟨dir, reason, rfl⟩ := ho
    rcases o' with _ | _ | ⟨_ | _ | _ | _ | _ | ⟨dir', reason'⟩⟩ <;> simp_all [told]
  · rcases o with _ | _ | ⟨_ | _ | _ | _ | _ | _⟩ <;>
      rcases o' with _ | _ | ⟨_ | _ | _ | _ | _ | _⟩ <;> simp_all [told]

theorem Report.captured_told (r : Report) : r.told.captured = r.captured := by
  rcases r with ⟨history, commands, _ | _ | ⟨_ | _ | _ | _ | _ | _⟩, dir⟩ <;> rfl

theorem Outcome.told_of_ne_io {o : Outcome} (h : ∀ dir reason, o ≠ .failed (.io dir reason)) :
    o.told = o := by
  unfold told
  split
  · exact absurd rfl (h _ _)
  · rfl

namespace Pipeline

theorem captured_dry {σ : Type} (host : Host σ) (ctx : Context) (w : σ) {c : Captured}
    (h : c ∈ (run host true ctx w).report.captured) : c.2.2 = .silent := by
  have hout := outcome_dry host ctx w
  rw [Report.captured, hout] at h
  cases hskip : (Plan.ofContext ctx).skip with
  | some reason => simp [hskip] at h
  | none =>
    simp only [hskip, Option.mem_toList, Option.map_eq_some_iff] at h
    obtain ⟨_, -, rfl⟩ := h
    rfl

/-- Runs with the same events, but for the time that things took, have the same report, but for the
directory and the reason why that cannot be made; and the events of a run hold all that is shown
of its report. -/
theorem report_of_events {σ τ : Type} (host : Host σ) (host' : Host τ) (dryRun dryRun' : Bool)
    (ctx ctx' : Context) (w : σ) (w' : τ)
    (h : (run host' dryRun' ctx' w').events.map Event.untimed =
      (run host dryRun ctx w).events.map Event.untimed) :
    let r := run host dryRun ctx w
    let r' := run host' dryRun' ctx' w'
    r'.report.history = r.report.history ∧ r'.report.commands = r.report.commands ∧
      r'.report.exitCode = r.report.exitCode ∧ r'.report.success = r.report.success ∧
      (r'.report.outcome = r.report.outcome ∨ ∃ dir reason dir' reason',
        r'.report.outcome = .failed (.io dir' reason') ∧
          r.report.outcome = .failed (.io dir reason)) ∧
      r'.report.captured = r.report.captured ∧
      (r.events.flatMap Event.captured = if dryRun then [] else r.report.captured) ∧
      (dryRun = true → ∀ c ∈ r.report.captured, c.2.2 = .silent) ∧
      ((∀ dir reason, r.report.outcome ≠ .failed (.io dir reason)) →
        ∀ (s : CommandLine.Session) (ms : Nat),
          s.renderOutcome { Report.ofEvents r.events with buildDir := ctx.buildDir } ms =
            s.renderOutcome r.report ms) := by
  intro r r'
  have htold : r'.report.told = r.report.told := by
    rw [← ofEvents_events w', ← ofEvents_events w, ← Report.ofEvents_untimed, h,
      Report.ofEvents_untimed]
  have hhistory : r'.report.history = r.report.history := by
    simpa [Report.told] using congrArg Report.history htold
  have hcommands : r'.report.commands = r.report.commands := by
    simpa [Report.told] using congrArg Report.commands htold
  have houtcome : r'.report.outcome.told = r.report.outcome.told := by
    simpa [Report.told] using congrArg Report.outcome htold
  have hcode : r'.report.exitCode = r.report.exitCode := by
    rw [Report.exitCode, Report.exitCode, ← Outcome.exitCode_told, houtcome, Outcome.exitCode_told]
  have hcaptured : r'.report.captured = r.report.captured := by
    rw [← Report.captured_told r'.report, htold, Report.captured_told]
  refine ⟨hhistory, hcommands, hcode, ?_, ?_, hcaptured, captured_events w, ?_, ?_⟩
  · rw [Report.success, hcode, Report.success]
  · rcases Outcome.eq_of_told houtcome with heq | ⟨dir', reason', dir, reason, h', h⟩
    · exact .inl heq
    · exact .inr ⟨dir, reason, dir', reason', h', h⟩
  · intro hdry c hc
    subst hdry
    exact captured_dry host ctx w hc
  · intro hne s ms
    have hreport : { Report.ofEvents r.events with buildDir := ctx.buildDir } = r.report := by
      rw [ofEvents_events w, Report.told, Outcome.told_of_ne_io hne]
      rfl
    rw [hreport]

def paced (pace : Nat) : Host Nat where
  ensureDirectory dir n := (.ok dir, n)
  execute _ n := (.ok ⟨if n = 2 then 66 else 0, "out", "err"⟩, n + 1)
  clock n := pace * n

theorem report_of_events_paced :
    let ctx := Context.resolve .clang .tsan (Config.empty.settings ⟨[]⟩ (.ofString "/work"))
    let r := run (paced 1) false ctx 0
    let r' := run (paced 5) false ctx 0
    r'.events.map Event.untimed = r.events.map Event.untimed ∧
      r'.report.history = r.report.history ∧ r'.report.captured = r.report.captured ∧
      r.events.flatMap Event.captured = r.report.captured := by
  intro ctx r r'
  have htrace : r'.trace.map Entry.untimed = r.trace.map Entry.untimed :=
    (run_congr (paced 1) false ctx (paced 5) rfl rfl).2
  have h : r'.events.map Event.untimed = r.events.map Event.untimed := by
    rw [Ended.untimed_events, Ended.untimed_events, htrace]
  have hall := report_of_events (paced 1) (paced 5) false false ctx ctx 0 0 h
  exact ⟨h, hall.1, hall.2.2.2.2.2.1, hall.2.2.2.2.2.2.1⟩

end Pipeline

end BuildMatrix
