import BuildMatrix.Proofs.Pipeline.Course
import Mathlib.Data.List.Basic

namespace BuildMatrix

def StageOutput.muted (o : StageOutput) : StageOutput := ⟨o.code, "", ""⟩

@[simp] theorem StageOutput.muted_code (o : StageOutput) : o.muted.code = o.code := rfl

@[simp] theorem StageOutput.muted_success (o : StageOutput) : o.muted.success = o.success := rfl

def Error.muted : Error → Error
  | stageFailed stage command output => stageFailed stage command output.muted
  | e => e

def Outcome.muted : Outcome → Outcome
  | testRun output => testRun output.muted
  | skipped reason => skipped reason
  | failed e => failed e.muted

def Event.muted : Event → Event
  | stageOutput stage command output => stageOutput stage command output.muted
  | e => e

def Report.muted (r : Report) : Report := { r with outcome := r.outcome.muted }

theorem Error.muted_exitCode (e : Error) : e.muted.exitCode = e.exitCode := by
  cases e <;> rfl

theorem Error.muted_message (e : Error) : e.muted.message = e.message := by
  cases e <;> rfl

theorem Outcome.muted_exitCode (o : Outcome) : o.muted.exitCode = o.exitCode := by
  cases o with
  | failed e => exact e.muted_exitCode
  | _ => rfl

namespace Pipeline

def Entry.muted : Entry → Entry
  | event e => event e.muted
  | e => e

variable {σ : Type}

def Ended.muted (r : Ended σ) : Ended σ := ⟨r.report.muted, r.entries.map Entry.muted, r.world⟩

theorem Ended.muted_world (r : Ended σ) : r.muted.world = r.world := rfl

theorem Ended.muted_entries (r : Ended σ) : r.muted.entries = r.entries.map Entry.muted := rfl

theorem Ended.muted_exitCode (r : Ended σ) : r.muted.report.exitCode = r.report.exitCode :=
  r.report.outcome.muted_exitCode

theorem Ended.muted_events (r : Ended σ) : r.muted.events = r.events.map Event.muted := by
  unfold events
  rw [List.map_filterMap, muted, List.filterMap_map]
  refine List.filterMap_congr fun e _ ↦ ?_
  cases e <;> rfl

/-- A host on which programs end as on the given one, but say nothing. -/
def Host.muted (host : Host σ) : Host σ where
  ensureDirectory := host.ensureDirectory
  execute c w := ((host.execute c w).1.map StageOutput.muted, (host.execute c w).2)
  clock := host.clock

namespace Progress

def muted (p : Progress σ) : Progress σ := { p with entries := p.entries.map Entry.muted }

variable (p : Progress σ)

@[simp] theorem muted_world : p.muted.world = p.world := rfl

@[simp] theorem muted_log (l : Log.Level) (m : String) (f : List (String × String)) :
    (p.log l m f).muted = p.muted.log l m f := by
  simp [muted, log, Entry.muted]

@[simp] theorem muted_emit (e : Event) : (p.emit e).muted = p.muted.emit e.muted := by
  simp [muted, emit, Entry.muted]

@[simp] theorem muted_enter (s : State) : (p.enter s).muted = p.muted.enter s := by
  simp [muted, enter, log, Entry.muted]

@[simp] theorem muted_give (stage : Stage) (c : Command) :
    (p.give stage c).muted = p.muted.give stage c := by
  simp [muted, give, emit, log, Entry.muted, Event.muted]

@[simp] theorem muted_called (c : Command) (w : σ) :
    (p.called c w).muted = p.muted.called c w := by
  simp [muted, called, Entry.muted]

variable {p} {q : Progress σ}

theorem world_eq_of_muted (h : p.muted = q.muted) : p.world = q.world := by
  rw [← p.muted_world, h, q.muted_world]

end Progress

-- Both sides are muted: the reason why a program could not be started is told on either host.
/-- Steps that differ in nothing but the output of programs. -/
inductive Alike {α : Type} (mute : α → α) :
    Except Error α × Progress σ → Except Error α × Progress σ → Prop
  | ok {a b : α} {p q : Progress σ} (answer : mute a = mute b) (progress : p.muted = q.muted) :
      Alike mute (.ok a, p) (.ok b, q)
  | error {e f : Error} {p q : Progress σ} (answer : e.muted = f.muted)
      (progress : p.muted = q.muted) : Alike mute (.error e, p) (.error f, q)

def AlikeOutcome (s t : Outcome × Progress σ) : Prop :=
  s.1.muted = t.1.muted ∧ s.2.muted = t.2.muted

section

variable (host : Host σ) (dryRun : Bool) {p q : Progress σ}

theorem runStage_muted (stage : Stage) (c : Command) (h : p.muted = q.muted) :
    Alike StageOutput.muted (runStage host.muted dryRun stage c p)
      (runStage host dryRun stage c q) := by
  have hworld := Progress.world_eq_of_muted h
  cases dryRun with
  | true => exact .ok rfl (by simp [h, hworld, Host.muted])
  | false =>
    simp only [runStage, Bool.false_eq_true, if_false, Progress.give_world, hworld, Host.muted]
    rcases host.execute c q.world with ⟨reason | output, w⟩
    · exact .error rfl (by simp [h])
    · exact .ok rfl (by simp [h])

theorem checkStage_muted (stage : Stage) (c : Command) (h : p.muted = q.muted) :
    Alike id (checkStage host.muted dryRun stage c p) (checkStage host dryRun stage c q) := by
  have hrun := runStage_muted host dryRun stage c h
  unfold checkStage
  generalize runStage host.muted dryRun stage c p = s at hrun
  generalize runStage host dryRun stage c q = t at hrun
  cases hrun with
  | error he hp => exact .error he hp
  | @ok a b p q ho hp =>
    have hsuccess : a.success = b.success := by rw [← a.muted_success, ho, b.muted_success]
    cases hb : b.success with
    | true => simpa [hb, hsuccess] using Alike.ok rfl hp
    | false =>
      simp only [hb, hsuccess, Bool.false_eq_true, if_false]
      refine .error ?_ ?_
      · simp [failure, Error.muted, ho]
      · simp [hp, Event.muted, ho]

theorem skip_muted (reason : SkipReason) (h : p.muted = q.muted) :
    AlikeOutcome (skip reason p) (skip reason q) :=
  ⟨rfl, by simp [skip, h]⟩

theorem fail_muted {e f : Error} (he : e.muted = f.muted) (h : p.muted = q.muted) :
    AlikeOutcome (fail e p) (fail f q) :=
  ⟨congrArg Outcome.failed he, by simp [fail, h]⟩

theorem testStage_muted (c : Command) (h : p.muted = q.muted) :
    AlikeOutcome (testStage host.muted dryRun c p) (testStage host dryRun c q) := by
  have hrun := runStage_muted host dryRun .test c h
  unfold testStage
  generalize runStage host.muted dryRun .test c p = s at hrun
  generalize runStage host dryRun .test c q = t at hrun
  cases hrun with
  | error he hp => exact fail_muted he hp
  | ok ho hp =>
    refine ⟨congrArg Outcome.testRun ho, ?_⟩
    cases dryRun <;> simp [hp, Event.muted, ho]

theorem prepare_muted (dir : Path) (h : p.muted = q.muted) :
    Alike id (prepare host.muted dryRun dir p) (prepare host dryRun dir q) := by
  have hworld := Progress.world_eq_of_muted h
  have hset (w : σ) : Progress.muted { p with world := w } = Progress.muted { q with world := w } :=
    congrArg (fun r : Progress σ ↦ { r with world := w }) h
  cases dryRun with
  | true => exact .ok rfl h
  | false =>
    simp only [prepare, Bool.false_eq_true, if_false, hworld, Host.muted]
    rcases host.ensureDirectory dir q.world with ⟨reason | made, w⟩
    · exact .error rfl (hset w)
    · exact .ok rfl (hset w)

theorem proceed_muted (ctx : Context) (stages : List Stage) (h : p.muted = q.muted) :
    AlikeOutcome (proceed host.muted dryRun ctx stages p) (proceed host dryRun ctx stages q) := by
  induction stages generalizing p q with
  | nil => exact skip_muted (ctx.skip.getD .crossCompiled) h
  | cons stage rest ih =>
    by_cases htest : stage = .test
    · subst htest
      exact testStage_muted host dryRun ctx.testCommand (by simp [h])
    · have hcheck := checkStage_muted host dryRun stage (ctx.command stage) h
      rcases hs : checkStage host.muted dryRun stage (ctx.command stage) p with ⟨a, p'⟩
      rcases ht : checkStage host dryRun stage (ctx.command stage) q with ⟨b, q'⟩
      rw [hs, ht] at hcheck
      cases hcheck with
      | error he hp =>
        rw [proceed_cons_of_error htest hs, proceed_cons_of_error htest ht]
        exact fail_muted he hp
      | ok _ hp =>
        rw [proceed_cons_of_ok htest hs, proceed_cons_of_ok htest ht]
        exact ih (by simp [hp])

theorem drive_muted (ctx : Context) (h : p.muted = q.muted) :
    AlikeOutcome (drive host.muted dryRun ctx p) (drive host dryRun ctx q) := by
  have hprepare := prepare_muted host dryRun ctx.buildDir h
  rw [drive_eq, drive_eq]
  generalize prepare host.muted dryRun ctx.buildDir p = s at hprepare
  generalize prepare host dryRun ctx.buildDir q = t at hprepare
  cases hprepare with
  | error he hp => exact fail_muted he hp
  | ok _ hp => exact proceed_muted host dryRun ctx ctx.stages (by simp [hp])

/-- If its programs say nothing, a run differs in nothing but their output. -/
theorem run_muted (ctx : Context) (world : σ) :
    (run host.muted dryRun ctx world).muted = (run host dryRun ctx world).muted := by
  have hdrive := drive_muted host dryRun (p := .start world) ctx rfl
  simp only [run]
  rcases hs : drive host.muted dryRun ctx (.start world) with ⟨o, p⟩
  rcases ht : drive host dryRun ctx (.start world) with ⟨o', q⟩
  rw [hs, ht] at hdrive
  obtain ⟨ho, hp⟩ : o.muted = o'.muted ∧ p.muted = q.muted := hdrive
  obtain ⟨hhistory, hcommands, hentries, hworld⟩ := Progress.mk.inj hp
  have hcode : o.exitCode = o'.exitCode := by rw [← o.muted_exitCode, ho, o'.muted_exitCode]
  simp [Ended.muted, Report.muted, Report.state, Report.success, Report.exitCode, Progress.log,
    Progress.emit, Host.muted, hhistory, hcommands, hentries, hworld, hcode, ho]

end

end Pipeline

end BuildMatrix
