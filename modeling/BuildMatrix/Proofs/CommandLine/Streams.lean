import BuildMatrix.Proofs.CommandLine.Performance
import BuildMatrix.Proofs.Console.Formats
import BuildMatrix.Proofs.Event.Encoding
import BuildMatrix.Proofs.Pipeline.EventLog
import BuildMatrix.Proofs.Pipeline.Muting
import BuildMatrix.Proofs.Request.ExitStatus

namespace BuildMatrix

def Report.complaint? (r : Report) : Option String :=
  match r.outcome with
  | .testRun output =>
    if output.success then none else some ("test exited with code " ++ toString output.code)
  | .skipped _ => none
  | .failed e => some e.message

theorem Report.complaint?_muted (r : Report) : r.muted.complaint? = r.complaint? := by
  cases h : r.outcome <;> simp [complaint?, muted, Outcome.muted, Error.muted_message, h]

namespace Pipeline

variable {σ : Type} (host : Host σ) (dryRun : Bool) (ctx : Context) (w : σ)

theorem complaint?_eq_none_iff :
    let r := (run host dryRun ctx w).report
    r.complaint? = none ↔ r.exitCode = 0 := by
  intro r
  cases h : r.outcome with
  | testRun output =>
    simp [Report.complaint?, Report.exitCode, Outcome.exitCode, StageOutput.success, h]
  | skipped reason => simp [Report.complaint?, Report.exitCode, Outcome.exitCode, h]
  | failed e =>
    have hcode : r.exitCode ≠ 0 := exitCode_ne_zero_of_outcome host dryRun ctx w h
    simp [Report.complaint?, h, hcode]

theorem complaint?_muted :
    (run host.muted dryRun ctx w).report.complaint? =
      (run host dryRun ctx w).report.complaint? := by
  have hreport := congrArg Ended.report (run_muted host dryRun ctx w)
  exact (Report.complaint?_muted _).symm.trans
    ((congrArg Report.complaint? hreport).trans (Report.complaint?_muted _))

theorem output_of_testRun {output : StageOutput}
    (h : (run host dryRun ctx w).report.outcome = .testRun output) :
    if dryRun then output = .silent
    else (∃ w', (host.execute ctx.testCommand w').1 = .ok output) ∧
      .stageOutput .test ctx.testCommand.display output ∈ (run host dryRun ctx w).events := by
  rcases run_cases host dryRun ctx w with ⟨-, reason, ho⟩ | ⟨reason, ho⟩ | ⟨front, a, has, -, ha⟩
  · simp [ho] at h
  · simp [ho] at h
  · obtain ⟨htest, hstarted, rfl⟩ : a.stage = .test ∧ a.answer.isRefused = false ∧
        output = a.output := by
      rw [h] at ha
      simpa using Attempt.ending_eq_some_iff.1 ha
    have hmem : a ∈ attempts host dryRun ctx w := by simp [has]
    obtain ⟨stage, w', rfl⟩ := exists_of_mem_interview host dryRun ctx
      ((attempts_prefix_interview host dryRun ctx w).subset hmem)
    obtain rfl : stage = .test := htest
    cases dryRun with
    | true => rfl
    | false =>
      refine ⟨⟨w', ?_⟩, ?_⟩
      · rcases hx : host.execute ctx.testCommand w' with ⟨reason | output, w₁⟩
        · simp [attempt_refused hx, Answer.isRefused] at hstarted
        · simp [attempt_ended hx, Attempt.output, Answer.output]
      · exact (Ended.mem_events _).2
          ((output_mem_trace host false ctx).2 ⟨rfl, _, hmem, rfl, rfl, rfl, rfl⟩)

end Pipeline

namespace Request

variable {σ : Type} (r : Request) (w : Place) (host : Pipeline.Host σ) (world : σ)

def events : List Event :=
  match r.run w host world with
  | .ok ended => ended.events
  | .error _ => []

def complaint? : Option String :=
  match r.run w host world with
  | .ok ended => ended.report.complaint?
  | .error e => some e.message

def errors : List Json := ((r.complaint? w host world).map Json.ofError).toList

end Request

namespace CommandLine

/-- Each event on a line from which it is read back, and nothing after them but an error if the code
is not 0. -/
structure TellsPrograms {σ : Type} (events : List Event) (errors : List Json)
    (p : Performance σ) : Prop where
  stdout : p.output.stdout = Json.lines (events.map Event.toJson ++ errors)
  lines : Text.linesOf p.output.stdout = (events.map Event.toJson ++ errors).map Json.text
  told : List.Forall₂ Event.IsToldBy events ((Text.linesOf p.output.stdout).take events.length)
  complained : ((Text.linesOf p.output.stdout).drop events.length).map Json.read? =
    errors.map some
  length_errors : errors.length = if p.code = 0 then 0 else 1
  reason_errors : ∀ j ∈ errors, j.reason? = some "error"
  reason_events : ∀ e ∈ events, e.toJson.reason? ≠ some "error"

theorem lines_told (events : List Event) (errors : List Json) :
    let lines := (events.map Event.toJson ++ errors).map Json.text
    List.Forall₂ Event.IsToldBy events (lines.take events.length) ∧
      (lines.drop events.length).map Json.read? = errors.map some := by
  intro lines
  have hlength : ((events.map Event.toJson).map Json.text).length = events.length := by
    rw [List.length_map, List.length_map]
  have hlines : lines = (events.map Event.toJson).map Json.text ++ errors.map Json.text :=
    List.map_append
  rw [hlines, List.take_left' hlength, List.drop_left' hlength]
  constructor
  · rw [List.map_map, List.forall₂_map_right_iff, List.forall₂_same]
    intro e _
    exact e.isToldBy_text
  · rw [List.map_map]
    apply List.map_congr_left
    intro j _
    exact Json.read?_text j

namespace Session

variable (s : Session)

@[simp] theorem stdout_log (ls : List Log.Line) : (s.log ls).stdout = "" := rfl

@[simp] theorem stdout_preamble : s.preamble.stdout = "" := rfl

section

variable {σ : Type} {s} (dryRun : Bool) (r : Pipeline.Ended σ)

section

variable (h : s.console.isJson = true)
include h

theorem renderEvent_of_isJson (e : Event) : s.renderEvent dryRun e = .out e.toJson.line := by
  rw [renderEvent.eq_def, if_pos h, Console.event_of_isJson h]

theorem stdout_entries_of_isJson :
    (Output.join (r.entries.map (s.renderEntry dryRun))).stdout =
      Json.lines (r.events.map Event.toJson) := by
  rw [Output.stdout_join, Pipeline.Ended.events, List.map_map]
  induction r.entries with
  | nil => rfl
  | cons entry rest ih =>
    rw [List.map_cons, String.join_cons, ih]
    cases entry with
    | event e => simp [renderEntry, renderEvent_of_isJson dryRun h, Json.lines_cons]
    | call c => simp [renderEntry]
    | log l => simp [renderEntry]

theorem stderr_muted (es : List Pipeline.Entry) :
    (Output.join ((es.map Pipeline.Entry.muted).map (s.renderEntry dryRun))).stderr =
      (Output.join (es.map (s.renderEntry dryRun))).stderr := by
  simp only [Output.stderr_join, List.map_map]
  congr 1
  refine List.map_congr_left fun entry _ ↦ ?_
  cases entry with
  | event e => simp [renderEntry, Pipeline.Entry.muted, renderEvent_of_isJson dryRun h]
  | call c => rfl
  | log l => rfl

theorem renderOutcome_of_isJson (r : Report) (duration : Nat) :
    s.renderOutcome r duration =
      .out (Json.lines (r.complaint?.map Json.ofError).toList) := by
  unfold renderOutcome Report.complaint?
  cases r.outcome with
  | testRun output =>
    simp only [h, if_true, Console.status_of_isJson h, Console.error_of_isJson h]
    cases output.success with
    | true => rfl
    | false => simp [Json.lines_singleton]
  | skipped reason => exact Console.status_of_isJson h _ _
  | failed e => simp [renderFailure, h, Console.error_of_isJson h, Json.lines_singleton]

theorem reportError_of_isJson (e : Error) :
    s.reportError e = .out (Json.ofError e.message).line := by
  rw [reportError, if_pos h, Console.error_of_isJson h]

end

section

variable (h : s.console.isJson = false)
include h

theorem stdout_renderEvent (e : Event) : (s.renderEvent dryRun e).stdout = "" := by
  rw [renderEvent.eq_def, if_neg (by simp [h])]
  cases e with
  | stageStarted stage command cwd => exact Console.stdout_status _ _
  | stageFinished stage code duration =>
    dsimp only
    split
    · exact Console.stdout_status _ _
    · rfl
  | stageOutput stage command output => rfl
  | pipelineSkipped reason => exact Console.stdout_status _ _
  | pipelineFinished state success code duration => rfl

theorem stdout_entries (es : List Pipeline.Entry) :
    (Output.join (es.map (s.renderEntry dryRun))).stdout = "" := by
  rw [Output.stdout_join, List.map_map]
  induction es with
  | nil => rfl
  | cons entry rest ih =>
    rw [List.map_cons, String.join_cons, ih]
    cases entry with
    | event e => simp [renderEntry, stdout_renderEvent dryRun h]
    | call c => simp [renderEntry]
    | log l => simp [renderEntry]

theorem stdout_reportError (e : Error) : (s.reportError e).stdout = "" := by
  rw [reportError, if_neg (by simp [h])]
  rfl

theorem stdout_renderOutcome (r : Report) (duration : Nat) :
    (s.renderOutcome r duration).stdout =
      match r.outcome with
      | .testRun output => output.stdout
      | _ => "" := by
  unfold renderOutcome
  cases r.outcome with
  | testRun output =>
    simp only [h, Bool.false_eq_true, if_false, Output.stdout_append, Output.stdout_out,
      Console.stdout_raw]
    split <;> simp [Console.stdout_status, Console.stdout_error h]
  | skipped reason => exact Console.stdout_status _ _
  | failed e => simp [renderFailure, h]

end

end

variable {σ : Type} (host : Pipeline.Host σ) (world : σ)

theorem stdout_runOn_of_isJson (h : s.console.isJson = true) :
    (s.runOn host world).output.stdout =
      Json.lines ((s.asked.events s.machine.place host world).map Event.toJson ++
        s.asked.errors s.machine.place host world) := by
  unfold Request.errors Request.events Request.complaint?
  rw [Request.run_eq]
  cases hr : s.asked.resolve s.machine.place with
  | error e =>
    rw [runOn_of_error hr]
    simp [Except.map, reportError_of_isJson h, Json.lines_singleton]
  | ok ctx =>
    rw [runOn_of_ok hr]
    simp [Except.map, stdout_entries_of_isJson _ _ h, renderOutcome_of_isJson h, Json.lines_append]

theorem stdout_runOn_of_error (h : s.console.isJson = false) {e : Error}
    (hr : s.asked.resolve s.machine.place = .error e) :
    (s.runOn host world).output.stdout = "" := by
  rw [runOn_of_error hr]
  simp [stdout_reportError h]

theorem stdout_runOn_of_ok (h : s.console.isJson = false) {ctx : Context}
    (hr : s.asked.resolve s.machine.place = .ok ctx) :
    (s.runOn host world).output.stdout =
      match (Pipeline.run host s.asked.dryRun ctx world).report.outcome with
      | .testRun output => output.stdout
      | _ => "" := by
  rw [runOn_of_ok hr]
  simp [stdout_entries _ h, stdout_renderOutcome h]

theorem runOn_complaint :
    s.asked.complaint? s.machine.place host world = none ↔ (s.runOn host world).code = 0 := by
  unfold Request.complaint?
  rw [Request.run_eq]
  cases hr : s.asked.resolve s.machine.place with
  | error e =>
    have hcode : e.exitCode = 1 ∨ e.exitCode = 2 := (FailsEarly.resolve _ _ e hr).exitCode
    have hne : e.exitCode ≠ 0 := by omega
    simp [Except.map, runOn_of_error hr, hne]
  | ok ctx =>
    rw [runOn_of_ok hr]
    exact Pipeline.complaint?_eq_none_iff host s.asked.dryRun ctx world

theorem runOn_tellsPrograms (h : s.console.isJson = true) :
    TellsPrograms (s.asked.events s.machine.place host world)
      (s.asked.errors s.machine.place host world) (s.runOn host world) := by
  have hstdout := s.stdout_runOn_of_isJson host world h
  have hcode := s.runOn_complaint host world
  have hlines := congrArg Text.linesOf hstdout
  rw [Text.linesOf_lines] at hlines
  obtain ⟨htold, hcomplained⟩ := lines_told (s.asked.events s.machine.place host world)
    (s.asked.errors s.machine.place host world)
  rw [← hlines] at htold hcomplained
  refine ⟨hstdout, hlines, htold, hcomplained, ?_, fun j hj ↦ ?_, fun e _ ↦ e.reason?_ne_error⟩
  · unfold Request.errors
    cases hc : s.asked.complaint? s.machine.place host world with
    | none => rw [if_pos (hcode.1 hc)]; rfl
    | some message => rw [if_neg fun h ↦ by simp [hcode.2 h] at hc]; rfl
  · obtain ⟨message, -, rfl⟩ := Option.map_eq_some_iff.1 (Option.mem_toList.1 hj)
    exact Json.reason?_ofError message

/-- Silent programs change nothing but the events in which their output would stand. -/
theorem runOn_muted (h : s.console.isJson = true) :
    let p := s.runOn host world
    let silent := s.runOn host.muted world
    silent.code = p.code ∧ silent.world = p.world ∧ silent.output.stderr = p.output.stderr ∧
      (s.asked.events s.machine.place host.muted world).map Event.muted =
        (s.asked.events s.machine.place host world).map Event.muted ∧
      s.asked.errors s.machine.place host.muted world =
        s.asked.errors s.machine.place host world := by
  intro p silent
  simp only [p, silent]
  unfold Request.errors Request.events Request.complaint?
  rw [Request.run_eq, Request.run_eq]
  cases hr : s.asked.resolve s.machine.place with
  | error e => simp [Except.map, runOn_of_error hr]
  | ok ctx =>
    have hmuted := Pipeline.run_muted host s.asked.dryRun ctx world
    have hcomplaint := Pipeline.complaint?_muted host s.asked.dryRun ctx world
    rw [runOn_of_ok hr, runOn_of_ok hr]
    dsimp only [Except.map]
    generalize Pipeline.run host.muted s.asked.dryRun ctx world = r at hmuted hcomplaint ⊢
    generalize Pipeline.run host s.asked.dryRun ctx world = r' at hmuted hcomplaint ⊢
    refine ⟨?_, ?_, ?_, ?_, by rw [hcomplaint]⟩
    · rw [← r.muted_exitCode, hmuted, r'.muted_exitCode]
    · rw [← r.muted_world, hmuted, r'.muted_world]
    · have hentries := stderr_muted s.asked.dryRun h r.entries
      rw [← r.muted_entries, hmuted, r'.muted_entries, stderr_muted _ h] at hentries
      simp [renderOutcome_of_isJson h, hentries]
    · rw [← r.muted_events, hmuted, r'.muted_events]

theorem stdout_runOn_of_testRun (h : s.console.isJson = false) {ctx : Context}
    (hr : s.asked.resolve s.machine.place = .ok ctx) {output : StageOutput}
    (ho : (Pipeline.run host s.asked.dryRun ctx world).report.outcome = .testRun output) :
    (s.runOn host world).output.stdout = output.stdout ∧
      if s.asked.dryRun then output.stdout = ""
      else (∃ w, (host.execute ctx.testCommand w).1 = .ok output) ∧
        .stageOutput .test ctx.testCommand.display output ∈
          s.asked.events s.machine.place host world := by
  refine ⟨by rw [s.stdout_runOn_of_ok host world h hr, ho], ?_⟩
  have hevents : s.asked.events s.machine.place host world =
      (Pipeline.run host s.asked.dryRun ctx world).events := by
    rw [Request.events, Request.run_eq, hr]
    rfl
  have houtput := Pipeline.output_of_testRun host s.asked.dryRun ctx world ho
  rw [hevents]
  by_cases hdry : s.asked.dryRun = true
  · rw [if_pos hdry] at houtput ⊢
    rw [houtput]
    rfl
  · rwa [if_neg hdry] at houtput ⊢

end Session

theorem isJson_session (t : Setting) (i : Invocation) :
    (session t i).console.isJson = i.isJson := by
  simp only [session, Invocation.console, Console.ofFlags, Console.ofMode, Console.isJson]
  cases i.isJson <;> rfl

theorem answer_run {t : Setting} {i : Invocation} (hi : parse t.args = .ok i)
    (hrun : i.subcommand = .run) :
    ∃ done, answer t = .done done ∧
      let p := (session t i).runOn Machine.host t.machine
      done.code = p.code ∧ done.machine = p.world ∧ done.output.stdout = p.output.stdout := by
  have hs := (session t i).run_eq_runOn
  simp only [answer, hi, perform, hrun]
  refine ⟨_, rfl, congrArg Result.code hs, congrArg Result.machine hs, ?_⟩
  rw [hs]
  split <;> exact String.empty_append

/-- In the format for programs a run writes a line for each event, and one more for an error if its
code is not 0; what its programs write can be seen in the events only. In the format for people it
writes what its test wrote, and nothing else. -/
theorem run_streams {σ : Type} (t : Setting) (i : Invocation) (host : Pipeline.Host σ) (world : σ) :
    let s := session t i
    let r := s.asked
    let place := t.machine.place
    let p := s.runOn host world
    let events := r.events place host world
    let errors := r.errors place host world
    let silent := s.runOn host.muted world
    let silentEvents := r.events place host.muted world
    (i.isJson = true →
      TellsPrograms events errors p ∧ TellsPrograms silentEvents errors silent ∧
        silentEvents.map Event.muted = events.map Event.muted ∧
        silent.output.stderr = p.output.stderr ∧ silent.code = p.code ∧ silent.world = p.world) ∧
      (i.isJson = false →
        (∀ e, r.resolve place = .error e → p.output.stdout = "") ∧
        ∀ ctx, r.resolve place = .ok ctx →
          let outcome := (Pipeline.run host r.dryRun ctx world).report.outcome
          (∀ output, outcome = .testRun output → p.output.stdout = output.stdout ∧
            if r.dryRun then output.stdout = ""
            else (∃ w, (host.execute ctx.testCommand w).1 = .ok output) ∧
              .stageOutput .test ctx.testCommand.display output ∈ events) ∧
          ((∀ output, outcome ≠ .testRun output) → p.output.stdout = "")) ∧
      (parse t.args = .ok i → i.subcommand = .run → ∃ done, answer t = .done done ∧
        let p := s.runOn Machine.host t.machine
        done.code = p.code ∧ done.machine = p.world ∧ done.output.stdout = p.output.stdout) := by
  intro s r place p events errors silent silentEvents
  have hmode : s.console.isJson = i.isJson := isJson_session t i
  refine ⟨fun hi ↦ ?_, fun hi ↦ ⟨fun e he ↦ ?_, fun ctx hctx ↦ ⟨fun output ho ↦ ?_, fun ho ↦ ?_⟩⟩,
    answer_run⟩
  · have h : s.console.isJson = true := hmode.trans hi
    obtain ⟨hcode, hworld, hstderr, hevents, herrors⟩ := s.runOn_muted host world h
    have hsilent : TellsPrograms silentEvents errors silent := by
      have htells := s.runOn_tellsPrograms host.muted world h
      rwa [herrors] at htells
    exact ⟨s.runOn_tellsPrograms host world h, hsilent, hevents, hstderr, hcode, hworld⟩
  · exact s.stdout_runOn_of_error host world (hmode.trans hi) he
  · exact s.stdout_runOn_of_testRun host world (hmode.trans hi) hctx ho
  · refine (s.stdout_runOn_of_ok host world (hmode.trans hi) hctx).trans ?_
    split
    case h_1 output h => exact absurd h (ho output)
    case h_2 => rfl

end CommandLine

end BuildMatrix
