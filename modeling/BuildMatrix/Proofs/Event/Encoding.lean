import BuildMatrix.Proofs.Console.Transcript
import BuildMatrix.Proofs.Json.Reader
import BuildMatrix.Proofs.Text.Utf8

namespace BuildMatrix

namespace Json

variable (key : String)

def field? : Json → Option Json
  | obj fields => fields.lookup key
  | _ => none

def str? (j : Json) : Option String :=
  match j.field? key with
  | some (str s) => some s
  | _ => none

def int? (j : Json) : Option Int :=
  match j.field? key with
  | some (int i) => some i
  | _ => none

def bool? (j : Json) : Option Bool :=
  match j.field? key with
  | some (bool b) => some b
  | _ => none

def path? (j : Json) : Option (Option Path) :=
  match j.field? key with
  | some null => some none
  | some (str s) => some (some (.ofString s))
  | _ => none

end Json

def Stage.ofName? (s : String) : Option Stage := [generate, build, test].find? (·.name = s)

def State.ofName? (s : String) : Option State :=
  [created, directoryReady, generated, built, testSelected, testRun, skipped, failed].find?
    (·.name = s)

def SkipReason.ofJson? (j : Json) : Option SkipReason := do
  match ← j.str? "kind" with
  | "unsupported-pair" => return unsupportedPair (← j.str? "reason")
  | "cross-compiled" => return crossCompiled
  | _ => none

namespace Event

def kind : Event → String
  | stageStarted .. => "stage-started"
  | stageFinished .. => "stage-finished"
  | stageOutput .. => "stage-output"
  | pipelineSkipped .. => "pipeline-skipped"
  | pipelineFinished .. => "pipeline-finished"

def cwd? : Event → Option Path
  | stageStarted _ _ cwd => cwd
  | _ => none

def IsTextual (e : Event) : Prop := ∀ p, e.cwd? = some p → p.IsText

def ofJson? (j : Json) : Option Event := do
  match ← j.str? "reason" with
  | "stage-started" =>
    return stageStarted (← Stage.ofName? (← j.str? "stage")) (← j.str? "command") (← j.path? "cwd")
  | "stage-finished" =>
    return stageFinished (← Stage.ofName? (← j.str? "stage")) (← j.int? "exit_code")
      (← (← j.int? "duration_ms").toNat?)
  | "stage-output" =>
    return stageOutput (← Stage.ofName? (← j.str? "stage")) (← j.str? "command")
      ⟨← j.int? "exit_code", ← j.str? "stdout", ← j.str? "stderr"⟩
  | "pipeline-skipped" => return pipelineSkipped (← SkipReason.ofJson? (← j.field? "skip"))
  | "pipeline-finished" =>
    return pipelineFinished (← State.ofName? (← j.str? "state")) (← j.bool? "success")
      (← j.int? "exit_code") (← (← j.int? "duration_ms").toNat?)
  | _ => none

def decode? (line : String) : Option Event := (Json.read? line).bind ofJson?

section

variable {e e' : Event}

theorem toJson_ofString (stage : Stage) (command s : String) :
    (stageStarted stage command (some (.ofString s))).toJson =
      stageFields command (.str s) stage := by
  have htext : (Path.ofString s).text? = some s := Path.text?_eq_some_iff.2 rfl
  rw [toJson, htext]

theorem toJson_eq_null_iff : e.toJson = .null ↔ ¬e.IsTextual := by
  cases e with
  | stageStarted stage command cwd =>
    cases cwd with
    | none => simp [toJson, stageFields, IsTextual, cwd?]
    | some cwd =>
      cases h : cwd.text? with
      | none => simpa [toJson, h, IsTextual, cwd?] using Path.text?_eq_none_iff.1 h
      | some s =>
        have hcwd : cwd.IsText := ⟨s, Path.text?_eq_some_iff.1 h⟩
        simpa [toJson, h, IsTextual, cwd?, stageFields] using hcwd
  | _ => simp [toJson, IsTextual, cwd?]

/-- An event that is encoded names its variant, under a key of its own. -/
theorem exists_fields (h : e.IsTextual) : ∃ fields, e.toJson = .obj fields ∧
    ("reason", .str e.kind) ∈ fields ∧ (fields.map Prod.fst).Nodup := by
  cases e with
  | stageStarted stage command cwd =>
    cases cwd with
    | none => exact ⟨_, rfl, by simp [kind], by simp⟩
    | some cwd =>
      obtain ⟨s, rfl⟩ : cwd.IsText := h cwd rfl
      exact ⟨_, toJson_ofString stage command s, by simp [kind], by simp⟩
  | _ => exact ⟨_, rfl, by simp [kind], by simp⟩

theorem ofJson?_toJson (h : e.IsTextual) : ofJson? e.toJson = some e := by
  cases e with
  | stageStarted stage command cwd =>
    cases cwd with
    | none => cases stage <;> rfl
    | some cwd =>
      obtain ⟨s, rfl⟩ : cwd.IsText := h cwd rfl
      rw [toJson_ofString]
      cases stage <;> rfl
  | stageFinished stage code duration => cases stage <;> rfl
  | stageOutput stage command output => cases stage <;> rfl
  | pipelineSkipped skip => cases skip <;> rfl
  | pipelineFinished state success code duration => cases state <;> rfl

theorem decode?_text (h : e.IsTextual) : decode? e.toJson.text = some e := by
  rw [decode?, Json.read?_text, Option.bind_some, ofJson?_toJson h]

/-- The event is read back from the line; just one in a directory that is no text leaves `null`. -/
def IsToldBy (e : Event) (line : String) : Prop :=
  (e.IsTextual → decode? line = some e) ∧ (¬e.IsTextual → line = "null")

theorem isToldBy_text (e : Event) : e.IsToldBy e.toJson.text := by
  refine ⟨decode?_text, ?_⟩
  intro h
  rw [toJson_eq_null_iff.2 h]
  rfl

theorem text_inj (h : e.IsTextual) (h' : e'.IsTextual) (htext : e.toJson.text = e'.toJson.text) :
    e = e' := by
  have hjson : e.toJson = e'.toJson := Json.text_injective htext
  have hread := congrArg ofJson? hjson
  rwa [ofJson?_toJson h, ofJson?_toJson h', Option.some_inj] at hread

theorem mapM_decode? {es : List Event} (h : ∀ e ∈ es, e.IsTextual) :
    (es.map fun e ↦ e.toJson.text).mapM decode? = some es := by
  induction es with
  | nil => rfl
  | cons e es ih =>
    obtain ⟨he, hes⟩ := List.forall_mem_cons.1 h
    rw [List.map_cons, List.mapM_cons, decode?_text he, ih hes]
    rfl

end

end Event

namespace Console

theorem linesOf_events {c : Console} (h : c.isJson = true) (es : List Event) :
    Text.linesOf (c.transcript (es.map fun e ↦ .event e.toJson)).stdout =
      es.map fun e ↦ e.toJson.text := by
  have htold : (es.map fun e ↦ Call.event e.toJson).filterMap Call.told? = es.map Event.toJson := by
    rw [List.filterMap_map]
    exact congrFun List.filterMap_eq_map' es
  have hout : (c.transcript (es.map fun e ↦ .event e.toJson)).stdout =
      Json.lines (es.map Event.toJson) := by
    rw [transcript_of_isJson _ h, htold]
    rfl
  rw [hout, Text.linesOf_lines, List.map_map]
  rfl

end Console

namespace Event

/-- Just an event in a directory that is no text is not encoded. Every other event is an object that
names the variant, on one line, from which the event is read back; so different events have
different texts, and a console for programs that is told events writes lines from which those events
are read back, in their order. -/
theorem encoding_faithful :
    (∀ e : Event, e.toJson = .null ↔ ¬e.IsTextual) ∧
      (∀ e : Event, e.IsTextual →
        (∃ fields, e.toJson = .obj fields ∧ ("reason", .str e.kind) ∈ fields ∧
          (fields.map Prod.fst).Nodup) ∧
        '\n' ∉ e.toJson.text.toList ∧ decode? e.toJson.text = some e) ∧
      (∀ e e' : Event, e.IsTextual → e'.IsTextual → e.toJson.text = e'.toJson.text → e = e') ∧
      ∀ (c : Console) (es : List Event), c.isJson = true → (∀ e ∈ es, e.IsTextual) →
        let printed := Text.linesOf (c.transcript (es.map fun e ↦ .event e.toJson)).stdout
        printed = es.map (fun e ↦ e.toJson.text) ∧ printed.mapM decode? = some es := by
  refine ⟨fun e ↦ toJson_eq_null_iff, fun e h ↦ ?_, fun e e' h h' ↦ text_inj h h',
    fun c es h hes ↦ ?_⟩
  · exact ⟨exists_fields h, e.toJson.newline_not_mem_text, decode?_text h⟩
  · have hlines := Console.linesOf_events h es
    exact ⟨hlines, by rw [hlines, mapM_decode? hes]⟩

theorem encoding_faithful_quoted :
    let started := stageStarted .build "ninja \"a b\"" (some (.ofString "/p"))
    let output := stageOutput .build "ninja \"a b\"" ⟨-1, "\\\"\n", "\x00"⟩
    let console := Console.ofFlags false false false .auto true
    started.toJson ≠ output.toJson ∧
      (Text.linesOf (console.transcript
        ([started, output].map fun e ↦ .event e.toJson)).stdout).mapM decode? =
          some [started, output] := by
  intro started output console
  have hstarted : started.IsTextual := by
    rintro p ⟨⟩
    exact ⟨"/p", rfl⟩
  have houtput : output.IsTextual := by
    rintro p ⟨⟩
  have hinj := encoding_faithful.2.2.1 started output hstarted houtput
  refine ⟨fun h ↦ ?_, (encoding_faithful.2.2.2 console [started, output] rfl ?_).2⟩
  · have heq := hinj (by rw [h])
    simp [started, output] at heq
  · exact List.forall_mem_cons.2 ⟨hstarted, List.forall_mem_singleton.2 houtput⟩

end Event

end BuildMatrix
