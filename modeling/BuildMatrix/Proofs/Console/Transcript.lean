import BuildMatrix.Proofs.Console.Formats
import BuildMatrix.Proofs.Text.Lines

namespace BuildMatrix

namespace Text

/-- A newline ends a line whatever comes before it, a carriage return included. -/
theorem lines_append_of_newline (s r : List Char) :
    lines (s ++ '\n' :: r) = lines (s ++ ['\n']) ++ lines r := by
  induction s with
  | nil => rfl
  | cons c s ih =>
    by_cases hnewline : c = '\n'
    · subst hnewline
      simp [lines, ih]
    by_cases hreturn : c = '\r' ∧ s.head?.all (· = '\n')
    · obtain ⟨rfl, hs⟩ := hreturn
      cases s with
      | nil => rfl
      | cons d s =>
        obtain rfl : d = '\n' := by simpa using hs
        simpa [lines] using ih
    · have hnot (t u : List Char) (hc : c = '\r') (hu : s ++ '\n' :: t = '\n' :: u) : False := by
        refine hreturn ⟨hc, ?_⟩
        cases s <;> simp_all
      obtain ⟨l, ls, hl⟩ := List.exists_cons_of_ne_nil (lines_ne_nil (s := s ++ ['\n']) (by simp))
      rw [List.cons_append, List.cons_append, lines.eq_4 c _ hnewline (hnot r),
        lines.eq_4 c _ hnewline (hnot []), ih, hl]
      rfl

/-- Nothing but whole lines: what is written next starts a line of its own. -/
def IsWhole (s : String) : Prop := s = "" ∨ s.toList.getLast? = some '\n'

theorem isWhole_append_newline (s : String) : IsWhole (s ++ "\n") := .inr (by simp)

theorem isWhole_endLine (s : String) : IsWhole (endLine s) := by
  unfold endLine
  split
  case isTrue h => exact .inr h
  case isFalse => exact isWhole_append_newline s

theorem linesOf_append {s : String} (h : IsWhole s) (r : String) :
    linesOf (s ++ r) = linesOf s ++ linesOf r := by
  rcases h with rfl | h
  · rw [String.empty_append]
    rfl
  · obtain ⟨t, ht⟩ := List.getLast?_eq_some_iff.1 h
    have hlines : lines (t ++ '\n' :: r.toList) = lines (t ++ ['\n']) ++ lines r.toList :=
      lines_append_of_newline t r.toList
    simp only [linesOf, String.toList_append, ht, List.append_assoc, List.singleton_append, hlines,
      List.map_append]

theorem linesOf_join {parts : List String} (h : ∀ s ∈ parts, IsWhole s) :
    linesOf (String.join parts) = parts.flatMap linesOf := by
  induction parts with
  | nil => rfl
  | cons s rest ih =>
    rw [List.forall_mem_cons] at h
    rw [String.join_cons, linesOf_append h.1, ih h.2, List.flatMap_cons]

end Text

theorem Json.newline_not_mem_text (j : Json) : '\n' ∉ j.text.toList := by
  intro h
  have hplain := j.isPlain_text _ h
  exact absurd hplain (by decide)

namespace Console

def transcript (c : Console) (calls : List Call) : Output := Output.join (calls.map c.write)

def Call.told? : Call → Option Json
  | error message => some (.ofError message)
  | event j => some j
  | status .. | note _ | raw _ => none

def Call.isLoud : Call → Bool
  | error _ | raw _ => true
  | status s _ => s == .error
  | note _ | event _ => false

variable {c : Console} (call : Call) (calls : List Call)

theorem transcript_cons : c.transcript (call :: calls) = c.write call ++ c.transcript calls := rfl

theorem write_of_isJson (h : c.isJson = true) :
    c.write call = match call.told? with
      | some j => .out j.line
      | none => {} := by
  cases call with
  | status s message => exact status_of_isJson h s message
  | note message => exact status_of_isJson h .info message
  | error message => exact error_of_isJson h message
  | raw text => simp [write, raw, h, Call.told?]
  | event j => exact event_of_isJson h j

theorem transcript_of_isJson (h : c.isJson = true) :
    c.transcript calls = .out (Json.lines (calls.filterMap Call.told?)) := by
  induction calls with
  | nil => rfl
  | cons call calls ih =>
    rw [transcript_cons, write_of_isJson call h, ih, List.filterMap_cons]
    cases call.told? with
    | none => exact Output.empty_append _
    | some j =>
      rw [Json.lines_cons]
      rfl

theorem stdout_write (h : c.isJson = false) : (c.write call).stdout = "" := by
  cases call with
  | status s message => exact stdout_status s message
  | note message => exact stdout_status .info message
  | error message => exact stdout_error h message
  | raw text => exact stdout_raw text
  | event j => simp [write, event, h]

theorem stdout_transcript (h : c.isJson = false) : (c.transcript calls).stdout = "" := by
  induction calls with
  | nil => rfl
  | cons call calls ih =>
    rw [transcript_cons, Output.stdout_append, stdout_write call h, ih, String.append_empty]

theorem isWhole_status (s : Status) (message : String) :
    Text.IsWhole (c.status s message).stderr := by
  unfold status
  split
  · exact .inl rfl
  · exact Text.isWhole_append_newline _

theorem isWhole_event (j : Json) : Text.IsWhole (c.event j).stderr := by
  unfold event
  split <;> exact .inl rfl

theorem isWhole_write : Text.IsWhole (c.write call).stderr := by
  cases call with
  | status s message => exact isWhole_status s message
  | note message => exact isWhole_status .info message
  | error message =>
    rw [write, error]
    split
    · exact isWhole_event _
    · exact isWhole_status .error message
  | raw text =>
    rw [write, raw]
    split
    · exact .inl rfl
    · exact Text.isWhole_endLine text
  | event j => exact isWhole_event j

theorem stderr_transcript :
    (c.transcript calls).stderr = String.join (calls.map fun call ↦ (c.write call).stderr) := by
  rw [transcript, Output.stderr_join, List.map_map]
  rfl

section

variable (terminal : Bool) (color : ColorChoice)

def human (verbosity : Verbosity) : Console := ofMode terminal (.human verbosity color)

theorem write_verbose :
    (human terminal color .verbose).write call = (human terminal color .normal).write call := by
  cases color <;> cases call <;> rfl

theorem write_quiet : (human terminal color .quiet).write call =
    if call.isLoud then (human terminal color .normal).write call else {} := by
  cases call with
  | status s message => cases color <;> cases s <;> rfl
  | _ => cases color <;> rfl

theorem transcript_verbose : (human terminal color .verbose).transcript calls =
    (human terminal color .normal).transcript calls :=
  congrArg Output.join (List.map_congr_left fun call _ ↦ write_verbose call terminal color)

theorem transcript_quiet : (human terminal color .quiet).transcript calls =
    (human terminal color .normal).transcript (calls.filter Call.isLoud) := by
  induction calls with
  | nil => rfl
  | cons call calls ih =>
    rw [transcript_cons, write_quiet, ih, List.filter_cons]
    split
    · rfl
    · exact Output.empty_append _

end

theorem isJson_ofFlags (terminal quiet verbose : Bool) (color : ColorChoice) (json : Bool) :
    (ofFlags terminal quiet verbose color json).isJson = json := by
  cases json <;> rfl

/-- For programs a console writes a line for each error and each event, and nothing else; for people
it writes whole lines to the other stream, the same ones in full detail, and just those of errors
and of captured text if it is quiet. The format for programs is chosen by its own flag alone. -/
theorem transcript_exclusive (calls : List Call) :
    (∀ c : Console, c.isJson = true →
      let told := calls.filterMap Call.told?
      (c.transcript calls).stderr = "" ∧ (c.transcript calls).stdout = Json.lines told ∧
        Text.linesOf (c.transcript calls).stdout = told.map Json.text ∧
        ∀ j ∈ told, '\n' ∉ j.text.toList) ∧
      (∀ c : Console, c.isJson = false →
        let pieces := calls.map fun call ↦ (c.write call).stderr
        (c.transcript calls).stdout = "" ∧ (c.transcript calls).stderr = String.join pieces ∧
          (∀ piece ∈ pieces, Text.IsWhole piece) ∧
          Text.linesOf (c.transcript calls).stderr = pieces.flatMap Text.linesOf) ∧
      (∀ terminal color,
        let normal := human terminal color .normal
        (human terminal color .verbose).transcript calls = normal.transcript calls ∧
          (human terminal color .quiet).transcript calls =
            normal.transcript (calls.filter Call.isLoud)) ∧
      ∀ terminal quiet verbose color json,
        (ofFlags terminal quiet verbose color json).isJson = json := by
  refine ⟨fun c h ↦ ?_, fun c h ↦ ?_, fun terminal color ↦ ?_, isJson_ofFlags⟩
  · intro told
    rw [transcript_of_isJson calls h]
    exact ⟨rfl, rfl, Text.linesOf_lines told, fun j _ ↦ j.newline_not_mem_text⟩
  · intro pieces
    have hwhole : ∀ piece ∈ pieces, Text.IsWhole piece := by
      intro piece hpiece
      obtain ⟨call, -, rfl⟩ := List.mem_map.1 hpiece
      exact isWhole_write call
    have hstderr : (c.transcript calls).stderr = String.join pieces := stderr_transcript calls
    refine ⟨stdout_transcript calls h, hstderr, hwhole, ?_⟩
    rw [hstderr, Text.linesOf_join hwhole]
  · exact ⟨transcript_verbose calls terminal color, transcript_quiet calls terminal color⟩

end Console

end BuildMatrix
