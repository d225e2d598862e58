import Mathlib
import BuildMatrix.CommandLine.Commands
import BuildMatrix.Proofs.Diagnostic.Blocks
import BuildMatrix.Proofs.Json.OneLine
import BuildMatrix.Proofs.Text.Trim

namespace BuildMatrix

namespace Error

open Text (linesOf)

def capturedLines (text : String) : List String :=
  linesOf (String.ofList (Text.trimEnd text.toList))

/-- What a program wrote under the title of its stream; nothing stands for no lines. -/
def capturedBlock (title text : String) : List (List String) :=
  if capturedLines text = [] then [] else [(title ++ ":") :: capturedLines text]

def captured (title text : String) : List String :=
  if (Text.trim text.toList).isEmpty then []
  else [title ++ ":\n" ++ String.ofList (Text.trimEnd text.toList)]

theorem addCaptured_eq (title text : String) (d : Diagnostic) :
    addCaptured title text d = { d with context := d.context ++ captured title text } := by
  unfold addCaptured captured
  split
  · rw [List.append_nil]
  · rfl

theorem capturedLines_eq_nil_iff {text : String} :
    capturedLines text = [] ↔ Text.trim text.toList = [] := by
  rw [← Text.trimEnd_eq_nil_iff, capturedLines, linesOf, List.map_eq_nil_iff, String.toList_ofList]
  constructor
  · exact fun h ↦ by_contra fun hne ↦ Text.lines_ne_nil hne h
  · intro h
    rw [h]
    rfl

theorem map_linesOf_captured {title : String} (h : IsPlain (title ++ ":").toList) (text : String) :
    (captured title text).map linesOf = capturedBlock title text := by
  unfold captured capturedBlock
  split
  case isTrue hblank =>
    rw [if_pos (capturedLines_eq_nil_iff.2 (List.isEmpty_iff.1 hblank)), List.map_nil]
  case isFalse hblank =>
    have htext (t : String) : (title ++ ":\n" ++ t).toList =
        (title ++ ":").toList ++ '\n' :: t.toList := by simp
    have hlines (t : String) : linesOf (title ++ ":\n" ++ t) = (title ++ ":") :: linesOf t := by
      rw [linesOf, htext, Text.lines_append_newline h, List.map_cons, String.ofList_toList, linesOf]
    have hsome : capturedLines text ≠ [] :=
      fun hnil ↦ hblank (List.isEmpty_iff.2 (capturedLines_eq_nil_iff.1 hnil))
    rw [if_neg hsome, List.map_singleton, hlines, capturedLines]

theorem capturedBlock_inj {title title' out err out' err' : String}
    (htitle : title ++ ":" ≠ title' ++ ":")
    (h : capturedBlock title out ++ capturedBlock title' err =
      capturedBlock title out' ++ capturedBlock title' err') :
    capturedLines out = capturedLines out' ∧ capturedLines err = capturedLines err' := by
  unfold capturedBlock at h
  generalize title ++ ":" = t, title' ++ ":" = t' at h htitle
  generalize capturedLines out = a, capturedLines err = b, capturedLines out' = a',
    capturedLines err' = b' at h ⊢
  cases a <;> cases b <;> cases a' <;> cases b' <;> simp_all

theorem isPlain_name (stage : Stage) : IsPlain stage.name.toList := by
  cases stage <;> exact isPlain_of_all (by decide +kernel)

theorem eq_of_name_append {stage stage' : Stage} {s s' : String}
    (h : stage.name ++ s = stage'.name ++ s') : stage = stage' := by
  have hfirst (x : Stage) (t : String) : (x.name ++ t).toList.head? = x.name.toList.head? := by
    rw [String.toList_append, List.head?_append]
    cases x <;> rfl
  have hhead := congrArg (fun t : String ↦ t.toList.head?) h
  rw [hfirst, hfirst] at hhead
  revert hhead
  cases stage <;> cases stage' <;> decide +kernel

def headline (stage : Stage) (code : Int) : String :=
  stage.name ++ " step failed with exit code " ++ toString code

theorem headline_inj {stage stage' : Stage} {code code' : Int}
    (h : headline stage code = headline stage' code') : stage = stage' ∧ code = code' := by
  rw [headline, headline, String.append_assoc, String.append_assoc] at h
  obtain rfl := eq_of_name_append h
  rw [String.append_right_inj, String.append_right_inj] at h
  exact ⟨rfl, Int.repr_inj.1 h⟩

theorem newline_not_mem_headline (stage : Stage) (code : Int) :
    '\n' ∉ (headline stage code).toList := by
  have hphrase : IsPlain " step failed with exit code ".toList :=
    isPlain_of_all (by decide +kernel)
  have hplain : IsPlain (headline stage code).toList := by
    rw [headline, String.toList_append, String.toList_append]
    exact isPlain_append.2
      ⟨isPlain_append.2 ⟨isPlain_name stage, hphrase⟩, Json.isPlain_toString code⟩
  exact fun hnewline ↦ absurd (hplain '\n' hnewline) (by decide)

def failure (stage : Stage) (command : String) (o : StageOutput) (hints : List String) :
    Diagnostic :=
  { (stageFailed stage command o).toDiagnostic with suggestions := hints }

section

variable {stage stage' : Stage} {command command' : String} {o o' : StageOutput}

theorem failure_eq (hints : List String) : failure stage command o hints =
    { message := headline stage o.code
      context := ("command: " ++ command) :: (captured "stdout" o.stdout ++
        captured "stderr" o.stderr)
      suggestions := hints } := by
  simp only [failure, toDiagnostic, addCaptured_eq, Diagnostic.error, Diagnostic.withContext,
    List.nil_append, List.singleton_append]
  rfl

theorem captured_ne_empty {title text t : String} (h : t ∈ captured title text) : t ≠ "" := by
  unfold captured at h
  split at h
  · simp at h
  · rintro rfl
    simpa using congrArg String.toList (List.mem_singleton.1 h)

variable (hints : List String)

theorem failure_location : (failure stage command o hints).location = none := by rw [failure_eq]

theorem failure_message : (failure stage command o hints).message = headline stage o.code := by
  rw [failure_eq]

theorem failure_context : (failure stage command o hints).context =
    ("command: " ++ command) :: (captured "stdout" o.stdout ++ captured "stderr" o.stderr) := by
  rw [failure_eq]

theorem newline_not_mem_message : '\n' ∉ (failure stage command o hints).message.toList := by
  rw [failure_message]
  exact newline_not_mem_headline stage o.code

theorem context_ne_empty : ∀ t ∈ (failure stage command o hints).context, t ≠ "" := by
  rw [failure_context]
  intro t ht
  obtain rfl | ht := List.mem_cons.1 ht
  · simp
  · exact (List.mem_append.1 ht).elim captured_ne_empty captured_ne_empty

theorem blocks_failure (color : Bool) :
    Diagnostic.blocks ((failure stage command o hints).format color) =
      linesOf ("command: " ++ command) ::
        (capturedBlock "stdout" o.stdout ++ capturedBlock "stderr" o.stderr) := by
  have hstdout : IsPlain ("stdout" ++ ":").toList := isPlain_of_all (by decide +kernel)
  have hstderr : IsPlain ("stderr" ++ ":").toList := isPlain_of_all (by decide +kernel)
  rw [Diagnostic.blocks_format color (failure_location hints) (newline_not_mem_message hints)
    (context_ne_empty hints), failure_context, List.map_cons, List.map_append,
    map_linesOf_captured hstdout, map_linesOf_captured hstderr]

theorem rows_failure (color : Bool) :
    (Text.rows ((failure stage command o hints).format color).toList).head? =
      some ((Diagnostic.heading color 31 "error").toList ++
        ':' :: ' ' :: (headline stage o.code).toList) := by
  rw [Diagnostic.rows_format color (failure_location hints) (newline_not_mem_message hints),
    failure_message, List.head?_cons]

/-- The same stage that failed in the same way, with the same lines on each stream. -/
def SameFailure (stage stage' : Stage) (o o' : StageOutput) : Prop :=
  stage = stage' ∧ o.code = o'.code ∧ capturedLines o.stdout = capturedLines o'.stdout ∧
    capturedLines o.stderr = capturedLines o'.stderr

theorem sameFailure_of_format {color : Bool} {hints hints' : List String}
    (h : (failure stage command o hints).format color =
      (failure stage' command' o' hints').format color) : SameFailure stage stage' o o' := by
  have hrows := congrArg (fun text : String ↦ (Text.rows text.toList).head?) h
  rw [rows_failure, rows_failure, Option.some_inj, List.append_right_inj, List.cons_inj_right,
    List.cons_inj_right, String.toList_inj] at hrows
  obtain ⟨hstage, hcode⟩ := headline_inj hrows
  have hblocks := congrArg Diagnostic.blocks h
  rw [blocks_failure, blocks_failure, List.cons.injEq] at hblocks
  obtain ⟨hout, herr⟩ := capturedBlock_inj (by decide +kernel) hblocks.2
  exact ⟨hstage, hcode, hout, herr⟩

theorem toDiagnostic_eq_failure :
    (stageFailed stage command o).toDiagnostic = failure stage command o [] := by
  simp [failure, toDiagnostic, addCaptured_eq, Diagnostic.error, Diagnostic.withContext]

theorem renderFailure_eq (stage : Stage) (command : String) (o : StageOutput)
    (s : CommandLine.Session) (h : s.console.isJson = false) :
    ∃ hint, s.renderFailure (stageFailed stage command o) =
      .err ((failure stage command o [hint]).format s.console.useColor) := by
  rw [CommandLine.Session.renderFailure, h, if_neg Bool.false_ne_true, toDiagnostic_eq_failure]
  exact ⟨_, rfl⟩

end

/-- Failures of stages with the same text, with or without a suggestion, have the same lines on each
stream. The text is read back into the command and what stands under each title, and nothing that
was captured is taken for the beginning of another part. -/
theorem failure_told (stage stage' : Stage) (command command' : String) (o o' : StageOutput) :
    let e := stageFailed stage command o
    let e' := stageFailed stage' command' o'
    (∀ color, e.toDiagnostic.format color = e'.toDiagnostic.format color →
      SameFailure stage stage' o o') ∧
      (∀ s : CommandLine.Session, s.console.isJson = false →
        s.renderFailure e = s.renderFailure e' → SameFailure stage stage' o o') ∧
      ∀ color hints,
        Diagnostic.blocks ({ e.toDiagnostic with suggestions := hints }.format color) =
          linesOf ("command: " ++ command) ::
            (capturedBlock "stdout" o.stdout ++ capturedBlock "stderr" o.stderr) := by
  refine ⟨fun color h ↦ ?_, fun s hs h ↦ ?_, fun color hints ↦ blocks_failure hints color⟩
  · rw [toDiagnostic_eq_failure, toDiagnostic_eq_failure] at h
    exact sameFailure_of_format h
  · obtain ⟨hint, hrender⟩ := renderFailure_eq stage command o s hs
    obtain ⟨hint', hrender'⟩ := renderFailure_eq stage' command' o' s hs
    rw [hrender, hrender'] at h
    exact sameFailure_of_format (congrArg Output.stderr h)

end Error

end BuildMatrix
