import BuildMatrix.Pipeline.Rehearsal
import BuildMatrix.Proofs.Json.Strings
import Mathlib.Data.List.Basic
import Mathlib.Data.List.Induction

namespace BuildMatrix

namespace Command

/-- The inside of a quoted word, read from its end up to the quote that opens it: the only one that
no backslash comes before. -/
def insideBack? : List Char → Option (List Char × List Char)
  | [] => none
  | '"' :: '\\' :: r => (insideBack? r).map fun (s, f) ↦ ('"' :: s, f)
  | '"' :: r => some ([], r)
  | c :: r => (insideBack? r).map fun (s, f) ↦ (c :: s, f)

def wordBack? : List Char → Option (List Char × List Char)
  | '"' :: r => insideBack? r
  | r => some (r.takeWhile (· ≠ ' '), r.dropWhile (· ≠ ' '))

def IsBreak (f : List Char) : Prop := f = [] ∨ f.head? = some ' '

section

variable {s f : List Char}

theorem IsBreak.cases (hf : IsBreak f) : f = [] ∨ ∃ g, f = ' ' :: g := by
  cases f with
  | nil => exact .inl rfl
  | cons b g =>
    obtain rfl : b = ' ' := by simpa [IsBreak] using hf
    exact .inr ⟨g, rfl⟩

theorem insideBack?_escaped (hf : IsBreak f) :
    insideBack? ((s.flatMap escapeQuote).reverse ++ '"' :: f) = some (s.reverse, f) := by
  rw [List.reverse_flatMap]
  induction s.reverse with
  | nil => obtain rfl | ⟨g, rfl⟩ := hf.cases <;> rfl
  | cons c t ih =>
    by_cases hc : c = '"'
    · subst hc
      simp [escapeQuote, insideBack?, ih]
    · simp [escapeQuote, insideBack?, hc, ih]

theorem needsQuotes_eq_false (h : needsQuotes s = false) : s ≠ [] ∧ ' ' ∉ s ∧ '"' ∉ s := by
  simp only [needsQuotes, Bool.or_eq_false_iff, List.any_eq_false] at h
  refine ⟨?_, fun hblank ↦ h.2 _ hblank (by decide), fun hquote ↦ h.2 _ hquote (by decide)⟩
  rintro rfl
  simp at h

theorem wordBack?_of_head? (h : s.head? ≠ some '"') :
    wordBack? s = some (s.takeWhile (· ≠ ' '), s.dropWhile (· ≠ ' ')) := by
  unfold wordBack?
  split
  case h_1 => simp at h
  case h_2 => rfl

/-- Reading from the end finds where the last word begins, whatever it holds. -/
theorem wordBack?_quote (hf : IsBreak f) :
    wordBack? ((quote s).reverse ++ f) = some (s.reverse, f) := by
  unfold quote
  split
  case isTrue => simpa [wordBack?] using insideBack?_escaped hf
  case isFalse h =>
    obtain ⟨hne, hblank, hquote⟩ := needsQuotes_eq_false (Bool.eq_false_iff.2 h)
    have hall : ∀ c ∈ s.reverse, decide (c ≠ ' ') = true := by
      intro c hc
      exact decide_eq_true fun h ↦ hblank (List.mem_reverse.1 (h ▸ hc))
    have hhead : (s.reverse ++ f).head? ≠ some '"' := by
      obtain ⟨c, t, ht⟩ := List.exists_cons_of_ne_nil (mt List.reverse_eq_nil_iff.1 hne)
      have hc : c ∈ s := List.mem_reverse.1 (by simp [ht])
      rw [ht, List.cons_append, List.head?_cons, Ne, Option.some_inj]
      rintro rfl
      exact hquote hc
    rw [wordBack?_of_head? hhead, List.takeWhile_append_of_pos hall,
      List.dropWhile_append_of_pos hall]
    obtain rfl | ⟨g, rfl⟩ := hf.cases <;> simp

example : wordBack? (['x', ' '] ++ quote ['a', ' ', '\\']).reverse =
    some (['\\', ' ', 'a'], [' ', 'x']) := by decide

end

def before (ws : List (List Char)) : List Char := ws.flatMap fun w ↦ quote w ++ [' ']

section

variable {ws ws' : List (List Char)} {w w' : List Char}

theorem before_append_singleton (ws : List (List Char)) (w : List Char) :
    before (ws ++ [w]) = before ws ++ quote w ++ [' '] := by
  simp [before]

theorem isBreak_before (ws : List (List Char)) : IsBreak (before ws).reverse := by
  induction ws using List.reverseRecOn with
  | nil => exact .inl rfl
  | append_singleton ws w =>
    right
    simp [before_append_singleton]

theorem intercalate_quote (ws : List (List Char)) (w : List Char) :
    [' '].intercalate ((ws ++ [w]).map quote) = before ws ++ quote w := by
  induction ws with
  | nil => simp [before]
  | cons v ws ih =>
    obtain ⟨u, us, hus⟩ : ∃ u us, ws ++ [w] = u :: us := List.exists_cons_of_ne_nil (by simp)
    rw [hus, List.map_cons] at ih
    rw [List.cons_append, hus, List.map_cons, List.map_cons, List.intercalate_cons_cons, ih]
    simp [before]

theorem before_quote_inj (h : before ws ++ quote w = before ws' ++ quote w') :
    w = w' ∧ before ws = before ws' := by
  have hback := congrArg (wordBack? ∘ List.reverse) h
  simp only [Function.comp_apply, List.reverse_append, wordBack?_quote (isBreak_before _)] at hback
  simpa using hback

theorem before_injective (h : before ws = before ws') : ws = ws' := by
  induction ws using List.reverseRecOn generalizing ws' with
  | nil =>
    induction ws' using List.reverseRecOn with
    | nil => rfl
    | append_singleton ws' w' => simp [before] at h
  | append_singleton ws w ih =>
    induction ws' using List.reverseRecOn with
    | nil => simp [before] at h
    | append_singleton ws' w' =>
      rw [before_append_singleton, before_append_singleton, List.append_left_inj] at h
      obtain ⟨rfl, hws⟩ := before_quote_inj h
      rw [ih hws]

end

def SameWords (c c' : Command) : Prop :=
  c.program.display = c'.program.display ∧ c.args = c'.args

variable {c c' : Command}

theorem words_eq_iff : c.words = c'.words ↔ c.SameWords c' := by
  have hmap : Function.Injective (List.map String.toList) :=
    List.map_injective_iff.2 fun _ _ ↦ String.toList_injective
  rw [words, words, List.cons.injEq, String.toList_inj, hmap.eq_iff, SameWords]

/-- A line is read from its end, word by word: where a word begins can be told from what comes
before it, but not where it ends from what follows. -/
theorem display_eq_iff : c.display = c'.display ↔ c.SameWords c' := by
  rw [← words_eq_iff]
  refine ⟨fun h ↦ ?_, fun h ↦ by rw [display, display, h]⟩
  obtain ⟨ws, w, hw⟩ := (List.eq_nil_or_concat' c.words).resolve_left (List.cons_ne_nil _ _)
  obtain ⟨ws', w', hw'⟩ := (List.eq_nil_or_concat' c'.words).resolve_left (List.cons_ne_nil _ _)
  rw [display, display, String.ofList_inj, hw, hw', intercalate_quote, intercalate_quote] at h
  obtain ⟨rfl, hws⟩ := before_quote_inj h
  rw [hw, hw', before_injective hws]

end Command

def Event.command? : Event → Option String
  | stageStarted _ command _ | stageOutput _ command _ => some command
  | _ => none

theorem Event.toJson_of_command? {e : Event} {command : String} (h : e.command? = some command) :
    e.toJson = .null ∨ ∃ fields, e.toJson = .obj (("command", .str command) :: fields) := by
  cases e with
  | stageStarted stage line cwd =>
    obtain rfl : line = command := by simpa [command?] using h
    cases cwd with
    | none => exact .inr ⟨_, rfl⟩
    | some p =>
      rw [toJson]
      cases p.text? with
      | none => exact .inl rfl
      | some s => exact .inr ⟨_, rfl⟩
  | stageOutput stage line output =>
    obtain rfl : line = command := by simpa [command?] using h
    exact .inr ⟨_, rfl⟩
  | _ => simp [command?] at h

theorem Event.command?_inj {e e' : Event} {command command' : String}
    (h : e.command? = some command) (h' : e'.command? = some command') (hnull : e.toJson ≠ .null)
    (htext : e.toJson.text = e'.toJson.text) : command = command' := by
  obtain ⟨fields, hfields⟩ := (toJson_of_command? h).resolve_left hnull
  rcases toJson_of_command? h' with hnull' | ⟨fields', hfields'⟩
  · rw [hfields, hnull', Json.text, Json.text, String.ofList_inj] at htext
    simp [Json.chars] at htext
  · rw [hfields, hfields'] at htext
    exact Json.obj_str_inj htext

namespace Pipeline

theorem mem_entries_give {σ : Type} {p : Progress σ} {stage : Stage} {c : Command} {l : Log.Line}
    (hp : p.entries = []) (h : .log l ∈ (p.give stage c).entries) :
    l.message = "running `" ++ c.display ++ "`" := by
  have hl : l = logLine .info ("running `" ++ c.display ++ "`") [("stage", stage.name)] := by
    simpa [Progress.give, Progress.emit, Progress.log, hp] using h
  rw [hl]
  rfl

end Pipeline

/-- A command line tells which program is run with which arguments, whatever they hold: as it is, in
a pattern that it has to fit exactly, in the text of an event, and in what is logged of a run. -/
theorem Command.display_identifies (c c' : Command) :
    (c.display = c'.display ↔ c.SameWords c') ∧
      (∀ line, (Pipeline.Pattern.exact line).fits c.display = true →
        (Pipeline.Pattern.exact line).fits c'.display = true → c.SameWords c') ∧
      (∀ e e' : Event, e.command? = some c.display → e'.command? = some c'.display →
        e.toJson ≠ .null → e.toJson.text = e'.toJson.text → c.SameWords c') ∧
      ∀ {σ : Type} (world : σ) (stage stage' : Stage) (l : Log.Line),
        .log l ∈ ((Pipeline.Progress.start world).give stage c).entries →
          .log l ∈ ((Pipeline.Progress.start world).give stage' c').entries → c.SameWords c' := by
  refine ⟨display_eq_iff, fun line h h' ↦ ?_, fun e e' h h' hnull htext ↦ ?_,
    fun world stage stage' l h h' ↦ ?_⟩
  · have hline : c.display = line := by simpa [Pipeline.Pattern.fits] using h
    have hline' : c'.display = line := by simpa [Pipeline.Pattern.fits] using h'
    exact display_eq_iff.1 (hline.trans hline'.symm)
  · exact display_eq_iff.1 (Event.command?_inj h h' hnull htext)
  · have hmessage := (Pipeline.mem_entries_give rfl h).symm.trans (Pipeline.mem_entries_give rfl h')
    rw [String.append_left_inj, String.append_right_inj] at hmessage
    exact display_eq_iff.1 hmessage

end BuildMatrix
