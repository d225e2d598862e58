import BuildMatrix.Diagnostic
import BuildMatrix.Proofs.Text.Lines
import Mathlib.Data.List.Basic

namespace BuildMatrix.Diagnostic

open Text (lines linesOf rows)

def marked (l : List Char) : List Char := ' ' :: ' ' :: '=' :: ' ' :: l

def below (l : List Char) : List Char := ' ' :: ' ' :: ' ' :: ' ' :: l

/-- The blocks that rows form up to the first row that belongs to none, and before them the rows of
a block that began earlier. -/
def gather : List (List Char) → List (List Char) × List (List (List Char))
  | (' ' :: ' ' :: '=' :: ' ' :: l) :: rest => ([], (l :: (gather rest).1) :: (gather rest).2)
  | (' ' :: ' ' :: ' ' :: ' ' :: l) :: rest => (l :: (gather rest).1, (gather rest).2)
  | _ => ([], [])

def blocks (text : String) : List (List String) :=
  (gather (rows text.toList).tail).2.map fun b ↦ b.map String.ofList

section

variable {rest : List (List Char)} {begun : List (List Char)} {bs : List (List (List Char))}

theorem gather_marked (l : List Char) (h : gather rest = (begun, bs)) :
    gather (marked l :: rest) = ([], (l :: begun) :: bs) := by
  rw [marked, gather, h]

theorem gather_below (ls : List (List Char)) (h : gather rest = (begun, bs)) :
    gather (ls.map below ++ rest) = (ls ++ begun, bs) := by
  induction ls with
  | nil => exact h
  | cons l ls ih => rw [List.map_cons, List.cons_append, below, gather, ih, List.cons_append]

def contextRows (text : String) : List (List Char) :=
  match lines text.toList with
  | [] => []
  | l :: ls => marked l :: ls.map below

theorem toList_contextText (text : String) :
    (contextText text).toList = (contextRows text).flatMap fun l ↦ l ++ ['\n'] := by
  unfold contextText contextRows linesOf
  cases lines text.toList with
  | nil => rfl
  | cons l ls =>
    simp [marked, below, String.toList_join, List.flatMap_map]

theorem newline_not_mem_contextRows {text : String} {l : List Char} (h : l ∈ contextRows text) :
    '\n' ∉ l := by
  have hlines : ∀ m ∈ lines text.toList, '\n' ∉ m := fun m ↦ Text.newline_not_mem_of_mem_lines
  unfold contextRows at h
  cases hl : lines text.toList with
  | nil => simp [hl] at h
  | cons m ms =>
    rw [hl] at h hlines
    obtain rfl | h := List.mem_cons.1 h
    · simpa [marked] using hlines m List.mem_cons_self
    · obtain ⟨k, hk, rfl⟩ := List.mem_map.1 h
      simpa [below] using hlines k (List.mem_cons_of_mem m hk)

theorem gather_contextRows {text : String} (htext : text ≠ "") (h : gather rest = ([], bs)) :
    gather (contextRows text ++ rest) = ([], lines text.toList :: bs) := by
  have hne : lines text.toList ≠ [] := Text.lines_ne_nil (mt String.toList_eq_nil_iff.1 htext)
  obtain ⟨l, ls, hl⟩ := List.exists_cons_of_ne_nil hne
  have hbelow := gather_below ls h
  rw [List.append_nil] at hbelow
  rw [contextRows, hl]
  exact gather_marked l hbelow

/-- No row of one context is taken for the beginning of another, whatever it holds. -/
theorem gather_contexts {contexts : List String} (hcontexts : ∀ t ∈ contexts, t ≠ "")
    (h : gather rest = ([], [])) : gather (contexts.flatMap contextRows ++ rest) =
      ([], contexts.map fun t ↦ lines t.toList) := by
  induction contexts with
  | nil => exact h
  | cons t ts ih =>
    have hrest := ih fun u hu ↦ hcontexts u (List.mem_cons_of_mem t hu)
    rw [List.flatMap_cons, List.append_assoc, List.map_cons]
    exact gather_contextRows (hcontexts t List.mem_cons_self) hrest

end

theorem gather_suggestionText (color : Bool) (suggestions : List String) :
    gather (rows (suggestionText color suggestions).toList) = ([], []) := by
  unfold suggestionText
  split
  · rfl
  · simp [rows, gather]

variable {d : Diagnostic} (color : Bool)

theorem rows_format (hlocation : d.location = none) (hmessage : '\n' ∉ d.message.toList) :
    rows (d.format color).toList =
      ((heading color 31 "error").toList ++ ':' :: ' ' :: d.message.toList) ::
        (d.context.flatMap contextRows ++ rows (suggestionText color d.suggestions).toList) := by
  have hheading : '\n' ∉ (heading color 31 "error").toList := by cases color <;> decide
  have hfirst : '\n' ∉ (heading color 31 "error").toList ++ ':' :: ' ' :: d.message.toList := by
    simp [hheading, hmessage]
  have hcontext : (String.join (d.context.map contextText)).toList =
      (d.context.flatMap contextRows).flatMap fun l ↦ l ++ ['\n'] := by
    simp only [String.toList_join, List.flatMap_map, toList_contextText, List.flatMap_assoc]
  have hrows : ∀ l ∈ d.context.flatMap contextRows, '\n' ∉ l := by
    intro l hl
    obtain ⟨t, -, hlt⟩ := List.mem_flatMap.1 hl
    exact newline_not_mem_contextRows hlt
  have hformat : (d.format color).toList =
      ((heading color 31 "error").toList ++ ':' :: ' ' :: d.message.toList) ++ '\n' ::
        (((d.context.flatMap contextRows).flatMap fun l ↦ l ++ ['\n']) ++
          (suggestionText color d.suggestions).toList) := by
    simp [format, hlocation, locationText, hcontext]
  rw [hformat, Text.rows_append_newline hfirst, Text.rows_flatMap hrows]

/-- The contexts of a diagnostic are read back from its text line by line, in order, with no line
lost and none added. -/
theorem blocks_format (hlocation : d.location = none) (hmessage : '\n' ∉ d.message.toList)
    (hcontext : ∀ t ∈ d.context, t ≠ "") : blocks (d.format color) = d.context.map linesOf := by
  have hsuggestions := gather_suggestionText color d.suggestions
  rw [blocks, rows_format color hlocation hmessage, List.tail_cons,
    gather_contexts hcontext hsuggestions, List.map_map]
  rfl

end BuildMatrix.Diagnostic
