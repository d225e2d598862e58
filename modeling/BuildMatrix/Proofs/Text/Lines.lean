import BuildMatrix.Text.Lines

namespace BuildMatrix.Text

variable {s l r : List Char}

theorem lines_ne_nil {s : List Char} (h : s ≠ []) : lines s ≠ [] := by
  unfold lines
  split
  · contradiction
  · simp
  · simp
  · split <;> simp

theorem newline_not_mem_of_mem_lines (h : l ∈ lines s) : '\n' ∉ l := by
  induction s using lines.induct generalizing l with
  | case1 => simp [lines] at h
  | case2 r ih =>
    rw [lines, List.mem_cons] at h
    obtain rfl | h := h
    · simp
    · exact ih h
  | case3 r ih =>
    rw [lines, List.mem_cons] at h
    obtain rfl | h := h
    · simp
    · exact ih h
  | case4 c r hc hr hnil ih =>
    rw [lines.eq_4 c r hc hr, hnil, List.mem_singleton] at h
    subst h
    simpa [eq_comm] using hc
  | case5 c r hc hr first rest hlines ih =>
    rw [hlines] at ih
    rw [lines.eq_4 c r hc hr, hlines, List.mem_cons] at h
    obtain rfl | h := h
    · have hfirst : '\n' ∉ first := ih List.mem_cons_self
      simpa [hfirst, eq_comm] using hc
    · exact ih (List.mem_cons_of_mem first h)

/-- Only what ends a line is lost when a text is cut into lines. -/
theorem count_flatten_lines {c : Char} (hnewline : c ≠ '\n') (hreturn : c ≠ '\r') (s : List Char) :
    (lines s).flatten.count c = s.count c := by
  induction s using lines.induct with
  | case1 => rfl
  | case2 r ih => simpa [lines, List.count_cons, hnewline.symm] using ih
  | case3 r ih => simpa [lines, List.count_cons, hnewline.symm, hreturn.symm] using ih
  | case4 d r hd hr hnil ih =>
    rw [hnil] at ih
    rw [lines.eq_4 d r hd hr, hnil, List.count_cons, ← ih]
    simp [List.count_cons]
  | case5 d r hd hr first rest hlines ih =>
    rw [hlines] at ih
    rw [lines.eq_4 d r hd hr, hlines, List.flatten_cons, List.cons_append, List.count_cons,
      ← List.flatten_cons, ih, List.count_cons]

/-- The rows of a text, each up to a newline; unlike a line, a row keeps a carriage return. -/
def rows : List Char → List (List Char)
  | [] => []
  | '\n' :: r => [] :: rows r
  | c :: r =>
    match rows r with
    | [] => [[c]]
    | l :: ls => (c :: l) :: ls

theorem rows_append_newline (h : '\n' ∉ l) (r : List Char) :
    rows (l ++ '\n' :: r) = l :: rows r := by
  induction l with
  | nil => rfl
  | cons c l ih =>
    rw [List.mem_cons, not_or] at h
    have hc : c = '\n' → False := fun hc ↦ h.1 hc.symm
    rw [List.cons_append, rows.eq_3 c _ hc, ih h.2]

theorem rows_flatMap {ls : List (List Char)} (h : ∀ l ∈ ls, '\n' ∉ l) (r : List Char) :
    rows (ls.flatMap (fun l ↦ l ++ ['\n']) ++ r) = ls ++ rows r := by
  induction ls with
  | nil => rfl
  | cons l ls ih =>
    have hrest := ih fun l' hl' ↦ h l' (List.mem_cons_of_mem l hl')
    rw [List.flatMap_cons, List.append_assoc, List.append_assoc, List.singleton_append,
      rows_append_newline (h l List.mem_cons_self), hrest, List.cons_append]

end BuildMatrix.Text
