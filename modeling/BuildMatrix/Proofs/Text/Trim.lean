import BuildMatrix.Text.Blank
import Mathlib.Data.List.TakeWhile

namespace BuildMatrix.Text

variable {s m before after : List Char} {c : Char}

/-- What is left of a text without the blanks around it. -/
def IsMiddle (s m : List Char) : Prop :=
  ∃ before after, s = before ++ m ++ after ∧ (∀ c ∈ before, isBlank c = true) ∧
    (∀ c ∈ after, isBlank c = true) ∧ (∀ c ∈ m.head?, isBlank c = false) ∧
    ∀ c ∈ m.getLast?, isBlank c = false

theorem trim_append_of_blank (hbefore : ∀ c ∈ before, isBlank c = true)
    (hafter : ∀ c ∈ after, isBlank c = true) : trim (before ++ s ++ after) = trim s := by
  have hend (t : List Char) : trimEnd (t ++ after) = trimEnd t := by
    have hreverse : ∀ c ∈ after.reverse, isBlank c = true := fun c hc ↦
      hafter c (List.mem_reverse.1 hc)
    rw [trimEnd, List.reverse_append, List.dropWhile_append_of_pos hreverse, trimEnd]
  unfold trim trimStart
  rw [List.append_assoc, List.dropWhile_append_of_pos hbefore, List.dropWhile_append]
  split
  case isTrue hs =>
    -- A text of blanks only leaves nothing, with more blanks or without.
    rw [List.isEmpty_iff.1 hs, List.dropWhile_eq_nil_iff.2 hafter]
  case isFalse => exact hend _

theorem dropWhile_isBlank_of_head? (h : ∀ c ∈ s.head?, isBlank c = false) :
    s.dropWhile isBlank = s := by
  cases s with
  | nil => rfl
  | cons c s => simp [h c rfl]

theorem isBlank_of_mem_head?_dropWhile (h : c ∈ (s.dropWhile isBlank).head?) :
    isBlank c = false := by
  have hnot := List.head?_dropWhile_not isBlank s
  rw [Option.mem_def.1 h] at hnot
  exact hnot

theorem trim_eq_self (hhead : ∀ c ∈ s.head?, isBlank c = false)
    (hlast : ∀ c ∈ s.getLast?, isBlank c = false) : trim s = s := by
  have hreverse : ∀ c ∈ s.reverse.head?, isBlank c = false := by
    rwa [List.head?_reverse]
  rw [trim, trimStart, dropWhile_isBlank_of_head? hhead, trimEnd,
    dropWhile_isBlank_of_head? hreverse, List.reverse_reverse]

theorem trim_eq_iff : trim s = m ↔ IsMiddle s m := by
  constructor
  · rintro rfl
    have hstart : s = s.takeWhile isBlank ++ trimStart s := List.takeWhile_append_dropWhile.symm
    have hend : trimStart s = trim s ++ ((trimStart s).reverse.takeWhile isBlank).reverse := by
      rw [trim, trimEnd, ← List.reverse_append, List.takeWhile_append_dropWhile,
        List.reverse_reverse]
    refine ⟨s.takeWhile isBlank, ((trimStart s).reverse.takeWhile isBlank).reverse, ?_,
      fun c ↦ List.mem_takeWhile_imp, fun c hc ↦ List.mem_takeWhile_imp (List.mem_reverse.1 hc),
      fun c hc ↦ ?_, fun c hc ↦ ?_⟩
    · rw [List.append_assoc, ← hend, ← hstart]
    · have hfirst : c ∈ (trimStart s).head? := by
        rw [hend, List.head?_append, Option.mem_def.1 hc]
        rfl
      exact isBlank_of_mem_head?_dropWhile hfirst
    · rw [trim, trimEnd, List.getLast?_reverse] at hc
      exact isBlank_of_mem_head?_dropWhile hc
  · rintro ⟨before, after, rfl, hbefore, hafter, hhead, hlast⟩
    rw [trim_append_of_blank hbefore hafter, trim_eq_self hhead hlast]

theorem trimEnd_eq_nil_iff : trimEnd s = [] ↔ trim s = [] := by
  have hall (t : List Char) : trimEnd t = [] ↔ ∀ c ∈ t, isBlank c = true := by
    rw [trimEnd, List.reverse_eq_nil_iff, List.dropWhile_eq_nil_iff]
    simp only [List.mem_reverse]
  rw [hall]
  constructor
  · intro h
    rw [trim, trimStart, List.dropWhile_eq_nil_iff.2 h]
    rfl
  · intro h
    obtain ⟨before, after, rfl, hbefore, hafter, -⟩ := trim_eq_iff.1 h
    rw [List.append_nil]
    exact fun c hc ↦ (List.mem_append.1 hc).elim (hbefore c) (hafter c)

end BuildMatrix.Text
