import BuildMatrix.Json
import BuildMatrix.Text.Lines
import Mathlib.Tactic.SplitIfs

namespace BuildMatrix

def IsPlain (s : List Char) : Prop := ∀ c ∈ s, 0x20 ≤ c.toNat

section

variable {s t : List Char} {c : Char}

theorem isPlain_append : IsPlain (s ++ t) ↔ IsPlain s ∧ IsPlain t := List.forall_mem_append

theorem isPlain_cons : IsPlain (c :: s) ↔ 0x20 ≤ c.toNat ∧ IsPlain s := List.forall_mem_cons

theorem isPlain_of_all (h : s.all (fun c ↦ 0x20 ≤ c.toNat) = true) : IsPlain s := by
  simpa [IsPlain] using h

end

namespace Json

theorem isPlain_hexDigit {n : Nat} (h : n < 16) : 0x20 ≤ (hexDigit n).toNat := by
  have hall : ∀ m < 16, 0x20 ≤ (hexDigit m).toNat := by decide
  exact hall n h

theorem isPlain_escapeChar (c : Char) : IsPlain (escapeChar c) := by
  unfold escapeChar
  split_ifs with _ _ _ _ _ _ _ hc
  all_goals try exact isPlain_of_all (by decide)
  · have hhigh : c.toNat / 16 < 16 := by omega
    have hlow : c.toNat % 16 < 16 := by omega
    have hfront : IsPlain ['\\', 'u', '0', '0'] := isPlain_of_all (by decide)
    refine isPlain_append.2 ⟨hfront, ?_⟩
    simp [IsPlain, isPlain_hexDigit hhigh, isPlain_hexDigit hlow]
  · simpa [IsPlain] using hc

theorem isPlain_quote (s : String) : IsPlain (quote s) := by
  have hquote : IsPlain ['"'] := isPlain_of_all (by decide)
  have hinside : IsPlain (s.toList.flatMap escapeChar) := by
    intro c hc
    obtain ⟨d, -, hd⟩ := List.mem_flatMap.1 hc
    exact isPlain_escapeChar d c hd
  exact isPlain_cons.2 ⟨by decide, isPlain_append.2 ⟨hinside, hquote⟩⟩

theorem isPlain_toString (i : Int) : IsPlain (toString i).toList := by
  have hnat (n : Nat) : IsPlain n.repr.toList := by
    intro c hc
    rw [Nat.toList_repr] at hc
    have hdigit : c.isDigit = true := Nat.isDigit_of_mem_toDigits (by decide) (by decide) hc
    have hlow : '0'.toNat ≤ c.toNat := (Bool.and_eq_true_iff.1 hdigit).1 |> of_decide_eq_true
    exact Nat.le_trans (by decide) hlow
  change IsPlain i.repr.toList
  cases i with
  | ofNat n => exact hnat n
  | negSucc n =>
    change IsPlain ("-" ++ (n + 1).repr).toList
    rw [String.toList_append]
    exact isPlain_append.2 ⟨isPlain_of_all (by decide), hnat (n + 1)⟩

mutual

theorem isPlain_chars : ∀ j : Json, IsPlain (chars j)
  | null => isPlain_of_all (by decide)
  | bool true => isPlain_of_all (by decide)
  | bool false => isPlain_of_all (by decide)
  | int i => isPlain_toString i
  | str s => isPlain_quote s
  | arr items => by
    have hclose : IsPlain [']'] := isPlain_of_all (by decide)
    exact isPlain_cons.2 ⟨by decide, isPlain_append.2 ⟨isPlain_itemChars items, hclose⟩⟩
  | obj fields => by
    have hclose : IsPlain ['\x7d'] := isPlain_of_all (by decide)
    exact isPlain_cons.2 ⟨by decide, isPlain_append.2 ⟨isPlain_fieldChars fields, hclose⟩⟩

theorem isPlain_itemChars : ∀ items : List Json, IsPlain (itemChars items)
  | [] => isPlain_of_all rfl
  | [a] => isPlain_chars a
  | a :: b :: rest => isPlain_append.2
    ⟨isPlain_chars a, isPlain_cons.2 ⟨by decide, isPlain_itemChars (b :: rest)⟩⟩

theorem isPlain_fieldChars : ∀ fields : List (String × Json), IsPlain (fieldChars fields)
  | [] => isPlain_of_all rfl
  | [(k, a)] => isPlain_append.2 ⟨isPlain_quote k, isPlain_cons.2 ⟨by decide, isPlain_chars a⟩⟩
  | (k, a) :: b :: rest => by
    have hfield : IsPlain (quote k ++ ':' :: chars a) :=
      isPlain_append.2 ⟨isPlain_quote k, isPlain_cons.2 ⟨by decide, isPlain_chars a⟩⟩
    exact isPlain_append.2 ⟨hfield, isPlain_cons.2 ⟨by decide, isPlain_fieldChars (b :: rest)⟩⟩

end

def line (j : Json) : String := j.text ++ "\n"

def lines (js : List Json) : String := String.join (js.map line)

theorem lines_cons (j : Json) (js : List Json) : lines (j :: js) = j.line ++ lines js := by
  rw [lines, List.map_cons, String.join_cons]
  rfl

theorem lines_nil : lines [] = "" := String.join_nil

theorem lines_singleton (j : Json) : lines [j] = j.line := by
  rw [lines_cons, lines_nil, String.append_empty]

theorem lines_append (js ks : List Json) : lines (js ++ ks) = lines js ++ lines ks := by
  rw [lines, List.map_append, String.join_append]
  rfl

theorem isPlain_text (j : Json) : IsPlain j.text.toList := by
  rw [text, String.toList_ofList]
  exact isPlain_chars j

end Json

namespace Text

theorem lines_append_newline {s : List Char} (hs : IsPlain s) (rest : List Char) :
    lines (s ++ '\n' :: rest) = s :: lines rest := by
  induction s with
  | nil => rfl
  | cons c s ih =>
    obtain ⟨hc, hs⟩ := isPlain_cons.1 hs
    have hnewline : c ≠ '\n' := by rintro rfl; simp at hc
    have hreturn : c ≠ '\r' := by rintro rfl; simp at hc
    rw [List.cons_append, lines, ih hs]
    · exact fun h ↦ hnewline h
    · rintro _ h
      exact absurd h hreturn

/-- Values that are written one after the other are told apart by their lines. -/
theorem linesOf_lines (js : List Json) : linesOf (Json.lines js) = js.map Json.text := by
  have hlines : lines (Json.lines js).toList = js.map fun j ↦ j.text.toList := by
    rw [Json.lines, String.toList_join]
    induction js with
    | nil => rfl
    | cons j js ih =>
      rw [List.map_cons, List.flatMap_cons, Json.line, String.toList_append, List.append_assoc]
      exact (lines_append_newline j.isPlain_text _).trans (congrArg _ ih)
  rw [linesOf, hlines, List.map_map]
  simp [Function.comp_def]

end Text

end BuildMatrix
