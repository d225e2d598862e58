import BuildMatrix.Json
import Mathlib.Tactic.SplitIfs

namespace BuildMatrix.Json

def hexValue (c : Char) : Nat :=
  if c.toNat < 'a'.toNat then c.toNat - '0'.toNat else c.toNat - 'a'.toNat + 10

def named : Char → Char
  | 'n' => '\n'
  | 'r' => '\r'
  | 't' => '\t'
  | 'b' => '\x08'
  | 'f' => '\x0c'
  | c => c

def readChar? : List Char → Option (Char × List Char)
  | '\\' :: 'u' :: '0' :: '0' :: a :: b :: r =>
    some (Char.ofNat (16 * hexValue a + hexValue b), r)
  | '\\' :: c :: r => some (named c, r)
  | c :: r => some (c, r)
  | [] => none

theorem hexValue_hexDigit {n : Nat} (h : n < 16) : hexValue (hexDigit n) = n := by
  have hall : ∀ m < 16, hexValue (hexDigit m) = m := by decide
  exact hall n h

theorem readChar?_escapeChar (c : Char) (r : List Char) :
    readChar? (escapeChar c ++ r) = some (c, r) := by
  unfold escapeChar
  split_ifs with _ hslash _ _ _ _ _ hcontrol
  all_goals try (subst_vars; rfl)
  · have hhigh : c.toNat / 16 < 16 := by omega
    have hlow : c.toNat % 16 < 16 := by omega
    simp [readChar?, hexValue_hexDigit hhigh, hexValue_hexDigit hlow, Nat.div_add_mod]
  · simp [readChar?, hslash]

theorem escapeChar_ne_nil (c : Char) : escapeChar c ≠ [] := by
  intro h
  have hread := readChar?_escapeChar c []
  simp [h, readChar?] at hread

theorem escapeChar_head? (c : Char) : (escapeChar c).head? ≠ some '"' := by
  unfold escapeChar
  split_ifs with hquote
  all_goals simp [hquote]

variable {s t : List Char}

/-- The quote that closes a string is the first one that no backslash comes before. -/
theorem flatMap_escapeChar_inj {r r' : List Char}
    (h : s.flatMap escapeChar ++ '"' :: r = t.flatMap escapeChar ++ '"' :: r') :
    s = t ∧ r = r' := by
  have hne (c : Char) (u v w : List Char) : '"' :: u ≠ (c :: v).flatMap escapeChar ++ w := by
    obtain ⟨d, front, hd⟩ := List.exists_cons_of_ne_nil (escapeChar_ne_nil c)
    intro hc
    rw [List.flatMap_cons, hd] at hc
    apply escapeChar_head? c
    rw [hd, (List.cons.inj hc).1]
    rfl
  induction s generalizing t with
  | nil =>
    cases t with
    | nil => exact ⟨rfl, (List.cons.inj h).2⟩
    | cons d t => exact absurd h (hne d r t _)
  | cons c s ih =>
    cases t with
    | nil => exact absurd h.symm (hne c r' s _)
    | cons d t =>
      rw [List.flatMap_cons, List.flatMap_cons, List.append_assoc, List.append_assoc] at h
      have hread := congrArg readChar? h
      rw [readChar?_escapeChar, readChar?_escapeChar, Option.some_inj, Prod.mk.injEq] at hread
      obtain ⟨rfl, hrest⟩ := hread
      obtain ⟨rfl, hr⟩ := ih hrest
      exact ⟨rfl, hr⟩

theorem quote_append_inj {a b : String} {r r' : List Char} (h : quote a ++ r = quote b ++ r') :
    a = b ∧ r = r' := by
  simp only [quote, List.cons_append, List.append_assoc, List.cons.injEq, true_and] at h
  obtain ⟨hs, hr⟩ := flatMap_escapeChar_inj h
  exact ⟨String.toList_inj.1 hs, hr⟩

theorem obj_str_inj {key a b : String} {fields fields' : List (String × Json)}
    (h : (obj ((key, str a) :: fields)).text = (obj ((key, str b) :: fields')).text) : a = b := by
  have hchars (s : String) (fields : List (String × Json)) : ∃ rest,
      (obj ((key, str s) :: fields)).chars = '\x7b' :: (quote key ++ ':' :: (quote s ++ rest)) := by
    cases fields <;> simp [chars, fieldChars]
  obtain ⟨rest, hrest⟩ := hchars a fields
  obtain ⟨rest', hrest'⟩ := hchars b fields'
  rw [text, text, String.ofList_inj, hrest, hrest', List.cons.injEq, List.append_right_inj,
    List.cons.injEq] at h
  exact (quote_append_inj h.2.2).1

end BuildMatrix.Json
