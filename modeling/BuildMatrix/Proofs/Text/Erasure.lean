import BuildMatrix.Proofs.Console.Transcript

namespace BuildMatrix.Text

def isParameter (c : Char) : Bool := c.isDigit || c == ';'

def afterParameters? : List Char → Option (List Char)
  | [] => none
  | c :: r => if isParameter c then afterParameters? r else if c = 'm' then some r else none

def afterPaint? : List Char → Option (List Char)
  | '\x1b' :: '[' :: r => afterParameters? r
  | _ => none

variable {s r rest : List Char} {c : Char}

theorem afterParameters?_append {ps : List Char} (h : ∀ c ∈ ps, isParameter c = true)
    (r : List Char) : afterParameters? (ps ++ 'm' :: r) = some r := by
  induction ps with
  | nil => rfl
  | cons c ps ih =>
    rw [List.forall_mem_cons] at h
    rw [List.cons_append, afterParameters?, if_pos h.1, ih h.2]

theorem length_afterParameters? (h : afterParameters? s = some rest) : rest.length < s.length := by
  induction s with
  | nil => simp [afterParameters?] at h
  | cons c s ih =>
    unfold afterParameters? at h
    split at h
    case isTrue => exact Nat.lt_succ_of_lt (ih h)
    case isFalse =>
      split at h
      · obtain rfl : s = rest := Option.some.inj h
        exact Nat.lt_succ_self _
      · simp at h

theorem length_afterPaint? (h : afterPaint? s = some rest) : rest.length < s.length := by
  unfold afterPaint? at h
  split at h
  case h_1 r =>
    have hlength := length_afterParameters? h
    rw [List.length_cons, List.length_cons]
    omega
  case h_2 => simp at h

/-- A text without the sequences that set a colour. -/
def erase (s : List Char) : List Char :=
  match h : afterPaint? s with
  | some rest =>
    have := length_afterPaint? h
    erase rest
  | none =>
    match s with
    | [] => []
    | c :: r => c :: erase r
termination_by s.length

theorem erase_nil : erase [] = [] := by
  rw [erase]
  rfl

theorem erase_of_some (h : afterPaint? s = some rest) : erase s = erase rest := by
  rw [erase]
  split
  case h_1 rest' h' =>
    rw [h, Option.some.injEq] at h'
    rw [h']
  case h_2 h' => simp [h] at h'

theorem erase_cons_of_none (h : afterPaint? (c :: r) = none) : erase (c :: r) = c :: erase r := by
  rw [erase]
  split
  case h_1 rest' h' => simp [h] at h'
  case h_2 => rfl

theorem afterPaint?_cons_of_ne (hc : c ≠ '\x1b') (r : List Char) : afterPaint? (c :: r) = none := by
  unfold afterPaint?
  split
  case h_1 h => exact absurd (List.cons.inj h).1 hc
  case h_2 => rfl

theorem erase_append_of_notMem (h : '\x1b' ∉ s) (r : List Char) :
    erase (s ++ r) = s ++ erase r := by
  induction s with
  | nil => rfl
  | cons c s ih =>
    rw [List.mem_cons, not_or] at h
    rw [List.cons_append, erase_cons_of_none (afterPaint?_cons_of_ne (Ne.symm h.1) _), ih h.2,
      List.cons_append]

theorem afterParameters?_append_newline (s r : List Char) :
    afterParameters? (s ++ '\n' :: r) = (afterParameters? s).map (· ++ '\n' :: r) := by
  induction s with
  | nil => rfl
  | cons c s ih =>
    rw [List.cons_append, afterParameters?, afterParameters?]
    split
    · exact ih
    · split <;> rfl

theorem afterPaint?_of_not_begun (h : ∀ t, s ≠ '\x1b' :: '[' :: t) : afterPaint? s = none := by
  unfold afterPaint?
  split
  case h_1 t => exact absurd rfl (h t)
  case h_2 => rfl

theorem afterPaint?_append_newline (s r : List Char) :
    afterPaint? (s ++ '\n' :: r) = (afterPaint? s).map (· ++ '\n' :: r) := by
  by_cases hs : ∃ t, s = '\x1b' :: '[' :: t
  · obtain ⟨t, rfl⟩ := hs
    exact afterParameters?_append_newline t r
  · have hnone : ∀ t, s ≠ '\x1b' :: '[' :: t := fun t ht ↦ hs ⟨t, ht⟩
    have hwhole : ∀ t, s ++ '\n' :: r ≠ '\x1b' :: '[' :: t := by
      intro t ht
      rcases s with _ | ⟨a, _ | ⟨b, s⟩⟩
      · simp at ht
      · simp at ht
      · simp only [List.cons_append, List.cons.injEq] at ht
        exact hnone s (by rw [ht.1, ht.2.1])
    rw [afterPaint?_of_not_begun hnone, afterPaint?_of_not_begun hwhole]
    rfl

theorem erase_sequence {ps : List Char} (h : ∀ c ∈ ps, isParameter c = true) (r : List Char) :
    erase ('\x1b' :: '[' :: (ps ++ 'm' :: r)) = erase r :=
  erase_of_some (afterParameters?_append h r)

theorem erase_append_newline (s r : List Char) :
    erase (s ++ '\n' :: r) = erase s ++ '\n' :: erase r := by
  induction hn : s.length using Nat.strongRecOn generalizing s with
  | _ n ih =>
    subst hn
    have hpaint := afterPaint?_append_newline s r
    cases h : afterPaint? s with
    | some rest =>
      rw [h] at hpaint
      rw [erase_of_some hpaint, erase_of_some h]
      exact ih rest.length (length_afterPaint? h) rest rfl
    | none =>
      rw [h] at hpaint
      cases s with
      | nil => rw [List.nil_append, erase_cons_of_none hpaint, erase_nil, List.nil_append]
      | cons c s =>
        rw [List.cons_append] at hpaint
        rw [List.cons_append, erase_cons_of_none hpaint, erase_cons_of_none h,
          ih s.length (Nat.lt_succ_self _) s rfl, List.cons_append]

example : erase "\x1b[1;31ma\x1b[0m\x1b[3\nm".toList = "a\x1b[3\nm".toList := by cbv

theorem erase_append_of_isWhole {s : String} (h : IsWhole s) (r : List Char) :
    erase (s.toList ++ r) = erase s.toList ++ erase r := by
  rcases h with rfl | h
  · rw [String.toList_empty, List.nil_append, erase_nil, List.nil_append]
  · obtain ⟨t, ht⟩ := List.getLast?_eq_some_iff.1 h
    rw [ht, List.append_assoc, List.singleton_append, erase_append_newline, erase_append_newline,
      erase_nil, List.append_assoc, List.singleton_append]

/-- Pieces of whole lines are erased one by one. -/
theorem erase_join {pieces : List String} (h : ∀ s ∈ pieces, IsWhole s) :
    erase (String.join pieces).toList = pieces.flatMap fun s ↦ erase s.toList := by
  induction pieces with
  | nil => exact erase_nil
  | cons s pieces ih =>
    rw [List.forall_mem_cons] at h
    rw [String.join_cons, String.toList_append, erase_append_of_isWhole h.1, ih h.2,
      List.flatMap_cons]

end BuildMatrix.Text
