import BuildMatrix.Proofs.Json.OneLine
import BuildMatrix.Proofs.Json.Strings

namespace BuildMatrix.Json

def readNat? (s : List Char) : Option (Nat × List Char) :=
  let digits := s.takeWhile Char.isDigit
  if digits = [] then none else some (Nat.ofDigitChars 10 digits 0, s.dropWhile Char.isDigit)

def readInt? : List Char → Option (Int × List Char)
  | '-' :: r => (readNat? r).map fun (n, r) ↦ (-n, r)
  | s => (readNat? s).map fun (n, r) ↦ (n, r)

def readChars? : Nat → List Char → Option (List Char × List Char)
  | 0, _ => none
  | _ + 1, '"' :: r => some ([], r)
  | n + 1, s => do
    let (c, r) ← readChar? s
    let (cs, r) ← readChars? n r
    return (c :: cs, r)

mutual

/-- The first value of a compact text, and what follows it. The number bounds the steps. -/
def readValue? : Nat → List Char → Option (Json × List Char)
  | 0, _ => none
  | _ + 1, 'n' :: 'u' :: 'l' :: 'l' :: r => some (null, r)
  | _ + 1, 't' :: 'r' :: 'u' :: 'e' :: r => some (bool true, r)
  | _ + 1, 'f' :: 'a' :: 'l' :: 's' :: 'e' :: r => some (bool false, r)
  | n + 1, '"' :: r => (readChars? n r).map fun (s, r) ↦ (str (String.ofList s), r)
  | _ + 1, '[' :: ']' :: r => some (arr [], r)
  | n + 1, '[' :: r => (readItems? n r).map fun (items, r) ↦ (arr items, r)
  | _ + 1, '\x7b' :: '\x7d' :: r => some (obj [], r)
  | n + 1, '\x7b' :: r => (readFields? n r).map fun (fields, r) ↦ (obj fields, r)
  | _ + 1, s => (readInt? s).map fun (i, r) ↦ (int i, r)

def readItems? : Nat → List Char → Option (List Json × List Char)
  | 0, _ => none
  | n + 1, s => do
    match ← readValue? n s with
    | (a, ',' :: r) => do
      let (items, r) ← readItems? n r
      return (a :: items, r)
    | (a, ']' :: r) => return ([a], r)
    | _ => none

def readFields? : Nat → List Char → Option (List (String × Json) × List Char)
  | n + 1, '"' :: r => do
    let (k, r) ← readChars? n r
    let ':' :: r := r | none
    match ← readValue? n r with
    | (a, ',' :: r) => do
      let (fields, r) ← readFields? n r
      return ((String.ofList k, a) :: fields, r)
    | (a, '\x7d' :: r) => return ([(String.ofList k, a)], r)
    | _ => none
  | _, _ => none

end

def read? (s : String) : Option Json :=
  match readValue? (s.length + 1) s.toList with
  | some (j, []) => some j
  | _ => none

def Ended (s : List Char) : Prop := ∀ c ∈ s.head?, c.isDigit = false

variable {n : Nat} {r rest : List Char}

theorem ended_cons {c : Char} (h : c.isDigit = false) : Ended (c :: r) := by
  simpa [Ended] using h

theorem isDigit_repr (n : Nat) : ∀ c ∈ n.repr.toList, c.isDigit = true := by
  intro c hc
  rw [Nat.toList_repr] at hc
  exact Nat.isDigit_of_mem_toDigits (by decide) (by decide) hc

theorem exists_repr (n : Nat) : ∃ c r, n.repr.toList = c :: r ∧ c.isDigit = true := by
  obtain ⟨c, r, hr⟩ := List.exists_cons_of_ne_nil (Nat.toDigits_ne_nil (n := n) (b := 10))
  rw [← Nat.toList_repr] at hr
  exact ⟨c, r, hr, isDigit_repr n c (hr ▸ List.mem_cons_self)⟩

theorem readNat?_repr (n : Nat) (h : Ended rest) :
    readNat? (n.repr.toList ++ rest) = some (n, rest) := by
  have hall := isDigit_repr n
  have htake : rest.takeWhile Char.isDigit = [] := by
    cases rest with
    | nil => rfl
    | cons c r => exact List.takeWhile_cons_of_neg (by simp [h c rfl])
  have hdrop : rest.dropWhile Char.isDigit = rest := by
    cases rest with
    | nil => rfl
    | cons c r => exact List.dropWhile_cons_of_neg (by simp [h c rfl])
  rw [readNat?, List.takeWhile_append_of_pos hall, List.dropWhile_append_of_pos hall, htake, hdrop,
    List.append_nil, Nat.toList_repr, if_neg Nat.toDigits_ne_nil,
    Nat.ofDigitChars_toDigits (by decide) (by decide)]

theorem toString_cases (i : Int) : (∃ n : Nat, i = n ∧ (toString i).toList = n.repr.toList) ∨
    ∃ n : Nat, i = -n ∧ (toString i).toList = '-' :: n.repr.toList := by
  cases i with
  | ofNat n => exact .inl ⟨n, rfl, rfl⟩
  | negSucc n =>
    refine .inr ⟨n + 1, rfl, ?_⟩
    change ("-" ++ (n + 1).repr).toList = _
    rw [String.toList_append]
    rfl

theorem readInt?_toString (i : Int) (h : Ended rest) :
    readInt? ((toString i).toList ++ rest) = some (i, rest) := by
  obtain ⟨n, hi, htext⟩ | ⟨n, hi, htext⟩ := toString_cases i
  · obtain ⟨c, r, hr, hc⟩ := exists_repr n
    have hread := readNat?_repr n h
    have hminus : c ≠ '-' := by
      rintro rfl
      simp at hc
    rw [htext, hr, List.cons_append, readInt?.eq_2 _ fun _ h ↦ hminus (List.cons.inj h).1,
      ← List.cons_append, ← hr, hread, hi]
    rfl
  · rw [htext, List.cons_append, readInt?, readNat?_repr n h, hi]
    rfl

theorem exists_chars_int (i : Int) :
    ∃ c r, chars (int i) = c :: r ∧ (c = '-' ∨ c.isDigit = true) := by
  obtain ⟨n, -, htext⟩ | ⟨n, -, htext⟩ := toString_cases i
  · obtain ⟨c, r, hr, hc⟩ := exists_repr n
    exact ⟨c, r, htext.trans hr, .inr hc⟩
  · exact ⟨'-', _, htext, .inl rfl⟩

theorem readValue?_int (i : Int) (h : Ended rest) :
    readValue? (n + 1) (chars (int i) ++ rest) = some (int i, rest) := by
  have hread : readInt? (chars (int i) ++ rest) = some (i, rest) := readInt?_toString i h
  obtain ⟨c, r, hr, hc⟩ := exists_chars_int i
  rw [hr, List.cons_append] at hread ⊢
  rw [readValue?.eq_10, hread]
  · rfl
  all_goals
    intros
    simp_all

theorem exists_chars (j : Json) : ∃ c r, chars j = c :: r ∧ c ≠ ']' := by
  cases j with
  | null => exact ⟨_, _, rfl, by decide⟩
  | bool b => cases b <;> exact ⟨_, _, rfl, by decide⟩
  | int i =>
    obtain ⟨c, r, hr, hc⟩ := exists_chars_int i
    refine ⟨c, r, hr, ?_⟩
    rintro rfl
    revert hc
    decide
  | str s => exact ⟨_, _, rfl, by decide⟩
  | arr items => exact ⟨_, _, rfl, by decide⟩
  | obj fields => exact ⟨_, _, rfl, by decide⟩

theorem itemChars_ne_close (j : Json) (items : List Json) :
    itemChars (j :: items) ++ rest ≠ ']' :: r := by
  obtain ⟨c, s, hs, hc⟩ := exists_chars j
  cases items with
  | nil => simp [itemChars, hs, hc]
  | cons => simp [itemChars, hs, hc]

theorem fieldChars_ne_close (f : String × Json) (fields : List (String × Json)) :
    fieldChars (f :: fields) ++ rest ≠ '\x7d' :: r := by
  cases fields with
  | nil => simp [fieldChars, quote]
  | cons => simp [fieldChars, quote]

theorem readChars?_flatMap (s : List Char) (h : s.length < n) :
    readChars? n (s.flatMap escapeChar ++ '"' :: r) = some (s, r) := by
  induction s generalizing n with
  | nil =>
    obtain ⟨n, rfl⟩ := Nat.exists_eq_succ_of_ne_zero (Nat.ne_of_gt h)
    rfl
  | cons c s ih =>
    obtain ⟨n, rfl⟩ := Nat.exists_eq_succ_of_ne_zero (Nat.ne_zero_of_lt h)
    have hne (r' : List Char) : escapeChar c ++ (s.flatMap escapeChar ++ '"' :: r) ≠ '"' :: r' := by
      intro hr
      apply escapeChar_head? c
      obtain ⟨d, front, hd⟩ := List.exists_cons_of_ne_nil (escapeChar_ne_nil c)
      rw [hd, List.cons_append, List.cons.injEq] at hr
      rw [hd, hr.1]
      rfl
    have hs := ih (Nat.lt_of_succ_lt_succ h)
    rw [List.flatMap_cons, List.append_assoc, readChars?.eq_3 _ _ hne, readChar?_escapeChar]
    simp [hs]

theorem length_quote (s : String) : s.toList.length + 2 ≤ (quote s).length := by
  have hchars (t : List Char) : t.length ≤ (t.flatMap escapeChar).length := by
    induction t with
    | nil => exact Nat.le_refl 0
    | cons c t ih =>
      have hc := List.length_pos_iff.2 (escapeChar_ne_nil c)
      rw [List.flatMap_cons, List.length_append, List.length_cons]
      omega
  have hs := hchars s.toList
  simp only [quote, List.length_append, List.length_cons, List.length_nil]
  omega

theorem readChars?_quote (s : String) (h : (quote s).length ≤ n + 1) :
    readChars? n (s.toList.flatMap escapeChar ++ '"' :: r) = some (s.toList, r) := by
  have hs := length_quote s
  exact readChars?_flatMap s.toList (by omega)

mutual

/-- A value is read back from its text, whatever follows it. -/
theorem readValue?_chars : ∀ (j : Json) (n : Nat) (rest : List Char), (chars j).length < n →
    Ended rest → readValue? n (chars j ++ rest) = some (j, rest)
  | _, 0, _, h, _ => absurd h (Nat.not_lt_zero _)
  | null, _ + 1, _, _, _ => rfl
  | bool true, _ + 1, _, _, _ => rfl
  | bool false, _ + 1, _, _, _ => rfl
  | int i, _ + 1, _, _, hrest => readValue?_int i hrest
  | str s, n + 1, rest, h, _ => by
    have hread := readChars?_quote (r := rest) s (Nat.le_of_lt h)
    rw [chars, quote, List.cons_append, List.cons_append, List.append_assoc,
      List.singleton_append, readValue?, hread]
    simp
  | arr [], _ + 1, _, _, _ => rfl
  | arr (a :: items), n + 1, rest, h, _ => by
    simp only [chars, List.length_append, List.length_cons, List.length_nil] at h
    have hread := readItems?_itemChars (a :: items) n rest (by simp) (by omega)
    rw [chars, List.cons_append, List.cons_append, List.append_assoc, List.singleton_append,
      readValue?.eq_7 _ _ fun _ ↦ itemChars_ne_close a items, hread, Option.map_some]
  | obj [], _ + 1, _, _, _ => rfl
  | obj (f :: fields), n + 1, rest, h, _ => by
    simp only [chars, List.length_append, List.length_cons, List.length_nil] at h
    have hread := readFields?_fieldChars (f :: fields) n rest (by simp) (by omega)
    rw [chars, List.cons_append, List.cons_append, List.append_assoc, List.singleton_append,
      readValue?.eq_9 _ _ fun _ ↦ fieldChars_ne_close f fields, hread, Option.map_some]

theorem readItems?_itemChars : ∀ (items : List Json) (n : Nat) (rest : List Char), items ≠ [] →
    (itemChars items).length + 1 < n →
    readItems? n (itemChars items ++ ']' :: rest) = some (items, rest)
  | [], _, _, h, _ => absurd rfl h
  | _, 0, _, _, h => absurd h (Nat.not_lt_zero _)
  | [a], n + 1, rest, _, h => by
    have hread := readValue?_chars a n (']' :: rest) (Nat.lt_of_succ_lt_succ h)
      (ended_cons (by decide))
    rw [itemChars, readItems?, hread]
    rfl
  | a :: b :: items, n + 1, rest, _, h => by
    rw [itemChars.eq_3 _ _ (by simp)] at h ⊢
    simp only [List.length_append, List.length_cons] at h
    have ha := readValue?_chars a n (',' :: (itemChars (b :: items) ++ ']' :: rest)) (by omega)
      (ended_cons (by decide))
    have hitems := readItems?_itemChars (b :: items) n rest (by simp) (by omega)
    rw [List.append_assoc, List.cons_append, readItems?, ha]
    simp [hitems]

theorem readFields?_fieldChars : ∀ (fields : List (String × Json)) (n : Nat) (rest : List Char),
    fields ≠ [] → (fieldChars fields).length + 1 < n →
    readFields? n (fieldChars fields ++ '\x7d' :: rest) = some (fields, rest)
  | [], _, _, h, _ => absurd rfl h
  | _, 0, _, _, h => absurd h (Nat.not_lt_zero _)
  | [(k, a)], n + 1, rest, _, h => by
    simp only [fieldChars, List.length_append, List.length_cons] at h
    have hk := readChars?_quote (n := n) (r := ':' :: (chars a ++ '\x7d' :: rest)) k (by omega)
    have ha := readValue?_chars a n ('\x7d' :: rest) (by omega) (ended_cons (by decide))
    rw [fieldChars, quote]
    simp only [List.cons_append, List.append_assoc, List.nil_append]
    rw [readFields?, hk]
    simp [ha]
  | (k, a) :: b :: fields, n + 1, rest, _, h => by
    rw [fieldChars.eq_3 _ _ _ (by simp)] at h ⊢
    simp only [List.length_append, List.length_cons] at h
    have hk := readChars?_quote (n := n)
      (r := ':' :: (chars a ++ ',' :: (fieldChars (b :: fields) ++ '\x7d' :: rest))) k (by omega)
    have ha := readValue?_chars a n (',' :: (fieldChars (b :: fields) ++ '\x7d' :: rest)) (by omega)
      (ended_cons (by decide))
    have hfields := readFields?_fieldChars (b :: fields) n rest (by simp) (by omega)
    rw [quote]
    simp only [List.cons_append, List.append_assoc, List.nil_append]
    rw [readFields?, hk]
    simp [ha, hfields]

end

theorem read?_text (j : Json) : read? j.text = some j := by
  have hlength : j.text.length = (chars j).length := by
    rw [← String.length_toList, text, String.toList_ofList]
  have hread := readValue?_chars j (j.text.length + 1) [] (by omega) (by simp [Ended])
  rw [List.append_nil] at hread
  rw [read?, text, String.toList_ofList, ← text, hread]

theorem text_injective : Function.Injective text := by
  intro j j' h
  have hread := congrArg read? h
  rwa [read?_text, read?_text, Option.some_inj] at hread

end BuildMatrix.Json
