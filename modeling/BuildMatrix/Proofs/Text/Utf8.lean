import BuildMatrix.Path
import Mathlib.Data.List.Basic
import Mathlib.Tactic.IntervalCases

namespace BuildMatrix

namespace Text.Utf8

def IsTail (b : UInt8) : Prop := 0x80 ≤ b.toNat ∧ b.toNat ≤ 0xBF

def bitsWith (bits : Nat) (bytes : List UInt8) : Nat :=
  bytes.foldl (fun bits b ↦ bits * 0x40 + (b.toNat - 0x80)) bits

section

variable {bits low high due n : Nat} {b b' : UInt8} {tail rest bytes : List UInt8}

theorem toNat_range (c : Char) : c.toNat < 0xD800 ∨ 0xDFFF < c.toNat ∧ c.toNat < 0x110000 :=
  c.valid

theorem toNat_ofNat (h : n < 0xD800 ∨ 0xDFFF < n ∧ n < 0x110000) : (Char.ofNat n).toNat = n := by
  rw [Char.ofNat, dif_pos (show n.isValidChar from h)]
  rfl

theorem toNat_toUInt8 (h : n < 0x100) : n.toUInt8.toNat = n := by
  simp [Nat.toUInt8, Nat.mod_eq_of_lt h]

theorem toUInt8_eq (h : n = b.toNat) : n.toUInt8 = b := by
  subst h
  exact UInt8.toNat_inj.1 (toNat_toUInt8 b.toNat_lt)

theorem lead_two (bits : Nat) (h : 2 ≤ bits) (h' : bits < 0x20) :
    lead (0xC0 + bits) = ([], .inside bits 0x80 0xBF 0) := by
  interval_cases bits <;> rfl

theorem lead_three (bits : Nat) (h : bits < 0x10) : lead (0xE0 + bits) =
    ([], .inside bits (if bits = 0 then 0xA0 else 0x80) (if bits = 0xD then 0x9F else 0xBF) 1) := by
  interval_cases bits <;> rfl

theorem lead_four (bits : Nat) (h : bits ≤ 4) : lead (0xF0 + bits) =
    ([], .inside bits (if bits = 0 then 0x90 else 0x80) (if bits = 4 then 0x8F else 0xBF) 2) := by
  interval_cases bits <;> rfl

theorem lead_cases (n : Nat) :
    (n < 0x80 ∧ lead n = ([some (Char.ofNat n)], .between)) ∨ lead n = ([none], .between) ∨
      (∃ bits, 2 ≤ bits ∧ bits < 0x20 ∧ n = 0xC0 + bits) ∨ (∃ bits, bits < 0x10 ∧ n = 0xE0 + bits) ∨
      ∃ bits, bits ≤ 4 ∧ n = 0xF0 + bits := by
  by_cases hascii : n < 0x80
  · exact .inl ⟨hascii, if_pos hascii⟩
  right
  by_cases htwo : 0xC2 ≤ n ∧ n < 0xE0
  · exact .inr (.inl ⟨n - 0xC0, by omega, by omega, by omega⟩)
  by_cases hthree : 0xE0 ≤ n ∧ n < 0xF0
  · exact .inr (.inr (.inl ⟨n - 0xE0, by omega, by omega⟩))
  by_cases hfour : 0xF0 ≤ n ∧ n ≤ 0xF4
  · exact .inr (.inr (.inr ⟨n - 0xF0, by omega, by omega⟩))
  left
  by_cases hlone : n < 0xC2
  · rw [lead, if_neg hascii, if_pos hlone]
  · rw [lead, if_neg hascii, if_neg hlone, if_neg (by omega), if_neg (by omega), if_neg (by omega),
      if_neg (by omega), if_neg (by omega), if_neg (by omega), if_neg (by omega)]

theorem unitsFrom_lead {state : State} (h : lead b.toNat = ([], state)) :
    unitsFrom .between (b :: bytes) = unitsFrom state bytes := by
  rw [unitsFrom, feed, h]
  rfl

theorem unitsFrom_inside (hlow : low ≤ b.toNat) (hhigh : b.toNat ≤ high)
    (htail : ∀ t ∈ tail, IsTail t) (hdue : tail.length = due) :
    unitsFrom (.inside bits low high due) (b :: tail ++ rest) =
      some (Char.ofNat (bitsWith bits (b :: tail))) :: unitsFrom .between rest := by
  induction tail generalizing bits low high due b with
  | nil =>
    subst hdue
    simp [unitsFrom, feed, hlow, hhigh, bitsWith]
  | cons t tail ih =>
    subst hdue
    have ht := htail t List.mem_cons_self
    have hrest (bits : Nat) := @ih bits _ _ _ _ ht.1 ht.2
      (fun u hu ↦ htail u (List.mem_cons_of_mem t hu)) rfl
    simpa [unitsFrom, feed, hlow, hhigh, bitsWith] using hrest (bits * 0x40 + (b.toNat - 0x80))

/-- Nothing is ill-formed inside a character just if the bytes that are due are there. -/
theorem exists_tail_of_unitsFrom_inside (h : none ∉ unitsFrom (.inside bits low high due) bytes) :
    ∃ b tail rest, bytes = b :: tail ++ rest ∧ low ≤ b.toNat ∧ b.toNat ≤ high ∧
      (∀ t ∈ tail, IsTail t) ∧ tail.length = due := by
  induction due generalizing bits low high bytes with
  | zero =>
    cases bytes with
    | nil => simp [unitsFrom] at h
    | cons b rest =>
      by_cases hb : low ≤ b.toNat ∧ b.toNat ≤ high
      · exact ⟨b, [], rest, rfl, hb.1, hb.2, by simp, rfl⟩
      · simp [unitsFrom, feed, hb] at h
  | succ due ih =>
    cases bytes with
    | nil => simp [unitsFrom] at h
    | cons b bs =>
      by_cases hb : low ≤ b.toNat ∧ b.toNat ≤ high
      · have hbs : none ∉
            unitsFrom (.inside (bits * 0x40 + (b.toNat - 0x80)) 0x80 0xBF due) bs := by
          simpa [unitsFrom, feed, hb] using h
        obtain ⟨t, tail, rest, rfl, hlow, hhigh, htail, hdue⟩ := ih hbs
        refine ⟨b, t :: tail, rest, rfl, hb.1, hb.2, ?_, by rw [List.length_cons, hdue]⟩
        exact List.forall_mem_cons.2 ⟨⟨hlow, hhigh⟩, htail⟩
      · simp [unitsFrom, feed, hb] at h

theorem unitsFrom_char {c : Char} (hlead : lead b.toNat = ([], .inside bits low high due))
    (hlow : low ≤ b'.toNat) (hhigh : b'.toNat ≤ high) (htail : ∀ t ∈ tail, IsTail t)
    (hdue : tail.length = due) (hc : bitsWith bits (b' :: tail) = c.toNat) :
    unitsFrom .between (b :: b' :: tail ++ rest) = some c :: unitsFrom .between rest := by
  rw [List.cons_append, unitsFrom_lead hlead, unitsFrom_inside hlow hhigh htail hdue, hc,
    Char.ofNat_toNat]

theorem isTail_toUInt8 (n : Nat) : IsTail (0x80 + n % 0x40).toUInt8 := by
  have hn : n % 0x40 < 0x40 := Nat.mod_lt n (by decide)
  rw [IsTail, toNat_toUInt8 (by omega)]
  omega

/-- The bytes of a character are read as that character, whatever follows. -/
theorem unitsFrom_encodeChar (c : Char) (rest : List UInt8) :
    unitsFrom .between (encodeChar c ++ rest) = some c :: unitsFrom .between rest := by
  have hc := toNat_range c
  unfold encodeChar
  dsimp only
  split_ifs with hone htwo hthree
  · have hlead : lead c.toNat.toUInt8.toNat = ([some c], .between) := by
      rw [toNat_toUInt8 (by omega), lead, if_pos hone, Char.ofNat_toNat]
    rw [List.singleton_append, unitsFrom, feed, hlead]
    rfl
  · have hlead := lead_two (c.toNat / 0x40) (by omega) (by omega)
    have hnext := isTail_toUInt8 c.toNat
    rw [← toNat_toUInt8 (by omega : 0xC0 + c.toNat / 0x40 < 0x100)] at hlead
    refine unitsFrom_char hlead hnext.1 hnext.2 (by simp) rfl ?_
    simp only [bitsWith, List.foldl, toNat_toUInt8 (by omega : 0x80 + c.toNat % 0x40 < 0x100)]
    omega
  · have hlead := lead_three (c.toNat / 0x1000) (by omega)
    have hsecond := toNat_toUInt8 (by omega : 0x80 + c.toNat / 0x40 % 0x40 < 0x100)
    rw [← toNat_toUInt8 (by omega : 0xE0 + c.toNat / 0x1000 < 0x100)] at hlead
    have htail := List.forall_mem_singleton.2 (isTail_toUInt8 c.toNat)
    refine unitsFrom_char hlead ?_ ?_ htail rfl ?_
    · rw [hsecond]
      split_ifs <;> omega
    · rw [hsecond]
      split_ifs <;> omega
    · simp only [bitsWith, List.foldl, hsecond,
        toNat_toUInt8 (by omega : 0x80 + c.toNat % 0x40 < 0x100)]
      omega
  · have hlead := lead_four (c.toNat / 0x40000) (by omega)
    have hsecond := toNat_toUInt8 (by omega : 0x80 + c.toNat / 0x1000 % 0x40 < 0x100)
    rw [← toNat_toUInt8 (by omega : 0xF0 + c.toNat / 0x40000 < 0x100)] at hlead
    have htail := List.forall_mem_cons.2
      ⟨isTail_toUInt8 (c.toNat / 0x40), List.forall_mem_singleton.2 (isTail_toUInt8 c.toNat)⟩
    refine unitsFrom_char hlead ?_ ?_ htail rfl ?_
    · rw [hsecond]
      split_ifs <;> omega
    · rw [hsecond]
      split_ifs <;> omega
    · simp only [bitsWith, List.foldl, hsecond,
        toNat_toUInt8 (by omega : 0x80 + c.toNat / 0x40 % 0x40 < 0x100),
        toNat_toUInt8 (by omega : 0x80 + c.toNat % 0x40 < 0x100)]
      omega

theorem encodeChar_one (h : b.toNat < 0x80) : encodeChar (Char.ofNat b.toNat) = [b] := by
  rw [encodeChar, toNat_ofNat (by omega), if_pos h, toUInt8_eq rfl]

theorem encodeChar_two (h : 2 ≤ bits) (h' : bits < 0x20) (hb : b.toNat = 0xC0 + bits)
    (hb' : IsTail b') : encodeChar (Char.ofNat (bitsWith bits [b'])) = [b, b'] := by
  obtain ⟨hlow, hhigh⟩ := hb'
  simp only [bitsWith, List.foldl]
  rw [encodeChar, toNat_ofNat (by omega), if_neg (by omega), if_pos (by omega),
    toUInt8_eq (b := b) (by omega), toUInt8_eq (b := b') (by omega)]

theorem encodeChar_three {t : UInt8} (h : bits < 0x10) (hb : b.toNat = 0xE0 + bits)
    (hlow : (if bits = 0 then 0xA0 else 0x80) ≤ b'.toNat)
    (hhigh : b'.toNat ≤ if bits = 0xD then 0x9F else 0xBF) (ht : IsTail t) :
    encodeChar (Char.ofNat (bitsWith bits [b', t])) = [b, b', t] := by
  obtain ⟨htlow, hthigh⟩ := ht
  simp only [bitsWith, List.foldl]
  split_ifs at hlow hhigh
  all_goals rw [encodeChar, toNat_ofNat (by omega), if_neg (by omega), if_neg (by omega),
    if_pos (by omega), toUInt8_eq (b := b) (by omega), toUInt8_eq (b := b') (by omega),
    toUInt8_eq (b := t) (by omega)]

theorem encodeChar_four {t u : UInt8} (h : bits ≤ 4) (hb : b.toNat = 0xF0 + bits)
    (hlow : (if bits = 0 then 0x90 else 0x80) ≤ b'.toNat)
    (hhigh : b'.toNat ≤ if bits = 4 then 0x8F else 0xBF) (ht : IsTail t) (hu : IsTail u) :
    encodeChar (Char.ofNat (bitsWith bits [b', t, u])) = [b, b', t, u] := by
  obtain ⟨htlow, hthigh⟩ := ht
  obtain ⟨hulow, huhigh⟩ := hu
  simp only [bitsWith, List.foldl]
  split_ifs at hlow hhigh
  all_goals rw [encodeChar, toNat_ofNat (by omega), if_neg (by omega), if_neg (by omega),
    if_neg (by omega), toUInt8_eq (b := b) (by omega), toUInt8_eq (b := b') (by omega),
    toUInt8_eq (b := t) (by omega), toUInt8_eq (b := u) (by omega)]

theorem units_encode (s : List Char) : units (encode s) = s.map some := by
  induction s with
  | nil => rfl
  | cons c s ih =>
    rw [encode, List.flatMap_cons, units, unitsFrom_encodeChar, List.map_cons, ← ih]
    rfl

theorem exists_encode_of_units (h : none ∉ units bytes) : ∃ s, encode s = bytes := by
  induction hsize : bytes.length using Nat.strong_induction_on generalizing bytes with
  | _ size ih =>
  subst hsize
  cases bytes with
  | nil => exact ⟨[], rfl⟩
  | cons b bs =>
    -- A character goes in front of what its rest is the text of.
    have hchar {c : Char} (rest : List UInt8) (hbytes : b :: bs = encodeChar c ++ rest)
        (hlength : rest.length < (b :: bs).length) : ∃ s, encode s = b :: bs := by
      rw [hbytes, units, unitsFrom_encodeChar] at h
      obtain ⟨s, rfl⟩ := ih _ hlength (List.not_mem_of_not_mem_cons h) rfl
      exact ⟨c :: s, by rw [hbytes, encode, List.flatMap_cons, encode]⟩
    have hinside {bits low high due : Nat}
        (hlead : lead b.toNat = ([], .inside bits low high due)) :
        ∃ b' tail rest, bs = b' :: tail ++ rest ∧ low ≤ b'.toNat ∧ b'.toNat ≤ high ∧
          (∀ t ∈ tail, IsTail t) ∧ tail.length = due := by
      rw [units, unitsFrom_lead hlead] at h
      exact exists_tail_of_unitsFrom_inside h
    obtain ⟨hascii, -⟩ | hill | ⟨bits, hbits, hbits', hb⟩ | ⟨bits, hbits, hb⟩ | ⟨bits, hbits, hb⟩ :=
      lead_cases b.toNat
    · exact hchar bs (by rw [encodeChar_one hascii]; rfl) (by simp)
    · simp [units, unitsFrom, feed, hill] at h
    · have hlead := lead_two bits hbits hbits'
      obtain ⟨b', tail, rest, rfl, hlow, hhigh, -, hdue⟩ := hinside (hb ▸ hlead)
      obtain rfl := List.length_eq_zero_iff.1 hdue
      exact hchar rest (by rw [encodeChar_two hbits hbits' hb ⟨hlow, hhigh⟩]; rfl)
        (by simp only [List.length_cons, List.length_append, List.length_nil]; omega)
    · obtain ⟨b', tail, rest, rfl, hlow, hhigh, htail, hdue⟩ := hinside (hb ▸ lead_three bits hbits)
      obtain ⟨t, rfl⟩ := List.length_eq_one_iff.1 hdue
      have ht := htail t (by simp)
      exact hchar rest (by rw [encodeChar_three hbits hb hlow hhigh ht]; rfl)
        (by simp only [List.length_cons, List.length_append, List.length_nil]; omega)
    · obtain ⟨b', tail, rest, rfl, hlow, hhigh, htail, hdue⟩ := hinside (hb ▸ lead_four bits hbits)
      obtain ⟨t, u, rfl⟩ := List.length_eq_two.1 hdue
      have ht := htail t (by simp)
      have hu := htail u (by simp)
      exact hchar rest (by rw [encodeChar_four hbits hb hlow hhigh ht hu]; rfl)
        (by simp only [List.length_cons, List.length_append, List.length_nil]; omega)

theorem decodeLossy_encode (s : List Char) : decodeLossy (encode s) = s := by
  rw [decodeLossy, units_encode, List.map_map]
  exact List.map_id s

theorem mapM_id_eq_some_iff {us : List (Option Char)} {s : List Char} :
    us.mapM id = some s ↔ us = s.map some := by
  induction us generalizing s with
  | nil => cases s <;> simp
  | cons u us ih =>
    cases s with
    | nil => simp [List.mapM_cons, Option.bind_eq_some_iff]
    | cons c s => simp [List.mapM_cons, ih, Option.bind_eq_some_iff]

/-- Just the bytes of a text are read as that text. -/
theorem decode?_eq_some_iff {s : List Char} : decode? bytes = some s ↔ bytes = encode s := by
  rw [decode?, mapM_id_eq_some_iff]
  constructor
  · intro h
    have hnone : none ∉ units bytes := by simp [h]
    obtain ⟨t, rfl⟩ := exists_encode_of_units hnone
    rw [units_encode] at h
    rw [List.map_injective_iff.2 (Option.some_injective Char) h]
  · rintro rfl
    exact units_encode s

end

/-- No character that is read to its end from here is one of ASCII. -/
def State.IsWide : State → Prop
  | .between => True
  | .inside bits low _ due => 0x80 ≤ low ∧ 0x80 ≤ (bits * 0x40 + (low - 0x80)) * 0x40 ^ due

theorem ofNat_ne_escape {n : Nat} (h : n ≠ 0x1B) : Char.ofNat n ≠ '\x1b' := by
  intro he
  by_cases hn : n.isValidChar
  · rw [Char.ofNat, dif_pos hn] at he
    exact h (congrArg Char.toNat he)
  · rw [Char.ofNat, dif_neg hn] at he
    exact absurd he (by decide)

theorem lead_wide (n : Nat) : (lead n).2.IsWide ∧
    (lead n).1.count (some '\x1b') = if n = 0x1B then 1 else 0 := by
  by_cases hescape : n = 0x1B
  · subst hescape
    exact ⟨trivial, by decide⟩
  · have hne := ofNat_ne_escape hescape
    rw [if_neg hescape]
    unfold lead
    split_ifs <;> simp [State.IsWide, hne] <;> omega

theorem feed_wide {state : State} (h : state.IsWide) (n : Nat) : (feed state n).2.IsWide ∧
    (feed state n).1.count (some '\x1b') = if n = 0x1B then 1 else 0 := by
  cases state with
  | between => exact lead_wide n
  | inside bits low high due =>
    obtain ⟨hlow, hwide⟩ := h
    by_cases hn : low ≤ n ∧ n ≤ high
    · have hescape : n ≠ 0x1B := by omega
      have hbits : bits * 0x40 + (low - 0x80) ≤ bits * 0x40 + (n - 0x80) := by omega
      have hmore := hwide.trans (Nat.mul_le_mul_right (0x40 ^ due) hbits)
      simp only [feed, if_pos hn, if_neg hescape]
      cases due with
      | zero =>
        have hne : bits * 0x40 + (n - 0x80) ≠ 0x1B := by omega
        exact ⟨trivial, by simp [ofNat_ne_escape hne]⟩
      | succ due =>
        refine ⟨⟨Nat.le_refl _, ?_⟩, rfl⟩
        rwa [Nat.sub_self, Nat.add_zero, Nat.mul_assoc, Nat.mul_comm 0x40, ← Nat.pow_succ]
    · obtain ⟨hstate, hcount⟩ := lead_wide n
      simp only [feed, if_neg hn]
      exact ⟨hstate, by simpa using hcount⟩

theorem count_unitsFrom {state : State} (h : state.IsWide) (bytes : List UInt8) :
    (unitsFrom state bytes).count (some '\x1b') = bytes.count 0x1B := by
  induction bytes generalizing state with
  | nil => cases state <;> rfl
  | cons b bytes ih =>
    obtain ⟨hstate, hcount⟩ := feed_wide h b.toNat
    have hunits : unitsFrom state (b :: bytes) =
        (feed state b.toNat).1 ++ unitsFrom (feed state b.toNat).2 bytes := by
      cases state <;> rfl
    have hb : b.toNat = 0x1B ↔ b = 0x1B := UInt8.toNat_inj (b := 0x1B)
    rw [hunits, List.count_append, hcount, ih hstate, List.count_cons, Nat.add_comm]
    simp [hb]

/-- Nothing but the byte of this character is shown as it. -/
theorem count_textOf (bytes : List UInt8) :
    (textOf bytes).toList.count '\x1b' = bytes.count 0x1B := by
  have hlossy (us : List (Option Char)) :
      (us.map (·.getD '\uFFFD')).count '\x1b' = us.count (some '\x1b') := by
    induction us with
    | nil => rfl
    | cons u us ih => cases u <;> simp [ih, List.count_cons]
  rw [textOf, String.toList_ofList, decodeLossy, hlossy]
  exact @count_unitsFrom .between trivial bytes

end Text.Utf8

namespace Path

open Text.Utf8

def IsText (p : Path) : Prop := ∃ s, p = ofString s

variable {p : Path} {s : String}

theorem display_ofString (s : String) : (ofString s).display = s := by
  rw [display, ofString, textOf, bytesOf, decodeLossy_encode, String.ofList_toList]

theorem text?_eq_some_iff : p.text? = some s ↔ p = ofString s := by
  obtain ⟨bytes⟩ := p
  rw [text?, Option.map_eq_some_iff, ofString, bytesOf, mk.injEq, ← decode?_eq_some_iff]
  constructor
  · rintro ⟨t, ht, rfl⟩
    rwa [String.toList_ofList]
  · intro h
    exact ⟨s.toList, h, String.ofList_toList⟩

theorem text?_eq_none_iff : p.text? = none ↔ ¬p.IsText := by
  simp [Option.eq_none_iff_forall_ne_some, text?_eq_some_iff, IsText]

theorem ofString_display_iff : ofString p.display = p ↔ p.IsText := by
  constructor
  · intro h
    exact ⟨p.display, h.symm⟩
  · rintro ⟨s, rfl⟩
    rw [display_ofString]

end Path

end BuildMatrix
