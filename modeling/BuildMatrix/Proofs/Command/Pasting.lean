import BuildMatrix.Proofs.Command.Display
import BuildMatrix.Proofs.Command.ShellLine
import BuildMatrix.Proofs.Text.Utf8
import Mathlib.Data.List.Infix

namespace BuildMatrix

namespace ShellLine

def isSpecial (c : Char) : Bool :=
  c = '\\' || c = '"' || c = '\x27' || isExpansion c || isOperator c

def isClear (c : Char) (next : Option Char) : Bool :=
  !isExpansion c && (c ≠ '\\' || next.any fun d ↦ !isEscapable d)

def isClearInside : List Char → Bool
  | [] => true
  | c :: s => isClear c s.head? && isClearInside s

def isClearOutside (s : List Char) : Bool := s.head? != some '#' && s.all (!isSpecial ·)

/-- A text has as many marks of its own as it takes to display another one. -/
structure Displays (s t : List Char) : Prop where
  singles : singles s = singles t
  slashes : slashes s = marks t

section

variable {p q next : Place} {c d : Char} {s s' t t' u : List Char} {ws : List Word}

theorem Displays.append (h : Displays s t) (h' : Displays s' t') :
    Displays (s ++ s') (t ++ t') where
  singles := by rw [singles_append, singles_append, h.singles, h'.singles]
  slashes := by rw [slashes_append, marks_append, h.slashes, h'.slashes]

theorem displays_of_notMem (h : '"' ∉ s) : Displays s s where
  singles := rfl
  slashes := by simp [slashes, marks, List.count_eq_zero_of_not_mem h]

theorem displays_escaped (s : List Char) : Displays (s.flatMap Command.escapeQuote) s := by
  induction s with
  | nil => exact ⟨rfl, rfl⟩
  | cons c s ih =>
    have hc : Displays (Command.escapeQuote c) [c] := by
      by_cases hc : c = '"'
      · subst hc
        exact ⟨rfl, rfl⟩
      · rw [Command.escapeQuote, if_neg hc]
        exact displays_of_notMem (by simpa using Ne.symm hc)
    exact hc.append ih

theorem spell_ne_of_push {l : Letter} {o : Option (List Word)} (h : o.map (push l) = some ws)
    (hrest : ∀ ws', o = some ws' → (spell ws').flatten ≠ t) :
    (spell ws).flatten ≠ l.char :: t := by
  obtain ⟨ws', hws', rfl⟩ := Option.map_eq_some_iff.1 h
  rw [spell_push]
  exact fun heq ↦ hrest ws' hws' (List.cons.inj heq).2

theorem singles_backslash (s : List Char) : singles ('\\' :: s) = singles s :=
  (singles_cons '\\' s).trans (Nat.zero_add _)

theorem slashes_backslash (s : List Char) : slashes ('\\' :: s) = slashes s + 1 :=
  (slashes_cons '\\' s).trans (Nat.add_comm _ _)

theorem marks_backslash (s : List Char) : marks ('\\' :: s) = marks s + 1 :=
  (marks_cons '\\' s).trans (Nat.add_comm _ _)

/-- A backslash that is taken from a text that displays another one is missed there. -/
theorem spell_ne_of_escaped (hstep : step q d = some (.put [] next) ∨
    step q d = some (.put [.quoted d] next)) (hnext : next.spare = 0)
    (hdisplays : Displays ('\\' :: d :: s) ('\\' :: t)) (h : scan q (d :: s) = some ws) :
    (spell ws).flatten ≠ '\\' :: t := by
  intro hws
  obtain ⟨hsingles, hslashes⟩ := hdisplays
  rw [singles_backslash, singles_backslash] at hsingles
  rw [slashes_backslash, marks_backslash] at hslashes
  -- What is left of the line has a backslash less than it takes to spell what is left of the text.
  rcases hstep with hstep | hstep
  · rw [scan_of_skip hstep] at h
    have hthrift := scan_thrift h
    rw [hws, singles_backslash, marks_backslash] at hthrift
    rw [singles_cons] at hsingles
    rw [slashes_cons] at hslashes
    have hmarks := hthrift.2 (by omega)
    omega
  · rw [scan_of_put hstep] at h
    obtain ⟨ws', hws', rfl⟩ := Option.map_eq_some_iff.1 h
    have hthrift := scan_thrift hws'
    rw [spell_foldr_push] at hws
    obtain ⟨hd, ht⟩ : d = '\\' ∧ (spell ws').flatten = t := List.cons.inj hws
    subst hd
    rw [ht] at hthrift
    rw [singles_backslash] at hsingles
    rw [slashes_backslash] at hslashes
    have hmarks := hthrift.2 (by omega)
    omega

theorem scan_double_cons (h : isClear c s.head? = true) :
    scan .double ((c :: s).flatMap Command.escapeQuote ++ '"' :: u) =
      (scan .double (s.flatMap Command.escapeQuote ++ '"' :: u)).map (push (.quoted c)) := by
  obtain ⟨hexpansion, hslash⟩ := Bool.and_eq_true_iff.1 h
  rw [List.flatMap_cons, List.append_assoc]
  by_cases hquote : c = '"'
  · subst hquote
    have hback : step .double '\\' = some (.put [] .doubleEscaped) := rfl
    have hstep : step .doubleEscaped '"' = some (.put [.quoted '"'] .double) := rfl
    rw [Command.escapeQuote, if_pos rfl, List.cons_append, scan_of_put hback, List.cons_append,
      scan_of_put hstep, Option.map_map]
    rfl
  rw [Command.escapeQuote, if_neg hquote, List.singleton_append]
  by_cases hback : c = '\\'
  · subst hback
    -- A backslash stands for itself in front of what it takes no meaning of.
    cases s with
    | nil => simp at hslash
    | cons d s =>
      have hd : isEscapable d = false := by simpa using hslash
      have hstep : step .double '\\' = some (.put [] .doubleEscaped) := rfl
      have hescaped : step .doubleEscaped d = some (.put [.quoted '\\', .quoted d] .double) := by
        simp_all [step, isEscapable]
      have hdouble : step .double d = some (.put [.quoted d] .double) := by
        simp_all [step, isEscapable]
      have hescape : Command.escapeQuote d = [d] := by
        simp_all [Command.escapeQuote, isEscapable]
      rw [List.flatMap_cons, hescape, List.append_assoc, List.singleton_append, scan_of_put hstep,
        scan_of_put hescaped, scan_of_put hdouble, Option.map_map, Option.map_map]
      rfl
  · have hstep : step .double c = some (.put [.quoted c] .double) := by
      simp_all [step]
    rw [scan_of_put hstep]
    rfl

theorem scan_double (h : isClearInside s = true) :
    scan .double (s.flatMap Command.escapeQuote ++ '"' :: u) =
      (scan .bare u).map fun ws ↦ (s.map .quoted).foldr push ws := by
  induction s with
  | nil =>
    have hstep : step .double '"' = some (.put [] .bare) := rfl
    exact scan_of_put hstep
  | cons c s ih =>
    obtain ⟨hc, hs⟩ := Bool.and_eq_true_iff.1 h
    rw [scan_double_cons hc, ih hs, Option.map_map]
    rfl

theorem isExpansion_iff : isExpansion c = true ↔ c = '$' ∨ c = '\x60' := by
  simp [isExpansion]

theorem exists_escaped (h : s.head?.any (fun d ↦ !isEscapable d) = false) :
    ∃ d s', s.flatMap Command.escapeQuote ++ '"' :: u = d :: s' ∧ isEscapable d = true := by
  cases s with
  | nil => exact ⟨_, _, rfl, by decide⟩
  | cons d s =>
    by_cases hquote : d = '"'
    · subst hquote
      exact ⟨_, _, rfl, by decide⟩
    · have hescape : Command.escapeQuote d = [d] := if_neg hquote
      rw [List.flatMap_cons, hescape]
      exact ⟨_, _, rfl, by simpa using h⟩

theorem spell_ne_of_unclear (hc : isClear c s.head? = false) (hu : Displays u t)
    (h : scan .double ((c :: s).flatMap Command.escapeQuote ++ '"' :: u) = some ws) :
    (spell ws).flatten ≠ c :: (s ++ t) := by
  rw [List.flatMap_cons, List.append_assoc] at h
  rcases Bool.and_eq_false_iff.1 hc with hexpansion | hslash
  · have hrefused : step .double c = none ∧ Command.escapeQuote c = [c] := by
      have hc : isExpansion c = true := by simpa using hexpansion
      rcases isExpansion_iff.1 hc with rfl | rfl <;> exact ⟨rfl, rfl⟩
    rw [hrefused.2, List.singleton_append, scan_of_refused hrefused.1] at h
    cases h
  · obtain ⟨hback, hnext⟩ := Bool.or_eq_false_iff.1 hslash
    obtain rfl : c = '\\' := by simpa using hback
    obtain ⟨d, s', hd, hescapable⟩ := exists_escaped (u := u) hnext
    have hdisplays : Displays ('\\' :: d :: s') ('\\' :: (s ++ t)) := by
      have hquote : Displays ['"'] [] := ⟨rfl, rfl⟩
      rw [← hd]
      exact (displays_escaped ('\\' :: s)).append (hquote.append hu)
    have hstep : step .double '\\' = some (.put [] .doubleEscaped) := rfl
    have hescaped : step .doubleEscaped d = some (.put [] .double) ∨
        step .doubleEscaped d = some (.put [.quoted d] .double) := by
      by_cases hnewline : d = '\n'
      · exact .inl (by simp [step, hnewline])
      · exact .inr (by simp [step, hnewline, hescapable])
    rw [hd] at h
    exact spell_ne_of_escaped hescaped rfl hdisplays ((scan_of_skip hstep).symm.trans h)

theorem spell_ne_inside (h : isClearInside s = false) (hu : Displays u t)
    (hscan : scan .double (s.flatMap Command.escapeQuote ++ '"' :: u) = some ws) :
    (spell ws).flatten ≠ s ++ t := by
  induction s generalizing ws with
  | nil => cases h
  | cons c s ih =>
    cases hc : isClear c s.head? with
    | true =>
      have hs : isClearInside s = false := by simpa [isClearInside, hc] using h
      rw [scan_double_cons hc] at hscan
      exact spell_ne_of_push hscan fun ws' ↦ ih hs
    | false => exact spell_ne_of_unclear hc hu hscan

def IsUnbroken (s : List Char) : Prop := ∀ c ∈ s, isBlank c = false ∧ c ≠ '"'

theorem IsUnbroken.displays (h : IsUnbroken s) : Displays s s :=
  displays_of_notMem fun hmem ↦ (h _ hmem).2 rfl

theorem unquoted_of_not_special {inWord : Bool} (h : isSpecial c = false) :
    unquoted inWord c = some (.put [.bare c] .bare) := by
  simp_all [isSpecial, unquoted]

theorem scan_bare_cons (hblank : isBlank c = false) (hc : isSpecial c = false) :
    scan .bare (c :: u) = (scan .bare u).map (push (.bare c)) := by
  have hstep : step .bare c = some (.put [.bare c] .bare) := by
    rw [step, if_neg (by simp [hblank]), unquoted_of_not_special hc]
  exact scan_of_put hstep

theorem scan_bare (h : IsUnbroken s) (hs : s.all (!isSpecial ·) = true) :
    scan .bare (s ++ u) = (scan .bare u).map fun ws ↦ (s.map .bare).foldr push ws := by
  induction s with
  | nil => exact Option.map_id'.symm
  | cons c s ih =>
    obtain ⟨hc, hrest⟩ := List.forall_mem_cons.1 h
    obtain ⟨hspecial, hs⟩ := Bool.and_eq_true_iff.1 hs
    have hspecial : isSpecial c = false := by simpa using hspecial
    rw [List.cons_append, scan_bare_cons hc.1 hspecial, ih hrest hs, Option.map_map]
    rfl

theorem spell_ne_of_special {inWord : Bool} (hstep : step p c = unquoted inWord c)
    (hc : isSpecial c = true) (hquote : c ≠ '"') (hdisplays : Displays (c :: u) (c :: t))
    (h : scan p (c :: u) = some ws) : (spell ws).flatten ≠ c :: t := by
  by_cases hback : c = '\\'
  · subst hback
    have hput : step p '\\' = some (.put [] (.escaped inWord)) := hstep
    rw [scan_of_skip hput] at h
    cases u with
    | nil => cases h
    | cons d u =>
      by_cases hnewline : d = '\n'
      · have hskip : step (.escaped inWord) d =
            some (.put [] (if inWord then .bare else .between)) := if_pos hnewline
        exact spell_ne_of_escaped (.inl hskip) (by cases inWord <;> rfl) hdisplays h
      · have hput : step (.escaped inWord) d = some (.put [.quoted d] .bare) := if_neg hnewline
        exact spell_ne_of_escaped (.inr hput) rfl hdisplays h
  by_cases hsingle : c = '\x27'
  · subst hsingle
    have hput : step p '\x27' = some (.put [] .single) := hstep
    rw [scan_of_skip hput] at h
    have hthrift := (scan_thrift h).1
    intro heq
    rw [heq, ← hdisplays.singles, singles_cons] at hthrift
    have hone : singles ['\x27'] = 1 := rfl
    simp only [Place.due] at hthrift
    omega
  · have hrefused : step p c = none := by
      rw [hstep]
      simp_all [unquoted, isSpecial]
    rw [scan_of_refused hrefused] at h
    cases h

theorem spell_ne_outside (h : IsUnbroken s) (hs : s.all (!isSpecial ·) = false)
    (hu : Displays u t) (hscan : scan .bare (s ++ u) = some ws) :
    (spell ws).flatten ≠ s ++ t := by
  induction s generalizing ws with
  | nil => cases hs
  | cons c s ih =>
    obtain ⟨hc, hrest⟩ := List.forall_mem_cons.1 h
    cases hspecial : isSpecial c with
    | true =>
      have hstep : step .bare c = unquoted true c := by
        rw [step, if_neg (by simp [hc.1])]
      exact spell_ne_of_special hstep hspecial hc.2 (h.displays.append hu) hscan
    | false =>
      have hs : s.all (!isSpecial ·) = false := by simpa [hspecial] using hs
      rw [List.cons_append, scan_bare_cons hc.1 hspecial] at hscan
      exact spell_ne_of_push hscan fun ws' ↦ ih hrest hs

theorem scan_word (h : IsUnbroken s) (hne : s ≠ []) (hs : isClearOutside s = true) :
    scan .between (s ++ u) = (scan .bare u).map fun ws ↦ (s.map .bare).foldr push ws := by
  obtain ⟨hcomment, hclear⟩ := Bool.and_eq_true_iff.1 hs
  obtain ⟨c, s, rfl⟩ := List.exists_cons_of_ne_nil hne
  obtain ⟨hc, hrest⟩ := List.forall_mem_cons.1 h
  obtain ⟨hspecial, hclear⟩ := Bool.and_eq_true_iff.1 hclear
  have hstep : step .between c = some (.put [.bare c] .bare) := by
    have hcomment : c ≠ '#' := by simpa using hcomment
    have hspecial : isSpecial c = false := by simpa using hspecial
    rw [step, if_neg (by simp [hc.1]), if_neg hcomment, unquoted_of_not_special hspecial]
  rw [List.cons_append, scan_of_put hstep, scan_bare hrest hclear, Option.map_map]
  rfl

theorem spell_ne_word (h : IsUnbroken s) (hne : s ≠ []) (hs : isClearOutside s = false)
    (hu : Displays u t) (hscan : scan .between (s ++ u) = some ws) :
    (spell ws).flatten ≠ s ++ t := by
  obtain ⟨c, s, rfl⟩ := List.exists_cons_of_ne_nil hne
  obtain ⟨hc, hrest⟩ := List.forall_mem_cons.1 h
  by_cases hcomment : c = '#'
  · subst hcomment
    have hskip : step .between '#' = some (.put [] .comment) := rfl
    rw [List.cons_append, scan_of_skip hskip] at hscan
    rw [scan_comment hscan]
    simp [spell]
  have hstep : step .between c = unquoted false c := by
    rw [step, if_neg (by simp [hc.1]), if_neg hcomment]
  cases hspecial : isSpecial c with
  | true =>
    exact spell_ne_of_special hstep hspecial hc.2 (h.displays.append hu) hscan
  | false =>
    have hs : s.all (!isSpecial ·) = false := by
      simpa [isClearOutside, hcomment, hspecial] using hs
    rw [List.cons_append, scan_of_put (hstep.trans (unquoted_of_not_special hspecial))] at hscan
    exact spell_ne_of_push hscan fun ws' ↦ spell_ne_outside hrest hs hu

end

theorem expands_quoted (s : List Char) : expands (s.map .quoted) = false := by
  have hmem (c : Char) : Letter.bare c ∉ s.map Letter.quoted := by
    simp [Letter.quoted, Letter.bare]
  have hhead (t : Word) (ht : t <:+ s.map .quoted) (c : Char) :
      (t.head? == some (.bare c)) = false := by
    rw [beq_eq_false_iff_ne]
    exact fun h ↦ hmem c (ht.subset (List.mem_of_mem_head? h))
  have hhome : isHome (s.map .quoted) = false := by
    rw [isHome, hhead _ List.suffix_rfl, Bool.false_and]
  have hset : (s.map Letter.quoted).tails.any opensSet = false := by
    rw [List.any_eq_false]
    intro t ht
    rw [opensSet, hhead t ((List.mem_tails _ _).1 ht), Bool.false_and]
    decide
  have hcontains (c : Char) : (s.map Letter.quoted).contains (.bare c) = false := by
    rw [List.contains_eq_mem]
    exact decide_eq_false (hmem c)
  rw [expands, hhome, isPattern, hcontains, hcontains, hset]
  rfl

theorem isReserved_quoted (s : List Char) : isReserved (s.map .quoted) = false := by
  rw [isReserved, List.any_eq_false]
  intro r hr heq
  have heq : r.toList.map Letter.bare = s.map Letter.quoted := of_decide_eq_true heq
  cases s with
  | nil =>
    obtain rfl : r = "" := String.toList_eq_nil_iff.1 (List.map_eq_nil_iff.1 heq)
    exact absurd hr (by decide)
  | cons c s =>
    obtain ⟨d, r, -, hd, -⟩ := List.map_eq_cons_iff.1 heq
    simp [Letter.bare, Letter.quoted] at hd

theorem isAssignment_quoted (s : List Char) : isAssignment (s.map .quoted) = false := by
  cases s with
  | nil => rfl
  | cons c s => rfl

end ShellLine

namespace Command

open ShellLine

def letters (w : List Char) : Word := w.map (if needsQuotes w then .quoted else .bare)

def isClear (w : List Char) : Bool := if needsQuotes w then isClearInside w else isClearOutside w

def after (ws : List (List Char)) : List Char := ws.flatMap fun w ↦ ' ' :: quote w

section

variable {w : List Char} {ws : List (List Char)} {ls : List Word}

theorem isUnbroken_of_needsQuotes (h : needsQuotes w = false) : IsUnbroken w := by
  simp only [needsQuotes, Bool.or_eq_false_iff, List.any_eq_false] at h
  intro c hc
  have hnot := h.2 c hc
  refine ⟨Bool.eq_false_iff.2 fun hblank ↦ hnot ?_, ?_⟩
  · obtain rfl | rfl : c = ' ' ∨ c = '\t' := by simpa [isBlank] using hblank
    all_goals decide
  · rintro rfl
    exact hnot (by decide)

theorem quote_of_needsQuotes (h : needsQuotes w = true) :
    quote w = '"' :: (w.flatMap escapeQuote ++ ['"']) := by
  rw [quote, if_pos h]
  rfl

theorem quote_of_not_needsQuotes (h : needsQuotes w = false) : quote w = w := by
  rw [quote, if_neg (by simp [h])]

theorem displays_quote (w : List Char) : Displays (quote w) w := by
  cases h : needsQuotes w with
  | true =>
    have hquote : Displays ['"'] [] := ⟨rfl, rfl⟩
    have hinside := hquote.append ((displays_escaped w).append hquote)
    rw [quote_of_needsQuotes h]
    rwa [List.append_nil, List.nil_append] at hinside
  | false =>
    rw [quote_of_not_needsQuotes h]
    exact displays_of_notMem (needsQuotes_eq_false h).2.2

theorem displays_after (ws : List (List Char)) : Displays (after ws) ws.flatten := by
  induction ws with
  | nil => exact ⟨rfl, rfl⟩
  | cons w ws ih =>
    have hblank : Displays [' '] [] := ⟨rfl, rfl⟩
    exact (hblank.append (displays_quote w)).append ih

theorem scan_after_cons (w : List Char) (ws : List (List Char)) :
    scan .between (after (w :: ws)) = scan .between (quote w ++ after ws) := by
  have hskip : step .between ' ' = some (.put [] .between) := rfl
  exact scan_of_skip hskip

theorem scan_bare_after (ws : List (List Char)) :
    scan .bare (after ws) = (scan .between (after ws)).map ([] :: ·) := by
  cases ws with
  | nil => rfl
  | cons w ws =>
    rw [scan_after_cons]
    rfl

theorem scan_quote (h : isClear w = true) (ws : List (List Char)) :
    scan .between (quote w ++ after ws) =
      (scan .between (after ws)).map (letters w :: ·) := by
  have hword : scan .between (quote w ++ after ws) =
      (scan .bare (after ws)).map fun ls ↦ (letters w).foldr push ls := by
    unfold isClear at h
    unfold letters
    cases hquotes : needsQuotes w with
    | true =>
      have hopen : step .between '"' = some (.put [] .double) := rfl
      have hinside : isClearInside w = true := by simpa [hquotes] using h
      rw [quote_of_needsQuotes hquotes, List.cons_append, scan_of_skip hopen, List.append_assoc]
      exact scan_double hinside
    | false =>
      have houtside : isClearOutside w = true := by simpa [hquotes] using h
      rw [quote_of_not_needsQuotes hquotes]
      exact scan_word (isUnbroken_of_needsQuotes hquotes) (needsQuotes_eq_false hquotes).1 houtside
  rw [hword, scan_bare_after, Option.map_map]
  congr 1
  funext ls
  exact (foldr_push_cons _ _ _).trans (by rw [List.append_nil])

theorem spell_ne_quote (h : isClear w = false)
    (hscan : scan .between (quote w ++ after ws) = some ls) :
    (spell ls).flatten ≠ w ++ ws.flatten := by
  unfold isClear at h
  cases hquotes : needsQuotes w with
  | true =>
    have hopen : step .between '"' = some (.put [] .double) := rfl
    have hinside : isClearInside w = false := by simpa [hquotes] using h
    rw [quote_of_needsQuotes hquotes, List.cons_append, scan_of_skip hopen,
      List.append_assoc] at hscan
    exact spell_ne_inside hinside (displays_after ws) hscan
  | false =>
    have houtside : isClearOutside w = false := by simpa [hquotes] using h
    rw [quote_of_not_needsQuotes hquotes] at hscan
    exact spell_ne_word (isUnbroken_of_needsQuotes hquotes) (needsQuotes_eq_false hquotes).1
      houtside (displays_after ws) hscan

theorem spell_letters (w : List Char) : (letters w).map Letter.char = w := by
  unfold letters
  split <;> simp [Function.comp_def, Letter.quoted, Letter.bare]

/-- A line is read as the words that it displays just if each of them is clear. -/
theorem scan_after_iff : scan .between (after ws) = some ls ∧ spell ls = ws ↔
    (∀ w ∈ ws, isClear w = true) ∧ ls = ws.map letters := by
  induction ws generalizing ls with
  | nil =>
    have hnil : scan .between (after []) = some [] := rfl
    rw [hnil, Option.some_inj]
    constructor
    · rintro ⟨rfl, -⟩
      exact ⟨by simp, rfl⟩
    · rintro ⟨-, rfl⟩
      exact ⟨rfl, rfl⟩
  | cons w ws ih =>
    rw [scan_after_cons, List.forall_mem_cons]
    cases h : isClear w with
    | true =>
      rw [scan_quote h, Option.map_eq_some_iff]
      constructor
      · rintro ⟨⟨ls, hls, rfl⟩, hspell⟩
        obtain ⟨hclear, rfl⟩ := ih.1 ⟨hls, (List.cons.inj hspell).2⟩
        exact ⟨⟨rfl, hclear⟩, rfl⟩
      · rintro ⟨⟨-, hclear⟩, rfl⟩
        obtain ⟨hls, hspell⟩ := ih.2 ⟨hclear, rfl⟩
        exact ⟨⟨_, hls, rfl⟩, congrArg₂ List.cons (spell_letters w) hspell⟩
    | false =>
      -- The first word that is not clear goes wrong, however the rest is read.
      refine ⟨fun hread ↦ ?_, fun hclear ↦ by simp at hclear⟩
      have hspell := congrArg List.flatten hread.2
      exact absurd hspell (spell_ne_quote h hread.1)

def isKept (w : List Char) : Bool :=
  if needsQuotes w then isClearInside w else isClearOutside w && !expands (w.map .bare)

def isCallable (w : List Char) : Bool :=
  needsQuotes w || !(isReserved (w.map .bare) || isAssignment (w.map .bare))

theorem isKept_eq (w : List Char) : isKept w = (isClear w && !expands (letters w)) := by
  unfold isKept isClear letters
  cases needsQuotes w with
  | true => simp [expands_quoted]
  | false => simp

theorem isCallable_eq (w : List Char) :
    isCallable w = (!isReserved (letters w) && !isAssignment (letters w)) := by
  unfold isCallable letters
  cases needsQuotes w with
  | true => simp [isReserved_quoted, isAssignment_quoted]
  | false => simp

theorem read?_after_iff (w : List Char) (ws : List (List Char)) :
    read? (after (w :: ws)) = some (w :: ws) ↔
      isCallable w = true ∧ ∀ v ∈ w :: ws, isKept v = true := by
  have hplain : isPlain ((w :: ws).map letters) = true ↔
      isCallable w = true ∧ ∀ v ∈ w :: ws, expands (letters v) = false := by
    rw [List.map_cons, isPlain, ← isCallable_eq, Bool.and_eq_true_iff, ← List.map_cons,
      List.all_map, List.all_eq_true]
    simp
  rw [read?, Option.bind_eq_some_iff]
  constructor
  · rintro ⟨ls, hscan, hread⟩
    split at hread
    case isTrue hls =>
      obtain ⟨hclear, rfl⟩ := scan_after_iff.1 ⟨hscan, Option.some_inj.1 hread⟩
      obtain ⟨hcallable, hexpands⟩ := hplain.1 hls
      refine ⟨hcallable, fun v hv ↦ ?_⟩
      rw [isKept_eq, hclear v hv, hexpands v hv]
      rfl
    case isFalse => cases hread
  · rintro ⟨hcallable, hkept⟩
    have hboth : ∀ v ∈ w :: ws, isClear v = true ∧ expands (letters v) = false := by
      simpa [isKept_eq] using hkept
    obtain ⟨hscan, hspell⟩ := scan_after_iff.2 ⟨fun v hv ↦ (hboth v hv).1, rfl⟩
    refine ⟨_, hscan, ?_⟩
    rw [if_pos (hplain.2 ⟨hcallable, fun v hv ↦ (hboth v hv).2⟩), hspell]

theorem after_cons (w : List Char) (ws : List (List Char)) :
    after (w :: ws) = ' ' :: [' '].intercalate ((w :: ws).map quote) := by
  induction ws generalizing w with
  | nil => simp [after]
  | cons v ws ih =>
    have hafter : after (w :: v :: ws) = ' ' :: (quote w ++ after (v :: ws)) := rfl
    rw [hafter, ih, List.map_cons, List.map_cons, List.map_cons, List.intercalate_cons_cons]
    simp

theorem read?_display (c : Command) : read? c.display.toList = read? (after c.words) := by
  have hskip : step .between ' ' = some (.put [] .between) := rfl
  have hscan : scan .between (after c.words) = scan .between c.display.toList := by
    rw [words, after_cons, scan_of_skip hskip, display, String.toList_ofList, words]
  rw [read?, read?, hscan]

end

/-- A command line is read as the program and the arguments just if the program is not taken for
something other than a command, and each word stands for itself: in quotes, if it has no dollar sign
and no backquote, and each backslash in it stands before a character that it does not change;
without, if it has nothing that means something to the shell. -/
theorem display_pasted (s : String) (args : List String) (cwd : Option Path) :
    read? (display ⟨.ofString s, args, cwd⟩).toList = some (s.toList :: args.map String.toList) ↔
      isCallable s.toList = true ∧ ∀ w ∈ s :: args, isKept w.toList = true := by
  have hwords : words ⟨.ofString s, args, cwd⟩ = s.toList :: args.map String.toList := by
    rw [words, Path.display_ofString]
  have hmem : (∀ w ∈ s :: args, isKept w.toList = true) ↔
      ∀ w ∈ s.toList :: args.map String.toList, isKept w = true := by
    rw [← List.map_cons, List.forall_mem_map]
  rw [read?_display, hwords, hmem]
  exact read?_after_iff s.toList (args.map String.toList)

example : isKept "-DCMAKE_CXX_FLAGS=-g -O1".toList = true ∧ isKept "".toList = true ∧
    isKept "a;b".toList = false ∧ isKept "$HOME/my dir".toList = false := by decide

/-- A backslash at the end of an argument takes the quote that closes the argument. -/
theorem display_pasted_backslash :
    ¬∀ (s : String) (args : List String) (cwd : Option Path),
      (∀ w ∈ s :: args, '\x00' ∉ w.toList) → read? (display ⟨.ofString s, args, cwd⟩).toList =
        some (s.toList :: args.map String.toList) := by
  intro h
  have hread := h "cmake" ["a b\\"] none (by decide)
  have hnone : read? (display ⟨.ofString "cmake", ["a b\\"], none⟩).toList = none := by decide
  rw [hnone] at hread
  cases hread

end Command

end BuildMatrix
