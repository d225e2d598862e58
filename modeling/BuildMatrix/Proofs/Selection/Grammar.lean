import BuildMatrix.Proofs.Text.Trim
import BuildMatrix.Selection
import Mathlib

namespace BuildMatrix

namespace Text

variable {s t : List Char} {c : Char}

theorem isBlank_of_isAlpha (h : c.isAlpha = true) : isBlank c = false := by
  simp only [Char.isAlpha, Char.isUpper, Char.isLower, UInt32.le_iff_toNat_le, Bool.or_eq_true,
    decide_eq_true_eq, Bool.and_eq_true] at h
  have hletter : 65 ≤ c.toNat ∧ c.toNat ≤ 90 ∨ 97 ≤ c.toNat ∧ c.toNat ≤ 122 := h
  clear h
  simp [isBlank, blankRanges]
  omega

theorem isBlank_toLower (c : Char) : isBlank c.toLower = isBlank c := by
  by_cases h : c.isUpper = true
  · have halpha : c.isAlpha = true := by simp [Char.isAlpha, h]
    have hlower : c.toLower.isAlpha = true := by rw [Char.isAlpha_toLower_eq_isAlpha, halpha]
    rw [isBlank_of_isAlpha halpha, isBlank_of_isAlpha hlower]
  · rw [Char.toLower_eq_of_not_isUpper h]

theorem lower_trim (s : List Char) : lower (trim s) = trim (lower s) := by
  have hblank : isBlank ∘ Char.toLower = isBlank := funext isBlank_toLower
  simp only [lower, trim, trimStart, trimEnd, List.dropWhile_map, hblank, ← List.map_reverse]

def Recased (s t : List Char) : Prop :=
  List.Forall₂ (fun c d ↦ d = c ∨ d = c.toUpper ∨ d = c.toLower) s t

theorem Recased.lower_eq (h : Recased s t) : lower t = lower s := by
  induction h with
  | nil => rfl
  | cons hc _ ih =>
    rw [lower, List.map_cons, ← lower, ih]
    obtain rfl | rfl | rfl := hc <;> simp [lower]

end Text

namespace Selection

theorem selectorKey_padded {s t before after : List Char} (h : Text.Recased s t)
    (hbefore : ∀ c ∈ before, Text.isBlank c = true) (hafter : ∀ c ∈ after, Text.isBlank c = true) :
    selectorKey (String.ofList (before ++ t ++ after)) = selectorKey (String.ofList s) := by
  rw [selectorKey, selectorKey, String.toList_ofList, String.toList_ofList,
    Text.trim_append_of_blank hbefore hafter, Text.lower_trim, Text.lower_trim, h.lower_eq]

variable {α : Type}

/-- A text spells a value if it is one of the value's words, in any case and between blanks. -/
def Spells (words : α → List String) (s : String) (a : α) : Prop :=
  ∃ m, Text.IsMiddle s.toList m ∧ ∃ w ∈ words a, Text.lower m = w.toList

theorem spells_iff {words : α → List String} {s : String} {a : α} :
    Spells words s a ↔ ∃ w ∈ words a, selectorKey s = w.toList := by
  constructor
  · rintro ⟨m, hm, w, hw, hlower⟩
    obtain rfl := Text.trim_eq_iff.2 hm
    exact ⟨w, hw, hlower⟩
  · rintro ⟨w, hw, hkey⟩
    exact ⟨Text.trim s.toList, Text.trim_eq_iff.1 rfl, w, hw, hkey⟩

structure Reads (parse : String → Except Error α) (table : List α) (fits : String → α → Bool)
    (words : α → List String) (unknown : String → Error) : Prop where
  searched : ∀ s, parse s = (table.find? (fits s)).elim (.error (unknown s)) .ok
  accepted : ∀ s a, parse s = .ok a ↔ Spells words s a
  refused : ∀ s, (∀ a, ¬Spells words s a) → parse s = .error (unknown s)
  unique : ∀ s a b, fits s a = true → fits s b = true → a = b
  unordered : ∀ table' : List α, table'.Perm table →
    ∀ s, table'.find? (fits s) = table.find? (fits s)
  insensitive : ∀ (s : String) (t before after : List Char), Text.Recased s.toList t →
    (∀ c ∈ before, Text.isBlank c = true) → (∀ c ∈ after, Text.isBlank c = true) →
      (parse (String.ofList (before ++ t ++ after))).toOption = (parse s).toOption

theorem find?_eq_some_iff_of_unique {table : List α} {p : α → Bool} {a : α}
    (hunique : ∀ a b, p a = true → p b = true → a = b) :
    table.find? p = some a ↔ a ∈ table ∧ p a = true := by
  constructor
  · intro h
    exact ⟨List.mem_of_find?_eq_some h, List.find?_some h⟩
  · rintro ⟨hmem, ha⟩
    obtain ⟨b, hb⟩ := Option.isSome_iff_exists.1 (List.find?_isSome.2 ⟨a, hmem, ha⟩)
    rw [hb, hunique b a (List.find?_some hb) ha]

/-- A table in which every word belongs to one value is read by its words alone. -/
theorem reads_of_fits {parse : String → Except Error α} {table : List α}
    {fits : String → α → Bool} {words : α → List String} {unknown : String → Error}
    (hsearched : ∀ s, parse s = (table.find? (fits s)).elim (.error (unknown s)) .ok)
    (htable : ∀ a, a ∈ table)
    (hfits : ∀ s a, fits s a = true ↔ ∃ w ∈ words a, selectorKey s = w.toList)
    (hwords : ∀ a b, ∀ w ∈ words a, w ∈ words b → a = b) :
    Reads parse table fits words unknown := by
  have hunique (s : String) (a b : α) (ha : fits s a = true) (hb : fits s b = true) : a = b := by
    obtain ⟨w, hw, hkey⟩ := (hfits s a).1 ha
    obtain ⟨w', hw', hkey'⟩ := (hfits s b).1 hb
    obtain rfl : w = w' := String.toList_inj.1 (hkey.symm.trans hkey')
    exact hwords a b w hw hw'
  have hfound (s : String) (a : α) : table.find? (fits s) = some a ↔ Spells words s a := by
    rw [find?_eq_some_iff_of_unique (hunique s), hfits, spells_iff]
    exact and_iff_right (htable a)
  refine ⟨hsearched, fun s a ↦ ?_, fun s h ↦ ?_, hunique, fun table' hperm s ↦ ?_,
    fun s t before after ht hbefore hafter ↦ ?_⟩
  · rw [← hfound, hsearched]
    cases table.find? (fits s) <;> simp
  · have hnone : table.find? (fits s) = none :=
      Option.eq_none_iff_forall_ne_some.2 fun a ha ↦ h a ((hfound s a).1 ha)
    rw [hsearched, hnone]
    rfl
  · ext a
    rw [find?_eq_some_iff_of_unique (hunique s), find?_eq_some_iff_of_unique (hunique s),
      hperm.mem_iff]
  · have hkey := selectorKey_padded ht hbefore hafter
    rw [String.ofList_toList] at hkey
    have hsame : fits (String.ofList (before ++ t ++ after)) = fits s := by
      funext a
      rw [Bool.eq_iff_iff, hfits, hfits, hkey]
    rw [hsearched, hsearched, hsame]
    cases table.find? (fits s) <;> rfl

end Selection

namespace Compiler

def fits (s : String) (c : Compiler) : Bool := c.name.toList = selectorKey s

def words : Compiler → List String
  | clang => ["clang"]
  | gcc => ["gcc"]
  | emscripten => ["emscripten"]

theorem fits_iff (s : String) (c : Compiler) :
    c.fits s = true ↔ ∃ w ∈ c.words, selectorKey s = w.toList := by
  cases c <;> simp [fits, words, name, eq_comm]

end Compiler

namespace Variant

def fits (s : String) (v : Variant) : Bool :=
  let key := (selectorKey s).map dashAsUnderscore
  v.slug.toList = key || Text.lower v.name.toList = key

def words : Variant → List String
  | release => ["release"]
  | debug => ["debug"]
  | asan => ["asan"]
  | msan => ["msan"]
  | tsan => ["tsan"]
  | valgrind => ["valgrind"]
  | valgrindDbg => ["valgrinddbg", "valgrind_dbg", "valgrind-dbg"]

section

variable {key w w' : List Char}

theorem dashAsUnderscore_eq_iff {c d : Char} (hd : d ≠ '_') (hd' : d ≠ '-') :
    dashAsUnderscore c = d ↔ c = d := by
  unfold dashAsUnderscore
  split
  case isTrue hc => simp [hc, hd.symm, hd'.symm]
  case isFalse => rfl

theorem map_dashAsUnderscore_eq_iff (h : '_' ∉ w) (h' : '-' ∉ w) :
    key.map dashAsUnderscore = w ↔ key = w := by
  induction w generalizing key with
  | nil => simp
  | cons d w ih =>
    rw [List.mem_cons, not_or] at h h'
    cases key with
    | nil => simp
    | cons c key =>
      rw [List.map_cons, List.cons.injEq, List.cons.injEq, ih h.2 h'.2,
        dashAsUnderscore_eq_iff (Ne.symm h.1) (Ne.symm h'.1)]

/-- Either separator may stand where the word has an underscore. -/
theorem map_dashAsUnderscore_eq_append_iff (h : '_' ∉ w) (h' : '-' ∉ w) (hw : '_' ∉ w')
    (hw' : '-' ∉ w') : key.map dashAsUnderscore = w ++ '_' :: w' ↔
      key = w ++ '_' :: w' ∨ key = w ++ '-' :: w' := by
  have hseparator (c : Char) : dashAsUnderscore c = '_' ↔ c = '_' ∨ c = '-' := by
    unfold dashAsUnderscore
    split
    case isTrue hc => simp [hc]
    case isFalse hc => simp [hc]
  simp only [List.map_eq_append_iff, List.map_eq_cons_iff, hseparator,
    map_dashAsUnderscore_eq_iff h h', map_dashAsUnderscore_eq_iff hw hw']
  constructor
  · rintro ⟨_, _, rfl, rfl, c, _, rfl, hc, rfl⟩
    exact hc.imp (fun hc ↦ by rw [hc]) fun hc ↦ by rw [hc]
  · rintro (rfl | rfl)
    · exact ⟨_, _, rfl, rfl, _, _, rfl, .inl rfl, rfl⟩
    · exact ⟨_, _, rfl, rfl, _, _, rfl, .inr rfl, rfl⟩

end

theorem fits_iff_of_plain {s w : String} {v : Variant} (hslug : v.slug.toList = w.toList)
    (hname : Text.lower v.name.toList = w.toList) (h : '_' ∉ w.toList) (h' : '-' ∉ w.toList) :
    v.fits s = true ↔ ∃ w' ∈ [w], selectorKey s = w'.toList := by
  simp only [fits, hslug, hname, Bool.or_self, decide_eq_true_eq, List.mem_singleton,
    exists_eq_left]
  rw [eq_comm, map_dashAsUnderscore_eq_iff h h']

theorem fits_valgrindDbg_iff (s : String) :
    valgrindDbg.fits s = true ↔ ∃ w ∈ valgrindDbg.words, selectorKey s = w.toList := by
  have hwords (a b c : String) : (∃ w ∈ [a, b, c], selectorKey s = w.toList) ↔
      (selectorKey s = b.toList ∨ selectorKey s = c.toList) ∨ selectorKey s = a.toList := by
    simp [or_comm]
  have hslug : valgrindDbg.slug.toList = "valgrind".toList ++ '_' :: "dbg".toList := by decide
  have hname : Text.lower valgrindDbg.name.toList = "valgrinddbg".toList := by decide
  have hmarked : (selectorKey s).map dashAsUnderscore = "valgrind".toList ++ '_' :: "dbg".toList ↔
      selectorKey s = "valgrind".toList ++ '_' :: "dbg".toList ∨
        selectorKey s = "valgrind".toList ++ '-' :: "dbg".toList :=
    map_dashAsUnderscore_eq_append_iff (by decide) (by decide) (by decide) (by decide)
  have hjoined : (selectorKey s).map dashAsUnderscore = "valgrinddbg".toList ↔
      selectorKey s = "valgrinddbg".toList :=
    map_dashAsUnderscore_eq_iff (by decide) (by decide)
  rw [fits, Bool.or_eq_true, decide_eq_true_iff, decide_eq_true_iff, hname, hslug, eq_comm,
    hmarked, @eq_comm _ "valgrinddbg".toList, hjoined]
  exact (hwords "valgrinddbg" "valgrind_dbg" "valgrind-dbg").symm

theorem fits_iff (s : String) (v : Variant) :
    v.fits s = true ↔ ∃ w ∈ v.words, selectorKey s = w.toList := by
  cases v with
  | valgrindDbg => exact fits_valgrindDbg_iff s
  | _ => exact fits_iff_of_plain (by decide) (by decide) (by decide) (by decide)

end Variant

/-- A selector is read as the value that it spells and as nothing else, whatever the order of the
tables, and a text that spells none is told as it is, with all names. -/
theorem Selection.reads_spellings :
    Reads Compiler.parse Compiler.all Compiler.fits Compiler.words
        (fun s ↦ .unknownCompiler s ["clang", "gcc", "emscripten"]) ∧
      Reads Variant.parse Variant.all Variant.fits Variant.words
        (fun s ↦ .unknownVariant s
          ["Release", "Debug", "Asan", "Msan", "Tsan", "Valgrind", "ValgrindDbg"]) := by
  constructor
  · refine reads_of_fits (fun s ↦ ?_) (fun c ↦ ?_) Compiler.fits_iff fun c c' ↦ ?_
    · unfold Compiler.parse
      split
      case h_1 c h => exact (congrArg (Option.elim · _ _) h).symm
      case h_2 h => exact (congrArg (Option.elim · _ _) h).symm
    · cases c <;> decide
    · cases c <;> cases c' <;> decide
  · refine reads_of_fits (fun s ↦ ?_) (fun v ↦ ?_) Variant.fits_iff fun v v' ↦ ?_
    · unfold Variant.parse
      dsimp only
      split
      case h_1 v h => exact (congrArg (Option.elim · _ _) h).symm
      case h_2 h => exact (congrArg (Option.elim · _ _) h).symm
    · cases v <;> decide
    · cases v <;> cases v' <;> decide

example : (Variant.parse "\u2003VALGRIND-dbg\n").toOption = some .valgrindDbg := by decide

example : (Variant.parse "valgrind--dbg").toOption = none := by decide

end BuildMatrix
