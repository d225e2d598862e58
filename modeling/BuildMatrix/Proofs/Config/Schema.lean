import Mathlib
import BuildMatrix.Config.Layers
import BuildMatrix.Proofs.Text.Utf8
import BuildMatrix.Proofs.Toml.Keys

namespace BuildMatrix

def Field.address : Field → String × String
  | buildRoot => ("build", "root")
  | generator => ("build", "generator")
  | generatorProgram => ("build", "generator-program")
  | buildTool => ("build", "build-tool")
  | sourceDir => ("build", "source-dir")
  | testBinary => ("test", "binary")
  | harnessProgram => ("harness", "program")

/-- How a value is written in a file: a text as it is, and a path by its bytes. -/
def Field.Kind.IsWritten : (k : Kind) → k.Value → String → Prop
  | text, s, t => s = t
  | path, p, t => p.bytes = Text.Utf8.bytesOf t

theorem Field.Kind.isWritten_iff {k : Kind} {x : k.Value} {t : String} :
    k.IsWritten x t ↔ x = k.ofText t := by
  cases k with
  | text => exact Iff.rfl
  | path =>
    rcases x with ⟨bytes⟩
    rw [ofText, Path.ofString, Path.mk.injEq]
    exact Iff.rfl

theorem Field.Kind.ofText_injective (k : Kind) : Function.Injective k.ofText := by
  cases k with
  | text => exact fun _ _ h ↦ h
  | path =>
    intro s t h
    have hs : (Path.ofString s).text? = some s := Path.text?_eq_some_iff.2 rfl
    have ht : (Path.ofString s).text? = some t := Path.text?_eq_some_iff.2 h
    exact Option.some.inj (hs.symm.trans ht)

namespace Config

open Toml (Value)

section

variable {α β σ : Type} {step : σ → α → Except β σ} {items : List α} {c c' : σ} {P : σ → Prop}

theorem foldlM_cons_eq_ok {x : α} (h : (x :: items).foldlM step c = .ok c') :
    ∃ c₁, step c x = .ok c₁ ∧ items.foldlM step c₁ = .ok c' := by
  rw [List.foldlM_cons] at h
  cases hx : step c x with
  | ok c₁ => exact ⟨c₁, rfl, by rwa [hx] at h⟩
  | error b =>
    rw [hx] at h
    cases h

theorem foldlM_keeps (hkeep : ∀ x ∈ items, ∀ c c', P c → step c x = .ok c' → P c') (hc : P c)
    (h : items.foldlM step c = .ok c') : P c' := by
  induction items generalizing c with
  | nil => exact Except.ok.inj h ▸ hc
  | cons x items ih =>
    obtain ⟨c₁, hx, hrest⟩ := foldlM_cons_eq_ok h
    rw [List.forall_mem_cons] at hkeep
    exact ih hkeep.2 (hkeep.1 c c₁ hc hx) hrest

theorem foldlM_reaches {x : α} (hx : x ∈ items) (hset : ∀ c c', step c x = .ok c' → P c')
    (hkeep : ∀ x ∈ items, ∀ c c', P c → step c x = .ok c' → P c')
    (h : items.foldlM step c = .ok c') : P c' := by
  induction items generalizing c with
  | nil => cases hx
  | cons y items ih =>
    obtain ⟨c₁, hy, hrest⟩ := foldlM_cons_eq_ok h
    rw [List.forall_mem_cons] at hkeep
    obtain rfl | hx := List.mem_cons.1 hx
    · exact foldlM_keeps hkeep.2 (hset c c₁ hy) hrest
    · exact ih hx hkeep.2 hrest

/-- What is wrong with the first of the items that has anything wrong. -/
def First (wrong : α → β → Prop) (items : List α) (fault : β) : Prop :=
  ∃ before item after, items = before ++ item :: after ∧
    (∀ x ∈ before, ∀ b, ¬ wrong x b) ∧ wrong item fault

variable {wrong : α → β → Prop} {fault : β}

theorem not_first_nil : ¬ First wrong [] fault := by
  rintro ⟨before, item, after, h, -⟩
  cases before <;> cases h

theorem first_cons_iff {x : α} : First wrong (x :: items) fault ↔
    wrong x fault ∨ (∀ b, ¬ wrong x b) ∧ First wrong items fault := by
  constructor
  · rintro ⟨before, item, after, h, hbefore, hitem⟩
    cases before with
    | nil =>
      cases h
      exact .inl hitem
    | cons y before =>
      cases h
      rw [List.forall_mem_cons] at hbefore
      exact .inr ⟨hbefore.1, before, item, after, rfl, hbefore.2, hitem⟩
  · rintro (hx | ⟨hx, before, item, after, rfl, hbefore, hitem⟩)
    · exact ⟨[], x, items, rfl, by simp, hx⟩
    · exact ⟨x :: before, item, after, rfl, List.forall_mem_cons.2 ⟨hx, hbefore⟩, hitem⟩

theorem exists_first_iff : (∃ b, First wrong items b) ↔ ∃ x ∈ items, ∃ b, wrong x b := by
  induction items with
  | nil => simp [not_first_nil]
  | cons x items ih =>
    simp only [first_cons_iff, List.exists_mem_cons_iff, exists_or, exists_and_left, ih]
    by_cases hx : ∃ b, wrong x b
    · simp [hx]
    · simp [not_exists.1 hx]

/-- A run over items stops at the first that a step refuses, with what is wrong with it. -/
theorem foldlM_eq_error_iff (h : ∀ x ∈ items, ∀ c b, step c x = .error b ↔ wrong x b) :
    items.foldlM step c = .error fault ↔ First wrong items fault := by
  induction items generalizing c with
  | nil => exact iff_of_false (by rintro ⟨⟩) not_first_nil
  | cons x items ih =>
    rw [List.forall_mem_cons] at h
    rw [List.foldlM_cons, first_cons_iff, ← h.1 c]
    cases hx : step c x with
    | error b =>
      have hwrong : ¬ ∀ b, ¬ wrong x b := fun hnone ↦ hnone b ((h.1 c b).1 hx)
      simp only [hwrong, false_and, or_false]
      rfl
    | ok c₁ =>
      have hfine (b : β) : ¬ wrong x b := by
        rw [← h.1 c b, hx]
        rintro ⟨⟩
      rw [← ih h.2 (c := c₁)]
      simp only [hfine, not_false_eq_true, implies_true, true_and, reduceCtorEq, false_or]
      rfl

theorem foldlM_isOk_iff (h : ∀ x ∈ items, ∀ c b, step c x = .error b ↔ wrong x b) :
    (∃ c', items.foldlM step c = .ok c') ↔ ∀ x ∈ items, ∀ b, ¬ wrong x b := by
  have hfirst : (∃ b, items.foldlM step c = .error b) ↔ ∃ x ∈ items, ∃ b, wrong x b := by
    rw [← exists_first_iff]
    exact exists_congr fun b ↦ foldlM_eq_error_iff h
  cases hrun : items.foldlM step c with
  | ok c' => simpa [hrun] using hfirst
  | error b => simpa [hrun] using hfirst

end

def sectionNames : List String := ["build", "test", "harness"]

def keysIn : String → List String
  | "build" => ["root", "generator", "generator-program", "build-tool", "source-dir"]
  | "test" => ["binary"]
  | "harness" => ["program"]
  | _ => []

/-- What is wrong with an entry of a section: its key is not known there, or its value is not a
string. -/
def EntryFault (name : String) (e : String × Value) (fault : Fault) : Prop :=
  (e.1 ∉ keysIn name ∧ fault = .unknownKey e.1 (keysIn name)) ∨
    ∃ f : Field, f.address = (name, e.1) ∧ (∀ t, e.2 ≠ .string t) ∧
      fault = .wrongType (found e.2) (expectedOf f)

def TopFault (e : String × Value) (fault : Fault) : Prop :=
  (e.1 ∉ sectionNames ∧ fault = .unknownKey e.1 sectionNames) ∨
    e.1 ∈ sectionNames ∧ ∃ origin inner, e.2 = .table origin inner ∧
      First (EntryFault e.1) inner fault

theorem get_set_self (c : Config) (f : Field) (x : f.Value) : (c.set f x).get f = some x :=
  dif_pos rfl

theorem get_set_of_ne {f g : Field} (h : f ≠ g) (c : Config) (x : f.Value) :
    (c.set f x).get g = c.get g :=
  dif_neg h

theorem address_injective : Function.Injective Field.address := by
  intro f g h
  revert h
  cases f <;> cases g <;> decide

section

variable {s : Section} {f : Field} {key : String} {c c' : Config} {e : String × Value} {v : Value}
  {fault : Fault}

theorem address_eq_iff : f.address = (s.key, key) ↔ f ∈ s.fields ∧ f.key = key := by
  cases f <;> cases s <;> simp [Field.address, Section.key, Section.fields, Field.key]

theorem keysIn_key : keysIn s.key = s.fields.map Field.key := by cases s <;> rfl

theorem mem_keysIn_iff : key ∈ keysIn s.key ↔ ∃ f : Field, f.address = (s.key, key) := by
  rw [keysIn_key, List.mem_map]
  exact exists_congr fun f ↦ address_eq_iff.symm

theorem mem_sectionNames_iff : key ∈ sectionNames ↔ ∃ s : Section, s.key = key := by
  have hnames : sectionNames = Section.all.map Section.key := rfl
  have hall (s : Section) : s ∈ Section.all := by cases s <;> decide
  rw [hnames, List.mem_map]
  exact exists_congr fun s ↦ and_iff_right (hall s)

theorem readEntry_of_address (h : f.address = (s.key, e.1)) :
    readEntry s c e = readField c f e.2 := by
  obtain ⟨hf, hkey⟩ := address_eq_iff.1 h
  have hfind : s.fields.find? (fun g ↦ g.key = e.1) = some f := by
    cases hg : s.fields.find? (fun g ↦ g.key = e.1) with
    | none => exact absurd (decide_eq_true hkey) (List.find?_eq_none.1 hg f hf)
    | some g =>
      have hmem := List.mem_of_find?_eq_some hg
      have hgkey : g.key = e.1 := by simpa using List.find?_some hg
      rw [address_injective ((address_eq_iff.2 ⟨hmem, hgkey⟩).trans h.symm)]
  rw [readEntry, hfind]

theorem readEntry_of_unknown (h : e.1 ∉ keysIn s.key) :
    readEntry s c e = .error (.unknownKey e.1 (keysIn s.key)) := by
  have hfind : s.fields.find? (fun g ↦ g.key = e.1) = none := by
    rw [List.find?_eq_none]
    intro g hg hkey
    exact h (mem_keysIn_iff.2 ⟨g, address_eq_iff.2 ⟨hg, of_decide_eq_true hkey⟩⟩)
  rw [readEntry, hfind, keysIn_key]
  rfl

theorem readField_eq_error_iff : readField c f v = .error fault ↔
    (∀ t, v ≠ .string t) ∧ fault = .wrongType (found v) (expectedOf f) := by
  cases v with
  | string t => exact iff_of_false (by rintro ⟨⟩) fun h ↦ h.1 t rfl
  | _ => simp [readField, eq_comm]

theorem readEntry_eq_error_iff : readEntry s c e = .error fault ↔ EntryFault s.key e fault := by
  by_cases hkey : e.1 ∈ keysIn s.key
  · obtain ⟨f, hf⟩ := mem_keysIn_iff.1 hkey
    have hfield (g : Field) : g.address = (s.key, e.1) ↔ g = f := by
      rw [← hf]
      exact address_injective.eq_iff
    rw [readEntry_of_address hf, readField_eq_error_iff]
    simp only [EntryFault, hkey, hfield, not_true_eq_false, false_and, false_or, exists_eq_left]
  · have hnone (f : Field) : f.address ≠ (s.key, e.1) := fun hf ↦ hkey (mem_keysIn_iff.2 ⟨f, hf⟩)
    rw [readEntry_of_unknown hkey, Except.error.injEq, eq_comm]
    simp only [EntryFault, hkey, hnone, not_false_eq_true, true_and, false_and, exists_false,
      or_false]

theorem readEntry_eq_ok (h : readEntry s c e = .ok c') :
    ∃ f t, f.address = (s.key, e.1) ∧ e.2 = .string t ∧ c' = c.set f (f.kind.ofText t) := by
  by_cases hkey : e.1 ∈ keysIn s.key
  · obtain ⟨f, hf⟩ := mem_keysIn_iff.1 hkey
    rw [readEntry_of_address hf] at h
    cases hv : e.2 with
    | string t =>
      rw [hv] at h
      exact ⟨f, t, hf, rfl, (Except.ok.inj h).symm⟩
    | _ =>
      rw [hv] at h
      cases h
  · rw [readEntry_of_unknown hkey] at h
    cases h

theorem readTop_of_unknown (h : e.1 ∉ sectionNames) :
    readTop c e = .error (.unknownKey e.1 sectionNames) := by
  have hfind : Section.all.find? (fun s ↦ s.key = e.1) = none := by
    rw [List.find?_eq_none]
    intro s _ hkey
    exact h (mem_sectionNames_iff.2 ⟨s, of_decide_eq_true hkey⟩)
  rw [readTop, hfind]
  rfl

theorem readTop_section {origin : Toml.Origin} {inner : List (String × Value)} :
    readTop c (s.key, .table origin inner) = inner.foldlM (readEntry s) c := by
  cases s <;> rfl

theorem unknown_or_section
    (htable : e.1 ∈ sectionNames → ∃ origin inner, e.2 = .table origin inner) :
    e.1 ∉ sectionNames ∨ ∃ (s : Section) (origin : Toml.Origin) (inner : List (String × Value)),
      e = (s.key, .table origin inner) := by
  by_cases hkey : e.1 ∈ sectionNames
  · obtain ⟨s, hs⟩ := mem_sectionNames_iff.1 hkey
    obtain ⟨origin, inner, hv⟩ := htable hkey
    exact .inr ⟨s, origin, inner, Prod.ext hs.symm hv⟩
  · exact .inl hkey

theorem readTop_eq_ok (htable : e.1 ∈ sectionNames → ∃ origin inner, e.2 = .table origin inner)
    (h : readTop c e = .ok c') :
    ∃ s origin inner, e = (s.key, .table origin inner) ∧ inner.foldlM (readEntry s) c = .ok c' := by
  obtain hkey | ⟨s, origin, inner, rfl⟩ := unknown_or_section htable
  · rw [readTop_of_unknown hkey] at h
    cases h
  · exact ⟨s, origin, inner, rfl, readTop_section.symm.trans h⟩

theorem topFault_section {origin : Toml.Origin} {inner : List (String × Value)} :
    TopFault (s.key, .table origin inner) fault ↔ First (EntryFault s.key) inner fault := by
  have hkey : s.key ∈ sectionNames := mem_sectionNames_iff.2 ⟨s, rfl⟩
  simp [TopFault, hkey]

theorem readTop_eq_error_iff
    (htable : e.1 ∈ sectionNames → ∃ origin inner, e.2 = .table origin inner) :
    readTop c e = .error fault ↔ TopFault e fault := by
  obtain hkey | ⟨s, origin, inner, rfl⟩ := unknown_or_section htable
  · rw [readTop_of_unknown hkey, Except.error.injEq, eq_comm]
    simp [TopFault, hkey]
  · rw [readTop_section, topFault_section]
    exact foldlM_eq_error_iff fun x _ c b ↦ readEntry_eq_error_iff

end

/-- The sections among the entries of a document are tables. -/
def Sectioned (entries : List (String × Value)) : Prop :=
  ∀ e ∈ entries, e.1 ∈ sectionNames → ∃ origin inner, e.2 = .table origin inner

def Conforms (entries : List (String × Value)) : Prop :=
  ∀ e ∈ entries, e.1 ∈ sectionNames ∧ ∀ origin inner, e.2 = .table origin inner →
    ∀ x ∈ inner, x.1 ∈ keysIn e.1 ∧ ∃ t, x.2 = .string t

def Contains (entries : List (String × Value)) (f : Field) (v : Value) : Prop :=
  ∃ origin inner, (f.address.1, .table origin inner) ∈ entries ∧ (f.address.2, v) ∈ inner

def SameSection (e e' : String × Value) : Prop :=
  e.1 = e'.1 ∧ ∃ origin origin' inner inner', e.2 = .table origin inner ∧
    e'.2 = .table origin' inner' ∧ inner.Perm inner'

/-- The same sections in any order, each with the same entries in any order. -/
def Reordered (entries entries' : List (String × Value)) : Prop :=
  ∃ sections, entries.Perm sections ∧ List.Forall₂ SameSection sections entries'

section

variable {entries entries' : List (String × Value)} {c : Config} {f : Field} {v v' : Value}
  {fault : Fault} {origin : Toml.Origin}

theorem ofEntries_eq_error_iff (hsec : Sectioned entries) :
    ofEntries entries = .error fault ↔ First TopFault entries fault :=
  foldlM_eq_error_iff fun e he _ _ ↦ readTop_eq_error_iff (hsec e he)

theorem no_entryFault_iff {s : Section} {x : String × Value} :
    (∀ b, ¬ EntryFault s.key x b) ↔ x.1 ∈ keysIn s.key ∧ ∃ t, x.2 = .string t := by
  constructor
  · intro h
    cases hx : readEntry s empty x with
    | ok c =>
      obtain ⟨f, t, hf, hv, -⟩ := readEntry_eq_ok hx
      exact ⟨mem_keysIn_iff.2 ⟨f, hf⟩, t, hv⟩
    | error b => exact absurd (readEntry_eq_error_iff.1 hx) (h b)
  · rintro ⟨hkey, t, hv⟩ b (⟨hunknown, -⟩ | ⟨-, -, hstring, -⟩)
    · exact hunknown hkey
    · exact hstring t hv

theorem no_topFault_iff {e : String × Value}
    (htable : e.1 ∈ sectionNames → ∃ origin inner, e.2 = .table origin inner) :
    (∀ b, ¬ TopFault e b) ↔ e.1 ∈ sectionNames ∧ ∀ origin inner, e.2 = .table origin inner →
      ∀ x ∈ inner, x.1 ∈ keysIn e.1 ∧ ∃ t, x.2 = .string t := by
  obtain hkey | ⟨s, origin, inner, rfl⟩ := unknown_or_section htable
  · refine iff_of_false (fun h ↦ ?_) fun h ↦ hkey h.1
    exact h _ (.inl ⟨hkey, rfl⟩)
  · have hinner : (∀ b, ¬ First (EntryFault s.key) inner b) ↔
        ∀ x ∈ inner, x.1 ∈ keysIn s.key ∧ ∃ t, x.2 = .string t := by
      rw [← not_exists, exists_first_iff]
      simp only [not_exists, not_and, no_entryFault_iff]
    have hkey : s.key ∈ sectionNames := mem_sectionNames_iff.2 ⟨s, rfl⟩
    simp only [topFault_section, hinner, hkey, true_and]
    exact ⟨fun h _ _ heq ↦ (Value.table.inj heq).2 ▸ h, fun h ↦ h origin inner rfl⟩

theorem ofEntries_isOk_iff (hsec : Sectioned entries) :
    (∃ c, ofEntries entries = .ok c) ↔ Conforms entries := by
  have hrun : (∃ c, ofEntries entries = .ok c) ↔ ∀ e ∈ entries, ∀ b, ¬ TopFault e b :=
    foldlM_isOk_iff fun e he _ _ ↦ readTop_eq_error_iff (hsec e he)
  rw [hrun]
  exact forall₂_congr fun e he ↦ no_topFault_iff (hsec e he)

theorem contains_of_get {x : f.Value} (hsec : Sectioned entries) (h : ofEntries entries = .ok c)
    (hx : c.get f = some x) : ∃ t, x = f.kind.ofText t ∧ Contains entries f (.string t) := by
  let Sound (c : Config) :=
    ∀ x, c.get f = some x → ∃ t, x = f.kind.ofText t ∧ Contains entries f (.string t)
  have hentry {s : Section} {origin : Toml.Origin} {inner : List (String × Value)}
      (he : (s.key, .table origin inner) ∈ entries) :
      ∀ e ∈ inner, ∀ c c', Sound c → readEntry s c e = .ok c' → Sound c' := by
    intro e he' c c' hc hstep x hx
    obtain ⟨g, t, hg, hv, rfl⟩ := readEntry_eq_ok hstep
    by_cases hgf : g = f
    · subst hgf
      rw [get_set_self, Option.some.injEq] at hx
      refine ⟨t, hx.symm, ?_⟩
      rw [Contains, hg]
      exact ⟨origin, inner, he, hv ▸ he'⟩
    · rw [get_set_of_ne hgf] at hx
      exact hc x hx
  have htop : ∀ e ∈ entries, ∀ c c', Sound c → readTop c e = .ok c' → Sound c' := by
    intro e he c c' hc hstep
    obtain ⟨s, origin, inner, rfl, hrun⟩ := readTop_eq_ok (hsec e he) hstep
    exact foldlM_keeps (hentry he) hc hrun
  have hempty : Sound empty := fun x hx ↦ by cases hx
  exact foldlM_keeps htop hempty h x hx

theorem get_of_contains (hsec : Sectioned entries) (h : ofEntries entries = .ok c)
    (hf : Contains entries f v) : ∃ x, c.get f = some x := by
  let Given (c : Config) := ∃ x, c.get f = some x
  have hentry {s : Section} {inner : List (String × Value)} :
      ∀ x ∈ inner, ∀ c c', Given c → readEntry s c x = .ok c' → Given c' := by
    intro x _ c c' hc hstep
    obtain ⟨g, t, -, -, rfl⟩ := readEntry_eq_ok hstep
    by_cases hgf : g = f
    · subst hgf
      exact ⟨_, get_set_self c g _⟩
    · obtain ⟨y, hy⟩ := hc
      exact ⟨y, (get_set_of_ne hgf c _).trans hy⟩
  have htop : ∀ e ∈ entries, ∀ c c', Given c → readTop c e = .ok c' → Given c' := by
    intro e he c c' hc hstep
    obtain ⟨s, origin, inner, -, hrun⟩ := readTop_eq_ok (hsec e he) hstep
    exact foldlM_keeps hentry hc hrun
  obtain ⟨origin, inner, he, hx⟩ := hf
  -- The entry itself sets the field, and no entry behind it takes that away.
  have hset : ∀ c c', readTop c (f.address.1, .table origin inner) = .ok c' → Given c' := by
    intro c c' hstep
    obtain ⟨s, origin', inner', heq, hrun⟩ := readTop_eq_ok (hsec _ he) hstep
    obtain ⟨hs, hinner⟩ := Prod.mk.inj heq
    cases hinner
    refine foldlM_reaches hx (fun c c' hstep ↦ ?_) hentry hrun
    obtain ⟨g, t, hg, -, rfl⟩ := readEntry_eq_ok hstep
    obtain rfl : f = g := address_injective (hg.trans (by rw [← hs])).symm
    exact ⟨_, get_set_self c f _⟩
  have hgiven : Given c := foldlM_reaches he hset htop h
  exact hgiven

theorem Contains.unique (hkeys : Toml.WellKeyed (.table origin entries)) (h : Contains entries f v)
    (h' : Contains entries f v') : v = v' := by
  obtain ⟨origin₁, inner₁, he₁, hx₁⟩ := h
  obtain ⟨origin₂, inner₂, he₂, hx₂⟩ := h'
  have hkeyed := Toml.wellKeyed_table_iff.1 hkeys
  cases hkeyed.eq_of_mem he₁ he₂
  exact (Toml.wellKeyed_table_iff.1 (hkeyed.wellKeyed _ he₁)).eq_of_mem hx₁ hx₂

theorem get_eq_some_iff (hkeys : Toml.WellKeyed (.table origin entries)) (hsec : Sectioned entries)
    (h : ofEntries entries = .ok c) {x : f.Value} :
    c.get f = some x ↔ ∃ t, x = f.kind.ofText t ∧ Contains entries f (.string t) := by
  constructor
  · intro hx
    exact contains_of_get hsec h hx
  · rintro ⟨t, rfl, ht⟩
    obtain ⟨y, hy⟩ := get_of_contains hsec h ht
    obtain ⟨t', rfl, ht'⟩ := contains_of_get hsec h hy
    cases ht.unique hkeys ht'
    exact hy

theorem contains_iff (hkeys : Toml.WellKeyed (.table origin entries)) (hsec : Sectioned entries)
    (h : ofEntries entries = .ok c) :
    Contains entries f v ↔ ∃ x t, c.get f = some x ∧ f.kind.IsWritten x t ∧ v = .string t := by
  constructor
  · intro hv
    obtain ⟨x, hx⟩ := get_of_contains hsec h hv
    obtain ⟨t, htext, ht⟩ := contains_of_get hsec h hx
    exact ⟨x, t, hx, Field.Kind.isWritten_iff.2 htext, hv.unique hkeys ht⟩
  · rintro ⟨x, t, hx, hwritten, rfl⟩
    obtain ⟨t', htext, ht'⟩ := contains_of_get hsec h hx
    have heq : t = t' :=
      f.kind.ofText_injective ((Field.Kind.isWritten_iff.1 hwritten).symm.trans htext)
    rwa [heq]

theorem SameSection.symm {e e' : String × Value} (h : SameSection e e') : SameSection e' e := by
  obtain ⟨hkey, origin, origin', inner, inner', hv, hv', hperm⟩ := h
  exact ⟨hkey.symm, origin', origin, inner', inner, hv', hv, hperm.symm⟩

theorem exists_mem_of_forall₂ {α β : Type} {r : α → β → Prop} {l : List α} {l' : List β} {x : α}
    (h : List.Forall₂ r l l') (hx : x ∈ l) : ∃ y ∈ l', r x y := by
  induction h with
  | nil => cases hx
  | @cons a b l l' hab _ ih =>
    obtain rfl | hx := List.mem_cons.1 hx
    · exact ⟨b, List.mem_cons_self, hab⟩
    · obtain ⟨y, hy, hxy⟩ := ih hx
      exact ⟨y, List.mem_cons_of_mem b hy, hxy⟩

theorem Reordered.exists_mem (h : Reordered entries entries') :
    (∀ e ∈ entries, ∃ e' ∈ entries', SameSection e e') ∧
      ∀ e' ∈ entries', ∃ e ∈ entries, SameSection e e' := by
  obtain ⟨sections, hperm, hsame⟩ := h
  constructor
  · exact fun e he ↦ exists_mem_of_forall₂ hsame (hperm.mem_iff.1 he)
  · intro e' he'
    obtain ⟨e, he, hee⟩ := exists_mem_of_forall₂ hsame.flip he'
    exact ⟨e, hperm.mem_iff.2 he, hee⟩

theorem Contains.of_sameSection (h : ∀ e ∈ entries, ∃ e' ∈ entries', SameSection e e')
    (hf : Contains entries f v) : Contains entries' f v := by
  obtain ⟨origin, inner, he, hx⟩ := hf
  obtain ⟨⟨key, value⟩, he', hkey, _, origin', _, inner', hv, hv', hperm⟩ := h _ he
  cases hv
  subst hkey hv'
  exact ⟨origin', inner', he', hperm.mem_iff.1 hx⟩

theorem Reordered.contains_iff (h : Reordered entries entries') :
    Contains entries f v ↔ Contains entries' f v := by
  obtain ⟨hto, hfrom⟩ := h.exists_mem
  refine ⟨Contains.of_sameSection hto, Contains.of_sameSection fun e' he' ↦ ?_⟩
  obtain ⟨e, he, hee⟩ := hfrom e' he'
  exact ⟨e, he, hee.symm⟩

theorem Reordered.sectioned (h : Reordered entries entries') : Sectioned entries' := by
  intro e' he' _
  obtain ⟨e, -, -, -, origin', -, inner', -, hv', -⟩ := h.exists_mem.2 e' he'
  exact ⟨origin', inner', hv'⟩

theorem Reordered.conforms (h : Reordered entries entries') (hc : Conforms entries) :
    Conforms entries' := by
  intro e' he'
  obtain ⟨e, he, hkey, origin, origin', inner, inner', hv, hv', hperm⟩ := h.exists_mem.2 e' he'
  obtain ⟨hname, hinner⟩ := hc e he
  rw [← hkey]
  refine ⟨hname, fun origin₁ inner₁ hv₁ x hx ↦ ?_⟩
  cases hv'.symm.trans hv₁
  exact hinner origin inner hv x (hperm.mem_iff.2 hx)

end

def Describes (w : Place) (p : Path) (entries : List (String × Value)) : Prop :=
  ∃ text origin, w.tree.readText w.cwd p = .ok text ∧
    Toml.parse? text = some (.table origin entries)

section

variable {w w' : Place} {p p' : Path} {entries entries' : List (String × Value)} {c : Config}

theorem Describes.wellKeyed (h : Describes w p entries) :
    ∃ origin, Toml.WellKeyed (.table origin entries) := by
  obtain ⟨text, origin, -, hparse⟩ := h
  exact ⟨origin, Toml.wellKeyed_of_parse hparse⟩

theorem Describes.load_eq (h : Describes w p entries) :
    load w p = (ofEntries entries).mapError fun fault ↦ .invalidConfig p fault.message := by
  obtain ⟨text, origin, hread, hparse⟩ := h
  rw [load, hread]
  dsimp only
  rw [ofText, hparse]
  dsimp only
  cases ofEntries entries <;> rfl

theorem Describes.load_eq_ok_iff (h : Describes w p entries) :
    load w p = .ok c ↔ ofEntries entries = .ok c := by
  rw [h.load_eq]
  cases ofEntries entries <;> simp [Except.mapError]

theorem Describes.load_eq_error_iff (h : Describes w p entries) {e : Error} :
    load w p = .error e ↔
      ∃ fault, ofEntries entries = .error fault ∧ e = .invalidConfig p fault.message := by
  rw [h.load_eq]
  cases ofEntries entries <;> simp [Except.mapError, eq_comm]

theorem load_reordered (h : Describes w p entries) (hsec : Sectioned entries)
    (hc : load w p = .ok c) (h' : Describes w' p' entries') (hr : Reordered entries entries') :
    load w' p' = .ok c := by
  rw [h.load_eq_ok_iff] at hc
  rw [h'.load_eq_ok_iff]
  obtain ⟨c', hc'⟩ := (ofEntries_isOk_iff hr.sectioned).2
    (hr.conforms ((ofEntries_isOk_iff hsec).1 ⟨c, hc⟩))
  obtain ⟨origin, hkeys⟩ := h.wellKeyed
  obtain ⟨origin', hkeys'⟩ := h'.wellKeyed
  have hget (f : Field) : c.get f = c'.get f := by
    refine Option.ext fun x ↦ ?_
    rw [get_eq_some_iff hkeys hsec hc, get_eq_some_iff hkeys' hr.sectioned hc']
    exact exists_congr fun t ↦ and_congr_right' hr.contains_iff
  have hsame : c = c' := congrArg Config.mk (funext hget)
  rw [hc', hsame]

/-- A file with sections that are tables is loaded if and only if it has only known keys, with
strings. Then each field has the string at its key, whatever the order of the sections and keys.
Otherwise the refusal tells of the first wrong entry. -/
theorem load_schema (h : Describes w p entries) (hsec : Sectioned entries) :
    ((∃ c, load w p = .ok c) ↔ Conforms entries) ∧
      (∀ c, load w p = .ok c →
        (∀ f v, Contains entries f v ↔
          ∃ x t, c.get f = some x ∧ f.kind.IsWritten x t ∧ v = .string t) ∧
          ∀ w' p' entries', Describes w' p' entries' → Reordered entries entries' →
            load w' p' = .ok c) ∧
        ∀ e, load w p = .error e ↔
          ∃ fault, First TopFault entries fault ∧ e = .invalidConfig p fault.message := by
  refine ⟨?_, fun c hc ↦ ⟨fun f v ↦ ?_, fun w' p' entries' ↦ load_reordered h hsec hc⟩, fun e ↦ ?_⟩
  · rw [← ofEntries_isOk_iff hsec]
    exact exists_congr fun c ↦ h.load_eq_ok_iff
  · obtain ⟨origin, hkeys⟩ := h.wellKeyed
    exact contains_iff hkeys hsec (h.load_eq_ok_iff.1 hc)
  · rw [h.load_eq_error_iff]
    exact exists_congr fun fault ↦ and_congr_left' (ofEntries_eq_error_iff hsec)

theorem load_schema_snakeCase :
    let text := "[build]\nroot='out'\nbuild_tool='make'"
    let w : Place := ⟨⟨[([[0x61]], .file (Text.Utf8.bytesOf text) false)]⟩, []⟩
    let entries : List (String × Value) :=
      [("build", .table .header [("root", .string "out"), ("build_tool", .string "make")])]
    Describes w (.ofString "a") entries ∧ Sectioned entries ∧
      load w (.ofString "a") = .error (.invalidConfig (.ofString "a")
        ("unknown field `build_tool`, expected one of `root`, `generator`, " ++
          "`generator-program`, `build-tool`, `source-dir`")) := by
  have hread : FileTree.readText
      ⟨[([[0x61]], .file (Text.Utf8.bytesOf "[build]\nroot='out'\nbuild_tool='make'") false)]⟩ []
      (.ofString "a") = .ok "[build]\nroot='out'\nbuild_tool='make'" := by cbv
  have hheader : Toml.line ⟨.table .header [], []⟩ "[build]\nroot='out'\nbuild_tool='make'".toList =
      some (⟨.table .header [("build", .table .header [])], ["build"]⟩,
        "root='out'\nbuild_tool='make'".toList) := by cbv
  have hroot : Toml.line ⟨.table .header [("build", .table .header [])], ["build"]⟩
      "root='out'\nbuild_tool='make'".toList =
      some (⟨.table .header [("build", .table .header [("root", .string "out")])], ["build"]⟩,
        "build_tool='make'".toList) := by cbv
  have htool : Toml.line
      ⟨.table .header [("build", .table .header [("root", .string "out")])], ["build"]⟩
      "build_tool='make'".toList =
      some (⟨.table .header [("build", .table .header
        [("root", .string "out"), ("build_tool", .string "make")])], ["build"]⟩, []) := by cbv
  have hparse : Toml.parse? "[build]\nroot='out'\nbuild_tool='make'" = some (.table .header
      [("build", .table .header [("root", .string "out"), ("build_tool", .string "make")])]) := by
    change Toml.documentFrom 37 _ "[build]\nroot='out'\nbuild_tool='make'".toList = _
    rw [Toml.documentFrom_line (by decide) (by decide) hheader,
      Toml.documentFrom_line (by decide) (by decide) hroot,
      Toml.documentFrom_line (by decide) (by decide) htool]
    rfl
  intro text w entries
  have hdoc : Describes w (.ofString "a") entries := ⟨text, .header, hread, hparse⟩
  have hsec : Sectioned entries := by
    intro e he _
    obtain rfl := List.mem_singleton.1 he
    exact ⟨_, _, rfl⟩
  have hfine : ∀ x ∈ [("root", Value.string "out")], ∀ b, ¬ EntryFault "build" x b := by
    intro x hx
    obtain rfl := List.mem_singleton.1 hx
    exact (no_entryFault_iff (s := .build)).2 ⟨by decide, "out", rfl⟩
  have hwrong : First TopFault entries (.unknownKey "build_tool" (keysIn "build")) := by
    refine ⟨[], _, [], rfl, by simp, .inr ⟨by decide, _, _, rfl, ?_⟩⟩
    exact ⟨_, _, [], rfl, hfine, .inl ⟨by decide, rfl⟩⟩
  have hmessage : "unknown field `build_tool`, expected one of `root`, `generator`, " ++
      "`generator-program`, `build-tool`, `source-dir`" =
        Fault.message (.unknownKey "build_tool" (keysIn "build")) := by decide +kernel
  exact ⟨hdoc, hsec,
    ((load_schema hdoc hsec).2.2 _).2 ⟨_, hwrong, congrArg (Error.invalidConfig _) hmessage⟩⟩

end

end Config

end BuildMatrix
