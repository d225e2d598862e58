import Mathlib.Data.List.Nodup
import Mathlib.Tactic.SplitIfs
import BuildMatrix.Toml.Document

namespace BuildMatrix.Toml

inductive WellKeyed : Value → Prop
  | string (s : String) : WellKeyed (.string s)
  | integer (i : Int) : WellKeyed (.integer i)
  | float (f : Float) : WellKeyed (.float f)
  | boolean (b : Bool) : WellKeyed (.boolean b)
  | date : WellKeyed .date
  | array {items : List Value} : (∀ v ∈ items, WellKeyed v) → WellKeyed (.array items)
  | tables {items : List Value} : (∀ v ∈ items, WellKeyed v) → WellKeyed (.tables items)
  | table {origin : Origin} {entries : List (String × Value)} :
      (entries.map Prod.fst).Nodup → (∀ e ∈ entries, WellKeyed e.2) →
        WellKeyed (.table origin entries)

structure Keyed (entries : List (String × Value)) : Prop where
  nodup : (entries.map Prod.fst).Nodup
  wellKeyed : ∀ e ∈ entries, WellKeyed e.2

section

variable {key : String} {path : List String} {v v' t t' : Value} {origin : Origin}
  {entries : List (String × Value)}

theorem wellKeyed_table_iff : WellKeyed (.table origin entries) ↔ Keyed entries := by
  constructor
  · rintro (_ | _ | _ | _ | _ | _ | _ | ⟨hnodup, hsub⟩)
    exact ⟨hnodup, hsub⟩
  · exact fun h ↦ .table h.nodup h.wellKeyed

theorem keyed_nil : Keyed [] := ⟨List.nodup_nil, by simp⟩

theorem wellKeyed_empty (origin : Origin) : WellKeyed (.table origin []) :=
  wellKeyed_table_iff.2 keyed_nil

theorem Keyed.cons (h : Keyed entries) (hkey : key ∉ entries.map Prod.fst) (hv : WellKeyed v) :
    Keyed ((key, v) :: entries) :=
  ⟨List.nodup_cons.2 ⟨hkey, h.nodup⟩, List.forall_mem_cons.2 ⟨hv, h.wellKeyed⟩⟩

theorem keyed_cons_iff : Keyed ((key, v) :: entries) ↔
    key ∉ entries.map Prod.fst ∧ WellKeyed v ∧ Keyed entries := by
  constructor
  · intro h
    obtain ⟨hkey, hnodup⟩ := List.nodup_cons.1 h.nodup
    obtain ⟨hv, hsub⟩ := List.forall_mem_cons.1 h.wellKeyed
    exact ⟨hkey, hv, hnodup, hsub⟩
  · rintro ⟨hkey, hv, h⟩
    exact h.cons hkey hv

theorem mem_keys_put {k : String} :
    k ∈ (put key v entries).map Prod.fst ↔ k = key ∨ k ∈ entries.map Prod.fst := by
  fun_induction put key v entries with
  | case1 => simp
  | case2 w rest => simp
  | case3 k' w rest hk ih =>
    rw [List.map_cons, List.map_cons, List.mem_cons, List.mem_cons, ih]
    exact or_left_comm

theorem Keyed.put (h : Keyed entries) (hv : WellKeyed v) : Keyed (put key v entries) := by
  fun_induction Toml.put key v entries with
  | case1 => exact keyed_nil.cons (by simp) hv
  | case2 w rest =>
    obtain ⟨hkey, -, hrest⟩ := keyed_cons_iff.1 h
    exact hrest.cons hkey hv
  | case3 k w rest hk ih =>
    obtain ⟨hkey, hw, hrest⟩ := keyed_cons_iff.1 h
    refine (ih hrest).cons ?_ hw
    rw [mem_keys_put]
    exact not_or.2 ⟨hk, hkey⟩

theorem Keyed.append (h : Keyed entries) (hkey : key ∉ entries.map Prod.fst) (hv : WellKeyed v) :
    Keyed (entries ++ [(key, v)]) := by
  constructor
  · rw [List.map_append, List.nodup_append_comm]
    exact List.nodup_cons.2 ⟨hkey, h.nodup⟩
  · exact List.forall_mem_append.2 ⟨h.wellKeyed, by simpa using hv⟩

theorem notMem_keys_of_lookup (h : entries.lookup key = none) : key ∉ entries.map Prod.fst := by
  intro hkey
  obtain ⟨e, he, rfl⟩ := List.mem_map.1 hkey
  simpa using List.lookup_eq_none_iff.1 h e he

theorem Keyed.of_lookup (h : Keyed entries) (hv : entries.lookup key = some v) : WellKeyed v := by
  obtain ⟨l, r, hentries, -⟩ := List.lookup_eq_some_iff.1 hv
  exact h.wellKeyed (key, v) (by simp [hentries])

theorem Keyed.eq_of_mem (h : Keyed entries) (hv : (key, v) ∈ entries) (hv' : (key, v') ∈ entries) :
    v = v' :=
  congrArg Prod.snd (List.inj_on_of_nodup_map h.nodup hv hv' rfl)

/-- Moving the entry of a key to the end keeps the keys distinct. -/
theorem Keyed.move (h : Keyed entries) (hv : WellKeyed v) :
    Keyed (entries.filter (·.1 ≠ key) ++ [(key, v)]) := by
  have hrest : Keyed (entries.filter (·.1 ≠ key)) :=
    ⟨h.nodup.sublist (List.filter_sublist.map _),
      fun e he ↦ h.wellKeyed e (List.mem_of_mem_filter he)⟩
  exact hrest.append (by simp) hv

end

/-- A change that leaves keys distinct. -/
def Keeps (f : Value → Option Value) : Prop :=
  ∀ v v', WellKeyed v → f v = some v' → WellKeyed v'

theorem keeps_onTable {f : Origin → List (String × Value) → Option Value}
    (h : ∀ origin entries v, Keyed entries → f origin entries = some v → WellKeyed v) :
    Keeps (onTable f) := by
  intro t v ht hv
  cases t with
  | table origin entries => exact h origin entries v (wellKeyed_table_iff.1 ht) hv
  | tables items =>
    obtain _ | _ | _ | _ | _ | _ | hitems := ht
    rw [onTable] at hv
    split at hv
    case h_1 origin entries hlast =>
      obtain ⟨v', hf, rfl⟩ := Option.map_eq_some_iff.1 hv
      have hold := hitems _ (List.mem_of_getLast? hlast)
      refine .tables fun x hx ↦ ?_
      obtain hx | hx := List.mem_append.1 hx
      · exact hitems x (List.dropLast_subset items hx)
      · rw [List.mem_singleton.1 hx]
        exact h origin entries v' (wellKeyed_table_iff.1 hold) hf
    case h_2 => cases hv
  | _ => cases hv

theorem keeps_descend {f : Value → Option Value} (hf : Keeps f) (step : Origin)
    (path : List String) : Keeps (descend step f path) := by
  induction path with
  | nil => exact hf
  | cons key path ih =>
    refine keeps_onTable fun origin entries v h hv ↦ ?_
    split at hv
    case h_1 =>
      obtain ⟨sub, hsub, hput⟩ := Option.bind_eq_some_iff.1 hv
      obtain rfl := Option.some_inj.1 hput
      have hnew := ih _ _ (wellKeyed_empty step) hsub
      exact wellKeyed_table_iff.2 (h.put hnew)
    case h_2 old hold =>
      split at hv
      case isTrue =>
        obtain ⟨sub, hsub, hput⟩ := Option.bind_eq_some_iff.1 hv
        obtain rfl := Option.some_inj.1 hput
        exact wellKeyed_table_iff.2 (h.put (ih _ _ (h.of_lookup hold) hsub))
      case isFalse => cases hv

theorem keeps_addEntry (dotted : Bool) (key : String) {v : Value} (hv : WellKeyed v) :
    Keeps (addEntry dotted key v) := by
  refine keeps_onTable fun origin entries t h ht ↦ ?_
  split at ht
  case isTrue => cases ht
  case isFalse hfree =>
    obtain rfl := Option.some_inj.1 ht
    rw [Bool.or_eq_true, not_or, Option.not_isSome_iff_eq_none] at hfree
    exact wellKeyed_table_iff.2 (h.append (notMem_keys_of_lookup hfree.2) hv)

theorem keeps_setKey (path : List String) {v : Value} (hv : WellKeyed v) :
    Keeps (setKey path v) := by
  intro t t' ht h
  unfold setKey at h
  split at h
  · cases h
  · exact keeps_descend (keeps_addEntry _ _ hv) _ _ t t' ht h

theorem keeps_openTable (key : String) : Keeps (openTable key) := by
  refine keeps_onTable fun origin entries t h ht ↦ ?_
  split at ht
  case h_1 hkey =>
    obtain rfl := Option.some_inj.1 ht
    exact wellKeyed_table_iff.2 (h.append (notMem_keys_of_lookup hkey) (wellKeyed_empty .header))
  case h_2 inner hkey =>
    obtain rfl := Option.some_inj.1 ht
    have hinner := wellKeyed_table_iff.1 (h.of_lookup hkey)
    exact wellKeyed_table_iff.2 (h.move (wellKeyed_table_iff.2 hinner))
  case h_3 => cases ht

theorem keeps_appendTable (key : String) : Keeps (appendTable key) := by
  have hfresh := wellKeyed_empty .header
  refine keeps_onTable fun origin entries t h ht ↦ ?_
  split at ht
  case h_1 hkey =>
    obtain rfl := Option.some_inj.1 ht
    have hnew : WellKeyed (.tables [.table .header []]) := .tables (by simpa using hfresh)
    exact wellKeyed_table_iff.2 (h.append (notMem_keys_of_lookup hkey) hnew)
  case h_2 items hkey =>
    obtain rfl := Option.some_inj.1 ht
    obtain _ | _ | _ | _ | _ | _ | hitems := h.of_lookup hkey
    refine wellKeyed_table_iff.2 (h.put (.tables fun x hx ↦ ?_))
    obtain hx | hx := List.mem_append.1 hx
    · exact hitems x hx
    · exact List.mem_singleton.1 hx ▸ hfresh
  case h_3 => cases ht

theorem keeps_addHeader (double : Bool) (path : List String) : Keeps (addHeader double path) := by
  intro t t' ht h
  unfold addHeader at h
  split at h
  · cases h
  · refine keeps_descend ?_ _ _ t t' ht h
    split
    · exact keeps_appendTable _
    · exact keeps_openTable _

theorem keeps_addUnder (header path : List String) {v : Value} (hv : WellKeyed v) :
    Keeps (addUnder header path v) := keeps_descend (keeps_setKey path hv) _ _

def Reads (item : List Char → Option (Value × List Char)) : Prop :=
  ∀ s v rest, item s = some (v, rest) → WellKeyed v

theorem wellKeyed_word {w : List Char} {v : Value} (h : word? w = some v) : WellKeyed v := by
  unfold word? at h
  split_ifs at h
  · exact Option.some_inj.1 h ▸ .boolean true
  · exact Option.some_inj.1 h ▸ .boolean false
  · exact Option.some_inj.1 h ▸ .date
  · cases hi : integer? w with
    | some i =>
      rw [hi] at h
      exact Option.some_inj.1 h ▸ .integer i
    | none =>
      rw [hi] at h
      obtain ⟨x, -, rfl⟩ := Option.map_eq_some_iff.1 h
      exact .float x

theorem reads_scalar : Reads scalar? := by
  have hword {w rest} {r : Value × List Char} (h : (word? w).map (·, rest) = some r) :
      WellKeyed r.1 := by
    obtain ⟨v, hv, rfl⟩ := Option.map_eq_some_iff.1 h
    exact wellKeyed_word hv
  intro s v rest h
  unfold scalar? at h
  dsimp only at h
  split at h
  · split_ifs at h
    · cases h
      exact .date
    · exact hword h
  · exact hword h

theorem wellKeyed_arrayItems {item : List Char → Option (Value × List Char)} (hitem : Reads item)
    {fuel : Nat} {s rest : List Char} {items : List Value}
    (h : arrayItems item fuel s = some (items, rest)) : ∀ v ∈ items, WellKeyed v := by
  induction fuel generalizing s items rest with
  | zero => cases h
  | succ fuel ih =>
    rw [arrayItems] at h
    obtain ⟨s₁, -, h⟩ := Option.bind_eq_some_iff.1 h
    split at h
    · cases h
      simp
    · obtain ⟨⟨v, s₂⟩, hv, h⟩ := Option.bind_eq_some_iff.1 h
      obtain ⟨s₃, -, h⟩ := Option.bind_eq_some_iff.1 h
      have hv := hitem _ _ _ hv
      split at h
      · cases h
        simpa using hv
      · obtain ⟨⟨vs, s₄⟩, hvs, h⟩ := Option.bind_eq_some_iff.1 h
        cases h
        exact List.forall_mem_cons.2 ⟨hv, ih hvs⟩
      · cases h

theorem wellKeyed_inlineEntries {item : List Char → Option (Value × List Char)}
    (hitem : Reads item) {fuel : Nat} {s rest : List Char} {t t' : Value} (ht : WellKeyed t)
    (h : inlineEntries item fuel t s = some (t', rest)) : WellKeyed t' := by
  induction fuel generalizing s t with
  | zero => cases h
  | succ fuel ih =>
    rw [inlineEntries] at h
    obtain ⟨⟨path, s₁⟩, -, h⟩ := Option.bind_eq_some_iff.1 h
    dsimp only at h
    split at h
    · obtain ⟨⟨v, s₂⟩, hv, h⟩ := Option.bind_eq_some_iff.1 h
      obtain ⟨t₁, ht₁, h⟩ := Option.bind_eq_some_iff.1 h
      have ht₁ := keeps_setKey path (hitem _ _ _ hv) t t₁ ht ht₁
      split at h
      · cases h
        exact ht₁
      · exact ih ht₁ h
      · cases h
    · cases h

theorem wellKeyed_closed {v : Value} (h : WellKeyed v) : WellKeyed (closed v) := by
  unfold closed
  split
  · exact wellKeyed_table_iff.2 (wellKeyed_table_iff.1 h)
  · exact h

theorem reads_value (depth : Nat) : Reads (value? depth) := by
  -- Items and entries are read with one level less.
  induction depth using Nat.strongRecOn with
  | ind depth ih =>
    intro s v rest h
    unfold value? at h
    split at h
    · cases h
    · split_ifs at h
      · obtain ⟨⟨text, s₁⟩, -, h⟩ := Option.bind_eq_some_iff.1 h
        cases h
        exact .string _
      · split at h
        · cases h
        · obtain ⟨⟨items, s₁⟩, hitems, h⟩ := Option.bind_eq_some_iff.1 h
          cases h
          exact .array (wellKeyed_arrayItems (ih _ (Nat.lt_succ_self _)) hitems)
      · split at h
        · cases h
        · split at h
          · cases h
            exact wellKeyed_empty .braces
          · obtain ⟨⟨t, s₁⟩, ht, h⟩ := Option.bind_eq_some_iff.1 h
            cases h
            have hitem := ih _ (Nat.lt_succ_self _)
            exact wellKeyed_closed (wellKeyed_inlineEntries hitem (wellKeyed_empty .header) ht)
      · exact reads_scalar _ _ _ h

section

variable {p p' : Progress} {s rest : List Char}

theorem wellKeyed_headerLine {double : Bool} (hp : WellKeyed p.root)
    (h : headerLine double p s = some (p', rest)) : WellKeyed p'.root := by
  obtain ⟨⟨path, s₁⟩, -, h⟩ := Option.bind_eq_some_iff.1 h
  have hopen {r : List Char} (h : (do
      let s ← endLine r
      return (⟨← addHeader double path p.root, path⟩, s)) = some (p', rest)) :
      WellKeyed p'.root := by
    obtain ⟨s₂, -, h⟩ := Option.bind_eq_some_iff.1 h
    obtain ⟨root, hroot, h⟩ := Option.bind_eq_some_iff.1 h
    cases h
    exact keeps_addHeader double path p.root root hp hroot
  dsimp only at h
  split at h
  · exact hopen h
  · exact hopen h
  · cases h

theorem wellKeyed_entryLine (hp : WellKeyed p.root) (h : entryLine p s = some (p', rest)) :
    WellKeyed p'.root := by
  obtain ⟨⟨path, s₁⟩, -, h⟩ := Option.bind_eq_some_iff.1 h
  dsimp only at h
  split at h
  · obtain ⟨⟨v, s₂⟩, hv, h⟩ := Option.bind_eq_some_iff.1 h
    obtain ⟨s₃, -, h⟩ := Option.bind_eq_some_iff.1 h
    obtain ⟨root, hroot, h⟩ := Option.bind_eq_some_iff.1 h
    cases h
    exact keeps_addUnder p.header path (reads_value _ _ _ _ hv) p.root root hp hroot
  · cases h

theorem wellKeyed_line (hp : WellKeyed p.root) (h : line p s = some (p', rest)) :
    WellKeyed p'.root := by
  have hskip (h : (endLine s).map (p, ·) = some (p', rest)) : WellKeyed p'.root := by
    obtain ⟨r, -, h⟩ := Option.map_eq_some_iff.1 h
    cases h
    exact hp
  unfold line at h
  split at h
  · exact wellKeyed_headerLine hp h
  · exact wellKeyed_headerLine hp h
  · exact hskip h
  · exact hskip h
  · exact hskip h
  · exact wellKeyed_entryLine hp h

theorem documentFrom_line {fuel : Nat} (hs : s ≠ []) (hblank : dropBlanks s = s)
    (h : line p s = some (p', rest)) :
    documentFrom (fuel + 1) p s = documentFrom fuel p' rest := by
  rw [documentFrom, hblank]
  split
  · contradiction
  · rw [h]
    rfl

theorem wellKeyed_documentFrom {fuel : Nat} {v : Value}
    (hp : WellKeyed p.root) (h : documentFrom fuel p s = some v) : WellKeyed v := by
  induction fuel generalizing p s with
  | zero => cases h
  | succ fuel ih =>
    rw [documentFrom] at h
    split at h
    · exact Option.some_inj.1 h ▸ hp
    · obtain ⟨⟨p₁, s₁⟩, hline, h⟩ := Option.bind_eq_some_iff.1 h
      exact ih (wellKeyed_line hp hline) h

end

theorem wellKeyed_of_parse {text : String} {v : Value} (h : parse? text = some v) :
    WellKeyed v :=
  wellKeyed_documentFrom (p := ⟨.table .header [], []⟩) (wellKeyed_empty .header) h

end BuildMatrix.Toml
