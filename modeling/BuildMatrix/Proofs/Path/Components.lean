import BuildMatrix.Path

namespace BuildMatrix.Path

section

variable {b : UInt8} {s t : List UInt8}

@[simp] theorem cut_nil : cut [] = [[]] := rfl

@[simp] theorem cut_slash_cons (t : List UInt8) : cut (slash :: t) = [] :: cut t := rfl

theorem cut_ne_nil (s : List UInt8) : cut s ≠ [] := by
  cases s with
  | nil => simp
  | cons b s =>
    unfold cut
    split
    · simp
    · split <;> simp

theorem cut_cons_of_ne (hb : b ≠ slash) : ∃ first rest, cut s = first :: rest ∧
    cut (b :: s) = (b :: first) :: rest := by
  obtain ⟨first, rest, h⟩ := List.exists_cons_of_ne_nil (cut_ne_nil s)
  refine ⟨first, rest, h, ?_⟩
  rw [cut, if_neg hb, h]

theorem cut_append_slash (s t : List UInt8) : cut (s ++ slash :: t) = cut s ++ cut t := by
  induction s with
  | nil => rfl
  | cons b s ih =>
    by_cases hb : b = slash
    · subst hb
      rw [List.cons_append, cut_slash_cons, cut_slash_cons, ih, List.cons_append]
    · obtain ⟨first, rest, hs, hbs⟩ := cut_cons_of_ne (s := s) hb
      obtain ⟨first', rest', hs', hbs'⟩ := cut_cons_of_ne (s := s ++ slash :: t) hb
      rw [ih, hs, List.cons_append, List.cons.injEq] at hs'
      rw [List.cons_append, hbs, hbs', ← hs'.1, ← hs'.2, List.cons_append]

theorem cut_of_not_mem (h : slash ∉ s) : cut s = [s] := by
  induction s with
  | nil => rfl
  | cons b s ih =>
    rw [List.mem_cons, not_or] at h
    obtain ⟨first, rest, hs, hbs⟩ := cut_cons_of_ne (s := s) (Ne.symm h.1)
    rw [ih h.2, List.cons.injEq] at hs
    rw [hbs, ← hs.1, ← hs.2]

theorem slash_not_mem_of_mem_cut (h : t ∈ cut s) : slash ∉ t := by
  induction s generalizing t with
  | nil => simp_all
  | cons b s ih =>
    by_cases hb : b = slash
    · subst hb
      rcases List.mem_cons.1 h with rfl | h
      · simp
      · exact ih h
    · obtain ⟨first, rest, hs, hbs⟩ := cut_cons_of_ne (s := s) hb
      rw [hbs] at h
      rw [hs] at ih
      rcases List.mem_cons.1 h with rfl | h
      · rw [List.mem_cons, not_or]
        exact ⟨Ne.symm hb, ih List.mem_cons_self⟩
      · exact ih (List.mem_cons_of_mem first h)

end

/-- The names of a path and its `..`, without a root or a dot in front of them. -/
def body (p : Path) : List Component := p.pieces.filterMap Component.ofPiece

variable {p q : Path}

theorem components_of_isAbsolute (h : p.isAbsolute = true) : p.components = .root :: p.body := by
  simp [components, body, h]

theorem isAbsolute_iff : p.isAbsolute = true ↔ ∃ t, p.bytes = slash :: t := by
  rcases p with ⟨_ | ⟨b, t⟩⟩ <;> simp [isAbsolute]

theorem isAbsolute_join (p q : Path) : (p.join q).isAbsolute = (p.isAbsolute || q.isAbsolute) := by
  unfold join
  cases hq : q.isAbsolute with
  | true => simp [hq]
  | false =>
    rcases p with ⟨_ | ⟨b, t⟩⟩
    · simpa [isAbsolute] using hq
    · simp only [Bool.false_eq_true, if_false]
      split <;> simp [isAbsolute]

theorem body_join (h : q.isAbsolute = false) : (p.join q).body = p.body ++ q.body := by
  unfold join
  rw [h, if_neg Bool.false_ne_true]
  split
  case isTrue hp =>
    -- The empty piece behind a separator at the end is no part of the path.
    rcases hp with hp | hp
    · simp [body, pieces, hp, Component.ofPiece]
    · obtain ⟨s, hs⟩ := List.getLast?_eq_some_iff.1 hp
      have hpieces : cut (s ++ [slash]) = cut s ++ [[]] := cut_append_slash s []
      simp [body, pieces, hs, cut_append_slash, hpieces, Component.ofPiece]
  case isFalse => simp [body, pieces, cut_append_slash]

theorem join_of_isAbsolute (h : q.isAbsolute = true) : p.join q = q := by
  rw [join, if_pos h]

theorem Component.path_of_ofPiece {s : List UInt8} {c : Component} (h : ofPiece s = some c) :
    c.path = ⟨s⟩ ∧ c ≠ .root ∧ c ≠ .here := by
  unfold ofPiece at h
  split at h
  case isTrue => simp at h
  case isFalse =>
    split at h
    case isTrue hs =>
      obtain rfl : up = c := Option.some.inj h
      exact ⟨by rw [hs]; rfl, by simp, by simp⟩
    case isFalse =>
      obtain rfl : name s = c := Option.some.inj h
      exact ⟨rfl, by simp, by simp⟩

/-- A part that stands between separators is a path of one part. -/
theorem body_path_of_mem {c : Component} (h : c ∈ p.body) :
    c.path.body = [c] ∧ c.path.isAbsolute = false ∧ c ≠ .root ∧ c ≠ .here := by
  obtain ⟨s, hs, hc⟩ := List.mem_filterMap.1 h
  have hslash : slash ∉ s := slash_not_mem_of_mem_cut hs
  obtain ⟨hpath, hkind⟩ := Component.path_of_ofPiece hc
  have habsolute : isAbsolute ⟨s⟩ = false := by
    rw [Bool.eq_false_iff, Ne, isAbsolute_iff]
    rintro ⟨t, rfl⟩
    exact hslash List.mem_cons_self
  refine ⟨?_, hpath ▸ habsolute, hkind⟩
  rw [hpath, body, pieces, cut_of_not_mem hslash]
  simp [hc]

theorem components_filter (p : Path) :
    (p.components.filter fun c ↦ c ≠ .root ∧ c ≠ .here) = p.body := by
  have hbody : p.body.filter (fun c ↦ c ≠ .root ∧ c ≠ .here) = p.body := by
    rw [List.filter_eq_self]
    intro c hc
    simpa using (body_path_of_mem hc).2.2
  unfold components
  rw [List.filter_append, ← body, hbody]
  split
  · rfl
  · split <;> rfl

theorem extend_of_forall_mem_body {parts : List Component} (h : ∀ c ∈ parts, c ∈ q.body)
    (p : Path) :
    (p.extend parts).body = p.body ++ parts ∧ (p.extend parts).isAbsolute = p.isAbsolute := by
  induction parts generalizing p with
  | nil => simp [extend]
  | cons c parts ih =>
    obtain ⟨hbody, habsolute, -, -⟩ := body_path_of_mem (h c List.mem_cons_self)
    obtain ⟨hb, ha⟩ := ih (fun d hd ↦ h d (List.mem_cons_of_mem c hd)) (p.join c.path)
    constructor
    · rw [extend, List.foldl_cons, ← extend, hb, body_join habsolute, hbody, List.append_assoc]
      rfl
    · rw [extend, List.foldl_cons, ← extend, ha, isAbsolute_join, habsolute, Bool.or_false]

theorem body_extend (p q : Path) : (p.extend q.body).body = p.body ++ q.body :=
  (extend_of_forall_mem_body (fun _ hc ↦ hc) p).1

theorem isAbsolute_extend (p q : Path) : (p.extend q.body).isAbsolute = p.isAbsolute :=
  (extend_of_forall_mem_body (fun _ hc ↦ hc) p).2

def origin (p cwd : Path) : Path :=
  if p.isAbsolute then
    if p.bytes.take 2 = [slash, slash] ∧ p.bytes.take 3 ≠ [slash, slash, slash] then
      ⟨[slash, slash]⟩
    else ⟨[slash]⟩
  else cwd

variable {cwd : Path}

theorem isAbsolute_origin (h : cwd.isAbsolute = true ∨ p.isAbsolute = true) :
    (p.origin cwd).isAbsolute = true := by
  unfold origin
  split
  · split <;> rfl
  · simp_all

theorem body_origin : (p.origin cwd).body = if p.isAbsolute then [] else cwd.body := by
  unfold origin
  split
  · split <;> rfl
  · rfl

theorem absolute_eq (h : p.bytes ≠ []) : p.absolute cwd =
    if p.bytes.getLast? = some slash then ((p.origin cwd).extend p.body).join ⟨[]⟩
    else (p.origin cwd).extend p.body := by
  rw [absolute, if_neg h, components_filter]
  rfl

theorem isAbsolute_absolute (hp : p.bytes ≠ [])
    (h : cwd.isAbsolute = true ∨ p.isAbsolute = true) : (p.absolute cwd).isAbsolute = true := by
  have horigin := isAbsolute_origin h
  rw [absolute_eq hp]
  split
  · rw [isAbsolute_join, isAbsolute_extend, horigin, Bool.true_or]
  · rw [isAbsolute_extend, horigin]

theorem body_absolute (hp : p.bytes ≠ []) :
    (p.absolute cwd).body = (if p.isAbsolute then [] else cwd.body) ++ p.body := by
  have hempty : (⟨[]⟩ : Path).body = [] := rfl
  rw [absolute_eq hp, ← body_origin]
  split
  · rw [body_join rfl, body_extend, hempty, List.append_nil]
  · rw [body_extend]

/-- The parts of an absolute path for `p`: its own, seen from the directory if it has no root. -/
theorem components_absolute (hp : p.bytes ≠ [])
    (h : cwd.isAbsolute = true ∨ p.isAbsolute = true) : (p.absolute cwd).components =
      if p.isAbsolute then p.components else cwd.components ++ p.body := by
  rw [components_of_isAbsolute (isAbsolute_absolute hp h), body_absolute hp]
  cases ha : p.isAbsolute with
  | true => simp [components_of_isAbsolute ha]
  | false =>
    have hcwd : cwd.isAbsolute = true := by simpa [ha] using h
    simp [components_of_isAbsolute hcwd]

theorem components_join (hp : p.isAbsolute = true) (hq : q.isAbsolute = false) :
    (p.join q).components = p.components ++ q.body := by
  have hjoin : (p.join q).isAbsolute = true := by
    rw [isAbsolute_join, hp, Bool.true_or]
  rw [components_of_isAbsolute hjoin, components_of_isAbsolute hp, body_join hq, List.cons_append]

theorem head?_pieces_join (hp : p.bytes ≠ []) (hq : q.isAbsolute = false) :
    (p.join q).pieces.head? = p.pieces.head? := by
  have hhead (s t : List UInt8) : (cut s ++ cut t).head? = (cut s).head? := by
    obtain ⟨first, rest, hs⟩ := List.exists_cons_of_ne_nil (cut_ne_nil s)
    rw [hs]
    rfl
  unfold join
  rw [hq, if_neg Bool.false_ne_true]
  split
  case isTrue h =>
    obtain ⟨s, hs⟩ := List.getLast?_eq_some_iff.1 (h.resolve_left hp)
    simp only [pieces, hs, List.append_assoc, List.singleton_append, cut_append_slash, hhead]
  case isFalse => rw [pieces, cut_append_slash, hhead, pieces]

theorem components_join_of_dotless (hq : q.isAbsolute = false)
    (hdot : q.pieces.head? ≠ some [dot]) : (p.join q).components = p.components ++ q.body := by
  by_cases hp : p.bytes = []
  · obtain rfl : p = ⟨[]⟩ := by rw [← hp]
    have hjoin : join ⟨[]⟩ q = q := by simp [join]
    rw [hjoin, components, hq, if_neg Bool.false_ne_true, if_neg hdot]
    rfl
  · have habsolute : (p.join q).isAbsolute = p.isAbsolute := by
      rw [isAbsolute_join, hq, Bool.or_false]
    have hbody : (p.join q).pieces.filterMap Component.ofPiece = p.body ++ q.body := body_join hq
    rw [components, components, habsolute, head?_pieces_join hp hq, hbody, body,
      List.append_assoc]

theorem same_iff : p.same q = true ↔ p.components = q.components := beq_iff_eq

theorem bytes_ne_nil_of_isAbsolute (h : p.isAbsolute = true) : p.bytes ≠ [] := by
  obtain ⟨t, ht⟩ := isAbsolute_iff.1 h
  simp [ht]

/-- Paths with the same parts lead to the same places. -/
theorem same_join {p' : Path} (hp : p.isAbsolute = true) (hp' : p'.isAbsolute = true)
    (h : p'.same p = true) (q : Path) : (p'.join q).same (p.join q) = true := by
  rw [same_iff] at h ⊢
  cases hq : q.isAbsolute with
  | true => rw [join_of_isAbsolute hq, join_of_isAbsolute hq]
  | false => rw [components_join hp' hq, components_join hp hq, h]

theorem same_absolute (h : p.isAbsolute = true) (cwd : Path) : (p.absolute cwd).same p = true := by
  rw [same_iff, components_absolute (bytes_ne_nil_of_isAbsolute h) (.inr h), if_pos h]

theorem isAbsolute_display (h : p.isAbsolute = true) : (ofString p.display).isAbsolute = true := by
  obtain ⟨t, ht⟩ := isAbsolute_iff.1 h
  rw [isAbsolute_iff]
  have hunits : Text.Utf8.units (slash :: t) = some '/' :: Text.Utf8.units t := rfl
  simp only [ofString, display, ht, Text.Utf8.textOf, Text.Utf8.decodeLossy, hunits,
    Text.Utf8.bytesOf, Text.Utf8.encode, String.toList_ofList, List.map_cons, List.flatMap_cons]
  exact ⟨_, rfl⟩

end BuildMatrix.Path
