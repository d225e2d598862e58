import BuildMatrix.Proofs.FileTree.Walk
import BuildMatrix.Proofs.Path.Parent

namespace BuildMatrix.FileTree

open BuildMatrix.Path (dot quiet)

def start (cwd : Location) (p : Path) : Location := if p.isAbsolute then [] else cwd

/-- The first pieces of a path, some or all of them, lead to a place. -/
def LeadsThrough (t : FileTree) (cwd : Location) (p : Path) (l : Location) : Prop :=
  ∃ front, front <+: p.pieces ∧ t.walk linkLimit (start cwd p) front = .ok l

variable {t t' : FileTree} {cwd dir l : Location} {p : Path} {name : List UInt8}
  {names front : List (List UInt8)} {links : Nat}

theorem LeadsThrough.mono (h : t.IsWithin t') (hl : t.LeadsThrough cwd p l) :
    t'.LeadsThrough cwd p l := by
  obtain ⟨front, hfront, hwalk⟩ := hl
  exact ⟨front, hfront, h.walk hwalk⟩

theorem check_eq_ok_iff : check p = .ok () ↔
    (0 : UInt8) ∉ p.bytes ∧ p.bytes ≠ [] ∧ p.bytes.length < pathLimit := by
  unfold check
  split
  case isTrue h =>
    have hzero : (0 : UInt8) ∈ p.bytes := by simpa using h
    simp [hzero]
  case isFalse h =>
    split
    case isTrue hp => simp [hp]
    case isFalse hp =>
      split
      case isTrue hlong => simp [Nat.not_lt.2 hlong]
      case isFalse hlong =>
        exact iff_of_true rfl ⟨by simpa using h, hp, Nat.not_le.1 hlong⟩

theorem resolve_eq_ok_iff : t.resolve cwd p = .ok l ↔
    check p = .ok () ∧ t.walk linkLimit (start cwd p) p.pieces = .ok l := by
  unfold resolve
  cases check p with
  | error e => simp [bind, Except.bind]
  | ok u => simp [bind, Except.bind, start]

theorem isDirectory_iff : t.isDirectory cwd p = true ↔ check p = .ok () ∧
    ∃ l, t.walk linkLimit (start cwd p) p.pieces = .ok l ∧ t.get? l = some .directory := by
  unfold isDirectory node?
  cases hresolve : t.resolve cwd p with
  | error e =>
    constructor
    · intro h
      simp [bind, Except.bind] at h
    · rintro ⟨hcheck, l, hwalk, -⟩
      rw [resolve_eq_ok_iff.2 ⟨hcheck, hwalk⟩] at hresolve
      simp at hresolve
  | ok l =>
    obtain ⟨hcheck, hwalk⟩ := resolve_eq_ok_iff.1 hresolve
    cases hnode : t.get? l with
    | none => simp [hwalk, hnode, bind, Except.bind, throw, throwThe, MonadExceptOf.throw]
    | some n => cases n <;> simp [hcheck, hwalk, hnode, bind, Except.bind, pure, Except.pure]

theorem walk_quiet (hdir : t.get? dir = some .directory) (h : ∀ s ∈ names, quiet s = true)
    (links : Nat) : t.walk links dir names = .ok dir := by
  induction names with
  | nil => exact walk_nil t links dir
  | cons s names ih =>
    rw [List.forall_mem_cons] at h
    have hs : s = [] ∨ s = [dot] := by simpa [quiet] using h.1
    have hstep : t.step links dir s = .ok ⟨links, dir, []⟩ := by
      simp [step, hdir, hs]
    rw [walk_cons, hstep]
    exact ih h.2

theorem quiet_of_forall_eq_nil (h : ∀ s ∈ names, s = []) : ∀ s ∈ names, quiet s = true := by
  intro s hs
  rw [h s hs]
  rfl

theorem eq_of_walk_empty (h : ∀ s ∈ names, s = []) (hwalk : t.walk links dir names = .ok l) :
    dir = l := by
  cases names with
  | nil => simpa [walk_nil] using hwalk
  | cons s names =>
    rw [walk_cons] at hwalk
    obtain ⟨_, hstep, -⟩ := bind_eq_ok_iff.1 hwalk
    have hstay := walk_quiet (step_directory hstep) (quiet_of_forall_eq_nil h) links
    rw [walk_cons, hwalk] at hstay
    exact (Except.ok.inj hstay).symm

theorem walk_name (hdir : t.get? dir = some .directory)
    (hnew : t.get? (dir ++ [name]) = some .directory) (hempty : name ≠ []) (hdot : name ≠ [dot])
    (hup : name ≠ [dot, dot]) (hlength : name.length ≤ nameLimit) (links : Nat)
    (rest : List (List UInt8)) :
    t.walk links dir (name :: rest) = t.walk links (dir ++ [name]) rest := by
  have hstep : t.step links dir name = .ok ⟨links, dir ++ [name], []⟩ := by
    simp [step, hdir, hnew, hempty, hdot, hup, Nat.not_lt.2 hlength]
  rw [walk_cons, hstep]
  rfl

/-- The last piece of a path that is not empty, with the pieces before it. -/
structure EndsIn (p : Path) (front : List (List UInt8)) (name : List UInt8) : Prop where
  pieces : ∃ trail, p.pieces = front ++ name :: trail ∧ ∀ s ∈ trail, s = []
  name : name ≠ []

theorem endsIn_or_empty (p : Path) :
    (∃ front name, EndsIn p front name) ∨ ∀ s ∈ p.pieces, s = [] := by
  have hlist (l : List (List UInt8)) : (∃ front name trail, l = front ++ name :: trail ∧
      (∀ s ∈ trail, s = []) ∧ name ≠ []) ∨ ∀ s ∈ l, s = [] := by
    induction l with
    | nil => exact .inr (by simp)
    | cons s l ih =>
      rcases ih with ⟨front, name, trail, rfl, htrail, hname⟩ | hempty
      · exact .inl ⟨s :: front, name, trail, rfl, htrail, hname⟩
      · by_cases hs : s = []
        · exact .inr (List.forall_mem_cons.2 ⟨hs, hempty⟩)
        · exact .inl ⟨[], s, l, rfl, hempty, hs⟩
  refine (hlist p.pieces).imp_left ?_
  rintro ⟨front, name, trail, hpieces, htrail, hname⟩
  exact ⟨front, name, ⟨trail, hpieces, htrail⟩, hname⟩

def grant (t : FileTree) (name : List UInt8) (dir : Location) :
    Except Refusal (Location × List UInt8) :=
  if t.get? dir ≠ some .directory then .error .notDirectory
  else if name = [dot] ∨ name = [dot, dot] then .error .occupied
  else if nameLimit < name.length then .error .nameTooLong
  else .ok (dir, name)

theorem place_of_endsIn (h : EndsIn p front name) : t.place cwd p =
    (check p).bind fun _ ↦ (t.walk linkLimit (start cwd p) front).bind (t.grant name) := by
  obtain ⟨⟨trail, hpieces, htrail⟩, hname⟩ := h
  have hlast : p.pieces.reverse.dropWhile (· = []) = name :: front.reverse := by
    rw [hpieces, List.reverse_append, List.reverse_cons, List.append_assoc,
      List.dropWhile_append_of_pos]
    · simp [hname]
    · intro s hs
      simpa using htrail s (List.mem_reverse.1 hs)
  unfold place
  rw [hlast]
  unfold start grant
  cases check p with
  | error e => rfl
  | ok =>
    simp only [bind, Except.bind, List.reverse_reverse]
    cases t.walk linkLimit (if p.isAbsolute = true then [] else cwd) front with
    | error e => rfl
    | ok dir =>
      simp only
      split
      · rfl
      · split
        · rfl
        · split <;> rfl

theorem place_of_empty (h : ∀ s ∈ p.pieces, s = []) :
    t.place cwd p = (check p).bind fun _ ↦ .error .occupied := by
  have hlast : p.pieces.reverse.dropWhile (· = []) = [] := by
    rw [List.dropWhile_eq_nil_iff]
    intro s hs
    simpa using h s (List.mem_reverse.1 hs)
  unfold place
  rw [hlast]
  cases check p <;> rfl

theorem grant_eq_ok_iff {r : Location × List UInt8} : t.grant name dir = .ok r ↔
    r = (dir, name) ∧ t.get? dir = some .directory ∧ name ≠ [dot] ∧ name ≠ [dot, dot] ∧
      name.length ≤ nameLimit := by
  unfold grant
  split
  case isTrue h => simp [h]
  case isFalse hdir =>
    split
    case isTrue h =>
      simp only [reduceCtorEq, false_iff]
      rintro ⟨-, -, hdot, hup, -⟩
      exact h.elim hdot hup
    case isFalse hname =>
      rw [not_or] at hname
      split
      case isTrue h => simp [Nat.not_le.2 h]
      case isFalse h => simp [Nat.not_lt.1 h, not_not.1 hdir, hname, eq_comm]

/-- A new entry of a name goes to an existing directory, behind the pieces that lead there. -/
structure Placed (t : FileTree) (cwd : Location) (p : Path) (dir : Location) (name : List UInt8) :
    Prop where
  check : check p = .ok ()
  endsIn : ∃ front, EndsIn p front name ∧ t.walk linkLimit (start cwd p) front = .ok dir
  directory : t.get? dir = some .directory
  ne_dot : name ≠ [dot]
  ne_up : name ≠ [dot, dot]
  length : name.length ≤ nameLimit

theorem placed_of_place (h : t.place cwd p = .ok (dir, name)) : t.Placed cwd p dir name := by
  rcases endsIn_or_empty p with ⟨front, last, hends⟩ | hempty
  · rw [place_of_endsIn hends] at h
    obtain ⟨⟨⟩, hcheck, h⟩ := bind_eq_ok_iff.1 h
    obtain ⟨d, hwalk, h⟩ := bind_eq_ok_iff.1 h
    obtain ⟨hr, hdir, hdot, hup, hlength⟩ := grant_eq_ok_iff.1 h
    obtain ⟨rfl, rfl⟩ := Prod.mk.inj hr
    exact ⟨hcheck, ⟨front, hends, hwalk⟩, hdir, hdot, hup, hlength⟩
  · rw [place_of_empty hempty] at h
    obtain ⟨⟨⟩, -, h⟩ := bind_eq_ok_iff.1 h
    simp at h

theorem get?_eq_none_iff : t.get? l = none ↔ l ≠ [] ∧ t.entries.lookup l = none := by
  unfold get?
  split <;> simp_all

theorem entries_put {n : Node} (h : t.get? l = none) :
    (t.put l n).entries = t.entries ++ [(l, n)] := by
  have hfree : t.entries.filter (fun e ↦ e.1 ≠ l) = t.entries := by
    rw [List.filter_eq_self]
    intro e he
    have hlookup := List.lookup_eq_none_iff.1 (get?_eq_none_iff.1 h).2 e he
    have hne : l ≠ e.1 := by simpa using hlookup
    simpa using hne.symm
  rw [put, hfree]

/-- A tree with directories added in places that were free. -/
structure Grown (t t' : FileTree) (made : List Location) : Prop where
  entries : t'.entries = t.entries ++ made.map fun l ↦ (l, .directory)
  free : ∀ l ∈ made, t.get? l = none

theorem Grown.refl (t : FileTree) : t.Grown t [] where
  entries := (List.append_nil _).symm
  free := by simp

theorem Grown.isWithin {made : List Location} (h : t.Grown t' made) : t.IsWithin t' := by
  intro l n hl
  unfold get? at hl ⊢
  split at hl
  case isTrue hroot => rwa [if_pos hroot]
  case isFalse hroot => rw [if_neg hroot, h.entries, List.lookup_append, hl, Option.some_or]

theorem Grown.trans {t₁ : FileTree} {made made' : List Location} (h : t.Grown t₁ made)
    (h' : t₁.Grown t' made') : t.Grown t' (made ++ made') where
  entries := by
    rw [h'.entries, h.entries, List.map_append, List.append_assoc]
  free := by
    intro l hl
    rcases List.mem_append.1 hl with hl | hl
    · exact h.free l hl
    · cases hnode : t.get? l with
      | none => rfl
      | some n =>
        have hnew := h'.free l hl
        rw [h.isWithin l n hnode] at hnew
        simp at hnew

theorem lookup_directories {made : List Location} (h : l ∈ made) :
    (made.map fun l ↦ (l, Node.directory)).lookup l = some .directory := by
  induction made with
  | nil => simp at h
  | cons m made ih =>
    rw [List.map_cons, List.lookup_cons]
    by_cases hlm : l = m
    · simp [hlm]
    · have hne : (l == m) = false := by simpa using hlm
      rw [hne]
      exact ih ((List.mem_cons.1 h).resolve_left hlm)

theorem Grown.get?_of_mem {made : List Location} (h : t.Grown t' made) (hl : l ∈ made) :
    t'.get? l = some .directory := by
  obtain ⟨hroot, hlookup⟩ := get?_eq_none_iff.1 (h.free l hl)
  rw [get?, if_neg hroot, h.entries, List.lookup_append, hlookup, lookup_directories hl]
  rfl

theorem makeDirectory_eq (t : FileTree) (cwd : Location) (p : Path) : t.makeDirectory cwd p =
    (t.place cwd p).bind fun r ↦
      match t.get? (r.1 ++ [r.2]) with
      | some _ => .error .occupied
      | none => .ok (t.put (r.1 ++ [r.2]) .directory) := by
  unfold makeDirectory add
  cases t.place cwd p with
  | error e => rfl
  | ok r =>
    obtain ⟨dir, name⟩ := r
    simp only [bind, Except.bind]
    cases t.get? (dir ++ [name]) <;> rfl

/-- One directory is made where the path leads, in a place that was free. -/
theorem makeDirectory_eq_ok (h : t.makeDirectory cwd p = .ok t') :
    ∃ l, t.Grown t' [l] ∧ t'.isDirectory cwd p = true ∧ t'.LeadsThrough cwd p l := by
  rw [makeDirectory_eq] at h
  obtain ⟨⟨dir, name⟩, hplace, h⟩ := bind_eq_ok_iff.1 h
  have hplaced := placed_of_place hplace
  obtain ⟨front, ⟨⟨trail, hpieces, htrail⟩, hname⟩, hwalk⟩ := hplaced.endsIn
  cases hfree : t.get? (dir ++ [name]) with
  | some n => simp [hfree] at h
  | none =>
    simp only [hfree, Except.ok.injEq] at h
    subst h
    have hgrown : t.Grown (t.put (dir ++ [name]) .directory) [dir ++ [name]] :=
      ⟨entries_put hfree, by simpa using hfree⟩
    have hnew := hgrown.get?_of_mem (List.mem_singleton_self _)
    have hdir := hgrown.isWithin _ _ hplaced.directory
    obtain ⟨left, hleft⟩ := walk_append_of_ok (hgrown.isWithin.walk hwalk)
    have hon := walk_name hdir hnew hname hplaced.ne_dot hplaced.ne_up hplaced.length left
    refine ⟨dir ++ [name], hgrown, isDirectory_iff.2 ⟨hplaced.check, dir ++ [name], ?_, hnew⟩,
      front ++ [name], ⟨trail, ?_⟩, ?_⟩
    · rw [hpieces, hleft, hon, walk_quiet hnew (quiet_of_forall_eq_nil htrail)]
    · rw [hpieces, List.append_assoc, List.singleton_append]
    · rw [hleft, hon, walk_nil]

end BuildMatrix.FileTree
