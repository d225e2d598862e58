import BuildMatrix.FileTree

namespace BuildMatrix.FileTree

/-- A walk before its next name: how many links it may still follow, where it is, and which names
were put in front of the rest. -/
structure Stop where
  links : Nat
  dir : Location
  before : List (List UInt8)

def step (t : FileTree) (links : Nat) (dir : Location) (name : List UInt8) :
    Except Refusal Stop :=
  match t.get? dir with
  | some .directory =>
    if name = [] ∨ name = [Path.dot] then .ok ⟨links, dir, []⟩
    else if name = [Path.dot, Path.dot] then .ok ⟨links, dir.dropLast, []⟩
    else if nameLimit < name.length then .error .nameTooLong
    else
      match t.get? (dir ++ [name]) with
      | none => .error .notFound
      | some (.link target) =>
        match links with
        | 0 => .error .tooManyLinks
        | links + 1 => .ok ⟨links, if target.isAbsolute then [] else dir, target.pieces⟩
      | some _ => .ok ⟨links, dir ++ [name], []⟩
  | some _ => .error .notDirectory
  | none => .error .notFound

variable {t t' : FileTree} {links : Nat} {dir l : Location} {name : List UInt8}
  {names more : List (List UInt8)} {s : Stop} {e : Refusal}

theorem bind_eq_ok_iff {α β ε : Type} {x : Except ε α} {f : α → Except ε β} {b : β} :
    x.bind f = .ok b ↔ ∃ a, x = .ok a ∧ f a = .ok b := by
  cases x <;> simp [Except.bind]

theorem walk_nil (t : FileTree) (links : Nat) (dir : Location) :
    t.walk links dir [] = .ok dir := by
  rw [walk]

theorem walk_cons (t : FileTree) (links : Nat) (dir : Location) (name : List UInt8)
    (rest : List (List UInt8)) : t.walk links dir (name :: rest) =
      (t.step links dir name).bind fun s ↦ t.walk s.links s.dir (s.before ++ rest) := by
  rw [walk, step]
  cases t.get? dir with
  | none => rfl
  | some n =>
    cases n with
    | directory =>
      simp only
      split
      · rfl
      · split
        · rfl
        · split
          · rfl
          · cases t.get? (dir ++ [name]) with
            | none => rfl
            | some n =>
              cases n with
              | link target => cases links <;> rfl
              | _ => rfl
    | _ => rfl

theorem step_directory (h : t.step links dir name = .ok s) : t.get? dir = some .directory := by
  unfold step at h
  split at h
  case h_1 hdir => exact hdir
  all_goals simp at h

/-- A step puts names in front only for a link that it follows. -/
theorem step_before (h : t.step links dir name = .ok s) :
    s.links < links ∨ s.links = links ∧ s.before = [] := by
  have hstay (d : Location) (h : (.ok ⟨links, d, []⟩ : Except Refusal Stop) = .ok s) :
      s.links < links ∨ s.links = links ∧ s.before = [] := by
    obtain rfl := Except.ok.inj h
    exact .inr ⟨rfl, rfl⟩
  have hdir := step_directory h
  simp only [step, hdir] at h
  split at h
  · exact hstay _ h
  · split at h
    · exact hstay _ h
    · split at h
      · simp at h
      · split at h
        · simp at h
        · split at h
          · simp at h
          · obtain rfl := Except.ok.inj h
            exact .inl (Nat.lt_succ_self _)
        · exact hstay _ h

/-- What holds at the end of a walk, and before a step where it holds after it, holds of every
walk. -/
theorem walk_induction (t : FileTree) {P : Nat → Location → List (List UInt8) → Prop}
    (nil : ∀ links dir, P links dir [])
    (error : ∀ links dir name rest e, t.step links dir name = .error e → P links dir (name :: rest))
    (ok : ∀ links dir name rest s, t.step links dir name = .ok s →
      P s.links s.dir (s.before ++ rest) → P links dir (name :: rest))
    (links : Nat) (dir : Location) (names : List (List UInt8)) : P links dir names :=
  match names with
  | [] => nil links dir
  | name :: rest =>
    match h : t.step links dir name with
    | .error e => error links dir name rest e h
    | .ok s =>
      ok links dir name rest s h (walk_induction t nil error ok s.links s.dir (s.before ++ rest))
termination_by (links, names.length)
decreasing_by
  -- A link puts names in front, but then there is one link less to follow.
  rcases step_before h with hlinks | ⟨hlinks, hbefore⟩
  · exact Prod.Lex.left _ _ hlinks
  · rw [hlinks, hbefore]
    exact Prod.Lex.right _ (Nat.lt_succ_self _)

theorem walk_append_of_error (h : t.walk links dir names = .error e) (more : List (List UInt8)) :
    t.walk links dir (names ++ more) = .error e := by
  induction links, dir, names using walk_induction t with
  | nil links dir => simp [walk_nil] at h
  | error links dir name rest e' hstep =>
    rw [walk_cons, hstep] at h
    rw [List.cons_append, walk_cons, hstep]
    exact h
  | ok links dir name rest s hstep ih =>
    rw [walk_cons, hstep] at h
    rw [List.cons_append, walk_cons, hstep]
    have hrest := ih h
    rwa [List.append_assoc] at hrest

theorem walk_append_of_ok (h : t.walk links dir names = .ok l) :
    ∃ left, ∀ more, t.walk links dir (names ++ more) = t.walk left l more := by
  induction links, dir, names using walk_induction t with
  | nil links dir =>
    rw [walk_nil, Except.ok.injEq] at h
    exact ⟨links, fun more ↦ by rw [List.nil_append, h]⟩
  | error links dir name rest e hstep => simp [walk_cons, hstep, Except.bind] at h
  | ok links dir name rest s hstep ih =>
    rw [walk_cons, hstep] at h
    obtain ⟨left, hleft⟩ := ih h
    refine ⟨left, fun more ↦ ?_⟩
    rw [List.cons_append, walk_cons, hstep, ← hleft, List.append_assoc]
    rfl

theorem walk_eq_ok_of_append (h : t.walk links dir (names ++ more) = .ok l) :
    ∃ d left, t.walk links dir names = .ok d ∧ t.walk left d more = .ok l := by
  cases hnames : t.walk links dir names with
  | error e => simp [walk_append_of_error hnames] at h
  | ok d =>
    obtain ⟨left, hleft⟩ := walk_append_of_ok hnames
    exact ⟨d, left, rfl, hleft more ▸ h⟩

def IsWithin (t t' : FileTree) : Prop := ∀ l n, t.get? l = some n → t'.get? l = some n

theorem IsWithin.step (h : t.IsWithin t') (hstep : t.step links dir name = .ok s) :
    t'.step links dir name = .ok s := by
  have hdir := step_directory hstep
  simp only [FileTree.step, hdir] at hstep
  simp only [FileTree.step, h _ _ hdir]
  split at hstep
  case isTrue hquiet => rwa [if_pos hquiet]
  case isFalse hquiet =>
    rw [if_neg hquiet]
    split at hstep
    case isTrue hup => rwa [if_pos hup]
    case isFalse hup =>
      rw [if_neg hup]
      split at hstep
      case isTrue => simp at hstep
      case isFalse hlong =>
        rw [if_neg hlong]
        cases hnode : t.get? (dir ++ [name]) with
        | none => simp [hnode] at hstep
        | some n =>
          rw [hnode] at hstep
          rwa [h _ _ hnode]

theorem IsWithin.walk (h : t.IsWithin t') (hwalk : t.walk links dir names = .ok l) :
    t'.walk links dir names = .ok l := by
  induction links, dir, names using walk_induction t with
  | nil links dir =>
    rw [walk_nil] at hwalk ⊢
    exact hwalk
  | error links dir name rest e hstep => simp [walk_cons, hstep, Except.bind] at hwalk
  | ok links dir name rest s hstep ih =>
    rw [walk_cons, hstep] at hwalk
    rw [walk_cons, h.step hstep]
    exact ih hwalk

end BuildMatrix.FileTree
