import BuildMatrix.Context
import BuildMatrix.Machine.Execution
import BuildMatrix.Proofs.FileTree.Directories
import Mathlib.Logic.Relation

namespace BuildMatrix

namespace FileTree

open BuildMatrix.Path (slash dot quiet)

variable {t t' : FileTree} {cwd l : Location} {p q : Path}

theorem start_of_parent? (h : p.parent? = some q) : start cwd q = start cwd p := by
  rw [start, start, (Path.parent?_cases h).1]

theorem LeadsThrough.of_parent? (h : p.parent? = some q) (hl : t.LeadsThrough cwd q l) :
    t.LeadsThrough cwd p l := by
  obtain ⟨front, hfront, hwalk⟩ := hl
  -- An empty parent and the root lead nowhere but to the start.
  have hstay (hempty : ∀ s ∈ q.pieces, s = []) : t.LeadsThrough cwd p l := by
    have hl := eq_of_walk_empty (fun s hs ↦ hempty s (hfront.subset hs)) hwalk
    refine ⟨[], List.nil_prefix, ?_⟩
    rw [walk_nil, ← hl, start_of_parent? h]
  rcases (Path.parent?_cases h).2 with hq | hq | ⟨s, hp⟩
  · exact hstay (by simp [Path.pieces, hq])
  · exact hstay (by simp [Path.pieces, hq])
  · refine ⟨front, hfront.trans ?_, start_of_parent? h ▸ hwalk⟩
    rw [Path.pieces, Path.pieces, hp, Path.cut_append_slash]
    exact List.prefix_append _ _

theorem isDirectory_of_parent? (h : p.parent? = some q) (hq : q.bytes ≠ [])
    (hp : t.isDirectory cwd p = true) : t.isDirectory cwd q = true := by
  rw [isDirectory_iff] at hp ⊢
  obtain ⟨hcheck, l, hwalk, -⟩ := hp
  rw [← start_of_parent? h] at hwalk
  rcases (Path.parent?_cases h).2 with hempty | hroot | ⟨s, hs⟩
  · exact absurd hempty hq
  · obtain rfl : q = ⟨[slash]⟩ := congrArg Path.mk hroot
    exact ⟨rfl, [], walk_quiet rfl (by decide) _, rfl⟩
  · have hpieces : p.pieces = q.pieces ++ Path.cut s := by
      rw [Path.pieces, Path.pieces, hs, Path.cut_append_slash]
    rw [check_eq_ok_iff, hs] at hcheck
    obtain ⟨hzero, -, hlength⟩ := hcheck
    rw [List.length_append] at hlength
    rw [hpieces] at hwalk
    obtain ⟨d, left, hfront, hrest⟩ := walk_eq_ok_of_append hwalk
    obtain ⟨name, rest, hname⟩ := List.exists_cons_of_ne_nil (Path.cut_ne_nil s)
    rw [hname, walk_cons] at hrest
    obtain ⟨_, hstep, -⟩ := bind_eq_ok_iff.1 hrest
    refine ⟨check_eq_ok_iff.2 ⟨fun h ↦ hzero (List.mem_append_left _ h), hq, by omega⟩, d, hfront,
      step_directory hstep⟩

abbrev IsAncestor (q p : Path) : Prop := Relation.ReflTransGen (fun p q ↦ p.parent? = some q) p q

theorem isDirectory_of_isAncestor (h : IsAncestor q p) (hq : q.bytes ≠ [])
    (hp : t.isDirectory cwd p = true) : t.isDirectory cwd q = true := by
  induction h with
  | refl => exact hp
  | tail _ hparent ih =>
    exact isDirectory_of_parent? hparent hq (ih (Path.bytes_ne_nil_of_parent? hparent))

theorem makeDirectory_of_parent? (hp : p.bytes ≠ []) (h : p.parent? = none) :
    t.makeDirectory cwd p ≠ .error .notFound := by
  obtain ⟨habsolute, hquiet⟩ := Path.root_of_parent? hp h
  have hcheck : check p ≠ .error .notFound := by
    unfold check
    rw [if_neg hp]
    split
    · simp
    · split <;> simp
  have hplace : t.place cwd p = (check p).bind fun _ ↦ .error .occupied := by
    rcases endsIn_or_empty p with ⟨front, name, hends⟩ | hempty
    · obtain ⟨trail, hpieces, -⟩ := hends.pieces
      rw [hpieces, List.forall_mem_append, List.forall_mem_cons] at hquiet
      obtain ⟨hfront, hname, -⟩ := hquiet
      have hdot : name = [dot] := by simpa [quiet, hends.name] using hname
      rw [place_of_endsIn hends, start, if_pos habsolute, walk_quiet rfl hfront]
      simp [Except.bind, grant, hdot, get?]
    · exact place_of_empty hempty
  rw [makeDirectory_eq, hplace]
  cases hc : check p with
  | error e =>
    rw [hc] at hcheck
    simpa [Except.bind] using hcheck
  | ok => simp [Except.bind]

/-- What is left by an attempt to make a directory and its ancestors: directories on the way, and
the path itself, or an ancestor that is refused. -/
structure Makes (t : FileTree) (cwd : Location) (p : Path) (answer : Except Refusal Unit)
    (t' : FileTree) : Prop where
  grown : ∃ made, t.Grown t' made ∧ ∀ l ∈ made, t'.LeadsThrough cwd p l
  ok : answer = .ok () → p.bytes ≠ [] → t'.isDirectory cwd p = true
  error : ∀ e, answer = .error e → ∃ q, IsAncestor q p ∧ q.bytes ≠ [] ∧
    t'.makeDirectory cwd q = .error e ∧ t'.isDirectory cwd q = false

theorem makes_of_bytes_eq_nil (t : FileTree) (cwd : Location) (hp : p.bytes = []) :
    t.Makes cwd p (.ok ()) t where
  grown := ⟨[], Grown.refl t, by simp⟩
  ok := fun _ h ↦ absurd hp h
  error := by simp

def attempt (t : FileTree) (cwd : Location) (p : Path) : Except Refusal Unit × FileTree :=
  match t.makeDirectory cwd p with
  | .ok t => (.ok (), t)
  | .error e => (if t.isDirectory cwd p then .ok () else .error e, t)

theorem makeLineage_of_empty (hp : p.bytes = []) (ancestors : List Path) :
    t.makeLineage cwd (p :: ancestors) = (.ok (), t) := by
  rw [makeLineage, if_pos hp]

theorem makeLineage_of_ne (hp : p.bytes ≠ []) (h : t.makeDirectory cwd p ≠ .error .notFound)
    (ancestors : List Path) : t.makeLineage cwd (p :: ancestors) = t.attempt cwd p := by
  rw [makeLineage, if_neg hp, attempt]
  cases hfirst : t.makeDirectory cwd p with
  | ok t₁ => rfl
  | error e =>
    rw [hfirst] at h
    cases e <;> first | rfl | exact absurd rfl h

theorem makeLineage_of_notFound (hp : p.bytes ≠ [])
    (h : t.makeDirectory cwd p = .error .notFound) (ancestors : List Path) :
    t.makeLineage cwd (p :: ancestors) =
      match t.makeLineage cwd ancestors with
      | (.error e, t) => (.error e, t)
      | (.ok (), t) => t.attempt cwd p := by
  rw [makeLineage, if_neg hp, h]
  rcases t.makeLineage cwd ancestors with ⟨e | ⟨⟨⟩⟩, t₁⟩
  · rfl
  · cases hlast : t₁.makeDirectory cwd p with
    | ok t₂ => simp only [attempt, hlast]
    | error e => simp only [attempt, hlast]

theorem makes_attempt {made : List Location} (hgrown : t.Grown t' made)
    (hmade : ∀ l ∈ made, t'.LeadsThrough cwd p l) (hp : p.bytes ≠ []) :
    t.Makes cwd p (t'.attempt cwd p).1 (t'.attempt cwd p).2 := by
  unfold attempt
  cases h : t'.makeDirectory cwd p with
  | ok t₁ =>
    obtain ⟨l, hnew, hdirectory, hl⟩ := makeDirectory_eq_ok h
    refine ⟨⟨made ++ [l], hgrown.trans hnew, fun k hk ↦ ?_⟩, fun _ _ ↦ hdirectory, by simp⟩
    rcases List.mem_append.1 hk with hk | hk
    · exact (hmade k hk).mono hnew.isWithin
    · rw [List.mem_singleton.1 hk]
      exact hl
  | error e =>
    refine ⟨⟨made, hgrown, hmade⟩, fun hok _ ↦ ?_, fun e' he ↦ ?_⟩
    · by_contra hdirectory
      simp [hdirectory] at hok
    · cases hdirectory : t'.isDirectory cwd p with
      | true => simp [hdirectory] at he
      | false =>
        obtain rfl : e = e' := by simpa [hdirectory] using he
        exact ⟨p, .refl, hp, h, hdirectory⟩

/-- Where the parent is missing, the attempt takes over what the attempt at the parent left. -/
theorem Makes.cons {ancestors : List Path} (hp : p.bytes ≠ [])
    (h : t.makeDirectory cwd p = .error .notFound) (hparent : p.parent? = some q)
    (hq : t.Makes cwd q (t.makeLineage cwd ancestors).1 (t.makeLineage cwd ancestors).2) :
    t.Makes cwd p (t.makeLineage cwd (p :: ancestors)).1
      (t.makeLineage cwd (p :: ancestors)).2 := by
  rw [makeLineage_of_notFound hp h]
  generalize t.makeLineage cwd ancestors = outcome at hq
  obtain ⟨answer, t₁⟩ := outcome
  obtain ⟨made, hgrown, hmade⟩ := hq.grown
  have hway : ∀ l ∈ made, t₁.LeadsThrough cwd p l := fun l hl ↦ (hmade l hl).of_parent? hparent
  cases answer with
  | error e =>
    refine ⟨⟨made, hgrown, hway⟩, by simp, fun e' he ↦ ?_⟩
    obtain ⟨r, hr, hrefused⟩ := hq.error e' he
    exact ⟨r, .head hparent hr, hrefused⟩
  | ok => exact makes_attempt hgrown hway hp

theorem makes_lineage (n : Nat) (hn : p.bytes.length ≤ n) :
    t.Makes cwd p (t.makeLineage cwd (lineage n p)).1 (t.makeLineage cwd (lineage n p)).2 := by
  -- A parent is shorter than its path, so the lineage ends before the number is used up.
  induction n generalizing p with
  | zero =>
    have hp : p.bytes = [] := List.length_eq_zero_iff.1 (Nat.le_zero.1 hn)
    rw [lineage, makeLineage_of_empty hp]
    exact makes_of_bytes_eq_nil t cwd hp
  | succ n ih =>
    obtain ⟨ancestors, hlineage⟩ : ∃ ancestors, lineage (n + 1) p = p :: ancestors := by
      rw [lineage]
      cases p.parent? <;> exact ⟨_, rfl⟩
    by_cases hp : p.bytes = []
    · rw [hlineage, makeLineage_of_empty hp]
      exact makes_of_bytes_eq_nil t cwd hp
    · by_cases h : t.makeDirectory cwd p = .error .notFound
      · cases hparent : p.parent? with
        | none => exact absurd h (makeDirectory_of_parent? hp hparent)
        | some q =>
          rw [lineage, hparent]
          have hshorter := Path.length_of_parent? hparent
          exact Makes.cons hp h hparent (ih (by omega))
      · rw [hlineage, makeLineage_of_ne hp h]
        exact makes_attempt (Grown.refl t) (by simp) hp

/-- A directory that is asked for is there, or an ancestor of it is refused and no directory. -/
theorem ensureDirectory_cases (hp : p.bytes ≠ []) :
    ∃ made, t.Grown (t.ensureDirectory cwd p).2 made ∧
      (∀ l ∈ made, (t.ensureDirectory cwd p).2.LeadsThrough cwd p l) ∧
      match t.ensureDirectory cwd p with
      | (.ok r, t') => t'.isDirectory cwd p = true ∧ r = t'.canonical cwd p
      | (.error e, t') => t'.isDirectory cwd p = false ∧ ∃ q, IsAncestor q p ∧
        t'.isDirectory cwd q = false ∧ t'.makeDirectory cwd q = .error e := by
  unfold ensureDirectory
  cases hdirectory : t.isDirectory cwd p with
  | true => exact ⟨[], Grown.refl t, by simp, hdirectory, rfl⟩
  | false =>
    have hmakes := @makes_lineage t cwd p p.bytes.length (Nat.le_refl _)
    rw [if_neg Bool.false_ne_true]
    generalize t.makeLineage cwd (lineage p.bytes.length p) = outcome at hmakes
    obtain ⟨answer, t'⟩ := outcome
    obtain ⟨made, hgrown, hway⟩ := hmakes.grown
    cases answer with
    | error e =>
      obtain ⟨q, hancestor, hq, hrefused, hmissing⟩ := hmakes.error e rfl
      refine ⟨made, hgrown, hway, ?_, q, hancestor, hmissing, hrefused⟩
      by_contra hp
      rw [isDirectory_of_isAncestor hancestor hq (by simpa using hp)] at hmissing
      simp at hmissing
    | ok => exact ⟨made, hgrown, hway, hmakes.ok rfl hp, rfl⟩

end FileTree

theorem bytes_buildDir_ne_nil (c : Compiler) (v : Variant) (s : Settings) :
    (Context.resolve c v s).buildDir.bytes ≠ [] := by
  have hname : (Path.ofString (buildDirName c v)).bytes ≠ [] := by
    cases c <;> cases v <;> decide
  change (s.buildRoot.join (.ofString (buildDirName c v))).bytes ≠ []
  unfold Path.join
  split
  · exact hname
  · split
    · exact List.append_ne_nil_of_right_ne_nil _ hname
    · simp

namespace Machine

open FileTree

/-- What is left of a machine that was asked for a directory: nothing is lost, and all that is new
is a directory on the way. An answer is the same when it is asked again, and a refusal names the
path and is that of an ancestor which is no directory. -/
structure Ensured (m : Machine) (p : Path) (answer : Except Error Path) (m' : Machine) : Prop where
  kept : m.tree.IsWithin m'.tree
  made : ∃ made, m.tree.Grown m'.tree made ∧ ∀ l ∈ made, m'.tree.LeadsThrough m.cwd p l
  process : m'.cwd = m.cwd ∧ m'.bindings = m.bindings
  ok : ∀ r, answer = .ok r → m'.tree.isDirectory m.cwd p = true ∧
    r = m'.tree.canonical m.cwd p ∧ m'.ensureDirectory p = (.ok r, m')
  error : ∀ e, answer = .error e → m'.tree.isDirectory m.cwd p = false ∧
    ∃ q r, IsAncestor q p ∧ m'.tree.isDirectory m.cwd q = false ∧
      m'.tree.makeDirectory m.cwd q = .error r ∧ e = .io p r.message

theorem ensureDirectory_eq (p : Path) (m : Machine) : m.ensureDirectory p =
    ((m.tree.ensureDirectory m.cwd p).1.mapError fun r ↦ .io p r.message,
      { m with tree := (m.tree.ensureDirectory m.cwd p).2 }) := by
  unfold ensureDirectory makeDirectory
  rcases m.tree.ensureDirectory m.cwd p with ⟨e | r, t⟩ <;> rfl

theorem ensureDirectory_of_isDirectory {m : Machine} {p : Path}
    (h : m.tree.isDirectory m.cwd p = true) :
    m.ensureDirectory p = (.ok (m.tree.canonical m.cwd p), m) := by
  rw [ensureDirectory_eq, FileTree.ensureDirectory, if_pos h]
  rfl

theorem ensured_buildDir (c : Compiler) (v : Variant) (s : Settings) (m : Machine) :
    m.Ensured (Context.resolve c v s).buildDir
      (m.ensureDirectory (Context.resolve c v s).buildDir).1
      (m.ensureDirectory (Context.resolve c v s).buildDir).2 := by
  have hp := bytes_buildDir_ne_nil c v s
  generalize (Context.resolve c v s).buildDir = p at hp
  obtain ⟨made, hgrown, hway, hanswer⟩ := @ensureDirectory_cases m.tree m.cwd p hp
  rw [ensureDirectory_eq]
  generalize m.tree.ensureDirectory m.cwd p = outcome at hgrown hway hanswer
  obtain ⟨answer, t⟩ := outcome
  refine ⟨hgrown.isWithin, ⟨made, hgrown, hway⟩, ⟨rfl, rfl⟩, fun r hr ↦ ?_, fun e he ↦ ?_⟩
  · cases answer with
    | error _ => simp [Except.mapError] at hr
    | ok r' =>
      obtain ⟨hdirectory, rfl⟩ := hanswer
      obtain rfl := Except.ok.inj hr
      exact ⟨hdirectory, rfl, ensureDirectory_of_isDirectory hdirectory⟩
  · cases answer with
    | ok _ => simp [Except.mapError] at he
    | error r =>
      obtain ⟨hmissing, q, hancestor, hq, hrefused⟩ := hanswer
      exact ⟨hmissing, q, r, hancestor, hq, hrefused, (Except.error.inj he).symm⟩

example : (Machine.mk ⟨[([[0x66]], .file [] false)]⟩ [] []).ensureDirectory
      (.ofString "x/y/../../f/z") =
    (.error (.io (.ofString "x/y/../../f/z") "File exists (os error 17)"),
      ⟨⟨[([[0x66]], .file [] false), ([[0x78]], .directory), ([[0x78], [0x79]], .directory)]⟩,
        [], []⟩) := by
  cbv

end Machine

end BuildMatrix
