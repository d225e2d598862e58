import BuildMatrix.Proofs.Path.Components
import BuildMatrix.Run

namespace BuildMatrix.Path

def IsRoot (o : Path) : Prop := o = ⟨[slash]⟩ ∨ o = ⟨[slash, slash]⟩

def closed (p : Path) : Path := p.join ⟨[]⟩

variable {o p q r cwd : Path}

theorem isRoot_origin (h : p.isAbsolute = true) : (p.origin cwd).IsRoot := by
  unfold origin
  rw [if_pos h]
  split
  · exact .inr rfl
  · exact .inl rfl

theorem IsRoot.ends (h : o.IsRoot) : o.bytes.getLast? = some slash := by
  rcases h with rfl | rfl <;> rfl

theorem IsRoot.isAbsolute (h : o.IsRoot) : o.isAbsolute = true := by
  rcases h with rfl | rfl <;> rfl

theorem IsRoot.body (h : o.IsRoot) : o.body = [] := by
  rcases h with rfl | rfl <;> rfl

theorem IsRoot.origin_eq (h : o.IsRoot) {s : List UInt8} (hp : p.bytes = o.bytes ++ s)
    (hs : s.head? ≠ some slash) : p.origin cwd = o := by
  obtain rfl : p = ⟨o.bytes ++ s⟩ := congrArg Path.mk hp
  cases s with
  | nil => rcases h with rfl | rfl <;> rfl
  | cons b s =>
    have hb : b ≠ slash := by simpa using hs
    rcases h with rfl | rfl <;> simp [origin, Path.isAbsolute, hb]

theorem bytes_join (hq : q.isAbsolute = false) : (p.join q).bytes =
    if p.bytes = [] ∨ p.bytes.getLast? = some slash then p.bytes ++ q.bytes
    else p.bytes ++ slash :: q.bytes := by
  unfold join
  rw [hq, if_neg Bool.false_ne_true]
  split <;> rfl

theorem exists_bytes_join (p : Path) (hq : q.isAbsolute = false) :
    ∃ s, (p.join q).bytes = p.bytes ++ s := by
  rw [bytes_join hq]
  split
  · exact ⟨_, rfl⟩
  · exact ⟨_, rfl⟩

theorem extend_cons (p : Path) (c : Component) (parts : List Component) :
    p.extend (c :: parts) = (p.join c.path).extend parts := rfl

theorem extend_append (p : Path) (parts parts' : List Component) :
    p.extend (parts ++ parts') = (p.extend parts).extend parts' := List.foldl_append

section

variable {parts : List Component} (h : ∀ c ∈ parts, c ∈ q.body)
include h

theorem exists_bytes_extend (p : Path) : ∃ s, (p.extend parts).bytes = p.bytes ++ s := by
  induction parts generalizing p with
  | nil => exact ⟨[], (List.append_nil _).symm⟩
  | cons c parts ih =>
    obtain ⟨-, habsolute, -⟩ := body_path_of_mem (h c List.mem_cons_self)
    obtain ⟨s, hs⟩ := exists_bytes_join p habsolute
    obtain ⟨t, ht⟩ := ih (fun d hd ↦ h d (List.mem_cons_of_mem c hd)) (p.join c.path)
    refine ⟨s ++ t, ?_⟩
    rw [extend_cons, ht, hs, List.append_assoc]

theorem exists_bytes_extend_of_ends (hp : p.bytes.getLast? = some slash) :
    ∃ s, (p.extend parts).bytes = p.bytes ++ s ∧ s.head? ≠ some slash := by
  cases parts with
  | nil => exact ⟨[], (List.append_nil _).symm, by simp⟩
  | cons c parts =>
    obtain ⟨hbody, habsolute, -⟩ := body_path_of_mem (h c List.mem_cons_self)
    have hbytes : c.path.bytes ≠ [] := by
      intro hnil
      simp [body, pieces, hnil, Component.ofPiece] at hbody
    obtain ⟨b, t, hbt⟩ := List.exists_cons_of_ne_nil hbytes
    obtain ⟨s, hs⟩ :=
      exists_bytes_extend (fun d hd ↦ h d (List.mem_cons_of_mem c hd)) (p.join c.path)
    refine ⟨c.path.bytes ++ s, ?_, ?_⟩
    · rw [extend_cons, hs, bytes_join habsolute, if_pos (.inr hp), List.append_assoc]
    · simpa [isAbsolute, hbt] using habsolute

end

theorem closed_of_ends (h : p.bytes.getLast? = some slash) : p.closed = p := by
  simp [closed, join, isAbsolute, h]

theorem ends_closed (h : p.bytes ≠ []) : p.closed.bytes.getLast? = some slash := by
  rw [closed, bytes_join rfl]
  split
  case isTrue hp => simpa using hp.resolve_left h
  case isFalse => simp

theorem body_closed (p : Path) : p.closed.body = p.body := by
  rw [closed, body_join rfl]
  exact List.append_nil _

theorem closed_join (hp : p.bytes ≠ []) (hq : q.isAbsolute = false) :
    p.closed.join q = p.join q := by
  have hbytes : (p.closed.join q).bytes = (p.join q).bytes := by
    rw [bytes_join hq, if_pos (.inr (ends_closed hp)), closed, bytes_join rfl, bytes_join hq]
    split
    · rw [List.append_nil]
    · rw [List.append_assoc, List.singleton_append]
  exact congrArg Path.mk hbytes

theorem isAbsolute_closed (p : Path) : p.closed.isAbsolute = p.isAbsolute := by
  rw [closed, isAbsolute_join]
  exact Bool.or_false _

theorem origin_closed (p cwd : Path) : p.closed.origin cwd = p.origin cwd := by
  by_cases hends : p.bytes.getLast? = some slash
  · rw [closed_of_ends hends]
  · have hbytes : p.closed.bytes = if p.bytes = [] then [] else p.bytes ++ [slash] := by
      rw [closed, bytes_join rfl]
      split <;> simp_all
    unfold origin
    rw [isAbsolute_closed, hbytes]
    rcases p with ⟨_ | ⟨a, _ | ⟨b, _ | ⟨c, t⟩⟩⟩⟩ <;> simp_all [Path.isAbsolute]

/-- Spelled from the root without dots and without repeated separators. -/
inductive IsNormal : Path → Prop
  | plain {o : Path} (ho : o.IsRoot) (r : Path) : IsNormal (o.extend r.body)
  | closed {o : Path} (ho : o.IsRoot) (r : Path) : IsNormal (o.extend r.body).closed

theorem IsNormal.isAbsolute (h : p.IsNormal) : p.isAbsolute = true := by
  cases h with
  | plain ho r => rw [isAbsolute_extend, ho.isAbsolute]
  | closed ho r => rw [isAbsolute_closed, isAbsolute_extend, ho.isAbsolute]

theorem absolute_of_origin (hp : p.bytes ≠ []) (h : (p.origin cwd).extend p.body = q) :
    p.absolute cwd = if p.bytes.getLast? = some slash then q.closed else q := by
  rw [absolute_eq hp, h]
  rfl

theorem IsRoot.body_extend (ho : o.IsRoot) (r : Path) : (o.extend r.body).body = r.body := by
  rw [Path.body_extend, ho.body, List.nil_append]

theorem IsRoot.origin_extend (ho : o.IsRoot) (r : Path) : (o.extend r.body).origin cwd = o := by
  obtain ⟨s, hs, hhead⟩ := exists_bytes_extend_of_ends (fun c (hc : c ∈ r.body) ↦ hc) ho.ends
  exact ho.origin_eq hs hhead

theorem IsNormal.absolute_eq_self (h : p.IsNormal) (cwd : Path) : p.absolute cwd = p := by
  have hbytes : p.bytes ≠ [] := bytes_ne_nil_of_isAbsolute h.isAbsolute
  cases h with
  | @plain o ho r =>
    rw [absolute_of_origin hbytes (q := o.extend r.body)]
    · split
      case isTrue hends => exact closed_of_ends hends
      case isFalse => rfl
    · rw [ho.origin_extend, ho.body_extend]
  | @closed o ho r =>
    rw [absolute_of_origin hbytes (q := o.extend r.body)]
    · have hplain : (o.extend r.body).bytes ≠ [] :=
        bytes_ne_nil_of_isAbsolute (IsNormal.plain ho r).isAbsolute
      rw [if_pos (ends_closed hplain)]
    · rw [origin_closed, ho.origin_extend, body_closed, ho.body_extend]

theorem IsNormal.closed_closed (h : p.IsNormal) : p.closed.IsNormal := by
  cases h with
  | plain ho r => exact .closed ho r
  | closed ho r =>
    rw [closed_of_ends (ends_closed (bytes_ne_nil_of_isAbsolute (plain ho r).isAbsolute))]
    exact .closed ho r

theorem IsNormal.extend (h : p.IsNormal) (hq : q.isAbsolute = false) :
    (p.extend q.body).IsNormal := by
  cases h with
  | @plain o ho r =>
    rw [← extend_append, ← body_join hq]
    exact .plain ho (r.join q)
  | @closed o ho r =>
    -- The separator at the end is one that the first part behind it needs.
    cases hbody : q.body with
    | nil => exact .closed ho r
    | cons c parts =>
      have hc : c ∈ q.body := hbody ▸ List.mem_cons_self
      have hplain : (o.extend r.body).bytes ≠ [] :=
        bytes_ne_nil_of_isAbsolute (plain ho r).isAbsolute
      rw [extend_cons, closed_join hplain (body_path_of_mem hc).2.1, ← extend_cons, ← hbody,
        ← extend_append, ← body_join hq]
      exact .plain ho (r.join q)

/-- What has a root becomes normal, and so does what is seen from a normal directory. -/
theorem isNormal_absolute (hp : p.bytes ≠ []) (h : p.isAbsolute = true ∨ cwd.IsNormal) :
    (p.absolute cwd).IsNormal := by
  have hwhole : ((p.origin cwd).extend p.body).IsNormal := by
    cases ha : p.isAbsolute with
    | true => exact .plain (isRoot_origin ha) p
    | false =>
      have horigin : p.origin cwd = cwd := by
        rw [origin, ha, if_neg Bool.false_ne_true]
      rw [horigin]
      exact (h.resolve_left (by simp [ha])).extend ha
  rw [absolute_of_origin hp rfl]
  split
  · exact hwhole.closed_closed
  · exact hwhole

/-- `q` is an absolute path for `p` as seen from `cwd`. -/
structure IsAbsoluteFor (cwd p q : Path) : Prop where
  isAbsolute : q.isAbsolute = true
  again : (q.absolute cwd).same q = true
  /-- Not a byte changes where none of the spelling is left to the directory. -/
  settled : p.isAbsolute = true ∨ cwd.absolute cwd = cwd → ∀ dir, q.absolute dir = q
  rooted : p.isAbsolute = true → q.same p = true
  seen : p.isAbsolute = false → q.same (cwd.join p) = true
  ups : q.components.count .up =
    (if p.isAbsolute then 0 else cwd.components.count .up) + p.components.count .up

theorem count_up_components (p : Path) : p.components.count .up = p.body.count .up := by
  unfold components
  rw [List.count_append, ← body]
  split
  · exact Nat.zero_add _
  · split <;> exact Nat.zero_add _

theorem isAbsoluteFor_absolute (hcwd : cwd.isAbsolute = true) (hp : p.bytes ≠ []) :
    IsAbsoluteFor cwd p (p.absolute cwd) where
  isAbsolute := isAbsolute_absolute hp (.inl hcwd)
  again := same_absolute (isAbsolute_absolute hp (.inl hcwd)) cwd
  settled := by
    intro h dir
    have hnormal : p.isAbsolute = true ∨ cwd.IsNormal := by
      refine h.imp_right fun hfixed ↦ ?_
      rw [← hfixed]
      exact isNormal_absolute (bytes_ne_nil_of_isAbsolute hcwd) (.inl hcwd)
    exact (isNormal_absolute hp hnormal).absolute_eq_self dir
  rooted := by
    intro ha
    exact same_absolute ha cwd
  seen := by
    intro ha
    rw [same_iff, components_absolute hp (.inl hcwd), ha, components_join hcwd ha]
    rfl
  ups := by
    rw [count_up_components, count_up_components, count_up_components, body_absolute hp,
      List.count_append]
    split <;> rfl

/-- Each path but the empty one gets an absolute path, with the parts that it has as seen from the
directory, `..` among them; the empty one stays as it is. -/
theorem absolute_unless_empty (hcwd : cwd.isAbsolute = true) (p : Path) :
    (IsAbsoluteFor cwd p (p.absolute cwd) ↔ p.bytes ≠ []) ∧
      (p.bytes = [] → p.absolute cwd = p) := by
  have hempty : p.bytes = [] → p.absolute cwd = p := by
    intro hp
    rw [absolute, if_pos hp]
  refine ⟨⟨fun h hp ↦ ?_, isAbsoluteFor_absolute hcwd⟩, hempty⟩
  have habsolute := h.isAbsolute
  rw [hempty hp, isAbsolute, hp] at habsolute
  simp at habsolute

theorem absolute_unless_empty_dotted :
    let cwd := ofString "/w"
    let p := ofString ".//../x/./"
    cwd.isAbsolute = true ∧ (IsAbsoluteFor cwd p (p.absolute cwd) ↔ p.bytes ≠ []) ∧
      p.absolute cwd = ofString "/w/../x/" := by
  intro cwd p
  have hcwd : cwd.isAbsolute = true := by decide
  exact ⟨hcwd, (absolute_unless_empty hcwd p).1, by decide⟩

/-- A request that names no project is not seen from the directory at hand. -/
theorem absolute_unnamed_project :
    let cwd := ofString "/w"
    let root := (default : Request).projectRoot
    cwd.isAbsolute = true ∧ (root.absolute cwd).isAbsolute = false ∧
      (root.absolute cwd).same (cwd.join root) = false := by
  decide

end BuildMatrix.Path
