import BuildMatrix.Proofs.Path.Components
import Mathlib.Data.List.Basic
import Mathlib.Data.List.TakeWhile

namespace BuildMatrix.Path

theorem intercalate_append {a b : List (List UInt8)} (ha : a ≠ []) (hb : b ≠ []) :
    [slash].intercalate (a ++ b) = [slash].intercalate a ++ slash :: [slash].intercalate b := by
  induction a with
  | nil => exact absurd rfl ha
  | cons s a ih =>
    cases a with
    | nil =>
      obtain ⟨first, rest, rfl⟩ := List.exists_cons_of_ne_nil hb
      rw [List.singleton_append, List.intercalate_cons_cons, List.intercalate_singleton,
        List.append_assoc, List.singleton_append]
    | cons s' a =>
      rw [List.cons_append, List.cons_append, List.intercalate_cons_cons, ← List.cons_append,
        ih (List.cons_ne_nil s' a), List.intercalate_cons_cons]
      simp only [List.append_assoc]

theorem intercalate_cut (s : List UInt8) : [slash].intercalate (cut s) = s := by
  induction s with
  | nil => rfl
  | cons b s ih =>
    by_cases hb : b = slash
    · subst hb
      change [slash].intercalate ([[]] ++ cut s) = slash :: s
      rw [intercalate_append (List.cons_ne_nil _ _) (cut_ne_nil s), ih, List.intercalate_singleton,
        List.nil_append]
    · obtain ⟨first, rest, hs, hbs⟩ := cut_cons_of_ne (s := s) hb
      rw [hs] at ih
      rw [hbs, ← ih]
      cases rest with
      | nil => rw [List.intercalate_singleton, List.intercalate_singleton]
      | cons piece rest =>
        rw [List.intercalate_cons_cons, List.intercalate_cons_cons]
        rfl

theorem exists_dropped {l front rest : List (List UInt8)} {last : List UInt8} {n : Nat}
    (hfront : l.take n = front) (h : (l.drop n).reverse.dropWhile quiet = last :: rest) :
    ∃ dropped, dropped ≠ [] ∧ l = front ++ (rest.dropWhile quiet).reverse ++ dropped := by
  refine ⟨((l.drop n).reverse.takeWhile quiet ++ last :: rest.takeWhile quiet).reverse,
    by simp, ?_⟩
  have hrest : rest.takeWhile quiet ++ rest.dropWhile quiet = rest :=
    List.takeWhile_append_dropWhile
  have hdrop : l.drop n = ((l.drop n).reverse.takeWhile quiet ++ last :: rest).reverse := by
    rw [← h, List.takeWhile_append_dropWhile, List.reverse_reverse]
  calc
    l = front ++ l.drop n := by rw [← hfront, List.take_append_drop]
    _ = front ++ ((l.drop n).reverse.takeWhile quiet ++
          last :: (rest.takeWhile quiet ++ rest.dropWhile quiet)).reverse := by rw [hrest, ← hdrop]
    _ = _ := by
      simp only [List.reverse_append, List.reverse_cons, List.append_assoc]

variable {p q : Path}

theorem isAbsolute_of_bytes_eq (hq : q.bytes ≠ []) {s : List UInt8} (h : p.bytes = q.bytes ++ s) :
    q.isAbsolute = p.isAbsolute := by
  rw [isAbsolute, isAbsolute, h, List.head?_append_of_ne_nil _ hq]

/-- The parent of a path is empty, or the root, or a beginning of the path up to a separator. -/
theorem parent?_cases (h : p.parent? = some q) : q.isAbsolute = p.isAbsolute ∧
    (q.bytes = [] ∨ q.bytes = [slash] ∨ ∃ s, p.bytes = q.bytes ++ slash :: s) := by
  unfold parent? at h
  dsimp only at h
  split at h
  case h_1 last rest hbody =>
    obtain ⟨dropped, hdropped, hpieces⟩ := exists_dropped rfl hbody
    obtain rfl := Option.some.inj h
    generalize p.pieces.take _ ++ (rest.dropWhile quiet).reverse = kept at hpieces
    have hbytes : p.bytes = [slash].intercalate (kept ++ dropped) := by
      rw [← hpieces, pieces, intercalate_cut]
    split
    case isTrue hroot => exact ⟨hroot.2.symm, .inr (.inl rfl)⟩
    case isFalse hroot =>
      by_cases hkept : kept = []
      · subst hkept
        have habsolute : p.isAbsolute = false := by simpa using hroot
        exact ⟨habsolute.symm, .inl rfl⟩
      · rw [intercalate_append hkept hdropped] at hbytes
        refine ⟨isAbsolute_of_bytes_eq (fun hnil ↦ hroot ⟨hnil, ?_⟩) hbytes,
          .inr (.inr ⟨_, hbytes⟩)⟩
        rw [isAbsolute, hbytes, show [slash].intercalate kept = [] from hnil]
        rfl
  case h_2 =>
    rw [Option.ite_none_right_eq_some] at h
    obtain ⟨hfront, hq⟩ := h
    obtain rfl := Option.some.inj hq
    refine ⟨?_, .inl rfl⟩
    cases ha : p.isAbsolute with
    | false => rfl
    | true =>
      obtain ⟨t, ht⟩ := isAbsolute_iff.1 ha
      simp [ha, pieces, ht] at hfront

theorem parent?_root : parent? ⟨[slash]⟩ = none := by decide

theorem parent?_empty : parent? ⟨[]⟩ = none := by decide

theorem length_of_parent? (h : p.parent? = some q) : q.bytes.length < p.bytes.length := by
  obtain ⟨habsolute, hcases⟩ := parent?_cases h
  have hempty : p.bytes ≠ [] := by
    intro hp
    obtain rfl : p = ⟨[]⟩ := congrArg mk hp
    simp [parent?_empty] at h
  rcases hcases with hq | hq | ⟨s, hs⟩
  · rw [hq]
    exact List.length_pos_iff.2 hempty
  · have hroot : p.isAbsolute = true := by
      rw [← habsolute, isAbsolute, hq]
      rfl
    obtain ⟨t, ht⟩ := isAbsolute_iff.1 hroot
    have hlonger : t ≠ [] := by
      rintro rfl
      obtain rfl : p = ⟨[slash]⟩ := congrArg mk ht
      simp [parent?_root] at h
    have hlength := List.length_pos_iff.2 hlonger
    rw [hq, ht, List.length_singleton, List.length_cons]
    omega
  · rw [hs, List.length_append, List.length_cons]
    omega

theorem bytes_ne_nil_of_parent? (h : p.parent? = some q) : p.bytes ≠ [] := by
  have hlength := length_of_parent? h
  rintro hp
  rw [hp] at hlength
  exact Nat.not_lt_zero _ hlength

/-- Only the root has no parent, however it is spelled, and the empty path. -/
theorem root_of_parent? (hp : p.bytes ≠ []) (h : p.parent? = none) :
    p.isAbsolute = true ∧ ∀ s ∈ p.pieces, quiet s = true := by
  unfold parent? at h
  dsimp only at h
  split at h
  case h_1 => simp at h
  case h_2 hbody =>
    have hrest := List.dropWhile_eq_nil_iff.1 hbody
    obtain ⟨b, bytes, hbytes⟩ := List.exists_cons_of_ne_nil hp
    by_cases hb : b = slash
    · subst hb
      have habsolute : p.isAbsolute = true := isAbsolute_iff.2 ⟨bytes, hbytes⟩
      refine ⟨habsolute, fun s hs ↦ ?_⟩
      simp only [pieces, hbytes, habsolute, cut_slash_cons] at hrest hs
      rcases List.mem_cons.1 hs with rfl | hs
      · rfl
      · exact hrest s (by simpa using hs)
    · -- A relative path begins with a piece that counts, unless that is `.`.
      have hrelative : p.isAbsolute = false := by simp [isAbsolute, hbytes, hb]
      obtain ⟨first, rest, -, hpieces⟩ := cut_cons_of_ne (s := bytes) hb
      by_cases hdot : b :: first = [dot]
      · simp [pieces, hbytes, hrelative, hpieces, hdot] at h
      · have hhead : (p.isAbsolute || p.pieces.head? == some [dot]) = false := by
          simpa [hrelative, pieces, hbytes, hpieces] using hdot
        rw [hhead] at hrest
        have hquiet := hrest (b :: first) (by simp [pieces, hbytes, hpieces])
        simp [quiet, hdot] at hquiet

end BuildMatrix.Path
