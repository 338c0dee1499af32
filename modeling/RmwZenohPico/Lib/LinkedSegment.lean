import Mathlib.Data.List.Nodup
import Mathlib.Logic.Function.Basic

namespace RmwZenohPico.Lib.LinkedSegment

variable {A : Type}

/-- Following the next pointers from the first pointer visits the listed
cells in order and ends at the second pointer. -/
def Segment (next : A → Option A) : Option A → List A → Option A → Prop
  | p, [], q => p = q
  | p, x :: xs, q => p = some x ∧ Segment next (next x) xs q

abbrev Chain (next : A → Option A) (p : Option A) (xs : List A) : Prop := Segment next p xs none

theorem segment_append {next : A → Option A} {p q : Option A} (xs ys : List A) :
    Segment next p (xs ++ ys) q ↔ ∃ r, Segment next p xs r ∧ Segment next r ys q := by
  induction xs generalizing p with
  | nil => simp [Segment]
  | cons x xs ih => simp [Segment, ih, and_assoc]

theorem chain_head {next : A → Option A} {p : Option A} {xs : List A} (h : Chain next p xs) :
    p = xs.head? := by
  cases xs with
  | nil => exact h
  | cons x xs => exact h.1

theorem chain_unique {next : A → Option A} {p : Option A} {xs ys : List A}
    (hx : Chain next p xs) (hy : Chain next p ys) : xs = ys := by
  induction xs generalizing p ys with
  | nil =>
      have hp : p = none := hx
      subst hp
      cases ys with
      | nil => rfl
      | cons y ys => exact absurd hy.1 (by simp)
  | cons x xs ih =>
      obtain ⟨rfl, hx⟩ := hx
      cases ys with
      | nil => exact absurd hy (by simp [Segment])
      | cons y ys =>
          obtain ⟨he, hy⟩ := hy
          cases he
          rw [ih hx hy]

theorem chain_suffix {next : A → Option A} {p : Option A} {x : A} (xs ys : List A)
    (h : Chain next p (xs ++ x :: ys)) : Chain next (some x) (x :: ys) := by
  obtain ⟨r, -, hr⟩ := (segment_append xs (x :: ys)).mp h
  exact ⟨rfl, hr.2⟩

theorem chain_nodup {next : A → Option A} {p : Option A} {xs : List A} (h : Chain next p xs) :
    xs.Nodup := by
  induction xs generalizing p with
  | nil => exact List.nodup_nil
  | cons x xs ih =>
      refine List.nodup_cons.mpr ⟨fun hx => ?_, ih h.2⟩
      obtain ⟨us, vs, rfl⟩ := List.append_of_mem hx
      have htail : Chain next (some x) (x :: vs) := chain_suffix us vs h.2
      have hwhole : Chain next (some x) (x :: (us ++ x :: vs)) := ⟨rfl, h.2⟩
      have hlen := congrArg List.length (chain_unique hwhole htail)
      simp at hlen
      omega

/-- The frame rule: a segment depends only on the pointers of its own cells. -/
theorem segment_congr {next next' : A → Option A} {p q : Option A} {xs : List A}
    (hf : ∀ a ∈ xs, next' a = next a) : Segment next' p xs q ↔ Segment next p xs q := by
  induction xs generalizing p with
  | nil => exact Iff.rfl
  | cons x xs ih =>
      simp only [List.mem_cons, forall_eq_or_imp] at hf
      simp only [Segment, hf.1, ih hf.2]

section Updates

variable [DecidableEq A]

theorem segment_update {next : A → Option A} {p q v : Option A} {y : A} {xs : List A} (hy : y ∉ xs) :
    Segment (Function.update next y v) p xs q ↔ Segment next p xs q :=
  segment_congr fun a ha => Function.update_of_ne (fun he : a = y => hy (he ▸ ha)) v next

theorem segment_redirect {next : A → Option A} {p q : Option A} {x : A} {xs : List A}
    (hx : x ∉ xs) (r : Option A) (h : Segment next p (xs ++ [x]) q) :
    Segment (Function.update next x r) p (xs ++ [x]) r := by
  obtain ⟨s, hs, hl⟩ := (segment_append xs [x]).mp h
  refine (segment_append xs [x]).mpr ⟨s, (segment_update hx).mpr hs, hl.1, ?_⟩
  simp [Segment]

theorem chain_push {next : A → Option A} {p : Option A} {xs : List A} {x d : A}
    (h : Chain next p (xs ++ [x])) (hd : d ∉ xs ++ [x]) :
    Chain (Function.update (Function.update next d none) x (some d)) p (xs ++ [x] ++ [d]) := by
  have hxs : x ∉ xs := fun hm => (List.nodup_append.mp (chain_nodup h)).2.2 x hm x (by simp) rfl
  have hdx : d ≠ x := fun he => hd (by simp [he])
  have hseg : Segment (Function.update next d none) p (xs ++ [x]) none := (segment_update hd).mpr h
  refine (segment_append _ _).mpr ⟨some d, segment_redirect hxs (some d) hseg, rfl, ?_⟩
  simp [Segment, Function.update_of_ne hdx]

/-- Unlinking the cell after x and clearing its pointer leaves the chain of
the other cells. -/
theorem chain_unlink {next : A → Option A} {p : Option A} {xs ys : List A} {x d : A}
    (h : Chain next p (xs ++ x :: d :: ys)) :
    Chain (Function.update (Function.update next x (next d)) d none) p (xs ++ x :: ys) := by
  have hn := chain_nodup h
  simp only [List.nodup_append, List.nodup_cons, List.mem_cons, not_or] at hn
  obtain ⟨-, ⟨⟨hxd, hxys⟩, hdys, -⟩, hdisj⟩ := hn
  have hxxs : x ∉ xs := fun hm => hdisj x hm x (Or.inl rfl) rfl
  have hdxs : d ∉ xs := fun hm => hdisj d hm d (Or.inr (Or.inl rfl)) rfl
  obtain ⟨r, hr, rfl, hs⟩ := (segment_append xs (x :: d :: ys)).mp h
  refine (segment_append xs (x :: ys)).mpr ⟨some x, ?_, rfl, ?_⟩
  · exact (segment_update hdxs).mpr ((segment_update hxxs).mpr hr)
  · rw [Function.update_of_ne hxd, Function.update_self]
    exact (segment_update hdys).mpr ((segment_update hxys).mpr hs.2)

theorem chain_tail {next : A → Option A} {p : Option A} {xs : List A} {x : A}
    (h : Chain next p (x :: xs)) : Chain (Function.update next x none) (next x) xs :=
  (segment_update (List.nodup_cons.mp (chain_nodup h)).1).mpr h.2

end Updates

end RmwZenohPico.Lib.LinkedSegment
