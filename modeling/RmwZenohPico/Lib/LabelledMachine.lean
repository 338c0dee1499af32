import Mathlib.Data.List.Basic
import Mathlib.Data.List.Infix

namespace RmwZenohPico.Lib.LabelledMachine

variable {σ ℓ : Type}

/-- A state either takes a labelled step or refuses the label. All the
choices of a nondeterministic system are carried by the labels. -/
abbrev Machine (σ ℓ : Type) := σ → ℓ → Option σ

def run (M : Machine σ ℓ) : σ → List ℓ → Option σ
  | s, [] => some s
  | s, l :: ls => (M s l).bind fun t => run M t ls

/-- Every step of the labelled run starts in a state and with a label that
satisfy the condition. Steps after a refused label are not constrained. -/
def Every (M : Machine σ ℓ) (ok : σ → ℓ → Prop) : σ → List ℓ → Prop
  | _, [] => True
  | s, l :: ls => ok s l ∧ ∀ t, M s l = some t → Every M ok t ls

instance decidableEvery (M : Machine σ ℓ) (ok : σ → ℓ → Prop) [∀ s l, Decidable (ok s l)] :
    (s : σ) → (ls : List ℓ) → Decidable (Every M ok s ls)
  | _, [] => .isTrue trivial
  | s, l :: ls =>
      match h : M s l with
      | none => decidable_of_iff (ok s l) ⟨fun hok => ⟨hok, fun _ ht => nomatch h.symm.trans ht⟩, And.left⟩
      | some t =>
          have := decidableEvery M ok t ls
          decidable_of_iff (ok s l ∧ Every M ok t ls)
            ⟨fun ⟨hok, he⟩ => ⟨hok, fun _ hu => Option.some.inj (h.symm.trans hu) ▸ he⟩,
              fun he => ⟨he.1, he.2 t h⟩⟩

def Always (M : Machine σ ℓ) (P : σ → Prop) (s : σ) (ls : List ℓ) : Prop :=
  ∀ xs t, xs <+: ls → run M s xs = some t → P t

def Reachable (M : Machine σ ℓ) (s t : σ) : Prop := ∃ ls, run M s ls = some t

theorem run_append (M : Machine σ ℓ) (s : σ) (xs ys : List ℓ) :
    run M s (xs ++ ys) = (run M s xs).bind fun t => run M t ys := by
  induction xs generalizing s with
  | nil => rfl
  | cons l xs ih =>
      cases h : M s l with
      | none => simp [run, h]
      | some t => simp [run, h, ih]

theorem run_cons_some {M : Machine σ ℓ} {s u : σ} {l : ℓ} {ls : List ℓ}
    (h : run M s (l :: ls) = some u) : ∃ t, M s l = some t ∧ run M t ls = some u :=
  Option.bind_eq_some_iff.mp h

theorem every_append (M : Machine σ ℓ) (ok : σ → ℓ → Prop) (s : σ) (xs ys : List ℓ) :
    Every M ok s (xs ++ ys) ↔
      Every M ok s xs ∧ ∀ t, run M s xs = some t → Every M ok t ys := by
  induction xs generalizing s with
  | nil => simp [Every, run]
  | cons l xs ih =>
      cases h : M s l with
      | none => simp [Every, run, h]
      | some t => simp [Every, run, h, ih, and_assoc]

theorem invariant_of_every {M : Machine σ ℓ} {ok : σ → ℓ → Prop} {I : σ → Prop}
    (hstep : ∀ s l t, I s → ok s l → M s l = some t → I t)
    {s t : σ} {ls : List ℓ} (hs : I s) (he : Every M ok s ls) (hr : run M s ls = some t) : I t := by
  induction ls generalizing s with
  | nil => cases hr; exact hs
  | cons l ls ih =>
      obtain ⟨u, hu, hr⟩ := run_cons_some hr
      exact ih (hstep s l u hs he.1 hu) (he.2 u hu) hr

theorem every_true (M : Machine σ ℓ) (s : σ) (ls : List ℓ) : Every M (fun _ _ => True) s ls := by
  induction ls generalizing s with
  | nil => trivial
  | cons l ls ih => exact ⟨trivial, fun t _ => ih t⟩

theorem invariant {M : Machine σ ℓ} {I : σ → Prop} (hstep : ∀ s l t, I s → M s l = some t → I t)
    {s t : σ} (hs : I s) (hr : Reachable M s t) : I t := by
  obtain ⟨ls, hr⟩ := hr
  exact invariant_of_every (fun s l t hi _ h => hstep s l t hi h) hs (every_true M s ls) hr

theorem every_and_of_forall {M : Machine σ ℓ} {ok : σ → ℓ → Prop} {Q : ℓ → Prop} {s : σ} {ls : List ℓ}
    (he : Every M ok s ls) (hQ : ∀ l ∈ ls, Q l) : Every M (fun s l => ok s l ∧ Q l) s ls := by
  induction ls generalizing s with
  | nil => trivial
  | cons l ls ih =>
      rw [List.forall_mem_cons] at hQ
      exact ⟨⟨he.1, hQ.1⟩, fun t ht => ih (he.2 t ht) hQ.2⟩

/-- A property of steps follows along a run from a condition which keeps an
invariant under which it gives the property. -/
theorem every_of_invariant {M : Machine σ ℓ} {ok P : σ → ℓ → Prop} {I : σ → Prop}
    (hstep : ∀ s l t, I s → ok s l → M s l = some t → I t)
    (hP : ∀ s l, I s → ok s l → P s l)
    {s : σ} {ls : List ℓ} (hs : I s) (he : Every M ok s ls) : Every M P s ls := by
  induction ls generalizing s with
  | nil => trivial
  | cons l ls ih =>
      exact ⟨hP s l hs he.1, fun t ht => ih (hstep s l t hs he.1 ht) (he.2 t ht)⟩

theorem every_front {M : Machine σ ℓ} {ok : σ → ℓ → Prop} {s : σ} {xs ls : List ℓ}
    (h : xs <+: ls) (he : Every M ok s ls) : Every M ok s xs := by
  obtain ⟨ys, rfl⟩ := h
  exact ((every_append M ok s xs ys).mp he).1

theorem always_of_every {M : Machine σ ℓ} {ok : σ → ℓ → Prop} {I : σ → Prop}
    (hstep : ∀ s l t, I s → ok s l → M s l = some t → I t)
    {s : σ} {ls : List ℓ} (hs : I s) (he : Every M ok s ls) : Always M I s ls :=
  fun _ _ hp hr => invariant_of_every hstep hs (every_front hp he) hr

theorem always_mono {M : Machine σ ℓ} {P Q : σ → Prop} (h : ∀ s, P s → Q s) {s : σ} {ls : List ℓ}
    (hs : Always M P s ls) : Always M Q s ls :=
  fun xs t hp hr => h t (hs xs t hp hr)

theorem always_cons {M : Machine σ ℓ} {P : σ → Prop} {s t : σ} {l : ℓ} {ls : List ℓ}
    (h : Always M P s (l :: ls)) (ht : M s l = some t) : Always M P t ls := by
  intro xs u hp hr
  refine h (l :: xs) u (List.cons_prefix_cons.mpr ⟨rfl, hp⟩) ?_
  simp [run, ht, hr]

theorem always_of_head {M : Machine σ ℓ} {P : σ → Prop} {s : σ} {l : ℓ} {ls : List ℓ} (hs : P s)
    (h : ∀ t, M s l = some t → Always M P t ls) : Always M P s (l :: ls) := by
  intro xs u hp hr
  cases xs with
  | nil =>
      cases hr
      exact hs
  | cons x xs =>
      obtain ⟨rfl, hxs⟩ := List.cons_prefix_cons.mp hp
      obtain ⟨t, ht, hrun⟩ := run_cons_some hr
      exact h t ht xs u hxs hrun

theorem always_head {M : Machine σ ℓ} {P : σ → Prop} {s : σ} {ls : List ℓ}
    (h : Always M P s ls) : P s :=
  h [] s List.nil_prefix rfl

/-- A condition on steps that holds wherever the state after the step has a
property. -/
theorem every_of_always {M : Machine σ ℓ} {ok : σ → ℓ → Prop} {P : σ → Prop}
    (hok : ∀ s l, P s → (∀ t, M s l = some t → P t) → ok s l) {s : σ} {ls : List ℓ}
    (h : Always M P s ls) : Every M ok s ls := by
  induction ls generalizing s with
  | nil => trivial
  | cons l ls ih =>
      refine ⟨hok s l (always_head h) fun t ht => always_head (always_cons h ht), ?_⟩
      exact fun t ht => ih (always_cons h ht)

theorem every_of_always_of_invariant {M : Machine σ ℓ} {ok : σ → ℓ → Prop} {P I : σ → Prop}
    (hstep : ∀ s l t, I s → ok s l → M s l = some t → I t)
    (hok : ∀ s l, I s → (∀ t, M s l = some t → P t) → ok s l) {s : σ} {ls : List ℓ}
    (hs : I s) (h : Always M P s ls) : Every M ok s ls := by
  induction ls generalizing s with
  | nil => trivial
  | cons l ls ih =>
      have hl : ok s l := hok s l hs fun t ht => always_head (always_cons h ht)
      exact ⟨hl, fun t ht => ih (hstep s l t hs hl ht) (always_cons h ht)⟩

theorem length_le_of_decreasing {M : Machine σ ℓ} {ok : σ → ℓ → Prop} {remaining : σ → Nat}
    (hstep : ∀ s l t, ok s l → M s l = some t → remaining t < remaining s) {s t : σ} {ls : List ℓ}
    (he : Every M ok s ls) (hr : run M s ls = some t) : ls.length + remaining t ≤ remaining s := by
  induction ls generalizing s with
  | nil =>
      cases hr
      simp
  | cons l ls ih =>
      obtain ⟨u, hu, hr⟩ := run_cons_some hr
      have hless := hstep s l u he.1 hu
      have hrest := ih (he.2 u hu) hr
      rw [List.length_cons]
      omega

end RmwZenohPico.Lib.LabelledMachine
