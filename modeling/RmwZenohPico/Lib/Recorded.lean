import RmwZenohPico.Lib.LabelledMachine

namespace RmwZenohPico.Lib.Recorded

open LabelledMachine

variable {σ ℓ η : Type}

/-- A machine with a history variable. Every step makes a note of what it
does, and no step reads the notes. -/
def recorded (M : Machine σ ℓ) (note : σ → ℓ → η → η) : Machine (σ × η) ℓ :=
  fun s l => (M s.1 l).map fun t => (t, note s.1 l s.2)

variable {M : Machine σ ℓ} {note : σ → ℓ → η → η}

theorem recorded_cases {s t : σ × η} {l : ℓ} (h : recorded M note s l = some t) :
    M s.1 l = some t.1 ∧ t.2 = note s.1 l s.2 := by
  obtain ⟨u, hu, rfl⟩ := Option.map_eq_some_iff.mp h
  exact ⟨hu, rfl⟩

theorem run_fst (s : σ × η) (ls : List ℓ) : (run (recorded M note) s ls).map Prod.fst = run M s.1 ls := by
  induction ls generalizing s with
  | nil => rfl
  | cons l ls ih =>
      cases h : M s.1 l with
      | none => simp [run, recorded, h]
      | some t => simpa [run, recorded, h] using ih (t, note s.1 l s.2)

theorem reachable_fst {s t : σ × η} (h : Reachable (recorded M note) s t) : Reachable M s.1 t.1 := by
  obtain ⟨ls, hls⟩ := h
  refine ⟨ls, ?_⟩
  rw [← run_fst, hls]
  rfl

end RmwZenohPico.Lib.Recorded
