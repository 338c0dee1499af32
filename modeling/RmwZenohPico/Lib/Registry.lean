import Mathlib.Data.List.Nodup
import Mathlib.Logic.Function.Basic

namespace RmwZenohPico.Lib.Registry

variable {κ υ : Type} [DecidableEq κ]

/-- Entries under keys, the latest one last. -/
abbrev Entries (κ υ : Type) := List (κ × υ)

def register (r : Entries κ υ) (k : κ) (v : υ) : Entries κ υ := r ++ [(k, v)]

def unregister (r : Entries κ υ) (k : κ) : Entries κ υ := r.filter fun e => e.1 ≠ k

omit [DecidableEq κ] in
theorem mem_register {r : Entries κ υ} {k : κ} {v : υ} {e : κ × υ} :
    e ∈ register r k v ↔ e ∈ r ∨ e = (k, v) := by
  rw [register, List.mem_append, List.mem_singleton]

theorem mem_unregister {r : Entries κ υ} {k : κ} {e : κ × υ} : e ∈ unregister r k ↔ e ∈ r ∧ e.1 ≠ k := by
  rw [unregister, List.mem_filter, decide_eq_true_eq]

omit [DecidableEq κ] in
theorem register_nodup {r : Entries κ υ} {k : κ} (h : (r.map Prod.fst).Nodup) (hk : k ∉ r.map Prod.fst) (v : υ) :
    ((register r k v).map Prod.fst).Nodup := by
  rw [register, List.map_append]
  refine List.Nodup.append h (List.nodup_singleton k) ?_
  intro k' hold hlast
  rw [List.mem_singleton.mp hlast] at hold
  exact hk hold

theorem unregister_nodup {r : Entries κ υ} (h : (r.map Prod.fst).Nodup) (k : κ) :
    ((unregister r k).map Prod.fst).Nodup :=
  h.sublist (List.filter_sublist.map Prod.fst)

theorem update_some {f : κ → Option υ} {k k' : κ} {v v' : υ} (h : Function.update f k (some v) k' = some v') :
    k' = k ∧ v' = v ∨ f k' = some v' := by
  by_cases hkk : k' = k
  · rw [hkk, Function.update_self, Option.some.injEq] at h
    exact Or.inl ⟨hkk, h.symm⟩
  · rw [Function.update_of_ne hkk] at h
    exact Or.inr h

theorem update_none {f : κ → Option υ} {k k' : κ} {v : υ} (h : Function.update f k none k' = some v) :
    k' ≠ k ∧ f k' = some v := by
  by_cases hkk : k' = k
  · rw [hkk, Function.update_self] at h
    cases h
  · rw [Function.update_of_ne hkk] at h
    exact ⟨hkk, h⟩

/-- The entries are values of f, one at most for a key. That of a lasting key
is there as long as f has a value. -/
structure Records (r : Entries κ υ) (f : κ → Option υ) (lasting : κ → Prop) : Prop where
  nodup : (r.map Prod.fst).Nodup
  value : ∀ k v, (k, v) ∈ r → f k = some v
  entry : ∀ k v, lasting k → f k = some v → (k, v) ∈ r

section Records

variable {r : Entries κ υ} {f : κ → Option υ} {lasting : κ → Prop} {k : κ}

omit [DecidableEq κ] in
theorem empty_records (lasting : κ → Prop) : Records ([] : Entries κ υ) (fun _ => none) lasting where
  nodup := List.nodup_nil
  value k v hmem := absurd hmem List.not_mem_nil
  entry k v hk hv := by cases hv

omit [DecidableEq κ] in
theorem Records.notMem (h : Records r f lasting) (hk : f k = none) : k ∉ r.map Prod.fst := by
  intro hmem
  obtain ⟨⟨k', v⟩, hv, rfl⟩ := List.mem_map.mp hmem
  rw [h.value k' v hv] at hk
  cases hk

theorem register_records (h : Records r f lasting) (hk : f k = none) (v : υ) :
    Records (register r k v) (Function.update f k (some v)) lasting := by
  have hnew := h.notMem hk
  constructor
  · exact register_nodup h.nodup hnew v
  · intro k' v' hmem
    rcases mem_register.mp hmem with hold | heq
    · have hne : k' ≠ k := by
        rintro rfl
        exact hnew (List.mem_map_of_mem hold)
      rw [Function.update_of_ne hne]
      exact h.value k' v' hold
    · cases heq
      exact Function.update_self ..
  · intro k' v' hl hv
    rw [mem_register]
    rcases update_some hv with ⟨rfl, rfl⟩ | hold
    · exact Or.inr rfl
    · exact Or.inl (h.entry k' v' hl hold)

theorem unregister_records (h : Records r f lasting) (k : κ) :
    Records (unregister r k) (Function.update f k none) lasting := by
  constructor
  · exact unregister_nodup h.nodup k
  · intro k' v hmem
    obtain ⟨hold, hne⟩ := mem_unregister.mp hmem
    rw [Function.update_of_ne hne]
    exact h.value k' v hold
  · intro k' v hl hv
    obtain ⟨hne, hold⟩ := update_none hv
    exact mem_unregister.mpr ⟨h.entry k' v hl hold, hne⟩

/-- An entry that does not last may go while f keeps its value. -/
theorem Records.forget (h : Records r f lasting) (hk : ¬lasting k) : Records (unregister r k) f lasting := by
  constructor
  · exact unregister_nodup h.nodup k
  · intro k' v hmem
    exact h.value k' v (mem_unregister.mp hmem).1
  · intro k' v hl hv
    refine mem_unregister.mpr ⟨h.entry k' v hl hv, ?_⟩
    rintro rfl
    exact hk hl

end Records

/-- A registry with one entry for every key at which f has a value. -/
structure Represents (r : Entries κ υ) (f : κ → Option υ) : Prop where
  mem_iff : ∀ k v, (k, v) ∈ r ↔ f k = some v
  nodup : (r.map Prod.fst).Nodup

section Represents

variable {r : Entries κ υ} {f : κ → Option υ} {k : κ}

omit [DecidableEq κ] in
theorem represents_iff : Represents r f ↔ Records r f fun _ => True := by
  constructor
  · intro h
    exact ⟨h.nodup, fun k v => (h.mem_iff k v).mp, fun k v _ => (h.mem_iff k v).mpr⟩
  · intro h
    exact ⟨fun k v => ⟨h.value k v, h.entry k v trivial⟩, h.nodup⟩

omit [DecidableEq κ] in
theorem empty_represents : Represents ([] : Entries κ υ) fun _ => none :=
  represents_iff.mpr (empty_records _)

theorem register_represents (h : Represents r f) (hk : f k = none) (v : υ) :
    Represents (register r k v) (Function.update f k (some v)) :=
  represents_iff.mpr (register_records (represents_iff.mp h) hk v)

theorem unregister_represents (h : Represents r f) (k : κ) :
    Represents (unregister r k) (Function.update f k none) :=
  represents_iff.mpr (unregister_records (represents_iff.mp h) k)

end Represents

end RmwZenohPico.Lib.Registry
