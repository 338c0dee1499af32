import Mathlib.Data.List.Basic

namespace RmwZenohPico.MessageQueue

variable {α : Type}

/-- The purpose of a receive queue: a sequence that grows at the end, is
drained from the front, and can be searched for the first match. -/
def append (queue : List α) (msg : α) : List α := queue ++ [msg]

def pop (queue : List α) : Option α × List α := (queue.head?, queue.tail)

def pickup (queue : List α) (func : α → Bool) : Option α × List α :=
  (queue.find? func, queue.eraseP func)

theorem mem_of_pickup {queue : List α} {func : α → Bool} {m : α}
    (h : (pickup queue func).1 = some m) : m ∈ queue :=
  List.mem_of_find?_eq_some h

theorem pickup_map {β : Type} (f : α → β) (queue : List α) (func : β → Bool) :
    pickup (queue.map f) func =
      ((pickup queue (func ∘ f)).1.map f, (pickup queue (func ∘ f)).2.map f) := by
  rw [pickup, List.find?_map, List.eraseP_map]
  rfl

theorem pickup_append_cons {func : α → Bool} {xs ys : List α} {m : α}
    (hxs : ∀ x ∈ xs, func x = false) (hm : func m = true) :
    pickup (xs ++ m :: ys) func = (some m, xs ++ ys) := by
  have hnone : xs.find? func = none := List.find?_eq_none.mpr fun x hx => by simp [hxs x hx]
  have hfind : (xs ++ m :: ys).find? func = some m := by simp [List.find?_append, hnone, hm]
  have herase : (xs ++ m :: ys).eraseP func = xs ++ ys := by
    rw [List.eraseP_append_right _ (fun x hx => by simp [hxs x hx]), List.eraseP_cons_of_pos hm]
  simp [pickup, hfind, herase]

/-- When at most one message carries the key that is searched for, a pickup
drops exactly the messages with that key. -/
theorem pickup_by_key {κ : Type} [DecidableEq κ] {key : α → κ} {k : κ} {func : α → Bool}
    {queue : List α} (hf : ∀ x ∈ queue, func x = true ↔ key x = k) (hn : (queue.map key).Nodup) :
    (pickup queue func).2 = queue.filter fun x => key x ≠ k := by
  simp only [pickup]
  induction queue with
  | nil => rfl
  | cons y ys ih =>
      rw [List.map_cons, List.nodup_cons] at hn
      have hys : ∀ x ∈ ys, func x = true ↔ key x = k := fun x hx => hf x (List.mem_cons_of_mem _ hx)
      by_cases hy : key y = k
      · have hfy : func y = true := (hf y List.mem_cons_self).mpr hy
        have hrest : ∀ x ∈ ys, key x ≠ k :=
          fun x hx he => hn.1 (List.mem_map.mpr ⟨x, hx, he.trans hy.symm⟩)
        have hall : ys.filter (fun x => key x ≠ k) = ys :=
          List.filter_eq_self.mpr fun x hx => by simpa using hrest x hx
        rw [List.eraseP_cons_of_pos hfy, List.filter_cons_of_neg (by simpa using hy), hall]
      · have hfy : ¬ func y = true := fun h => hy ((hf y List.mem_cons_self).mp h)
        rw [List.eraseP_cons_of_neg hfy, List.filter_cons_of_pos (by simpa using hy), ih hys hn.2]

theorem filter_key_append_cons {κ : Type} [DecidableEq κ] {key : α → κ} {xs ys : List α} {m : α}
    (hn : ((xs ++ m :: ys).map key).Nodup) :
    (xs ++ m :: ys).filter (fun x => key x ≠ key m) = xs ++ ys := by
  rw [List.map_append, List.map_cons, List.nodup_append, List.nodup_cons] at hn
  obtain ⟨-, ⟨hm, -⟩, hd⟩ := hn
  have hx : xs.filter (fun x => key x ≠ key m) = xs := by
    refine List.filter_eq_self.mpr fun x hx => ?_
    have hne := hd (key x) (List.mem_map_of_mem hx) (key m) List.mem_cons_self
    simpa using hne
  have hy : ys.filter (fun x => key x ≠ key m) = ys := by
    refine List.filter_eq_self.mpr fun y hy => ?_
    have hne : key y ≠ key m := fun he => hm (List.mem_map.mpr ⟨y, hy, he⟩)
    simpa using hne
  rw [List.filter_append, List.filter_cons_of_neg (by simp), hx, hy]

theorem pickup_none {queue : List α} {func : α → Bool} (h : ∀ x ∈ queue, func x = false) :
    pickup queue func = (none, queue) := by
  have hf : queue.find? func = none := List.find?_eq_none.mpr fun x hx => by simp [h x hx]
  have he : queue.eraseP func = queue := List.eraseP_of_forall_not fun x hx => by simp [h x hx]
  simp [pickup, hf, he]

end RmwZenohPico.MessageQueue
