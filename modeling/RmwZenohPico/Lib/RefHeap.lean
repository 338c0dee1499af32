import Mathlib.Logic.Function.Basic
import Mathlib.Data.Option.Basic

namespace RmwZenohPico.Lib.RefHeap

variable {α : Type} [DecidableEq α]

/-- An object was never allocated, lives with its reference count, or was
freed. Addresses are not used twice. -/
inductive Cell
  | absent
  | live (ref : Int)
  | freed
  deriving DecidableEq

abbrev Heap (α : Type) := α → Cell

def Cell.isLive : Cell → Bool
  | .live _ => true
  | _ => false

def generate (h : Heap α) (a : α) : Heap α := Function.update h a (.live 1)

def refClone (h : Heap α) (a : α) : Option (Heap α) :=
  match h a with
  | .live ref => some (Function.update h a (.live (ref + 1)))
  | _ => none

def refDec (h : Heap α) (a : α) : Option (Heap α × Int) :=
  match h a with
  | .live ref => some (Function.update h a (.live (ref - 1)), ref - 1)
  | _ => none

def release (h : Heap α) (a : α) : Option (Heap α × Bool) :=
  (refDec h a).map fun r => (r.1, r.2 == 0)

def destroy (h : Heap α) (a : α) : Option (Heap α) :=
  match h a with
  | .live ref => some (if ref = 0 then Function.update h a .freed else h)
  | _ => none

/-- Give a reference up. The last one tears the members down before the
object itself is freed. -/
def dropRef (h : Heap α) (a : α) (teardown : Heap α → Option (Heap α)) : Option (Heap α) :=
  (release h a).bind fun r => if r.2 then (teardown r.1).bind fun h => destroy h a else some r.1

theorem refClone_live {h : Heap α} {a : α} {n : Int} (ha : h a = .live n) :
    refClone h a = some (Function.update h a (.live (n + 1))) := by
  simp only [refClone, ha]

theorem dropRef_shared {h : Heap α} {a : α} {n : Int} (ha : h a = .live n) (hn : n ≠ 1)
    (teardown : Heap α → Option (Heap α)) :
    dropRef h a teardown = some (Function.update h a (.live (n - 1))) := by
  have hne : (n - 1 == 0) = false := by
    rw [beq_eq_false_iff_ne]
    omega
  simp [dropRef, release, refDec, ha, hne]

theorem dropRef_last {h h' : Heap α} {a : α} {teardown : Heap α → Option (Heap α)}
    (ha : h a = .live 1) (ht : teardown (Function.update h a (.live 0)) = some h')
    (ha' : h' a = .live 0) : dropRef h a teardown = some (Function.update h' a .freed) := by
  simp [dropRef, release, refDec, destroy, ha, ht, ha']

theorem dropRef_fault {h : Heap α} {a : α} {teardown : Heap α → Option (Heap α)} (ha : h a = .live 1)
    (ht : teardown (Function.update h a (.live 0)) = none) : dropRef h a teardown = none := by
  simp [dropRef, release, refDec, ha, ht]

theorem dropRef_dead {h : Heap α} {a : α} (ha : (h a).isLive = false)
    (teardown : Heap α → Option (Heap α)) : dropRef h a teardown = none := by
  cases hc : h a with
  | live n => rw [hc] at ha; cases ha
  | absent | freed => simp [dropRef, release, refDec, hc]

theorem destroy_frame {h h' : Heap α} {a o : α} (ho : o ≠ a) (hd : destroy h a = some h') :
    h' o = h o := by
  unfold destroy at hd
  split at hd
  · cases hd
    split
    · exact Function.update_of_ne ho ..
    · rfl
  · cases hd

/-- Giving a reference up leaves alone what the teardown leaves alone. -/
theorem dropRef_frame {h h' : Heap α} {a o : α} {teardown : Heap α → Option (Heap α)} (ho : o ≠ a)
    (ht : ∀ g g', teardown g = some g' → g' o = g o) (hd : dropRef h a teardown = some h') :
    h' o = h o := by
  cases ha : h a with
  | absent | freed =>
      have hdead : (h a).isLive = false := by rw [ha]; rfl
      rw [dropRef_dead hdead] at hd
      cases hd
  | live n =>
      by_cases hn : n = 1
      · subst hn
        simp only [dropRef, release, refDec, ha, Option.map_some, Option.bind_some, Int.sub_self,
          BEq.rfl, if_true] at hd
        obtain ⟨g, hg, hfree⟩ := Option.bind_eq_some_iff.mp hd
        have hframe : g o = h o := by simpa [ho] using ht _ _ hg
        rw [destroy_frame ho hfree, hframe]
      · rw [dropRef_shared ha hn] at hd
        cases hd
        exact Function.update_of_ne ho ..

theorem destroy_referenced {h : Heap α} {a : α} {n : Int} (ha : h a = .live n) (hn : n ≠ 0) :
    destroy h a = some h := by
  simp [destroy, ha, hn]

def dropped (n : Int) : Cell := if n = 1 then .freed else .live (n - 1)

theorem dropped_ne (n : Int) : dropped n ≠ .live n := by
  unfold dropped
  split
  · simp
  · simp only [ne_eq, Cell.live.injEq]
    omega

theorem dropped_shared {n : Int} (hn : n ≠ 1) : dropped n = .live (n - 1) := if_neg hn

theorem dropRef_leaf {h : Heap α} {a : α} {n : Int} (ha : h a = .live n) :
    dropRef h a some = some (Function.update h a (dropped n)) := by
  by_cases hn : n = 1
  · subst hn
    rw [dropRef_last ha rfl (Function.update_self ..), Function.update_idem]
    rfl
  · rw [dropRef_shared ha hn, dropped, if_neg hn]

end RmwZenohPico.Lib.RefHeap
