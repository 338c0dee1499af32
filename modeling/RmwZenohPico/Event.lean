import RmwZenohPico.Lib.LabelledMachine
import Mathlib.Algebra.Order.Group.Nat
import Mathlib.Algebra.Ring.Nat

namespace RmwZenohPico.Event

open Lib.LabelledMachine

variable {F U : Type}

/-- F stands for the non-NULL callback pointers and U for user data. The
event table of this middleware is empty, so no event status is kept. -/
structure DataEventManager (F U : Type) where
  callback : Option F
  userData : Option U
  unreadCount : Nat

structure Invocation (F U : Type) where
  callback : F
  userData : Option U
  count : Nat
  deriving DecidableEq

def invoke (callback : Option F) (userData : Option U) (count : Nat) : Option (Invocation F U) :=
  callback.map fun f => ⟨f, userData, count⟩

def dataCallbackInit : DataEventManager F U := ⟨none, none, 0⟩

/-- A callback that is installed over a backlog makes the code call the
pointer stored before, with the user data stored before. -/
def dataCallbackSet (m : DataEventManager F U) (userData : Option U) (callback : Option F) :
    Option (DataEventManager F U × List (Invocation F U)) :=
  match callback with
  | some _ =>
      if m.unreadCount ≠ 0 then
        (invoke m.callback m.userData m.unreadCount).map fun c => (⟨callback, userData, 0⟩, [c])
      else some ({ m with userData := userData, callback := callback }, [])
  | none => some ({ m with userData := none, callback := none }, [])

/-- The unread count is a size_t of w bits. -/
def dataCallbackTrigger (w : Nat) (m : DataEventManager F U) :
    Option (DataEventManager F U × List (Invocation F U)) :=
  match m.callback with
  | some _ => (invoke m.callback m.userData 1).map fun c => (m, [c])
  | none => some ({ m with unreadCount := (m.unreadCount + 1) % 2 ^ w }, [])

inductive Op (F U : Type)
  | trigger
  | set (userData : Option U) (callback : Option F)

structure Ledger (F U : Type) where
  manager : DataEventManager F U
  triggers : Nat
  calls : List (Invocation F U)

def initial : Ledger F U := ⟨dataCallbackInit, 0, []⟩

def step (w : Nat) : Machine (Ledger F U) (Op F U)
  | s, .trigger =>
      (dataCallbackTrigger w s.manager).map fun r => ⟨r.1, s.triggers + 1, s.calls ++ r.2⟩
  | s, .set userData callback =>
      (dataCallbackSet s.manager userData callback).map fun r => ⟨r.1, s.triggers, s.calls ++ r.2⟩

def reported (s : Ledger F U) : Nat := (s.calls.map Invocation.count).sum

def Accounted (s : Ledger F U) : Prop := reported s + s.manager.unreadCount = s.triggers

def Reports (s : Ledger F U) (t : Ledger F U) : Op F U → Prop
  | .set userData (some f) =>
      t.calls = s.calls ++
        if s.triggers - reported s = 0 then [] else [⟨f, userData, s.triggers - reported s⟩]
  | _ => True

/-- The accounting law of a sequence of calls: every call returns, every
state is accounted, and every installation reports the backlog. -/
def Lawful (w : Nat) : Ledger F U → List (Op F U) → Prop
  | s, [] => Accounted s
  | s, op :: ops => Accounted s ∧ ∃ t, step w s op = some t ∧ Reports s t op ∧ Lawful w t ops

def BacklogFree (w : Nat) (s : Ledger F U) : Op F U → Prop
  | .trigger => s.manager.callback = none → s.manager.unreadCount + 1 < 2 ^ w
  | .set _ (some _) => s.manager.unreadCount = 0
  | .set _ none => True

def Drained (s : Ledger F U) : Prop := s.manager.callback ≠ none → s.manager.unreadCount = 0

theorem reported_append (s : Ledger F U) (m : DataEventManager F U) (n : Nat)
    (cs : List (Invocation F U)) :
    reported ⟨m, n, s.calls ++ cs⟩ = reported s + (cs.map Invocation.count).sum := by
  simp [reported]

theorem step_drained {w : Nat} {s t : Ledger F U} {op : Op F U} (h : step w s op = some t)
    (hs : Drained s) : Drained t := by
  cases op with
  | trigger =>
      cases hc : s.manager.callback with
      | none =>
          simp only [step, dataCallbackTrigger, hc, Option.map_some, Option.some.injEq] at h
          subst h
          exact fun hn => absurd rfl hn
      | some f =>
          simp only [step, dataCallbackTrigger, hc, invoke, Option.map_some, Option.some.injEq] at h
          subst h
          exact hs
  | set userData callback =>
      cases callback with
      | none =>
          simp only [step, dataCallbackSet, Option.map_some, Option.some.injEq] at h
          subst h
          exact fun hn => absurd rfl hn
      | some f =>
          by_cases hu : s.manager.unreadCount = 0
          · simp only [step, dataCallbackSet, hu, ne_eq, not_true_eq_false, if_false,
              Option.map_some, Option.some.injEq] at h
            subst h
            exact fun _ => rfl
          · obtain ⟨r, hr, rfl⟩ := Option.map_eq_some_iff.mp h
            simp only [dataCallbackSet, ne_eq, hu, not_false_eq_true, if_true,
              Option.map_eq_some_iff] at hr
            obtain ⟨c, -, rfl⟩ := hr
            exact fun _ => rfl

theorem trigger_lawful_iff {w : Nat} {s : Ledger F U} (ha : Accounted s) :
    (∃ t, step w s .trigger = some t ∧ Accounted t) ↔ BacklogFree w s .trigger := by
  cases hc : s.manager.callback with
  | some f =>
      have ht : step w s .trigger =
          some ⟨s.manager, s.triggers + 1, s.calls ++ [⟨f, s.manager.userData, 1⟩]⟩ := by
        simp [step, dataCallbackTrigger, hc, invoke]
      have hb : BacklogFree w s .trigger := fun hn => absurd hn (by simp [hc])
      refine iff_of_true ⟨_, ht, ?_⟩ hb
      simp only [Accounted] at ha ⊢
      rw [reported_append, ← ha]
      simp only [List.map_cons, List.map_nil, List.sum_cons, List.sum_nil]
      omega
  | none =>
      have ht : step w s .trigger = some ⟨{ s.manager with
          unreadCount := (s.manager.unreadCount + 1) % 2 ^ w }, s.triggers + 1, s.calls ++ []⟩ := by
        simp [step, dataCallbackTrigger, hc]
      have hpos : 0 < 2 ^ w := Nat.two_pow_pos w
      simp only [BacklogFree, hc, forall_const, ht, Option.some.injEq, exists_eq_left', Accounted,
        reported_append, List.map_nil, List.sum_nil, Nat.add_zero] at ha ⊢
      constructor
      · intro h
        have hlt := Nat.mod_lt (s.manager.unreadCount + 1) hpos
        omega
      · intro h
        rw [Nat.mod_eq_of_lt h]
        omega

theorem set_lawful_iff {w : Nat} {s : Ledger F U} (ha : Accounted s) (hd : Drained s)
    (userData : Option U) (callback : Option F) :
    (∃ t, step w s (.set userData callback) = some t ∧ Reports s t (.set userData callback) ∧
      Accounted t) ↔ BacklogFree w s (.set userData callback) := by
  cases callback with
  | none =>
      refine iff_of_true ⟨_, rfl, trivial, ?_⟩ trivial
      simpa only [Accounted, reported_append, List.map_nil, List.sum_nil, Nat.add_zero] using ha
  | some f =>
      by_cases hu : s.manager.unreadCount = 0
      · have ht : step w s (.set userData (some f)) =
            some ⟨{ s.manager with userData := userData, callback := some f }, s.triggers,
              s.calls ++ []⟩ := by
          simp [step, dataCallbackSet, hu]
        have hback : s.triggers - reported s = 0 := by
          simp only [Accounted] at ha
          omega
        refine iff_of_true ⟨_, ht, ?_, ?_⟩ hu
        · simp [Reports, hback]
        · simpa only [Accounted, reported_append, List.map_nil, List.sum_nil, Nat.add_zero] using ha
      · have hc : s.manager.callback = none := by
          by_contra hn
          exact hu (hd hn)
        refine iff_of_false ?_ hu
        rintro ⟨t, ht, -⟩
        simp [step, dataCallbackSet, hu, hc, invoke] at ht

theorem step_lawful_iff {w : Nat} {s : Ledger F U} (ha : Accounted s) (hd : Drained s) (op : Op F U) :
    (∃ t, step w s op = some t ∧ Reports s t op ∧ Accounted t) ↔ BacklogFree w s op := by
  cases op with
  | trigger => simpa only [Reports, true_and] using trigger_lawful_iff ha
  | set userData callback => exact set_lawful_iff ha hd userData callback

theorem lawful_head {w : Nat} {s : Ledger F U} {ops : List (Op F U)} (h : Lawful w s ops) :
    Accounted s := by
  cases ops with
  | nil => exact h
  | cons op ops => exact h.1

theorem lawful_iff {w : Nat} {s : Ledger F U} (ha : Accounted s) (hd : Drained s)
    (ops : List (Op F U)) : Lawful w s ops ↔ Every (step w) (BacklogFree w) s ops := by
  induction ops generalizing s with
  | nil => exact iff_of_true ha trivial
  | cons op ops ih =>
      constructor
      · rintro ⟨-, t, ht, hr, hl⟩
        refine ⟨(step_lawful_iff ha hd op).mp ⟨t, ht, hr, lawful_head hl⟩, ?_⟩
        intro u hu
        obtain rfl : t = u := Option.some.inj (ht.symm.trans hu)
        exact (ih (lawful_head hl) (step_drained ht hd)).mp hl
      · rintro ⟨hb, he⟩
        obtain ⟨t, ht, hr, hat⟩ := (step_lawful_iff ha hd op).mpr hb
        exact ⟨ha, t, ht, hr, (ih hat (step_drained ht hd)).mpr (he t ht)⟩

/-- From initialisation, the accounting law holds of a sequence of calls
exactly when no callback is installed over a backlog. -/
theorem callback_accounting_iff (w : Nat) (ops : List (Op F U)) :
    Lawful w initial ops ↔ Every (step w) (BacklogFree w) initial ops :=
  lawful_iff (s := initial) (by simp [Accounted, initial, reported, dataCallbackInit]) (fun _ => rfl) ops

theorem backlog_calls_null :
    ¬ Lawful 64 (initial : Ledger Unit Unit) [.trigger, .set none (some ())] := by
  rintro ⟨-, t, ht, -, -, u, hu, -⟩
  cases ht
  cases hu

end RmwZenohPico.Event
