import Mathlib.Algebra.BigOperators.Group.Finset.Piecewise
import Mathlib.Algebra.Ring.Nat
import Mathlib.Data.Fintype.Basic
import RmwZenohPico.GuardCondition

namespace RmwZenohPico.WaitProgress

open Lib.LabelledMachine Wait WaitSet LostWakeup
open GuardCondition (Caller)

variable {ι M T U : Type}

/-- A bound on the steps that the thread in rmw_wait still takes. An element
takes three to attach and two to detach. -/
def waiterWeight : Waiter ι → Nat
  | .idle => 0
  | .attach c todo => 3 * todo.length + 2 * c.entries.length + 5
  | .checking c _ todo => 3 * todo.length + 2 * c.entries.length + 7
  | .attaching c _ todo => 3 * todo.length + 2 * c.entries.length + 6
  | .enter c => 2 * c.entries.length + 4
  | .asleep c signalled => 2 * c.entries.length + if signalled then 3 else 2
  | .detach _ _ todo _ => 2 * todo.length + 1
  | .detaching _ _ _ todo _ => 2 * todo.length + 2

def callbackWeight : Callback ι → Nat
  | .idle => 0
  | .appended _ => 4
  | .locked _ => 3
  | .notified _ => 1

def callerWeight : Caller ι → Nat
  | .idle => 0
  | .calling _ _ => 3
  | .triggered _ _ => 2
  | .flagged _ _ => 1

def remaining [Fintype T] [Fintype U] (s : GuardCondition.State ι M T U) : Nat :=
  waiterWeight s.wait.waiter + ∑ t, callbackWeight (s.wait.callback t) + ∑ u, callerWeight (s.caller u)

/-- The steps that go on with a call, and the timeout of a bounded wait. -/
def Continues (s : GuardCondition.State ι M T U) : GuardCondition.Label ι M T U → Prop
  | .wait .waiter | .wait (.callback _) | .caller _ => True
  | .wait .wakeup => ∀ c b, s.wait.waiter = .asleep c b → c.waitTimeout ≠ none
  | _ => False

/-- Nothing is under way but an unbounded wait without a message. -/
structure AtRest (s : GuardCondition.State ι M T U) : Prop where
  callback : ∀ t, s.wait.callback t = .idle
  caller : ∀ u, s.caller u = .idle
  waiter : s.wait.waiter = .idle ∨ ∃ c, s.wait.waiter = .asleep c false ∧ c.waitTimeout = none ∧
    ∀ x, some (.source x) ∈ c.entries → s.wait.queue x = []

section Weights

theorem sum_update [Fintype T] [DecidableEq T] (f : T → Nat) (t : T) (n : Nat) :
    (∑ x, Function.update f t n x) + f t = (∑ x, f x) + n := by
  have hupdate := Finset.sum_update_of_mem (Finset.mem_univ t) f n
  have hsum := Finset.sum_eq_add_sum_sdiff_singleton_of_mem (Finset.mem_univ t) f
  omega

theorem sum_move [Fintype T] [DecidableEq T] {κ : Type} (weight : κ → Nat) (f : T → κ) (t : T) (k : κ) :
    (∑ x, weight (Function.update f t k x)) + weight (f t) = (∑ x, weight (f x)) + weight k := by
  have hcomp : (fun x => weight (Function.update f t k x)) = Function.update (weight ∘ f) t (weight k) :=
    Function.comp_update weight f t k
  rw [hcomp]
  exact sum_update (weight ∘ f) t (weight k)

theorem signal_weight (w : Waiter ι) : waiterWeight w.signal ≤ waiterWeight w + 1 := by
  cases w with
  | asleep c b =>
      cases b with
      | false => exact le_rfl
      | true => exact Nat.le_succ _
  | idle | attach | checking | attaching | enter | detach | detaching => exact Nat.le_succ _

variable [DecidableEq ι] [DecidableEq T] {s t : Wait.State ι M T}

theorem waiter_decreases (h : Wait.step s .waiter = some t) :
    waiterWeight t.waiter < waiterWeight s.waiter ∧ t.callback = s.callback := by
  cases hstep : Wait.step_cases h with
  | sleep l c hw ht =>
      rcases hw with ⟨-, hw⟩ | ⟨b, hw⟩
      · refine ⟨?_, rfl⟩
        rw [hw]
        simp [waiterWeight]
      · cases b with
        | true =>
            refine ⟨?_, rfl⟩
            rw [hw]
            simp [waiterWeight]
        | false => simp [Wait.step, waiterStep, hw] at h
  | leave l c hw ht =>
      refine ⟨?_, rfl⟩
      rcases hw with ⟨-, hw⟩ | ⟨b, hw⟩
      · rw [hw]
        simp [State.leave, waiterWeight]
      · rw [hw]
        cases b <;> simp [State.leave, waiterWeight]
  | attachDone c hw | attachNull c todo hw | guardReady c todo i hw hg | guardAttach c todo i hw
  | lockToCheck c todo x hw ho | checkEmpty c x todo hw hq | checkReady c x todo hw hq | attach c x todo hw
  | returned c done r hw | detachNull c done todo r hw | guardKept c done todo r i hw hg
  | guardNulled c done todo r i hw hg | lockToDetach c done todo r x hw ho | nulled c x done todo r hw hq
  | kept c x done todo r hw hq =>
      refine ⟨?_, rfl⟩
      rw [hw]
      simp only [waiterWeight, List.length_cons, List.length_nil]
      omega

theorem wakeup_decreases (h : Wait.step s .wakeup = some t)
    (htime : ∀ c b, s.waiter = .asleep c b → c.waitTimeout ≠ none) :
    waiterWeight t.waiter < waiterWeight s.waiter ∧ t.callback = s.callback := by
  cases hw : s.waiter with
  | asleep c b =>
      obtain ⟨time, hc⟩ := Option.ne_none_iff_exists'.mp (htime c b hw)
      simp only [Wait.step, hw, State.wake, hc, Option.some.injEq] at h
      subst h
      refine ⟨?_, rfl⟩
      cases b <;> simp [State.leave, waiterWeight]
  | idle | attach | checking | attaching | enter | detach | detaching => simp [Wait.step, hw] at h

theorem callback_decreases {u : T} (h : Wait.step s (.callback u) = some t) :
    ∃ k, t.callback = Function.update s.callback u k ∧
      waiterWeight t.waiter + callbackWeight k < waiterWeight s.waiter + callbackWeight (s.callback u) := by
  cases hc : s.callback u with
  | idle => simp [Wait.step, callbackStep, hc] at h
  | appended d =>
      by_cases ho : s.owner d.source = none
      · simp only [Wait.step, callbackStep, hc, ho, if_true, Option.some.injEq] at h
        subst h
        exact ⟨.locked d, rfl, by simp [callbackWeight]⟩
      · simp [Wait.step, callbackStep, hc, ho] at h
  | locked d =>
      have hsignal := signal_weight s.waiter
      simp only [Wait.step, callbackStep, hc, Option.some.injEq] at h
      subst h
      refine ⟨.notified d, ?_, ?_⟩
      · split <;> rfl
      · simp only [callbackWeight]
        split
        · simp only [State.notify]
          omega
        · omega
  | notified d =>
      simp only [Wait.step, callbackStep, hc, Option.some.injEq] at h
      subst h
      exact ⟨.idle, rfl, by simp [callbackWeight]⟩

variable [DecidableEq U]

theorem caller_decreases {s t : GuardCondition.State ι M T U} {u : U}
    (h : GuardCondition.step s (.caller u) = some t) :
    t.wait.waiter = s.wait.waiter ∧ t.wait.callback = s.wait.callback ∧
    ∃ k, t.caller = Function.update s.caller u k ∧ callerWeight k < callerWeight (s.caller u) := by
  cases GuardCondition.step_cases h with
  | lock u i made hc ho => exact ⟨rfl, rfl, .triggered i made, rfl, by simp [callerWeight, hc]⟩
  | flag u i made hc => exact ⟨rfl, rfl, .flagged i made, rfl, by simp [callerWeight, hc]⟩
  | complete u i made hc => exact ⟨rfl, rfl, .idle, rfl, by simp [callerWeight, hc]⟩

variable [Fintype T] [Fintype U]

theorem remaining_decreases {s t : GuardCondition.State ι M T U} {l : GuardCondition.Label ι M T U}
    (hl : Continues s l) (h : GuardCondition.step s l = some t) : remaining t < remaining s := by
  cases l with
  | trigger u i => cases hl
  | caller u =>
      obtain ⟨hw, hcb, k, hcaller, hless⟩ := caller_decreases h
      have hsum := sum_move callerWeight s.caller u k
      rw [remaining, remaining, hw, hcb, hcaller]
      omega
  | wait l =>
      simp only [GuardCondition.step] at h
      split at h
      · cases h
      · obtain ⟨w, hw, rfl⟩ := Option.map_eq_some_iff.mp h
        simp only [remaining, GuardCondition.State.follow]
        cases l with
        | waiter =>
            obtain ⟨hless, hcb⟩ := waiter_decreases hw
            rw [hcb]
            omega
        | wakeup =>
            obtain ⟨hless, hcb⟩ := wakeup_decreases hw hl
            rw [hcb]
            omega
        | callback t =>
            obtain ⟨k, hcb, hless⟩ := callback_decreases hw
            have hsum := sum_move callbackWeight s.wait.callback t k
            rw [hcb]
            omega
        | call | take | arrive | triggerGuard => cases hl

end Weights

/-- Whoever owns a condition mutex is inside the critical section. -/
structure Inside (s : Wait.State ι M T) : Prop where
  waiter : ∀ x, s.owner x = some .waiter → holds s.waiter = some x
  callback : ∀ x t, s.owner x = some (.callback t) →
    ∃ d : Dest ι, d.source = x ∧ (s.callback t = .locked d ∨ s.callback t = .notified d)

section Owners

variable {s t : Wait.State ι M T}

theorem Inside.keep (hs : Inside s) (ho : t.owner = s.owner) (hc : t.callback = s.callback)
    (hw : ∀ x, holds s.waiter = some x → holds t.waiter = some x) : Inside t := by
  constructor
  · intro x hx
    rw [ho] at hx
    exact hw x (hs.waiter x hx)
  · intro x u hx
    rw [ho] at hx
    rw [hc]
    exact hs.callback x u hx

variable [DecidableEq ι] {x : Source ι}

theorem Inside.acquire (hs : Inside s) (ho : t.owner = Function.update s.owner x (some .waiter))
    (hc : t.callback = s.callback) (hold : holds s.waiter = none) (hw : holds t.waiter = some x) :
    Inside t := by
  constructor
  · intro y hy
    by_cases hyx : y = x
    · rw [hyx, hw]
    · rw [ho, Function.update_of_ne hyx] at hy
      have hmine := hs.waiter y hy
      rw [hold] at hmine
      cases hmine
  · intro y u hy
    by_cases hyx : y = x
    · rw [ho, hyx, Function.update_self] at hy
      cases hy
    · rw [ho, Function.update_of_ne hyx] at hy
      rw [hc]
      exact hs.callback y u hy

theorem Inside.release (hs : Inside s) (ho : t.owner = Function.update s.owner x none)
    (hc : t.callback = s.callback) (hold : holds s.waiter = some x) : Inside t := by
  have hother : ∀ y, t.owner y ≠ none → y ≠ x ∧ t.owner y = s.owner y := by
    intro y hy
    by_cases hyx : y = x
    · rw [ho, hyx, Function.update_self] at hy
      exact absurd rfl hy
    · exact ⟨hyx, by rw [ho, Function.update_of_ne hyx]⟩
  constructor
  · intro y hy
    obtain ⟨hne, heq⟩ := hother y (by simp [hy])
    have hmine := hs.waiter y (heq ▸ hy)
    rw [hold, Option.some.injEq] at hmine
    exact absurd hmine.symm hne
  · intro y u hy
    obtain ⟨-, heq⟩ := hother y (by simp [hy])
    rw [hc]
    exact hs.callback y u (heq ▸ hy)

variable [DecidableEq T]

omit [DecidableEq ι] in
theorem Inside.move (hs : Inside s) {u : T} {k : Callback ι} (ho : t.owner = s.owner)
    (hc : t.callback = Function.update s.callback u k)
    (hk : ∀ d, s.callback u = .locked d ∨ s.callback u = .notified d → k = .locked d ∨ k = .notified d)
    (hw : holds t.waiter = holds s.waiter) : Inside t := by
  constructor
  · intro x hx
    rw [ho] at hx
    rw [hw]
    exact hs.waiter x hx
  · intro x v hx
    rw [ho] at hx
    obtain ⟨d, hd, hv⟩ := hs.callback x v hx
    refine ⟨d, hd, ?_⟩
    rw [hc]
    by_cases hvu : v = u
    · subst hvu
      rw [Function.update_self]
      exact hk d hv
    · rw [Function.update_of_ne hvu]
      exact hv

theorem inside_step {l : Wait.Label ι M T} (h : Wait.Step s l t) (hs : Inside s) : Inside t := by
  cases h with
  | lockToCheck c todo x hw ho => exact hs.acquire rfl rfl (by rw [hw]; rfl) rfl
  | lockToDetach c done todo r x hw ho => exact hs.acquire rfl rfl (by rw [hw]; rfl) rfl
  | checkReady c x todo hw hq => exact hs.release (x := x) rfl rfl (by rw [hw]; rfl)
  | attach c x todo hw => exact hs.release (x := x) rfl rfl (by rw [hw]; rfl)
  | nulled c x done todo r hw hq => exact hs.release (x := x) rfl rfl (by rw [hw]; rfl)
  | kept c x done todo r hw hq => exact hs.release (x := x) rfl rfl (by rw [hw]; rfl)
  | sleep l c hw ht | leave l c hw ht =>
      refine hs.keep rfl rfl ?_
      intro x hx
      rcases hw with ⟨-, hw⟩ | ⟨b, hw⟩
      · rw [hw] at hx
        cases hx
      · rw [hw] at hx
        cases hx
  | arrive u d m hc =>
      obtain ⟨ho, -, hw, -, -⟩ := append_fields s m d
      refine hs.move (u := u) (k := .appended d) ho rfl ?_ (congrArg holds hw)
      rintro d' (hd | hd) <;> simp [hc] at hd
  | lock u d hc ho =>
      constructor
      · intro x hx
        by_cases hxd : x = d.source
        · simp [hxd] at hx
        · exact hs.waiter x (by simpa [hxd] using hx)
      · intro x v hx
        by_cases hxd : x = d.source
        · simp only [hxd, Function.update_self, Option.some.injEq, Owner.callback.injEq] at hx
          subst hx
          exact ⟨d, hxd.symm, Or.inl (Function.update_self ..)⟩
        · obtain ⟨d', hd', hv⟩ := hs.callback x v (by simpa [hxd] using hx)
          have hvu : v ≠ u := by
            rintro rfl
            simp [hc] at hv
          exact ⟨d', hd', by simpa [hvu] using hv⟩
  | notify u d hc ha =>
      refine hs.move (u := u) (k := .notified d) rfl rfl ?_ (holds_signal _)
      rintro d' (hd | hd) <;> rw [hc] at hd <;> cases hd
      exact Or.inr rfl
  | passBy u d hc ha =>
      refine hs.move (u := u) (k := .notified d) rfl rfl ?_ rfl
      rintro d' (hd | hd) <;> rw [hc] at hd <;> cases hd
      exact Or.inr rfl
  | unlock u d hc =>
      constructor
      · intro x hx
        by_cases hxd : x = d.source
        · simp [hxd] at hx
        · exact hs.waiter x (by simpa [hxd] using hx)
      · intro x v hx
        by_cases hxd : x = d.source
        · simp [hxd] at hx
        · obtain ⟨d', hd', hv⟩ := hs.callback x v (by simpa [hxd] using hx)
          have hvu : v ≠ u := by
            rintro rfl
            rw [hc] at hv
            rcases hv with hv | hv <;> cases hv
            exact hxd hd'.symm
          exact ⟨d', hd', by simpa [hvu] using hv⟩
  | triggerGuard i => exact hs.keep rfl rfl fun x hx => hx
  | take x hw => exact hs.keep rfl rfl fun y hy => hy
  | checkEmpty c x todo hw hq =>
      refine hs.keep rfl rfl ?_
      intro y hy
      rw [hw] at hy
      exact hy
  | call c hw | attachDone c hw | attachNull c todo hw | guardReady c todo i hw hg | guardAttach c todo i hw
  | returned c done r hw | detachNull c done todo r hw | guardKept c done todo r i hw hg
  | guardNulled c done todo r i hw hg =>
      refine hs.keep rfl rfl ?_
      intro x hx
      rw [hw] at hx
      cases hx

end Owners

structure Sound (s : GuardCondition.State ι M T U) : Prop where
  kept : Kept s.wait
  inside : Inside s.wait
  guard : ∀ i u, s.owner i = some u → ∃ made, s.caller u = .triggered i made ∨ s.caller u = .flagged i made

section Rest

variable [DecidableEq ι] [DecidableEq T] [DecidableEq U] {s t : GuardCondition.State ι M T U}
  {l : GuardCondition.Label ι M T U}

omit [DecidableEq T] [DecidableEq U] [DecidableEq ι] in
theorem kept_flags {s t : Wait.State ι M T} (hs : Kept s) (ho : t.owner = s.owner)
    (hc : t.callback = s.callback) (hw : t.waiter = s.waiter) (ha : t.attached = s.attached)
    (hq : t.queue = s.queue) (hg : t.guardAttached = s.guardAttached)
    (htr : s.triggered = true → t.triggered = true) : Kept t where
  locked := hs.locked.keep ho hc fun x hx => hw ▸ hx
  swept := hs.swept.keep ha hg (congrArg reach hw) (congrArg waiting hw) (congrArg unvisited hw)
  attended := by
    refine ⟨?_, ?_, ?_⟩
    · intro c x hwait htime hattached hqueue
      rw [hw] at hwait
      rw [ha] at hattached
      rw [hq] at hqueue
      rcases hs.attended.pending c x hwait htime hattached hqueue with ⟨u, hu⟩ | hwoken
      · exact Or.inl ⟨u, hc ▸ hu⟩
      · exact Or.inr (GuardCondition.woken_mono hw htr hwoken)
    · intro c x todo hwait hqueue
      rw [hw] at hwait
      rw [hq] at hqueue
      obtain ⟨u, hu⟩ := hs.attended.attaching c x todo hwait hqueue
      exact ⟨u, hc ▸ hu⟩
    · intro c hwait
      rw [hw] at hwait
      exact htr (hs.attended.signalled c hwait)

omit [DecidableEq T] [DecidableEq ι] in
theorem guard_move {u : U} {k : Caller ι} (hs : Sound s) (ho : t.owner = s.owner)
    (hc : t.caller = Function.update s.caller u k)
    (hk : ∀ i made, s.caller u = .triggered i made ∨ s.caller u = .flagged i made → k = .flagged i made)
    (i : ι) (v : U) (hv : t.owner i = some v) :
    ∃ made, t.caller v = .triggered i made ∨ t.caller v = .flagged i made := by
  rw [ho] at hv
  obtain ⟨made, hold⟩ := hs.guard i v hv
  refine ⟨made, ?_⟩
  rw [hc]
  by_cases hvu : v = u
  · subst hvu
    rw [Function.update_self]
    exact Or.inr (hk i made hold)
  · rw [Function.update_of_ne hvu]
    exact hold

theorem sound_step (hs : Sound s) (h : GuardCondition.step s l = some t) : Sound t := by
  cases GuardCondition.step_cases h with
  | wait k w hw =>
      exact ⟨⟨locked_step hw hs.kept.locked, swept_step hw hs.kept.swept,
        attended_step hw hs.kept.locked hs.kept.swept hs.kept.attended⟩, inside_step hw hs.inside, hs.guard⟩
  | trigger u i hc =>
      refine ⟨hs.kept, hs.inside, guard_move (u := u) hs rfl rfl ?_⟩
      rintro j made (hj | hj) <;> simp [hc] at hj
  | lock u i made hc ho =>
      refine ⟨kept_flags hs.kept rfl rfl rfl rfl rfl rfl id, hs.inside.keep rfl rfl fun _ hx => hx, ?_⟩
      intro j v hv
      by_cases hji : j = i
      · subst hji
        simp only [Function.update_self, Option.some.injEq] at hv
        subst hv
        exact ⟨made, Or.inl (Function.update_self ..)⟩
      · simp only [Function.update_of_ne hji] at hv
        obtain ⟨made', hold⟩ := hs.guard j v hv
        have hvu : v ≠ u := by
          rintro rfl
          simp [hc] at hold
        exact ⟨made', by simpa [hvu] using hold⟩
  | flag u i made hc =>
      refine ⟨kept_flags hs.kept rfl rfl rfl rfl rfl rfl ?_, hs.inside.keep rfl rfl fun _ hx => hx,
        guard_move (u := u) hs rfl rfl ?_⟩
      · intro htr
        simp [htr]
      · rintro j made' (hj | hj) <;> rw [hc] at hj <;> cases hj
        rfl
  | complete u i made hc =>
      refine ⟨hs.kept, hs.inside, ?_⟩
      intro j v hv
      by_cases hji : j = i
      · simp [hji] at hv
      · simp only [Function.update_of_ne hji] at hv
        obtain ⟨made', hold⟩ := hs.guard j v hv
        have hvu : v ≠ u := by
          rintro rfl
          rw [hc] at hold
          rcases hold with hold | hold <;> cases hold
          exact hji rfl
        exact ⟨made', by simpa [hvu] using hold⟩

omit [DecidableEq ι] [DecidableEq T] [DecidableEq U] in
theorem initial_sound : Sound (GuardCondition.initial : GuardCondition.State ι M T U) := by
  refine ⟨initial_kept, ⟨?_, ?_⟩, ?_⟩
  · intro x hx
    cases hx
  · intro x u hx
    cases hx
  · intro i u hi
    cases hi

def Stuck (s : GuardCondition.State ι M T U) : Prop := ∀ l, Continues s l → GuardCondition.step s l = none

theorem callers_done (hs : Sound s) (h : Stuck s) : (∀ u, s.caller u = .idle) ∧ ∀ i, s.owner i = none := by
  have hunlocked : ∀ u i made, s.caller u ≠ .triggered i made ∧ s.caller u ≠ .flagged i made := by
    intro u i made
    have hu := h (.caller u) trivial
    constructor
    · intro hc
      simp [GuardCondition.step, GuardCondition.callerStep, hc] at hu
    · intro hc
      simp [GuardCondition.step, GuardCondition.callerStep, hc] at hu
  have hfree : ∀ i, s.owner i = none := by
    intro i
    cases ho : s.owner i with
    | none => rfl
    | some u =>
        obtain ⟨made, hc | hc⟩ := hs.guard i u ho
        · exact absurd hc (hunlocked u i made).1
        · exact absurd hc (hunlocked u i made).2
  refine ⟨?_, hfree⟩
  intro u
  cases hc : s.caller u with
  | idle => rfl
  | calling i made =>
      have hu := h (.caller u) trivial
      simp [GuardCondition.step, GuardCondition.callerStep, hc, hfree] at hu
  | triggered i made => exact absurd hc (hunlocked u i made).1
  | flagged i made => exact absurd hc (hunlocked u i made).2

theorem stuck_wait (h : Stuck s) (hfree : ∀ i, s.owner i = none) :
    Wait.step s.wait .waiter = none ∧ ∀ u, Wait.step s.wait (.callback u) = none := by
  constructor
  · have hl := h (.wait .waiter) trivial
    have hopen : s.blocked .waiter = false := by simp [GuardCondition.State.blocked, hfree]
    simpa [GuardCondition.step, hopen] using hl
  · intro u
    have hl := h (.wait (.callback u)) trivial
    simpa [GuardCondition.step, GuardCondition.State.blocked] using hl

omit [DecidableEq U] in
theorem callbacks_done {s : Wait.State ι M T} (hs : Inside s) (hw : Wait.step s .waiter = none)
    (hc : ∀ u, Wait.step s (.callback u) = none) :
    (∀ u, s.callback u = .idle) ∧ ∀ x, s.owner x = none := by
  have houtside : holds s.waiter = none := by
    cases hsw : s.waiter with
    | checking c x todo | attaching c x todo | detaching c x done todo r =>
        simp only [Wait.step, waiterStep, hsw] at hw
        grind
    | idle | attach | enter | asleep | detach => rfl
  have hunlocked : ∀ u d, s.callback u ≠ .locked d ∧ s.callback u ≠ .notified d := by
    intro u d
    have hu := hc u
    constructor
    · intro hcb
      simp [Wait.step, callbackStep, hcb] at hu
    · intro hcb
      simp [Wait.step, callbackStep, hcb] at hu
  have hfree : ∀ x, s.owner x = none := by
    intro x
    cases ho : s.owner x with
    | none => rfl
    | some k =>
        cases k with
        | waiter =>
            have hmine := hs.waiter x ho
            rw [houtside] at hmine
            cases hmine
        | callback u =>
            obtain ⟨d, -, hcb | hcb⟩ := hs.callback x u ho
            · exact absurd hcb (hunlocked u d).1
            · exact absurd hcb (hunlocked u d).2
  refine ⟨?_, hfree⟩
  intro u
  cases hcb : s.callback u with
  | idle => rfl
  | appended d =>
      have hu := hc u
      simp [Wait.step, callbackStep, hcb, hfree] at hu
  | locked d => exact absurd hcb (hunlocked u d).1
  | notified d => exact absurd hcb (hunlocked u d).2

omit [DecidableEq U] [DecidableEq T] in
theorem waiter_done {s : Wait.State ι M T} (hw : waiterStep s = none) (hfree : ∀ x, s.owner x = none) :
    s.waiter = .idle ∨ ∃ c, s.waiter = .asleep c false := by
  cases hsw : s.waiter with
  | idle => exact Or.inl rfl
  | asleep c b =>
      cases b with
      | false => exact Or.inr ⟨c, rfl⟩
      | true => simp [waiterStep, hsw] at hw
  | attach c todo =>
      rcases todo with _ | ⟨_ | i | x, todo⟩
      · simp [waiterStep, attachStep, hsw] at hw
      · simp [waiterStep, attachStep, hsw] at hw
      · simp only [waiterStep, attachStep, hsw] at hw
        split at hw <;> cases hw
      · simp [waiterStep, attachStep, hsw, hfree] at hw
  | detach c done todo r =>
      rcases todo with _ | ⟨_ | i | x, todo⟩
      · simp [waiterStep, detachStep, hsw] at hw
      · simp [waiterStep, detachStep, hsw] at hw
      · simp only [waiterStep, detachStep, hsw] at hw
        split at hw <;> cases hw
      · simp [waiterStep, detachStep, hsw, hfree] at hw
  | checking c x todo | detaching c x done todo r =>
      simp only [waiterStep, hsw] at hw
      split at hw <;> cases hw
  | attaching c x todo | enter c => simp [waiterStep, hsw] at hw

omit [DecidableEq ι] [DecidableEq T] in
theorem asleep_empty {s : Wait.State ι M T} (hs : Kept s) (hidle : ∀ u, s.callback u = .idle) {c : Call ι}
    (hw : s.waiter = .asleep c false) (hc : c.waitTimeout = none) {x : Source ι}
    (hx : some (.source x) ∈ c.entries) : s.queue x = [] := by
  have hwait : waiting s.waiter = some c := by rw [hw]; rfl
  have hattached : s.attached x = true := by
    rcases hs.swept.covered c x hwait hx with h | h
    · rw [hw] at h
      cases h
    · exact h
  by_contra hqueue
  rcases hs.attended.pending c x hwait hc hattached hqueue with ⟨u, hu | hu⟩ | hwoken
  · rw [hidle u] at hu
    cases hu
  · rw [hidle u] at hu
    cases hu
  · rw [Woken, hw] at hwoken
    cases hwoken

theorem stuck_atRest (hs : Sound s) (h : Stuck s) : AtRest s := by
  obtain ⟨hcallers, hguards⟩ := callers_done hs h
  obtain ⟨hw, hc⟩ := stuck_wait h hguards
  obtain ⟨hidle, hfree⟩ := callbacks_done hs.inside hw hc
  refine ⟨hidle, hcallers, ?_⟩
  rcases waiter_done hw hfree with hwait | ⟨c, hwait⟩
  · exact Or.inl hwait
  · have htime : c.waitTimeout = none := by
      by_contra htime
      have hl := h (.wait .wakeup) fun c' b hw' => by
        rw [hwait] at hw'
        cases hw'
        exact htime
      simp [GuardCondition.step, GuardCondition.State.blocked, Wait.step, hwait] at hl
    exact Or.inr ⟨c, hwait, htime, fun x hx => asleep_empty hs.kept hidle hwait htime hx⟩

omit [DecidableEq ι] [DecidableEq T] [DecidableEq U] in
theorem AtRest.asleep_unbounded (hs : AtRest s) {c : Call ι} {b : Bool} (hw : s.wait.waiter = .asleep c b) :
    b = false ∧ c.waitTimeout = none := by
  rcases hs.waiter with hidle | ⟨c', hw', htime, -⟩
  · rw [hw] at hidle
    cases hidle
  · rw [hw] at hw'
    cases hw'
    exact ⟨rfl, htime⟩

theorem atRest_stuck (hs : AtRest s) : Stuck s := by
  intro l hl
  cases l with
  | trigger u i => cases hl
  | caller u => simp [GuardCondition.step, GuardCondition.callerStep, hs.caller u]
  | wait l =>
      have hnone : Wait.step s.wait l = none := by
        cases l with
        | waiter =>
            rcases hs.waiter with hw | ⟨c, hw, -⟩
            · simp [Wait.step, waiterStep, hw]
            · simp [Wait.step, waiterStep, hw]
        | wakeup =>
            cases hw : s.wait.waiter with
            | asleep c b => exact absurd (hs.asleep_unbounded hw).2 (hl c b hw)
            | idle | attach | checking | attaching | enter | detach | detaching => simp [Wait.step, hw]
        | callback u => simp [Wait.step, callbackStep, hs.callback u]
        | call | take | arrive | triggerGuard => cases hl
      simp [GuardCondition.step, hnone]

/-- From every state that threads can get into, the calls under way end on
their own: no order of their steps goes on for ever, and none gets stuck on a
lock. What is left is at most an unbounded wait without a message. -/
theorem calls_come_to_rest [Fintype T] [Fintype U] (hr : Reachable GuardCondition.step GuardCondition.initial s)
    {ls : List (GuardCondition.Label ι M T U)} (hls : Every GuardCondition.step Continues s ls)
    (ht : run GuardCondition.step s ls = some t) :
    ls.length + remaining t ≤ remaining s ∧ (Stuck t ↔ AtRest t) := by
  refine ⟨length_le_of_decreasing (fun _ _ _ => remaining_decreases) hls ht, ?_, atRest_stuck⟩
  have hsound : Sound s := invariant (fun _ _ _ => sound_step) initial_sound hr
  exact stuck_atRest (invariant_of_every (fun _ _ _ hs _ h => sound_step hs h) hsound hls ht)

end Rest

def busyRun : List (GuardCondition.Label Nat Unit Unit Unit) :=
  [.wait (.call oneSubscription), .wait .waiter, .wait .waiter, .wait .waiter, .wait .waiter, .wait .waiter,
    .wait (.arrive () (.waited (.subscription 0)) ()), .trigger () 0]

def settlingRun : List (GuardCondition.Label Nat Unit Unit Unit) :=
  [.caller (), .wait (.callback ()), .wait (.callback ()), .caller (), .wait .waiter, .wait (.callback ()),
    .caller (), .wait .waiter, .wait .waiter, .wait .waiter]

theorem busy_run_comes_to_rest : ∃ s t, run GuardCondition.step GuardCondition.initial busyRun = some s ∧
    run GuardCondition.step s settlingRun = some t ∧ settlingRun.length + remaining t ≤ remaining s ∧ Stuck t := by
  have hall : (run GuardCondition.step GuardCondition.initial (busyRun ++ settlingRun)).isSome = true := rfl
  have hwait : (run GuardCondition.step GuardCondition.initial (busyRun ++ settlingRun)).map
      (fun t => (t.wait.callback (), t.caller (), t.wait.waiter)) = some (.idle, .idle, .idle) := rfl
  obtain ⟨t, ht⟩ := Option.isSome_iff_exists.mp hall
  rw [ht, Option.map_some, Option.some.injEq, Prod.mk.injEq, Prod.mk.injEq] at hwait
  obtain ⟨hcb, hcaller, hidle⟩ := hwait
  rw [run_append] at ht
  obtain ⟨s, hs, ht⟩ := Option.bind_eq_some_iff.mp ht
  have hgo : Every GuardCondition.step Continues s settlingRun := by
    iterate 10
      refine ⟨trivial, ?_⟩
      intro _ _
    trivial
  obtain ⟨hlength, hstuck⟩ := calls_come_to_rest ⟨busyRun, hs⟩ hgo ht
  exact ⟨s, t, hs, ht, hlength, hstuck.mpr ⟨fun _ => hcb, fun _ => hcaller, Or.inl hidle⟩⟩

end RmwZenohPico.WaitProgress
