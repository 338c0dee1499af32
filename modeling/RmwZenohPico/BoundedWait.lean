import RmwZenohPico.Lib.Recorded
import RmwZenohPico.LostWakeup

namespace RmwZenohPico.BoundedWait

open Lib.LabelledMachine Lib.Recorded Wait WaitSet

variable {ι M T : Type}

def Bounded (c : Call ι) : Prop := ∃ t, c.waitTimeout = some t ∧ ¬(t.sec = 0 ∧ t.nsec = 0)

abbrev History (ι M T : Type) := State ι M T × (Source ι → Bool)

def initial : History ι M T := (Wait.initial, fun _ => false)

def entering : Waiter ι → Bool
  | .attach .. | .checking .. | .attaching .. | .enter _ => true
  | _ => false

variable [DecidableEq ι]

def note (s : State ι M T) (l : Label ι M T) (notified : Source ι → Bool) : Source ι → Bool :=
  match l with
  | .call _ => fun _ => false
  | .callback t =>
      match s.callback t with
      | .locked d => if s.attached d.source then Function.update notified d.source true else notified
      | _ => notified
  | _ => notified

variable [DecidableEq T]

def machine : Machine (History ι M T) (Label ι M T) := recorded step note

/-- The waiter does not go to sleep in z_condvar_timewait over the trigger of
a source that it has attached. -/
def NeverOversleeps (s : History ι M T) : Label ι M T → Prop
  | .waiter => ∀ u c, machine s .waiter = some u → s.1.waiter = .enter c → Bounded c →
      u.1.waiter = .asleep c false → ∀ x, s.1.attached x = true → s.2 x = false
  | _ => True

/-- A bounded call that goes into its wait section finds the flag of the wait
set cleared. -/
def FlagClear (s : History ι M T) : Label ι M T → Prop
  | .waiter => ∀ c, s.1.waiter = .enter c → Bounded c → s.1.triggered = false
  | _ => True

def Remembered (s : History ι M T) : Prop :=
  entering s.1.waiter = true → ∀ x, s.2 x = true → s.1.triggered = true

variable {s t : State ι M T} {l : Label ι M T} {n : Source ι → Bool}

omit [DecidableEq ι] [DecidableEq T] in
theorem Remembered.keep (hs : Remembered (s, n)) (ht : s.triggered = true → t.triggered = true)
    (hw : entering t.waiter = true → entering s.waiter = true) : Remembered (t, n) :=
  fun he x hx => ht (hs (hw he) x hx)

omit [DecidableEq ι] [DecidableEq T] in
theorem Remembered.over (hw : entering t.waiter = false) : Remembered (t, n) := by
  intro he
  rw [hw] at he
  cases he

theorem remembered_step (h : Step s l t) (hs : Remembered (s, n)) : Remembered (t, note s l n) := by
  cases h with
  | call c hw =>
      intro he x hx
      cases hx
  | notify u d hc ha =>
      intro he x hx
      rfl
  | arrive u d m hc =>
      refine hs.keep (fun h => ?_) fun he => ?_
      · cases d <;> exact h
      · cases d <;> exact he
  | lock u d hc ho =>
      simp only [note, hc]
      exact hs.keep id id
  | passBy u d hc ha =>
      simp only [note, hc, ha]
      exact hs.keep id id
  | unlock u d hc =>
      simp only [note, hc]
      exact hs.keep id id
  | take x hw => exact hs.keep id id
  | triggerGuard i => exact hs.keep (fun h => by simp [guardConditionTrigger, h]) id
  | attachDone c hw => exact hs.keep id fun _ => by rw [hw]; rfl
  | attachNull c todo hw => exact hs.keep id fun _ => by rw [hw]; rfl
  | guardAttach c todo i hw => exact hs.keep id fun _ => by rw [hw]; rfl
  | lockToCheck c todo x hw ho => exact hs.keep id fun _ => by rw [hw]; rfl
  | checkEmpty c x todo hw hq => exact hs.keep id fun _ => by rw [hw]; rfl
  | attach c x todo hw => exact hs.keep id fun _ => by rw [hw]; rfl
  | sleep | leave | guardReady | checkReady | returned | detachNull | guardKept | guardNulled
  | lockToDetach | nulled | kept => exact Remembered.over rfl

theorem neverOversleeps_of_clear {s : History ι M T} {l : Label ι M T} (hs : Remembered s)
    (hclear : FlagClear s l) : NeverOversleeps s l := by
  cases l with
  | waiter =>
      intro u c _ hw hbounded _ x _
      by_contra hx
      have hset := hs (by rw [hw]; rfl) x (by simpa using hx)
      rw [hclear c hw hbounded] at hset
      cases hset
  | call | wakeup | take | arrive | callback | triggerGuard => trivial

/-- As long as bounded calls find the flag cleared, none of them sleeps over
the trigger of a callback. -/
theorem bounded_wait_awake {ls : List (Label ι M T)} (hclear : Every machine FlagClear initial ls) :
    Every machine NeverOversleeps (initial : History ι M T) ls := by
  refine every_of_invariant (I := Remembered) ?_ (fun _ _ => neverOversleeps_of_clear) ?_ hclear
  · intro s l t hs _ h
    obtain ⟨hstep, hnote⟩ := recorded_cases h
    have hremembered := remembered_step (step_cases hstep) hs
    rwa [← hnote] at hremembered
  · exact Remembered.over rfl

theorem bounded_enter {s : State ι M T} {c : Call ι} (hw : s.waiter = .enter c) (hbounded : Bounded c) :
    step s .waiter = some { s with waiter := .asleep c false } := by
  obtain ⟨t, ht, hpositive⟩ := hbounded
  simp [step, waiterStep, hw, State.enterSection, ht, hpositive]

theorem unbounded_enter {s : State ι M T} {c : Call ι} (hw : s.waiter = .enter c)
    (hunbounded : c.waitTimeout = none) :
    step s .waiter = some (if s.triggered then s.leave c else { s with waiter := .asleep c false }) := by
  simp only [step, waiterStep, hw, State.enterSection, State.wake, hunbounded]

/-- A trigger in the window before the wait section is slept over. -/
theorem trigger_overslept {s : History ι M T} {c : Call ι} (hw : s.1.waiter = .enter c) (hbounded : Bounded c)
    {x : Source ι} (hx : s.1.attached x = true) (hn : s.2 x = true) : ¬ NeverOversleeps s .waiter := by
  intro h
  have hmachine : machine s .waiter = some ({ s.1 with waiter := .asleep c false }, s.2) := by
    rw [machine, recorded, bounded_enter hw hbounded]
    rfl
  rw [h _ c hmachine hw hbounded rfl x hx] at hn
  cases hn

def boundedSubscription : Call Nat := ⟨some [some 0], none, none, none, some ⟨1, 0⟩⟩

theorem boundedSubscription_bounded : Bounded boundedSubscription := ⟨⟨1, 0⟩, rfl, by decide⟩

def enterRun : List (Label Nat Unit Unit) :=
  [.call boundedSubscription, .waiter, .waiter, .waiter, .waiter]

def triggerRun : List (Label Nat Unit Unit) :=
  [.arrive () (.waited (.subscription 0)) (), .callback (), .callback (), .callback ()]

theorem late_message_wakes : Every machine NeverOversleeps (initial : History Nat Unit Unit)
    (enterRun ++ .waiter :: triggerRun ++ [.waiter]) := by
  apply bounded_wait_awake
  refine ⟨trivial, ?_⟩
  rintro _ ⟨⟩
  iterate 4
    refine ⟨fun c hw => (by cases hw), ?_⟩
    rintro _ ⟨⟩
  refine ⟨fun c _ _ => rfl, ?_⟩
  rintro _ ⟨⟩
  iterate 4
    refine ⟨trivial, ?_⟩
    rintro _ ⟨⟩
  refine ⟨fun c hw => (by cases hw), ?_⟩
  rintro _ ⟨⟩
  trivial

theorem early_message_overslept :
    ¬ Every machine NeverOversleeps (initial : History Nat Unit Unit) (enterRun ++ triggerRun ++ [.waiter]) := by
  have hstate : (run machine (initial : History Nat Unit Unit) (enterRun ++ triggerRun)).map
      (fun s => (s.1.waiter, s.1.attached (.subscription 0), s.1.callback (), s.2 (.subscription 0))) =
      some (.enter boundedSubscription, true, .idle, true) := rfl
  intro hevery
  obtain ⟨s, hs, heq⟩ := Option.map_eq_some_iff.mp hstate
  simp only [Prod.mk.injEq] at heq
  have hlast := ((every_append machine NeverOversleeps initial (enterRun ++ triggerRun) [.waiter]).mp hevery).2 s hs
  exact trigger_overslept heq.1 boundedSubscription_bounded heq.2.1 heq.2.2.2 hlast.1

end RmwZenohPico.BoundedWait
