import RmwZenohPico.LostWakeup

namespace RmwZenohPico.GuardCondition

open Lib.LabelledMachine Wait WaitSet LostWakeup

variable {ι M T U : Type}

/-- Where a call of rmw_trigger_guard_condition stands: before the lock of the
condition mutex, holding it, and holding it after the look at the wait set.
made counts how often the condition had been attached when the call came. -/
inductive Caller (ι : Type)
  | idle
  | calling (i : ι) (made : Nat)
  | triggered (i : ι) (made : Nat)
  | flagged (i : ι) (made : Nat)

/-- The wait set together with the threads that trigger its guard conditions.
owner says which of them holds a condition mutex; the thread in rmw_wait holds
it within one step only. attaches and completed are kept for the statements. -/
structure State (ι M T U : Type) where
  wait : Wait.State ι M T
  owner : ι → Option U
  caller : U → Caller ι
  attaches : ι → Nat
  completed : List (ι × Nat)

inductive Label (ι M T U : Type)
  | wait (l : Wait.Label ι M T)
  | trigger (u : U) (i : ι)
  | caller (u : U)

def initial : State ι M T U :=
  { wait := Wait.initial
    owner := fun _ => none
    caller := fun _ => .idle
    attaches := fun _ => 0
    completed := [] }

def atGuard : Waiter ι → Option ι
  | .attach _ (some (.guardCondition i) :: _) => some i
  | .detach _ _ (some (.guardCondition i) :: _) _ => some i
  | _ => none

def State.blocked (s : State ι M T U) : Wait.Label ι M T → Bool
  | .triggerGuard _ => true
  | .waiter => (atGuard s.wait.waiter).any fun i => (s.owner i).isSome
  | _ => false

def countAttaches (old new : Wait.State ι M T) (n : ι → Nat) (i : ι) : Nat :=
  if new.guardAttached i && !old.guardAttached i then n i + 1 else n i

def State.follow (s : State ι M T U) (w : Wait.State ι M T) : State ι M T U :=
  { s with wait := w, attaches := countAttaches s.wait w s.attaches }

variable [DecidableEq ι] [DecidableEq T] [DecidableEq U]

/-- guard_condition_trigger. The flag of the wait set is set under its mutex,
and its condition variable is not signalled. -/
def callerStep (s : State ι M T U) (u : U) : Option (State ι M T U) :=
  match s.caller u with
  | .idle => none
  | .calling i made =>
      if (s.owner i).isNone then
        some { s with
          wait := { s.wait with guardTriggered := Function.update s.wait.guardTriggered i true }
          owner := Function.update s.owner i (some u)
          caller := Function.update s.caller u (.triggered i made) }
      else none
  | .triggered i made => some { s with
      wait := { s.wait with triggered := s.wait.triggered || s.wait.guardAttached i }
      caller := Function.update s.caller u (.flagged i made) }
  | .flagged i made => some { s with
      owner := Function.update s.owner i none
      caller := Function.update s.caller u .idle
      completed := (i, made) :: s.completed }

def step : Machine (State ι M T U) (Label ι M T U)
  | s, .wait l => if s.blocked l then none else (Wait.step s.wait l).map s.follow
  | s, .trigger u i =>
      match s.caller u with
      | .idle => some { s with caller := Function.update s.caller u (.calling i (s.attaches i)) }
      | _ => none
  | s, .caller u => callerStep s u

inductive Step (s : State ι M T U) : Label ι M T U → State ι M T U → Prop
  | wait (l w) (hw : Wait.Step s.wait l w) : Step s (.wait l) (s.follow w)
  | trigger (u i) (hc : s.caller u = .idle) :
      Step s (.trigger u i)
        { s with caller := Function.update s.caller u (.calling i (s.attaches i)) }
  | lock (u i made) (hc : s.caller u = .calling i made) (ho : s.owner i = none) :
      Step s (.caller u) { s with
        wait := { s.wait with guardTriggered := Function.update s.wait.guardTriggered i true }
        owner := Function.update s.owner i (some u)
        caller := Function.update s.caller u (.triggered i made) }
  | flag (u i made) (hc : s.caller u = .triggered i made) :
      Step s (.caller u) { s with
        wait := { s.wait with triggered := s.wait.triggered || s.wait.guardAttached i }
        caller := Function.update s.caller u (.flagged i made) }
  | complete (u i made) (hc : s.caller u = .flagged i made) :
      Step s (.caller u) { s with
        owner := Function.update s.owner i none
        caller := Function.update s.caller u .idle
        completed := (i, made) :: s.completed }

theorem step_cases {s t : State ι M T U} {l : Label ι M T U} (h : step s l = some t) : Step s l t := by
  cases l with
  | wait l =>
      simp only [step] at h
      split at h
      · cases h
      · obtain ⟨w, hw, rfl⟩ := Option.map_eq_some_iff.mp h
        exact Step.wait l w (Wait.step_cases hw)
  | trigger u i =>
      simp only [step] at h
      split at h
      · cases h
        exact Step.trigger u i ‹_›
      · cases h
  | caller u =>
      simp only [step, callerStep] at h
      cases hc : s.caller u with
      | idle => simp [hc] at h
      | calling i made =>
          cases ho : s.owner i with
          | none =>
              simp only [hc, ho, Option.isNone_none, if_true, Option.some.injEq] at h
              subst h
              exact Step.lock u i made hc ho
          | some v => simp [hc, ho] at h
      | triggered i made =>
          simp only [hc, Option.some.injEq] at h
          subst h
          exact Step.flag u i made hc
      | flagged i made =>
          simp only [hc, Option.some.injEq] at h
          subst h
          exact Step.complete u i made hc

theorem trigger_alone {s : State ι M T U} {u : U} {i : ι} (hc : s.caller u = .idle) (ho : s.owner i = none) :
    (run step s [.trigger u i, .caller u, .caller u, .caller u]).map State.wait =
      some (guardConditionTrigger s.wait i) := by
  simp [run, step, callerStep, hc, ho, guardConditionTrigger]

/-- A completed call that came after the guard condition was attached leaves
no unbounded wait on it asleep without a signal. -/
def Roused (s : State ι M T U) : Prop :=
  ∀ c i, s.wait.waiter = .asleep c false → c.waitTimeout = none →
    some (.guardCondition i) ∈ c.entries → (i, s.attaches i) ∉ s.completed

/-- No call sets the flag of the wait set over the head of an unbounded wait
that has gone to sleep after the guard condition was attached. -/
def FlagSeen (s : State ι M T U) : Label ι M T U → Prop
  | .caller u => ∀ i, s.caller u = .triggered i (s.attaches i) → s.wait.guardAttached i = true →
      ∀ c, s.wait.waiter = .asleep c false → c.waitTimeout ≠ none
  | _ => True

def Flagged (s : State ι M T U) (i : ι) : Prop :=
  (i, s.attaches i) ∈ s.completed ∨ ∃ u, s.caller u = .flagged i (s.attaches i)

def Covered (s : Wait.State ι M T) : Prop :=
  ∀ c i, waiting s.waiter = some c → some (.guardCondition i) ∈ c.entries →
    some (.guardCondition i) ∈ unvisited s.waiter ∨ s.guardAttached i = true

def Signalled (s : Wait.State ι M T) : Prop := ∀ c, s.waiter = .asleep c true → s.triggered = true

structure Answered (s : State ι M T U) : Prop where
  swept : Swept s.wait
  covered : Covered s.wait
  signalled : Signalled s.wait
  made : ∀ u i made, s.caller u = .calling i made ∨ s.caller u = .triggered i made ∨
    s.caller u = .flagged i made → made ≤ s.attaches i
  completed : ∀ i made, (i, made) ∈ s.completed → made ≤ s.attaches i
  flagged : ∀ c i, waiting s.wait.waiter = some c → c.waitTimeout = none →
    s.wait.guardAttached i = true → Flagged s i → Woken s.wait

section WaitSteps

variable {s t : Wait.State ι M T} {l : Wait.Label ι M T} {c : Call ι}

omit [DecidableEq ι] [DecidableEq T] in
theorem Covered.outside (hw : waiting t.waiter = none) : Covered t := by
  intro c i hc
  rw [hw] at hc
  cases hc

omit [DecidableEq ι] [DecidableEq T] in
theorem Covered.advance (hs : Covered s) (hc : waiting s.waiter = some c) (hc' : waiting t.waiter = some c)
    (hg : ∀ i, s.guardAttached i = true → t.guardAttached i = true)
    (hu : ∀ i, some (.guardCondition i) ∈ unvisited s.waiter →
      some (.guardCondition i) ∈ unvisited t.waiter ∨ t.guardAttached i = true) : Covered t := by
  intro c' i hwait hi
  rw [hc'] at hwait
  cases hwait
  rcases hs c i hc hi with h | h
  · exact hu i h
  · exact Or.inr (hg i h)

omit [DecidableEq ι] [DecidableEq T] in
theorem Covered.keep (hs : Covered s) (hw : waiting t.waiter = waiting s.waiter)
    (hu : unvisited t.waiter = unvisited s.waiter) (hg : t.guardAttached = s.guardAttached) : Covered t := by
  intro c i hc hi
  rw [hw] at hc
  rw [hu, hg]
  exact hs c i hc hi

theorem covered_step (h : Wait.Step s l t) (hs : Covered s) : Covered t := by
  cases h with
  | call c hw =>
      intro c' i hc hi
      cases hc
      exact Or.inl hi
  | guardAttach c todo i hw =>
      refine hs.advance (c := c) (by rw [hw]; rfl) rfl ?_ ?_
      · intro j hj
        by_cases hji : j = i
        · simp [hji]
        · simpa [hji] using hj
      · intro j hj
        by_cases hji : j = i
        · right
          simp [hji]
        · left
          simpa [hw, unvisited, hji] using hj
  | attachNull c todo hw =>
      refine hs.advance (c := c) (by rw [hw]; rfl) rfl (fun _ h => h) ?_
      intro i hi
      left
      simpa [hw, unvisited] using hi
  | attach c x todo hw =>
      refine hs.advance (c := c) (by rw [hw]; rfl) rfl (fun _ h => h) ?_
      intro i hi
      left
      simpa [hw, unvisited] using hi
  | attachDone c hw => exact hs.keep (by rw [hw]; rfl) (by rw [hw]; rfl) rfl
  | lockToCheck c todo x hw ho => exact hs.keep (by rw [hw]; rfl) (by rw [hw]; rfl) rfl
  | checkEmpty c x todo hw hq => exact hs.keep (by rw [hw]; rfl) (by rw [hw]; rfl) rfl
  | sleep l c hw ht =>
      rcases hw with ⟨-, hw⟩ | ⟨b, hw⟩
      · exact hs.keep (by rw [hw]; rfl) (by rw [hw]; rfl) rfl
      · exact hs.keep (by rw [hw]; rfl) (by rw [hw]; rfl) rfl
  | arrive u d m hc =>
      obtain ⟨-, -, hw, -, hg⟩ := append_fields s m d
      exact hs.keep (congrArg waiting hw) (congrArg unvisited hw) hg
  | notify u d hc ha => exact hs.keep (waiting_signal _) (unvisited_signal _) rfl
  | take | lock | passBy | unlock | triggerGuard => exact hs.keep rfl rfl rfl
  | guardReady | checkReady | leave | returned | detachNull | guardKept | guardNulled | lockToDetach
  | nulled | kept => exact Covered.outside rfl

omit [DecidableEq ι] [DecidableEq T] in
theorem Signalled.awake (hw : ∀ c b, t.waiter ≠ .asleep c b) : Signalled t :=
  fun c h => absurd h (hw c true)

theorem signalled_step (h : Wait.Step s l t) (hs : Signalled s) : Signalled t := by
  cases h with
  | sleep l c hw ht =>
      intro c' hc
      cases hc
  | arrive u d m hc =>
      intro c hw
      cases d <;> exact hs c hw
  | notify u d hc ha =>
      intro c hw
      rfl
  | triggerGuard i =>
      intro c hw
      simp [guardConditionTrigger, hs c hw]
  | lock | passBy | unlock => exact hs
  | take x hw =>
      intro c hc
      exact hs c hc
  | call | attachDone | attachNull | guardReady | guardAttach | lockToCheck | checkEmpty | checkReady
  | attach | leave | returned | detachNull | guardKept | guardNulled | lockToDetach | nulled | kept =>
      exact Signalled.awake (by simp [State.leave])

omit [DecidableEq ι] [DecidableEq T] in
theorem woken_mono (hw : t.waiter = s.waiter) (ht : s.triggered = true → t.triggered = true)
    (hs : Woken s) : Woken t := by
  unfold Woken at hs ⊢
  rw [hw]
  cases hsw : s.waiter with
  | asleep c b =>
      rw [hsw] at hs
      exact hs
  | idle | attach | checking | attaching | enter | detach | detaching =>
      rw [hsw] at hs
      exact ht hs

theorem woken_step (h : Wait.Step s l t) (hs : Signalled s) (hc : c.waitTimeout = none)
    (hbusy : s.waiter ≠ .idle) (hwait : waiting t.waiter = some c) :
    waiting s.waiter = some c ∧ (Woken s → Woken t) := by
  have hawake : ∀ c', waiting s.waiter = some c' → waiting t.waiter = some c' →
      (∀ c b, s.waiter ≠ .asleep c b) → (∀ c b, t.waiter ≠ .asleep c b) → t.triggered = s.triggered →
      waiting s.waiter = some c ∧ (Woken s → Woken t) := by
    intro c' hc₁ hc₂ hs₁ hs₂ ht
    rw [hc₂] at hwait
    rw [hc₁, woken_awake hs₁, woken_awake hs₂, ht]
    exact ⟨hwait, id⟩
  cases h with
  | call c' hw => exact absurd hw hbusy
  | take x hw => exact absurd hw hbusy
  | attachDone c' hw => exact hawake c' (by rw [hw]; rfl) rfl (by simp [hw]) (by simp) rfl
  | attachNull c' todo hw => exact hawake c' (by rw [hw]; rfl) rfl (by simp [hw]) (by simp) rfl
  | guardAttach c' todo i hw => exact hawake c' (by rw [hw]; rfl) rfl (by simp [hw]) (by simp) rfl
  | lockToCheck c' todo x hw ho =>
      exact hawake c' (by rw [hw]; rfl) rfl (by simp [hw]) (by simp) rfl
  | checkEmpty c' x todo hw hq =>
      exact hawake c' (by rw [hw]; rfl) rfl (by simp [hw]) (by simp) rfl
  | attach c' x todo hw => exact hawake c' (by rw [hw]; rfl) rfl (by simp [hw]) (by simp) rfl
  | sleep l c' hw ht =>
      cases hwait
      rcases hw with ⟨-, hw⟩ | ⟨b, hw⟩
      · refine ⟨by rw [hw]; rfl, ?_⟩
        intro hwoken
        rw [Woken, hw] at hwoken
        rw [ht hc] at hwoken
        cases hwoken
      · refine ⟨by rw [hw]; rfl, ?_⟩
        intro hwoken
        rw [Woken, hw] at hwoken
        subst hwoken
        have hset := hs c hw
        rw [ht hc] at hset
        cases hset
  | arrive u d m hcb =>
      obtain ⟨-, -, hw, -, -⟩ := append_fields s m d
      refine ⟨hw ▸ hwait, woken_mono hw ?_⟩
      cases d <;> exact id
  | notify u d hcb ha =>
      refine ⟨(waiting_signal s.waiter).symm.trans hwait, ?_⟩
      intro _
      cases hsw : s.waiter <;> simp [Woken, State.notify, Waiter.signal, hsw]
  | triggerGuard i => exact ⟨hwait, woken_mono rfl fun h => by simp [guardConditionTrigger, h]⟩
  | lock | passBy | unlock => exact ⟨hwait, woken_mono rfl id⟩
  | guardReady | checkReady | leave | returned | detachNull | guardKept | guardNulled | lockToDetach
  | nulled | kept => cases hwait

end WaitSteps

section CallerSteps

variable {s t : State ι M T U} {l : Label ι M T U}

omit [DecidableEq ι] [DecidableEq T] [DecidableEq U] in
theorem attaches_le_follow (s : State ι M T U) (w : Wait.State ι M T) (i : ι) :
    s.attaches i ≤ (s.follow w).attaches i := by
  simp only [State.follow, countAttaches]
  split <;> omega

omit [DecidableEq ι] [DecidableEq T] [DecidableEq U] in
theorem follow_attached {w : Wait.State ι M T} {i : ι} (hs : Answered s) (hi : w.guardAttached i = true)
    (hf : Flagged (s.follow w) i) : s.wait.guardAttached i = true ∧ Flagged s i := by
  cases hold : s.wait.guardAttached i with
  | true =>
      have hcount : (s.follow w).attaches i = s.attaches i := by
        simp [State.follow, countAttaches, hold]
      refine ⟨rfl, ?_⟩
      rw [Flagged, hcount] at hf
      exact hf
  | false =>
      have hcount : (s.follow w).attaches i = s.attaches i + 1 := by
        simp [State.follow, countAttaches, hold, hi]
      rw [Flagged, hcount] at hf
      rcases hf with hf | ⟨u, hu⟩
      · exact absurd (hs.completed i _ hf) (by omega)
      · exact absurd (hs.made u i _ (Or.inr (Or.inr hu))) (by omega)

omit [DecidableEq U] in
theorem answered_follow {k : Wait.Label ι M T} {w : Wait.State ι M T} (h : Wait.Step s.wait k w)
    (hs : Answered s) : Answered (s.follow w) where
  swept := swept_step h hs.swept
  covered := covered_step h hs.covered
  signalled := signalled_step h hs.signalled
  made u i made hu := (hs.made u i made hu).trans (attaches_le_follow s w i)
  completed i made hi := (hs.completed i made hi).trans (attaches_le_follow s w i)
  flagged c i hwait hc hi hf := by
    obtain ⟨hattached, hflagged⟩ := follow_attached hs hi hf
    have hbusy : s.wait.waiter ≠ .idle := by
      intro hidle
      have hreach := hs.swept.guardConfined i hattached
      rw [hidle] at hreach
      cases hreach
    obtain ⟨hold, hwoken⟩ := woken_step h hs.signalled hc hbusy hwait
    exact hwoken (hs.flagged c i hold hc hattached hflagged)

omit [DecidableEq ι] [DecidableEq T] in
theorem Answered.move (hs : Answered s) {u : U} {k : Caller ι} {n : List (ι × Nat)}
    (hcaller : t.caller = Function.update s.caller u k) (hat : t.attaches = s.attaches)
    (hn : t.completed = n ++ s.completed) (hw : t.wait.waiter = s.wait.waiter)
    (ha : t.wait.attached = s.wait.attached) (hg : t.wait.guardAttached = s.wait.guardAttached)
    (htr : s.wait.triggered = true → t.wait.triggered = true)
    (hk : ∀ i made, k = .calling i made ∨ k = .triggered i made ∨ k = .flagged i made →
      made ≤ s.attaches i)
    (hnew : ∀ i made, (i, made) ∈ n → made ≤ s.attaches i)
    (hf : ∀ c i, waiting s.wait.waiter = some c → c.waitTimeout = none → s.wait.guardAttached i = true →
      k = .flagged i (s.attaches i) ∨ (i, s.attaches i) ∈ n → Woken t.wait) : Answered t where
  swept := hs.swept.keep ha hg (congrArg reach hw) (congrArg waiting hw) (congrArg unvisited hw)
  covered := hs.covered.keep (congrArg waiting hw) (congrArg unvisited hw) hg
  signalled c hc := htr (hs.signalled c (hw ▸ hc))
  made v i made hv := by
    rw [hat]
    rw [hcaller] at hv
    by_cases hvu : v = u
    · subst hvu
      rw [Function.update_self] at hv
      exact hk i made hv
    · rw [Function.update_of_ne hvu] at hv
      exact hs.made v i made hv
  completed i made hi := by
    rw [hat]
    rw [hn] at hi
    rcases List.mem_append.mp hi with hi | hi
    · exact hnew i made hi
    · exact hs.completed i made hi
  flagged c i hwait hc hi hflagged := by
    rw [hw] at hwait
    rw [hg] at hi
    rw [Flagged, hat, hn, hcaller] at hflagged
    rcases hflagged with hdone | ⟨v, hv⟩
    · rcases List.mem_append.mp hdone with hdone | hdone
      · exact hf c i hwait hc hi (Or.inr hdone)
      · exact woken_mono hw htr (hs.flagged c i hwait hc hi (Or.inl hdone))
    · by_cases hvu : v = u
      · subst hvu
        rw [Function.update_self] at hv
        exact hf c i hwait hc hi (Or.inl hv)
      · rw [Function.update_of_ne hvu] at hv
        exact woken_mono hw htr (hs.flagged c i hwait hc hi (Or.inr ⟨v, hv⟩))

theorem answered_step (h : step s l = some t) (hseen : FlagSeen s l) (hs : Answered s) : Answered t := by
  cases step_cases h with
  | wait k w hw => exact answered_follow hw hs
  | trigger u i hc =>
      refine hs.move (u := u) (k := .calling i (s.attaches i)) (n := []) rfl rfl rfl rfl rfl rfl id ?_ ?_ ?_
      · rintro j made (hk | hk | hk) <;> cases hk
        exact le_rfl
      · intro j made hn
        cases hn
      · rintro c j - - - (hk | hn)
        · cases hk
        · cases hn
  | lock u i made hc ho =>
      refine hs.move (u := u) (k := .triggered i made) (n := []) rfl rfl rfl rfl rfl rfl id ?_ ?_ ?_
      · rintro j made' (hk | hk | hk) <;> cases hk
        exact hs.made u i made (Or.inl hc)
      · intro j made' hn
        cases hn
      · rintro c j - - - (hk | hn)
        · cases hk
        · cases hn
  | flag u i made hc =>
      refine hs.move (u := u) (k := .flagged i made) (n := []) rfl rfl rfl rfl rfl rfl ?_ ?_ ?_ ?_
      · intro htr
        simp [htr]
      · rintro j made' (hk | hk | hk) <;> cases hk
        exact hs.made u i made (Or.inr (Or.inl hc))
      · intro j made' hn
        cases hn
      · rintro c j hwait htime hj (hk | hn)
        · cases hk
          cases hsw : s.wait.waiter with
          | asleep c' b =>
              rw [hsw] at hwait
              cases hwait
              cases b with
              | true => simp [Woken, hsw]
              | false => exact absurd htime (hseen i hc hj c hsw)
          | idle | attach | checking | attaching | enter | detach | detaching => simp [Woken, hsw, hj]
        · cases hn
  | complete u i made hc =>
      refine hs.move (u := u) (k := .idle) (n := [(i, made)]) rfl rfl rfl rfl rfl rfl id ?_ ?_ ?_
      · rintro j made' (hk | hk | hk) <;> cases hk
      · intro j made' hn
        cases List.mem_singleton.mp hn
        exact hs.made u i made (Or.inr (Or.inr hc))
      · rintro c j hwait htime hj (hk | hn)
        · cases hk
        · cases List.mem_singleton.mp hn
          exact woken_mono rfl id (hs.flagged c i hwait htime hj (Or.inr ⟨u, hc⟩))

end CallerSteps

omit [DecidableEq ι] [DecidableEq T] [DecidableEq U] in
theorem initial_answered : Answered (initial : State ι M T U) where
  swept := initial_kept.swept
  covered := Covered.outside rfl
  signalled := Signalled.awake (by simp [initial, Wait.initial])
  made := by
    rintro u i made (h | h | h) <;> cases h
  completed := by
    intro i made h
    cases h
  flagged := by
    intro c i h
    cases h

omit [DecidableEq ι] [DecidableEq T] [DecidableEq U] in
theorem Answered.roused {s : State ι M T U} (hs : Answered s) : Roused s := by
  intro c i hw hc hi hdone
  have hwait : waiting s.wait.waiter = some c := by rw [hw]; rfl
  have hattached : s.wait.guardAttached i = true := by
    rcases hs.covered c i hwait hi with h | h
    · rw [hw] at h
      cases h
    · exact h
  have hwoken := hs.flagged c i hwait hc hattached (Or.inl hdone)
  rw [Woken, hw] at hwoken
  cases hwoken

/-- As long as the flag is set only where the waiting thread looks at it, every
trigger rouses it. -/
theorem triggers_rouse {ls : List (Label ι M T U)} (hseen : Every step FlagSeen initial ls) :
    Always step Roused (initial : State ι M T U) ls := by
  have hanswered : Always step Answered (initial : State ι M T U) ls :=
    always_of_every (fun s l t hs hok h => answered_step h hok hs) initial_answered hseen
  exact always_mono (fun _ h => h.roused) hanswered

/-- Once a call has set the flag over the head of a wait, and nothing happens
before it returns, the wait is left asleep. -/
theorem unseen_flag_strands {s : State ι M T U} {u : U} {i : ι} {c : Call ι}
    (hc : s.caller u = .triggered i (s.attaches i)) (hw : s.wait.waiter = .asleep c false)
    (htime : c.waitTimeout = none) (hi : some (.guardCondition i) ∈ c.entries) :
    ∃ t, run step s [.caller u, .caller u] = some t ∧ ¬Roused t := by
  refine ⟨_, by simp [run, step, callerStep, hc]; rfl, ?_⟩
  intro hroused
  exact hroused c i hw htime hi List.mem_cons_self

def oneGuard : Call Nat := ⟨none, some [some 0], none, none, none⟩

def earlyRun : List (Label Nat Unit Unit Unit) :=
  [.wait (.call oneGuard), .wait .waiter, .wait .waiter, .trigger () 0, .caller (), .caller (), .caller (),
    .wait .waiter]

theorem early_trigger_rouses : Always step Roused initial earlyRun := by
  apply triggers_rouse
  iterate 4
    refine ⟨trivial, ?_⟩
    rintro _ ⟨⟩
  iterate 3
    refine ⟨fun i _ _ c hw => (by cases hw), ?_⟩
    rintro _ ⟨⟩
  refine ⟨trivial, ?_⟩
  rintro _ ⟨⟩
  trivial

def lateRun : List (Label Nat Unit Unit Unit) :=
  [.wait (.call oneGuard), .wait .waiter, .wait .waiter, .wait .waiter, .trigger () 0, .caller (),
    .caller (), .caller ()]

theorem late_trigger_strands : ¬Always step Roused initial lateRun := by
  have hrun : (run step initial lateRun).map (fun s => (s.attaches 0, s.completed)) =
      some (1, [(0, 1)]) := rfl
  have hw : (run step initial lateRun).map (fun s => s.wait.waiter) = some (.asleep oneGuard false) := rfl
  intro halways
  obtain ⟨s, hs, hdone⟩ := Option.map_eq_some_iff.mp hrun
  rw [hs, Option.map_some, Option.some.injEq] at hw
  rw [Prod.mk.injEq] at hdone
  have hroused := halways lateRun s (List.prefix_refl _) hs oneGuard 0 hw rfl (by decide)
  rw [hdone.1, hdone.2] at hroused
  exact hroused List.mem_cons_self

end RmwZenohPico.GuardCondition
