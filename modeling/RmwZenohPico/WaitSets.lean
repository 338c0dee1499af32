import RmwZenohPico.LostWakeup

namespace RmwZenohPico.WaitSets

open Lib.LabelledMachine Wait WaitSet LostWakeup

variable {W ι M T : Type}

inductive Owner (W T : Type)
  | waiter (w : W)
  | callback (t : T)
  deriving DecidableEq

/-- Any number of wait sets, each with the thread that waits on it. attached
and guardAttached are the wait_set_data pointers of the conditions: attaching
replaces what was there, and detaching removes it. -/
structure State (W ι M T : Type) where
  queue : Source ι → List M
  requests : ι → List M
  attached : Source ι → Option W
  owner : Source ι → Option (Owner W T)
  guardTriggered : ι → Bool
  guardAttached : ι → Option W
  triggered : W → Bool
  waiter : W → Waiter ι
  callback : T → Callback ι
  returned : W → List (Return ι)

inductive Label (W ι M T : Type)
  | call (w : W) (c : Call ι)
  | waiter (w : W)
  | wakeup (w : W)
  | take (w : W) (x : Source ι)
  | arrive (t : T) (d : Dest ι) (m : M)
  | callback (t : T)
  | triggerGuard (i : ι)

def initial : State W ι M T :=
  { queue := fun _ => []
    requests := fun _ => []
    attached := fun _ => none
    owner := fun _ => none
    guardTriggered := fun _ => false
    guardAttached := fun _ => none
    triggered := fun _ => false
    waiter := fun _ => .idle
    callback := fun _ => .idle
    returned := fun _ => [] }

variable [DecidableEq W] [DecidableEq ι] [DecidableEq T]

def State.move (s : State W ι M T) (w : W) (k : Waiter ι) : State W ι M T :=
  { s with waiter := Function.update s.waiter w k }

def State.notify (s : State W ι M T) (w : W) : State W ι M T :=
  { s with
    triggered := Function.update s.triggered w true
    waiter := Function.update s.waiter w (s.waiter w).signal }

def State.leave (s : State W ι M T) (w : W) (c : Call ι) : State W ι M T :=
  { s with
    triggered := Function.update s.triggered w false
    waiter := Function.update s.waiter w (.detach c [] c.entries false) }

def State.wake (s : State W ι M T) (w : W) (c : Call ι) : State W ι M T :=
  match c.waitTimeout with
  | none => if s.triggered w then s.leave w c else s.move w (.asleep c false)
  | some _ => s.leave w c

def State.enterSection (s : State W ι M T) (w : W) (c : Call ι) : State W ι M T :=
  match c.waitTimeout with
  | none => s.wake w c
  | some t => if t.sec = 0 ∧ t.nsec = 0 then s.leave w c else s.move w (.asleep c false)

def guardConditionTrigger (s : State W ι M T) (i : ι) : State W ι M T :=
  { s with
    guardTriggered := Function.update s.guardTriggered i true
    triggered := match s.guardAttached i with
      | some w => Function.update s.triggered w true
      | none => s.triggered }

def State.append (s : State W ι M T) (m : M) : Dest ι → State W ι M T
  | .waited x => { s with queue := Function.update s.queue x (s.queue x ++ [m]) }
  | .clientRequest i => { s with requests := Function.update s.requests i (s.requests i ++ [m]) }

def attachStep (s : State W ι M T) (w : W) (c : Call ι) :
    List (Option (Entry ι)) → Option (State W ι M T)
  | [] => some (s.move w (.enter c))
  | none :: todo => some (s.move w (.attach c todo))
  | some (.guardCondition i) :: todo =>
      if s.guardTriggered i then some (s.move w (.detach c [] c.entries false))
      else some { s.move w (.attach c todo) with
        guardAttached := Function.update s.guardAttached i (some w) }
  | some (.source x) :: todo =>
      if s.owner x = none then
        some { s.move w (.checking c x todo) with owner := Function.update s.owner x (some (.waiter w)) }
      else none

def detachStep (s : State W ι M T) (w : W) (c : Call ι) (done : List (Option (Entry ι)))
    (waitResult : Bool) : List (Option (Entry ι)) → Option (State W ι M T)
  | [] => some { s.move w .idle with
      returned := Function.update s.returned w
        (s.returned w ++ [⟨c, done, if waitResult then .ok else .timeout⟩]) }
  | none :: todo => some (s.move w (.detach c (done ++ [none]) todo waitResult))
  | some (.guardCondition i) :: todo =>
      let s := { s with guardAttached := Function.update s.guardAttached i none }
      if s.guardTriggered i then
        some (s.move w (.detach c (done ++ [some (.guardCondition i)]) todo true))
      else some (s.move w (.detach c (done ++ [none]) todo waitResult))
  | some (.source x) :: todo =>
      if s.owner x = none then
        some { s.move w (.detaching c x done todo waitResult) with
          owner := Function.update s.owner x (some (.waiter w))
          attached := Function.update s.attached x none }
      else none

def waiterStep (s : State W ι M T) (w : W) : Option (State W ι M T) :=
  match s.waiter w with
  | .idle => none
  | .attach c todo => attachStep s w c todo
  | .checking c x todo =>
      if (s.queue x).isEmpty then some (s.move w (.attaching c x todo))
      else some { s.move w (.detach c [] c.entries false) with owner := Function.update s.owner x none }
  | .attaching c x todo => some { s.move w (.attach c todo) with
      attached := Function.update s.attached x (some w)
      owner := Function.update s.owner x none }
  | .enter c => some (s.enterSection w c)
  | .asleep c true => some (s.wake w c)
  | .asleep _ false => none
  | .detach c done todo waitResult => detachStep s w c done waitResult todo
  | .detaching c x done todo waitResult =>
      let s := { s with owner := Function.update s.owner x none }
      if (s.queue x).isEmpty then some (s.move w (.detach c (done ++ [none]) todo waitResult))
      else some (s.move w (.detach c (done ++ [some (.source x)]) todo true))

def callbackStep (s : State W ι M T) (t : T) : Option (State W ι M T) :=
  match s.callback t with
  | .idle => none
  | .appended d =>
      if s.owner d.source = none then
        some { s with
          owner := Function.update s.owner d.source (some (.callback t))
          callback := Function.update s.callback t (.locked d) }
      else none
  | .locked d =>
      let s := match s.attached d.source with
        | some w => s.notify w
        | none => s
      some { s with callback := Function.update s.callback t (.notified d) }
  | .notified d => some { s with
      owner := Function.update s.owner d.source none
      callback := Function.update s.callback t .idle }

/-- The steps of the model with one wait set, each at its wait set. A thread
takes messages between its calls. -/
def step : Machine (State W ι M T) (Label W ι M T)
  | s, .call w c =>
      match s.waiter w with
      | .idle => some (s.move w (.attach c c.entries))
      | _ => none
  | s, .waiter w => waiterStep s w
  | s, .wakeup w =>
      match s.waiter w with
      | .asleep c _ => some (s.wake w c)
      | _ => none
  | s, .take w x =>
      match s.waiter w with
      | .idle => some { s with queue := Function.update s.queue x (s.queue x).tail }
      | _ => none
  | s, .arrive t d m =>
      match s.callback t with
      | .idle => some { s.append m d with callback := Function.update s.callback t (.appended d) }
      | _ => none
  | s, .callback t => callbackStep s t
  | s, .triggerGuard i => some (guardConditionTrigger s i)

def isAt (w : W) (p : Option W) : Bool := p = some w

def ownerAt (w : W) : Option (Owner W T) → Option (Wait.Owner T)
  | some (.waiter v) => if v = w then some .waiter else none
  | some (.callback t) => some (.callback t)
  | none => none

/-- What of the state concerns w, as a state of the model with one wait set. -/
def project (w : W) (s : State W ι M T) : Wait.State ι M T where
  queue := s.queue
  requests := s.requests
  attached := isAt w ∘ s.attached
  owner := ownerAt w ∘ s.owner
  guardTriggered := s.guardTriggered
  guardAttached := isAt w ∘ s.guardAttached
  triggered := s.triggered w
  waiter := s.waiter w
  callback := s.callback
  returned := s.returned w

section Projection

omit [DecidableEq ι] [DecidableEq T]

@[simp] theorem isAt_self (w : W) : isAt w (some w) = true := decide_eq_true rfl

@[simp] theorem isAt_none (w : W) : isAt w none = false := decide_eq_false (by simp)

theorem isAt_other {v w : W} (h : w ≠ v) : isAt w (some v) = false := by
  simp [isAt, h.symm]

theorem isAt_iff {w : W} {p : Option W} : isAt w p = true ↔ p = some w := decide_eq_true_iff

@[simp] theorem ownerAt_none (w : W) : ownerAt w (none : Option (Owner W T)) = none := rfl

@[simp] theorem ownerAt_self (w : W) : ownerAt w (some (.waiter w : Owner W T)) = some .waiter := if_pos rfl

@[simp] theorem ownerAt_callback (w : W) (t : T) :
    ownerAt w (some (.callback t : Owner W T)) = some (.callback t) := rfl

theorem ownerAt_other {v w : W} (h : w ≠ v) : ownerAt w (some (.waiter v : Owner W T)) = none :=
  if_neg h.symm

theorem ownerAt_eq_waiter {w : W} {o : Option (Owner W T)} (h : ownerAt w o = some .waiter) :
    o = some (.waiter w) := by
  rcases o with _ | v | t
  · cases h
  · by_cases hv : v = w
    · rw [hv]
    · simp [ownerAt, hv] at h
  · cases h

end Projection

section Own

variable {s t : State W ι M T} {w : W} {c : Call ι}

omit [DecidableEq T] in
theorem attach_own {todo : List (Option (Entry ι))} (h : attachStep s w c todo = some t) :
    Wait.attachStep (project w s) c todo = some (project w t) := by
  rcases todo with _ | ⟨_ | ⟨i⟩ | x, todo⟩
  · cases h
    simp [Wait.attachStep, project, State.move]
  · cases h
    simp [Wait.attachStep, project, State.move]
  · simp only [attachStep] at h
    split at h
    · rename_i hg
      cases h
      simp [Wait.attachStep, project, State.move, hg]
    · rename_i hg
      cases h
      simp [Wait.attachStep, project, State.move, hg, Function.comp_update]
  · simp only [attachStep, Option.ite_none_right_eq_some] at h
    obtain ⟨ho, h⟩ := h
    cases h
    simp [Wait.attachStep, project, State.move, ho, Function.comp_update]

omit [DecidableEq T] in
theorem detach_own {done todo : List (Option (Entry ι))} {r : Bool} (h : detachStep s w c done r todo = some t) :
    Wait.detachStep (project w s) c done r todo = some (project w t) := by
  rcases todo with _ | ⟨_ | ⟨i⟩ | x, todo⟩
  · cases h
    simp [Wait.detachStep, project, State.move]
  · cases h
    simp [Wait.detachStep, project, State.move]
  · simp only [detachStep] at h
    split at h
    · rename_i hg
      cases h
      simp [Wait.detachStep, project, State.move, hg, Function.comp_update]
    · rename_i hg
      cases h
      simp [Wait.detachStep, project, State.move, hg, Function.comp_update]
  · simp only [detachStep, Option.ite_none_right_eq_some] at h
    obtain ⟨ho, h⟩ := h
    cases h
    simp [Wait.detachStep, project, State.move, ho, Function.comp_update]

omit [DecidableEq ι] [DecidableEq T] in
theorem wake_own : (project w s).wake c = project w (s.wake w c) := by
  unfold Wait.State.wake State.wake
  cases c.waitTimeout with
  | none =>
      by_cases ht : s.triggered w = true
      · simp [project, ht, Wait.State.leave, State.leave]
      · simp [project, ht, State.move]
  | some => simp [project, Wait.State.leave, State.leave]

omit [DecidableEq ι] [DecidableEq T] in
theorem enter_own : (project w s).enterSection c = project w (s.enterSection w c) := by
  unfold Wait.State.enterSection State.enterSection
  cases c.waitTimeout with
  | none => exact wake_own
  | some time =>
      by_cases ht : time.sec = 0 ∧ time.nsec = 0
      · simp [project, ht, Wait.State.leave, State.leave]
      · simp [project, ht, State.move]

omit [DecidableEq T] in
theorem waiter_own (h : waiterStep s w = some t) : Wait.waiterStep (project w s) = some (project w t) := by
  cases hw : s.waiter w with
  | idle => simp [waiterStep, hw] at h
  | attach c todo =>
      simp only [waiterStep, hw] at h
      rw [Wait.waiterStep, show (project w s).waiter = .attach c todo from hw]
      exact attach_own h
  | checking c x todo =>
      simp only [waiterStep, hw] at h
      rw [Wait.waiterStep, show (project w s).waiter = .checking c x todo from hw]
      by_cases hq : (s.queue x).isEmpty = true
      · rw [if_pos hq, Option.some.injEq] at h
        rw [← h]
        simp [project, hq, State.move]
      · rw [if_neg hq, Option.some.injEq] at h
        rw [← h]
        simp [project, hq, State.move, Function.comp_update]
  | attaching c x todo =>
      simp only [waiterStep, hw, Option.some.injEq] at h
      rw [Wait.waiterStep, show (project w s).waiter = .attaching c x todo from hw, ← h]
      simp [project, State.move, Function.comp_update]
  | enter c =>
      simp only [waiterStep, hw, Option.some.injEq] at h
      rw [Wait.waiterStep, show (project w s).waiter = .enter c from hw, ← h]
      exact congrArg some enter_own
  | asleep c signalled =>
      cases signalled with
      | false => simp [waiterStep, hw] at h
      | true =>
          simp only [waiterStep, hw, Option.some.injEq] at h
          rw [Wait.waiterStep, show (project w s).waiter = .asleep c true from hw, ← h]
          exact congrArg some wake_own
  | detach c done todo r =>
      simp only [waiterStep, hw] at h
      rw [Wait.waiterStep, show (project w s).waiter = .detach c done todo r from hw]
      exact detach_own h
  | detaching c x done todo r =>
      simp only [waiterStep, hw] at h
      rw [Wait.waiterStep, show (project w s).waiter = .detaching c x done todo r from hw]
      by_cases hq : (s.queue x).isEmpty = true
      · rw [if_pos hq, Option.some.injEq] at h
        rw [← h]
        simp [project, hq, State.move, Function.comp_update]
      · rw [if_neg hq, Option.some.injEq] at h
        rw [← h]
        simp [project, hq, State.move, Function.comp_update]

/-- What a step is for w: one of its own, one of the callbacks and triggers,
which every wait set may see, or none. -/
def Label.view (w : W) : Label W ι M T → Option (Wait.Label ι M T)
  | .call v c => if v = w then some (.call c) else none
  | .waiter v => if v = w then some .waiter else none
  | .wakeup v => if v = w then some .wakeup else none
  | .take v x => if v = w then some (.take x) else none
  | .arrive t d m => some (.arrive t d m)
  | .callback t => some (.callback t)
  | .triggerGuard i => some (.triggerGuard i)

omit [DecidableEq ι] [DecidableEq T] in
theorem notify_own : project w (s.notify w) = (project w s).notify := by
  simp [project, State.notify, Wait.State.notify]

omit [DecidableEq ι] [DecidableEq T] in
theorem notify_foreign {v : W} (h : w ≠ v) : project w (s.notify v) = project w s := by
  simp [project, State.notify, h]

omit [DecidableEq ι] [DecidableEq T] in
theorem notify_view (x : Source ι) : (if (project w s).attached x then (project w s).notify else project w s) =
    project w (match s.attached x with
      | some v => s.notify v
      | none => s) := by
  have hattached : (project w s).attached x = isAt w (s.attached x) := rfl
  rw [hattached]
  cases s.attached x with
  | none => simp
  | some v =>
      by_cases hv : w = v
      · subst hv
        simp [notify_own]
      · simp [isAt_other hv, notify_foreign hv]

theorem callback_view {u : T} (h : callbackStep s u = some t) :
    Wait.callbackStep (project w s) u = some (project w t) := by
  cases hc : s.callback u with
  | idle => simp [callbackStep, hc] at h
  | appended d =>
      simp only [callbackStep, hc, Option.ite_none_right_eq_some, Option.some.injEq] at h
      obtain ⟨ho, h⟩ := h
      rw [Wait.callbackStep, show (project w s).callback u = .appended d from hc, ← h]
      simp [project, ho, Function.comp_update]
  | locked d =>
      simp only [callbackStep, hc, Option.some.injEq] at h
      rw [Wait.callbackStep, show (project w s).callback u = .locked d from hc, ← h]
      dsimp only
      rw [notify_view]
      rfl
  | notified d =>
      simp only [callbackStep, hc, Option.some.injEq] at h
      rw [Wait.callbackStep, show (project w s).callback u = .notified d from hc, ← h]
      simp [project, Function.comp_update]

theorem step_view {l : Label W ι M T} {k : Wait.Label ι M T} (hk : l.view w = some k) (h : step s l = some t) :
    Wait.step (project w s) k = some (project w t) := by
  cases l with
  | call v c =>
      simp only [Label.view, Option.ite_none_right_eq_some, Option.some.injEq] at hk
      obtain ⟨rfl, rfl⟩ := hk
      cases hw : s.waiter v with
      | idle =>
          simp only [step, hw, Option.some.injEq] at h
          rw [← h, Wait.step, show (project v s).waiter = .idle from hw]
          simp [project, State.move]
      | attach | checking | attaching | enter | asleep | detach | detaching => simp [step, hw] at h
  | waiter v =>
      simp only [Label.view, Option.ite_none_right_eq_some, Option.some.injEq] at hk
      obtain ⟨rfl, rfl⟩ := hk
      exact waiter_own h
  | wakeup v =>
      simp only [Label.view, Option.ite_none_right_eq_some, Option.some.injEq] at hk
      obtain ⟨rfl, rfl⟩ := hk
      cases hw : s.waiter v with
      | asleep c b =>
          simp only [step, hw, Option.some.injEq] at h
          rw [← h, Wait.step, show (project v s).waiter = .asleep c b from hw]
          exact congrArg some wake_own
      | idle | attach | checking | attaching | enter | detach | detaching => simp [step, hw] at h
  | take v x =>
      simp only [Label.view, Option.ite_none_right_eq_some, Option.some.injEq] at hk
      obtain ⟨rfl, rfl⟩ := hk
      cases hw : s.waiter v with
      | idle =>
          simp only [step, hw, Option.some.injEq] at h
          rw [← h, Wait.step, show (project v s).waiter = .idle from hw]
          simp [project, hw]
      | attach | checking | attaching | enter | asleep | detach | detaching => simp [step, hw] at h
  | arrive u d m =>
      cases hk
      cases hc : s.callback u with
      | idle =>
          simp only [step, hc, Option.some.injEq] at h
          rw [← h, Wait.step, show (project w s).callback u = .idle from hc]
          cases d <;> rfl
      | appended | locked | notified => simp [step, hc] at h
  | callback u =>
      cases hk
      exact callback_view h
  | triggerGuard i =>
      cases hk
      cases h
      have htriggered : (s.triggered w || isAt w (s.guardAttached i)) = (match s.guardAttached i with
          | some v => Function.update s.triggered v true
          | none => s.triggered) w := by
        cases s.guardAttached i with
        | none => simp
        | some v =>
            by_cases hv : w = v
            · subst hv
              simp
            · simp [isAt_other hv, hv]
      simp [Wait.step, Wait.guardConditionTrigger, guardConditionTrigger, project, htriggered]

end Own

def entriesOf : Waiter ι → List (Option (Entry ι))
  | .idle => []
  | .attach c _ | .checking c _ _ | .attaching c _ _ | .enter c | .asleep c _ | .detach c _ _ _
  | .detaching c _ _ _ _ => c.entries

def ahead : Waiter ι → List (Option (Entry ι))
  | .attach _ todo => todo
  | .checking _ x todo | .attaching _ x todo => some (.source x) :: todo
  | .detach _ _ todo _ | .detaching _ _ _ todo _ => todo
  | .idle | .enter _ | .asleep _ _ => []

/-- What a step of the thread of v can change: what is of v, the pointers of the
elements ahead of it, and a condition mutex that is free or that it holds. -/
structure Frame (v : W) (s t : State W ι M T) : Prop where
  others : ∀ w, w ≠ v → t.waiter w = s.waiter w ∧ t.triggered w = s.triggered w ∧ t.returned w = s.returned w
  rest : t.queue = s.queue ∧ t.requests = s.requests ∧ t.guardTriggered = s.guardTriggered ∧
    t.callback = s.callback
  source : t.attached = s.attached ∨ ∃ x q, some (.source x) ∈ ahead (s.waiter v) ∧ (q = none ∨ q = some v) ∧
    t.attached = Function.update s.attached x q
  guard : t.guardAttached = s.guardAttached ∨ ∃ i q, some (.guardCondition i) ∈ ahead (s.waiter v) ∧
    (q = none ∨ q = some v) ∧ t.guardAttached = Function.update s.guardAttached i q
  owner : t.owner = s.owner ∨
    (∃ x, s.owner x = none ∧ t.owner = Function.update s.owner x (some (.waiter v))) ∨
    ∃ x, holds (s.waiter v) = some x ∧ t.owner = Function.update s.owner x none

section Frames

variable {s t : State W ι M T} {v w : W} {c : Call ι}

omit [DecidableEq T] in
theorem frame_move (k : Waiter ι) : Frame v s (s.move v k) := by
  refine ⟨?_, ⟨rfl, rfl, rfl, rfl⟩, Or.inl rfl, Or.inl rfl, Or.inl rfl⟩
  intro w hw
  exact ⟨Function.update_of_ne hw .., rfl, rfl⟩

omit [DecidableEq T] in
theorem frame_leave : Frame v s (s.leave v c) := by
  refine ⟨?_, ⟨rfl, rfl, rfl, rfl⟩, Or.inl rfl, Or.inl rfl, Or.inl rfl⟩
  intro w hw
  exact ⟨Function.update_of_ne hw .., Function.update_of_ne hw .., rfl⟩

omit [DecidableEq T] in
theorem frame_wake : Frame v s (s.wake v c) := by
  unfold State.wake
  split
  · split
    · exact frame_leave
    · exact frame_move _
  · exact frame_leave

omit [DecidableEq T] in
theorem frame_enter : Frame v s (s.enterSection v c) := by
  unfold State.enterSection
  split
  · exact frame_wake
  · split
    · exact frame_leave
    · exact frame_move _

omit [DecidableEq T] in
theorem frame_attach {todo : List (Option (Entry ι))} (hw : ahead (s.waiter v) = todo)
    (h : attachStep s v c todo = some t) : Frame v s t := by
  rcases todo with _ | ⟨_ | ⟨i⟩ | x, todo⟩
  · cases h
    exact frame_move _
  · cases h
    exact frame_move _
  · simp only [attachStep] at h
    split at h
    · cases h
      exact frame_move _
    · cases h
      have hi : some (.guardCondition i) ∈ ahead (s.waiter v) := hw ▸ List.mem_cons_self ..
      exact { frame_move (s := s) (.attach c todo) with guard := Or.inr ⟨i, some v, hi, Or.inr rfl, rfl⟩ }
  · simp only [attachStep, Option.ite_none_right_eq_some] at h
    obtain ⟨ho, h⟩ := h
    cases h
    exact { frame_move (s := s) (.checking c x todo) with owner := Or.inr (Or.inl ⟨x, ho, rfl⟩) }

omit [DecidableEq T] in
theorem frame_detach {done todo : List (Option (Entry ι))} {r : Bool} (hw : ahead (s.waiter v) = todo)
    (h : detachStep s v c done r todo = some t) : Frame v s t := by
  rcases todo with _ | ⟨_ | ⟨i⟩ | x, todo⟩
  · cases h
    refine ⟨?_, ⟨rfl, rfl, rfl, rfl⟩, Or.inl rfl, Or.inl rfl, Or.inl rfl⟩
    intro w hne
    exact ⟨Function.update_of_ne hne .., rfl, Function.update_of_ne hne ..⟩
  · cases h
    exact frame_move _
  · have hi : some (.guardCondition i) ∈ ahead (s.waiter v) := hw ▸ List.mem_cons_self ..
    simp only [detachStep] at h
    split at h
    · cases h
      exact { frame_move (s := s) (.detach c _ todo true) with guard := Or.inr ⟨i, none, hi, Or.inl rfl, rfl⟩ }
    · cases h
      exact { frame_move (s := s) (.detach c _ todo r) with guard := Or.inr ⟨i, none, hi, Or.inl rfl, rfl⟩ }
  · have hx : some (.source x) ∈ ahead (s.waiter v) := hw ▸ List.mem_cons_self ..
    simp only [detachStep, Option.ite_none_right_eq_some] at h
    obtain ⟨ho, h⟩ := h
    cases h
    exact { frame_move (s := s) (.detaching c x done todo r) with
      source := Or.inr ⟨x, none, hx, Or.inl rfl, rfl⟩
      owner := Or.inr (Or.inl ⟨x, ho, rfl⟩) }

omit [DecidableEq T] in
theorem frame_waiter (h : waiterStep s v = some t) : Frame v s t := by
  cases hw : s.waiter v with
  | idle => simp [waiterStep, hw] at h
  | attach c todo =>
      simp only [waiterStep, hw] at h
      exact frame_attach (by rw [hw]; rfl) h
  | checking c x todo =>
      have hx : holds (s.waiter v) = some x := by
        rw [hw]
        rfl
      simp only [waiterStep, hw] at h
      split at h
      · cases h
        exact frame_move _
      · cases h
        exact { frame_move (s := s) (.detach c [] c.entries false) with
          owner := Or.inr (Or.inr ⟨x, hx, rfl⟩) }
  | attaching c x todo =>
      have hx : holds (s.waiter v) = some x := by
        rw [hw]
        rfl
      have hahead : some (.source x) ∈ ahead (s.waiter v) := by
        rw [hw]
        exact List.mem_cons_self ..
      simp only [waiterStep, hw, Option.some.injEq] at h
      rw [← h]
      exact { frame_move (s := s) (.attach c todo) with
        source := Or.inr ⟨x, some v, hahead, Or.inr rfl, rfl⟩
        owner := Or.inr (Or.inr ⟨x, hx, rfl⟩) }
  | enter c =>
      simp only [waiterStep, hw, Option.some.injEq] at h
      exact h ▸ frame_enter
  | asleep c signalled =>
      cases signalled with
      | false => simp [waiterStep, hw] at h
      | true =>
          simp only [waiterStep, hw, Option.some.injEq] at h
          exact h ▸ frame_wake
  | detach c done todo r =>
      simp only [waiterStep, hw] at h
      exact frame_detach (by rw [hw]; rfl) h
  | detaching c x done todo r =>
      have hx : holds (s.waiter v) = some x := by
        rw [hw]
        rfl
      simp only [waiterStep, hw] at h
      split at h
      · cases h
        exact { frame_move (s := s) (.detach c _ todo r) with owner := Or.inr (Or.inr ⟨x, hx, rfl⟩) }
      · cases h
        exact { frame_move (s := s) (.detach c _ todo true) with owner := Or.inr (Or.inr ⟨x, hx, rfl⟩) }

theorem frame_step {l : Label W ι M T} (hl : l.view w = none) (h : step s l = some t) :
    (∃ v, w ≠ v ∧ Frame v s t) ∨ ∃ x, t = { s with queue := Function.update s.queue x (s.queue x).tail } := by
  have hother : ∀ v (k : Wait.Label ι M T), (if v = w then some k else none) = none → w ≠ v := by
    rintro v k hk rfl
    simp at hk
  cases l with
  | call v c =>
      cases hw : s.waiter v with
      | idle =>
          simp only [step, hw, Option.some.injEq] at h
          exact Or.inl ⟨v, hother v _ hl, h ▸ frame_move _⟩
      | attach | checking | attaching | enter | asleep | detach | detaching => simp [step, hw] at h
  | waiter v => exact Or.inl ⟨v, hother v _ hl, frame_waiter h⟩
  | wakeup v =>
      cases hw : s.waiter v with
      | asleep c b =>
          simp only [step, hw, Option.some.injEq] at h
          exact Or.inl ⟨v, hother v _ hl, h ▸ frame_wake⟩
      | idle | attach | checking | attaching | enter | detach | detaching => simp [step, hw] at h
  | take v x =>
      cases hw : s.waiter v with
      | idle =>
          simp only [step, hw, Option.some.injEq] at h
          exact Or.inr ⟨x, h.symm⟩
      | attach | checking | attaching | enter | asleep | detach | detaching => simp [step, hw] at h
  | arrive | callback | triggerGuard => cases hl

omit [DecidableEq ι] [DecidableEq T] in
theorem isAt_moved {q : Option W} (hne : w ≠ v) (hq : q = none ∨ q = some v) : isAt w q = false := by
  rcases hq with rfl | rfl
  · exact isAt_none w
  · exact isAt_other hne

omit [DecidableEq ι] [DecidableEq T] in
theorem pointer_foreign {κ : Type} [DecidableEq κ] {p : κ → Option W} {a : κ} {q : Option W} (ha : p a ≠ some w)
    (hq : isAt w q = false) : isAt w ∘ Function.update p a q = isAt w ∘ p := by
  rw [Function.comp_update, Function.update_eq_self_iff, hq, Function.comp_apply, eq_comm]
  exact decide_eq_false ha

omit [DecidableEq T] in
theorem owner_foreign {p : Source ι → Option (Owner W T)} {x : Source ι} {q : Option (Owner W T)}
    (hp : ownerAt w (p x) = none) (hq : ownerAt w q = none) :
    ownerAt w ∘ Function.update p x q = ownerAt w ∘ p := by
  rw [Function.comp_update, Function.update_eq_self_iff, hq, Function.comp_apply, hp]

def Clear (w : W) (s : State W ι M T) : Entry ι → Prop
  | .source x => s.attached x ≠ some w
  | .guardCondition i => s.guardAttached i ≠ some w

omit [DecidableEq T] in
theorem Frame.project_eq (hf : Frame v s t) (hne : w ≠ v)
    (hlock : ∀ x, holds (s.waiter v) = some x → s.owner x = some (.waiter v))
    (hclear : ∀ e, some e ∈ ahead (s.waiter v) → Clear w s e) : project w t = project w s := by
  obtain ⟨hwaiter, htriggered, hreturned⟩ := hf.others w hne
  obtain ⟨hqueue, hrequests, hguard, hcallback⟩ := hf.rest
  have hattached : isAt w ∘ t.attached = isAt w ∘ s.attached := by
    rcases hf.source with h | ⟨x, q, hx, hq, h⟩
    · rw [h]
    · rw [h]
      exact pointer_foreign (hclear (.source x) hx) (isAt_moved hne hq)
  have hguardAttached : isAt w ∘ t.guardAttached = isAt w ∘ s.guardAttached := by
    rcases hf.guard with h | ⟨i, q, hi, hq, h⟩
    · rw [h]
    · rw [h]
      exact pointer_foreign (hclear (.guardCondition i) hi) (isAt_moved hne hq)
  have howner : ownerAt w ∘ t.owner = ownerAt w ∘ s.owner := by
    rcases hf.owner with h | ⟨x, hfree, h⟩ | ⟨x, hx, h⟩
    · rw [h]
    · rw [h]
      refine owner_foreign ?_ (ownerAt_other hne)
      rw [hfree]
      rfl
    · rw [h]
      refine owner_foreign ?_ (ownerAt_none w)
      rw [hlock x hx]
      exact ownerAt_other hne
  simp only [project, hwaiter, htriggered, hreturned, hqueue, hrequests, hguard, hcallback, hattached,
    hguardAttached, howner]

end Frames

end RmwZenohPico.WaitSets
