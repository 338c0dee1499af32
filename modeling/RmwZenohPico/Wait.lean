import RmwZenohPico.Lib.LabelledMachine
import RmwZenohPico.RmwTypes
import Mathlib.Logic.Function.Basic

namespace RmwZenohPico.Wait

open Lib.LabelledMachine RmwTypes

variable {ι M T : Type}

inductive Source (ι : Type)
  | subscription (i : ι)
  | service (i : ι)
  | client (i : ι)
  deriving DecidableEq

inductive Entry (ι : Type)
  | guardCondition (i : ι)
  | source (x : Source ι)
  deriving DecidableEq

structure RmwTime where
  sec : Nat
  nsec : Nat
  deriving DecidableEq

/-- The arguments of rmw_wait. An array pointer may be NULL, and so may each
of its elements. No event can be initialised, so there is no events array. -/
structure Call (ι : Type) where
  subscriptions : Option (List (Option ι))
  guardConditions : Option (List (Option ι))
  services : Option (List (Option ι))
  clients : Option (List (Option ι))
  waitTimeout : Option RmwTime

def Call.entries (c : Call ι) : List (Option (Entry ι)) :=
  (c.guardConditions.getD []).map (Option.map .guardCondition) ++
  (c.subscriptions.getD []).map (Option.map fun i => .source (.subscription i)) ++
  (c.services.getD []).map (Option.map fun i => .source (.service i)) ++
  (c.clients.getD []).map (Option.map fun i => .source (.client i))

inductive Waiter (ι : Type)
  | idle
  | attach (c : Call ι) (todo : List (Option (Entry ι)))
  | checking (c : Call ι) (x : Source ι) (todo : List (Option (Entry ι)))
  | attaching (c : Call ι) (x : Source ι) (todo : List (Option (Entry ι)))
  | enter (c : Call ι)
  | asleep (c : Call ι) (signalled : Bool)
  | detach (c : Call ι) (done todo : List (Option (Entry ι))) (waitResult : Bool)
  | detaching (c : Call ι) (x : Source ι) (done todo : List (Option (Entry ι))) (waitResult : Bool)

/-- The queue that a receiving callback appends to. The queryable of a client
fills a request_queue, and triggers the condition of the client. -/
inductive Dest (ι : Type)
  | waited (x : Source ι)
  | clientRequest (i : ι)
  deriving DecidableEq

def Dest.source : Dest ι → Source ι
  | .waited x => x
  | .clientRequest i => .client i

inductive Callback (ι : Type)
  | idle
  | appended (d : Dest ι)
  | locked (d : Dest ι)
  | notified (d : Dest ι)

inductive Owner (T : Type)
  | waiter
  | callback (t : T)
  deriving DecidableEq

structure Return (ι : Type) where
  call : Call ι
  entries : List (Option (Entry ι))
  ret : RmwRet

/-- One wait set with what can be attached to it. attached and guardAttached
say that wait_set_data is not NULL, owner who holds a condition mutex. -/
structure State (ι M T : Type) where
  queue : Source ι → List M
  requests : ι → List M
  attached : Source ι → Bool
  owner : Source ι → Option (Owner T)
  guardTriggered : ι → Bool
  guardAttached : ι → Bool
  triggered : Bool
  waiter : Waiter ι
  callback : T → Callback ι
  returned : List (Return ι)

inductive Label (ι M T : Type)
  | call (c : Call ι)
  | waiter
  | wakeup
  | take (x : Source ι)
  | arrive (t : T) (d : Dest ι) (m : M)
  | callback (t : T)
  | triggerGuard (i : ι)

def initial : State ι M T :=
  { queue := fun _ => []
    requests := fun _ => []
    attached := fun _ => false
    owner := fun _ => none
    guardTriggered := fun _ => false
    guardAttached := fun _ => false
    triggered := false
    waiter := .idle
    callback := fun _ => .idle
    returned := [] }

def Waiter.signal : Waiter ι → Waiter ι
  | .asleep c _ => .asleep c true
  | w => w

def State.notify (s : State ι M T) : State ι M T :=
  { s with triggered := true, waiter := s.waiter.signal }

def State.leave (s : State ι M T) (c : Call ι) : State ι M T :=
  { s with triggered := false, waiter := .detach c [] c.entries false }

/-- Awake in the wait section. Without a timeout the flag decides, otherwise
nothing looks at it. -/
def State.wake (s : State ι M T) (c : Call ι) : State ι M T :=
  match c.waitTimeout with
  | none => if s.triggered then s.leave c else { s with waiter := .asleep c false }
  | some _ => s.leave c

def State.enterSection (s : State ι M T) (c : Call ι) : State ι M T :=
  match c.waitTimeout with
  | none => s.wake c
  | some t => if t.sec = 0 ∧ t.nsec = 0 then s.leave c else { s with waiter := .asleep c false }

variable [DecidableEq ι] [DecidableEq T]

/-- A guard condition is triggered without a signal to the wait set. -/
def guardConditionTrigger (s : State ι M T) (i : ι) : State ι M T :=
  { s with
    guardTriggered := Function.update s.guardTriggered i true
    triggered := s.triggered || s.guardAttached i }

def State.append (s : State ι M T) (m : M) : Dest ι → State ι M T
  | .waited x => { s with queue := Function.update s.queue x (s.queue x ++ [m]) }
  | .clientRequest i => { s with requests := Function.update s.requests i (s.requests i ++ [m]) }

def attachStep (s : State ι M T) (c : Call ι) : List (Option (Entry ι)) → Option (State ι M T)
  | [] => some { s with waiter := .enter c }
  | none :: todo => some { s with waiter := .attach c todo }
  | some (.guardCondition i) :: todo =>
      if s.guardTriggered i then some { s with waiter := .detach c [] c.entries false }
      else some { s with guardAttached := Function.update s.guardAttached i true, waiter := .attach c todo }
  | some (.source x) :: todo =>
      if s.owner x = none then
        some { s with owner := Function.update s.owner x (some .waiter), waiter := .checking c x todo }
      else none

def detachStep (s : State ι M T) (c : Call ι) (done : List (Option (Entry ι))) (waitResult : Bool) :
    List (Option (Entry ι)) → Option (State ι M T)
  | [] => some { s with
      waiter := .idle
      returned := s.returned ++ [⟨c, done, if waitResult then .ok else .timeout⟩] }
  | none :: todo => some { s with waiter := .detach c (done ++ [none]) todo waitResult }
  | some (.guardCondition i) :: todo =>
      let s := { s with guardAttached := Function.update s.guardAttached i false }
      if s.guardTriggered i then
        some { s with waiter := .detach c (done ++ [some (.guardCondition i)]) todo true }
      else some { s with waiter := .detach c (done ++ [none]) todo waitResult }
  | some (.source x) :: todo =>
      if s.owner x = none then
        some { s with
          owner := Function.update s.owner x (some .waiter)
          attached := Function.update s.attached x false
          waiter := .detaching c x done todo waitResult }
      else none

def waiterStep (s : State ι M T) : Option (State ι M T) :=
  match s.waiter with
  | .idle => none
  | .attach c todo => attachStep s c todo
  | .checking c x todo =>
      if (s.queue x).isEmpty then some { s with waiter := .attaching c x todo }
      else
        -- a ready source is not attached, and nothing behind it is looked at
        some { s with
          owner := Function.update s.owner x none
          waiter := .detach c [] c.entries false }
  | .attaching c x todo => some { s with
      attached := Function.update s.attached x true
      owner := Function.update s.owner x none
      waiter := .attach c todo }
  | .enter c => some (s.enterSection c)
  | .asleep c true => some (s.wake c)
  | .asleep _ false => none
  | .detach c done todo waitResult => detachStep s c done waitResult todo
  | .detaching c x done todo waitResult =>
      let s := { s with owner := Function.update s.owner x none }
      if (s.queue x).isEmpty then some { s with waiter := .detach c (done ++ [none]) todo waitResult }
      else some { s with waiter := .detach c (done ++ [some (.source x)]) todo true }

def callbackStep (s : State ι M T) (t : T) : Option (State ι M T) :=
  match s.callback t with
  | .idle => none
  | .appended d =>
      if s.owner d.source = none then
        some { s with
          owner := Function.update s.owner d.source (some (.callback t))
          callback := Function.update s.callback t (.locked d) }
      else none
  | .locked d =>
      let s := if s.attached d.source then s.notify else s
      some { s with callback := Function.update s.callback t (.notified d) }
  | .notified d => some { s with
      owner := Function.update s.owner d.source none
      callback := Function.update s.callback t .idle }

/-- One step under a lock: of the waiting thread, of a wakeup without a signal
(a spurious one or a timeout), of a take by the same thread, of a receiving
callback, or of rmw_trigger_guard_condition. -/
def step : Machine (State ι M T) (Label ι M T)
  | s, .call c =>
      match s.waiter with
      | .idle => some { s with waiter := .attach c c.entries }
      | _ => none
  | s, .waiter => waiterStep s
  | s, .wakeup =>
      match s.waiter with
      | .asleep c _ => some (s.wake c)
      | _ => none
  | s, .take x =>
      match s.waiter with
      | .idle => some { s with queue := Function.update s.queue x (s.queue x).tail }
      | _ => none
  | s, .arrive t d m =>
      match s.callback t with
      | .idle => some { s.append m d with callback := Function.update s.callback t (.appended d) }
      | _ => none
  | s, .callback t => callbackStep s t
  | s, .triggerGuard i => some (guardConditionTrigger s i)

inductive Step (s : State ι M T) : Label ι M T → State ι M T → Prop
  | call (c) (hw : s.waiter = .idle) : Step s (.call c) { s with waiter := .attach c c.entries }
  | attachDone (c) (hw : s.waiter = .attach c []) : Step s .waiter { s with waiter := .enter c }
  | attachNull (c todo) (hw : s.waiter = .attach c (none :: todo)) :
      Step s .waiter { s with waiter := .attach c todo }
  | guardReady (c todo i) (hw : s.waiter = .attach c (some (.guardCondition i) :: todo))
      (hg : s.guardTriggered i = true) : Step s .waiter { s with waiter := .detach c [] c.entries false }
  | guardAttach (c todo i) (hw : s.waiter = .attach c (some (.guardCondition i) :: todo)) :
      Step s .waiter { s with
        guardAttached := Function.update s.guardAttached i true
        waiter := .attach c todo }
  | lockToCheck (c todo x) (hw : s.waiter = .attach c (some (.source x) :: todo))
      (ho : s.owner x = none) :
      Step s .waiter { s with
        owner := Function.update s.owner x (some .waiter)
        waiter := .checking c x todo }
  | checkEmpty (c x todo) (hw : s.waiter = .checking c x todo) (hq : s.queue x = []) :
      Step s .waiter { s with waiter := .attaching c x todo }
  | checkReady (c x todo) (hw : s.waiter = .checking c x todo) (hq : s.queue x ≠ []) :
      Step s .waiter { s with
        owner := Function.update s.owner x none
        waiter := .detach c [] c.entries false }
  | attach (c x todo) (hw : s.waiter = .attaching c x todo) :
      Step s .waiter { s with
        attached := Function.update s.attached x true
        owner := Function.update s.owner x none
        waiter := .attach c todo }
  | sleep (l c) (hw : l = .waiter ∧ s.waiter = .enter c ∨ ∃ b, s.waiter = .asleep c b)
      (ht : c.waitTimeout = none → s.triggered = false) : Step s l { s with waiter := .asleep c false }
  | leave (l c) (hw : l = .waiter ∧ s.waiter = .enter c ∨ ∃ b, s.waiter = .asleep c b)
      (ht : c.waitTimeout = none → s.triggered = true) : Step s l (s.leave c)
  | returned (c done r) (hw : s.waiter = .detach c done [] r) :
      Step s .waiter { s with
        waiter := .idle
        returned := s.returned ++ [⟨c, done, if r then .ok else .timeout⟩] }
  | detachNull (c done todo r) (hw : s.waiter = .detach c done (none :: todo) r) :
      Step s .waiter { s with waiter := .detach c (done ++ [none]) todo r }
  | guardKept (c done todo r i) (hw : s.waiter = .detach c done (some (.guardCondition i) :: todo) r)
      (hg : s.guardTriggered i = true) :
      Step s .waiter { s with
        guardAttached := Function.update s.guardAttached i false
        waiter := .detach c (done ++ [some (.guardCondition i)]) todo true }
  | guardNulled (c done todo r i) (hw : s.waiter = .detach c done (some (.guardCondition i) :: todo) r)
      (hg : s.guardTriggered i = false) :
      Step s .waiter { s with
        guardAttached := Function.update s.guardAttached i false
        waiter := .detach c (done ++ [none]) todo r }
  | lockToDetach (c done todo r x) (hw : s.waiter = .detach c done (some (.source x) :: todo) r)
      (ho : s.owner x = none) :
      Step s .waiter { s with
        owner := Function.update s.owner x (some .waiter)
        attached := Function.update s.attached x false
        waiter := .detaching c x done todo r }
  | nulled (c x done todo r) (hw : s.waiter = .detaching c x done todo r) (hq : s.queue x = []) :
      Step s .waiter { s with
        owner := Function.update s.owner x none
        waiter := .detach c (done ++ [none]) todo r }
  | kept (c x done todo r) (hw : s.waiter = .detaching c x done todo r) (hq : s.queue x ≠ []) :
      Step s .waiter { s with
        owner := Function.update s.owner x none
        waiter := .detach c (done ++ [some (.source x)]) todo true }
  | take (x) (hw : s.waiter = .idle) : Step s (.take x) { s with queue := Function.update s.queue x (s.queue x).tail }
  | arrive (t d m) (hc : s.callback t = .idle) :
      Step s (.arrive t d m) { s.append m d with
        callback := Function.update s.callback t (.appended d) }
  | lock (t d) (hc : s.callback t = .appended d) (ho : s.owner d.source = none) :
      Step s (.callback t) { s with
        owner := Function.update s.owner d.source (some (.callback t))
        callback := Function.update s.callback t (.locked d) }
  | notify (t d) (hc : s.callback t = .locked d) (ha : s.attached d.source = true) :
      Step s (.callback t) { s.notify with callback := Function.update s.callback t (.notified d) }
  | passBy (t d) (hc : s.callback t = .locked d) (ha : s.attached d.source = false) :
      Step s (.callback t) { s with callback := Function.update s.callback t (.notified d) }
  | unlock (t d) (hc : s.callback t = .notified d) :
      Step s (.callback t) { s with
        owner := Function.update s.owner d.source none
        callback := Function.update s.callback t .idle }
  | triggerGuard (i) : Step s (.triggerGuard i) (guardConditionTrigger s i)

theorem wake_step {s : State ι M T} {c : Call ι} (l : Label ι M T)
    (hw : l = .waiter ∧ s.waiter = .enter c ∨ ∃ b, s.waiter = .asleep c b) : Step s l (s.wake c) := by
  unfold State.wake
  cases ht : c.waitTimeout with
  | none =>
      dsimp only
      by_cases hf : s.triggered = true
      · rw [if_pos hf]
        exact Step.leave l c hw fun _ => hf
      · rw [if_neg hf]
        exact Step.sleep l c hw fun _ => by simpa using hf
  | some t =>
      apply Step.leave l c hw
      intro hnone
      rw [ht] at hnone
      cases hnone

theorem enterSection_step {s : State ι M T} {c : Call ι} (hw : s.waiter = .enter c) :
    Step s .waiter (s.enterSection c) := by
  unfold State.enterSection
  cases ht : c.waitTimeout with
  | none => exact wake_step .waiter (Or.inl ⟨rfl, hw⟩)
  | some t =>
      have hbounded : ∀ b, c.waitTimeout = none → s.triggered = b := by
        intro b hnone
        rw [ht] at hnone
        cases hnone
      by_cases hz : t.sec = 0 ∧ t.nsec = 0
      · simp only [hz, and_self, if_true]
        exact Step.leave .waiter c (Or.inl ⟨rfl, hw⟩) (hbounded true)
      · simp only [hz, if_false]
        exact Step.sleep .waiter c (Or.inl ⟨rfl, hw⟩) (hbounded false)

theorem attachStep_step {s t : State ι M T} {c : Call ι} {todo : List (Option (Entry ι))}
    (hw : s.waiter = .attach c todo) (h : attachStep s c todo = some t) : Step s .waiter t := by
  rcases todo with _ | ⟨_ | i | x, todo⟩
  · cases h
    exact Step.attachDone c hw
  · cases h
    exact Step.attachNull c todo hw
  · cases hg : s.guardTriggered i with
    | true =>
        simp only [attachStep, hg, if_true, Option.some.injEq] at h
        subst h
        exact Step.guardReady c todo i hw hg
    | false =>
        simp only [attachStep, hg, Bool.false_eq_true, if_false, Option.some.injEq] at h
        subst h
        exact Step.guardAttach c todo i hw
  · by_cases ho : s.owner x = none
    · simp only [attachStep, ho, if_true, Option.some.injEq] at h
      subst h
      exact Step.lockToCheck c todo x hw ho
    · simp only [attachStep, ho, if_false] at h
      cases h

theorem detachStep_step {s t : State ι M T} {c : Call ι} {done todo : List (Option (Entry ι))} {r : Bool}
    (hw : s.waiter = .detach c done todo r) (h : detachStep s c done r todo = some t) :
    Step s .waiter t := by
  rcases todo with _ | ⟨_ | i | x, todo⟩
  · cases h
    exact Step.returned c done r hw
  · cases h
    exact Step.detachNull c done todo r hw
  · cases hg : s.guardTriggered i with
    | true =>
        simp only [detachStep, hg, if_true, Option.some.injEq] at h
        subst h
        exact Step.guardKept c done todo r i hw hg
    | false =>
        simp only [detachStep, hg, Bool.false_eq_true, if_false, Option.some.injEq] at h
        subst h
        exact Step.guardNulled c done todo r i hw hg
  · by_cases ho : s.owner x = none
    · simp only [detachStep, ho, if_true, Option.some.injEq] at h
      subst h
      exact Step.lockToDetach c done todo r x hw ho
    · simp only [detachStep, ho, if_false] at h
      cases h

theorem waiterStep_step {s t : State ι M T} (h : waiterStep s = some t) : Step s .waiter t := by
  unfold waiterStep at h
  cases hw : s.waiter with
  | idle => simp [hw] at h
  | attach c todo =>
      rw [hw] at h
      exact attachStep_step hw h
  | checking c x todo =>
      cases hq : s.queue x with
      | nil =>
          simp only [hw, hq, List.isEmpty_nil, if_true, Option.some.injEq] at h
          subst h
          exact Step.checkEmpty c x todo hw hq
      | cons m ms =>
          simp only [hw, hq, List.isEmpty_cons, Bool.false_eq_true, if_false, Option.some.injEq] at h
          subst h
          exact Step.checkReady c x todo hw (by simp [hq])
  | attaching c x todo =>
      simp only [hw, Option.some.injEq] at h
      subst h
      exact Step.attach c x todo hw
  | enter c =>
      simp only [hw, Option.some.injEq] at h
      subst h
      exact enterSection_step hw
  | asleep c b =>
      cases b with
      | false => simp [hw] at h
      | true =>
          simp only [hw, Option.some.injEq] at h
          subst h
          exact wake_step .waiter (Or.inr ⟨true, hw⟩)
  | detach c done todo r =>
      rw [hw] at h
      exact detachStep_step hw h
  | detaching c x done todo r =>
      cases hq : s.queue x with
      | nil =>
          simp only [hw, hq, List.isEmpty_nil, if_true, Option.some.injEq] at h
          subst h
          exact Step.nulled c x done todo r hw hq
      | cons m ms =>
          simp only [hw, hq, List.isEmpty_cons, Bool.false_eq_true, if_false, Option.some.injEq] at h
          subst h
          exact Step.kept c x done todo r hw (by simp [hq])

theorem callbackStep_step {s u : State ι M T} {t : T} (h : callbackStep s t = some u) :
    Step s (.callback t) u := by
  unfold callbackStep at h
  cases hc : s.callback t with
  | idle => simp [hc] at h
  | appended d =>
      by_cases ho : s.owner d.source = none
      · simp only [hc, ho, if_true, Option.some.injEq] at h
        subst h
        exact Step.lock t d hc ho
      · simp [hc, ho] at h
  | locked d =>
      cases ha : s.attached d.source with
      | true =>
          simp only [hc, ha, if_true, Option.some.injEq] at h
          subst h
          exact Step.notify t d hc ha
      | false =>
          simp only [hc, ha, Bool.false_eq_true, if_false, Option.some.injEq] at h
          subst h
          exact Step.passBy t d hc ha
  | notified d =>
      simp only [hc, Option.some.injEq] at h
      subst h
      exact Step.unlock t d hc

theorem step_cases {s t : State ι M T} {l : Label ι M T} (h : step s l = some t) : Step s l t := by
  cases l with
  | call c =>
      cases hw : s.waiter with
      | idle =>
          simp only [step, hw, Option.some.injEq] at h
          subst h
          exact Step.call c hw
      | attach | checking | attaching | enter | asleep | detach | detaching => simp [step, hw] at h
  | waiter => exact waiterStep_step h
  | wakeup =>
      cases hw : s.waiter with
      | asleep c b =>
          simp only [step, hw, Option.some.injEq] at h
          subst h
          exact wake_step .wakeup (Or.inr ⟨b, hw⟩)
      | idle | attach | checking | attaching | enter | detach | detaching => simp [step, hw] at h
  | take x =>
      simp only [step] at h
      split at h
      · cases h
        exact Step.take x ‹_›
      · cases h
  | arrive t d m =>
      cases hc : s.callback t with
      | idle =>
          simp only [step, hc, Option.some.injEq] at h
          subst h
          exact Step.arrive t d m hc
      | appended | locked | notified => simp [step, hc] at h
  | callback t => exact callbackStep_step h
  | triggerGuard i =>
      cases h
      exact Step.triggerGuard i

end RmwZenohPico.Wait
