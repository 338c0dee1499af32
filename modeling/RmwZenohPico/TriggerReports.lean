import RmwZenohPico.LostWakeup

namespace RmwZenohPico.TriggerReports

open Lib.LabelledMachine Wait LostWakeup

variable {ι M T : Type}

/-- A trigger of a guard condition, or its detachment by a call of rmw_wait,
which leaves its entry in place or sets it to NULL. -/
inductive Event (ι : Type)
  | triggered (i : ι)
  | detached (call : Nat) (i : ι) (kept : Bool)
  deriving DecidableEq

structure History (ι M T : Type) where
  wait : Wait.State ι M T
  log : List (Event ι)

variable [DecidableEq ι] [DecidableEq T]

def events (s t : Wait.State ι M T) : Wait.Label ι M T → List (Event ι)
  | .triggerGuard i => [.triggered i]
  | .waiter =>
      match s.waiter, t.waiter with
      | .detach _ _ (some (.guardCondition i) :: _) _, .detach _ done _ _ =>
          [.detached s.returned.length i (done.getLast? == some (some (.guardCondition i)))]
      | _, _ => []
  | _ => []

def step : Machine (History ι M T) (Wait.Label ι M T)
  | s, l => (Wait.step s.wait l).map fun t => ⟨t, events s.wait t l ++ s.log⟩

def initial : History ι M T := ⟨Wait.initial, []⟩

def triggeredSince (call : Nat) (i : ι) : List (Event ι) → Bool
  | [] => false
  | .triggered j :: log => j = i || triggeredSince call i log
  | .detached m j kept :: log => if j = i ∧ m < call ∧ kept then false else triggeredSince call i log

def triggeredAgain (call : Nat) (i : ι) : List (Event ι) → Bool
  | [] => false
  | .triggered j :: log => j = i || triggeredAgain call i log
  | .detached m j _ :: log => if j = i ∧ m < call then false else triggeredAgain call i log

/-- The step leaves the entry of a guard condition in place if and only if
there was a trigger to report. -/
def ReportsOnce (s : History ι M T) (l : Wait.Label ι M T) : Prop :=
  ∀ t, step s l = some t → ∀ call i kept, .detached call i kept ∈ events s.wait t.wait l →
    (kept = true ↔ triggeredSince call i s.log = true)

/-- A guard condition that was ever triggered is triggered again after one
call has detached it and before another one comes to do so. -/
def Renewed (s : History ι M T) (l : Wait.Label ι M T) : Prop :=
  ∀ c done i todo r, l = .waiter → s.wait.waiter = .detach c done (some (.guardCondition i) :: todo) r →
    .triggered i ∈ s.log → triggeredAgain s.wait.returned.length i s.log = true

theorem mem_of_triggeredSince {call : Nat} {i : ι} {log : List (Event ι)}
    (h : triggeredSince call i log = true) : .triggered i ∈ log := by
  induction log with
  | nil => cases h
  | cons e log ih =>
      cases e with
      | triggered j =>
          rw [triggeredSince, Bool.or_eq_true, decide_eq_true_eq] at h
          rcases h with rfl | h
          · exact List.mem_cons_self
          · exact List.mem_cons_of_mem _ (ih h)
      | detached m j kept =>
          rw [triggeredSince] at h
          split at h
          · cases h
          · exact List.mem_cons_of_mem _ (ih h)

omit [DecidableEq ι] in
def EverReported : List (Event ι) → Prop
  | [] => True
  | .triggered _ :: log => EverReported log
  | .detached _ i kept :: log => (kept = true ↔ .triggered i ∈ log) ∧ EverReported log

theorem triggeredSince_eq (call : Nat) (i : ι) {log : List (Event ι)} (h : EverReported log) :
    triggeredSince call i log = triggeredAgain call i log := by
  induction log with
  | nil => rfl
  | cons e log ih =>
      cases e with
      | triggered j => rw [triggeredSince, triggeredAgain, ih h]
      | detached m j kept =>
          obtain ⟨hkept, hlog⟩ := h
          rw [triggeredSince, triggeredAgain, ih hlog]
          by_cases hcall : j = i ∧ m < call
          · obtain ⟨rfl, hm⟩ := hcall
            cases kept with
            | true => simp [hm]
            | false =>
                have hnever : triggeredAgain call j log = false := by
                  rw [← ih hlog, ← Bool.not_eq_true]
                  intro hsince
                  cases hkept.mpr (mem_of_triggeredSince hsince)
                simp [hm, hnever]
          · rw [if_neg hcall, if_neg]
            exact fun hreported => hcall ⟨hreported.1, hreported.2.1⟩

structure Recorded (s : History ι M T) : Prop where
  triggered : ∀ i, s.wait.guardTriggered i = true ↔ .triggered i ∈ s.log
  reported : EverReported s.log

inductive Seen (s t : Wait.State ι M T) (l : Wait.Label ι M T) : Prop
  | trigger (i) (hl : l = .triggerGuard i) (he : events s t l = [.triggered i])
      (hg : t.guardTriggered = Function.update s.guardTriggered i true)
  | detach (c done i todo r) (hl : l = .waiter)
      (hw : s.waiter = .detach c done (some (.guardCondition i) :: todo) r)
      (he : events s t l = [.detached s.returned.length i (s.guardTriggered i)])
      (hg : t.guardTriggered = s.guardTriggered)
  | other (hw : l = .waiter → ∀ c done i todo r,
        s.waiter ≠ .detach c done (some (.guardCondition i) :: todo) r)
      (he : events s t l = []) (hg : t.guardTriggered = s.guardTriggered)

theorem seen_wait {s t : Wait.State ι M T} {l : Wait.Label ι M T} (h : Wait.Step s l t)
    (hl : ∀ i, l ≠ .triggerGuard i) : Seen s t l := by
  cases h with
  | triggerGuard i => exact absurd rfl (hl i)
  | guardKept c done todo r i hw hg =>
      exact Seen.detach c done i todo r rfl hw (by simp [events, hw, hg]) rfl
  | guardNulled c done todo r i hw hg =>
      exact Seen.detach c done i todo r rfl hw (by simp [events, hw, hg]) rfl
  | sleep l c hw ht | leave l c hw ht =>
      have hwaiter : ∀ c done i todo r, s.waiter ≠ .detach c done (some (.guardCondition i) :: todo) r := by
        rcases hw with ⟨-, hw⟩ | ⟨b, hw⟩ <;> simp [hw]
      refine Seen.other (fun _ => hwaiter) ?_ rfl
      cases l with
      | triggerGuard i => exact absurd rfl (hl i)
      | waiter => rcases hw with ⟨-, hw⟩ | ⟨b, hw⟩ <;> simp [events, hw]
      | call | wakeup | take | arrive | callback => rfl
  | arrive u d m hc => exact Seen.other (by simp) rfl (by cases d <;> rfl)
  | attachDone c hw => exact Seen.other (by simp [hw]) (by simp [events, hw]) rfl
  | attachNull c todo hw => exact Seen.other (by simp [hw]) (by simp [events, hw]) rfl
  | guardReady c todo i hw hg => exact Seen.other (by simp [hw]) (by simp [events, hw]) rfl
  | guardAttach c todo i hw => exact Seen.other (by simp [hw]) (by simp [events, hw]) rfl
  | lockToCheck c todo x hw ho => exact Seen.other (by simp [hw]) (by simp [events, hw]) rfl
  | checkEmpty c x todo hw hq => exact Seen.other (by simp [hw]) (by simp [events, hw]) rfl
  | checkReady c x todo hw hq => exact Seen.other (by simp [hw]) (by simp [events, hw]) rfl
  | attach c x todo hw => exact Seen.other (by simp [hw]) (by simp [events, hw]) rfl
  | returned c done r hw => exact Seen.other (by simp [hw]) (by simp [events, hw]) rfl
  | detachNull c done todo r hw => exact Seen.other (by simp [hw]) (by simp [events, hw]) rfl
  | lockToDetach c done todo r x hw ho => exact Seen.other (by simp [hw]) (by simp [events, hw]) rfl
  | nulled c x done todo r hw hq => exact Seen.other (by simp [hw]) (by simp [events, hw]) rfl
  | kept c x done todo r hw hq => exact Seen.other (by simp [hw]) (by simp [events, hw]) rfl
  | call | take | lock | notify | passBy | unlock => exact Seen.other (by simp) rfl rfl

theorem seen_step {s t : Wait.State ι M T} {l : Wait.Label ι M T} (h : Wait.step s l = some t) :
    Seen s t l := by
  cases l with
  | triggerGuard i =>
      cases h
      exact Seen.trigger i rfl rfl rfl
  | call | waiter | wakeup | take | arrive | callback => exact seen_wait (step_cases h) (by simp)

variable {s t : History ι M T} {l : Wait.Label ι M T}

theorem recorded_step (h : step s l = some t) (hs : Recorded s) : Recorded t := by
  obtain ⟨w, hw, rfl⟩ := Option.map_eq_some_iff.mp h
  cases seen_step hw with
  | trigger i hl he hg =>
      rw [he]
      refine ⟨?_, hs.reported⟩
      intro j
      by_cases hji : j = i
      · simp [hg, hji]
      · simp [hg, hji, hs.triggered j]
  | detach c done i todo r hl hwait he hg =>
      rw [he]
      refine ⟨?_, hs.triggered i, hs.reported⟩
      intro j
      simp [hg, hs.triggered j]
  | other hwait he hg =>
      rw [he]
      refine ⟨?_, hs.reported⟩
      intro j
      change w.guardTriggered j = true ↔ _
      rw [hg]
      exact hs.triggered j

theorem reportsOnce_iff (hs : Recorded s) : ReportsOnce s l ↔ Renewed s l := by
  constructor
  · intro hreports c done i todo r hl hw htriggered
    subst hl
    obtain ⟨w, hw'⟩ : ∃ w, Wait.step s.wait .waiter = some w := by
      rw [Wait.step, waiterStep, hw]
      simp only [detachStep]
      split
      · exact ⟨_, rfl⟩
      · exact ⟨_, rfl⟩
    cases seen_step hw' with
    | trigger j hl he hg => cases hl
    | detach c' done' j todo' r' hl hw'' he hg =>
        rw [hw] at hw''
        cases hw''
        rw [← triggeredSince_eq _ i hs.reported]
        exact (hreports ⟨w, _⟩ (by rw [step, hw']; rfl) s.wait.returned.length i (s.wait.guardTriggered i)
          (by rw [he]; exact List.mem_singleton.mpr rfl)).mp ((hs.triggered i).mpr htriggered)
    | other hwait he hg => exact absurd hw (hwait rfl c done i todo r)
  · intro hrenewed t h call i kept hkept
    obtain ⟨w, hw, rfl⟩ := Option.map_eq_some_iff.mp h
    cases seen_step hw with
    | trigger j hl he hg =>
        rw [he] at hkept
        cases List.mem_singleton.mp hkept
    | detach c done j todo r hl hwait he hg =>
        rw [he] at hkept
        obtain ⟨rfl, rfl, rfl⟩ := Event.detached.inj (List.mem_singleton.mp hkept)
        rw [hs.triggered i]
        constructor
        · intro htriggered
          rw [triggeredSince_eq _ i hs.reported]
          exact hrenewed c done i todo r hl hwait htriggered
        · exact mem_of_triggeredSince
    | other hwait he hg =>
        rw [he] at hkept
        cases hkept

omit [DecidableEq ι] [DecidableEq T] in
theorem initial_recorded : Recorded (initial : History ι M T) := by
  refine ⟨?_, trivial⟩
  intro i
  simp [initial, Wait.initial]

/-- The reports of a run are right exactly if, once a guard condition was
triggered, no two calls detach it without another trigger between them. -/
theorem reports_right_iff (ls : List (Wait.Label ι M T)) :
    Every step ReportsOnce (initial : History ι M T) ls ↔ Every step Renewed initial ls := by
  constructor
  · apply every_of_invariant (I := Recorded) (fun s l t hs _ h => recorded_step h hs) _ initial_recorded
    exact fun s l hs hreports => (reportsOnce_iff hs).mp hreports
  · apply every_of_invariant (I := Recorded) (fun s l t hs _ h => recorded_step h hs) _ initial_recorded
    exact fun s l hs hrenewed => (reportsOnce_iff hs).mpr hrenewed

def oneGuard : Call Nat := ⟨none, some [some 0], none, none, none⟩

def busyRun : List (Wait.Label Nat Unit Unit) :=
  [.triggerGuard 0, .call oneGuard, .waiter, .waiter, .waiter, .call oneGuard, .waiter]

theorem one_trigger_reported_twice :
    ¬Every step ReportsOnce initial (busyRun ++ [.waiter]) ∧
      (run step initial (busyRun ++ [.waiter, .waiter])).map
        (fun s => s.wait.returned.map fun q => (q.ret, q.entries)) =
        some [(.ok, [some (.guardCondition 0)]), (.ok, [some (.guardCondition 0)])] := by
  refine ⟨?_, rfl⟩
  have hlast : ((run step initial busyRun).bind fun s => (step s .waiter).map fun t =>
      (events s.wait t.wait .waiter, triggeredSince 1 0 s.log)) =
      some ([.detached 1 0 true], false) := rfl
  intro hevery
  obtain ⟨s, hs, hlast⟩ := Option.bind_eq_some_iff.mp hlast
  obtain ⟨t, ht, heq⟩ := Option.map_eq_some_iff.mp hlast
  rw [Prod.mk.injEq] at heq
  have hreports := ((every_append step ReportsOnce initial busyRun [.waiter]).mp hevery).2 s hs
  have hright := hreports.1 t ht 1 0 true (by rw [heq.1]; exact List.mem_singleton.mpr rfl)
  rw [heq.2] at hright
  exact absurd (hright.mp rfl) (by decide)

end RmwZenohPico.TriggerReports
