import RmwZenohPico.WaitSet

namespace RmwZenohPico.LostWakeup

open Lib.LabelledMachine Wait WaitSet

variable {ι M T : Type}

def Between (k : Callback ι) (x : Source ι) : Prop :=
  k = .appended (.waited x) ∨ k = .locked (.waited x) ∨ k = .notified (.waited x)

def Approached (s : State ι M T) (x : Source ι) : Prop :=
  ∃ t, s.callback t = .appended (.waited x) ∨ s.callback t = .locked (.waited x)

/-- The waiting thread does not go to sleep, or does not stay asleep. -/
def Woken (s : State ι M T) : Prop :=
  match s.waiter with
  | .asleep _ signalled => signalled = true
  | _ => s.triggered = true

theorem woken_awake {s : State ι M T} (h : ∀ c b, s.waiter ≠ .asleep c b) :
    Woken s ↔ s.triggered = true := by
  unfold Woken
  split
  · exact absurd ‹_› (h _ _)
  · exact Iff.rfl

/-- Somebody attends to every message that an unbounded wait is to report. -/
structure Attended (s : State ι M T) : Prop where
  pending : ∀ c x, waiting s.waiter = some c → c.waitTimeout = none → s.attached x = true →
    s.queue x ≠ [] → Approached s x ∨ Woken s
  attaching : ∀ c x todo, s.waiter = .attaching c x todo → s.queue x ≠ [] → Approached s x
  signalled : ∀ c, s.waiter = .asleep c true → s.triggered = true

theorem Attended.outside {s : State ι M T} (hw : waiting s.waiter = none) : Attended s := by
  constructor
  · intro c x hc
    rw [hw] at hc
    cases hc
  · intro c x todo hc
    rw [hc] at hw
    cases hw
  · intro c hc
    rw [hc] at hw
    cases hw

theorem Attended.advance {s t : State ι M T} (hs : Attended s) {c : Call ι}
    (hc : waiting s.waiter = some c) (hc' : waiting t.waiter = some c)
    (hasleep : ∀ c b, s.waiter ≠ .asleep c b) (hasleep' : ∀ c b, t.waiter ≠ .asleep c b)
    (ha : t.attached = s.attached) (hq : t.queue = s.queue) (hcb : t.callback = s.callback)
    (htr : t.triggered = s.triggered)
    (hat : ∀ c x todo, t.waiter = .attaching c x todo → t.queue x ≠ [] → Approached t x) : Attended t := by
  refine ⟨?_, hat, ?_⟩
  · intro c' x hwait htime hattached hqueue
    rw [hc'] at hwait
    cases hwait
    rw [ha] at hattached
    rw [hq] at hqueue
    rcases hs.pending c x hc htime hattached hqueue with ⟨u, hu⟩ | hwoken
    · exact Or.inl ⟨u, by rwa [hcb]⟩
    · rw [woken_awake hasleep, ← htr] at hwoken
      exact Or.inr ((woken_awake hasleep').mpr hwoken)
  · intro c' hc''
    exact absurd hc'' (hasleep' c' true)

theorem Attended.keep {s t : State ι M T} (hs : Attended s) (hw : t.waiter = s.waiter)
    (ha : t.attached = s.attached) (hq : t.queue = s.queue) (htr : t.triggered = s.triggered)
    (hkeep : ∀ x, Approached s x → Approached t x) : Attended t := by
  have hwoken : Woken s → Woken t := by
    unfold Woken
    rw [hw, htr]
    exact id
  refine ⟨?_, ?_, ?_⟩
  · intro c x hwait htime hattached hqueue
    rw [hw] at hwait
    rw [ha] at hattached
    rw [hq] at hqueue
    exact (hs.pending c x hwait htime hattached hqueue).imp (hkeep x) hwoken
  · intro c x todo hattaching hqueue
    rw [hw] at hattaching
    rw [hq] at hqueue
    exact hkeep x (hs.attaching c x todo hattaching hqueue)
  · intro c hasleep
    rw [hw] at hasleep
    rw [htr]
    exact hs.signalled c hasleep

variable [DecidableEq T]

theorem Approached.move {s t : State ι M T} {x : Source ι} (h : Approached s x) {u : T} {k : Callback ι}
    (hcb : t.callback = Function.update s.callback u k)
    (hu : s.callback u ≠ .appended (.waited x) ∧ s.callback u ≠ .locked (.waited x)) : Approached t x := by
  obtain ⟨v, hv⟩ := h
  have hne : v ≠ u := by
    rintro rfl
    rcases hv with hv | hv
    · exact hu.1 hv
    · exact hu.2 hv
  refine ⟨v, ?_⟩
  rw [hcb, Function.update_of_ne hne]
  exact hv

variable [DecidableEq ι] {s t : State ι M T} {l : Label ι M T}

omit [DecidableEq T] [DecidableEq ι] in
/-- While the waiting thread holds the mutex of x, no callback is past its
lock. -/
theorem attaching_excludes (hl : Locked s) {c : Call ι} {x : Source ι} {todo : List (Option (Entry ι))}
    (hw : s.waiter = .attaching c x todo) (u : T) : s.callback u ≠ .locked (.waited x) := by
  intro hu
  have hmine := hl.waiter x (by rw [hw]; rfl)
  have hown := hl.callback u _ (Or.inl hu)
  rw [Dest.source, hmine] at hown
  cases hown

omit [DecidableEq T] in
theorem attended_attach (hs : Attended s) {c : Call ι} {x : Source ι} {todo : List (Option (Entry ι))}
    (hw : s.waiter = .attaching c x todo) :
    Attended { s with
      attached := Function.update s.attached x true
      owner := Function.update s.owner x none
      waiter := .attach c todo } := by
  refine ⟨?_, ?_, ?_⟩
  · intro c' y hc htime hattached hqueue
    cases hc
    by_cases hyx : y = x
    · subst hyx
      exact Or.inl (hs.attaching c y todo hw hqueue)
    · have hold : s.attached y = true := by simpa [hyx] using hattached
      rcases hs.pending c y (by rw [hw]; rfl) htime hold hqueue with h | hwoken
      · exact Or.inl h
      · rw [Woken, hw] at hwoken
        exact Or.inr hwoken
  · intro c' y todo' hw'
    cases hw'
  · intro c' hw'
    cases hw'

omit [DecidableEq T] [DecidableEq ι] in
theorem attended_sleep (hs : Attended s) {c : Call ι}
    (hw : l = .waiter ∧ s.waiter = .enter c ∨ ∃ b, s.waiter = .asleep c b)
    (ht : c.waitTimeout = none → s.triggered = false) : Attended { s with waiter := .asleep c false } := by
  have hwait : waiting s.waiter = some c := by
    rcases hw with ⟨-, hw⟩ | ⟨b, hw⟩
    · rw [hw]
      rfl
    · rw [hw]
      rfl
  refine ⟨?_, ?_, ?_⟩
  · intro c' x hc htime hattached hqueue
    cases hc
    rcases hs.pending c x hwait htime hattached hqueue with h | hwoken
    · exact Or.inl h
    · -- the flag was looked at before the thread goes to sleep
      have hflag : s.triggered = true := by
        rcases hw with ⟨-, hw⟩ | ⟨b, hw⟩
        · rw [Woken, hw] at hwoken
          exact hwoken
        · rw [Woken, hw] at hwoken
          cases hwoken
          exact hs.signalled c hw
      rw [ht htime] at hflag
      cases hflag
  · intro c' x todo hw'
    cases hw'
  · intro c' hw'
    cases hw'

theorem attended_arrive (hs : Attended s) {u : T} (d : Dest ι) (m : M) (hc : s.callback u = .idle) :
    Attended { s.append m d with callback := Function.update s.callback u (.appended d) } := by
  have hkeep : ∀ x, Approached s x →
      Approached { s.append m d with callback := Function.update s.callback u (.appended d) } x := by
    intro x hx
    exact hx.move rfl (by simp [hc])
  cases d with
  | clientRequest i => exact hs.keep rfl rfl rfl rfl hkeep
  | waited y =>
      have hqueued : ∀ x, Function.update s.queue y (s.queue y ++ [m]) x ≠ [] →
          (s.queue x ≠ [] ∨ x = y) := by
        intro x hx
        by_cases hxy : x = y
        · exact Or.inr hxy
        · exact Or.inl (by simpa [hxy] using hx)
      have hnew : Approached { s.append m (.waited y) with
          callback := Function.update s.callback u (.appended (.waited y)) } y :=
        ⟨u, Or.inl (Function.update_self ..)⟩
      refine ⟨?_, ?_, hs.signalled⟩
      · intro c x hwait htime hattached hqueue
        rcases hqueued x hqueue with hold | rfl
        · exact (hs.pending c x hwait htime hattached hold).imp (hkeep x) id
        · exact Or.inl hnew
      · intro c x todo hw hqueue
        rcases hqueued x hqueue with hold | rfl
        · exact hkeep x (hs.attaching c x todo hw hold)
        · exact hnew

omit [DecidableEq ι] in
theorem attended_notify (hl : Locked s) (hs : Attended s) {u : T} {d : Dest ι}
    (hc : s.callback u = .locked d) :
    Attended { s.notify with callback := Function.update s.callback u (.notified d) } := by
  refine ⟨?_, ?_, ?_⟩
  · intro c x hwait htime hattached hqueue
    right
    unfold Woken
    split
    · rename_i c' b hw
      simp only [State.notify] at hw
      cases hsw : s.waiter with
      | asleep c'' b' =>
          rw [hsw] at hw
          cases hw
          rfl
      | idle | attach | checking | attaching | enter | detach | detaching =>
          rw [hsw] at hw
          cases hw
    · rfl
  · intro c x todo hw hqueue
    have hw' : s.waiter = .attaching c x todo := by
      cases hsw : s.waiter <;> simp [State.notify, Waiter.signal, hsw] at hw
      simp [hw]
    apply (hs.attaching c x todo hw' hqueue).move rfl
    exact ⟨by simp [hc], attaching_excludes hl hw' u⟩
  · intro c hw
    rfl

omit [DecidableEq ι] in
theorem attended_passBy (hl : Locked s) (hs : Attended s) {u : T} {d : Dest ι}
    (hc : s.callback u = .locked d) (ha : s.attached d.source = false) :
    Attended { s with callback := Function.update s.callback u (.notified d) } := by
  refine ⟨?_, ?_, hs.signalled⟩
  · intro c x hwait htime hattached hqueue
    refine (hs.pending c x hwait htime hattached hqueue).imp (fun h => h.move rfl ?_) id
    refine ⟨by simp [hc], ?_⟩
    intro hu
    rw [hc] at hu
    cases hu
    rw [Dest.source] at ha
    exact absurd hattached (by simp [ha])
  · intro c x todo hw hqueue
    apply (hs.attaching c x todo hw hqueue).move rfl
    exact ⟨by simp [hc], attaching_excludes hl hw u⟩

theorem attended_step (h : Step s l t) (hl : Locked s) (hswept : Swept s) (hs : Attended s) : Attended t := by
  cases h with
  | call c hw =>
      have hconfined := hswept.confined
      simp only [hw, reach, List.not_mem_nil, imp_false] at hconfined
      refine ⟨?_, ?_, ?_⟩
      · intro c' x _ _ hattached
        exact absurd hattached (hconfined x)
      · intro c' x todo hw'
        cases hw'
      · intro c' hw'
        cases hw'
  | attachDone c hw =>
      exact hs.advance (c := c) (by rw [hw]; rfl) rfl (by simp [hw]) (by simp) rfl rfl rfl rfl (by simp)
  | attachNull c todo hw =>
      exact hs.advance (c := c) (by rw [hw]; rfl) rfl (by simp [hw]) (by simp) rfl rfl rfl rfl (by simp)
  | guardAttach c todo i hw =>
      exact hs.advance (c := c) (by rw [hw]; rfl) rfl (by simp [hw]) (by simp) rfl rfl rfl rfl (by simp)
  | lockToCheck c todo x hw ho =>
      exact hs.advance (c := c) (by rw [hw]; rfl) rfl (by simp [hw]) (by simp) rfl rfl rfl rfl (by simp)
  | checkEmpty c x todo hw hq =>
      refine hs.advance (c := c) (by rw [hw]; rfl) rfl (by simp [hw]) (by simp) rfl rfl rfl rfl ?_
      intro c' y todo' hw' hqueue
      cases hw'
      exact absurd hq hqueue
  | attach c x todo hw => exact attended_attach hs hw
  | sleep l c hw ht => exact attended_sleep hs hw ht
  | take y hw =>
      apply Attended.outside
      rw [hw]
      rfl
  | arrive u d m hc => exact attended_arrive hs d m hc
  | lock u d hc ho =>
      have hkeep : ∀ x, Approached s x → Approached { s with
          owner := Function.update s.owner d.source (some (.callback u))
          callback := Function.update s.callback u (.locked d) } x := by
        rintro x ⟨v, hv⟩
        by_cases hvu : v = u
        · subst hvu
          rw [hc] at hv
          rcases hv with hv | hv
          · cases hv
            exact ⟨v, Or.inr (Function.update_self ..)⟩
          · cases hv
        · refine ⟨v, ?_⟩
          simpa [hvu] using hv
      exact hs.keep rfl rfl rfl rfl hkeep
  | notify u d hc ha => exact attended_notify hl hs hc
  | passBy u d hc ha => exact attended_passBy hl hs hc ha
  | unlock u d hc =>
      have hkeep : ∀ x, Approached s x → Approached { s with
          owner := Function.update s.owner d.source none
          callback := Function.update s.callback u .idle } x :=
        fun x hx => hx.move rfl (by simp [hc])
      exact hs.keep rfl rfl rfl rfl hkeep
  | triggerGuard i =>
      refine ⟨?_, hs.attaching, ?_⟩
      · intro c x hwait htime hattached hqueue
        refine (hs.pending c x hwait htime hattached hqueue).imp id ?_
        intro hwoken
        unfold Woken at hwoken ⊢
        simp only [guardConditionTrigger]
        split at hwoken
        · simpa using hwoken
        · simp [hwoken]
      · intro c hw
        simp [guardConditionTrigger, hs.signalled c hw]
  | guardReady | checkReady | leave | returned | detachNull | guardKept | guardNulled | lockToDetach
  | nulled | kept => exact Attended.outside rfl

structure Kept (s : State ι M T) : Prop where
  locked : Locked s
  swept : Swept s
  attended : Attended s

omit [DecidableEq T] [DecidableEq ι] in
theorem initial_kept : Kept (initial : State ι M T) := by
  refine ⟨⟨?_, ?_⟩, ⟨?_, ?_, ?_, ?_⟩, Attended.outside rfl⟩
  · rintro t d (h | h) <;> cases h
  · intro x h
    cases h
  · intro x h
    cases h
  · intro i h
    cases h
  · intro c x h
    cases h
  · intro c e h
    cases h

theorem kept_step (hs : Kept s) (h : step s l = some t) : Kept t :=
  have hstep := step_cases h
  ⟨locked_step hstep hs.locked, swept_step hstep hs.swept,
    attended_step hstep hs.locked hs.swept hs.attended⟩

/-- No unbounded wait sleeps unsignalled over a message that it is to report,
unless a callback is still on its way to trigger it. -/
theorem no_lost_wakeup {s : State ι M T} (hr : Reachable step initial s) {c : Call ι}
    (hc : c.waitTimeout = none) (hw : s.waiter = .asleep c false) {x : Source ι}
    (hx : some (.source x) ∈ c.entries) (hq : s.queue x ≠ []) : ∃ t, Between (s.callback t) x := by
  have hkept : Kept s := invariant (fun _ _ _ => kept_step) initial_kept hr
  have hwait : waiting s.waiter = some c := by rw [hw]; rfl
  have hattached : s.attached x = true := by
    rcases hkept.swept.covered c x hwait hx with h | h
    · rw [hw] at h
      cases h
    · exact h
  rcases hkept.attended.pending c x hwait hc hattached hq with ⟨t, h | h⟩ | h
  · exact ⟨t, Or.inl h⟩
  · exact ⟨t, Or.inr (Or.inl h)⟩
  · rw [Woken, hw] at h
    cases h

def oneSubscription : Call Nat := ⟨some [some 0], none, none, none, none⟩

def arrivalRun : List (Label Nat Unit Unit) :=
  [.call oneSubscription, .waiter, .waiter, .waiter, .waiter, .waiter,
    .arrive () (.waited (.subscription 0)) ()]

theorem no_lost_wakeup_on_arrival : ∃ s, run step initial arrivalRun = some s ∧
    s.waiter = .asleep oneSubscription false ∧ ∃ t, Between (s.callback t) (.subscription 0) := by
  have hrun : (run step initial arrivalRun).isSome = true := rfl
  have hw : (run step initial arrivalRun).map State.waiter = some (.asleep oneSubscription false) := rfl
  have hq : (run step initial arrivalRun).map (fun s => s.queue (.subscription 0)) = some [()] := rfl
  obtain ⟨s, hs⟩ := Option.isSome_iff_exists.mp hrun
  rw [hs, Option.map_some, Option.some.injEq] at hw hq
  exact ⟨s, hs, hw, no_lost_wakeup ⟨arrivalRun, hs⟩ rfl hw (by decide) (by simp [hq])⟩

end RmwZenohPico.LostWakeup
