import RmwZenohPico.WaitSets

namespace RmwZenohPico.SeparateWaits

open Lib.LabelledMachine WaitSet LostWakeup WaitSets
open Wait (Source Entry Call Waiter)

variable {W ι M T : Type} [DecidableEq W] [DecidableEq ι] [DecidableEq T]

section Invariant

variable {s t : State W ι M T} {l : Label W ι M T} {w : W}

def Within (k : Waiter ι) : Prop := ∀ e, some e ∈ ahead k → some e ∈ entriesOf k

structure Inv (s : State W ι M T) : Prop where
  kept : ∀ w, Kept (project w s)
  within : ∀ w, Within (s.waiter w)
  apart : ∀ w v, w ≠ v → ∀ e, some e ∈ entriesOf (s.waiter w) → some e ∉ entriesOf (s.waiter v)

/-- No call begins on an element that is in the arrays of another call. -/
def Separate (s : State W ι M T) : Label W ι M T → Prop
  | .call w c => ∀ v, v ≠ w → ∀ e, some e ∈ c.entries → some e ∉ entriesOf (s.waiter v)
  | _ => True

omit [DecidableEq W] [DecidableEq ι] [DecidableEq T] in
theorem entries_of_reach {k : Waiter ι} (hk : Within k) {e : Entry ι} (he : some e ∈ reach k) :
    some e ∈ entriesOf k := by
  cases k with
  | idle => cases he
  | attach | checking | attaching | enter | asleep => exact he
  | detach | detaching => exact hk e he

omit [DecidableEq W] [DecidableEq ι] [DecidableEq T] in
theorem kept_shrink {s : Wait.State ι M T} (hs : Kept s) {queue : Source ι → List M}
    (hq : ∀ x, s.queue x = [] → queue x = []) : Kept { s with queue := queue } := by
  refine ⟨⟨hs.locked.callback, hs.locked.waiter⟩,
    ⟨hs.swept.confined, hs.swept.guardConfined, hs.swept.covered, hs.swept.included⟩, ?_, ?_,
    hs.attended.signalled⟩
  · intro c x hc htime hattached hqueue
    exact hs.attended.pending c x hc htime hattached fun hx => hqueue (hq x hx)
  · intro c x todo hw hqueue
    exact hs.attended.attaching c x todo hw fun hx => hqueue (hq x hx)

theorem entries_step {s t : Wait.State ι M T} {k : Wait.Label ι M T} (h : Wait.Step s k t) (hs : Within s.waiter) :
    Within t.waiter ∧ ((∃ c, k = .call c ∧ entriesOf t.waiter = c.entries) ∨
      ∀ e, some e ∈ entriesOf t.waiter → some e ∈ entriesOf s.waiter) := by
  have hsection : ∀ c, (k = .waiter ∧ s.waiter = .enter c ∨ ∃ b, s.waiter = .asleep c b) →
      entriesOf s.waiter = c.entries := by
    rintro c (⟨-, hw⟩ | ⟨b, hw⟩)
    · rw [hw]
      rfl
    · rw [hw]
      rfl
  have hpass : t.waiter = s.waiter → Within t.waiter ∧ ((∃ c, k = .call c ∧ entriesOf t.waiter = c.entries) ∨
      ∀ e, some e ∈ entriesOf t.waiter → some e ∈ entriesOf s.waiter) := by
    intro hw
    rw [hw]
    exact ⟨hs, Or.inr fun e he => he⟩
  cases h with
  | call c hw => exact ⟨fun e he => he, Or.inl ⟨c, rfl, rfl⟩⟩
  | attachDone c hw =>
      rw [hw]
      exact ⟨fun e he => absurd he List.not_mem_nil, Or.inr fun e he => he⟩
  | attachNull c todo hw | guardAttach c todo i hw =>
      rw [hw] at hs ⊢
      exact ⟨fun e he => hs e (List.mem_cons_of_mem _ he), Or.inr fun e he => he⟩
  | guardReady c todo i hw hg =>
      rw [hw]
      exact ⟨fun e he => he, Or.inr fun e he => he⟩
  | lockToCheck c todo x hw ho =>
      rw [hw] at hs ⊢
      exact ⟨hs, Or.inr fun e he => he⟩
  | checkEmpty c x todo hw hq =>
      rw [hw] at hs ⊢
      exact ⟨hs, Or.inr fun e he => he⟩
  | checkReady c x todo hw hq =>
      rw [hw]
      exact ⟨fun e he => he, Or.inr fun e he => he⟩
  | attach c x todo hw =>
      rw [hw] at hs ⊢
      exact ⟨fun e he => hs e (List.mem_cons_of_mem _ he), Or.inr fun e he => he⟩
  | sleep l c hw ht =>
      rw [hsection c hw]
      exact ⟨fun e he => absurd he List.not_mem_nil, Or.inr fun e he => he⟩
  | leave l c hw ht =>
      rw [hsection c hw]
      exact ⟨fun e he => he, Or.inr fun e he => he⟩
  | returned c done r hw =>
      exact ⟨fun e he => absurd he List.not_mem_nil, Or.inr fun e he => absurd he List.not_mem_nil⟩
  | detachNull c done todo r hw | guardKept c done todo r i hw hg | guardNulled c done todo r i hw hg
  | lockToDetach c done todo r x hw ho =>
      rw [hw] at hs ⊢
      exact ⟨fun e he => hs e (List.mem_cons_of_mem _ he), Or.inr fun e he => he⟩
  | nulled c x done todo r hw hq | kept c x done todo r hw hq =>
      rw [hw] at hs ⊢
      exact ⟨hs, Or.inr fun e he => he⟩
  | arrive u d m hc =>
      obtain ⟨-, -, hw, -, -⟩ := append_fields s m d
      exact hpass hw
  | notify u d hc ha =>
      have hentries : ∀ k : Waiter ι, entriesOf k.signal = entriesOf k ∧ ahead k.signal = ahead k := by
        intro k
        cases k <;> exact ⟨rfl, rfl⟩
      obtain ⟨hsame, hahead⟩ := hentries s.waiter
      refine ⟨?_, Or.inr ?_⟩
      · intro e he
        simp only [Wait.State.notify, hsame, hahead] at he ⊢
        exact hs e he
      · intro e he
        simp only [Wait.State.notify, hsame] at he
        exact he
  | take | lock | passBy | unlock | triggerGuard => exact hpass rfl

omit [DecidableEq ι] [DecidableEq T] in
theorem call_view {c : Call ι} (h : l.view w = some (.call c)) : l = .call w c := by
  cases l with
  | call v c' =>
      simp only [Label.view, Option.ite_none_right_eq_some, Option.some.injEq, Wait.Label.call.injEq] at h
      obtain ⟨rfl, rfl⟩ := h
      rfl
  | waiter | wakeup | take => simp [Label.view] at h
  | arrive | callback | triggerGuard => cases h

theorem inv_step (hs : Inv s) (hok : Separate s l) (h : step s l = some t) : Inv t := by
  have hlock : ∀ v x, holds (s.waiter v) = some x → s.owner x = some (.waiter v) :=
    fun v x hx => ownerAt_eq_waiter ((hs.kept v).locked.waiter x hx)
  have hclear : ∀ w v, w ≠ v → ∀ e, some e ∈ ahead (s.waiter v) → Clear w s e := by
    intro w v hne e he
    have hother := hs.within v e he
    cases e with
    | source x =>
        intro hx
        have hreach := (hs.kept w).swept.confined x (isAt_iff.mpr hx)
        exact hs.apart w v hne _ (entries_of_reach (hs.within w) hreach) hother
    | guardCondition i =>
        intro hi
        have hreach := (hs.kept w).swept.guardConfined i (isAt_iff.mpr hi)
        exact hs.apart w v hne _ (entries_of_reach (hs.within w) hreach) hother
  have hview : ∀ w, Kept (project w t) ∧ Within (t.waiter w) ∧
      ((∃ c, l = .call w c ∧ entriesOf (t.waiter w) = c.entries) ∨
        ∀ e, some e ∈ entriesOf (t.waiter w) → some e ∈ entriesOf (s.waiter w)) := by
    intro w
    cases hk : l.view w with
    | none =>
        rcases frame_step hk h with ⟨v, hne, hframe⟩ | ⟨x, rfl⟩
        · rw [(hframe.others w hne).1, hframe.project_eq hne (hlock v) (hclear w v hne)]
          exact ⟨hs.kept w, hs.within w, Or.inr fun e he => he⟩
        · refine ⟨kept_shrink (hs.kept w) ?_, hs.within w, Or.inr fun e he => he⟩
          intro y hy
          have hempty : s.queue y = [] := hy
          by_cases hxy : y = x
          · subst hxy
            simp [hempty]
          · simp [hxy, hempty]
    | some k =>
        have hstep := step_view hk h
        obtain ⟨hwithin, hentries⟩ := entries_step (Wait.step_cases hstep) (hs.within w)
        refine ⟨kept_step (hs.kept w) hstep, hwithin, hentries.imp_left ?_⟩
        rintro ⟨c, rfl, hc⟩
        exact ⟨c, call_view hk, hc⟩
  refine ⟨fun w => (hview w).1, fun w => (hview w).2.1, ?_⟩
  intro w v hne e he hv
  rcases (hview w).2.2 with ⟨c, rfl, hc⟩ | hw
  · rcases (hview v).2.2 with ⟨c', hcall, -⟩ | hv'
    · cases hcall
      exact hne rfl
    · rw [hc] at he
      exact hok v hne.symm e he (hv' e hv)
  · rcases (hview v).2.2 with ⟨c, rfl, hc⟩ | hv'
    · rw [hc] at hv
      exact hok w hne e hv (hw e he)
    · exact hs.apart w v hne e (hw e he) (hv' e hv)

omit [DecidableEq ι] [DecidableEq T] in
theorem initial_inv : Inv (initial : State W ι M T) := by
  refine ⟨?_, ?_, ?_⟩
  · intro w
    exact initial_kept
  · intro w e he
    cases he
  · intro w v _ e he
    cases he

end Invariant

section Pointers

variable {s t : State W ι M T} {l : Label W ι M T} {v w : W}

/-- Only a call that is to detach them is what conditions point to, whatever
the calls share. -/
structure Pointed (s : State W ι M T) (w : W) : Prop where
  within : Within (s.waiter w)
  source : ∀ x, s.attached x = some w → some (.source x) ∈ reach (s.waiter w)
  guard : ∀ i, s.guardAttached i = some w → some (.guardCondition i) ∈ reach (s.waiter w)

omit [DecidableEq W] [DecidableEq ι] [DecidableEq T] in
theorem fewer_update {κ : Type} [DecidableEq κ] {p : κ → Option W} {a b : κ} {q : Option W} (hne : w ≠ v)
    (hq : q = none ∨ q = some v) (h : Function.update p a q b = some w) : p b = some w := by
  by_cases hab : b = a
  · subst hab
    rw [Function.update_self] at h
    rcases hq with rfl | rfl
    · cases h
    · exact absurd (Option.some.inj h).symm hne
  · rwa [Function.update_of_ne hab] at h

omit [DecidableEq W] [DecidableEq T] in
theorem frame_pointed (hf : Frame v s t) (hne : w ≠ v) (hs : Pointed s w) : Pointed t w := by
  have hw := (hf.others w hne).1
  refine ⟨hw ▸ hs.within, ?_, ?_⟩
  · intro x hx
    rw [hw]
    refine hs.source x ?_
    rcases hf.source with h | ⟨y, q, -, hq, h⟩
    · rwa [h] at hx
    · rw [h] at hx
      exact fewer_update hne hq hx
  · intro i hi
    rw [hw]
    refine hs.guard i ?_
    rcases hf.guard with h | ⟨j, q, -, hq, h⟩
    · rwa [h] at hi
    · rw [h] at hi
      exact fewer_update hne hq hi

structure Confined (s : Wait.State ι M T) : Prop where
  source : ∀ x, s.attached x = true → some (.source x) ∈ reach s.waiter
  guard : ∀ i, s.guardAttached i = true → some (.guardCondition i) ∈ reach s.waiter

omit [DecidableEq ι] [DecidableEq T] in
theorem Confined.keep {s t : Wait.State ι M T} (hs : Confined s) (ha : t.attached = s.attached)
    (hg : t.guardAttached = s.guardAttached) (hr : ∀ e, some e ∈ reach s.waiter → some e ∈ reach t.waiter) :
    Confined t :=
  ⟨fun x hx => hr _ (hs.source x (ha ▸ hx)), fun i hi => hr _ (hs.guard i (hg ▸ hi))⟩

theorem confined_step {s t : Wait.State ι M T} {k : Wait.Label ι M T} (h : Wait.Step s k t)
    (hw : Within s.waiter) (hs : Confined s) : Confined t := by
  have hsection : ∀ c, (k = .waiter ∧ s.waiter = .enter c ∨ ∃ b, s.waiter = .asleep c b) →
      reach s.waiter = c.entries := by
    rintro c (⟨-, h⟩ | ⟨b, h⟩)
    · rw [h]
      rfl
    · rw [h]
      rfl
  have hmem : ∀ {e : Entry ι} {o : Option (Entry ι)} {todo : List (Option (Entry ι))}, o ≠ some e →
      some e ∈ o :: todo → some e ∈ todo := by
    intro e o todo hne he
    exact (List.mem_cons.mp he).resolve_left hne.symm
  cases h with
  | call c hw => exact hs.keep rfl rfl fun e he => by rw [hw] at he; cases he
  | attachDone c hw | attachNull c todo hw | guardReady c todo i hw hg | lockToCheck c todo x hw ho
  | checkEmpty c x todo hw hq | checkReady c x todo hw hq =>
      refine hs.keep rfl rfl fun e he => ?_
      rw [hw] at he
      exact he
  | guardAttach c todo i hw' =>
      rw [hw'] at hw
      have hi : some (.guardCondition i) ∈ c.entries := hw (.guardCondition i) (List.mem_cons_self ..)
      have hsource := hs.source
      have hguard := hs.guard
      rw [hw'] at hsource hguard
      refine ⟨hsource, ?_⟩
      intro j hj
      by_cases hij : j = i
      · subst hij
        exact hi
      · simp only [Function.update_of_ne hij] at hj
        exact hguard j hj
  | attach c x todo hw' =>
      rw [hw'] at hw
      have hx : some (.source x) ∈ c.entries := hw (.source x) (List.mem_cons_self ..)
      have hsource := hs.source
      have hguard := hs.guard
      rw [hw'] at hsource hguard
      refine ⟨?_, hguard⟩
      intro y hy
      by_cases hxy : y = x
      · subst hxy
        exact hx
      · simp only [Function.update_of_ne hxy] at hy
        exact hsource y hy
  | sleep l c hw' ht =>
      refine hs.keep rfl rfl fun e he => ?_
      rw [hsection c hw'] at he
      exact he
  | leave l c hw' ht =>
      refine hs.keep rfl rfl fun e he => ?_
      rw [hsection c hw'] at he
      exact he
  | returned c done r hw' =>
      refine hs.keep rfl rfl fun e he => ?_
      rw [hw'] at he
      exact he
  | detachNull c done todo r hw' =>
      refine hs.keep rfl rfl fun e he => ?_
      rw [hw'] at he
      exact hmem (by simp) he
  | guardKept c done todo r i hw' hg | guardNulled c done todo r i hw' hg =>
      have hsource := hs.source
      have hguard := hs.guard
      rw [hw'] at hsource hguard
      refine ⟨fun x hx => hmem (by simp) (hsource x hx), ?_⟩
      intro j hj
      have hij : j ≠ i := by
        rintro rfl
        simp at hj
      simp only [Function.update_of_ne hij] at hj
      exact hmem (by simpa using hij.symm) (hguard j hj)
  | lockToDetach c done todo r x hw' ho =>
      have hsource := hs.source
      have hguard := hs.guard
      rw [hw'] at hsource hguard
      refine ⟨?_, fun i hi => hmem (by simp) (hguard i hi)⟩
      intro y hy
      have hxy : y ≠ x := by
        rintro rfl
        simp at hy
      simp only [Function.update_of_ne hxy] at hy
      exact hmem (by simpa using hxy.symm) (hsource y hy)
  | nulled c x done todo r hw' hq | kept c x done todo r hw' hq =>
      refine hs.keep rfl rfl fun e he => ?_
      rw [hw'] at he
      exact he
  | arrive u d m hc =>
      obtain ⟨-, -, hwaiter, hattached, hguardAttached⟩ := append_fields s m d
      refine hs.keep hattached hguardAttached fun e he => ?_
      dsimp only
      rwa [hwaiter]
  | notify u d hc ha => exact hs.keep rfl rfl fun e he => by rwa [Wait.State.notify, reach_signal]
  | take | lock | passBy | unlock | triggerGuard => exact hs.keep rfl rfl fun e he => he

theorem pointed_step (h : step s l = some t) (hs : Pointed s w) : Pointed t w := by
  cases hk : l.view w with
  | none =>
      rcases frame_step hk h with ⟨v, hne, hframe⟩ | ⟨x, rfl⟩
      · exact frame_pointed hframe hne hs
      · exact ⟨hs.within, hs.source, hs.guard⟩
  | some k =>
      have hstep := Wait.step_cases (step_view hk h)
      have hconfined : Confined (project w s) :=
        ⟨fun x hx => hs.source x (isAt_iff.mp hx), fun i hi => hs.guard i (isAt_iff.mp hi)⟩
      have hafter := confined_step hstep hs.within hconfined
      exact ⟨(entries_step hstep hs.within).1, fun x hx => hafter.source x (isAt_iff.mpr hx),
        fun i hi => hafter.guard i (isAt_iff.mpr hi)⟩

end Pointers

/-- Whatever the calls share, nothing points to a wait set between its calls.
As long as no two calls under way share an element, no unbounded wait on any
wait set sleeps unsignalled over a message that it is to report, unless a
callback is still on its way to trigger it. -/
theorem wait_sets_kept_apart {s : State W ι M T} {ls : List (Label W ι M T)} (hr : run step initial ls = some s) :
    (∀ w, s.waiter w = .idle → (∀ x, s.attached x ≠ some w) ∧ ∀ i, s.guardAttached i ≠ some w) ∧
    (Every step Separate initial ls → ∀ w c x, c.waitTimeout = none → s.waiter w = .asleep c false →
      some (.source x) ∈ c.entries → s.queue x ≠ [] → ∃ t, Between (s.callback t) x) := by
  constructor
  · intro w hw
    have hpointed : Pointed s w := by
      apply invariant (I := fun s : State W ι M T => Pointed s w) ?_ ?_ ⟨ls, hr⟩
      · intro s l t hs h
        exact pointed_step h hs
      · refine ⟨fun e he => absurd he List.not_mem_nil, ?_, ?_⟩
        · intro x hx
          cases hx
        · intro i hi
          cases hi
    have hsource := hpointed.source
    have hguard := hpointed.guard
    rw [hw] at hsource hguard
    exact ⟨fun x hx => absurd (hsource x hx) List.not_mem_nil, fun i hi => absurd (hguard i hi) List.not_mem_nil⟩
  · intro hls w c x htime hw hx hq
    have hinv : Inv s := invariant_of_every (fun _ _ _ => inv_step) initial_inv hls hr
    have hkept := hinv.kept w
    have hasleep : (project w s).waiter = .asleep c false := hw
    have hwait : waiting (project w s).waiter = some c := by
      rw [hasleep]
      rfl
    have hattached : (project w s).attached x = true := by
      rcases hkept.swept.covered c x hwait hx with h | h
      · rw [hasleep] at h
        cases h
      · exact h
    rcases hkept.attended.pending c x hwait htime hattached hq with ⟨t, h⟩ | h
    · exact ⟨t, h.imp_right Or.inl⟩
    · rw [Woken, hasleep] at h
      cases h

instance decidableSeparate [Fintype W] (s : State W ι M T) (l : Label W ι M T) : Decidable (Separate s l) :=
  match l with
  | .call w c => decidable_of_iff
      (∀ v, v ≠ w → ∀ o ∈ c.entries, o ≠ none → ∀ a ∈ entriesOf (s.waiter v), a ≠ o)
      ⟨fun h v hv e he hmem => h v hv (some e) he (by simp) (some e) hmem rfl, fun h v hv o ho hne a ha heq => by
        obtain ⟨e, rfl⟩ := Option.ne_none_iff_exists'.mp hne
        exact h v hv e ho (heq ▸ ha)⟩
  | .waiter _ | .wakeup _ | .take _ _ | .arrive _ _ _ | .callback _ | .triggerGuard _ => isTrue trivial

def waitFor (subscription : Nat) : Call Nat := ⟨some [some subscription], none, none, none, none⟩

def bothAsleep (subscription : Nat) : List (Label Bool Nat Unit Unit) :=
  .call false (waitFor 0) :: List.replicate 5 (.waiter false) ++
    .call true (waitFor subscription) :: List.replicate 5 (.waiter true)

theorem two_wait_sets_attended : ∃ s, run step initial (bothAsleep 1 ++
    [.arrive () (.waited (.subscription 0)) ()]) = some s ∧ s.waiter false = .asleep (waitFor 0) false ∧
    ∃ t, Between (s.callback t) (.subscription 0) := by
  have hrun : (run step (initial : State Bool Nat Unit Unit) (bothAsleep 1 ++
      [.arrive () (.waited (.subscription 0)) ()])).isSome = true := by decide +kernel
  have hqueue : (run step (initial : State Bool Nat Unit Unit) (bothAsleep 1 ++
      [.arrive () (.waited (.subscription 0)) ()])).map (fun s => s.queue (.subscription 0)) = some [()] := by
    decide +kernel
  have hwaiter : (run step (initial : State Bool Nat Unit Unit) (bothAsleep 1 ++
      [.arrive () (.waited (.subscription 0)) ()])).map (fun s => s.waiter false) =
      some (.asleep (waitFor 0) false) := rfl
  have hevery : Every step Separate (initial : State Bool Nat Unit Unit) (bothAsleep 1 ++
      [.arrive () (.waited (.subscription 0)) ()]) := by decide +kernel
  obtain ⟨s, hs⟩ := Option.isSome_iff_exists.mp hrun
  rw [hs, Option.map_some, Option.some.injEq] at hqueue hwaiter
  exact ⟨s, hs, hwaiter, (wait_sets_kept_apart hs).2 hevery false (waitFor 0) (.subscription 0) rfl hwaiter
    (by decide) (by simp [hqueue])⟩

/-- Both wait on one subscription. The message signals the second thread, and
the first sleeps on. -/
example : (run step (initial : State Bool Nat Unit Unit) (bothAsleep 0 ++
    [.arrive () (.waited (.subscription 0)) (), .callback (), .callback (), .callback ()])).map
    (fun s => (s.waiter false, s.waiter true, s.queue (.subscription 0), s.callback ())) =
    some (.asleep (waitFor 0) false, .asleep (waitFor 0) true, [()], .idle) :=
  rfl

end RmwZenohPico.SeparateWaits
