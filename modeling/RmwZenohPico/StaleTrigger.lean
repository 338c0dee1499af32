import RmwZenohPico.LostWakeup

namespace RmwZenohPico.StaleTrigger

open Lib.LabelledMachine RmwTypes Wait WaitSet LostWakeup

variable {ι M T : Type}

def Ready (s : State ι M T) : Entry ι → Prop
  | .guardCondition i => s.guardTriggered i = true
  | .source x => s.queue x ≠ []

def AnyReady (s : State ι M T) (es : List (Option (Entry ι))) : Prop := ∃ e, some e ∈ es ∧ Ready s e

def Reports (s : State ι M T) : Prop :=
  ∀ q ∈ s.returned, q.call.waitTimeout = none → q.ret = .ok ∧ ∃ e, some e ∈ q.entries

/-- The flag of the wait set tells an unbounded wait the truth: it is not left
set for a wait section in which nothing is ready, and it is not set in one by
a callback that leaves nothing ready. -/
def FlagTruthful (s : State ι M T) : Label ι M T → Prop
  | .waiter => ∀ c, s.waiter = .enter c → c.waitTimeout = none → s.triggered = true →
      AnyReady s c.entries
  | .callback t => ∀ c b d, s.waiter = .asleep c b → c.waitTimeout = none →
      s.callback t = .locked d → s.attached d.source = true → AnyReady s c.entries
  | _ => True

def Finds (s : State ι M T) (done todo : List (Option (Entry ι))) (r : Bool) : Prop :=
  AnyReady s todo ∨ r = true ∧ ∃ e, some e ∈ done

def Promised (s : State ι M T) : Prop :=
  match s.waiter with
  | .asleep c _ => c.waitTimeout = none → s.triggered = true → AnyReady s c.entries
  | .detach c done todo r => c.waitTimeout = none → Finds s done todo r
  | .detaching c x done todo r => c.waitTimeout = none → Finds s done (some (.source x) :: todo) r
  | _ => True

theorem AnyReady.mono {s t : State ι M T} {es : List (Option (Entry ι))} (h : AnyReady s es)
    (hq : ∀ x, s.queue x ≠ [] → t.queue x ≠ [])
    (hg : ∀ i, s.guardTriggered i = true → t.guardTriggered i = true) : AnyReady t es := by
  obtain ⟨e, he, hready⟩ := h
  refine ⟨e, he, ?_⟩
  cases e with
  | guardCondition i => exact hg i hready
  | source x => exact hq x hready

theorem Promised.mono {s t : State ι M T} (h : Promised s) (hw : t.waiter = s.waiter)
    (ht : t.triggered = s.triggered) (hq : ∀ x, s.queue x ≠ [] → t.queue x ≠ [])
    (hg : ∀ i, s.guardTriggered i = true → t.guardTriggered i = true) : Promised t := by
  unfold Promised at h ⊢
  rw [hw, ht]
  cases hsw : s.waiter with
  | asleep c b =>
      rw [hsw] at h
      exact fun hc htr => (h hc htr).mono hq hg
  | detach c done todo r =>
      rw [hsw] at h
      exact fun hc => (h hc).imp (fun ha => ha.mono hq hg) id
  | detaching c x done todo r =>
      rw [hsw] at h
      exact fun hc => (h hc).imp (fun ha => ha.mono hq hg) id
  | idle | attach | checking | attaching | enter => trivial

theorem Finds.pass {s : State ι M T} {done todo : List (Option (Entry ι))} {e : Option (Entry ι)} {r : Bool}
    (h : Finds s done (e :: todo) r) (he : ∀ f, e = some f → ¬ Ready s f) :
    Finds s (done ++ [none]) todo r := by
  rcases h with ⟨f, hf, hready⟩ | ⟨hr, f, hf⟩
  · rcases List.mem_cons.mp hf with hf | hf
    · exact absurd hready (he f hf.symm)
    · exact Or.inl ⟨f, hf, hready⟩
  · exact Or.inr ⟨hr, f, List.mem_append_left _ hf⟩

theorem finds_kept {s : State ι M T} {done todo : List (Option (Entry ι))} {e : Entry ι} :
    Finds s (done ++ [some e]) todo true :=
  Or.inr ⟨rfl, e, by simp⟩

variable [DecidableEq ι] [DecidableEq T] {s t : State ι M T} {l : Label ι M T}

omit [DecidableEq T] in
theorem promised_guard (hswept : Swept s) (hs : Promised s) (i : ι) :
    Promised (guardConditionTrigger s i) := by
  have hg : ∀ j, s.guardTriggered j = true → (guardConditionTrigger s i).guardTriggered j = true := by
    intro j hj
    by_cases hji : j = i
    · simp [guardConditionTrigger, hji]
    · simpa [guardConditionTrigger, hji] using hj
  unfold Promised at hs ⊢
  simp only [guardConditionTrigger]
  cases hw : s.waiter with
  | asleep c b =>
      intro hc htr
      rw [hw] at hs
      rcases Bool.or_eq_true_iff.mp htr with htr | hattached
      · exact (hs hc htr).mono (fun _ => id) hg
      · have hmem := hswept.guardConfined i hattached
        rw [hw] at hmem
        exact ⟨.guardCondition i, hmem, by simp [Ready]⟩
  | detach c done todo r =>
      rw [hw] at hs
      exact fun hc => (hs hc).imp (fun ha => ha.mono (fun _ => id) hg) id
  | detaching c x done todo r =>
      rw [hw] at hs
      exact fun hc => (hs hc).imp (fun ha => ha.mono (fun _ => id) hg) id
  | idle | attach | checking | attaching | enter => trivial

omit [DecidableEq ι] in
theorem promised_notify (hs : Promised s) {u : T} {d : Dest ι} (hc : s.callback u = .locked d)
    (ha : s.attached d.source = true) (hok : FlagTruthful s (.callback u)) :
    Promised { s.notify with callback := Function.update s.callback u (.notified d) } := by
  unfold Promised at hs ⊢
  simp only [State.notify]
  cases hw : s.waiter with
  | asleep c b => exact fun htime _ => hok c b d hw htime hc ha
  | detach c done todo r =>
      rw [hw] at hs
      exact hs
  | detaching c x done todo r =>
      rw [hw] at hs
      exact hs
  | idle | attach | checking | attaching | enter => trivial

omit [DecidableEq ι] [DecidableEq T] in
theorem promised_leave (hs : Promised s) {c : Call ι}
    (hw : l = .waiter ∧ s.waiter = .enter c ∨ ∃ b, s.waiter = .asleep c b)
    (ht : c.waitTimeout = none → s.triggered = true) (hok : FlagTruthful s l) :
    Promised (s.leave c) := by
  intro hc
  rcases hw with ⟨rfl, hw⟩ | ⟨b, hw⟩
  · exact Or.inl (hok c hw hc (ht hc))
  · rw [Promised, hw] at hs
    exact Or.inl (hs hc (ht hc))

theorem promised_step (h : Step s l t) (hswept : Swept s) (hs : Promised s) (hok : FlagTruthful s l) :
    Promised t := by
  cases h with
  | call | attachDone | attachNull | guardAttach | lockToCheck | checkEmpty | attach | returned =>
      trivial
  | guardReady c todo i hw hg =>
      intro _
      have hmem := hswept.included c (some (.guardCondition i)) (by rw [hw]; rfl) (by rw [hw]; simp [unvisited])
      exact Or.inl ⟨.guardCondition i, hmem, hg⟩
  | checkReady c x todo hw hq =>
      intro _
      have hmem := hswept.included c (some (.source x)) (by rw [hw]; rfl) (by rw [hw]; simp [unvisited])
      exact Or.inl ⟨.source x, hmem, hq⟩
  | sleep l c hw ht =>
      intro hc htr
      rw [ht hc] at htr
      cases htr
  | leave l c hw ht => exact promised_leave hs hw ht hok
  | detachNull c done todo r hw =>
      rw [Promised, hw] at hs
      intro hc
      apply (hs hc).pass
      intro f hf
      cases hf
  | guardKept c done todo r i hw hg => exact fun _ => finds_kept
  | guardNulled c done todo r i hw hg =>
      rw [Promised, hw] at hs
      intro hc
      apply (hs hc).pass
      intro f hf hready
      cases hf
      rw [Ready, hg] at hready
      cases hready
  | lockToDetach c done todo r x hw ho =>
      rw [Promised, hw] at hs
      exact hs
  | nulled c x done todo r hw hq =>
      rw [Promised, hw] at hs
      intro hc
      apply (hs hc).pass
      intro f hf hready
      cases hf
      exact hready hq
  | kept c x done todo r hw hq => exact fun _ => finds_kept
  | take x hw =>
      rw [Promised]
      simp only [hw]
  | arrive u d m hc =>
      cases d with
      | clientRequest i => exact hs
      | waited y =>
          refine hs.mono rfl rfl ?_ fun _ => id
          intro x hx
          by_cases hxy : x = y
          · simp [State.append, hxy]
          · simpa [State.append, hxy] using hx
  | notify u d hc ha => exact promised_notify hs hc ha hok
  | lock | passBy | unlock => exact hs
  | triggerGuard i => exact promised_guard hswept hs i

theorem reports_step (h : Step s l t) (hs : Promised s) (hreports : Reports s) : Reports t := by
  cases h with
  | returned c done r hw =>
      intro q hq hc
      rcases List.mem_append.mp hq with hq | hq
      · exact hreports q hq hc
      · rw [List.mem_singleton] at hq
        subst hq
        rw [Promised, hw] at hs
        rcases hs hc with ⟨e, he, -⟩ | ⟨rfl, hkept⟩
        · cases he
        · exact ⟨rfl, hkept⟩
  | arrive u d m hc =>
      cases d with
      | waited y => exact hreports
      | clientRequest i => exact hreports
  | _ => exact hreports

/-- While the flag of the wait set is truthful, an unbounded wait never times
out. -/
theorem unbounded_wait_reports {ls : List (Label ι M T)} (hflag : Every step FlagTruthful initial ls) :
    Always step Reports (initial : State ι M T) ls := by
  have hstep : ∀ (s : State ι M T) l t, Kept s ∧ Promised s ∧ Reports s → FlagTruthful s l →
      step s l = some t → Kept t ∧ Promised t ∧ Reports t := by
    rintro s l t ⟨hkept, hs, hreports⟩ hok h
    have hstep := step_cases h
    exact ⟨kept_step hkept h, promised_step hstep hkept.swept hs hok, reports_step hstep hs hreports⟩
  have hinitial : Kept (initial : State ι M T) ∧ Promised (initial : State ι M T) ∧
      Reports (initial : State ι M T) := by
    refine ⟨initial_kept, trivial, ?_⟩
    intro q hq
    cases hq
  exact always_mono (fun _ h => h.2.2) (always_of_every hstep hinitial hflag)

theorem arrival_reported : Always step Reports initial
    (arrivalRun ++ [.callback (), .callback (), .callback (), .waiter, .waiter, .waiter, .waiter]) := by
  apply unbounded_wait_reports
  refine ⟨trivial, ?_⟩
  rintro _ ⟨⟩
  iterate 4
    refine ⟨fun c hc => (by cases hc), ?_⟩
    rintro _ ⟨⟩
  refine ⟨fun c _ _ hset => (by cases hset), ?_⟩
  rintro _ ⟨⟩
  refine ⟨trivial, ?_⟩
  rintro _ ⟨⟩
  refine ⟨fun c b d _ _ hlocked => (by cases hlocked), ?_⟩
  rintro _ ⟨⟩
  refine ⟨?_, ?_⟩
  · intro c b d hc _ _ _
    cases hc
    exact ⟨.source (.subscription 0), by decide, List.cons_ne_nil () []⟩
  rintro _ ⟨⟩
  refine ⟨fun c b d _ _ hlocked => (by cases hlocked), ?_⟩
  rintro _ ⟨⟩
  iterate 4
    refine ⟨fun c hc => (by cases hc), ?_⟩
    rintro _ ⟨⟩
  trivial

def TimesOut (s : State ι M T) (c : Call ι) : Prop :=
  ∃ ls t, run step s ls = some t ∧ ∃ es, (⟨c, es, .timeout⟩ : Return ι) ∈ t.returned

theorem TimesOut.of_step {c : Call ι} (h : step s l = some t) (ht : TimesOut t c) : TimesOut s c := by
  obtain ⟨ls, u, hr, hu⟩ := ht
  exact ⟨l :: ls, u, by rw [run, h]; exact hr, hu⟩

theorem detach_times_out {c : Call ι} {todo : List (Option (Entry ι))} {done : List (Option (Entry ι))}
    (hw : s.waiter = .detach c done todo false) (ho : ∀ x, s.owner x = none)
    (hr : ¬ AnyReady s todo) : TimesOut s c := by
  induction todo generalizing s done with
  | nil =>
      refine ⟨[.waiter], _, by simp [run, step, waiterStep, hw, detachStep]; rfl, done, ?_⟩
      simp
  | cons e todo ih =>
      have hrest : ¬ AnyReady s todo := by
        rintro ⟨f, hf, hready⟩
        exact hr ⟨f, List.mem_cons_of_mem _ hf, hready⟩
      rcases e with _ | i | x
      · have hstep : step s .waiter = some { s with waiter := .detach c (done ++ [none]) todo false } := by
          simp [step, waiterStep, hw, detachStep]
        exact TimesOut.of_step hstep (ih rfl ho hrest)
      · have hg : s.guardTriggered i = false := by
          by_contra hg
          exact hr ⟨.guardCondition i, by simp, by simpa [Ready] using hg⟩
        have hstep : step s .waiter = some { s with
            guardAttached := Function.update s.guardAttached i false
            waiter := .detach c (done ++ [none]) todo false } := by
          simp [step, waiterStep, hw, detachStep, hg]
        exact TimesOut.of_step hstep (ih rfl ho hrest)
      · have hq : s.queue x = [] := by
          by_contra hq
          exact hr ⟨.source x, by simp, hq⟩
        have hlock : step s .waiter = some { s with
            owner := Function.update s.owner x (some .waiter)
            attached := Function.update s.attached x false
            waiter := .detaching c x done todo false } := by
          simp [step, waiterStep, hw, detachStep, ho x]
        apply TimesOut.of_step hlock
        apply TimesOut.of_step (l := .waiter) (t := { s with
          owner := Function.update (Function.update s.owner x (some .waiter)) x none
          attached := Function.update s.attached x false
          waiter := .detach c (done ++ [none]) todo false })
        · simp [step, waiterStep, hq]
        · refine ih rfl ?_ hrest
          intro y
          by_cases hyx : y = x
          · simp [hyx]
          · simpa [hyx] using ho y

/-- A wait section that is left over a set flag with nothing ready times out
unless a message still arrives. -/
theorem untruthful_flag_times_out {c : Call ι} (hw : s.waiter = .enter c ∨ s.waiter = .asleep c true)
    (hc : c.waitTimeout = none) (ht : s.triggered = true) (ho : ∀ x, s.owner x = none)
    (hr : ¬ AnyReady s c.entries) : TimesOut s c := by
  have hstep : step s .waiter = some (s.leave c) := by
    rcases hw with hw | hw
    · simp [step, waiterStep, hw, State.enterSection, State.wake, hc, ht]
    · simp [step, waiterStep, hw, State.wake, hc, ht]
  exact TimesOut.of_step hstep (detach_times_out rfl ho hr)

def bothSubscriptions : Call Nat := ⟨some [some 0, some 1], none, none, none, none⟩

/-- The second subscription has a message, so the first call does not sleep.
The first one gets its message while it is attached, which sets the flag. Both
are taken, and the next call finds the flag. -/
def staleRun : List (Label Nat Unit Unit) :=
  [.arrive () (.waited (.subscription 1)) (), .callback (), .callback (), .callback (),
    .call bothSubscriptions, .waiter, .waiter, .waiter, .waiter, .waiter,
    .arrive () (.waited (.subscription 0)) (), .callback (), .callback (), .callback (),
    .waiter, .waiter, .waiter, .waiter, .waiter,
    .take (.subscription 0), .take (.subscription 1),
    .call oneSubscription, .waiter, .waiter, .waiter, .waiter, .waiter, .waiter, .waiter, .waiter]

theorem stale_flag_times_out :
    (run step initial staleRun).map (fun s => s.returned.map fun q => (q.ret, q.entries)) =
      some [(.ok, [some (.source (.subscription 0)), some (.source (.subscription 1))]),
        (.timeout, [none])] ∧
    ¬ Always step Reports initial staleRun := by
  have hreturned : (run step initial staleRun).map
      (fun s => s.returned.map fun q => (q.ret, q.entries)) =
      some [(.ok, [some (.source (.subscription 0)), some (.source (.subscription 1))]),
        (.timeout, [none])] := rfl
  have hcalls : (run step initial staleRun).map
      (fun s => s.returned.map fun q => (q.call.waitTimeout, q.ret)) =
      some [(none, .ok), (none, .timeout)] := rfl
  refine ⟨hreturned, ?_⟩
  intro halways
  obtain ⟨s, hs, hlog⟩ := Option.map_eq_some_iff.mp hcalls
  have hlast : ((none, .timeout) : Option RmwTime × RmwRet) ∈
      s.returned.map fun q => (q.call.waitTimeout, q.ret) := by
    rw [hlog]
    simp
  obtain ⟨q, hq, heq⟩ := List.mem_map.mp hlast
  rw [Prod.mk.injEq] at heq
  have hok := (halways staleRun s (List.prefix_refl _) hs q hq heq.1).1
  rw [heq.2] at hok
  cases hok

end RmwZenohPico.StaleTrigger
