import RmwZenohPico.Wait

namespace RmwZenohPico.WaitSet

open Lib.LabelledMachine Wait

variable {ι M T : Type}

def holds : Waiter ι → Option (Source ι)
  | .checking _ x _ => some x
  | .attaching _ x _ => some x
  | .detaching _ x _ _ _ => some x
  | _ => none

def waiting : Waiter ι → Option (Call ι)
  | .attach c _ => some c
  | .checking c _ _ => some c
  | .attaching c _ _ => some c
  | .enter c => some c
  | .asleep c _ => some c
  | _ => none

/-- What the attaching loop has not attached yet. -/
def unvisited : Waiter ι → List (Option (Entry ι))
  | .attach _ todo => todo
  | .checking _ x todo => some (.source x) :: todo
  | .attaching _ x todo => some (.source x) :: todo
  | _ => []

def reach : Waiter ι → List (Option (Entry ι))
  | .attach c _ => c.entries
  | .checking c _ _ => c.entries
  | .attaching c _ _ => c.entries
  | .enter c => c.entries
  | .asleep c _ => c.entries
  | .detach _ _ todo _ => todo
  | .detaching _ _ _ todo _ => todo
  | .idle => []

@[simp] theorem holds_signal (w : Waiter ι) : holds w.signal = holds w := by
  cases w <;> rfl

@[simp] theorem waiting_signal (w : Waiter ι) : waiting w.signal = waiting w := by
  cases w <;> rfl

@[simp] theorem unvisited_signal (w : Waiter ι) : unvisited w.signal = unvisited w := by
  cases w <;> rfl

@[simp] theorem reach_signal (w : Waiter ι) : reach w.signal = reach w := by
  cases w <;> rfl

theorem reach_of_waiting {w : Waiter ι} {c : Call ι} (h : waiting w = some c) : reach w = c.entries := by
  cases w <;> cases h <;> rfl

/-- Whoever is inside a critical section owns its mutex. -/
structure Locked (s : State ι M T) : Prop where
  callback : ∀ t d, s.callback t = .locked d ∨ s.callback t = .notified d →
    s.owner d.source = some (.callback t)
  waiter : ∀ x, holds s.waiter = some x → s.owner x = some .waiter

/-- Only elements of the current call are attached; those the attaching loop
has passed are. -/
structure Swept (s : State ι M T) : Prop where
  confined : ∀ x, s.attached x = true → some (.source x) ∈ reach s.waiter
  guardConfined : ∀ i, s.guardAttached i = true → some (.guardCondition i) ∈ reach s.waiter
  covered : ∀ c x, waiting s.waiter = some c → some (.source x) ∈ c.entries →
    some (.source x) ∈ unvisited s.waiter ∨ s.attached x = true
  included : ∀ c e, waiting s.waiter = some c → e ∈ unvisited s.waiter → e ∈ c.entries

section Locks

variable {s t : State ι M T} {x : Source ι}

theorem Locked.keep (hs : Locked s) (ho : t.owner = s.owner) (hc : t.callback = s.callback)
    (hw : ∀ x, holds t.waiter = some x → holds s.waiter = some x) : Locked t := by
  constructor
  · intro u d hu
    rw [ho]
    exact hs.callback u d (hc ▸ hu)
  · intro x hx
    rw [ho]
    exact hs.waiter x (hw x hx)

theorem Locked.callback_ne (hs : Locked s) (hx : ∀ u, s.owner x ≠ some (.callback u)) {u : T} {d : Dest ι}
    (hu : s.callback u = .locked d ∨ s.callback u = .notified d) : d.source ≠ x := by
  rintro rfl
  exact hx u (hs.callback u d hu)

theorem Locked.waiter_ne (hs : Locked s) (hx : s.owner x ≠ some .waiter) {y : Source ι}
    (hy : holds s.waiter = some y) : y ≠ x := by
  rintro rfl
  exact hx (hs.waiter y hy)

variable [DecidableEq ι]

theorem Locked.acquire (hs : Locked s) (hfree : s.owner x = none)
    (ho : t.owner = Function.update s.owner x (some .waiter)) (hc : t.callback = s.callback)
    (hw : holds t.waiter = some x) : Locked t := by
  constructor
  · intro u d hu
    have hne : d.source ≠ x := hs.callback_ne (by simp [hfree]) (hc ▸ hu)
    rw [ho, Function.update_of_ne hne, hs.callback u d (hc ▸ hu)]
  · intro y hy
    rw [hw] at hy
    cases hy
    rw [ho, Function.update_self]

theorem Locked.release (hs : Locked s) (hx : holds s.waiter = some x)
    (ho : t.owner = Function.update s.owner x none) (hc : t.callback = s.callback)
    (hw : holds t.waiter = none) : Locked t := by
  constructor
  · intro u d hu
    have hne : d.source ≠ x := hs.callback_ne (by simp [hs.waiter x hx]) (hc ▸ hu)
    rw [ho, Function.update_of_ne hne, hs.callback u d (hc ▸ hu)]
  · intro y hy
    rw [hw] at hy
    cases hy

variable [DecidableEq T] {l : Label ι M T}

omit [DecidableEq ι] in
theorem Locked.move (hs : Locked s) {u : T} {k : Callback ι} (ho : t.owner = s.owner)
    (hc : t.callback = Function.update s.callback u k) (hw : holds t.waiter = holds s.waiter)
    (hk : ∀ d, k = .locked d ∨ k = .notified d → s.owner d.source = some (.callback u)) : Locked t := by
  constructor
  · intro v d hv
    rw [ho]
    rw [hc] at hv
    by_cases hvu : v = u
    · subst hvu
      rw [Function.update_self] at hv
      exact hk d hv
    · rw [Function.update_of_ne hvu] at hv
      exact hs.callback v d hv
  · intro x hx
    rw [ho]
    exact hs.waiter x (hw ▸ hx)

omit [DecidableEq T] in
theorem append_fields (s : State ι M T) (m : M) (d : Dest ι) :
    (s.append m d).owner = s.owner ∧ (s.append m d).callback = s.callback ∧
    (s.append m d).waiter = s.waiter ∧ (s.append m d).attached = s.attached ∧
    (s.append m d).guardAttached = s.guardAttached := by
  cases d <;> exact ⟨rfl, rfl, rfl, rfl, rfl⟩

theorem locked_step (h : Step s l t) (hs : Locked s) : Locked t := by
  cases h with
  | lockToCheck c todo x hw ho => exact hs.acquire ho rfl rfl rfl
  | lockToDetach c done todo r x hw ho => exact hs.acquire ho rfl rfl rfl
  | checkEmpty c x todo hw hq =>
      refine hs.keep rfl rfl ?_
      intro y hy
      rw [hw]
      exact hy
  | checkReady c x todo hw hq => exact hs.release (x := x) (by rw [hw]; rfl) rfl rfl rfl
  | attach c x todo hw => exact hs.release (x := x) (by rw [hw]; rfl) rfl rfl rfl
  | nulled c x done todo r hw hq => exact hs.release (x := x) (by rw [hw]; rfl) rfl rfl rfl
  | kept c x done todo r hw hq => exact hs.release (x := x) (by rw [hw]; rfl) rfl rfl rfl
  | arrive u d m hc =>
      obtain ⟨ho, hcb, hw, -⟩ := append_fields s m d
      refine hs.move (u := u) (k := .appended d) ho rfl (congrArg holds hw) ?_
      rintro d' (hd | hd) <;> cases hd
  | lock u d hc ho =>
      constructor
      · intro v d' hv
        by_cases hvu : v = u
        · subst hvu
          simp only [Function.update_self] at hv
          rcases hv with hv | hv
          · cases hv
            simp
          · cases hv
        · simp only [Function.update_of_ne hvu] at hv
          have hne : d'.source ≠ d.source := hs.callback_ne (by simp [ho]) hv
          simpa [hne] using hs.callback v d' hv
      · intro x hx
        have hne : x ≠ d.source := hs.waiter_ne (by simp [ho]) hx
        simpa [hne] using hs.waiter x hx
  | notify u d hc ha =>
      refine hs.move (u := u) (k := .notified d) rfl rfl (by simp [State.notify]) ?_
      rintro d' (hd | hd) <;> cases hd
      exact hs.callback u d (Or.inl hc)
  | passBy u d hc ha =>
      refine hs.move (u := u) (k := .notified d) rfl rfl rfl ?_
      rintro d' (hd | hd) <;> cases hd
      exact hs.callback u d (Or.inl hc)
  | unlock u d hc =>
      have hmine := hs.callback u d (Or.inr hc)
      constructor
      · intro v d' hv
        by_cases hvu : v = u
        · subst hvu
          simp at hv
        · simp only [Function.update_of_ne hvu] at hv
          have hown := hs.callback v d' hv
          have hne : d'.source ≠ d.source := by
            intro heq
            rw [heq, hmine] at hown
            cases hown
            exact hvu rfl
          simpa [hne] using hown
      · intro x hx
        have hne : x ≠ d.source := hs.waiter_ne (by simp [hmine]) hx
        simpa [hne] using hs.waiter x hx
  | triggerGuard i => exact hs.keep rfl rfl fun x hx => hx
  | take x hw => exact hs.keep rfl rfl fun y hy => hy
  | call | attachDone | attachNull | guardReady | guardAttach | sleep | leave | returned | detachNull
  | guardKept | guardNulled =>
      refine hs.keep rfl rfl ?_
      intro x hx
      cases hx

end Locks

section Sweep

variable {s t : State ι M T}

theorem Swept.keep (hs : Swept s) (ha : t.attached = s.attached) (hg : t.guardAttached = s.guardAttached)
    (hr : reach t.waiter = reach s.waiter) (hw : waiting t.waiter = waiting s.waiter)
    (hu : unvisited t.waiter = unvisited s.waiter) : Swept t := by
  constructor
  · rw [ha, hr]
    exact hs.confined
  · rw [hg, hr]
    exact hs.guardConfined
  · rw [hw, hu, ha]
    exact hs.covered
  · rw [hw, hu]
    exact hs.included

theorem Swept.outside (hw : waiting t.waiter = none)
    (hc : ∀ x, t.attached x = true → some (.source x) ∈ reach t.waiter)
    (hg : ∀ i, t.guardAttached i = true → some (.guardCondition i) ∈ reach t.waiter) : Swept t := by
  refine ⟨hc, hg, ?_, ?_⟩
  · intro c x hwait
    rw [hw] at hwait
    cases hwait
  · intro c e hwait
    rw [hw] at hwait
    cases hwait

theorem Swept.turn (hs : Swept s) {c : Call ι} (hwait : waiting s.waiter = some c)
    (ha : t.attached = s.attached) (hg : t.guardAttached = s.guardAttached)
    (hw : t.waiter = .detach c [] c.entries false) : Swept t := by
  have hreach := reach_of_waiting hwait
  apply Swept.outside
  · rw [hw]
    rfl
  · intro x hx
    rw [ha] at hx
    have hmem := hs.confined x hx
    rw [hreach] at hmem
    rw [hw]
    exact hmem
  · intro i hi
    rw [hg] at hi
    have hmem := hs.guardConfined i hi
    rw [hreach] at hmem
    rw [hw]
    exact hmem

variable [DecidableEq ι] [DecidableEq T] {l : Label ι M T}

omit [DecidableEq T] in
theorem swept_attach {s : State ι M T} (hs : Swept s) {c : Call ι} {x : Source ι}
    {todo : List (Option (Entry ι))} (hw : s.waiter = .attaching c x todo) :
    Swept { s with
      attached := Function.update s.attached x true
      owner := Function.update s.owner x none
      waiter := .attach c todo } := by
  have hincluded := hs.included c
  have hcovered := hs.covered c
  have hconfined := hs.confined
  have hguard := hs.guardConfined
  simp only [hw, waiting, unvisited, reach, forall_const, List.mem_cons, Option.some.injEq,
    Entry.source.injEq] at hincluded hcovered hconfined hguard
  constructor
  · intro y hy
    by_cases hyx : y = x
    · subst hyx
      exact hincluded _ (Or.inl rfl)
    · exact hconfined y (by simpa [hyx] using hy)
  · exact hguard
  · intro c' y hc' hy
    cases hc'
    by_cases hyx : y = x
    · right
      simp [hyx]
    · rcases hcovered y hy with (hz | hz) | hz
      · exact absurd hz hyx
      · exact Or.inl hz
      · right
        simpa [hyx] using hz
  · intro c' e hc' he
    cases hc'
    exact hincluded e (Or.inr he)

omit [DecidableEq ι] [DecidableEq T] in
theorem swept_attachTail {s : State ι M T} (hs : Swept s) {c : Call ι} {e : Option (Entry ι)}
    {todo : List (Option (Entry ι))} (hw : s.waiter = .attach c (e :: todo))
    (he : ∀ x, e ≠ some (.source x)) {g : ι → Bool}
    (hg : ∀ i, g i = true → s.guardAttached i = true ∨ e = some (.guardCondition i)) :
    Swept { s with guardAttached := g, waiter := .attach c todo } := by
  have hincluded := hs.included c
  have hcovered := hs.covered c
  have hconfined := hs.confined
  have hguard := hs.guardConfined
  simp only [hw, waiting, unvisited, reach, forall_const, List.mem_cons] at hincluded hcovered hconfined hguard
  constructor
  · exact hconfined
  · intro i hi
    rcases hg i hi with hold | rfl
    · exact hguard i hold
    · exact hincluded _ (Or.inl rfl)
  · intro c' y hc' hy
    cases hc'
    rcases hcovered y hy with (hz | hz) | hz
    · exact absurd hz.symm (he y)
    · exact Or.inl hz
    · exact Or.inr hz
  · intro c' e' hc' he'
    cases hc'
    exact hincluded e' (Or.inr he')

omit [DecidableEq ι] [DecidableEq T] in
theorem swept_detachTail {s : State ι M T} (hs : Swept s) {c : Call ι} {e : Option (Entry ι)}
    {done todo done' : List (Option (Entry ι))} {r r' : Bool} (hw : s.waiter = .detach c done (e :: todo) r)
    (he : ∀ x, e ≠ some (.source x)) {g : ι → Bool}
    (hg : ∀ i, g i = true → s.guardAttached i = true ∧ e ≠ some (.guardCondition i)) :
    Swept { s with guardAttached := g, waiter := .detach c done' todo r' } := by
  have hconfined := hs.confined
  have hguard := hs.guardConfined
  simp only [hw, reach, List.mem_cons] at hconfined hguard
  apply Swept.outside rfl
  · intro y hy
    rcases hconfined y hy with hz | hz
    · exact absurd hz.symm (he y)
    · exact hz
  · intro i hi
    obtain ⟨hold, hne⟩ := hg i hi
    rcases hguard i hold with hz | hz
    · exact absurd hz.symm hne
    · exact hz

theorem swept_step (h : Step s l t) (hs : Swept s) : Swept t := by
  cases h with
  | call c hw =>
      have hconfined := hs.confined
      have hguard := hs.guardConfined
      simp only [hw, reach, List.not_mem_nil, imp_false] at hconfined hguard
      constructor
      · intro x hx
        exact absurd hx (hconfined x)
      · intro i hi
        exact absurd hi (hguard i)
      · intro c' x hc' hx
        cases hc'
        exact Or.inl hx
      · intro c' e hc' he
        cases hc'
        exact he
  | attachDone c hw => exact hs.keep rfl rfl (by rw [hw]; rfl) (by rw [hw]; rfl) (by rw [hw]; rfl)
  | attachNull c todo hw => exact swept_attachTail hs hw (by simp) fun i hi => Or.inl hi
  | guardReady c todo i hw hg => exact hs.turn (c := c) (by rw [hw]; rfl) rfl rfl rfl
  | guardAttach c todo i hw =>
      refine swept_attachTail hs hw (by simp) ?_
      intro j hj
      by_cases hji : j = i
      · exact Or.inr (by rw [hji])
      · exact Or.inl (by simpa [hji] using hj)
  | lockToCheck c todo x hw ho => exact hs.keep rfl rfl (by rw [hw]; rfl) (by rw [hw]; rfl) (by rw [hw]; rfl)
  | checkEmpty c x todo hw hq => exact hs.keep rfl rfl (by rw [hw]; rfl) (by rw [hw]; rfl) (by rw [hw]; rfl)
  | checkReady c x todo hw hq => exact hs.turn (c := c) (by rw [hw]; rfl) rfl rfl rfl
  | attach c x todo hw => exact swept_attach hs hw
  | sleep l c hw ht =>
      rcases hw with ⟨-, hw⟩ | ⟨b, hw⟩
      · exact hs.keep rfl rfl (by rw [hw]; rfl) (by rw [hw]; rfl) (by rw [hw]; rfl)
      · exact hs.keep rfl rfl (by rw [hw]; rfl) (by rw [hw]; rfl) (by rw [hw]; rfl)
  | leave l c hw ht =>
      rcases hw with ⟨-, hw⟩ | ⟨b, hw⟩
      · exact hs.turn (c := c) (by rw [hw]; rfl) rfl rfl rfl
      · exact hs.turn (c := c) (by rw [hw]; rfl) rfl rfl rfl
  | returned c done r hw => exact hs.keep rfl rfl (by rw [hw]; rfl) (by rw [hw]; rfl) (by rw [hw]; rfl)
  | detachNull c done todo r hw =>
      exact swept_detachTail hs hw (by simp) fun i hi => ⟨hi, by simp⟩
  | guardKept c done todo r i hw hg =>
      refine swept_detachTail hs hw (by simp) ?_
      intro j hj
      have hji : j ≠ i := by
        rintro rfl
        simp at hj
      exact ⟨by simpa [hji] using hj, by simpa using hji.symm⟩
  | guardNulled c done todo r i hw hg =>
      refine swept_detachTail hs hw (by simp) ?_
      intro j hj
      have hji : j ≠ i := by
        rintro rfl
        simp at hj
      exact ⟨by simpa [hji] using hj, by simpa using hji.symm⟩
  | lockToDetach c done todo r x hw ho =>
      have hconfined := hs.confined
      have hguard := hs.guardConfined
      simp only [hw, reach, List.mem_cons] at hconfined hguard
      apply Swept.outside rfl
      · intro y hy
        have hyx : y ≠ x := by
          rintro rfl
          simp at hy
        have hold : s.attached y = true := by simpa [hyx] using hy
        simpa [reach, hyx] using hconfined y hold
      · intro i hi
        simpa [reach] using hguard i hi
  | nulled c x done todo r hw hq => exact hs.keep rfl rfl (by rw [hw]; rfl) (by rw [hw]; rfl) (by rw [hw]; rfl)
  | kept c x done todo r hw hq => exact hs.keep rfl rfl (by rw [hw]; rfl) (by rw [hw]; rfl) (by rw [hw]; rfl)
  | arrive u d m hc =>
      obtain ⟨-, -, hw, ha, hg⟩ := append_fields s m d
      exact hs.keep ha hg (congrArg reach hw) (congrArg waiting hw) (congrArg unvisited hw)
  | notify u d hc ha => exact hs.keep rfl rfl (reach_signal _) (waiting_signal _) (unvisited_signal _)
  | take | lock | passBy | unlock | triggerGuard => exact hs.keep rfl rfl rfl rfl rfl

end Sweep

end RmwZenohPico.WaitSet
