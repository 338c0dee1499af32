import RmwZenohPico.GuardCondition
import RmwZenohPico.Lib.Recorded

namespace RmwZenohPico.WaitReport

open Lib.LabelledMachine Lib.Recorded RmwTypes Wait WaitSet

variable {ι M T U : Type}

/-- What is noted of a call: which queues held messages when it came, and of
every element that the detaching loops have visited whether it was ready. -/
structure Notes (ι : Type) where
  before : Source ι → Bool
  seen : List (Option (Entry ι) × Bool)

abbrev History (ι M T U : Type) := GuardCondition.State ι M T U × Notes ι

def initial : History ι M T U := (GuardCondition.initial, ⟨fun _ => false, []⟩)

def note (s : GuardCondition.State ι M T U) (l : GuardCondition.Label ι M T U) (n : Notes ι) : Notes ι :=
  match l, s.wait.waiter with
  | .wait (.call _), _ => ⟨fun x => !(s.wait.queue x).isEmpty, []⟩
  | .wait .waiter, .detach _ _ (none :: _) _ => { n with seen := n.seen ++ [(none, false)] }
  | .wait .waiter, .detach _ _ (some (.guardCondition i) :: _) _ =>
      { n with seen := n.seen ++ [(some (.guardCondition i), s.wait.guardTriggered i)] }
  | .wait .waiter, .detaching _ x _ _ _ =>
      { n with seen := n.seen ++ [(some (.source x), !(s.wait.queue x).isEmpty)] }
  | _, _ => n

def report (p : Option (Entry ι) × Bool) : Option (Entry ι) := if p.2 then p.1 else none

structure Reported (s : GuardCondition.State ι M T U) (n : Notes ι) (q : Return ι) : Prop where
  visited : n.seen.map Prod.fst = q.call.entries
  entries : q.entries = n.seen.map report
  ret : q.ret = .ok ↔ ∃ e, some e ∈ q.entries
  detached : ∀ x, s.wait.attached x = false
  guardDetached : ∀ i, s.wait.guardAttached i = false
  before : ∀ x, some (.source x) ∈ q.call.entries → n.before x = true → some (.source x) ∈ q.entries

structure Progress (n : Notes ι) (c : Call ι) (done todo : List (Option (Entry ι))) (r : Bool) : Prop where
  visited : n.seen.map Prod.fst ++ todo = c.entries
  reported : done = n.seen.map report
  result : r = true ↔ ∃ e, some e ∈ done
  before : ∀ x b, (some (.source x), b) ∈ n.seen → n.before x = true → b = true

def Ahead (n : Notes ι) (c : Call ι) (todo : List (Option (Entry ι))) : Prop :=
  ∀ x, some (.source x) ∈ c.entries → n.before x = true → some (.source x) ∈ todo

def Place (n : Notes ι) : Waiter ι → Prop
  | .idle => True
  | .attach c todo => n.seen = [] ∧ Ahead n c todo
  | .checking c x todo => n.seen = [] ∧ Ahead n c (some (.source x) :: todo)
  | .attaching c _ todo => n.seen = [] ∧ Ahead n c todo
  | .enter c | .asleep c _ => n.seen = [] ∧ Ahead n c []
  | .detach c done todo r => Progress n c done todo r
  | .detaching c x done todo r => Progress n c done (some (.source x) :: todo) r

/-- During a call no queue is emptied, and the notes fit the place of the
waiter. -/
structure Tracked (s : Wait.State ι M T) (n : Notes ι) : Prop where
  queued : s.waiter ≠ .idle → ∀ x, n.before x = true → s.queue x ≠ []
  place : Place n s.waiter

theorem Progress.start {n : Notes ι} {c : Call ι} (h : n.seen = []) : Progress n c [] c.entries false := by
  constructor <;> simp [h]

theorem Progress.visit {n : Notes ι} {c : Call ι} {done todo : List (Option (Entry ι))} {r : Bool}
    {e : Option (Entry ι)} {b : Bool} (h : Progress n c done (e :: todo) r)
    (hb : ∀ x, e = some (.source x) → n.before x = true → b = true) :
    Progress { n with seen := n.seen ++ [(e, b)] } c (done ++ [report (e, b)]) todo
      (r || (report (e, b)).isSome) := by
  constructor
  · simp [← h.visited]
  · simp [h.reported]
  · rw [Bool.or_eq_true, h.result, Option.isSome_iff_exists]
    simp [exists_or, eq_comm]
  · intro x b' hx hbefore
    rcases List.mem_append.mp hx with hx | hx
    · exact h.before x b' hx hbefore
    · cases List.mem_singleton.mp hx
      exact hb x rfl hbefore

theorem Ahead.pass {n : Notes ι} {c : Call ι} {e : Option (Entry ι)} {todo : List (Option (Entry ι))}
    (h : Ahead n c (e :: todo)) (he : ∀ x, e = some (.source x) → n.before x = false) : Ahead n c todo := by
  intro x hx hbefore
  rcases List.mem_cons.mp (h x hx hbefore) with hxe | hxe
  · rw [he x hxe.symm] at hbefore
    cases hbefore
  · exact hxe

theorem place_signal {n : Notes ι} {w : Waiter ι} (h : Place n w) : Place n w.signal := by
  cases w <;> exact h

section Steps

variable {s : GuardCondition.State ι M T U} {n : Notes ι}

theorem note_other {l : Wait.Label ι M T} (hcall : ∀ c, l ≠ .call c)
    (hw : l = .waiter → (∀ c done e todo r, s.wait.waiter ≠ .detach c done (e :: todo) r) ∧
      ∀ c x done todo r, s.wait.waiter ≠ .detaching c x done todo r) : note s (.wait l) n = n := by
  cases l with
  | call c => exact absurd rfl (hcall c)
  | waiter =>
      obtain ⟨hdetach, hdetaching⟩ := hw rfl
      unfold note
      split
      · cases ‹_›
      · exact absurd ‹_› (hdetach _ _ _ _ _)
      · exact absurd ‹_› (hdetach _ _ _ _ _)
      · exact absurd ‹_› (hdetaching _ _ _ _ _)
      · rfl
  | wakeup | take | arrive | callback | triggerGuard => simp only [note]

theorem Tracked.visit (hs : Tracked s.wait n) (hbusy : s.wait.waiter ≠ .idle) {c : Call ι}
    {done todo : List (Option (Entry ι))} {r : Bool} {e : Option (Entry ι)} {b : Bool}
    (hplace : Progress n c done (e :: todo) r)
    (hb : ∀ x, e = some (.source x) → n.before x = true → b = true) {w : Wait.State ι M T}
    (hq : w.queue = s.wait.queue)
    (hw : w.waiter = .detach c (done ++ [report (e, b)]) todo (r || (report (e, b)).isSome)) :
    Tracked w { n with seen := n.seen ++ [(e, b)] } := by
  constructor
  · intro _
    rw [hq]
    exact hs.queued hbusy
  · rw [hw]
    exact hplace.visit hb

theorem tracked_section (hs : Tracked s.wait n) {l : Wait.Label ι M T} {c : Call ι}
    (hidle : ∀ c, l = .call c → s.wait.waiter = .idle)
    (hw : l = .waiter ∧ s.wait.waiter = .enter c ∨ ∃ b, s.wait.waiter = .asleep c b) :
    s.wait.waiter ≠ .idle ∧ note s (.wait l) n = n ∧ n.seen = [] ∧ Ahead n c [] := by
  have hplace := hs.place
  rcases hw with ⟨rfl, hw⟩ | ⟨b, hw⟩
  · rw [hw] at hplace
    exact ⟨by simp [hw], note_other (by simp) (by simp [hw]), hplace⟩
  · rw [hw] at hplace
    refine ⟨by simp [hw], note_other ?_ (by simp [hw]), hplace⟩
    intro c' hl
    have hcall := hidle c' hl
    rw [hw] at hcall
    cases hcall

variable [DecidableEq ι] [DecidableEq T]

theorem tracked_wait {l : Wait.Label ι M T} {w : Wait.State ι M T} (h : Wait.Step s.wait l w)
    (hidle : ∀ c, l = .call c → s.wait.waiter = .idle) (hs : Tracked s.wait n) :
    Tracked w (note s (.wait l) n) := by
  have hplace := hs.place
  cases h with
  | call c hw => exact ⟨fun _ x hx => by simpa [note] using hx, rfl, fun x hx _ => hx⟩
  | attachDone c hw =>
      rw [hw] at hplace
      rw [note_other (by simp) (by simp [hw])]
      exact ⟨fun _ => hs.queued (by simp [hw]), hplace⟩
  | attachNull c todo hw =>
      rw [hw] at hplace
      rw [note_other (by simp) (by simp [hw])]
      exact ⟨fun _ => hs.queued (by simp [hw]), hplace.1, hplace.2.pass (by simp)⟩
  | guardReady c todo i hw hg =>
      rw [hw] at hplace
      rw [note_other (by simp) (by simp [hw])]
      exact ⟨fun _ => hs.queued (by simp [hw]), Progress.start hplace.1⟩
  | guardAttach c todo i hw =>
      rw [hw] at hplace
      rw [note_other (by simp) (by simp [hw])]
      exact ⟨fun _ => hs.queued (by simp [hw]), hplace.1, hplace.2.pass (by simp)⟩
  | lockToCheck c todo x hw ho =>
      rw [hw] at hplace
      rw [note_other (by simp) (by simp [hw])]
      exact ⟨fun _ => hs.queued (by simp [hw]), hplace⟩
  | checkEmpty c x todo hw hq =>
      rw [hw] at hplace
      rw [note_other (by simp) (by simp [hw])]
      refine ⟨fun _ => hs.queued (by simp [hw]), hplace.1, hplace.2.pass ?_⟩
      intro y hy
      cases hy
      by_contra hbefore
      exact hs.queued (by simp [hw]) x (by simpa using hbefore) hq
  | checkReady c x todo hw hq =>
      rw [hw] at hplace
      rw [note_other (by simp) (by simp [hw])]
      exact ⟨fun _ => hs.queued (by simp [hw]), Progress.start hplace.1⟩
  | attach c x todo hw =>
      rw [hw] at hplace
      rw [note_other (by simp) (by simp [hw])]
      exact ⟨fun _ => hs.queued (by simp [hw]), hplace⟩
  | sleep l c hw ht =>
      obtain ⟨hbusy, hnote, hfront⟩ := tracked_section hs hidle hw
      rw [hnote]
      exact ⟨fun _ => hs.queued hbusy, hfront⟩
  | leave l c hw ht =>
      obtain ⟨hbusy, hnote, hfront⟩ := tracked_section hs hidle hw
      rw [hnote]
      exact ⟨fun _ => hs.queued hbusy, Progress.start hfront.1⟩
  | returned c done r hw =>
      rw [note_other (by simp) (by simp [hw])]
      exact ⟨fun hidle => absurd rfl hidle, trivial⟩
  | detachNull c done todo r hw =>
      rw [hw] at hplace
      simp only [note, hw]
      exact hs.visit (by simp [hw]) hplace (by simp) rfl (by simp [report])
  | guardKept c done todo r i hw hg =>
      rw [hw] at hplace
      simp only [note, hw, hg]
      exact hs.visit (by simp [hw]) hplace (by simp) rfl (by simp [report])
  | guardNulled c done todo r i hw hg =>
      rw [hw] at hplace
      simp only [note, hw, hg]
      exact hs.visit (by simp [hw]) hplace (by simp) rfl (by simp [report])
  | lockToDetach c done todo r x hw ho =>
      rw [hw] at hplace
      simp only [note, hw]
      exact ⟨fun _ => hs.queued (by simp [hw]), hplace⟩
  | nulled c x done todo r hw hq =>
      rw [hw] at hplace
      simp only [note, hw, hq]
      refine hs.visit (by simp [hw]) hplace ?_ rfl (by simp [report])
      intro y hy hbefore
      cases hy
      exact absurd hq (hs.queued (by simp [hw]) x hbefore)
  | kept c x done todo r hw hq =>
      rw [hw] at hplace
      have hready : (!(s.wait.queue x).isEmpty) = true := by simpa using hq
      simp only [note, hw, hready]
      exact hs.visit (by simp [hw]) hplace (by simp) rfl (by simp [report])
  | take x hw =>
      rw [note_other (by simp) (by simp)]
      exact ⟨fun hidle => absurd hw hidle, hplace⟩
  | arrive u d m hc =>
      rw [note_other (by simp) (by simp)]
      cases d with
      | clientRequest i => exact ⟨hs.queued, hplace⟩
      | waited y =>
          refine ⟨?_, hplace⟩
          intro hbusy x hbefore
          by_cases hxy : x = y
          · simp [State.append, hxy]
          · simpa [State.append, hxy] using hs.queued hbusy x hbefore
  | lock u d hc ho =>
      rw [note_other (by simp) (by simp)]
      exact ⟨hs.queued, hplace⟩
  | notify u d hc ha =>
      rw [note_other (by simp) (by simp)]
      refine ⟨fun hbusy => hs.queued ?_, place_signal hplace⟩
      intro hw
      exact hbusy (by simp [State.notify, hw, Waiter.signal])
  | passBy u d hc ha =>
      rw [note_other (by simp) (by simp)]
      exact ⟨hs.queued, hplace⟩
  | unlock u d hc =>
      rw [note_other (by simp) (by simp)]
      exact ⟨hs.queued, hplace⟩
  | triggerGuard i =>
      rw [note_other (by simp) (by simp)]
      exact ⟨hs.queued, hplace⟩

theorem call_idle {s t : Wait.State ι M T} {c : Call ι} (h : Wait.step s (.call c) = some t) :
    s.waiter = .idle := by
  cases hw : s.waiter with
  | idle => rfl
  | attach | checking | attaching | enter | asleep | detach | detaching => simp [Wait.step, hw] at h

theorem returned_cases {s t : Wait.State ι M T} {l : Wait.Label ι M T} {q : Return ι} (h : Wait.Step s l t)
    (hq : t.returned = s.returned ++ [q]) : ∃ c done r, s.waiter = .detach c done [] r ∧ t.waiter = .idle ∧
      l = .waiter ∧ q = ⟨c, done, if r then .ok else .timeout⟩ := by
  cases h with
  | returned c done r hw => exact ⟨c, done, r, hw, rfl, rfl, by simpa using hq.symm⟩
  | arrive u d m hc => cases d <;> simp [State.append] at hq
  | leave l c hw ht => simp [State.leave] at hq
  | notify u d hc ha => simp [State.notify] at hq
  | triggerGuard i => simp [guardConditionTrigger] at hq
  | _ => simp at hq

variable [DecidableEq U] {t : GuardCondition.State ι M T U} {l : GuardCondition.Label ι M T U}

theorem tracked_step (h : GuardCondition.step s l = some t) (hs : Tracked s.wait n) :
    Tracked t.wait (note s l n) := by
  cases GuardCondition.step_cases h with
  | wait k w hw =>
      refine tracked_wait hw ?_ hs
      rintro c rfl
      simp only [GuardCondition.step, Option.ite_none_left_eq_some, Option.map_eq_some_iff] at h
      obtain ⟨-, w', hcall, -⟩ := h
      exact call_idle hcall
  | trigger | lock | flag | complete => exact ⟨hs.queued, hs.place⟩

theorem swept_step (h : GuardCondition.step s l = some t) (hs : Swept s.wait) : Swept t.wait := by
  cases GuardCondition.step_cases h with
  | wait k w hw => exact WaitSet.swept_step hw hs
  | trigger | lock | flag | complete => exact hs.keep rfl rfl rfl rfl rfl

end Steps

section Runs

variable [DecidableEq ι] [DecidableEq T] [DecidableEq U]

def machine : Machine (History ι M T U) (GuardCondition.Label ι M T U) := recorded GuardCondition.step note

theorem reachable_swept {s : History ι M T U} (hr : Reachable machine initial s) : Swept s.1.wait := by
  apply invariant (I := fun s : GuardCondition.State ι M T U => Swept s.wait) ?_ ?_ (reachable_fst hr)
  · intro s l t hs h
    exact swept_step h hs
  · exact LostWakeup.initial_kept.swept

theorem reachable_tracked {s : History ι M T U} (hr : Reachable machine initial s) :
    Tracked s.1.wait s.2 := by
  apply invariant (I := fun s : History ι M T U => Tracked s.1.wait s.2) ?_ ?_ hr
  · intro s l t hs h
    obtain ⟨hstep, hnote⟩ := recorded_cases h
    rw [hnote]
    exact tracked_step hstep hs
  · exact ⟨fun hbusy => absurd rfl hbusy, trivial⟩

omit [DecidableEq ι] [DecidableEq T] [DecidableEq U] in
theorem progress_reported {t : GuardCondition.State ι M T U} {n : Notes ι} {c : Call ι}
    {done : List (Option (Entry ι))} {r : Bool} (h : Progress n c done [] r) (hswept : Swept t.wait)
    (hw : t.wait.waiter = .idle) : Reported t n ⟨c, done, if r then .ok else .timeout⟩ := by
  have hvisited : n.seen.map Prod.fst = c.entries := by simpa using h.visited
  have hconfined := hswept.confined
  have hguard := hswept.guardConfined
  simp only [hw, reach, List.not_mem_nil, imp_false, Bool.not_eq_true] at hconfined hguard
  refine ⟨hvisited, h.reported, ?_, hconfined, hguard, ?_⟩
  · rw [← h.result]
    cases r <;> simp
  · intro x hx hbefore
    rw [← hvisited] at hx
    obtain ⟨⟨e, b⟩, hseen, he⟩ := List.mem_map.mp hx
    obtain rfl : e = some (.source x) := he
    have hready := h.before x b hseen hbefore
    dsimp only
    rw [h.reported]
    exact List.mem_map.mpr ⟨_, hseen, by simp [report, hready]⟩

/-- A call that has something to report from its beginning does not come to
its wait section, and a call that returns reports what was ready. -/
theorem wait_reports {s : History ι M T U} (hr : Reachable machine initial s) :
    (∀ c x, s.1.wait.waiter = .enter c ∨ (∃ b, s.1.wait.waiter = .asleep c b) →
      some (.source x) ∈ c.entries → s.2.before x = false) ∧
    ∀ l t q, machine s l = some t → t.1.wait.returned = s.1.wait.returned ++ [q] → Reported t.1 t.2 q := by
  have htracked := reachable_tracked hr
  have hswept := reachable_swept hr
  have hplace := htracked.place
  constructor
  · intro c x hw hx
    by_contra hbefore
    rw [Bool.not_eq_false] at hbefore
    rcases hw with hw | ⟨b, hw⟩
    · rw [hw] at hplace
      cases hplace.2 x hx hbefore
    · rw [hw] at hplace
      cases hplace.2 x hx hbefore
  · intro l t q h hq
    obtain ⟨hstep, hnote⟩ := recorded_cases h
    have hswept' := swept_step hstep hswept
    rw [hnote]
    generalize t.1 = u at hstep hq hswept'
    cases GuardCondition.step_cases hstep with
    | wait k w hk =>
        obtain ⟨c, done, r, hw, hidle, rfl, rfl⟩ := returned_cases hk hq
        rw [hw] at hplace
        rw [note_other (by simp) (by simp [hw])]
        exact progress_reported hplace hswept' hidle
    | trigger | lock | flag | complete => simp at hq

def mixedCall : Call Nat := ⟨some [none, some 0], some [some 0], none, some [some 0], some ⟨1, 0⟩⟩

/-- The subscription has a message before the call, so that the client is not
attached. The message of the client arrives during the detaching loops. -/
def mixedRun : List (GuardCondition.Label Nat Unit Unit Unit) :=
  [.wait (.arrive () (.waited (.subscription 0)) ()), .wait (.callback ()), .wait (.callback ()),
    .wait (.callback ()), .wait (.call mixedCall), .wait .waiter, .wait .waiter, .wait .waiter,
    .wait .waiter, .wait .waiter, .wait .waiter, .wait .waiter, .wait .waiter,
    .wait (.arrive () (.waited (.client 0)) ()), .wait .waiter, .wait .waiter]

theorem mixedCall_reported : ∃ s t q, run machine (initial : History Nat Unit Unit Unit) mixedRun = some s ∧
    machine s (.wait .waiter) = some t ∧ q.ret = .ok ∧
    q.entries = [none, none, some (.source (.subscription 0)), some (.source (.client 0))] ∧
    Reported t.1 t.2 q := by
  have hplace : (run machine (initial : History Nat Unit Unit Unit) mixedRun).map (·.1.wait.waiter) =
      some (.detach mixedCall [none, none, some (.source (.subscription 0)), some (.source (.client 0))] []
        true) := rfl
  obtain ⟨s, hs, hw⟩ := Option.map_eq_some_iff.mp hplace
  have hstep : ∃ t q, machine s (.wait .waiter) = some t ∧ t.1.wait.returned = s.1.wait.returned ++ [q] ∧
      q = ⟨mixedCall, [none, none, some (.source (.subscription 0)), some (.source (.client 0))], .ok⟩ := by
    simp [machine, recorded, GuardCondition.step, GuardCondition.State.blocked, GuardCondition.atGuard, hw,
      Wait.step, waiterStep, detachStep, GuardCondition.State.follow]
  obtain ⟨t, q, ht, hreturned, rfl⟩ := hstep
  exact ⟨s, t, _, hs, ht, rfl, rfl, (wait_reports ⟨mixedRun, hs⟩).2 _ _ _ ht hreturned⟩

end Runs

end RmwZenohPico.WaitReport
