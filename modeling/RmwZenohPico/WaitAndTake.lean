import RmwZenohPico.GuardCondition
import RmwZenohPico.Lib.Recorded

namespace RmwZenohPico.WaitAndTake

open Lib.LabelledMachine Lib.Recorded Wait WaitSet

variable {ι M T U : Type}

/-- What the last call of rmw_wait reported and nobody has taken from since,
the messages taken, and how many calls have returned. -/
structure Notes (ι M : Type) where
  pending : Source ι → Bool
  taken : Source ι → List M
  rounds : Nat

abbrev History (ι M T U : Type) := GuardCondition.State ι M T U × Notes ι M

def initial : History ι M T U := (GuardCondition.initial, ⟨fun _ => false, fun _ => [], 0⟩)

section Definitions

variable [DecidableEq ι]

def note (s : GuardCondition.State ι M T U) (l : GuardCondition.Label ι M T U) (n : Notes ι M) :
    Notes ι M :=
  match l, s.wait.waiter with
  | .wait .waiter, .detach _ done [] _ =>
      { n with pending := fun x => decide (some (.source x) ∈ done), rounds := n.rounds + 1 }
  | .wait (.take x), _ =>
      { n with
        pending := Function.update n.pending x false
        taken := Function.update n.taken x (n.taken x ++ (s.wait.queue x).take 1) }
  | _, _ => n

/-- The thread takes from x what was reported of it before it waits again, and
waits on x every time. -/
def Obliging (x : Source ι) (s : History ι M T U) : GuardCondition.Label ι M T U → Prop
  | .wait (.call c) => s.2.pending x = false ∧ some (.source x) ∈ c.entries
  | _ => True

end Definitions

def kept : Waiter ι → List (Option (Entry ι))
  | .detach _ done _ _ => done
  | .detaching _ _ done _ _ => done
  | _ => []

structure Ready (s : Wait.State ι M T) (n : Notes ι M) : Prop where
  kept : ∀ x, some (.source x) ∈ kept s.waiter → s.queue x ≠ []
  pending : s.waiter = .idle → ∀ x, n.pending x = true → s.queue x ≠ []

def Due (x : Source ι) : Waiter ι → Prop
  | .idle => False
  | .attach c _ | .checking c _ _ | .attaching c _ _ | .enter c | .asleep c _ => some (.source x) ∈ c.entries
  | .detach _ done todo _ => some (.source x) ∈ done ++ todo
  | .detaching _ y done todo _ => some (.source x) ∈ done ++ some (.source y) :: todo

section Steps

variable [DecidableEq ι] [DecidableEq T] {s t : Wait.State ι M T} {l : Wait.Label ι M T} {x : Source ι}

omit [DecidableEq ι] [DecidableEq T] in
theorem outside_section {c : Call ι} (hidle : (∃ c, l = .call c) ∨ (∃ y, l = .take y) → s.waiter = .idle)
    (hw : l = .waiter ∧ s.waiter = .enter c ∨ ∃ b, s.waiter = .asleep c b) :
    (∀ y, l ≠ .take y) ∧ s.waiter ≠ .idle ∧ ∀ c done r, s.waiter ≠ .detach c done [] r := by
  rcases hw with ⟨rfl, hw⟩ | ⟨b, hw⟩
  · simp [hw]
  · refine ⟨?_, by simp [hw], by simp [hw]⟩
    rintro y rfl
    have htake := hidle (Or.inr ⟨y, rfl⟩)
    rw [hw] at htake
    cases htake

omit [DecidableEq ι] [DecidableEq T] in
theorem due_section {c : Call ι} (hw : l = .waiter ∧ s.waiter = .enter c ∨ ∃ b, s.waiter = .asleep c b) :
    Due x s.waiter ↔ some (.source x) ∈ c.entries := by
  rcases hw with ⟨-, hw⟩ | ⟨b, hw⟩
  · rw [hw]
    rfl
  · rw [hw]
    rfl

theorem queue_step (hidle : (∃ c, l = .call c) ∨ (∃ y, l = .take y) → s.waiter = .idle)
    (h : Wait.Step s l t) (x : Source ι) :
    (l = .take x ∧ t.queue x = (s.queue x).tail) ∨ l ≠ .take x ∧ ∃ new, t.queue x = s.queue x ++ new := by
  cases h with
  | take y hw =>
      by_cases hxy : x = y
      · subst hxy
        exact Or.inl ⟨rfl, Function.update_self ..⟩
      · refine Or.inr ⟨fun hl => hxy (Wait.Label.take.inj hl).symm, [], ?_⟩
        simp [hxy]
  | arrive u d m hc =>
      refine Or.inr ⟨by simp, ?_⟩
      cases d with
      | clientRequest i => exact ⟨[], (List.append_nil _).symm⟩
      | waited y =>
          by_cases hxy : x = y
          · subst hxy
            exact ⟨[m], Function.update_self ..⟩
          · exact ⟨[], by simp [State.append, hxy]⟩
  | sleep l c hw ht | leave l c hw ht =>
      exact Or.inr ⟨(outside_section hidle hw).1 x, [], (List.append_nil _).symm⟩
  | call | attachDone | attachNull | guardReady | guardAttach | lockToCheck | checkEmpty | checkReady
  | attach | returned | detachNull | guardKept | guardNulled | lockToDetach | nulled | kept
  | lock | notify | passBy | unlock | triggerGuard =>
      exact Or.inr ⟨by simp, [], (List.append_nil _).symm⟩

theorem kept_step (h : Wait.Step s l t) (hs : ∀ x, some (.source x) ∈ kept s.waiter → s.queue x ≠ [])
    (hx : some (.source x) ∈ kept t.waiter) : s.queue x ≠ [] := by
  cases h with
  | detachNull c done todo r hw | guardNulled c done todo r i hw hg | nulled c y done todo r hw hq =>
      refine hs x ?_
      rw [hw]
      simpa [WaitAndTake.kept] using hx
  | guardKept c done todo r i hw hg =>
      refine hs x ?_
      rw [hw]
      simpa [WaitAndTake.kept] using hx
  | lockToDetach c done todo r y hw ho =>
      refine hs x ?_
      rw [hw]
      exact hx
  | kept c y done todo r hw hq =>
      simp only [WaitAndTake.kept, List.mem_append, List.mem_singleton, Option.some.injEq,
        Entry.source.injEq] at hx
      rcases hx with hx | rfl
      · refine hs x ?_
        rw [hw]
        exact hx
      · exact hq
  | arrive u d m hc =>
      obtain ⟨-, -, hw, -, -⟩ := append_fields s m d
      exact hs x (hw ▸ hx)
  | notify u d hc ha =>
      refine hs x ?_
      cases hw : s.waiter <;> simp [State.notify, Waiter.signal, hw, WaitAndTake.kept] at hx ⊢
      · exact hx
      · exact hx
  | take | lock | passBy | unlock | triggerGuard => exact hs x hx
  | call | attachDone | attachNull | guardReady | guardAttach | lockToCheck | checkEmpty | checkReady
  | attach | sleep | leave | returned => cases hx

theorem due_step (h : Wait.Step s l t) (hq : s.queue x ≠ []) (hs : s.waiter ≠ .idle) (ht : t.waiter ≠ .idle) :
    Due x t.waiter ↔ Due x s.waiter := by
  cases h with
  | call c hw => exact absurd hw hs
  | returned => exact absurd rfl ht
  | take y hw => exact absurd hw hs
  | attachDone c hw | attachNull c todo hw | guardReady c todo i hw hg | guardAttach c todo i hw
  | lockToCheck c todo y hw ho | checkEmpty c y todo hw hq | checkReady c y todo hw hq | attach c y todo hw
  | detachNull c done todo r hw | guardKept c done todo r i hw hg | guardNulled c done todo r i hw hg
  | lockToDetach c done todo r y hw ho | kept c y done todo r hw hq =>
      rw [hw]
      simp [Due]
  | nulled c y done todo r hw hempty =>
      have hxy : x ≠ y := by
        rintro rfl
        exact hq hempty
      rw [hw]
      simp [Due, hxy]
  | sleep l c hw hflag | leave l c hw hflag =>
      rw [due_section hw]
      simp [Due, State.leave]
  | arrive u d m hc =>
      obtain ⟨-, -, hw, -, -⟩ := append_fields s m d
      exact iff_of_eq (congrArg (Due x) hw)
  | notify u d hc ha => cases hw : s.waiter <;> simp [State.notify, Waiter.signal, hw, Due]
  | lock | passBy | unlock | triggerGuard => exact Iff.rfl

inductive Phase (s : Wait.State ι M T) (l : Wait.Label ι M T) (t : Wait.State ι M T) : Prop
  | outside (hs : s.waiter = .idle) (ht : t.waiter = .idle)
  | called (c) (hl : l = .call c) (hs : s.waiter = .idle) (ht : t.waiter = .attach c c.entries)
  | inside (hs : s.waiter ≠ .idle) (ht : t.waiter ≠ .idle)
      (hw : ∀ c done r, l = .waiter → s.waiter ≠ .detach c done [] r)
  | returned (c done r) (hl : l = .waiter) (hs : s.waiter = .detach c done [] r) (ht : t.waiter = .idle)
      (hq : t.queue = s.queue)

theorem phase_cases (hidle : (∃ c, l = .call c) ∨ (∃ y, l = .take y) → s.waiter = .idle)
    (h : Wait.Step s l t) : Phase s l t := by
  have hsame : t.waiter = s.waiter → l ≠ .waiter → Phase s l t := by
    intro hw hl
    by_cases hs : s.waiter = .idle
    · exact .outside hs (hw.trans hs)
    · exact .inside hs (hw ▸ hs) fun c done r h => absurd h hl
  cases h with
  | call c hw => exact .called c rfl hw rfl
  | returned c done r hw => exact .returned c done r rfl hw rfl rfl
  | take y hw => exact .outside hw hw
  | attachDone c hw | attachNull c todo hw | guardReady c todo i hw hg | guardAttach c todo i hw
  | lockToCheck c todo y hw ho | checkEmpty c y todo hw hq | checkReady c y todo hw hq | attach c y todo hw
  | detachNull c done todo r hw | guardKept c done todo r i hw hg | guardNulled c done todo r i hw hg
  | lockToDetach c done todo r y hw ho | kept c y done todo r hw hq | nulled c y done todo r hw hq =>
      refine .inside ?_ ?_ ?_
      · rw [hw]
        simp
      · simp
      · rw [hw]
        simp
  | sleep l c hw hflag | leave l c hw hflag =>
      obtain ⟨-, hbusy, hdetach⟩ := outside_section hidle hw
      exact .inside hbusy (by simp [State.leave]) fun c done r _ => hdetach c done r
  | arrive u d m hc =>
      obtain ⟨-, -, hw, -, -⟩ := append_fields s m d
      exact hsame hw (by simp)
  | notify u d hc ha =>
      by_cases hs : s.waiter = .idle
      · exact .outside hs (by simp [State.notify, hs, Waiter.signal])
      · refine .inside hs ?_ (by simp)
        cases hw : s.waiter <;> simp_all [State.notify, Waiter.signal]
  | lock | passBy | unlock | triggerGuard => exact hsame rfl (by simp)

end Steps

section Notes

variable [DecidableEq ι] {s : GuardCondition.State ι M T U} {n : Notes ι M} {l : Wait.Label ι M T}

theorem note_keep (htake : ∀ x, l ≠ .take x)
    (hw : ∀ c done r, l = .waiter → s.wait.waiter ≠ .detach c done [] r) : note s (.wait l) n = n := by
  cases l with
  | take y => exact absurd rfl (htake y)
  | waiter =>
      simp only [note]
      split
      · rename_i hdetach
        exact absurd hdetach (hw _ _ _ rfl)
      · rename_i h
        cases h
      · rfl
  | call | arrive | callback | wakeup | triggerGuard => rfl

theorem note_taken (s : GuardCondition.State ι M T U) (l : Wait.Label ι M T) (n : Notes ι M) {x : Source ι}
    (hl : l ≠ .take x) : (note s (.wait l) n).taken x = n.taken x := by
  cases l with
  | take y =>
      have hxy : x ≠ y := fun h => hl (congrArg _ h.symm)
      exact Function.update_of_ne hxy ..
  | waiter =>
      simp only [note]
      split
      · rfl
      · rename_i h
        cases h
      · rfl
  | call | arrive | callback | wakeup | triggerGuard => rfl

theorem note_idle (hs : s.wait.waiter = .idle) {x : Source ι} (hl : l ≠ .take x) :
    (note s (.wait l) n).pending x = n.pending x ∧ (note s (.wait l) n).rounds = n.rounds := by
  cases l with
  | take y =>
      have hxy : x ≠ y := fun h => hl (congrArg _ h.symm)
      exact ⟨Function.update_of_ne hxy .., rfl⟩
  | waiter => simp [note, hs]
  | call | arrive | callback | wakeup | triggerGuard => exact ⟨rfl, rfl⟩

end Notes

section Runs

variable [DecidableEq ι] [DecidableEq T] {s t : GuardCondition.State ι M T U} {n n₀ : Notes ι M}
  {l : Wait.Label ι M T} {w : Wait.State ι M T} {x : Source ι} {q : List M}

omit [DecidableEq ι] [DecidableEq T] in
theorem Ready.keep (hs : Ready s.wait n) (hw : w.waiter = s.wait.waiter) (hq : w.queue = s.wait.queue) :
    Ready w n := by
  constructor
  · rw [hw, hq]
    exact hs.kept
  · rw [hw, hq]
    exact hs.pending

theorem queue_kept (hidle : (∃ c, l = .call c) ∨ (∃ y, l = .take y) → s.wait.waiter = .idle)
    (h : Wait.Step s.wait l w) (hl : l ≠ .take x) (hq : s.wait.queue x ≠ []) : w.queue x ≠ [] := by
  rcases queue_step hidle h x with ⟨htake, -⟩ | ⟨-, new, hnew⟩
  · exact absurd htake hl
  · rw [hnew]
    exact List.append_ne_nil_of_left_ne_nil hq new

theorem ready_wait (hidle : (∃ c, l = .call c) ∨ (∃ y, l = .take y) → s.wait.waiter = .idle)
    (h : Wait.Step s.wait l w) (hs : Ready s.wait n) : Ready w (note s (.wait l) n) := by
  constructor
  · intro x hx
    have hbefore := kept_step h hs.kept hx
    by_cases hl : l = .take x
    · cases phase_cases hidle h with
      | outside hs ht =>
          rw [ht] at hx
          cases hx
      | called c hcall => rw [hl] at hcall; cases hcall
      | inside hs => exact absurd (hidle (Or.inr ⟨x, hl⟩)) hs
      | returned c done r hwaiter => rw [hl] at hwaiter; cases hwaiter
    · exact queue_kept hidle h hl hbefore
  · intro ht x hx
    cases phase_cases hidle h with
    | outside hidle' ht =>
        by_cases hl : l = .take x
        · subst hl
          simp [note] at hx
        · rw [(note_idle hidle' hl).1] at hx
          exact queue_kept hidle h hl (hs.pending hidle' x hx)
    | called c hl hs hattach =>
        rw [ht] at hattach
        cases hattach
    | inside hs hbusy => exact absurd ht hbusy
    | returned c done r hl hdetach ht hq =>
        subst hl
        simp only [note, hdetach, decide_eq_true_eq] at hx
        rw [hq]
        refine hs.kept x ?_
        rw [hdetach]
        exact hx

theorem order_step (hidle : (∃ c, l = .call c) ∨ (∃ y, l = .take y) → s.wait.waiter = .idle)
    (h : Wait.Step s.wait l w) (x : Source ι) :
    ∃ new, (note s (.wait l) n).taken x ++ w.queue x = n.taken x ++ s.wait.queue x ++ new := by
  rcases queue_step hidle h x with ⟨rfl, hq⟩ | ⟨hl, new, hq⟩
  · refine ⟨[], ?_⟩
    have htaken : (note s (.wait (.take x)) n).taken x = n.taken x ++ (s.wait.queue x).take 1 :=
      Function.update_self ..
    rw [htaken, hq, List.append_nil, List.append_assoc, ← List.drop_one, List.take_append_drop]
  · refine ⟨new, ?_⟩
    rw [note_taken s l n hl, hq, List.append_assoc]

/-- n has at most k returned calls more than messages taken from x since n₀. -/
def Behind (x : Source ι) (n₀ n : Notes ι M) (k : Nat) : Prop :=
  n.rounds + (n₀.taken x).length ≤ n₀.rounds + (n.taken x).length + k

structure Served (x : Source ι) (n₀ : Notes ι M) (q : List M) (s : Wait.State ι M T) (n : Notes ι M) : Prop where
  order : ∃ new, n.taken x ++ s.queue x = n₀.taken x ++ q ++ new
  idle : s.waiter = .idle → ¬ n₀.taken x ++ q <+: n.taken x → Behind x n₀ n (1 + (n.pending x).toNat)
  busy : s.waiter ≠ .idle → ¬ n₀.taken x ++ q <+: n.taken x → Behind x n₀ n 1
  late : s.waiter ≠ .idle → ¬ n₀.taken x ++ q <+: n.taken x → ¬ Due x s.waiter → Behind x n₀ n 0

omit [DecidableEq ι] [DecidableEq T] in
theorem Served.more (hs : Served x n₀ q s.wait n) (hmore : ¬ n₀.taken x ++ q <+: n.taken x) :
    s.wait.queue x ≠ [] := by
  intro hq
  obtain ⟨new, horder⟩ := hs.order
  rw [hq, List.append_nil] at horder
  exact hmore ⟨new, horder.symm⟩

omit [DecidableEq T] in
theorem taken_grows (s : GuardCondition.State ι M T U) (l : Wait.Label ι M T) (n : Notes ι M) (x : Source ι) :
    n.taken x <+: (note s (.wait l) n).taken x := by
  by_cases hl : l = .take x
  · subst hl
    have htaken : (note s (.wait (.take x)) n).taken x = n.taken x ++ (s.wait.queue x).take 1 :=
      Function.update_self ..
    rw [htaken]
    exact List.prefix_append ..
  · rw [note_taken s l n hl]

theorem served_wait (hidle : (∃ c, l = .call c) ∨ (∃ y, l = .take y) → s.wait.waiter = .idle)
    (h : Wait.Step s.wait l w) (hok : Obliging x (s, n) (.wait l)) (hs : Served x n₀ q s.wait n) :
    Served x n₀ q w (note s (.wait l) n) := by
  have horder : ∃ new, (note s (.wait l) n).taken x ++ w.queue x = n₀.taken x ++ q ++ new := by
    obtain ⟨new, hnew⟩ := order_step (n := n) hidle h x
    obtain ⟨old, hold⟩ := hs.order
    exact ⟨old ++ new, by rw [hnew, hold, List.append_assoc]⟩
  have hbefore : ¬ n₀.taken x ++ q <+: (note s (.wait l) n).taken x → ¬ n₀.taken x ++ q <+: n.taken x :=
    fun hmore hall => hmore (hall.trans (taken_grows s l n x))
  cases phase_cases hidle h with
  | outside hout ht =>
      refine ⟨horder, ?_, fun hbusy => absurd ht hbusy, fun hbusy => absurd ht hbusy⟩
      intro _ hmore
      have hbehind := hs.idle hout (hbefore hmore)
      by_cases hl : l = .take x
      · subst hl
        have hq := List.length_pos_iff.mpr (hs.more (hbefore hmore))
        have hpending := Bool.toNat_le (n.pending x)
        simp only [Behind, note, Function.update_self, List.length_append, List.length_take, Bool.toNat_false]
          at hbehind ⊢
        omega
      · obtain ⟨hpending, hrounds⟩ := note_idle (n := n) hout hl
        unfold Behind
        rw [hpending, hrounds, note_taken s l n hl]
        exact hbehind
  | called c hl hout ht =>
      subst hl
      have hbusy : w.waiter ≠ .idle := by
        rw [ht]
        simp
      refine ⟨horder, fun hidle => absurd hidle hbusy, ?_, ?_⟩
      · intro _ hmore
        have hbehind := hs.idle hout (hbefore hmore)
        rw [hok.1] at hbehind
        exact hbehind
      · intro _ _ hdue
        rw [ht] at hdue
        exact absurd hok.2 hdue
  | inside hin hbusy hw =>
      have hkeep : note s (.wait l) n = n := note_keep (fun y hl => hin (hidle (Or.inr ⟨y, hl⟩))) hw
      rw [hkeep] at horder ⊢
      refine ⟨horder, fun hidle => absurd hidle hbusy, fun _ => hs.busy hin, ?_⟩
      intro _ hmore hdue
      rw [due_step h (hs.more hmore) hin hbusy] at hdue
      exact hs.late hin hmore hdue
  | returned c done r hl hdetach ht hq =>
      subst hl
      have hin : s.wait.waiter ≠ .idle := by
        rw [hdetach]
        simp
      refine ⟨horder, ?_, fun hbusy => absurd ht hbusy, fun hbusy => absurd ht hbusy⟩
      intro _ hmore
      have htaken := note_taken s .waiter n (x := x) (by simp)
      have hrounds : (note s (.wait .waiter) n).rounds = n.rounds + 1 := by simp [note, hdetach]
      have hpending : (note s (.wait .waiter) n).pending x = decide (some (.source x) ∈ done) := by
        simp [note, hdetach]
      unfold Behind
      rw [htaken, hrounds, hpending]
      by_cases hdue : some (.source x) ∈ done
      · have hbusy := hs.busy hin (hbefore hmore)
        simp only [Behind, hdue, decide_true, Bool.toNat_true] at hbusy ⊢
        omega
      · have hlate := hs.late hin (hbefore hmore) (by simpa [hdetach, Due] using hdue)
        simp only [Behind, hdue, decide_false, Bool.toNat_false] at hlate ⊢
        omega

omit [DecidableEq ι] [DecidableEq T] in
theorem served_start : Served x n (s.wait.queue x) s.wait n := by
  refine ⟨⟨[], by simp⟩, ?_, ?_, ?_⟩
  · intro _ _
    unfold Behind
    omega
  · intro _ _
    unfold Behind
    omega
  · intro _ _ _
    exact Nat.le_refl _

omit [DecidableEq ι] [DecidableEq T] in
/-- While some of q is left the calls get at most two ahead of the takes. -/
theorem Served.taken (hs : Served x n₀ q s.wait n) (hrounds : n₀.rounds + q.length + 2 ≤ n.rounds) :
    n₀.taken x ++ q <+: n.taken x := by
  by_contra hmore
  have hbehind : Behind x n₀ n 2 := by
    by_cases hw : s.wait.waiter = .idle
    · have hidle := hs.idle hw hmore
      have hpending := Bool.toNat_le (n.pending x)
      unfold Behind at hidle ⊢
      omega
    · have hbusy := hs.busy hw hmore
      unfold Behind at hbusy ⊢
      omega
  obtain ⟨new, horder⟩ := hs.order
  have hlength : (n₀.taken x).length + q.length ≤ (n.taken x).length := by
    unfold Behind at hbehind
    omega
  refine hmore (List.prefix_of_prefix_length_le ⟨new, rfl⟩ ⟨s.wait.queue x, horder⟩ ?_)
  rwa [List.length_append]

variable [DecidableEq U] {k : GuardCondition.Label ι M T U}

theorem between_calls {s t : Wait.State ι M T} (h : Wait.step s l = some t)
    (hl : (∃ c, l = .call c) ∨ ∃ y, l = .take y) : s.waiter = .idle := by
  rcases hl with ⟨c, rfl⟩ | ⟨y, rfl⟩
  all_goals
    cases hw : s.waiter with
    | idle => rfl
    | attach | checking | attaching | enter | asleep | detach | detaching => simp [Wait.step, hw] at h

theorem wait_or_beside (h : GuardCondition.step s k = some t) :
    (∃ l, k = .wait l ∧ Wait.step s.wait l = some t.wait) ∨
    t.wait.waiter = s.wait.waiter ∧ t.wait.queue = s.wait.queue ∧ (∀ n : Notes ι M, note s k n = n) := by
  cases k with
  | wait l =>
      simp only [GuardCondition.step, Option.ite_none_left_eq_some, Option.map_eq_some_iff] at h
      obtain ⟨-, w, hw, rfl⟩ := h
      exact Or.inl ⟨l, rfl, hw⟩
  | trigger u i =>
      refine Or.inr ?_
      cases GuardCondition.step_cases h with
      | trigger => exact ⟨rfl, rfl, fun n => rfl⟩
  | caller u =>
      refine Or.inr ?_
      cases GuardCondition.step_cases h with
      | lock | flag | complete => exact ⟨rfl, rfl, fun n => rfl⟩

def machine : Machine (History ι M T U) (GuardCondition.Label ι M T U) := recorded GuardCondition.step note

theorem ready_step (h : GuardCondition.step s k = some t) (hs : Ready s.wait n) :
    Ready t.wait (note s k n) := by
  rcases wait_or_beside h with ⟨l, rfl, hw⟩ | ⟨hw, hq, hn⟩
  · exact ready_wait (between_calls hw) (Wait.step_cases hw) hs
  · rw [hn n]
    exact hs.keep hw hq

theorem served_step (h : GuardCondition.step s k = some t) (hok : Obliging x (s, n) k)
    (hs : Served x n₀ q s.wait n) : Served x n₀ q t.wait (note s k n) := by
  rcases wait_or_beside h with ⟨l, rfl, hw⟩ | ⟨hw, hq, hn⟩
  · exact served_wait (between_calls hw) (Wait.step_cases hw) hok hs
  · rw [hn n]
    refine ⟨?_, ?_, ?_, ?_⟩
    · rw [hq]
      exact hs.order
    all_goals rw [hw]
    · exact hs.idle
    · exact hs.busy
    · exact hs.late

end Runs

theorem reachable_ready [DecidableEq ι] [DecidableEq T] [DecidableEq U] {s : History ι M T U}
    (hr : Reachable machine initial s) : Ready s.1.wait s.2 := by
  apply invariant (I := fun s : History ι M T U => Ready s.1.wait s.2) ?_ ?_ hr
  · intro s l t hs h
    obtain ⟨hstep, hnote⟩ := recorded_cases h
    rw [hnote]
    exact ready_step hstep hs
  · constructor
    · intro x hx
      cases hx
    · intro _ x hx
      cases hx

/-- A thread that takes what a call of rmw_wait reports before it calls again
is never told of a message that is not there, gets the messages of a source in
the order they came, and has every message that was queued once as many calls
and two more have returned. -/
theorem waits_serve [DecidableEq ι] [DecidableEq T] [DecidableEq U] {s t : History ι M T U} {x : Source ι}
    {ls : List (GuardCondition.Label ι M T U)} (hr : Reachable machine initial s)
    (hls : Every machine (Obliging x) s ls) (h : run machine s ls = some t) :
    (t.1.wait.waiter = .idle → ∀ y, t.2.pending y = true → t.1.wait.queue y ≠ []) ∧
    s.2.taken x ++ s.1.wait.queue x <+: t.2.taken x ++ t.1.wait.queue x ∧
    (s.2.rounds + (s.1.wait.queue x).length + 2 ≤ t.2.rounds →
      s.2.taken x ++ s.1.wait.queue x <+: t.2.taken x) := by
  have hready : Ready t.1.wait t.2 := by
    obtain ⟨front, hfront⟩ := hr
    refine reachable_ready ⟨front ++ ls, ?_⟩
    rw [run_append, hfront]
    exact h
  have hserved : Served x s.2 (s.1.wait.queue x) t.1.wait t.2 := by
    apply invariant_of_every (I := fun t : History ι M T U => Served x s.2 (s.1.wait.queue x) t.1.wait t.2)
      ?_ served_start hls h
    intro s l t hs hok h
    obtain ⟨hstep, hnote⟩ := recorded_cases h
    rw [hnote]
    exact served_step hstep hok hs
  obtain ⟨new, horder⟩ := hserved.order
  exact ⟨hready.pending, ⟨new, horder.symm⟩, hserved.taken⟩

instance decidableObliging [DecidableEq ι] (x : Source ι) (s : History ι M T U)
    (l : GuardCondition.Label ι M T U) : Decidable (Obliging x s l) :=
  match l with
  | .wait (.call c) => inferInstanceAs (Decidable (s.2.pending x = false ∧ some (.source x) ∈ c.entries))
  | .wait .waiter | .wait .wakeup | .wait (.take _) | .wait (.arrive _ _ _) | .wait (.callback _)
  | .wait (.triggerGuard _) | .trigger _ _ | .caller _ => isTrue trivial

def polling : Call Nat := ⟨some [some 0], none, none, none, some ⟨0, 0⟩⟩

def arrivalRun : List (GuardCondition.Label Nat Nat Unit Unit) :=
  [.wait (.arrive () (.waited (.subscription 0)) 5), .wait (.callback ()), .wait (.callback ()),
    .wait (.callback ())]

/-- The first call reports the message, and the two after its take find none. -/
def pollingRun : List (GuardCondition.Label Nat Nat Unit Unit) :=
  .wait (.call polling) :: List.replicate 5 (.wait .waiter) ++ .wait (.take (.subscription 0)) ::
    .wait (.call polling) :: List.replicate 8 (.wait .waiter) ++
    .wait (.call polling) :: List.replicate 8 (.wait .waiter)

theorem polled_message_taken : ∃ s t, run machine (initial : History Nat Nat Unit Unit) arrivalRun = some s ∧
    run machine s pollingRun = some t ∧ t.2.rounds = 3 ∧ [5] <+: t.2.taken (.subscription 0) := by
  have hrun : (run machine (initial : History Nat Nat Unit Unit) (arrivalRun ++ pollingRun)).map
      (fun t => t.2.rounds) = some 3 := by decide +kernel
  have hqueue : (run machine (initial : History Nat Nat Unit Unit) arrivalRun).map
      (fun s => (s.2.rounds, s.2.taken (.subscription 0), s.1.wait.queue (.subscription 0))) =
      some (0, [], [5]) := by decide +kernel
  have hevery : Every machine (Obliging (.subscription 0)) (initial : History Nat Nat Unit Unit)
      (arrivalRun ++ pollingRun) := by decide +kernel
  obtain ⟨t, ht, hrounds⟩ := Option.map_eq_some_iff.mp hrun
  rw [run_append] at ht
  obtain ⟨s, hs, ht⟩ := Option.bind_eq_some_iff.mp ht
  rw [hs, Option.map_some, Option.some.injEq, Prod.mk.injEq, Prod.mk.injEq] at hqueue
  obtain ⟨hstart, htaken, hqueued⟩ := hqueue
  have hserve := (waits_serve ⟨arrivalRun, hs⟩ (((every_append ..).mp hevery).2 s hs) ht).2.2
  rw [hstart, htaken, hqueued, hrounds] at hserve
  exact ⟨s, t, hs, ht, hrounds, hserve (by decide)⟩

end RmwZenohPico.WaitAndTake
