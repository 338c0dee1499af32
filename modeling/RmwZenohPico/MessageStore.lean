import RmwZenohPico.Lib.LabelledMachine
import RmwZenohPico.MessageList

namespace RmwZenohPico.MessageStore

open Lib.LabelledMachine MessageList

variable {A ι : Type} [DecidableEq A] [DecidableEq ι]

structure Store (A ι : Type) where
  links : Links A
  lists : ι → ReceiveMessageDataList A

inductive Op (A ι : Type)
  | append (i : ι) (d : A)
  | pop (i : ι)
  | pickup (i : ι) (func : A → Bool)
  | count (i : ι)
  | empty (i : ι)

inductive Reply (A : Type)
  | appended (d : A)
  | message (ret : Option A)
  | count (n : Int)
  | empty (b : Bool)

def Store.put (s : Store A ι) (i : ι) (links : Links A) (msgList : ReceiveMessageDataList A) :
    Store A ι :=
  ⟨links, Function.update s.lists i msgList⟩

/-- One call of a queue function. None means that the loop of pickup ran
out of fuel, which the refinement theorem excludes. -/
def exec (fuel : Nat) (s : Store A ι) : Op A ι → Option (Store A ι × Reply A)
  | .append i d =>
      let r := recvMsgListAppend s.links (s.lists i) d
      some (s.put i r.1 r.2, .appended d)
  | .pop i =>
      let r := recvMsgListPop s.links (s.lists i)
      some (s.put i r.1 r.2.1, .message r.2.2)
  | .pickup i func =>
      (recvMsgListPickup fuel s.links (s.lists i) func).map fun r =>
        (s.put i r.1 r.2.1, .message r.2.2)
  | .count i => some (s, .count (recvMsgListCount (s.lists i)))
  | .empty i => some (s, .empty (recvMsgListEmpty (s.lists i)))

def machine (fuel : Nat) : Machine (Store A ι) (Op A ι) :=
  fun s op => (exec fuel s op).map Prod.fst

def specExec (q : ι → List A) : Op A ι → (ι → List A) × Reply A
  | .append i d => (Function.update q i (MessageQueue.append (q i) d), .appended d)
  | .pop i =>
      (Function.update q i (MessageQueue.pop (q i)).2, .message (MessageQueue.pop (q i)).1)
  | .pickup i func =>
      (Function.update q i (MessageQueue.pickup (q i) func).2,
        .message (MessageQueue.pickup (q i) func).1)
  | .count i => (q, .count (q i).length)
  | .empty i => (q, .empty (q i).isEmpty)

def specRun (q : ι → List A) : List (Op A ι) → ι → List A
  | [] => q
  | op :: ops => specRun (specExec q op).1 ops

/-- Callers append only messages that are in no queue. -/
def Allowed (q : ι → List A) : Op A ι → Prop
  | .append _ d => ∀ j, d ∉ q j
  | _ => True

def Valid (q : ι → List A) : List (Op A ι) → Prop
  | [] => True
  | op :: ops => Allowed q op ∧ Valid (specExec q op).1 ops

structure Refines (s : Store A ι) (q : ι → List A) : Prop where
  represents : ∀ i, Represents s.links (s.lists i) (q i)
  disjoint : ∀ i j x, x ∈ q i → x ∈ q j → i = j

omit [DecidableEq A] [DecidableEq ι] in
theorem Refines.other {s : Store A ι} {q : ι → List A} (h : Refines s q) {i j : ι} (hij : j ≠ i)
    {x : A} (hx : x ∈ q j) : x ∉ q i :=
  fun hi => hij (h.disjoint j i x hx hi)

omit [DecidableEq A] in
/-- The frame argument shared by all operations: one queue is replaced, and
only links of its messages and of messages in no queue were written. -/
theorem Refines.put {s : Store A ι} {q : ι → List A} (h : Refines s q) (i : ι) {links : Links A}
    {msgList : ReceiveMessageDataList A} {ys : List A} (hr : Represents links msgList ys)
    (hf : ∀ j, j ≠ i → ∀ x ∈ q j, links x = s.links x) (hy : ∀ j, j ≠ i → ∀ x ∈ ys, x ∉ q j) :
    Refines (s.put i links msgList) (Function.update q i ys) := by
  constructor
  · intro j
    by_cases hj : j = i
    · subst hj
      simpa [Store.put] using hr
    · simpa [Store.put, hj] using (h.represents j).frame (hf j hj)
  · intro j k x hx hk
    by_cases hj : j = i <;> by_cases hki : k = i
    · rw [hj, hki]
    · subst hj
      rw [Function.update_self] at hx
      rw [Function.update_of_ne hki] at hk
      exact absurd hk (hy k hki x hx)
    · subst hki
      rw [Function.update_self] at hk
      rw [Function.update_of_ne hj] at hx
      exact absurd hx (hy j hj x hk)
    · rw [Function.update_of_ne hj] at hx
      rw [Function.update_of_ne hki] at hk
      exact h.disjoint j k x hx hk

omit [DecidableEq A] in
theorem Refines.removes {s : Store A ι} {q : ι → List A} (h : Refines s q) (i : ι) {ret : Option A}
    {ys : List A} {r : Links A × ReceiveMessageDataList A × Option A}
    (hr : Removes s.links (q i) ret ys r) (hs : ys ⊆ q i) :
    Refines (s.put i r.1 r.2.1) (Function.update q i ys) := by
  refine h.put i hr.represents ?_ ?_
  · intro j hj x hx
    exact hr.frame x (h.other hj hx)
  · intro j hj x hx hxj
    exact hj (h.disjoint j i x hxj (hs hx))

omit [DecidableEq A] in
theorem Refines.removed {s : Store A ι} {q : ι → List A} (h : Refines s q) (i : ι) {x : A}
    {ys : List A} (hx : x ∈ q i) (hy : x ∉ ys) (j : ι) : x ∉ Function.update q i ys j := by
  by_cases hj : j = i
  · subst hj
    simpa using hy
  · rw [Function.update_of_ne hj]
    exact fun hxj => hj (h.disjoint j i x hxj hx)

omit [DecidableEq A] in
theorem head_not_mem_tail {xs : List A} (hn : xs.Nodup) {x : A} (hx : xs.head? = some x) :
    x ∉ xs.tail := by
  cases xs with
  | nil => cases hx
  | cons y ys =>
      cases hx
      exact (List.nodup_cons.mp hn).1

omit [DecidableEq A] in
theorem found_not_mem_erased {xs : List A} (hn : xs.Nodup) {func : A → Bool} {x : A}
    (hx : xs.find? func = some x) : x ∉ xs.eraseP func := by
  obtain ⟨hp, us, vs, rfl, hus⟩ := List.find?_eq_some_iff_append.mp hx
  have hneg : ∀ a ∈ us, ¬ func a = true := fun a ha => by simpa using hus a ha
  rw [List.eraseP_append_right _ hneg, List.eraseP_cons_of_pos hp]
  simp only [List.nodup_append, List.nodup_cons] at hn
  simp only [List.mem_append, not_or]
  exact ⟨fun hm => hn.2.2 x hm x (by simp) rfl, hn.2.1.1⟩

def Detached (s : Store A ι) (q : ι → List A) : Reply A → Prop
  | .message (some x) => s.links x = none ∧ ∀ i, x ∉ q i
  | _ => True

theorem exec_refines {s : Store A ι} {q : ι → List A} (h : Refines s q) (op : Op A ι)
    (ha : Allowed q op) (fuel : Nat) (hf : ∀ i, (q i).length ≤ fuel) :
    ∃ s', exec fuel s op = some (s', (specExec q op).2) ∧ Refines s' (specExec q op).1 ∧
      Detached s' (specExec q op).1 (specExec q op).2 := by
  cases op with
  | append i d =>
      refine ⟨_, rfl, ?_, trivial⟩
      refine h.put i (append_represents (h.represents i) (ha i)) ?_ ?_
      · intro j hj x hx
        exact append_frame (h.represents i) (fun he => ha j (he ▸ hx)) (h.other hj hx)
      · intro j hj x hx hxj
        rcases List.mem_append.mp hx with hx | hx
        · exact hj (h.disjoint j i x hxj hx)
        · exact ha j (List.mem_singleton.mp hx ▸ hxj)
  | pop i =>
      have hr := pop_removes (h.represents i)
      refine ⟨_, by rw [exec, hr.returned]; rfl, h.removes i hr (List.tail_subset _), ?_⟩
      cases hx : (MessageQueue.pop (q i)).1 with
      | none => simp [specExec, hx, Detached]
      | some x =>
          have hm := head_not_mem_tail (h.represents i).nodup hx
          simp only [specExec, hx, Detached]
          exact ⟨hr.cleared x hx, h.removed i (List.mem_of_head? hx) hm⟩
  | pickup i func =>
      obtain ⟨r, he, hr⟩ := pickup_removes func (h.represents i) fuel (hf i)
      refine ⟨s.put i r.1 r.2.1, by simp [exec, he, hr.returned, specExec],
        h.removes i hr List.eraseP_subset, ?_⟩
      cases hx : (MessageQueue.pickup (q i) func).1 with
      | none => simp [specExec, hx, Detached]
      | some x =>
          have hm := found_not_mem_erased (h.represents i).nodup hx
          simp only [specExec, hx, Detached]
          exact ⟨hr.cleared x hx, h.removed i (MessageQueue.mem_of_pickup hx) hm⟩
  | count i => exact ⟨s, by simp [exec, specExec, recvMsgListCount, (h.represents i).count], h, trivial⟩
  | empty i => exact ⟨s, by simp [exec, specExec, empty_iff (h.represents i)], h, trivial⟩

omit [DecidableEq A] in
theorem specExec_length (q : ι → List A) (op : Op A ι) (i : ι) :
    ((specExec q op).1 i).length ≤ (q i).length + 1 := by
  cases op with
  | append j d =>
      by_cases hi : i = j
      · subst hi; simp [specExec, MessageQueue.append]
      · simp [specExec, hi]
  | pop j =>
      by_cases hi : i = j
      · subst hi; simp [specExec, MessageQueue.pop]; omega
      · simp [specExec, hi]
  | pickup j func =>
      by_cases hi : i = j
      · subst hi
        have hl := (List.eraseP_sublist (p := func) (l := q i)).length_le
        simp only [specExec, MessageQueue.pickup, Function.update_self]
        omega
      · simp [specExec, hi]
  | count j | empty j => exact Nat.le_succ _

theorem run_refines {s : Store A ι} {q : ι → List A} (h : Refines s q) (ops : List (Op A ι))
    (hv : Valid q ops) (fuel : Nat) (hf : ∀ i, (q i).length + ops.length ≤ fuel) :
    ∃ s', run (machine fuel) s ops = some s' ∧ Refines s' (specRun q ops) := by
  induction ops generalizing s q with
  | nil => exact ⟨s, rfl, h⟩
  | cons op ops ih =>
      have hq : ∀ i, (q i).length ≤ fuel := fun i => le_trans (Nat.le_add_right _ _) (hf i)
      obtain ⟨t, he, ht, -⟩ := exec_refines h op hv.1 fuel hq
      have hq' : ∀ i, ((specExec q op).1 i).length + ops.length ≤ fuel := by
        intro i
        have hs := specExec_length q op i
        have hb := hf i
        simp only [List.length_cons] at hb
        omega
      obtain ⟨u, hr, hu⟩ := ih ht hv.2 hq'
      exact ⟨u, by simpa [run, machine, he] using hr, hu⟩

omit [DecidableEq A] in
theorem valid_append (q : ι → List A) (ops : List (Op A ι)) (op : Op A ι) :
    Valid q (ops ++ [op]) ↔ Valid q ops ∧ Allowed (specRun q ops) op := by
  induction ops generalizing q with
  | nil => simp [Valid, specRun]
  | cons o ops ih => simp [Valid, specRun, ih, and_assoc]

omit [DecidableEq A] in
theorem specRun_length (q : ι → List A) (ops : List (Op A ι)) (i : ι) :
    (specRun q ops i).length ≤ (q i).length + ops.length := by
  induction ops generalizing q with
  | nil => simp [specRun]
  | cons op ops ih =>
      have hs := specExec_length q op i
      have hi := ih (specExec q op).1
      simp only [specRun, List.length_cons]
      omega

def initial (links : Links A) : Store A ι := ⟨links, fun _ => recvMsgListInit⟩

omit [DecidableEq A] [DecidableEq ι] in
theorem initial_refines (links : Links A) : Refines (initial links : Store A ι) fun _ => [] :=
  ⟨fun _ => init_represents links, fun _ _ x hx => absurd hx (by simp)⟩

structure WellLinked (s : Store A ι) (q : ι → List A) : Prop extends Refines s q where
  nodup : ∀ i, (q i).Nodup
  top_none_iff : ∀ i, (s.lists i).queTop = none ↔ (s.lists i).queBottom = none
  bottom_next : ∀ i b, (s.lists i).queBottom = some b → s.links b = none

omit [DecidableEq A] [DecidableEq ι] in
theorem Refines.wellLinked {s : Store A ι} {q : ι → List A} (h : Refines s q) : WellLinked s q :=
  ⟨h, fun i => (h.represents i).nodup, fun i => (h.represents i).top_none_iff,
    fun i _ hb => (h.represents i).bottom_next hb⟩

/-- The linked queues refine sequences. After any calls from freshly
initialised queues, one more call returns what it returns on the sequences,
and it leaves linked queues which represent the resulting sequences. -/
theorem queues_refine_sequences (links : Links A) (ops : List (Op A ι)) (op : Op A ι)
    (hv : Valid (fun _ => []) (ops ++ [op])) (fuel : Nat) (hf : ops.length ≤ fuel) :
    ∃ s s', run (machine fuel) (initial links) ops = some s ∧
      WellLinked s (specRun (fun _ => []) ops) ∧
      exec fuel s op = some (s', (specExec (specRun (fun _ => []) ops) op).2) ∧
      WellLinked s' (specExec (specRun (fun _ => []) ops) op).1 ∧
      Detached s' (specExec (specRun (fun _ => []) ops) op).1
        (specExec (specRun (fun _ => []) ops) op).2 := by
  obtain ⟨hops, hop⟩ := (valid_append _ ops op).mp hv
  obtain ⟨s, hr, hs⟩ := run_refines (initial_refines links) ops hops fuel fun i => by simpa using hf
  have hl : ∀ i, (specRun (fun _ => []) ops i).length ≤ fuel := by
    intro i
    have hlen := specRun_length (fun _ : ι => ([] : List A)) ops i
    simp only [List.length_nil, Nat.zero_add] at hlen
    omega
  obtain ⟨s', he, hs', hd⟩ := exec_refines hs op hop fuel hl
  exact ⟨s, s', hr, hs.wellLinked, he, hs'.wellLinked, hd⟩

theorem queues_refine_three_requests :
    ∃ s s' : Store Nat Bool,
      run (machine 5) (initial fun _ => none)
        [.append false 1, .append false 2, .append false 3, .pickup false (· == 2), .append true 2] =
          some s ∧
      exec 5 s (.pickup false (· == 3)) = some (s', .message (some 3)) ∧
      s'.lists false = ⟨some 1, some 1, 1⟩ ∧ s'.links 1 = none := by
  obtain ⟨s, s', hr, -, he, hw, -⟩ := queues_refine_sequences (ι := Bool) (fun _ : Nat => none)
    [.append false 1, .append false 2, .append false 3, .pickup false (· == 2), .append true 2]
    (.pickup false (· == 3))
    (by simp [Valid, Allowed, specExec, MessageQueue.append, MessageQueue.pickup, Function.update_apply])
    5 (by simp)
  have hq : (specExec (specRun (fun _ => []) [.append false 1, .append false 2, .append false 3,
      .pickup false (· == 2), .append true 2]) (.pickup false (· == 3))).1 false = [1] := by decide
  have hrep := hw.represents false
  rw [hq] at hrep
  refine ⟨s, s', hr, he, ?_, hw.bottom_next false 1 hrep.bottom⟩
  have htop := hrep.top
  have hbottom := hrep.bottom
  have hcount := hrep.count
  cases hl : s'.lists false with
  | mk top bottom count =>
      rw [hl] at htop hbottom hcount
      simp_all

end RmwZenohPico.MessageStore
