import RmwZenohPico.MessageMemory

namespace RmwZenohPico.Teardown

open Lib.RefHeap MessageList MessageMemory

variable {A ω : Type}

structure SubData (A : Type) where
  ref : Int
  messageQueue : ReceiveMessageDataList A

structure ServiceData (A : Type) where
  ref : Int
  requestQueue : ReceiveMessageDataList A
  responseQueue : ReceiveMessageDataList A

section Functions

variable [DecidableEq A]

/-- The first loop over the queue of a subscription. A NULL message would be
dereferenced. -/
def destroyLoop : Nat → Memory A ω → ReceiveMessageDataList A →
    Option (Memory A ω × ReceiveMessageDataList A)
  | 0, _, _ => none
  | fuel + 1, m, msgList =>
      if recvMsgListEmpty msgList then some (m, msgList)
      else (m.pop msgList).bind fun (m, msgList, msgData) =>
        msgData.bind fun a => (zenohPicoDataDestroy m a).bind fun m => destroyLoop fuel m msgList

def drainLoop : Nat → Memory A ω → ReceiveMessageDataList A →
    Option (Memory A ω × ReceiveMessageDataList A)
  | 0, _, _ => none
  | fuel + 1, m, msgList =>
      (m.pop msgList).bind fun (m, msgList, recvData) =>
        match recvData with
        | none => some (m, msgList)
        | some a => (zenohPicoDeleteRecvMsgData m a).bind fun m => drainLoop fuel m msgList

def drain (fuel : Nat) (m : Memory A ω) (msgList : ReceiveMessageDataList A) :
    Option (Memory A ω × ReceiveMessageDataList A) :=
  if 0 < recvMsgListCount msgList then drainLoop fuel m msgList else some (m, msgList)

/-- The queue is emptied twice. What becomes of the node, the entity and the
data itself does not touch the messages. -/
def zenohPicoDestroySubscriptionData (fuel : Nat) (m : Memory A ω) (subData : SubData A) :
    Option (Memory A ω × SubData A) :=
  if subData.ref - 1 = 0 then do
    let (m, messageQueue) ← destroyLoop fuel m subData.messageQueue
    let (m, messageQueue) ← drain fuel m messageQueue
    some (m, ⟨subData.ref - 1, messageQueue⟩)
  else some (m, ⟨subData.ref - 1, subData.messageQueue⟩)

def zenohPicoDestroyServiceData (fuel : Nat) (m : Memory A ω) (data : ServiceData A) :
    Option (Memory A ω × ServiceData A) :=
  if data.ref - 1 = 0 then do
    let (m, requestQueue) ← drain fuel m data.requestQueue
    let (m, responseQueue) ← drain fuel m data.responseQueue
    some (m, ⟨data.ref - 1, requestQueue, responseQueue⟩)
  else some (m, ⟨data.ref - 1, data.requestQueue, data.responseQueue⟩)

end Functions

inductive Endpoint (A : Type)
  | subscription (subData : SubData A)
  | service (data : ServiceData A)

def Endpoint.Last (m : Memory A ω) : Endpoint A → List A → Prop
  | .subscription subData, xs => subData.ref = 1 ∧ Queued m subData.messageQueue xs
  | .service data, xs => data.ref = 1 ∧ ∃ ys zs, xs = ys ++ zs ∧ ys.Disjoint zs ∧
      Queued m data.requestQueue ys ∧ Queued m data.responseQueue zs

def Endpoint.Empty (m : Memory A ω) : Endpoint A → Prop
  | .subscription subData => Queued m subData.messageQueue []
  | .service data => Queued m data.requestQueue [] ∧ Queued m data.responseQueue []

variable [DecidableEq A]

def Endpoint.destroy (fuel : Nat) (m : Memory A ω) : Endpoint A → Option (Memory A ω × Endpoint A)
  | .subscription subData => (zenohPicoDestroySubscriptionData fuel m subData).map fun r =>
      (r.1, .subscription r.2)
  | .service data => (zenohPicoDestroyServiceData fuel m data).map fun r => (r.1, .service r.2)

def Released (m : Memory A ω) (e : Endpoint A) (xs : List A) : Prop :=
  ∀ fuel, xs.length < fuel → ∃ m' e', e.destroy fuel m = some (m', e') ∧ e'.Empty m' ∧ ReleasedOnce m m' xs

/-- The messages are unlinked and destroyed, but none of them is freed, since
each still has its reference. -/
theorem destroyLoop_eq {m : Memory A ω} {msgList : ReceiveMessageDataList A} {xs : List A}
    (h : Queued m msgList xs) {fuel : Nat} (hf : xs.length < fuel) :
    ∃ links msgList', destroyLoop fuel m msgList = some ({ m with links := links }, msgList') ∧
      Queued { m with links := links } msgList' [] := by
  induction xs generalizing m msgList fuel with
  | nil =>
      obtain ⟨fuel, rfl⟩ : ∃ n, fuel = n + 1 := ⟨fuel - 1, by rw [List.length_nil] at hf; omega⟩
      refine ⟨m.links, msgList, ?_, h⟩
      rw [destroyLoop, empty_iff h.represents]
      rfl
  | cons a xs ih =>
      rw [List.length_cons] at hf
      obtain ⟨fuel, rfl⟩ : ∃ n, fuel = n + 1 := ⟨fuel - 1, by omega⟩
      obtain ⟨links, msgList₁, hpop, hqueued, -⟩ := pop_cons h
      have hdestroy := dataDestroy_referenced (m := { m with links := links })
        (h.referenced a List.mem_cons_self)
      obtain ⟨links', msgList', hloop, hempty⟩ := ih hqueued (by omega : xs.length < fuel)
      refine ⟨links', msgList', ?_, hempty⟩
      rw [destroyLoop, empty_iff h.represents]
      simp only [List.isEmpty_cons, Bool.false_eq_true, if_false, hpop, Option.bind_some, hdestroy, hloop]

theorem drainLoop_eq {m : Memory A ω} {msgList : ReceiveMessageDataList A} {xs : List A}
    (h : Queued m msgList xs) {fuel : Nat} (hf : xs.length < fuel) :
    ∃ m' msgList', drainLoop fuel m msgList = some (m', msgList') ∧ Queued m' msgList' [] ∧
      m'.content = m.content ∧ m'.released = m.released ++ xs.flatMap m.parts ∧
      ∀ b, b ∉ xs → m'.links b = m.links b ∧ m'.object b = m.object b := by
  induction xs generalizing m msgList fuel with
  | nil =>
      obtain ⟨fuel, rfl⟩ : ∃ n, fuel = n + 1 := ⟨fuel - 1, by rw [List.length_nil] at hf; omega⟩
      refine ⟨m, msgList, ?_, h, rfl, by simp, fun b _ => ⟨rfl, rfl⟩⟩
      simp only [drainLoop, pop_empty h, Option.bind_some]
  | cons a xs ih =>
      rw [List.length_cons] at hf
      obtain ⟨fuel, rfl⟩ : ∃ n, fuel = n + 1 := ⟨fuel - 1, by omega⟩
      have ha : a ∉ xs := (List.nodup_cons.mp h.represents.nodup).1
      obtain ⟨links, msgList₁, hpop, hqueued, hframe⟩ := pop_cons h
      obtain ⟨object, hdelete, hrest, hobject⟩ := delete_queued hqueued ha (h.referenced a List.mem_cons_self)
      obtain ⟨m', msgList', hloop, hempty, hcontent, hreleased, hother⟩ := ih hrest (by omega : xs.length < fuel)
      refine ⟨m', msgList', ?_, hempty, hcontent, ?_, ?_⟩
      · simp only [drainLoop, hpop, Option.bind_some, hdelete]
        exact hloop
      · rw [hreleased, List.flatMap_cons, ← List.append_assoc]
        rfl
      · intro b hb
        obtain ⟨hne, hmem⟩ := not_or.mp (mt List.mem_cons.mpr hb)
        exact ⟨(hother b hmem).1.trans (hframe b hb), (hother b hmem).2.trans (hobject b hne)⟩

theorem drain_eq {m : Memory A ω} {msgList : ReceiveMessageDataList A} {xs : List A}
    (h : Queued m msgList xs) {fuel : Nat} (hf : xs.length < fuel) :
    ∃ m' msgList', drain fuel m msgList = some (m', msgList') ∧ Queued m' msgList' [] ∧
      m'.content = m.content ∧ m'.released = m.released ++ xs.flatMap m.parts ∧
      ∀ b, b ∉ xs → m'.links b = m.links b ∧ m'.object b = m.object b := by
  cases xs with
  | nil =>
      have hcount : ¬0 < recvMsgListCount msgList := by
        rw [recvMsgListCount, h.represents.count]
        simp
      exact ⟨m, msgList, if_neg hcount, h, rfl, by simp, fun b _ => ⟨rfl, rfl⟩⟩
  | cons a xs =>
      have hcount : 0 < recvMsgListCount msgList := by
        rw [recvMsgListCount, h.represents.count, List.length_cons]
        omega
      rw [drain, if_pos hcount]
      exact drainLoop_eq h hf

theorem destroySubscription_eq {m : Memory A ω} {subData : SubData A} {xs : List A}
    (href : subData.ref = 1) (h : Queued m subData.messageQueue xs) {fuel : Nat} (hf : xs.length < fuel) :
    ∃ links msgList', zenohPicoDestroySubscriptionData fuel m subData =
        some ({ m with links := links }, ⟨0, msgList'⟩) ∧ Queued { m with links := links } msgList' [] := by
  obtain ⟨links, msgList', hloop, hempty⟩ := destroyLoop_eq h hf
  have hcount : ¬0 < recvMsgListCount msgList' := by
    rw [recvMsgListCount, hempty.represents.count]
    simp
  refine ⟨links, msgList', ?_, hempty⟩
  simp [zenohPicoDestroySubscriptionData, href, hloop, drain, hcount]

theorem destroyService_eq {m : Memory A ω} {data : ServiceData A} {xs ys : List A} (href : data.ref = 1)
    (hdisjoint : xs.Disjoint ys) (hx : Queued m data.requestQueue xs) (hy : Queued m data.responseQueue ys)
    {fuel : Nat} (hf : (xs ++ ys).length < fuel) :
    ∃ m' data', zenohPicoDestroyServiceData fuel m data = some (m', data') ∧
      Queued m' data'.requestQueue [] ∧ Queued m' data'.responseQueue [] ∧
      m'.released = m.released ++ (xs ++ ys).flatMap m.parts := by
  rw [List.length_append] at hf
  obtain ⟨m₁, requestQueue, hdrain₁, hempty₁, hcontent, hreleased₁, hother⟩ :=
    drain_eq hx (by omega : xs.length < fuel)
  have hy₁ : Queued m₁ data.responseQueue ys := by
    refine hy.frame ?_ ?_
    · intro a ha
      exact (hother a (hdisjoint.symm ha)).1
    · intro a ha
      exact (hother a (hdisjoint.symm ha)).2
  obtain ⟨m₂, responseQueue, hdrain₂, hempty₂, -, hreleased₂, -⟩ :=
    drain_eq hy₁ (by omega : ys.length < fuel)
  refine ⟨m₂, ⟨0, requestQueue, responseQueue⟩, ?_, hempty₁.frame ?_ ?_, hempty₂, ?_⟩
  · simp [zenohPicoDestroyServiceData, href, hdrain₁, hdrain₂]
  · simp
  · simp
  · rw [hreleased₂, hreleased₁, parts_congr hcontent, List.flatMap_append, List.append_assoc]

theorem subscription_retains {m : Memory A ω} {subData : SubData A} {xs : List A}
    (h : Endpoint.Last m (.subscription subData) xs) (hr : Released m (.subscription subData) xs) :
    xs = [] := by
  obtain ⟨href, hqueued⟩ := h
  obtain ⟨m', e', hdestroy, -, honce⟩ := hr (xs.length + 1) (Nat.lt_succ_self _)
  obtain ⟨links, msgList', heq, -⟩ := destroySubscription_eq href hqueued (Nat.lt_succ_self _)
  rw [Endpoint.destroy, heq] at hdestroy
  cases hdestroy
  have hnone : ({ m with links := links } : Memory A ω).released = m.released ++ [].flatMap m.parts := by simp
  exact ((releasedOnce_iff hqueued.represents.nodup (List.nil_sublist _) hnone).mp honce).symm

theorem empty_subscription_released {m : Memory A ω} {subData : SubData A}
    (h : Endpoint.Last m (.subscription subData) []) : Released m (.subscription subData) [] := by
  obtain ⟨href, hqueued⟩ := h
  intro fuel hf
  obtain ⟨links, msgList', heq, hempty⟩ := destroySubscription_eq href hqueued hf
  refine ⟨{ m with links := links }, .subscription ⟨0, msgList'⟩, by rw [Endpoint.destroy, heq]; rfl,
    hempty, ?_⟩
  exact releasedOnce_of_eq List.nodup_nil (by simp)

theorem service_released {m : Memory A ω} {data : ServiceData A} {xs : List A}
    (h : Endpoint.Last m (.service data) xs) : Released m (.service data) xs := by
  obtain ⟨href, ys, zs, rfl, hdisjoint, hy, hz⟩ := h
  intro fuel hf
  obtain ⟨m', data', heq, hempty₁, hempty₂, hreleased⟩ := destroyService_eq href hdisjoint hy hz hf
  refine ⟨m', .service data', by rw [Endpoint.destroy, heq]; rfl, ⟨hempty₁, hempty₂⟩, ?_⟩
  exact releasedOnce_of_eq
    (List.nodup_append'.mpr ⟨hy.represents.nodup, hz.represents.nodup, hdisjoint⟩) hreleased

/-- The messages of a service or a client are released with it. Those of a
subscription are not. -/
theorem released_iff {m : Memory A ω} {e : Endpoint A} {xs : List A} (h : e.Last m xs) :
    Released m e xs ↔ ∀ subData, e = .subscription subData → xs = [] := by
  cases e with
  | subscription subData =>
      refine ⟨fun hr _ _ => subscription_retains h hr, ?_⟩
      intro hnil
      obtain rfl := hnil subData rfl
      exact empty_subscription_released h
  | service data =>
      refine ⟨fun _ _ heq => (by cases heq), ?_⟩
      intro _
      exact service_released h

def emptyMessage (type : RosMessage.ZenohPicoMessageType) : RosMessage.ReceiveMessageData Unit where
  payloadStart := some [0, 1, 0, 0]
  payloadSize := 4
  recvTimestamp := 0
  sequenceNum := 0
  attachment := ⟨1, 0, Attachment.zSliceCopyFromBuf fun _ => 0⟩
  type := type
  query := if type = .query then some () else none

theorem service_messages_released :
    Released (generated fun _ : Nat => emptyMessage .query) (.service ⟨1, single 0, single 1⟩) [0, 1] := by
  refine (released_iff ?_).mpr ?_
  · exact ⟨rfl, [0], [1], rfl, by simp, single_queued _ 0, single_queued _ 1⟩
  · intro subData h
    cases h

theorem subscription_message_lost :
    ¬Released (generated fun _ : Nat => emptyMessage .sample) (.subscription ⟨1, single 0⟩) [0] := by
  intro h
  have hlast : Endpoint.Last (generated fun _ : Nat => emptyMessage .sample) (.subscription ⟨1, single 0⟩) [0] :=
    ⟨rfl, single_queued _ 0⟩
  have hnil := subscription_retains hlast h
  cases hnil

end RmwZenohPico.Teardown
