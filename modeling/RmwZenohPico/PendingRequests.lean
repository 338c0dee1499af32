import RmwZenohPico.Lib.LabelledMachine
import RmwZenohPico.Service

namespace RmwZenohPico.PendingRequests

open Lib.LabelledMachine RmwTypes Attachment RosMessage Service

variable {Req Res ω S B D : Type}

inductive Label (Req Res ω B : Type)
  | arrive (query : ZenohQuery ω B) (recvTs : Int) (alloc : ReceiveAllocations)
  | takeRequest (requestHeader : RmwServiceInfo) (rosRequest : Req) (taken : Bool)
  | sendResponse (requestId : RmwRequestId) (rosResponse : Res) (env : SendEnvironment)

/-- A service with the history of its calls: the requests that arrived, those
which a take reported with the id in the filled header, and the ids for which
a response was sent. -/
structure History (Req Res ω : Type) where
  service : ServiceData Req Res ω
  arrived : List (ReceiveMessageData ω)
  reported : List (ReceiveMessageData ω × RmwRequestId)
  answered : List RmwRequestId

def initial (service : ServiceData Req Res ω) : History Req Res ω := ⟨service, [], [], []⟩

def reportOf (data : ServiceData Req Res ω)
    (r : TakeResult (ServiceData Req Res ω) Req RmwServiceInfo) :
    List (ReceiveMessageData ω × RmwRequestId) :=
  match data.requestQueue, r.info with
  | m :: _, some info => if r.taken then [(m, info.requestId)] else []
  | _, _ => []

def identityOf (msg : ReceiveMessageData ω) : List UInt8 × Int :=
  (msg.attachment.gid.bytes, msg.attachment.sequenceNum)

/-- Arrivals with the gid and number of an earlier one are refused, and so are
responses with an id that no take reported. -/
def step (z : ZeSerializer S B D) : Machine (History Req Res ω) (Label Req Res ω B)
  | s, .arrive query recvTs alloc =>
      match rmwZenohPicoGenerateRecvQueryMsgData z query recvTs alloc with
      | none => some { s with service := (requestHandler z s.service query recvTs alloc).1 }
      | some m =>
          if identityOf m ∈ s.arrived.map identityOf then none
          else some { s with
            service := (requestHandler z s.service query recvTs alloc).1
            arrived := s.arrived ++ [m] }
  | s, .takeRequest requestHeader rosRequest taken =>
      let r := takeRequest s.service (some requestHeader) rosRequest taken
      some { s with service := r.data, reported := s.reported ++ reportOf s.service r }
  | s, .sendResponse requestId rosResponse env =>
      if requestId ∈ s.reported.map Prod.snd then
        (sendResponse z s.service requestId rosResponse env).map fun r =>
          { s with service := r.data, answered := s.answered ++ [requestId] }
      else none

def pending (s : History Req Res ω) : List (ReceiveMessageData ω) :=
  (s.reported.filter fun r => r.2 ∉ s.answered).map Prod.fst

def Pending (s : History Req Res ω) : Prop := s.service.responseQueue = pending s

def TakeDeserializes (s : History Req Res ω) : Label Req Res ω B → Prop
  | .takeRequest _ rosRequest _ =>
      ∀ m ms, s.service.requestQueue = m :: ms → Deserializes m s.service.requestCallback rosRequest
  | _ => True

def TakeIdentifies (s : History Req Res ω) : Label Req Res ω B → Prop
  | .takeRequest _ _ _ => ∀ m ms, s.service.requestQueue = m :: ms → 16 ≤ m.attachment.gid.len
  | _ => True

/-- The first 16 bytes of the gid, which are what an id has of it, and the
number are not those of an earlier request. -/
def ArriveIdentifies (z : ZeSerializer S B D) (s : History Req Res ω) : Label Req Res ω B → Prop
  | .arrive query recvTs alloc => ∀ m, rmwZenohPicoGenerateRecvQueryMsgData z query recvTs alloc = some m →
      requestIdOf m ∉ s.arrived.map requestIdOf
  | _ => True

structure Invariant (s : History Req Res ω) : Prop where
  arrived : s.arrived = s.reported.map Prod.fst ++ s.service.requestQueue
  distinct : (s.arrived.map requestIdOf).Nodup
  ids : ∀ r ∈ s.reported, r.2 = requestIdOf r.1 ∧ 16 ≤ r.1.attachment.gid.len
  answered : ∀ id ∈ s.answered, id ∈ s.reported.map Prod.snd
  pending : Pending s

theorem initial_invariant {service : ServiceData Req Res ω} (hq : service.requestQueue = [])
    (hr : service.responseQueue = []) : Invariant (initial service) :=
  ⟨by simp [initial, hq], by simp [initial], by simp [initial], by simp [initial],
    by simp [Pending, PendingRequests.pending, initial, hr]⟩

theorem Invariant.reported_ids {s : History Req Res ω} (h : Invariant s) :
    s.reported.map Prod.snd = (s.reported.map Prod.fst).map requestIdOf := by
  rw [List.map_map]
  exact List.map_congr_left fun r hr => (h.ids r hr).1

theorem Invariant.reported_distinct {s : History Req Res ω} (h : Invariant s) :
    ((s.reported.map Prod.fst).map requestIdOf).Nodup := by
  have hd := h.distinct
  rw [h.arrived, List.map_append] at hd
  exact (List.nodup_append.mp hd).1

theorem Invariant.mem_pending {s : History Req Res ω} (h : Invariant s) {m : ReceiveMessageData ω}
    (hm : m ∈ s.service.responseQueue) : 16 ≤ m.attachment.gid.len := by
  rw [h.pending] at hm
  obtain ⟨r, hr, rfl⟩ := List.mem_map.mp hm
  exact (h.ids r (List.mem_filter.mp hr).1).2

theorem Invariant.pending_distinct {s : History Req Res ω} (h : Invariant s) :
    (s.service.responseQueue.map requestIdOf).Nodup := by
  have hs : (s.service.responseQueue).Sublist (s.reported.map Prod.fst) := by
    rw [h.pending]
    exact List.filter_sublist.map _
  exact h.reported_distinct.sublist (hs.map _)

theorem step_arrive_invariant {z : ZeSerializer S B D} {s t : History Req Res ω}
    {query : ZenohQuery ω B} {recvTs : Int} {alloc : ReceiveAllocations} (h : Invariant s)
    (ha : ArriveIdentifies z s (.arrive query recvTs alloc : Label Req Res ω B))
    (hs : step z s (.arrive query recvTs alloc) = some t) : Invariant t := by
  cases hm : rmwZenohPicoGenerateRecvQueryMsgData (ω := ω) z query recvTs alloc with
  | none =>
      simp only [step, hm, requestHandler, Option.some.injEq] at hs
      subst hs
      exact ⟨h.arrived, h.distinct, h.ids, h.answered, h.pending⟩
  | some m =>
      simp only [step, hm, requestHandler, Option.ite_none_left_eq_some, Option.some.injEq] at hs
      obtain ⟨-, rfl⟩ := hs
      have hnew := ha m hm
      refine ⟨?_, ?_, h.ids, h.answered, h.pending⟩
      · simp [addNewRequestMessage, MessageQueue.append, h.arrived]
      · simp only [List.map_append, List.map_cons, List.map_nil]
        exact List.nodup_append.mpr ⟨h.distinct, by simp, by simpa using hnew⟩

theorem Invariant.fresh {s : History Req Res ω} (h : Invariant s) {m : ReceiveMessageData ω}
    {ms : List (ReceiveMessageData ω)} (hq : s.service.requestQueue = m :: ms) :
    requestIdOf m ∉ s.answered := by
  intro hm
  have hr := h.answered _ hm
  have hd := h.distinct
  rw [h.reported_ids] at hr
  rw [h.arrived, hq, List.map_append, List.map_cons] at hd
  exact (List.nodup_append.mp hd).2.2 _ hr _ List.mem_cons_self rfl

theorem step_take_invariant {z : ZeSerializer S B D} {s t : History Req Res ω}
    {header : RmwServiceInfo} {req : Req} {taken : Bool} (h : Invariant s)
    (hd : TakeDeserializes (B := B) s (.takeRequest header req taken))
    (hg : TakeIdentifies (B := B) s (.takeRequest header req taken))
    (hs : step z s (.takeRequest header req taken) = some t) : Invariant t := by
  cases hq : s.service.requestQueue with
  | nil =>
      simp only [step, takeRequest_empty hq, reportOf, hq, List.append_nil, Option.some.injEq] at hs
      subst hs
      exact h
  | cons m ms =>
      obtain ⟨hdata, htaken, hinfo⟩ := takeRequest_cons hq header req taken
      have hm := hd m ms hq
      have hlen := hg m ms hq
      have hid := fillRequestHeader_id hlen header
      simp only [step, reportOf, hq, hdata, htaken, hinfo hm, hm, decide_true, if_true, hid,
        Option.some.injEq] at hs
      subst hs
      have hfresh := h.fresh hq
      refine ⟨?_, h.distinct, ?_, ?_, ?_⟩
      · simp [h.arrived, hq]
      · intro r hr
        rcases List.mem_append.mp hr with hr | hr
        · exact h.ids r hr
        · obtain rfl := List.mem_singleton.mp hr
          exact ⟨rfl, hlen⟩
      · intro id hi
        simp only [List.map_append, List.mem_append]
        exact .inl (h.answered id hi)
      · have hp := h.pending
        simp only [Pending, PendingRequests.pending] at hp ⊢
        rw [hp, List.filter_append, List.map_append]
        simp [requestIdOf] at hfresh ⊢
        simp [hfresh]

theorem pending_answered (s : History Req Res ω) (id : RmwRequestId)
    (hid : ∀ r ∈ s.reported, r.2 = requestIdOf r.1) :
    pending { s with answered := s.answered ++ [id] } =
      (pending s).filter fun m => requestIdOf m ≠ id := by
  simp only [pending, List.filter_map]
  rw [List.filter_filter]
  congr 1
  refine List.filter_congr fun r hr => ?_
  simp only [List.mem_append, List.mem_singleton, not_or, Function.comp_apply, hid r hr]
  rw [Bool.decide_and, Bool.and_comm]

theorem step_send_invariant {z : ZeSerializer S B D} {s t : History Req Res ω} {id : RmwRequestId}
    {res : Res} {env : SendEnvironment} (h : Invariant s)
    (hs : step z s (.sendResponse id res env) = some t) : Invariant t := by
  simp only [step, Option.ite_none_right_eq_some, Option.map_eq_some_iff] at hs
  obtain ⟨hid, r, hr, rfl⟩ := hs
  obtain ⟨-, hdata, -⟩ := sendResponse_cases hr
  have hmatch : ∀ x ∈ s.service.responseQueue, compareResponceMsg id x = true ↔ requestIdOf x = id :=
    fun x hx => compareResponceMsg_iff (h.mem_pending hx) id
  have hpick := MessageQueue.pickup_by_key hmatch h.pending_distinct
  refine ⟨by simpa only [hdata] using h.arrived, h.distinct, h.ids, ?_, ?_⟩
  · intro i hi
    rcases List.mem_append.mp hi with hi | hi
    · exact h.answered i hi
    · exact List.mem_singleton.mp hi ▸ hid
  · have hp := pending_answered s id fun r hr => (h.ids r hr).1
    simp only [Pending, hdata, hpick]
    rw [h.pending]
    exact hp.symm

theorem step_invariant {z : ZeSerializer S B D} (s : History Req Res ω) (l : Label Req Res ω B)
    (t : History Req Res ω) (h : Invariant s)
    (hok : TakeDeserializes s l ∧ TakeIdentifies s l ∧ ArriveIdentifies z s l)
    (hs : step z s l = some t) : Invariant t := by
  cases l with
  | arrive query recvTs alloc => exact step_arrive_invariant h hok.2.2 hs
  | takeRequest header req taken => exact step_take_invariant h hok.1 hok.2.1 hs
  | sendResponse id res env => exact step_send_invariant h hs

theorem take_not_pending {z : ZeSerializer S B D} {s : History Req Res ω} {l : Label Req Res ω B}
    (hs : Pending s) (ht : ∀ t, step z s l = some t → Pending t) : TakeDeserializes s l := by
  cases l with
  | arrive query recvTs alloc => trivial
  | sendResponse id res env => trivial
  | takeRequest header req taken =>
      intro m ms hq
      by_contra hd
      obtain ⟨hdata, htaken, -⟩ := takeRequest_cons hq header req taken
      have hreport : reportOf s.service (takeRequest s.service (some header) req taken) = [] := by
        simp only [reportOf, hq, htaken, hd, decide_false]
        split <;> simp_all
      have hp := ht _ rfl
      simp only [Pending, hdata, hreport, List.append_nil] at hp hs
      have hl : s.service.responseQueue ++ [m] = pending s := hp
      rw [← hs] at hl
      simp at hl

/-- The response queue is the list of pending requests in every state of a run
whose requests arrive with new ids and are taken with a whole gid and
deserialized, and only in runs whose takes deserialize. -/
theorem response_queue_pending (z : ZeSerializer S B D) (xxh3 : List Char → XXH128Hash)
    (topicKey : List Char) (requestCallback : MessageTypeSupportCallbacks Req)
    (responseCallback : MessageTypeSupportCallbacks Res) (ls : List (Label Req Res ω B)) :
    let s := initial (zenohPicoGenerateServiceData xxh3 topicKey requestCallback responseCallback)
    (Every (step z) (fun s l => TakeDeserializes s l ∧ TakeIdentifies s l ∧ ArriveIdentifies z s l) s ls →
        Always (step z) Pending s ls) ∧
      (Always (step z) Pending s ls → Every (step z) TakeDeserializes s ls) := by
  intro s
  constructor
  · intro hok
    have hs : Invariant s := initial_invariant rfl rfl
    exact always_mono (fun _ h => h.pending) (always_of_every step_invariant hs hok)
  · exact every_of_always fun _ _ => take_not_pending

theorem truncated_request_stays_pending :
    ¬ Always (step valueSerializer) Pending
      (initial (zenohPicoGenerateServiceData (fun _ => ⟨0, 0⟩) [] emptyMessageCallbacks
        emptyMessageCallbacks : ServiceData Unit Unit Nat))
      [.arrive ⟨0, [0], [.inl 1, .inl 0, .inr (zSliceCopyFromBuf fun _ => 0)]⟩ 0 ⟨true, true⟩,
        .takeRequest ⟨0, 0, ⟨fun _ => 0, 0⟩⟩ () false] := by
  intro h
  have hp := h _ _ List.prefix_rfl rfl
  exact absurd (congrArg List.length hp) (by decide)

theorem response_queue_pending_answered :
    Always (step valueSerializer) Pending
      (initial (zenohPicoGenerateServiceData (fun _ => ⟨0, 0⟩) [] emptyMessageCallbacks
        emptyMessageCallbacks : ServiceData Unit Unit Nat))
      [.arrive ⟨0, [0, 1, 0, 0], [.inl 1, .inl 0, .inr (zSliceCopyFromBuf fun _ => 0)]⟩ 0 ⟨true, true⟩,
        .takeRequest ⟨0, 0, ⟨fun _ => 0, 0⟩⟩ () false,
        .sendResponse ⟨fun _ => 0, 1⟩ () ⟨true, false, 0, true⟩] := by
  refine (response_queue_pending valueSerializer (fun _ => ⟨0, 0⟩) [] emptyMessageCallbacks
    emptyMessageCallbacks _).1 ?_
  refine ⟨⟨trivial, trivial, fun _ _ => List.not_mem_nil⟩, ?_⟩
  rintro s ⟨⟩
  refine ⟨⟨?_, ?_, trivial⟩, ?_⟩
  · rintro m ms ⟨⟩
    rfl
  · rintro m ms ⟨⟩
    exact le_refl _
  · rintro t ⟨⟩
    exact ⟨⟨trivial, trivial, trivial⟩, fun _ _ => trivial⟩

end RmwZenohPico.PendingRequests
