import RmwZenohPico.Client
import RmwZenohPico.Subscription

namespace RmwZenohPico.Takes

open RmwTypes Attachment RosMessage
open Service (ServiceData TakeResult)
open Subscription (SubData)

variable {R Req Res M ω S B D : Type}

inductive Take (R Req Res ω : Type)
  | take (data : SubData R ω) (rosMessage : R)
  | takeWithInfo (data : SubData R ω) (rosMessage : R) (messageInfo : RmwMessageInfo)
  | takeRequest (data : ServiceData Req Res ω) (requestHeader : Option RmwServiceInfo) (rosRequest : Req)
  | takeResponse (data : ServiceData Req Res ω) (requestHeader : Option RmwServiceInfo) (rosResponse : Res)

def Take.queue : Take R Req Res ω → List (ReceiveMessageData ω)
  | .take data _ | .takeWithInfo data _ _ => data.messageQueue
  | .takeRequest data _ _ => data.requestQueue
  | .takeResponse data _ _ => data.responseQueue

def Take.clearsFirst : Take R Req Res ω → Bool
  | .take .. | .takeWithInfo .. => true
  | .takeRequest .. | .takeResponse .. => false

def Received (callbacks : MessageTypeSupportCallbacks M) (before after : List (ReceiveMessageData ω))
    (rosMessage output : M) : Prop :=
  ∃ m, before = m :: after ∧
    rmwZenohPicoDeserialize m.payloadStart m.payloadSize callbacks rosMessage = (true, output)

/-- The call returns, with a flag that is set exactly if it received a
message. -/
def Truthful (name : String) (taken : Bool) : Take R Req Res ω → Prop
  | .take data rosMessage =>
      ∃ r, Subscription.rmwTake (some (.ofData name data)) (some rosMessage) (some taken) = .ok r ∧
        (r.taken = true ↔
          Received data.callbacks data.messageQueue r.data.messageQueue rosMessage r.rosMessage)
  | .takeWithInfo data rosMessage messageInfo =>
      ∃ r, Subscription.rmwTakeWithInfo (some (.ofData name data)) (some rosMessage) (some taken)
          (some messageInfo) = .ok r ∧
        (r.taken = true ↔
          Received data.callbacks data.messageQueue r.data.messageQueue rosMessage r.rosMessage)
  | .takeRequest data requestHeader rosRequest =>
      ∃ r, Service.rmwTakeRequest (some (.ofData name data)) requestHeader rosRequest (some taken) = .ok r ∧
        (r.taken = true ↔
          Received data.requestCallback data.requestQueue r.data.requestQueue rosRequest r.rosMessage)
  | .takeResponse data requestHeader rosResponse =>
      ∃ r, Client.rmwTakeResponse (some (.ofData name data)) requestHeader rosResponse (some taken) = .ok r ∧
        (r.taken = true ↔
          Received data.responseCallback data.responseQueue r.data.responseQueue rosResponse r.rosMessage)

theorem not_received_nil {callbacks : MessageTypeSupportCallbacks M} {after : List (ReceiveMessageData ω)}
    {rosMessage output : M} : ¬ Received callbacks [] after rosMessage output := by
  rintro ⟨m, hm, -⟩
  cases hm

theorem received_cons {callbacks : MessageTypeSupportCallbacks M} {m : ReceiveMessageData ω}
    {ms : List (ReceiveMessageData ω)} {rosMessage output : M}
    (h : output = (rmwZenohPicoDeserialize m.payloadStart m.payloadSize callbacks rosMessage).2) :
    Received callbacks (m :: ms) ms rosMessage output ↔ Deserializes m callbacks rosMessage := by
  subst h
  constructor
  · rintro ⟨m', hm, hd⟩
    obtain rfl := List.cons.inj hm |>.1
    exact congrArg Prod.fst hd
  · intro hd
    exact ⟨m, rfl, Prod.ext hd rfl⟩

theorem takeOne_truthful (data : SubData R ω) (rosMessage : R) (messageInfo : Option RmwMessageInfo) :
    (Subscription.rmwZenohPicoTakeOne data rosMessage messageInfo false).taken = true ↔
      Received data.callbacks data.messageQueue
        (Subscription.rmwZenohPicoTakeOne data rosMessage messageInfo false).data.messageQueue rosMessage
        (Subscription.rmwZenohPicoTakeOne data rosMessage messageInfo false).rosMessage := by
  cases hq : data.messageQueue with
  | nil =>
      rw [Subscription.takeOne_empty hq]
      simp [hq, not_received_nil]
  | cons m ms =>
      simp only [Subscription.rmwZenohPicoTakeOne, MessageQueue.pop, hq, List.head?_cons, List.tail_cons]
      rw [received_cons (deserializeTopicMsg_message ..), deserializeTopicMsg_iff]

theorem takeRequest_truthful_iff (data : ServiceData Req Res ω) (requestHeader : Option RmwServiceInfo)
    (rosRequest : Req) (taken : Bool) :
    ((Service.takeRequest data requestHeader rosRequest taken).taken = true ↔
      Received data.requestCallback data.requestQueue
        (Service.takeRequest data requestHeader rosRequest taken).data.requestQueue rosRequest
        (Service.takeRequest data requestHeader rosRequest taken).rosMessage) ↔
      data.requestQueue ≠ [] ∨ taken = false := by
  cases hq : data.requestQueue with
  | nil =>
      rw [Service.takeRequest_empty hq]
      simp [hq, not_received_nil]
  | cons m ms =>
      simp only [Service.takeRequest, MessageQueue.pop, hq, List.head?_cons, List.tail_cons,
        rmwZenohPicoDeserializeRequestMsg]
      rw [received_cons (deserializeServiceMsg_message ..), deserializeServiceMsg_iff]
      simp

theorem takeResponse_truthful_iff (data : ServiceData Req Res ω) (requestHeader : Option RmwServiceInfo)
    (rosResponse : Res) (taken : Bool) :
    ((Client.takeResponse data requestHeader rosResponse taken).taken = true ↔
      Received data.responseCallback data.responseQueue
        (Client.takeResponse data requestHeader rosResponse taken).data.responseQueue rosResponse
        (Client.takeResponse data requestHeader rosResponse taken).rosMessage) ↔
      data.responseQueue ≠ [] ∨ taken = false := by
  cases hq : data.responseQueue with
  | nil =>
      rw [Client.takeResponse_empty hq]
      simp [hq, not_received_nil]
  | cons m ms =>
      simp only [Client.takeResponse, MessageQueue.pop, hq, List.head?_cons, List.tail_cons,
        rmwZenohPicoDeserializeResponseMsg]
      rw [received_cons (deserializeServiceMsg_message ..), deserializeServiceMsg_iff]
      simp

theorem truthful_iff (name : String) (taken : Bool) (call : Take R Req Res ω) :
    Truthful name taken call ↔ call.clearsFirst = true ∨ call.queue ≠ [] ∨ taken = false := by
  cases call with
  | take data rosMessage =>
      simp [Truthful, Take.clearsFirst, Subscription.rmwTake_valid, takeOne_truthful]
  | takeWithInfo data rosMessage messageInfo =>
      simp [Truthful, Take.clearsFirst, Subscription.rmwTakeWithInfo_valid, takeOne_truthful]
  | takeRequest data requestHeader rosRequest =>
      simp only [Truthful, Service.rmwTakeRequest_valid, Except.ok.injEq, exists_eq_left',
        takeRequest_truthful_iff, Take.clearsFirst, Take.queue, Bool.false_eq_true, false_or]
  | takeResponse data requestHeader rosResponse =>
      simp only [Truthful, Client.rmwTakeResponse_valid, Except.ok.injEq, exists_eq_left',
        takeResponse_truthful_iff, Take.clearsFirst, Take.queue, Bool.false_eq_true, false_or]

def emptyService : ServiceData Unit Unit Unit :=
  Service.zenohPicoGenerateServiceData (fun _ => ⟨0, 0⟩) [] emptyMessageCallbacks emptyMessageCallbacks

theorem stale_flag_kept :
    ¬ Truthful "service" true (.takeRequest emptyService none () : Take Unit Unit Unit Unit) ∧
      ¬ Truthful "client" true (.takeResponse emptyService none () : Take Unit Unit Unit Unit) := by
  constructor
  · rintro ⟨r, hr, hiff⟩
    rw [Service.rmwTakeRequest_valid] at hr
    cases hr
    rcases (takeRequest_truthful_iff emptyService none () true).mp hiff with h | h
    · exact h rfl
    · cases h
  · rintro ⟨r, hr, hiff⟩
    rw [Client.rmwTakeResponse_valid] at hr
    cases hr
    rcases (takeResponse_truthful_iff emptyService none () true).mp hiff with h | h
    · exact h rfl
    · cases h

section Bounds

def recorder : MessageTypeSupportCallbacks (Option UcdrBuffer) where
  getSerializedSize _ := 0
  cdrSerialize _ _ := (true, [])
  cdrDeserialize buffer _ := (true, some buffer)

def handedBuffer (msgData : ReceiveMessageData ω) : Option UcdrBuffer :=
  (rmwZenohPicoDeserialize msgData.payloadStart msgData.payloadSize recorder none).2

theorem deserialize_handed (msgData : ReceiveMessageData ω) (callbacks : MessageTypeSupportCallbacks M)
    (rosMessage : M) :
    rmwZenohPicoDeserialize msgData.payloadStart msgData.payloadSize callbacks rosMessage =
      match handedBuffer msgData with
      | some buffer => callbacks.cdrDeserialize buffer rosMessage
      | none => (false, rosMessage) := by
  unfold handedBuffer
  cases msgData.payloadStart <;> rfl

def GeneratedFrom (z : ZeSerializer S B D) (payload : List UInt8) (msgData : ReceiveMessageData ω) : Prop :=
  (∃ attachment recvTs alloc,
      rmwZenohPicoGenerateRecvSampleMsgData z ⟨payload, attachment⟩ recvTs alloc = some msgData) ∨
    ∃ handle attachment recvTs alloc,
      rmwZenohPicoGenerateRecvQueryMsgData z ⟨handle, payload, attachment⟩ recvTs alloc = some msgData

theorem GeneratedFrom.payload {z : ZeSerializer S B D} {payload : List UInt8}
    {msgData : ReceiveMessageData ω} (h : GeneratedFrom z payload msgData) :
    msgData.payloadStart = some payload ∧ msgData.payloadSize = payload.length := by
  rcases h with ⟨attachment, recvTs, alloc, h⟩ | ⟨handle, attachment, recvTs, alloc, h⟩
  · simp only [rmwZenohPicoGenerateRecvSampleMsgData, Option.ite_none_right_eq_some,
      Option.map_eq_some_iff] at h
    obtain ⟨-, a, -, rfl⟩ := h
    exact ⟨rfl, rfl⟩
  · simp only [rmwZenohPicoGenerateRecvQueryMsgData, Option.ite_none_right_eq_some,
      Option.map_eq_some_iff] at h
    obtain ⟨-, a, -, rfl⟩ := h
    exact ⟨rfl, rfl⟩

def Take.flag (name : String) (taken : Bool) : Take R Req Res ω → Except RmwRet Bool
  | .take data rosMessage =>
      (Subscription.rmwTake (some (.ofData name data)) (some rosMessage) (some taken)).map (·.taken)
  | .takeWithInfo data rosMessage messageInfo =>
      (Subscription.rmwTakeWithInfo (some (.ofData name data)) (some rosMessage) (some taken)
        (some messageInfo)).map (·.taken)
  | .takeRequest data requestHeader rosRequest =>
      (Service.rmwTakeRequest (some (.ofData name data)) requestHeader rosRequest (some taken)).map (·.taken)
  | .takeResponse data requestHeader rosResponse =>
      (Client.rmwTakeResponse (some (.ofData name data)) requestHeader rosResponse (some taken)).map (·.taken)

/-- The buffer begins behind the header and ends inside the payload. -/
structure Inside (payload : List UInt8) (buffer : UcdrBuffer) : Prop where
  memory : buffer.memory = payload
  offset : buffer.offset = ros2MsgOffset
  length : buffer.length + ros2MsgOffset ≤ payload.length

/-- Only a buffer inside the payload is decoded, and a message without a
header is not reported as taken by any call. -/
structure StaysInBounds (payload : List UInt8) (msgData : ReceiveMessageData ω) : Prop where
  inside : ∀ buffer, handedBuffer msgData = some buffer → Inside payload buffer
  notTaken : payload.length < ros2MsgOffset → ∀ (R Req Res : Type) (call : Take R Req Res ω),
    call.queue.head? = some msgData → ∀ name taken, call.flag name taken = .ok false

theorem sizeSub_fits_iff {n : Nat} : sizeSub n ros2MsgOffset + ros2MsgOffset ≤ n ↔ ros2MsgOffset ≤ n := by
  unfold sizeSub ros2MsgOffset
  split <;> omega

theorem staysInBounds_iff {z : ZeSerializer S B D} {payload : List UInt8} {msgData : ReceiveMessageData ω}
    (h : GeneratedFrom z payload msgData) :
    StaysInBounds payload msgData ↔ ros2MsgOffset ≤ payload.length := by
  obtain ⟨hstart, hsize⟩ := h.payload
  have hhanded : handedBuffer msgData =
      some ⟨payload, ros2MsgOffset, sizeSub payload.length ros2MsgOffset⟩ := by
    simp only [handedBuffer, rmwZenohPicoDeserialize, hstart, hsize, recorder]
  constructor
  · intro hbounds
    exact sizeSub_fits_iff.mp (hbounds.inside _ hhanded).length
  · intro hheader
    refine ⟨?_, fun hshort => absurd hheader (Nat.not_le.mpr hshort)⟩
    intro buffer hbuffer
    cases hhanded.symm.trans hbuffer
    exact ⟨rfl, rfl, sizeSub_fits_iff.mpr hheader⟩

def plainMessage (payload : List UInt8) : ReceiveMessageData Unit :=
  ⟨some payload, payload.length, 0, 0, ⟨1, 0, zSliceCopyFromBuf fun _ => 0⟩, .sample, none⟩

theorem plainMessage_generated (payload : List UInt8) :
    GeneratedFrom valueSerializer payload (plainMessage payload) :=
  .inl ⟨[.inl 1, .inl 0, .inr (zSliceCopyFromBuf fun _ => 0)], 0, ⟨true, true⟩, rfl⟩

theorem header_inBounds : StaysInBounds [0, 1, 0, 0] (plainMessage [0, 1, 0, 0]) :=
  (staysInBounds_iff (plainMessage_generated [0, 1, 0, 0])).mpr (by decide)

def placeholderCallbacks : MessageTypeSupportCallbacks Unit where
  getSerializedSize _ := 1
  cdrSerialize _ _ := (true, [0])
  cdrDeserialize buffer _ := (decide (0 < buffer.length), ())

/-- An empty payload is decoded from a buffer of almost all the memory, and
the message is reported as taken. -/
theorem empty_payload_taken :
    ¬ StaysInBounds [] (plainMessage []) ∧
      (Take.take ⟨placeholderCallbacks, [plainMessage []]⟩ () : Take Unit Unit Unit Unit).flag "topic" false =
        .ok true := by
  constructor
  · intro h
    have hlength : sizeSub 0 ros2MsgOffset + ros2MsgOffset ≤ 0 := (h.inside ⟨[], ros2MsgOffset, _⟩ rfl).length
    exact absurd (sizeSub_fits_iff.mp hlength) (by decide)
  · simp only [Take.flag, Subscription.rmwTake_valid]
    decide

end Bounds

end RmwZenohPico.Takes
