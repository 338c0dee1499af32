import RmwZenohPico.MessageQueue
import RmwZenohPico.RosMessage

namespace RmwZenohPico.Service

open RmwTypes Attachment RosMessage

variable {Req Res ω S B D : Type}

/-- ZenohPicoServiceData, which serves both ends of a service. The queues are
the sequences which the linked lists represent. -/
structure ServiceData (Req Res ω : Type) where
  topicKey : List Char
  requestCallback : MessageTypeSupportCallbacks Req
  responseCallback : MessageTypeSupportCallbacks Res
  requestQueue : List (ReceiveMessageData ω)
  responseQueue : List (ReceiveMessageData ω)
  attachment : AttachmentData

/-- The data of a successfully generated service or client. The gid is a hash
of the topic key alone. -/
def zenohPicoGenerateServiceData (xxh3 : List Char → XXH128Hash) (topicKey : List Char)
    (requestCallback : MessageTypeSupportCallbacks Req)
    (responseCallback : MessageTypeSupportCallbacks Res) : ServiceData Req Res ω :=
  { topicKey, requestCallback, responseCallback
    requestQueue := []
    responseQueue := []
    attachment := ⟨0, 0, zSliceCopyFromBuf (zenohPicoGenGid xxh3 topicKey)⟩ }

def addNewRequestMessage (data : ServiceData Req Res ω) (recvData : ReceiveMessageData ω) :
    ServiceData Req Res ω :=
  { data with requestQueue := MessageQueue.append data.requestQueue recvData }

def requestHandler (z : ZeSerializer S B D) (data : ServiceData Req Res ω) (query : ZenohQuery ω B)
    (recvTs : Int) (alloc : ReceiveAllocations) : ServiceData Req Res ω × Bool :=
  match rmwZenohPicoGenerateRecvQueryMsgData z query recvTs alloc with
  | some recvData => (addNewRequestMessage data recvData, false)
  | none => (data, true)

structure TakeResult (Δ M I : Type) where
  ret : RmwRet
  data : Δ
  rosMessage : M
  info : Option I
  taken : Bool

/-- rmw_take_request behind its argument checks. The popped message moves to
the response queue whether or not it was deserialized. -/
def takeRequest (data : ServiceData Req Res ω) (requestHeader : Option RmwServiceInfo)
    (rosRequest : Req) (taken : Bool) : TakeResult (ServiceData Req Res ω) Req RmwServiceInfo :=
  match MessageQueue.pop data.requestQueue with
  | (none, _) => ⟨.error, data, rosRequest, requestHeader, taken⟩
  | (some msgData, requestQueue) =>
      let r := rmwZenohPicoDeserializeRequestMsg msgData data.requestCallback rosRequest requestHeader
      ⟨.ok, { data with
          requestQueue := requestQueue
          responseQueue := MessageQueue.append data.responseQueue msgData }, r.2.1, r.2.2, r.1⟩

def rmwTakeRequest (service : Option (RmwHandle (ServiceData Req Res ω)))
    (requestHeader : Option RmwServiceInfo) (rosRequest : Req) (taken : Option Bool) :
    Except RmwRet (TakeResult (ServiceData Req Res ω) Req RmwServiceInfo) :=
  match taken, service with
  | none, _ => .error .invalidArgument
  | some _, none => .error .invalidArgument
  | some taken, some service =>
      match service.name, service.data with
      | none, _ => .error .error
      | some _, none => .error .error
      | some _, some data =>
          if checkTypeIdentifiersMatch service.implementationIdentifier then
            .ok (takeRequest data requestHeader rosRequest taken)
          else .error .incorrectRmwImplementation

def compareResponceMsg (requestId : RmwRequestId) (msg : ReceiveMessageData ω) : Bool :=
  match msg.attachment.gid.start with
  | none => false
  | some gidPtr =>
      if ∀ i : Fin 16, gidPtr i = requestId.writerGuid i then
        msg.attachment.sequenceNum == requestId.sequenceNumber
      else false

structure SendEnvironment where
  allocated : Bool
  attachmentFailed : Bool
  now : Int
  accepted : Bool

structure Reply (ω B : Type) where
  query : Option ω
  payload : List UInt8
  attachment : B

structure SendResponseResult (Req Res ω B : Type) where
  ret : RmwRet
  data : ServiceData Req Res ω
  picked : Option (ReceiveMessageData ω)
  reply : Option (Reply ω B)
  deleted : List (ReceiveMessageData ω)

/-- rmw_send_response behind its argument checks. The check of the picked
message returns nothing, so that without a message the call goes on until it
dereferences NULL, which is the outcome none here. -/
def sendResponse (z : ZeSerializer S B D) (data : ServiceData Req Res ω) (requestHeader : RmwRequestId)
    (rosResponse : Res) (env : SendEnvironment) : Option (SendResponseResult Req Res ω B) :=
  let picked := MessageQueue.pickup data.responseQueue (compareResponceMsg requestHeader)
  let data := { data with responseQueue := picked.2 }
  match rmwZenohPicoSerialize data.responseCallback rosResponse env.allocated with
  | none => some ⟨.error, data, picked.1, none, picked.1.toList⟩
  | some msgBytes =>
      match picked.1 with
      | none => none
      | some msgData =>
          match (attachmentGen z msgData.attachment env.now env.attachmentFailed).2 with
          | none => some ⟨.error, data, picked.1, none, []⟩
          | some attachment =>
              some ⟨if env.accepted then .ok else .error, data, picked.1,
                some ⟨msgData.query, msgBytes, attachment⟩, [msgData]⟩

def rmwSendResponse (z : ZeSerializer S B D) (service : Option (RmwHandle (ServiceData Req Res ω)))
    (requestHeader : Option RmwRequestId) (rosResponse : Option Res) (env : SendEnvironment) :
    Except RmwRet (Option (SendResponseResult Req Res ω B)) :=
  match service with
  | none => .error .invalidArgument
  | some service =>
      match service.data, requestHeader, rosResponse with
      | some data, some requestHeader, some rosResponse =>
          if checkTypeIdentifiersMatch service.implementationIdentifier then
            .ok (sendResponse z data requestHeader rosResponse env)
          else .error .incorrectRmwImplementation
      | _, _, _ => .error .invalidArgument

theorem rmwTakeRequest_valid (name : String) (data : ServiceData Req Res ω)
    (requestHeader : Option RmwServiceInfo) (rosRequest : Req) (taken : Bool) :
    rmwTakeRequest (some (.ofData name data)) requestHeader rosRequest (some taken) =
      .ok (takeRequest data requestHeader rosRequest taken) := by
  simp [rmwTakeRequest]

theorem rmwSendResponse_valid (z : ZeSerializer S B D) (name : String) (data : ServiceData Req Res ω)
    (requestHeader : RmwRequestId) (rosResponse : Res) (env : SendEnvironment) :
    rmwSendResponse z (some (.ofData name data)) (some requestHeader) (some rosResponse) env =
      .ok (sendResponse z data requestHeader rosResponse env) := by
  simp [rmwSendResponse]

def requestIdOf (msg : ReceiveMessageData ω) : RmwRequestId :=
  ⟨msg.attachment.gid.gid, msg.attachment.sequenceNum⟩

theorem compareResponceMsg_iff {msg : ReceiveMessageData ω} (h : 16 ≤ msg.attachment.gid.len)
    (id : RmwRequestId) : compareResponceMsg id msg = true ↔ requestIdOf msg = id := by
  cases hs : msg.attachment.gid.start with
  | none =>
      have hl := msg.attachment.gid.null_empty hs
      omega
  | some p =>
      have hb : ∀ i : Fin 16, msg.attachment.gid.gid i = p i := by
        intro i
        rw [Slice.gid_apply h]
        simp [Slice.byte, hs]
      have hg : (∀ i : Fin 16, p i = id.writerGuid i) ↔ msg.attachment.gid.gid = id.writerGuid := by
        simp only [funext_iff, hb]
      cases id with
      | mk guid num =>
          simp only [compareResponceMsg, hs, hg, requestIdOf, RmwRequestId.mk.injEq]
          by_cases he : msg.attachment.gid.gid = guid <;> simp [he]

theorem requestHandler_cases (z : ZeSerializer S B D) (data : ServiceData Req Res ω)
    (query : ZenohQuery ω B) (recvTs : Int) (alloc : ReceiveAllocations) :
    (requestHandler z data query recvTs alloc).1 = data ∨
      ∃ m, attachmentDataGet z query.attachment = some m.attachment ∧ m.query = some query.handle ∧
        (requestHandler z data query recvTs alloc).1 = addNewRequestMessage data m := by
  cases hm : rmwZenohPicoGenerateRecvQueryMsgData z query recvTs alloc with
  | none => exact .inl (by simp [requestHandler, hm])
  | some m =>
      refine .inr ⟨m, ?_, ?_, by simp [requestHandler, hm]⟩ <;>
        simp only [rmwZenohPicoGenerateRecvQueryMsgData, Option.ite_none_right_eq_some,
          Option.map_eq_some_iff] at hm <;>
        obtain ⟨-, a, ha, rfl⟩ := hm
      · exact ha
      · rfl

theorem takeRequest_empty {data : ServiceData Req Res ω} (h : data.requestQueue = [])
    (header : Option RmwServiceInfo) (rosRequest : Req) (taken : Bool) :
    takeRequest data header rosRequest taken = ⟨.error, data, rosRequest, header, taken⟩ := by
  simp [takeRequest, MessageQueue.pop, h]

theorem takeRequest_cons {data : ServiceData Req Res ω} {m : ReceiveMessageData ω}
    {ms : List (ReceiveMessageData ω)} (h : data.requestQueue = m :: ms)
    (header : RmwServiceInfo) (rosRequest : Req) (taken : Bool) :
    (takeRequest data (some header) rosRequest taken).data =
        { data with requestQueue := ms, responseQueue := data.responseQueue ++ [m] } ∧
      (takeRequest data (some header) rosRequest taken).taken =
        decide (Deserializes m data.requestCallback rosRequest) ∧
      (Deserializes m data.requestCallback rosRequest →
        (takeRequest data (some header) rosRequest taken).info =
          some (rmwZneohFillRequestHeader header m)) := by
  refine ⟨by simp [takeRequest, MessageQueue.pop, MessageQueue.append, h], ?_, ?_⟩
  · by_cases hd : Deserializes m data.requestCallback rosRequest
    · simpa [takeRequest, MessageQueue.pop, h, hd, rmwZenohPicoDeserializeRequestMsg] using
        (deserializeServiceMsg_accepts hd header).1
    · simpa [takeRequest, MessageQueue.pop, h, hd, rmwZenohPicoDeserializeRequestMsg] using
        (deserializeServiceMsg_rejects hd (some header)).1
  · intro hd
    simpa [takeRequest, MessageQueue.pop, h, rmwZenohPicoDeserializeRequestMsg] using
      (deserializeServiceMsg_accepts hd header).2

theorem sendResponse_cases {z : ZeSerializer S B D} {data : ServiceData Req Res ω} {id : RmwRequestId}
    {res : Res} {env : SendEnvironment} {r : SendResponseResult Req Res ω B}
    (h : sendResponse z data id res env = some r) :
    r.picked = (MessageQueue.pickup data.responseQueue (compareResponceMsg id)).1 ∧
      r.data = { data with
        responseQueue := (MessageQueue.pickup data.responseQueue (compareResponceMsg id)).2 } ∧
      ∀ reply, r.reply = some reply → ∃ m, r.picked = some m ∧ reply.query = m.query ∧
        (attachmentGen z m.attachment env.now env.attachmentFailed).2 = some reply.attachment := by
  simp only [sendResponse] at h
  split at h
  · cases h
    exact ⟨rfl, rfl, fun reply hr => by cases hr⟩
  · split at h
    · cases h
    · rename_i m hm
      split at h
      · cases h
        exact ⟨hm.symm ▸ rfl, rfl, fun reply hr => by cases hr⟩
      · rename_i b hb
        cases h
        refine ⟨rfl, rfl, ?_⟩
        intro reply hr
        cases hr
        exact ⟨m, hm, rfl, hb⟩

end RmwZenohPico.Service
