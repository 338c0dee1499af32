import RmwZenohPico.Service

namespace RmwZenohPico.Client

open RmwTypes Attachment RosMessage Service

variable {Req Res ω S B D : Type}

structure SendRequestResult (Req Res ω B : Type) where
  ret : RmwRet
  data : ServiceData Req Res ω
  sequenceId : Option Int
  request : Option (List UInt8 × B)

/-- rmw_send_request behind its argument checks. The caller is given the
number before the increment, the attachment carries the one after it. -/
def sendRequest (z : ZeSerializer S B D) (data : ServiceData Req Res ω) (rosRequest : Req)
    (env : SendEnvironment) : SendRequestResult Req Res ω B :=
  match rmwZenohPicoSerialize data.requestCallback rosRequest env.allocated with
  | none => ⟨.error, data, none, none⟩
  | some msgBytes =>
      let inc := attachmentSequenceNumInc data.attachment
      let gen := attachmentGen z inc.1 env.now env.attachmentFailed
      let data := { data with attachment := gen.1 }
      match gen.2 with
      | none => ⟨.error, data, some inc.2, none⟩
      | some attachment =>
          ⟨if env.accepted then .ok else .error, data, some inc.2, some (msgBytes, attachment)⟩

def rmwSendRequest (z : ZeSerializer S B D) (client : Option (RmwHandle (ServiceData Req Res ω)))
    (rosRequest : Req) (env : SendEnvironment) : Except RmwRet (SendRequestResult Req Res ω B) :=
  match client with
  | none => .error .invalidArgument
  | some client =>
      match client.data with
      | none => .error .invalidArgument
      | some data =>
          if checkTypeIdentifiersMatch client.implementationIdentifier then
            .ok (sendRequest z data rosRequest env)
          else .error .incorrectRmwImplementation

def addNewReplayMessage (data : ServiceData Req Res ω) (recvData : ReceiveMessageData ω) :
    ServiceData Req Res ω :=
  { data with responseQueue := MessageQueue.append data.responseQueue recvData }

def replyHandler (z : ZeSerializer S B D) (data : ServiceData Req Res ω) (sample : ZenohSample B)
    (recvTs : Int) (alloc : ReceiveAllocations) : ServiceData Req Res ω :=
  match rmwZenohPicoGenerateRecvSampleMsgData z sample recvTs alloc with
  | some recvData => addNewReplayMessage data recvData
  | none => data

def takeResponse (data : ServiceData Req Res ω) (requestHeader : Option RmwServiceInfo)
    (rosResponse : Res) (taken : Bool) : TakeResult (ServiceData Req Res ω) Res RmwServiceInfo :=
  match MessageQueue.pop data.responseQueue with
  | (none, _) => ⟨.error, data, rosResponse, requestHeader, taken⟩
  | (some msgData, responseQueue) =>
      let r :=
        rmwZenohPicoDeserializeResponseMsg msgData data.responseCallback rosResponse requestHeader
      ⟨if r.1 then .ok else .error, { data with responseQueue := responseQueue }, r.2.1, r.2.2, r.1⟩

def rmwTakeResponse (client : Option (RmwHandle (ServiceData Req Res ω)))
    (requestHeader : Option RmwServiceInfo) (rosResponse : Res) (taken : Option Bool) :
    Except RmwRet (TakeResult (ServiceData Req Res ω) Res RmwServiceInfo) :=
  match taken, client with
  | none, _ => .error .invalidArgument
  | some _, none => .error .invalidArgument
  | some taken, some client =>
      match client.data with
      | none => .error .invalidArgument
      | some data =>
          if checkTypeIdentifiersMatch client.implementationIdentifier then
            .ok (takeResponse data requestHeader rosResponse taken)
          else .error .incorrectRmwImplementation

theorem rmwSendRequest_valid (z : ZeSerializer S B D) (name : String) (data : ServiceData Req Res ω)
    (rosRequest : Req) (env : SendEnvironment) :
    rmwSendRequest z (some (.ofData name data)) rosRequest env =
      .ok (sendRequest z data rosRequest env) := by
  simp [rmwSendRequest]

theorem rmwTakeResponse_valid (name : String) (data : ServiceData Req Res ω)
    (requestHeader : Option RmwServiceInfo) (rosResponse : Res) (taken : Bool) :
    rmwTakeResponse (some (.ofData name data)) requestHeader rosResponse (some taken) =
      .ok (takeResponse data requestHeader rosResponse taken) := by
  simp [rmwTakeResponse]

theorem sendRequest_data (z : ZeSerializer S B D) (data : ServiceData Req Res ω) (req : Req)
    (env : SendEnvironment) :
    ∃ num ts, (sendRequest z data req env).data =
      { data with attachment := ⟨num, ts, data.attachment.gid⟩ } := by
  simp only [sendRequest]
  split
  · exact ⟨data.attachment.sequenceNum, data.attachment.timestamp, rfl⟩
  · split <;>
      exact ⟨data.attachment.sequenceNum + 1, env.now, by simp [attachmentSequenceNumInc]⟩

/-- What zenoh is given is stamped with the number after the one that the
caller is given. -/
theorem sendRequest_request {z : ZeSerializer S B D} (hz : RoundTrips z)
    {data : ServiceData Req Res ω} {req : Req} {env : SendEnvironment} {payload : List UInt8} {b : B}
    (h : (sendRequest z data req env).request = some (payload, b)) :
    (sendRequest z data req env).sequenceId = some data.attachment.sequenceNum ∧
      ∃ g, attachmentDataGet z b = some ⟨data.attachment.sequenceNum + 1, env.now, g⟩ ∧
        g.bytes = data.attachment.gid.bytes := by
  simp only [sendRequest] at h ⊢
  split at h
  · cases h
  · split at h
    · cases h
    · rename_i b' hb
      obtain ⟨-, rfl⟩ := Prod.mk.inj (Option.some.inj h)
      exact ⟨rfl, attachmentGen_get hz hb⟩

theorem takeResponse_empty {data : ServiceData Req Res ω} (h : data.responseQueue = [])
    (header : Option RmwServiceInfo) (rosResponse : Res) (taken : Bool) :
    takeResponse data header rosResponse taken = ⟨.error, data, rosResponse, header, taken⟩ := by
  simp [takeResponse, MessageQueue.pop, h]

theorem takeResponse_cons {data : ServiceData Req Res ω} {m : ReceiveMessageData ω}
    {ms : List (ReceiveMessageData ω)} (h : data.responseQueue = m :: ms)
    (header : RmwServiceInfo) (rosResponse : Res) (taken : Bool) :
    (takeResponse data (some header) rosResponse taken).data = { data with responseQueue := ms } ∧
      (takeResponse data (some header) rosResponse taken).taken =
        decide (Deserializes m data.responseCallback rosResponse) ∧
      (Deserializes m data.responseCallback rosResponse →
        (takeResponse data (some header) rosResponse taken).info =
          some (rmwZneohFillRequestHeader header m)) := by
  refine ⟨by simp [takeResponse, MessageQueue.pop, h], ?_, ?_⟩
  · by_cases hd : Deserializes m data.responseCallback rosResponse
    · simpa [takeResponse, MessageQueue.pop, h, hd, rmwZenohPicoDeserializeResponseMsg] using
        (deserializeServiceMsg_accepts hd header).1
    · simpa [takeResponse, MessageQueue.pop, h, hd, rmwZenohPicoDeserializeResponseMsg] using
        (deserializeServiceMsg_rejects hd (some header)).1
  · intro hd
    simpa [takeResponse, MessageQueue.pop, h, rmwZenohPicoDeserializeResponseMsg] using
      (deserializeServiceMsg_accepts hd header).2

end RmwZenohPico.Client
