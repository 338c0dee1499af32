import RmwZenohPico.Attachment

namespace RmwZenohPico.RosMessage

open RmwTypes Attachment

variable {ω R S B D : Type}

structure UcdrBuffer where
  memory : List UInt8
  offset : Nat
  length : Nat

def UcdrBuffer.window (b : UcdrBuffer) : List UInt8 := (b.memory.drop b.offset).take b.length

def UcdrBuffer.write (b : UcdrBuffer) (written : List UInt8) : List UInt8 :=
  b.memory.take b.offset ++ written.take b.length ++
    b.memory.drop (b.offset + (written.take b.length).length)

/-- The generated code of a message type. Serializing yields a success flag
and the bytes it wrote; deserializing may write the message and still fail. -/
structure MessageTypeSupportCallbacks (R : Type) where
  getSerializedSize : R → Nat
  cdrSerialize : R → UcdrBuffer → Bool × List UInt8
  cdrDeserialize : UcdrBuffer → R → Bool × R

def emptyMessageCallbacks : MessageTypeSupportCallbacks Unit where
  getSerializedSize _ := 0
  cdrSerialize _ _ := (true, [])
  cdrDeserialize buffer _ := (decide (buffer.offset ≤ buffer.memory.length), ())

def ros2MsgOffset : Nat := 4

def setRos2Header (msgBytes : List UInt8) : List UInt8 := [0, 1, 0, 0] ++ msgBytes.drop 4

/-- The message bytes, whose number is the reported size. The success flag of
the serializer is not looked at. -/
def rmwZenohPicoSerialize (callbacks : MessageTypeSupportCallbacks R) (rosMessage : R)
    (allocated : Bool) : Option (List UInt8) :=
  let serializedSize := callbacks.getSerializedSize rosMessage
  let allocSize := serializedSize + ros2MsgOffset
  if allocated then
    let buffer : UcdrBuffer := ⟨List.replicate allocSize 0, ros2MsgOffset, serializedSize⟩
    let ret := callbacks.cdrSerialize rosMessage buffer
    some (setRos2Header (buffer.write ret.2))
  else none

def sizeSub (a b : Nat) : Nat := if b ≤ a then a - b else 2 ^ 64 + a - b

def rmwZenohPicoDeserialize (payloadStart : Option (List UInt8)) (payloadSize : Nat)
    (callbacks : MessageTypeSupportCallbacks R) (rosMessage : R) : Bool × R :=
  match payloadStart with
  | some memory =>
      callbacks.cdrDeserialize ⟨memory, ros2MsgOffset, sizeSub payloadSize ros2MsgOffset⟩ rosMessage
  | none => (false, rosMessage)

/-- Callbacks that are inverse to each other: what the serializer wrote into
a buffer of the announced size is deserialized to the same message, wherever
those bytes stand. -/
structure CdrInverse (callbacks : MessageTypeSupportCallbacks R) : Prop where
  inverse : ∀ (r r₀ : R) (buffer buffer' : UcdrBuffer),
    buffer.length = callbacks.getSerializedSize r →
    buffer.offset + buffer.length ≤ buffer.memory.length →
    buffer'.length = buffer.length →
    buffer'.window =
      { buffer with memory := buffer.write (callbacks.cdrSerialize r buffer).2 : UcdrBuffer }.window →
    callbacks.cdrDeserialize buffer' r₀ = (true, r)

def byteCallbacks : MessageTypeSupportCallbacks UInt8 where
  getSerializedSize _ := 1
  cdrSerialize r _ := (true, [r])
  cdrDeserialize buffer r₀ :=
    match buffer.window with
    | [] => (false, r₀)
    | r :: _ => (true, r)

theorem byteCallbacks_inverse : CdrInverse byteCallbacks := by
  constructor
  intro r r₀ buffer buffer' hl hfit hl' hw
  have hlen : buffer.length = 1 := hl
  have hoff : (buffer.memory.take buffer.offset).length = buffer.offset := by
    rw [List.length_take]
    omega
  have hwritten : buffer'.window = [r] := by
    rw [hw]
    simp only [UcdrBuffer.window, UcdrBuffer.write, byteCallbacks, hlen, List.append_assoc]
    rw [List.drop_append_of_le_length (le_of_eq hoff.symm), ← hoff, List.drop_take_self]
    simp
  simp [byteCallbacks, hwritten]

theorem UcdrBuffer.write_length {b : UcdrBuffer} (h : b.offset + b.length ≤ b.memory.length)
    (written : List UInt8) : (b.write written).length = b.memory.length := by
  simp only [UcdrBuffer.write, List.length_append, List.length_take, List.length_drop]
  omega

theorem sizeSub_offset (n : Nat) : sizeSub (n + ros2MsgOffset) ros2MsgOffset = n := by
  simp [sizeSub]

theorem deserialize_serialize {callbacks : MessageTypeSupportCallbacks R} (hc : CdrInverse callbacks)
    {r : R} {msgBytes : List UInt8} {allocated : Bool}
    (h : rmwZenohPicoSerialize callbacks r allocated = some msgBytes) (r₀ : R) :
    rmwZenohPicoDeserialize (some msgBytes) msgBytes.length callbacks r₀ = (true, r) := by
  simp only [rmwZenohPicoSerialize, Option.ite_none_right_eq_some, Option.some.injEq] at h
  obtain ⟨-, rfl⟩ := h
  generalize hn : callbacks.getSerializedSize r = n
  generalize hb : (⟨List.replicate (n + ros2MsgOffset) 0, ros2MsgOffset, n⟩ : UcdrBuffer) = buffer
  have hmem : buffer.memory.length = n + 4 := by simp [← hb, ros2MsgOffset]
  have hoff : buffer.offset = 4 := by simp [← hb, ros2MsgOffset]
  have hlen : buffer.length = n := by simp [← hb]
  have hfit : buffer.offset + buffer.length ≤ buffer.memory.length := by omega
  have hw := UcdrBuffer.write_length hfit (callbacks.cdrSerialize r buffer).2
  have hsize : (setRos2Header (buffer.write (callbacks.cdrSerialize r buffer).2)).length =
      n + ros2MsgOffset := by
    simp only [setRos2Header, List.length_append, List.length_drop, hw, hmem, List.length_cons,
      List.length_nil, ros2MsgOffset]
    omega
  rw [rmwZenohPicoDeserialize, hsize, sizeSub_offset]
  refine hc.inverse r r₀ buffer _ (hlen.trans hn.symm) hfit hlen.symm ?_
  simp [UcdrBuffer.window, setRos2Header, ros2MsgOffset, hoff, hlen]

inductive ZenohPicoMessageType
  | sample
  | query
  deriving DecidableEq

structure ReceiveMessageData (ω : Type) where
  payloadStart : Option (List UInt8)
  payloadSize : Nat
  recvTimestamp : Int
  sequenceNum : Nat
  attachment : AttachmentData
  type : ZenohPicoMessageType
  query : Option ω

structure ZenohSample (B : Type) where
  payload : List UInt8
  attachment : B

structure ZenohQuery (ω B : Type) where
  handle : ω
  payload : List UInt8
  attachment : B

structure ReceiveAllocations where
  recvData : Bool
  payload : Bool

def ReceiveAllocations.succeed (a : ReceiveAllocations) : Bool := a.recvData && a.payload

def rmwZenohPicoGenerateRecvSampleMsgData (z : ZeSerializer S B D) (sample : ZenohSample B)
    (recvTs : Int) (alloc : ReceiveAllocations) : Option (ReceiveMessageData ω) :=
  if alloc.succeed then
    (attachmentDataGet z sample.attachment).map fun attachment =>
      ⟨some sample.payload, sample.payload.length, recvTs, 0, attachment, .sample, none⟩
  else none

def rmwZenohPicoGenerateRecvQueryMsgData (z : ZeSerializer S B D) (query : ZenohQuery ω B)
    (recvTs : Int) (alloc : ReceiveAllocations) : Option (ReceiveMessageData ω) :=
  if alloc.succeed then
    (attachmentDataGet z query.attachment).map fun attachment =>
      ⟨some query.payload, query.payload.length, recvTs, 0, attachment, .query, some query.handle⟩
  else none

def rmwZenohPicoDeserializeTopicMsg (msgData : ReceiveMessageData ω)
    (callbacks : MessageTypeSupportCallbacks R) (rosMessage : R)
    (messageInfo : Option RmwMessageInfo) : Bool × R × Option RmwMessageInfo :=
  let r := rmwZenohPicoDeserialize msgData.payloadStart msgData.payloadSize callbacks rosMessage
  if r.1 then
    (true, r.2, messageInfo.map fun info =>
      { sourceTimestamp := msgData.attachment.timestamp
        receivedTimestamp := msgData.recvTimestamp
        publicationSequenceNumber := msgData.attachment.sequenceNum
        receptionSequenceNumber := msgData.sequenceNum
        publisherGid :=
          ⟨some rmwGetImplementationIdentifier, msgData.attachment.gid.copyInto info.publisherGid.data⟩
        fromIntraProcess := false })
  else (false, r.2, messageInfo)

def rmwZneohFillRequestHeader (requestHeader : RmwServiceInfo) (msgData : ReceiveMessageData ω) :
    RmwServiceInfo :=
  { sourceTimestamp := msgData.attachment.timestamp
    receivedTimestamp := msgData.recvTimestamp
    requestId :=
      ⟨msgData.attachment.gid.copyInto requestHeader.requestId.writerGuid,
        msgData.attachment.sequenceNum⟩ }

/-- Requests and responses are deserialized alike. The header is written only
after the payload has been accepted. -/
def deserializeServiceMsg (msgData : ReceiveMessageData ω) (callbacks : MessageTypeSupportCallbacks R)
    (rosMessage : R) (requestHeader : Option RmwServiceInfo) : Bool × R × Option RmwServiceInfo :=
  let r := rmwZenohPicoDeserialize msgData.payloadStart msgData.payloadSize callbacks rosMessage
  if r.1 then (true, r.2, requestHeader.map fun header => rmwZneohFillRequestHeader header msgData)
  else (false, r.2, requestHeader)

def rmwZenohPicoDeserializeResponseMsg (msgData : ReceiveMessageData ω)
    (callbacks : MessageTypeSupportCallbacks R) (rosResponse : R)
    (requestHeader : Option RmwServiceInfo) : Bool × R × Option RmwServiceInfo :=
  deserializeServiceMsg msgData callbacks rosResponse requestHeader

def rmwZenohPicoDeserializeRequestMsg (msgData : ReceiveMessageData ω)
    (callbacks : MessageTypeSupportCallbacks R) (rosRequest : R)
    (requestHeader : Option RmwServiceInfo) : Bool × R × Option RmwServiceInfo :=
  deserializeServiceMsg msgData callbacks rosRequest requestHeader

def Deserializes (msgData : ReceiveMessageData ω) (callbacks : MessageTypeSupportCallbacks R)
    (rosMessage : R) : Prop :=
  (rmwZenohPicoDeserialize msgData.payloadStart msgData.payloadSize callbacks rosMessage).1 = true

instance (msgData : ReceiveMessageData ω) (callbacks : MessageTypeSupportCallbacks R) (rosMessage : R) :
    Decidable (Deserializes msgData callbacks rosMessage) :=
  inferInstanceAs (Decidable (_ = true))

theorem deserializeServiceMsg_accepts {msgData : ReceiveMessageData ω}
    {callbacks : MessageTypeSupportCallbacks R} {rosMessage : R}
    (h : Deserializes msgData callbacks rosMessage) (header : RmwServiceInfo) :
    (deserializeServiceMsg msgData callbacks rosMessage (some header)).1 = true ∧
      (deserializeServiceMsg msgData callbacks rosMessage (some header)).2.2 =
        some (rmwZneohFillRequestHeader header msgData) := by
  unfold Deserializes at h
  simp [deserializeServiceMsg, h]

theorem deserializeServiceMsg_rejects {msgData : ReceiveMessageData ω}
    {callbacks : MessageTypeSupportCallbacks R} {rosMessage : R}
    (h : ¬ Deserializes msgData callbacks rosMessage) (header : Option RmwServiceInfo) :
    (deserializeServiceMsg msgData callbacks rosMessage header).1 = false ∧
      (deserializeServiceMsg msgData callbacks rosMessage header).2.2 = header := by
  unfold Deserializes at h
  simp [deserializeServiceMsg, h]

theorem deserializeServiceMsg_iff {msgData : ReceiveMessageData ω}
    {callbacks : MessageTypeSupportCallbacks R} {rosMessage : R} {header : Option RmwServiceInfo} :
    (deserializeServiceMsg msgData callbacks rosMessage header).1 = true ↔
      Deserializes msgData callbacks rosMessage := by
  simp only [deserializeServiceMsg, Deserializes]
  split <;> rename_i h <;> simp [h]

theorem deserializeTopicMsg_iff {msgData : ReceiveMessageData ω}
    {callbacks : MessageTypeSupportCallbacks R} {rosMessage : R} {info : Option RmwMessageInfo} :
    (rmwZenohPicoDeserializeTopicMsg msgData callbacks rosMessage info).1 = true ↔
      Deserializes msgData callbacks rosMessage := by
  simp only [rmwZenohPicoDeserializeTopicMsg, Deserializes]
  split <;> rename_i h <;> simp [h]

theorem deserializeServiceMsg_message (msgData : ReceiveMessageData ω)
    (callbacks : MessageTypeSupportCallbacks R) (rosMessage : R) (header : Option RmwServiceInfo) :
    (deserializeServiceMsg msgData callbacks rosMessage header).2.1 =
      (rmwZenohPicoDeserialize msgData.payloadStart msgData.payloadSize callbacks rosMessage).2 := by
  simp only [deserializeServiceMsg]
  split <;> rfl

theorem deserializeTopicMsg_message (msgData : ReceiveMessageData ω)
    (callbacks : MessageTypeSupportCallbacks R) (rosMessage : R) (info : Option RmwMessageInfo) :
    (rmwZenohPicoDeserializeTopicMsg msgData callbacks rosMessage info).2.1 =
      (rmwZenohPicoDeserialize msgData.payloadStart msgData.payloadSize callbacks rosMessage).2 := by
  simp only [rmwZenohPicoDeserializeTopicMsg]
  split <;> rfl

/-- A header that was filled from a message carries its sequence number, and
its gid when that is 16 bytes long. -/
theorem fillRequestHeader_id {msgData : ReceiveMessageData ω} (h : 16 ≤ msgData.attachment.gid.len)
    (header : RmwServiceInfo) :
    (rmwZneohFillRequestHeader header msgData).requestId =
      ⟨msgData.attachment.gid.gid, msgData.attachment.sequenceNum⟩ := by
  simp [rmwZneohFillRequestHeader, Slice.copyInto_of_le h]

end RmwZenohPico.RosMessage
