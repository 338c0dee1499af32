import RmwZenohPico.Service

namespace RmwZenohPico.Subscription

open RmwTypes Attachment RosMessage Service

variable {R ω S B D : Type}

structure SubData (R ω : Type) where
  callbacks : MessageTypeSupportCallbacks R
  messageQueue : List (ReceiveMessageData ω)

def addNewSubscriptionMessage (data : SubData R ω) (recvData : ReceiveMessageData ω) : SubData R ω :=
  { data with messageQueue := MessageQueue.append data.messageQueue recvData }

/-- A sample that cannot be received is dropped. -/
def subscriptionDataHandler (z : ZeSerializer S B D) (data : SubData R ω) (sample : ZenohSample B)
    (recvTs : Int) (alloc : ReceiveAllocations) : SubData R ω :=
  match rmwZenohPicoGenerateRecvSampleMsgData z sample recvTs alloc with
  | some recvData => addNewSubscriptionMessage data recvData
  | none => data

def rmwZenohPicoTakeOne (data : SubData R ω) (rosMessage : R) (messageInfo : Option RmwMessageInfo)
    (taken : Bool) : TakeResult (SubData R ω) R RmwMessageInfo :=
  match MessageQueue.pop data.messageQueue with
  | (none, _) => ⟨.error, data, rosMessage, messageInfo, taken⟩
  | (some msgData, messageQueue) =>
      let r := rmwZenohPicoDeserializeTopicMsg msgData data.callbacks rosMessage messageInfo
      ⟨if r.1 then .ok else .error, { data with messageQueue := messageQueue }, r.2.1, r.2.2, r.1⟩

def takeArguments (subscription : Option (RmwHandle (SubData R ω))) (rosMessage : Option R)
    (outputs : Bool) : Except RmwRet (SubData R ω × R) :=
  match subscription with
  | none => .error .invalidArgument
  | some subscription =>
      match subscription.name, subscription.data, rosMessage with
      | none, _, _ => .error .error
      | some _, none, _ => .error .error
      | some _, some _, none => .error .invalidArgument
      | some _, some data, some rosMessage =>
          if !outputs then .error .invalidArgument
          else if checkTypeIdentifiersMatch subscription.implementationIdentifier then
            .ok (data, rosMessage)
          else .error .incorrectRmwImplementation

def rmwTake (subscription : Option (RmwHandle (SubData R ω))) (rosMessage : Option R)
    (taken : Option Bool) : Except RmwRet (TakeResult (SubData R ω) R RmwMessageInfo) :=
  (takeArguments subscription rosMessage taken.isSome).map fun a =>
    rmwZenohPicoTakeOne a.1 a.2 none false

def rmwTakeWithInfo (subscription : Option (RmwHandle (SubData R ω))) (rosMessage : Option R)
    (taken : Option Bool) (messageInfo : Option RmwMessageInfo) :
    Except RmwRet (TakeResult (SubData R ω) R RmwMessageInfo) :=
  (takeArguments subscription rosMessage (messageInfo.isSome && taken.isSome)).map fun a =>
    rmwZenohPicoTakeOne a.1 a.2 messageInfo false

theorem rmwTake_valid (name : String) (data : SubData R ω) (rosMessage : R) (taken : Bool) :
    rmwTake (some (.ofData name data)) (some rosMessage) (some taken) =
      .ok (rmwZenohPicoTakeOne data rosMessage none false) := by
  simp [rmwTake, takeArguments, Except.map]

theorem rmwTakeWithInfo_valid (name : String) (data : SubData R ω) (rosMessage : R) (taken : Bool)
    (messageInfo : RmwMessageInfo) :
    rmwTakeWithInfo (some (.ofData name data)) (some rosMessage) (some taken) (some messageInfo) =
      .ok (rmwZenohPicoTakeOne data rosMessage (some messageInfo) false) := by
  simp [rmwTakeWithInfo, takeArguments, Except.map]

theorem takeOne_empty {data : SubData R ω} (h : data.messageQueue = []) (rosMessage : R)
    (messageInfo : Option RmwMessageInfo) (taken : Bool) :
    rmwZenohPicoTakeOne data rosMessage messageInfo taken =
      ⟨.error, data, rosMessage, messageInfo, taken⟩ := by
  simp [rmwZenohPicoTakeOne, MessageQueue.pop, h]

/-- A take of a message that is deserialized hands out the message with the
number of its attachment. -/
theorem takeOne_cons {data : SubData R ω} {m : ReceiveMessageData ω} {ms : List (ReceiveMessageData ω)}
    (h : data.messageQueue = m :: ms) {rosMessage r : R}
    (hd : rmwZenohPicoDeserialize m.payloadStart m.payloadSize data.callbacks rosMessage = (true, r))
    (info : RmwMessageInfo) (taken : Bool) :
    ∃ info', rmwZenohPicoTakeOne data rosMessage (some info) taken =
        ⟨.ok, { data with messageQueue := ms }, r, some info', true⟩ ∧
      info'.publicationSequenceNumber = m.attachment.sequenceNum := by
  refine ⟨_, by simp [rmwZenohPicoTakeOne, MessageQueue.pop, h, rmwZenohPicoDeserializeTopicMsg, hd]; rfl,
    rfl⟩

end RmwZenohPico.Subscription
