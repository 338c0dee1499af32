import RmwZenohPico.PubSub
import RmwZenohPico.Client

namespace RmwZenohPico.SendPayload

open Lib.LabelledMachine RmwTypes Attachment RosMessage Service

variable {R Req Res M T ω S B D : Type}

structure PubData (R : Type) where
  callbacks : MessageTypeSupportCallbacks R
  attachment : AttachmentData

structure PublishResult (R B : Type) where
  ret : RmwRet
  data : PubData R
  put : Option (List UInt8 × B)

def rmwZenohPicoPublish (z : ZeSerializer S B D) (pubData : PubData R) (rosMessage : R)
    (env : SendEnvironment) : PublishResult R B :=
  match rmwZenohPicoSerialize pubData.callbacks rosMessage env.allocated with
  | none => ⟨.error, pubData, none⟩
  | some msgBytes =>
      let inc := attachmentSequenceNumInc pubData.attachment
      let gen := attachmentGen z inc.1 env.now env.attachmentFailed
      let pubData := { pubData with attachment := gen.1 }
      match gen.2 with
      | none => ⟨.error, pubData, none⟩
      | some attachment => ⟨if env.accepted then .ok else .error, pubData, some (msgBytes, attachment)⟩

/-- The data of the publisher is not checked, without it NULL is
dereferenced. -/
def rmwPublish (z : ZeSerializer S B D) (publisher : Option (RmwHandle (PubData R))) (rosMessage : Option R)
    (env : SendEnvironment) : Except RmwRet (Option (PublishResult R B)) :=
  match publisher with
  | none => .error .invalidArgument
  | some publisher =>
      if checkTypeIdentifiersMatch publisher.implementationIdentifier then
        match rosMessage with
        | none => .error .invalidArgument
        | some rosMessage => .ok (publisher.data.map fun data => rmwZenohPicoPublish z data rosMessage env)
      else .error .incorrectRmwImplementation

theorem rmwPublish_valid (z : ZeSerializer S B D) (name : String) (data : PubData R) (rosMessage : R)
    (env : SendEnvironment) :
    rmwPublish z (some (.ofData name data)) (some rosMessage) env =
      .ok (some (rmwZenohPicoPublish z data rosMessage env)) := by
  simp [rmwPublish]

theorem publish_front [DecidableEq T] (z : ZeSerializer S B D) {callbacks : MessageTypeSupportCallbacks R}
    {rosMessage : R} {msgBytes : List UInt8} {s : PubSub.Topic T R B} {t : T}
    (hserialize : rmwZenohPicoSerialize callbacks rosMessage true = some msgBytes)
    (hidle : s.pc t = .idle) (hfree : s.mutex = none) :
    run (PubSub.step z callbacks) s [.serialize t rosMessage, .lock t, .sequenceNumInc t] =
      some ({ s with mutex := some t, attachment := (attachmentSequenceNumInc s.attachment).1 }.goto t
        (.counted rosMessage msgBytes)) := by
  simp [run, PubSub.step, PubSub.Topic.goto, hidle, hfree, hserialize]

theorem publish_run [DecidableEq T] (z : ZeSerializer S B D) (data : PubData R) (rosMessage : R)
    (env : SendEnvironment) (hallocated : env.allocated = true) {s : PubSub.Topic T R B} {t : T}
    (hidle : s.pc t = .idle) (hfree : s.mutex = none) (hattachment : s.attachment = data.attachment) :
    ∃ ls s' new, run (PubSub.step z data.callbacks) s ls = some s' ∧ s'.pc = s.pc ∧ s'.mutex = none ∧
      s'.attachment = (rmwZenohPicoPublish z data rosMessage env).data.attachment ∧
      s'.puts = s.puts ++ new ∧ new.map (fun p => (p.payload, p.attachment)) =
        if (rmwZenohPicoPublish z data rosMessage env).ret = .ok then
          (rmwZenohPicoPublish z data rosMessage env).put.toList
        else [] := by
  obtain ⟨allocated, failed, now, accepted⟩ := env
  obtain rfl : allocated = true := hallocated
  have hback : ∀ pc, Function.update (Function.update s.pc t pc) t .idle = s.pc := by
    intro pc
    rw [Function.update_idem, ← hidle, Function.update_eq_self]
  have hserialize : rmwZenohPicoSerialize data.callbacks rosMessage true =
      some (setRos2Header _) := rfl
  obtain ⟨front, hfront⟩ : ∃ ls, run (PubSub.step z data.callbacks) s ls = some _ :=
    ⟨_, publish_front z hserialize hidle hfree⟩
  rw [hattachment] at hfront
  cases hgen : (attachmentGen z (attachmentSequenceNumInc data.attachment).1 now failed).2 with
  | none =>
      refine ⟨front ++ [.attachmentGen t now failed, .unlock t], ?_⟩
      rw [run_append, hfront]
      simp [run, PubSub.step, PubSub.Topic.goto, hgen, hserialize, rmwZenohPicoPublish, hback]
  | some attachment =>
      refine ⟨front ++ [.attachmentGen t now failed, .put t accepted, .unlock t], ?_⟩
      rw [run_append, hfront]
      cases accepted <;>
        simp [run, PubSub.step, PubSub.Topic.goto, hgen, hserialize, rmwZenohPicoPublish, hback]

/-- What the callbacks of a message do with a buffer of the size that they
announce. -/
structure CdrOutput where
  size : Nat
  ret : Bool
  bytes : List UInt8

def cdrOutput (callbacks : MessageTypeSupportCallbacks M) (rosMessage : M) : CdrOutput :=
  let size := callbacks.getSerializedSize rosMessage
  let ret := callbacks.cdrSerialize rosMessage ⟨List.replicate (size + ros2MsgOffset) 0, ros2MsgOffset, size⟩
  ⟨size, ret.1, ret.2⟩

def CdrOutput.Carried (output : CdrOutput) (payload : List UInt8) : Prop :=
  output.ret = true ∧ payload = [0, 1, 0, 0] ++ output.bytes

/-- The payload that is made of the output. It has the announced size,
whatever was produced. -/
def CdrOutput.framed (output : CdrOutput) : List UInt8 :=
  [0, 1, 0, 0] ++
    (output.bytes.take output.size ++ List.replicate (output.size - output.bytes.length) 0)

theorem serialize_framed (callbacks : MessageTypeSupportCallbacks M) (rosMessage : M) (allocated : Bool) :
    rmwZenohPicoSerialize callbacks rosMessage allocated =
      if allocated then some (cdrOutput callbacks rosMessage).framed else none := by
  simp only [rmwZenohPicoSerialize, cdrOutput, CdrOutput.framed, setRos2Header, UcdrBuffer.write]
  generalize hn : callbacks.getSerializedSize rosMessage = n
  generalize (callbacks.cdrSerialize rosMessage ⟨List.replicate (n + ros2MsgOffset) 0, ros2MsgOffset, n⟩).2 = w
  have hfront : (List.replicate (n + ros2MsgOffset) (0 : UInt8)).take ros2MsgOffset = List.replicate 4 0 := by
    rw [List.take_replicate, Nat.min_eq_left (Nat.le_add_left _ _)]
    rfl
  have hrest : n + ros2MsgOffset - (ros2MsgOffset + (w.take n).length) = n - w.length := by
    rw [List.length_take]
    omega
  rw [hfront, List.drop_replicate, hrest, List.append_assoc, List.drop_left' List.length_replicate]

theorem carried_framed_iff (output : CdrOutput) :
    output.Carried output.framed ↔ output.ret = true ∧ output.bytes.length = output.size := by
  rw [CdrOutput.Carried, CdrOutput.framed, List.append_cancel_left_eq]
  refine and_congr_right fun _ => ?_
  constructor
  · intro hbytes
    have hlen := congrArg List.length hbytes
    rw [List.length_append, List.length_take, List.length_replicate] at hlen
    omega
  · intro hlen
    rw [← hlen, List.take_length, Nat.sub_self, List.replicate_zero, List.append_nil]

inductive Send (R Req Res ω : Type)
  | publish (data : PubData R) (rosMessage : R)
  | sendRequest (data : ServiceData Req Res ω) (rosRequest : Req)
  | sendResponse (data : ServiceData Req Res ω) (requestHeader : RmwRequestId) (rosResponse : Res)

def Send.output : Send R Req Res ω → CdrOutput
  | .publish data rosMessage => cdrOutput data.callbacks rosMessage
  | .sendRequest data rosRequest => cdrOutput data.requestCallback rosRequest
  | .sendResponse data _ rosResponse => cdrOutput data.responseCallback rosResponse

def Send.run (z : ZeSerializer S B D) (name : String) (env : SendEnvironment) :
    Send R Req Res ω → Option (RmwRet × Option (List UInt8))
  | .publish data rosMessage =>
      match rmwPublish z (some (.ofData name data)) (some rosMessage) env with
      | .error ret => some (ret, none)
      | .ok r => r.map fun r => (r.ret, r.put.map Prod.fst)
  | .sendRequest data rosRequest =>
      match Client.rmwSendRequest z (some (.ofData name data)) rosRequest env with
      | .error ret => some (ret, none)
      | .ok r => some (r.ret, r.request.map Prod.fst)
  | .sendResponse data requestHeader rosResponse =>
      match rmwSendResponse z (some (.ofData name data)) (some requestHeader) (some rosResponse) env with
      | .error ret => some (ret, none)
      | .ok r => r.map fun r => (r.ret, r.reply.map (·.payload))

def Send.stamped : Send R Req Res ω → Option AttachmentData
  | .publish data _ => some (attachmentSequenceNumInc data.attachment).1
  | .sendRequest data _ => some (attachmentSequenceNumInc data.attachment).1
  | .sendResponse data requestHeader _ =>
      (data.responseQueue.find? (compareResponceMsg requestHeader)).map (·.attachment)

def Send.passes (z : ZeSerializer S B D) (env : SendEnvironment) (call : Send R Req Res ω) : Bool :=
  env.allocated && env.accepted &&
    call.stamped.any fun attachment => (attachmentGen z attachment env.now env.attachmentFailed).2.isSome

def Send.Honest (z : ZeSerializer S B D) (name : String) (env : SendEnvironment)
    (call : Send R Req Res ω) : Prop :=
  ∀ payload, call.run z name env = some (.ok, payload) → ∃ p, payload = some p ∧ call.output.Carried p

/-- Only a call that passes is successful, and it has then sent what was
serialized. -/
theorem run_ok_iff (z : ZeSerializer S B D) (name : String) (env : SendEnvironment)
    (call : Send R Req Res ω) (payload : Option (List UInt8)) :
    call.run z name env = some (.ok, payload) ↔
      call.passes z env = true ∧ payload = some call.output.framed := by
  obtain ⟨allocated, failed, now, accepted⟩ := env
  cases call with
  | publish data rosMessage =>
      simp only [Send.run, rmwPublish_valid, Option.map_some, rmwZenohPicoPublish, serialize_framed,
        Send.passes, Send.stamped, Send.output, Option.any_some]
      cases allocated with
      | false => simp
      | true =>
          cases (attachmentGen z (attachmentSequenceNumInc data.attachment).1 now failed).2 with
          | none => simp
          | some attachment => cases accepted <;> simp [eq_comm]
  | sendRequest data rosRequest =>
      simp only [Send.run, Client.rmwSendRequest_valid, Client.sendRequest, serialize_framed,
        Send.passes, Send.stamped, Send.output, Option.any_some]
      cases allocated with
      | false => simp
      | true =>
          cases (attachmentGen z (attachmentSequenceNumInc data.attachment).1 now failed).2 with
          | none => simp
          | some attachment => cases accepted <;> simp [eq_comm]
  | sendResponse data requestHeader rosResponse =>
      simp only [Send.run, rmwSendResponse_valid, sendResponse, serialize_framed, MessageQueue.pickup,
        Send.passes, Send.stamped, Send.output]
      cases allocated with
      | false => simp
      | true =>
          cases data.responseQueue.find? (compareResponceMsg requestHeader) with
          | none => simp
          | some msgData =>
              simp only [Option.map_some, Option.any_some, if_true]
              cases (attachmentGen z msgData.attachment now failed).2 with
              | none => simp
              | some attachment => cases accepted <;> simp [eq_comm]

theorem honest_iff (z : ZeSerializer S B D) (name : String) (env : SendEnvironment)
    (call : Send R Req Res ω) :
    call.Honest z name env ↔
      (call.passes z env = true → call.output.ret = true ∧ call.output.bytes.length = call.output.size) := by
  simp only [Send.Honest, run_ok_iff, ← carried_framed_iff]
  constructor
  · intro h hpasses
    obtain ⟨p, hp, hcarried⟩ := h _ ⟨hpasses, rfl⟩
    rwa [Option.some.inj hp]
  · rintro h payload ⟨hpasses, rfl⟩
    exact ⟨_, rfl, h hpasses⟩

def failingCallbacks : MessageTypeSupportCallbacks Unit where
  getSerializedSize _ := 1
  cdrSerialize _ _ := (false, [])
  cdrDeserialize _ _ := (false, ())

def failingPublisher : PubData Unit := ⟨failingCallbacks, ⟨0, 0, zSliceCopyFromBuf fun _ => 0⟩⟩

theorem failed_serialization_published :
    (Send.publish failingPublisher () : Send Unit Unit Unit Unit).run valueSerializer "topic"
        ⟨true, false, 0, true⟩ = some (.ok, some [0, 1, 0, 0, 0]) ∧
      ¬ (Send.publish failingPublisher () : Send Unit Unit Unit Unit).Honest valueSerializer "topic"
        ⟨true, false, 0, true⟩ := by
  have hrun : (Send.publish failingPublisher () : Send Unit Unit Unit Unit).run valueSerializer "topic"
      ⟨true, false, 0, true⟩ = some (.ok, some [0, 1, 0, 0, 0]) := rfl
  refine ⟨hrun, ?_⟩
  intro h
  obtain ⟨p, -, hret, -⟩ := h _ hrun
  cases hret

end RmwZenohPico.SendPayload
