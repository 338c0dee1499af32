import RmwZenohPico.Client
import RmwZenohPico.MessageMemory
import RmwZenohPico.Subscription

namespace RmwZenohPico.MessageRelease

open RmwTypes Attachment RosMessage MessageList MessageMemory
open Service (TakeResult SendEnvironment Reply compareResponceMsg)

variable {A ω R Req Res M I S B D : Type}

abbrev MessageState (A ω : Type) := Memory A ω × ReceiveMessageDataList A

section Functions

variable [DecidableEq A]

/-- A take of one message, with what is made of its content. A message that
is not accepted is not deleted. -/
def takeMessage (deserialize : ReceiveMessageData ω → Bool × M × Option I) (s : MessageState A ω)
    (rosMessage : M) (info : Option I) (taken : Bool) : Option (TakeResult (MessageState A ω) M I) :=
  (s.1.pop s.2).bind fun (m, msgList, msgData) =>
    match msgData with
    | none => some ⟨.error, (m, msgList), rosMessage, info, taken⟩
    | some a =>
        let r := deserialize (m.content a)
        if r.1 then
          (zenohPicoDeleteRecvMsgData m a).map fun m => ⟨.ok, (m, msgList), r.2.1, r.2.2, true⟩
        else some ⟨.error, (m, msgList), r.2.1, r.2.2, false⟩

def rmwZenohPicoTakeOne (callbacks : MessageTypeSupportCallbacks R) (s : MessageState A ω)
    (rosMessage : R) (messageInfo : Option RmwMessageInfo) (taken : Bool) :
    Option (TakeResult (MessageState A ω) R RmwMessageInfo) :=
  takeMessage (fun msgData => rmwZenohPicoDeserializeTopicMsg msgData callbacks rosMessage messageInfo) s
    rosMessage messageInfo taken

def takeResponse (responseCallback : MessageTypeSupportCallbacks Res) (s : MessageState A ω)
    (requestHeader : Option RmwServiceInfo) (rosResponse : Res) (taken : Bool) :
    Option (TakeResult (MessageState A ω) Res RmwServiceInfo) :=
  takeMessage
    (fun msgData => rmwZenohPicoDeserializeResponseMsg msgData responseCallback rosResponse requestHeader)
    s rosResponse requestHeader taken

structure SequenceResult (Δ R : Type) where
  ret : RmwRet
  data : Δ
  slots : List (R × RmwMessageInfo)
  taken : Nat

def takeSequenceLoop {Δ : Type}
    (takeOne : Δ → R → Option RmwMessageInfo → Bool → Option (TakeResult Δ R RmwMessageInfo)) :
    RmwRet → Δ → List (R × RmwMessageInfo) → Option (SequenceResult Δ R)
  | ret, data, [] => some ⟨ret, data, [], 0⟩
  | _, data, (rosMessage, messageInfo) :: slots =>
      (takeOne data rosMessage (some messageInfo) false).bind fun r =>
        let slot := (r.rosMessage, r.info.getD messageInfo)
        if r.ret ≠ .ok ∨ r.taken = false then some ⟨r.ret, r.data, slot :: slots, 0⟩
        else (takeSequenceLoop takeOne r.ret r.data slots).map fun rest =>
          { rest with slots := slot :: rest.slots, taken := rest.taken + 1 }

def takeSequence (callbacks : MessageTypeSupportCallbacks R) (s : MessageState A ω)
    (slots : List (R × RmwMessageInfo)) : Option (SequenceResult (MessageState A ω) R) :=
  takeSequenceLoop (rmwZenohPicoTakeOne callbacks) .error s slots

structure SendResponseResult (A ω B : Type) where
  ret : RmwRet
  data : MessageState A ω
  reply : Option (Reply ω B)

def deletePicked (m : Memory A ω) (picked : Option A) : Option (Memory A ω) :=
  match picked with
  | none => some m
  | some a => zenohPicoDeleteRecvMsgData m a

/-- What attachment_gen writes back to the message. -/
def stamp (m : Memory A ω) (a : A) (attachment : AttachmentData) : Memory A ω :=
  { m with content := Function.update m.content a { m.content a with attachment := attachment } }

def sendResponse (z : ZeSerializer S B D) (fuel : Nat) (responseCallback : MessageTypeSupportCallbacks Res)
    (s : MessageState A ω) (requestHeader : RmwRequestId) (rosResponse : Res) (env : SendEnvironment) :
    Option (SendResponseResult A ω B) :=
  (s.1.pickup fuel s.2 (compareResponceMsg requestHeader ∘ s.1.content)).bind fun (m, msgList, picked) =>
    match rmwZenohPicoSerialize responseCallback rosResponse env.allocated with
    | none => (deletePicked m picked).map fun m => ⟨.error, (m, msgList), none⟩
    | some msgBytes => picked.bind fun a =>
        let gen := attachmentGen z (m.content a).attachment env.now env.attachmentFailed
        let m := stamp m a gen.1
        match gen.2 with
        | none => some ⟨.error, (m, msgList), none⟩
        | some attachment =>
            let reply := ⟨(m.content a).query, msgBytes, attachment⟩
            (zenohPicoDeleteRecvMsgData m a).map fun m =>
              ⟨if env.accepted then .ok else .error, (m, msgList), some reply⟩

end Functions

/-- A call behind its argument checks, with the objects of the caller and
what the environment decides. -/
inductive Call (R Res : Type)
  | take (callbacks : MessageTypeSupportCallbacks R) (rosMessage : R)
  | takeWithInfo (callbacks : MessageTypeSupportCallbacks R) (rosMessage : R) (messageInfo : RmwMessageInfo)
  | takeSequence (callbacks : MessageTypeSupportCallbacks R) (slots : List (R × RmwMessageInfo))
  | takeResponse (responseCallback : MessageTypeSupportCallbacks Res)
      (requestHeader : Option RmwServiceInfo) (rosResponse : Res)
  | sendResponse (responseCallback : MessageTypeSupportCallbacks Res) (requestHeader : RmwRequestId)
      (rosResponse : Res) (env : SendEnvironment)

/-- The messages that a call removes can all be deserialized, and a reply
that is built gets its attachment. -/
def Call.Accepted (z : ZeSerializer S B D) (m : Memory A ω) (xs : List A) : Call R Res → Prop
  | .take callbacks rosMessage => ∀ a ∈ xs.head?, Deserializes (m.content a) callbacks rosMessage
  | .takeWithInfo callbacks rosMessage _ =>
      ∀ a ∈ xs.head?, Deserializes (m.content a) callbacks rosMessage
  | .takeSequence callbacks slots =>
      ∀ p ∈ xs.zip slots, Deserializes (m.content p.1) callbacks p.2.1
  | .takeResponse responseCallback _ rosResponse =>
      ∀ a ∈ xs.head?, Deserializes (m.content a) responseCallback rosResponse
  | .sendResponse responseCallback requestHeader rosResponse env =>
      ∀ a ∈ xs.find? (compareResponceMsg requestHeader ∘ m.content),
        rmwZenohPicoSerialize responseCallback rosResponse env.allocated = none ∨
          (attachmentGen z (m.content a).attachment env.now env.attachmentFailed).2.isSome

def Call.Unknown (m : Memory A ω) (xs : List A) : Call R Res → Prop
  | .sendResponse _ requestHeader _ _ => xs.find? (compareResponceMsg requestHeader ∘ m.content) = none
  | _ => False

variable [DecidableEq A]

def Call.run (z : ZeSerializer S B D) (fuel : Nat) (s : MessageState A ω) :
    Call R Res → Option (RmwRet × MessageState A ω)
  | .take callbacks rosMessage =>
      (rmwZenohPicoTakeOne callbacks s rosMessage none false).map fun r => (r.ret, r.data)
  | .takeWithInfo callbacks rosMessage messageInfo =>
      (rmwZenohPicoTakeOne callbacks s rosMessage (some messageInfo) false).map fun r => (r.ret, r.data)
  | .takeSequence callbacks slots =>
      (MessageRelease.takeSequence callbacks s slots).map fun r => (r.ret, r.data)
  | .takeResponse responseCallback requestHeader rosResponse =>
      (MessageRelease.takeResponse responseCallback s requestHeader rosResponse false).map fun r =>
        (r.ret, r.data)
  | .sendResponse responseCallback requestHeader rosResponse env =>
      (MessageRelease.sendResponse z fuel responseCallback s requestHeader rosResponse env).map fun r =>
        (r.ret, r.data)

def RemovedReleased (m : Memory A ω) (xs : List A) (s : MessageState A ω) : Prop :=
  ∃ ys, Queued s.1 s.2 ys ∧ ReleasedOnce m s.1 (xs.filter fun a => a ∉ ys)

def ReleasesRemoved (z : ZeSerializer S B D) (s : MessageState A ω) (xs : List A) (call : Call R Res) :
    Prop :=
  ∀ fuel, xs.length ≤ fuel → ∀ r, call.run z fuel s = some r → RemovedReleased s.1 xs r.2

structure Leaves (m : Memory A ω) (xs zs ws : List A) (s : MessageState A ω) : Prop where
  rest : ∃ ys, Queued s.1 s.2 ys ∧ xs.Perm (zs ++ ys)
  released : s.1.released = m.released ++ ws.flatMap m.parts
  sublist : ws.Sublist zs

theorem Leaves.removedReleased_iff {m : Memory A ω} {xs zs ws : List A} {s : MessageState A ω}
    (h : Leaves m xs zs ws s) (hn : xs.Nodup) : RemovedReleased m xs s ↔ ws = zs := by
  obtain ⟨ys, hqueued, hperm⟩ := h.rest
  obtain ⟨hz, -, hdisjoint⟩ := List.nodup_append'.mp (hperm.nodup_iff.mp hn)
  have hremoved : (xs.filter fun a => a ∉ ys).Perm zs := by
    have hself : zs.filter (fun a => a ∉ ys) = zs :=
      List.filter_eq_self.mpr fun a ha => by simpa using fun hy => hdisjoint ha hy
    have hnone : ys.filter (fun a => a ∉ ys) = [] :=
      List.filter_eq_nil_iff.mpr fun a ha => by simpa using ha
    have hfilter := hperm.filter fun a => decide (a ∉ ys)
    rwa [List.filter_append, hself, hnone, List.append_nil] at hfilter
  rw [← releasedOnce_iff hz h.sublist h.released, ← releasedOnce_perm hremoved]
  constructor
  · rintro ⟨ys', hqueued', honce⟩
    rwa [queued_unique hqueued hqueued']
  · intro honce
    exact ⟨ys, hqueued, honce⟩

omit [DecidableEq A] in
theorem Leaves.nothing {m : Memory A ω} {msgList : ReceiveMessageDataList A} {xs : List A}
    (h : Queued m msgList xs) : Leaves m xs [] [] (m, msgList) :=
  ⟨⟨xs, h, List.Perm.refl xs⟩, by simp, List.nil_sublist _⟩

theorem takeMessage_empty {m : Memory A ω} {msgList : ReceiveMessageDataList A}
    (h : Queued m msgList []) (deserialize : ReceiveMessageData ω → Bool × M × Option I) (rosMessage : M)
    (info : Option I) (taken : Bool) :
    takeMessage deserialize (m, msgList) rosMessage info taken =
      some ⟨.error, (m, msgList), rosMessage, info, taken⟩ := by
  simp only [takeMessage, pop_empty h, Option.bind_some]

theorem takeMessage_cons {m : Memory A ω} {msgList : ReceiveMessageDataList A} {a : A} {xs : List A}
    (h : Queued m msgList (a :: xs)) (deserialize : ReceiveMessageData ω → Bool × M × Option I)
    (rosMessage : M) (info : Option I) (taken : Bool) :
    ∃ m' msgList', takeMessage deserialize (m, msgList) rosMessage info taken =
        some ⟨if (deserialize (m.content a)).1 then .ok else .error, (m', msgList'),
          (deserialize (m.content a)).2.1, (deserialize (m.content a)).2.2, (deserialize (m.content a)).1⟩ ∧
      Queued m' msgList' xs ∧ m'.content = m.content ∧
      m'.released = m.released ++ if (deserialize (m.content a)).1 then m.parts a else [] := by
  obtain ⟨links, msgList', hpop, hqueued, -⟩ := pop_cons h
  have ha : a ∉ xs := (List.nodup_cons.mp h.represents.nodup).1
  cases hd : (deserialize (m.content a)).1 with
  | false =>
      refine ⟨{ m with links := links }, msgList', ?_, hqueued, rfl, by simp⟩
      simp [takeMessage, hpop, hd]
  | true =>
      obtain ⟨object, hdelete, hrest, -⟩ := delete_queued hqueued ha (h.referenced a List.mem_cons_self)
      refine ⟨_, msgList', ?_, hrest, rfl, rfl⟩
      simp only [takeMessage, hpop, Option.bind_some, hd, if_true, hdelete, Option.map_some]

theorem takeOne_refines {m : Memory A ω} {msgList : ReceiveMessageDataList A} {xs : List A}
    (h : Queued m msgList xs) {data : Subscription.SubData R ω}
    (hdata : data.messageQueue = xs.map m.content) (rosMessage : R) (messageInfo : Option RmwMessageInfo)
    (taken : Bool) :
    ∃ s ys, rmwZenohPicoTakeOne data.callbacks (m, msgList) rosMessage messageInfo taken =
        (let r := Subscription.rmwZenohPicoTakeOne data rosMessage messageInfo taken
        some ⟨r.ret, s, r.rosMessage, r.info, r.taken⟩) ∧
      Queued s.1 s.2 ys ∧
      (Subscription.rmwZenohPicoTakeOne data rosMessage messageInfo taken).data.messageQueue =
        ys.map s.1.content := by
  cases xs with
  | nil =>
      rw [Subscription.takeOne_empty hdata]
      exact ⟨(m, msgList), [], takeMessage_empty h _ rosMessage messageInfo taken, h, hdata⟩
  | cons a xs =>
      obtain ⟨m', msgList', htake, hqueued, hcontent, -⟩ := takeMessage_cons h
        (fun msgData => rmwZenohPicoDeserializeTopicMsg msgData data.callbacks rosMessage messageInfo)
        rosMessage messageInfo taken
      refine ⟨(m', msgList'), xs, ?_, hqueued, ?_⟩
      · simp [rmwZenohPicoTakeOne, htake, Subscription.rmwZenohPicoTakeOne, MessageQueue.pop, hdata]
      · simp [Subscription.rmwZenohPicoTakeOne, MessageQueue.pop, hdata, hcontent]

theorem takeResponse_refines {m : Memory A ω} {msgList : ReceiveMessageDataList A} {xs : List A}
    (h : Queued m msgList xs) {data : Service.ServiceData Req Res ω}
    (hdata : data.responseQueue = xs.map m.content) (requestHeader : Option RmwServiceInfo)
    (rosResponse : Res) (taken : Bool) :
    ∃ s ys, takeResponse data.responseCallback (m, msgList) requestHeader rosResponse taken =
        (let r := Client.takeResponse data requestHeader rosResponse taken
        some ⟨r.ret, s, r.rosMessage, r.info, r.taken⟩) ∧
      Queued s.1 s.2 ys ∧
      (Client.takeResponse data requestHeader rosResponse taken).data.responseQueue =
        ys.map s.1.content := by
  cases xs with
  | nil =>
      rw [Client.takeResponse_empty hdata]
      exact ⟨(m, msgList), [], takeMessage_empty h _ rosResponse requestHeader taken, h, hdata⟩
  | cons a xs =>
      obtain ⟨m', msgList', htake, hqueued, hcontent, -⟩ := takeMessage_cons h
        (fun msgData =>
          rmwZenohPicoDeserializeResponseMsg msgData data.responseCallback rosResponse requestHeader)
        rosResponse requestHeader taken
      refine ⟨(m', msgList'), xs, ?_, hqueued, ?_⟩
      · simp [takeResponse, htake, Client.takeResponse, MessageQueue.pop, hdata]
      · simp [Client.takeResponse, MessageQueue.pop, hdata, hcontent]

theorem takeMessage_leaves {m : Memory A ω} {msgList : ReceiveMessageDataList A} {xs : List A}
    (h : Queued m msgList xs) (deserialize : ReceiveMessageData ω → Bool × M × Option I) (rosMessage : M)
    (info : Option I) (taken : Bool) :
    ∃ r, takeMessage deserialize (m, msgList) rosMessage info taken = some r ∧
      ∃ zs ws, Leaves m xs zs ws r.data ∧
        (ws = zs ↔ ∀ a ∈ xs.head?, (deserialize (m.content a)).1 = true) := by
  cases xs with
  | nil =>
      exact ⟨_, takeMessage_empty h deserialize rosMessage info taken, [], [], Leaves.nothing h, by simp⟩
  | cons a xs =>
      obtain ⟨m', msgList', htake, hqueued, -, hreleased⟩ :=
        takeMessage_cons h deserialize rosMessage info taken
      refine ⟨_, htake, [a], if (deserialize (m.content a)).1 then [a] else [], ⟨?_, ?_, ?_⟩, ?_⟩
      · exact ⟨xs, hqueued, List.Perm.refl _⟩
      · rw [hreleased]
        split <;> simp
      · split <;> simp
      · split <;> rename_i hd <;> simp [hd]

theorem takeOne_cons {m : Memory A ω} {msgList : ReceiveMessageDataList A} {a : A} {xs : List A}
    (h : Queued m msgList (a :: xs)) (callbacks : MessageTypeSupportCallbacks R) (rosMessage : R)
    (messageInfo : Option RmwMessageInfo) (taken : Bool) :
    ∃ m' msgList' rosMessage' messageInfo', rmwZenohPicoTakeOne callbacks (m, msgList) rosMessage
        messageInfo taken = some (if Deserializes (m.content a) callbacks rosMessage
          then ⟨.ok, (m', msgList'), rosMessage', messageInfo', true⟩
          else ⟨.error, (m', msgList'), rosMessage', messageInfo', false⟩) ∧
      Queued m' msgList' xs ∧ m'.content = m.content ∧
      m'.released = m.released ++ if Deserializes (m.content a) callbacks rosMessage then m.parts a else [] := by
  obtain ⟨m', msgList', htake, hqueued, hcontent, hreleased⟩ := takeMessage_cons h
    (fun msgData => rmwZenohPicoDeserializeTopicMsg msgData callbacks rosMessage messageInfo) rosMessage
    messageInfo taken
  simp only [deserializeTopicMsg_iff] at htake hreleased
  generalize hr : rmwZenohPicoDeserializeTopicMsg (m.content a) callbacks rosMessage messageInfo = r at htake
  refine ⟨m', msgList', r.2.1, r.2.2, ?_, hqueued, hcontent, hreleased⟩
  rw [rmwZenohPicoTakeOne, htake]
  split
  · rename_i hd
    rw [← hr, deserializeTopicMsg_iff.mpr hd]
  · rename_i hd
    rw [← hr, Bool.eq_false_of_not_eq_true (mt deserializeTopicMsg_iff.mp hd)]

/-- The loop goes on as long as the messages are accepted, and so loses one
at most. -/
theorem takeSequenceLoop_leaves (callbacks : MessageTypeSupportCallbacks R)
    (slots : List (R × RmwMessageInfo)) {m : Memory A ω} {msgList : ReceiveMessageDataList A} {xs : List A}
    (h : Queued m msgList xs) (ret : RmwRet) :
    ∃ r, takeSequenceLoop (rmwZenohPicoTakeOne callbacks) ret (m, msgList) slots = some r ∧
      ∃ zs ws, Leaves m xs zs ws r.data ∧
        (ws = zs ↔ ∀ p ∈ xs.zip slots, Deserializes (m.content p.1) callbacks p.2.1) := by
  induction slots generalizing m msgList xs ret with
  | nil => exact ⟨⟨ret, (m, msgList), [], 0⟩, rfl, [], [], Leaves.nothing h, by simp⟩
  | cons slot slots ih =>
      obtain ⟨rosMessage, messageInfo⟩ := slot
      cases xs with
      | nil =>
          refine ⟨⟨.error, (m, msgList), (rosMessage, messageInfo) :: slots, 0⟩, ?_, [], [],
            Leaves.nothing h, by simp⟩
          simp only [takeSequenceLoop, rmwZenohPicoTakeOne, takeMessage_empty h]
          rfl
      | cons a xs =>
          obtain ⟨m', msgList', rosMessage', messageInfo', htake, hqueued, hcontent, hreleased⟩ :=
            takeOne_cons h callbacks rosMessage (some messageInfo) false
          by_cases hd : Deserializes (m.content a) callbacks rosMessage
          · rw [if_pos hd] at htake hreleased
            obtain ⟨r, hloop, zs, ws, hleaves, hiff⟩ := ih hqueued .ok
            obtain ⟨ys, hys, hperm⟩ := hleaves.rest
            refine ⟨⟨r.ret, r.data, (rosMessage', messageInfo'.getD messageInfo) :: r.slots, r.taken + 1⟩, ?_,
              a :: zs, a :: ws, ⟨⟨ys, hys, hperm.cons a⟩, ?_, hleaves.sublist.cons_cons a⟩, ?_⟩
            · simp [takeSequenceLoop, htake, hloop]
            · rw [hleaves.released, hreleased, parts_congr hcontent, List.flatMap_cons, List.append_assoc]
            · simp [hiff, hcontent, hd]
          · rw [if_neg hd] at htake hreleased
            refine ⟨⟨.error, (m', msgList'), (rosMessage', messageInfo'.getD messageInfo) :: slots, 0⟩, ?_,
              [a], [], ⟨⟨xs, hqueued, List.Perm.refl _⟩, by simpa using hreleased, List.nil_sublist _⟩, ?_⟩
            · simp [takeSequenceLoop, htake]
            · simp [hd]

theorem stamp_parts (m : Memory A ω) (a : A) (attachment : AttachmentData) :
    (stamp m a attachment).parts = m.parts := by
  funext b
  by_cases hb : b = a
  · subst hb
    simp [Memory.parts, Memory.members, stamp]
  · simp [Memory.parts, Memory.members, stamp, hb]

theorem stamp_query (m : Memory A ω) (a : A) (attachment : AttachmentData) :
    ((stamp m a attachment).content a).query = (m.content a).query := by
  simp [stamp]

theorem stamp_queued {m : Memory A ω} {msgList : ReceiveMessageDataList A} {xs : List A}
    (h : Queued m msgList xs) (a : A) (attachment : AttachmentData) :
    Queued (stamp m a attachment) msgList xs :=
  h.frame (fun _ _ => rfl) fun _ _ => rfl

theorem sendResponse_unknown {z : ZeSerializer S B D} {m : Memory A ω} {msgList : ReceiveMessageDataList A}
    {xs : List A} (h : Queued m msgList xs) {fuel : Nat} (hf : xs.length ≤ fuel)
    {responseCallback : MessageTypeSupportCallbacks Res} {requestHeader : RmwRequestId} {rosResponse : Res}
    {env : SendEnvironment} (hfind : xs.find? (compareResponceMsg requestHeader ∘ m.content) = none)
    {r : SendResponseResult A ω B}
    (hr : sendResponse z fuel responseCallback (m, msgList) requestHeader rosResponse env = some r) :
    Leaves m xs [] [] r.data := by
  obtain ⟨links, msgList', hpickup, hqueued⟩ :=
    pickup_queued (compareResponceMsg requestHeader ∘ m.content) h hf
  have hnone := MessageQueue.pickup_none fun a ha =>
    Bool.eq_false_of_not_eq_true (List.find?_eq_none.mp hfind a ha)
  rw [hnone] at hpickup hqueued
  simp only [sendResponse, hpickup, Option.bind_some, Option.bind_none] at hr
  split at hr
  · cases hr
    exact ⟨⟨xs, hqueued, List.Perm.refl xs⟩, by simp, List.nil_sublist _⟩
  · cases hr

theorem sendResponse_found {z : ZeSerializer S B D} {m : Memory A ω} {msgList : ReceiveMessageDataList A}
    {xs : List A} (h : Queued m msgList xs) {fuel : Nat} (hf : xs.length ≤ fuel)
    (responseCallback : MessageTypeSupportCallbacks Res) (requestHeader : RmwRequestId) (rosResponse : Res)
    (env : SendEnvironment) {a : A}
    (hfind : xs.find? (compareResponceMsg requestHeader ∘ m.content) = some a) :
    ∃ r ws, sendResponse z fuel responseCallback (m, msgList) requestHeader rosResponse env = some r ∧
      Leaves m xs [a] ws r.data ∧
      (ws = [a] ↔ rmwZenohPicoSerialize responseCallback rosResponse env.allocated = none ∨
        (attachmentGen z (m.content a).attachment env.now env.attachmentFailed).2.isSome) := by
  obtain ⟨ha, us, vs, rfl, hus⟩ := List.find?_eq_some_iff_append.mp hfind
  obtain ⟨links, msgList', hpickup, hqueued⟩ :=
    pickup_queued (compareResponceMsg requestHeader ∘ m.content) h hf
  rw [MessageQueue.pickup_append_cons (fun b hb => by simpa using hus b hb) ha] at hpickup hqueued
  have hlive := h.referenced a (List.mem_append_right us List.mem_cons_self)
  have hmem : a ∉ us ++ vs := (List.nodup_cons.mp (List.nodup_middle.mp h.represents.nodup)).1
  cases hserialize : rmwZenohPicoSerialize responseCallback rosResponse env.allocated with
  | none =>
      obtain ⟨object, hdelete, hrest, -⟩ := delete_queued hqueued hmem hlive
      refine ⟨⟨.error, (_, msgList'), none⟩, [a], ?_, ⟨⟨us ++ vs, hrest, List.perm_middle⟩, ?_, ?_⟩, ?_⟩
      · simp only [sendResponse, hpickup, Option.bind_some, hserialize, deletePicked, hdelete,
          Option.map_some]
      · rw [List.flatMap_singleton]
        rfl
      · exact List.Sublist.refl [a]
      · simp
  | some msgBytes =>
      generalize hgen : attachmentGen z (m.content a).attachment env.now env.attachmentFailed = gen
      have hstamped := stamp_queued hqueued a gen.1
      cases hattachment : gen.2 with
      | none =>
          refine ⟨⟨.error, (_, msgList'), none⟩, [], ?_, ⟨⟨us ++ vs, hstamped, List.perm_middle⟩, ?_, ?_⟩, ?_⟩
          · simp only [sendResponse, hpickup, Option.bind_some, hserialize, hgen, hattachment]
            rfl
          · simp
          · exact List.nil_sublist [a]
          · simp
      | some attachment =>
          obtain ⟨object, hdelete, hrest, -⟩ := delete_queued hstamped hmem hlive
          refine ⟨⟨if env.accepted then .ok else .error, (_, msgList'),
            some ⟨(m.content a).query, msgBytes, attachment⟩⟩, [a], ?_,
            ⟨⟨us ++ vs, hrest, List.perm_middle⟩, ?_, ?_⟩, ?_⟩
          · simp only [sendResponse, hpickup, Option.bind_some, hserialize, hgen, hattachment, hdelete,
              Option.map_some]
            simp [stamp]
          · rw [List.flatMap_singleton, stamp_parts]
            rfl
          · exact List.Sublist.refl [a]
          · simp

theorem sendResponse_refines {z : ZeSerializer S B D} {m : Memory A ω} {msgList : ReceiveMessageDataList A}
    {xs : List A} (h : Queued m msgList xs) {fuel : Nat} (hf : xs.length ≤ fuel)
    {data : Service.ServiceData Req Res ω} (hdata : data.responseQueue = xs.map m.content)
    (requestHeader : RmwRequestId) (rosResponse : Res) (env : SendEnvironment) :
    (sendResponse z fuel data.responseCallback (m, msgList) requestHeader rosResponse env).map
        (fun r => (r.ret, r.reply)) =
      (Service.sendResponse z data requestHeader rosResponse env).map fun r => (r.ret, r.reply) := by
  obtain ⟨links, msgList', hpickup, hqueued⟩ :=
    pickup_queued (compareResponceMsg requestHeader ∘ m.content) h hf
  have hdelete : ∀ m' : Memory A ω, m'.object = m.object → ∀ a,
      (MessageQueue.pickup xs (compareResponceMsg requestHeader ∘ m.content)).1 = some a →
      ∃ m'', zenohPicoDeleteRecvMsgData m' a = some m'' := by
    intro m' hobject a ha
    refine ⟨_, delete_eq ?_⟩
    rw [hobject]
    exact h.referenced a (MessageQueue.mem_of_pickup ha)
  simp only [sendResponse, hpickup, Option.bind_some, Service.sendResponse, hdata, MessageQueue.pickup_map]
  cases hserialize : rmwZenohPicoSerialize data.responseCallback rosResponse env.allocated with
  | none =>
      cases hpicked : (MessageQueue.pickup xs (compareResponceMsg requestHeader ∘ m.content)).1 with
      | none => simp [deletePicked]
      | some a =>
          obtain ⟨m'', hdel⟩ := hdelete { m with links := links } rfl a hpicked
          simp [deletePicked, hdel]
  | some msgBytes =>
      cases hpicked : (MessageQueue.pickup xs (compareResponceMsg requestHeader ∘ m.content)).1 with
      | none => simp
      | some a =>
          generalize hgen : attachmentGen z (m.content a).attachment env.now env.attachmentFailed = gen
          cases hattachment : gen.2 with
          | none => simp [hgen, hattachment]
          | some attachment =>
              obtain ⟨m'', hdel⟩ := hdelete (stamp { m with links := links } a gen.1) rfl a hpicked
              simp only [Option.bind_some, Option.map_some, hgen, hattachment, hdel, stamp_query]

omit [DecidableEq A] in
theorem unknown_accepted (z : ZeSerializer S B D) {m : Memory A ω} {xs : List A} {call : Call R Res}
    (h : call.Unknown m xs) : call.Accepted z m xs := by
  cases call with
  | take | takeWithInfo | takeSequence | takeResponse => exact h.elim
  | sendResponse responseCallback requestHeader rosResponse env =>
      intro a ha
      have hnone : xs.find? (compareResponceMsg requestHeader ∘ m.content) = none := h
      rw [hnone] at ha
      cases ha

theorem run_leaves (z : ZeSerializer S B D) {m : Memory A ω} {msgList : ReceiveMessageDataList A}
    {xs : List A} (h : Queued m msgList xs) {fuel : Nat} (hf : xs.length ≤ fuel) (call : Call R Res)
    {r : RmwRet × MessageState A ω} (hr : call.run z fuel (m, msgList) = some r) :
    ∃ zs ws, Leaves m xs zs ws r.2 ∧ (ws = zs ↔ call.Accepted z m xs) := by
  cases call with
  | take callbacks rosMessage =>
      obtain ⟨r', hrun, zs, ws, hleaves, hiff⟩ := takeMessage_leaves h
        (fun msgData => rmwZenohPicoDeserializeTopicMsg msgData callbacks rosMessage none) rosMessage none false
      rw [Call.run, rmwZenohPicoTakeOne, hrun] at hr
      cases hr
      simp only [deserializeTopicMsg_iff] at hiff
      exact ⟨zs, ws, hleaves, hiff⟩
  | takeWithInfo callbacks rosMessage messageInfo =>
      obtain ⟨r', hrun, zs, ws, hleaves, hiff⟩ := takeMessage_leaves h
        (fun msgData => rmwZenohPicoDeserializeTopicMsg msgData callbacks rosMessage (some messageInfo))
        rosMessage (some messageInfo) false
      rw [Call.run, rmwZenohPicoTakeOne, hrun] at hr
      cases hr
      simp only [deserializeTopicMsg_iff] at hiff
      exact ⟨zs, ws, hleaves, hiff⟩
  | takeSequence callbacks slots =>
      obtain ⟨r', hrun, hleaves⟩ := takeSequenceLoop_leaves callbacks slots h .error
      rw [Call.run, takeSequence, hrun] at hr
      cases hr
      exact hleaves
  | takeResponse responseCallback requestHeader rosResponse =>
      obtain ⟨r', hrun, zs, ws, hleaves, hiff⟩ := takeMessage_leaves h
        (fun msgData => rmwZenohPicoDeserializeResponseMsg msgData responseCallback rosResponse requestHeader)
        rosResponse requestHeader false
      rw [Call.run, takeResponse, hrun] at hr
      cases hr
      simp only [rmwZenohPicoDeserializeResponseMsg, deserializeServiceMsg_iff] at hiff
      exact ⟨zs, ws, hleaves, hiff⟩
  | sendResponse responseCallback requestHeader rosResponse env =>
      simp only [Call.run, Option.map_eq_some_iff] at hr
      obtain ⟨r', hrun, rfl⟩ := hr
      cases hfind : xs.find? (compareResponceMsg requestHeader ∘ m.content) with
      | none =>
          exact ⟨[], [], sendResponse_unknown h hf hfind hrun, iff_of_true rfl (unknown_accepted z hfind)⟩
      | some a =>
          obtain ⟨r'', ws, hrun', hleaves, hiff⟩ :=
            sendResponse_found (z := z) h hf responseCallback requestHeader rosResponse env hfind
          rw [hrun] at hrun'
          cases hrun'
          refine ⟨[a], ws, hleaves, hiff.trans ⟨fun haccepted b hb => ?_, fun haccepted => haccepted a hfind⟩⟩
          rw [hfind] at hb
          cases hb
          exact haccepted

theorem run_returns (z : ZeSerializer S B D) {m : Memory A ω} {msgList : ReceiveMessageDataList A}
    {xs : List A} (h : Queued m msgList xs) {fuel : Nat} (hf : xs.length ≤ fuel) {call : Call R Res}
    (hknown : ¬call.Unknown m xs) : ∃ r, call.run z fuel (m, msgList) = some r := by
  cases call with
  | take callbacks rosMessage | takeWithInfo callbacks rosMessage _ | takeResponse _ _ rosMessage =>
      obtain ⟨r, hrun, -⟩ := takeMessage_leaves h _ rosMessage _ false
      exact ⟨(r.ret, r.data), Option.map_eq_some_iff.mpr ⟨r, hrun, rfl⟩⟩
  | takeSequence callbacks slots =>
      obtain ⟨r, hrun, -⟩ := takeSequenceLoop_leaves callbacks slots h .error
      exact ⟨(r.ret, r.data), Option.map_eq_some_iff.mpr ⟨r, hrun, rfl⟩⟩
  | sendResponse responseCallback requestHeader rosResponse env =>
      obtain ⟨a, hfind⟩ := Option.ne_none_iff_exists'.mp hknown
      obtain ⟨r, ws, hrun, -⟩ :=
        sendResponse_found (z := z) h hf responseCallback requestHeader rosResponse env hfind
      exact ⟨(r.ret, r.data), Option.map_eq_some_iff.mpr ⟨r, hrun, rfl⟩⟩

theorem accepted_of_releases {z : ZeSerializer S B D} {m : Memory A ω}
    {msgList : ReceiveMessageDataList A} {xs : List A} (h : Queued m msgList xs) {call : Call R Res}
    (hreleases : ReleasesRemoved z (m, msgList) xs call) : call.Accepted z m xs := by
  by_contra haccepted
  obtain ⟨r, hrun⟩ := run_returns z h (le_refl _) (mt (unknown_accepted z) haccepted)
  obtain ⟨zs, ws, hleaves, hiff⟩ := run_leaves z h (le_refl _) call hrun
  have hremoved := hreleases xs.length (le_refl _) r hrun
  exact haccepted (hiff.mp ((hleaves.removedReleased_iff h.represents.nodup).mp hremoved))

/-- A call that accepts what it removes releases it. One that does not leaves a
message behind which is in no queue. -/
theorem releases_removed_iff {z : ZeSerializer S B D} {m : Memory A ω}
    {msgList : ReceiveMessageDataList A} {xs : List A} (h : Queued m msgList xs) {call : Call R Res} :
    ReleasesRemoved z (m, msgList) xs call ↔ call.Accepted z m xs := by
  refine ⟨accepted_of_releases h, ?_⟩
  intro haccepted fuel hf r hrun
  obtain ⟨zs, ws, hleaves, hiff⟩ := run_leaves z h hf call hrun
  exact (hleaves.removedReleased_iff h.represents.nodup).mpr (hiff.mpr haccepted)

def received (payload : List UInt8) : Memory Nat Unit :=
  generated fun _ => ⟨some payload, payload.length, 0, 0, ⟨1, 0, zSliceCopyFromBuf fun _ => 0⟩, .sample, none⟩

theorem accepted_take_releases :
    ReleasesRemoved valueSerializer (received [0, 1, 0, 0, 7], single 0) [0]
      (.take byteCallbacks 0 : Call UInt8 UInt8) := by
  refine (releases_removed_iff (single_queued _ 0)).mpr ?_
  intro a ha
  cases ha
  decide

/-- The payload of the message ends before the octet. -/
theorem rejected_take_loses :
    ¬ReleasesRemoved valueSerializer (received [0, 1, 0, 0], single 0) [0]
      (.take byteCallbacks 0 : Call UInt8 UInt8) := by
  intro h
  have haccepted := accepted_of_releases (single_queued _ 0) h 0 rfl
  revert haccepted
  decide

end RmwZenohPico.MessageRelease
