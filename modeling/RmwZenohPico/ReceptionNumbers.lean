import RmwZenohPico.Lib.LabelledMachine
import RmwZenohPico.Subscription

namespace RmwZenohPico.ReceptionNumbers

open Lib.LabelledMachine RmwTypes Attachment RosMessage Subscription
open Service (TakeResult)

variable {R ω S B D : Type}

inductive RmwFeature
  | messageInfoPublicationSequenceNumber
  | messageInfoReceptionSequenceNumber
  | other

def rmwFeatureSupported : RmwFeature → Bool
  | .messageInfoPublicationSequenceNumber => false
  | .messageInfoReceptionSequenceNumber => false
  | .other => false

structure History (R ω : Type) where
  data : SubData R ω
  reported : List Int

inductive Label (R B : Type)
  | arrive (sample : ZenohSample B) (recvTs : Int) (alloc : ReceiveAllocations)
  | take (rosMessage : Option R) (taken : Option Bool)
  | takeWithInfo (rosMessage : Option R) (taken : Option Bool) (messageInfo : Option RmwMessageInfo)

def reportOf (r : TakeResult (SubData R ω) R RmwMessageInfo) : List Int :=
  if r.ret = .ok then r.info.toList.map RmwMessageInfo.receptionSequenceNumber else []

def History.taken (s : History R ω) (r : Except RmwRet (TakeResult (SubData R ω) R RmwMessageInfo)) :
    History R ω :=
  match r with
  | .ok r => ⟨r.data, s.reported ++ reportOf r⟩
  | .error _ => s

def step (z : ZeSerializer S B D) (name : String) : Machine (History R ω) (Label R B)
  | s, .arrive sample recvTs alloc =>
      some { s with data := subscriptionDataHandler z s.data sample recvTs alloc }
  | s, .take rosMessage taken => some (s.taken (rmwTake (some (.ofData name s.data)) rosMessage taken))
  | s, .takeWithInfo rosMessage taken messageInfo =>
      some (s.taken (rmwTakeWithInfo (some (.ofData name s.data)) rosMessage taken messageInfo))

def initial (callbacks : MessageTypeSupportCallbacks R) : History R ω := ⟨⟨callbacks, []⟩, []⟩

/-- The reported numbers tell the messages of a subscription apart. -/
def Numbered (s : History R ω) : Prop := s.reported.Pairwise (· < ·)

structure Unnumbered (s : History R ω) : Prop where
  queued : ∀ m ∈ s.data.messageQueue, m.sequenceNum = 0
  reported : ∀ n ∈ s.reported, n = 0

theorem recvSample_sequenceNum {z : ZeSerializer S B D} {sample : ZenohSample B} {recvTs : Int}
    {alloc : ReceiveAllocations} {m : ReceiveMessageData ω}
    (h : rmwZenohPicoGenerateRecvSampleMsgData z sample recvTs alloc = some m) : m.sequenceNum = 0 := by
  unfold rmwZenohPicoGenerateRecvSampleMsgData at h
  split at h
  · obtain ⟨attachment, -, rfl⟩ := Option.map_eq_some_iff.mp h
    rfl
  · cases h

theorem handler_unnumbered {z : ZeSerializer S B D} {s : History R ω} (h : Unnumbered s)
    (sample : ZenohSample B) (recvTs : Int) (alloc : ReceiveAllocations) :
    Unnumbered { s with data := subscriptionDataHandler z s.data sample recvTs alloc } := by
  refine ⟨?_, h.reported⟩
  intro m hm
  simp only [subscriptionDataHandler] at hm
  split at hm
  · rename_i recvData hrecv
    rcases List.mem_append.mp hm with hm | hm
    · exact h.queued m hm
    · obtain rfl := List.mem_singleton.mp hm
      exact recvSample_sequenceNum hrecv
  · exact h.queued m hm

theorem takeOne_report {data : SubData R ω} {m : ReceiveMessageData ω} {ms : List (ReceiveMessageData ω)}
    (hq : data.messageQueue = m :: ms) (rosMessage : R) (messageInfo : Option RmwMessageInfo) (taken : Bool) :
    (rmwZenohPicoTakeOne data rosMessage messageInfo taken).data.messageQueue = ms ∧
      ∀ n ∈ reportOf (rmwZenohPicoTakeOne data rosMessage messageInfo taken), n = m.sequenceNum := by
  simp only [rmwZenohPicoTakeOne, MessageQueue.pop, hq, List.head?_cons, List.tail_cons, reportOf,
    rmwZenohPicoDeserializeTopicMsg]
  by_cases hd : (rmwZenohPicoDeserialize m.payloadStart m.payloadSize data.callbacks rosMessage).1 = true
  · cases messageInfo <;> simp [hd]
  · simp [hd]

theorem takeOne_unnumbered {s : History R ω} (h : Unnumbered s) (rosMessage : R)
    (messageInfo : Option RmwMessageInfo) :
    Unnumbered (s.taken (.ok (rmwZenohPicoTakeOne s.data rosMessage messageInfo false))) := by
  cases hq : s.data.messageQueue with
  | nil =>
      rw [takeOne_empty hq]
      refine ⟨h.queued, ?_⟩
      simpa [History.taken, reportOf] using h.reported
  | cons m ms =>
      obtain ⟨hqueue, hreport⟩ := takeOne_report hq rosMessage messageInfo false
      have hall : ∀ m' ∈ m :: ms, m'.sequenceNum = 0 := hq ▸ h.queued
      refine ⟨?_, ?_⟩
      · intro m' hm'
        change m' ∈ (rmwZenohPicoTakeOne s.data rosMessage messageInfo false).data.messageQueue at hm'
        rw [hqueue] at hm'
        exact hall m' (List.mem_cons_of_mem _ hm')
      · intro n hn
        rcases List.mem_append.mp hn with hn | hn
        · exact h.reported n hn
        · rw [hreport n hn, hall m List.mem_cons_self]
          rfl

theorem taken_unnumbered {s : History R ω} (h : Unnumbered s) {arguments : Except RmwRet (SubData R ω × R)}
    (hdata : ∀ a, arguments = .ok a → a.1 = s.data) (messageInfo : Option RmwMessageInfo) :
    Unnumbered (s.taken (arguments.map fun a => rmwZenohPicoTakeOne a.1 a.2 messageInfo false)) := by
  cases arguments with
  | error e => exact h
  | ok a =>
      change Unnumbered (s.taken (.ok (rmwZenohPicoTakeOne a.1 a.2 messageInfo false)))
      rw [hdata a rfl]
      exact takeOne_unnumbered h a.2 messageInfo

theorem takeArguments_data {name : String} {data : SubData R ω} {rosMessage : Option R} {outputs : Bool}
    {a : SubData R ω × R} (h : takeArguments (some (.ofData name data)) rosMessage outputs = .ok a) :
    a.1 = data := by
  simp only [takeArguments, ofData_name, ofData_data, ofData_identifier] at h
  cases rosMessage with
  | none => cases h
  | some rosMessage =>
      cases outputs with
      | false => cases h
      | true =>
          cases h
          rfl

theorem step_unnumbered {z : ZeSerializer S B D} {name : String} {s s' : History R ω} {l : Label R B}
    (h : Unnumbered s) (hs : step z name s l = some s') : Unnumbered s' := by
  cases l with
  | arrive sample recvTs alloc =>
      cases hs
      exact handler_unnumbered h sample recvTs alloc
  | take rosMessage taken =>
      cases hs
      exact taken_unnumbered h (fun _ => takeArguments_data) none
  | takeWithInfo rosMessage taken messageInfo =>
      cases hs
      exact taken_unnumbered h (fun _ => takeArguments_data) messageInfo

theorem initial_unnumbered (callbacks : MessageTypeSupportCallbacks R) :
    Unnumbered (initial callbacks : History R ω) := by
  refine ⟨?_, ?_⟩
  · intro m hm
    cases hm
  · intro n hn
    cases hn

/-- The feature is declared as not supported, and accordingly every take of
every run reports the number zero. -/
theorem reception_unnumbered (z : ZeSerializer S B D) (name : String)
    (callbacks : MessageTypeSupportCallbacks R) (ls : List (Label R B)) :
    rmwFeatureSupported .messageInfoReceptionSequenceNumber = false ∧
      Always (step z name) (fun s => ∀ n ∈ s.reported, n = 0) (initial callbacks : History R ω) ls := by
  refine ⟨rfl, ?_⟩
  have halways := always_of_every (fun s l t h _ ht => step_unnumbered h ht) (initial_unnumbered callbacks)
    (every_true (step z name) (initial callbacks : History R ω) ls)
  exact always_mono (fun s h => h.reported) halways

def numberedSample (n : Int) : ZenohSample (List (Int ⊕ Slice)) :=
  ⟨[0, 1, 0, 0, 7], [.inl n, .inl 0, .inr (zSliceCopyFromBuf fun _ => 0)]⟩

def emptyInfo : RmwMessageInfo := ⟨0, 0, 0, 0, ⟨none, fun _ => 0⟩, false⟩

def twoTakes : List (Label UInt8 (List (Int ⊕ Slice))) :=
  [.arrive (numberedSample 1) 0 ⟨true, true⟩, .arrive (numberedSample 2) 0 ⟨true, true⟩,
    .takeWithInfo (some 0) (some false) (some emptyInfo), .takeWithInfo (some 0) (some false) (some emptyInfo)]

theorem twoTakes_unnumbered :
    ¬Always (step valueSerializer "chatter") Numbered (initial byteCallbacks : History UInt8 Unit) twoTakes := by
  intro h
  have hrun : ∃ s, run (step valueSerializer "chatter") (initial byteCallbacks : History UInt8 Unit)
      twoTakes = some s ∧ s.reported = [0, 0] := ⟨_, rfl, rfl⟩
  obtain ⟨s, hs, hreported⟩ := hrun
  have hnumbered := h twoTakes s List.prefix_rfl hs
  rw [Numbered, hreported] at hnumbered
  exact absurd hnumbered (by decide)

end RmwZenohPico.ReceptionNumbers
