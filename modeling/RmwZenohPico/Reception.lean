import RmwZenohPico.Lib.LabelledMachine
import RmwZenohPico.MessageMemory

namespace RmwZenohPico.Reception

open Lib.LabelledMachine Lib.RefHeap Attachment RosMessage MessageMemory

variable {ι ω S B D : Type}

inductive Queue (ι : Type)
  | message (subData : ι)
  | response (clientData : ι)
  | request (serviceData : ι)
  deriving DecidableEq

/-- Messages are numbered in the order they are generated in. An allocation is
noted with the queue of the endpoint whose callback made it. -/
structure State (ι ω : Type) where
  memory : Memory Nat ω
  next : Nat
  allocated : List (Queue ι × MessageMemory.Part Nat)
  queue : Queue ι → List Nat

/-- The copy of a key expression stays empty when there is no memory for it.
An attachment is not read when there is none for its gid. -/
structure Allocations extends ReceiveAllocations where
  keyexpr : Bool
  gid : Bool

def State.allocate (s : State ι ω) (q : Queue ι) (p : MessageMemory.Part Nat) : State ι ω :=
  { s with allocated := s.allocated ++ [(q, p)] }

def State.free (s : State ι ω) (p : MessageMemory.Part Nat) : State ι ω :=
  { s with memory := { s.memory with released := s.memory.released ++ [p] } }

def State.fill (s : State ι ω) (recvData : Nat) (msg : ReceiveMessageData ω) : State ι ω :=
  { s with memory := { s.memory with content := Function.update s.memory.content recvData msg } }

def State.zenohPicoDataGenerate (s : State ι ω) (q : Queue ι) : State ι ω :=
  { s with
    memory := { s.memory with object := generate s.memory.object s.next }
    next := s.next + 1
    allocated := s.allocated ++ [(q, .message s.next)] }

def readAttachment (z : ZeSerializer S B D) (attachment : B) (alloc : Allocations) : Option AttachmentData :=
  if alloc.gid then attachmentDataGet z attachment else none

/-- Once the object of the message is there, no failure exit frees it. -/
def generateRecvSampleMsgData (z : ZeSerializer S B D) (s : State ι ω) (q : Queue ι) (sample : ZenohSample B)
    (recvTs : Int) (alloc : Allocations) : State ι ω × Option Nat :=
  if alloc.recvData then
    let recvData := s.next
    let s := s.zenohPicoDataGenerate q
    if alloc.payload then
      let s := s.allocate q (.payload recvData)
      match readAttachment z sample.attachment alloc with
      | some attachment =>
          ((s.allocate q (.gid recvData)).fill recvData
            ⟨some sample.payload, sample.payload.length, recvTs, 0, attachment, .sample, none⟩, some recvData)
      | none => (s.free (.payload recvData), none)
    else (s, none)
  else (s, none)

def generateRecvQueryMsgData (z : ZeSerializer S B D) (s : State ι ω) (q : Queue ι) (query : ZenohQuery ω B)
    (recvTs : Int) (alloc : Allocations) : State ι ω × Option Nat :=
  if alloc.recvData then
    let recvData := s.next
    let s := s.zenohPicoDataGenerate q
    if alloc.payload then
      let s := (s.allocate q (.payload recvData)).allocate q (.query recvData)
      let s := if alloc.keyexpr then s.allocate q (.keyexpr recvData) else s
      match readAttachment z query.attachment alloc with
      | some attachment =>
          ((s.allocate q (.gid recvData)).fill recvData
            ⟨some query.payload, query.payload.length, recvTs, 0, attachment, .query, some query.handle⟩,
            some recvData)
      | none =>
          let s := s.free (.payload recvData)
          let s := if alloc.keyexpr then s.free (.keyexpr recvData) else s
          (s.free (.query recvData), none)
    else (s, none)
  else (s, none)

section Handlers

variable [DecidableEq ι]

def recvMsgListAppend (s : State ι ω) (q : Queue ι) (recvData : Nat) : State ι ω :=
  { s with queue := Function.update s.queue q (MessageQueue.append (s.queue q) recvData) }

def addNewSubscriptionMessage (s : State ι ω) (subData : ι) (recvData : Nat) : State ι ω :=
  recvMsgListAppend s (.message subData) recvData

def addNewReplayMessage (s : State ι ω) (clientData : ι) (recvData : Nat) : State ι ω :=
  recvMsgListAppend s (.response clientData) recvData

def addNewRequestMessage (s : State ι ω) (serviceData : ι) (recvData : Nat) : State ι ω :=
  recvMsgListAppend s (.request serviceData) recvData

def subscriptionDataHandler (z : ZeSerializer S B D) (s : State ι ω) (sample : ZenohSample B)
    (ctx : Option ι) (recvTs : Int) (alloc : Allocations) : State ι ω :=
  match ctx with
  | none => s
  | some subData =>
      let r := generateRecvSampleMsgData z s (.message subData) sample recvTs alloc
      match r.2 with
      | none => r.1
      | some recvData => addNewSubscriptionMessage r.1 subData recvData

def replyHandler (z : ZeSerializer S B D) (s : State ι ω) (reply : Option (ZenohSample B))
    (ctx : Option ι) (recvTs : Int) (alloc : Allocations) : State ι ω :=
  match reply with
  | none => s
  | some sample =>
      match ctx with
      | none => s
      | some clientData =>
          let r := generateRecvSampleMsgData z s (.response clientData) sample recvTs alloc
          match r.2 with
          | none => r.1
          | some recvData => addNewReplayMessage r.1 clientData recvData

/-- The error replies are left out, they keep nothing of the query. -/
def requestHandler (z : ZeSerializer S B D) (s : State ι ω) (query : ZenohQuery ω B)
    (ctx : Option ι) (recvTs : Int) (alloc : Allocations) : State ι ω :=
  match ctx with
  | none => s
  | some serviceData =>
      let r := generateRecvQueryMsgData z s (.request serviceData) query recvTs alloc
      match r.2 with
      | none => r.1
      | some recvData => addNewRequestMessage r.1 serviceData recvData

end Handlers

inductive Label (ι ω B : Type)
  | subscriptionData (sample : ZenohSample B) (ctx : Option ι) (recvTs : Int) (alloc : Allocations)
  | reply (reply : Option (ZenohSample B)) (ctx : Option ι) (recvTs : Int) (alloc : Allocations)
  | request (query : ZenohQuery ω B) (ctx : Option ι) (recvTs : Int) (alloc : Allocations)

def handle [DecidableEq ι] (z : ZeSerializer S B D) (s : State ι ω) : Label ι ω B → State ι ω
  | .subscriptionData sample ctx recvTs alloc => subscriptionDataHandler z s sample ctx recvTs alloc
  | .reply reply ctx recvTs alloc => replyHandler z s reply ctx recvTs alloc
  | .request query ctx recvTs alloc => requestHandler z s query ctx recvTs alloc

def machine [DecidableEq ι] (z : ZeSerializer S B D) : Machine (State ι ω) (Label ι ω B) :=
  fun s l => some (handle z s l)

def Owned (s : State ι ω) (q : Queue ι) (p : MessageMemory.Part Nat) : Prop :=
  ∃ recvData ∈ s.queue q, p ∈ s.memory.parts recvData

/-- What a callback allocated belongs to a message in the queue of its
endpoint, or it was released exactly once. -/
def NoLeak (s : State ι ω) : Prop :=
  ∀ q p, (q, p) ∈ s.allocated →
    (Owned s q p ∧ p ∉ s.memory.released) ∨ ((∀ q', ¬Owned s q' p) ∧ s.memory.released.count p = 1)

/-- The message is complete, or not even its object could be allocated. -/
def Unfailing (z : ZeSerializer S B D) (attachment : B) (alloc : Allocations) : Prop :=
  alloc.recvData = true → alloc.payload = true ∧ (readAttachment z attachment alloc).isSome

def UnfailingCall (z : ZeSerializer S B D) : Label ι ω B → Prop
  | .subscriptionData sample ctx _ alloc => ctx.isSome → Unfailing z sample.attachment alloc
  | .reply reply ctx _ alloc => ∀ sample, reply = some sample → ctx.isSome →
      Unfailing z sample.attachment alloc
  | .request query ctx _ alloc => ctx.isSome → Unfailing z query.attachment alloc

def owner : MessageMemory.Part Nat → Nat
  | .payload a | .gid a | .keyexpr a | .query a | .message a => a

structure Settled (s : State ι ω) : Prop where
  queued : ∀ q, ∀ a ∈ s.queue q, a < s.next
  released : ∀ p ∈ s.memory.released, owner p < s.next
  noLeak : NoLeak s

structure Assembling (s : State ι ω) (q : Queue ι) (t : State ι ω) (ps : List (MessageMemory.Part Nat)) :
    Prop where
  next : t.next = s.next + 1
  queue : t.queue = s.queue
  content : t.memory.content = s.memory.content
  released : t.memory.released = s.memory.released
  allocated : t.allocated = s.allocated ++ ps.map (Prod.mk q)

structure Finished (s : State ι ω) (q : Queue ι) (r : State ι ω × Option Nat) : Prop where
  returned : r.2 = some s.next
  next : r.1.next = s.next + 1
  queue : r.1.queue = s.queue
  released : r.1.memory.released = s.memory.released
  content : ∀ a, a ≠ s.next → r.1.memory.content a = s.memory.content a
  allocated : ∀ q' p, (q', p) ∈ r.1.allocated →
    (q', p) ∈ s.allocated ∨ (q' = q ∧ p ∈ r.1.memory.parts s.next)

structure Leaked (s : State ι ω) (q : Queue ι) (r : State ι ω × Option Nat) : Prop where
  returned : r.2 = none
  queue : r.1.queue = s.queue
  allocated : (q, .message s.next) ∈ r.1.allocated
  released : .message s.next ∈ r.1.memory.released → .message s.next ∈ s.memory.released

theorem owner_of_mem {m : Memory Nat ω} {a : Nat} {p : MessageMemory.Part Nat} (h : p ∈ m.parts a) :
    owner p = a := by
  rcases List.mem_append.mp h with h | h
  · rcases members_owner h with rfl | rfl | rfl | rfl <;> rfl
  · rw [List.mem_singleton.mp h]
    rfl

theorem parts_fill (s : State ι ω) (a : Nat) {msg : ReceiveMessageData ω} (h : msg.payloadStart.isSome) :
    (s.fill a msg).memory.parts a =
      [.payload a, .gid a] ++ (if msg.type = .query then [.keyexpr a, .query a] else []) ++
        [.message a] := by
  simp [State.fill, Memory.parts, Memory.members, h]

section Generate

variable {z : ZeSerializer S B D} {s t : State ι ω} {q : Queue ι} {ps : List (MessageMemory.Part Nat)}
  {recvTs : Int}

theorem assembling_generate (s : State ι ω) (q : Queue ι) :
    Assembling s q (s.zenohPicoDataGenerate q) [.message s.next] :=
  ⟨rfl, rfl, rfl, rfl, rfl⟩

theorem Assembling.allocate (h : Assembling s q t ps) (p : MessageMemory.Part Nat) :
    Assembling s q (t.allocate q p) (ps ++ [p]) := by
  refine ⟨h.next, h.queue, h.content, h.released, ?_⟩
  simp [State.allocate, h.allocated]

theorem Assembling.finished (h : Assembling s q t ps) {msg : ReceiveMessageData ω}
    (hps : ∀ p ∈ ps, p ∈ (t.fill s.next msg).memory.parts s.next) :
    Finished s q (t.fill s.next msg, some s.next) := by
  refine ⟨rfl, h.next, h.queue, h.released, ?_, ?_⟩
  · intro a ha
    calc (t.fill s.next msg).memory.content a = t.memory.content a := Function.update_of_ne ha ..
      _ = s.memory.content a := congrFun h.content a
  · intro q' p hp
    have hmem : (q', p) ∈ s.allocated ++ ps.map (Prod.mk q) := h.allocated ▸ hp
    rcases List.mem_append.mp hmem with hmem | hmem
    · exact Or.inl hmem
    · obtain ⟨p', hp', he⟩ := List.mem_map.mp hmem
      cases he
      exact Or.inr ⟨rfl, hps p hp'⟩

theorem Assembling.leaked (h : Assembling s q t ps) (hps : .message s.next ∈ ps) : Leaked s q (t, none) := by
  refine ⟨rfl, h.queue, ?_, ?_⟩
  · rw [h.allocated]
    exact List.mem_append_right _ (List.mem_map_of_mem hps)
  · intro hr
    rwa [h.released] at hr

theorem Leaked.free (h : Leaked s q (t, none)) {p : MessageMemory.Part Nat} (hp : .message s.next ≠ p) :
    Leaked s q (t.free p, none) := by
  refine ⟨rfl, h.queue, h.allocated, ?_⟩
  intro hr
  rcases List.mem_append.mp hr with hr | hr
  · exact h.released hr
  · exact absurd (List.mem_singleton.mp hr) hp

theorem sample_unfailing {sample : ZenohSample B} {alloc : Allocations}
    (h : Unfailing z sample.attachment alloc) :
    generateRecvSampleMsgData z s q sample recvTs alloc = (s, none) ∨
      Finished s q (generateRecvSampleMsgData z s q sample recvTs alloc) := by
  cases hobject : alloc.recvData with
  | false => exact Or.inl (by simp [generateRecvSampleMsgData, hobject])
  | true =>
      obtain ⟨hpayload, hattachment⟩ := h hobject
      obtain ⟨attachment, hget⟩ := Option.isSome_iff_exists.mp hattachment
      right
      simp only [generateRecvSampleMsgData, hobject, hpayload, hget, if_true]
      apply (((assembling_generate s q).allocate _).allocate _).finished
      simp [parts_fill]

theorem sample_failing {sample : ZenohSample B} {alloc : Allocations}
    (h : ¬Unfailing z sample.attachment alloc) :
    Leaked s q (generateRecvSampleMsgData z s q sample recvTs alloc) := by
  obtain ⟨hobject, hfail⟩ := Classical.not_imp.mp h
  cases hpayload : alloc.payload with
  | false =>
      simp only [generateRecvSampleMsgData, hobject, hpayload, Bool.false_eq_true, if_true, if_false]
      exact (assembling_generate s q).leaked (List.mem_singleton_self _)
  | true =>
      have hget : readAttachment z sample.attachment alloc = none := by simpa [hpayload] using hfail
      simp only [generateRecvSampleMsgData, hobject, hpayload, hget, if_true]
      have hleaked := ((assembling_generate s q).allocate (.payload s.next)).leaked (by simp)
      exact hleaked.free (by simp)

theorem query_unfailing {query : ZenohQuery ω B} {alloc : Allocations}
    (h : Unfailing z query.attachment alloc) :
    generateRecvQueryMsgData z s q query recvTs alloc = (s, none) ∨
      Finished s q (generateRecvQueryMsgData z s q query recvTs alloc) := by
  cases hobject : alloc.recvData with
  | false => exact Or.inl (by simp [generateRecvQueryMsgData, hobject])
  | true =>
      obtain ⟨hpayload, hattachment⟩ := h hobject
      obtain ⟨attachment, hget⟩ := Option.isSome_iff_exists.mp hattachment
      right
      have hquery := ((assembling_generate s q).allocate (.payload s.next)).allocate (.query s.next)
      cases hkeyexpr : alloc.keyexpr with
      | false =>
          simp only [generateRecvQueryMsgData, hobject, hpayload, hkeyexpr, hget, Bool.false_eq_true,
            if_true, if_false]
          apply (hquery.allocate _).finished
          simp [parts_fill]
      | true =>
          simp only [generateRecvQueryMsgData, hobject, hpayload, hkeyexpr, hget, if_true]
          apply ((hquery.allocate _).allocate _).finished
          simp [parts_fill]

theorem query_failing {query : ZenohQuery ω B} {alloc : Allocations}
    (h : ¬Unfailing z query.attachment alloc) :
    Leaked s q (generateRecvQueryMsgData z s q query recvTs alloc) := by
  obtain ⟨hobject, hfail⟩ := Classical.not_imp.mp h
  cases hpayload : alloc.payload with
  | false =>
      simp only [generateRecvQueryMsgData, hobject, hpayload, Bool.false_eq_true, if_true, if_false]
      exact (assembling_generate s q).leaked (List.mem_singleton_self _)
  | true =>
      have hget : readAttachment z query.attachment alloc = none := by simpa [hpayload] using hfail
      have hquery := ((assembling_generate s q).allocate (.payload s.next)).allocate (.query s.next)
      cases hkeyexpr : alloc.keyexpr with
      | false =>
          simp only [generateRecvQueryMsgData, hobject, hpayload, hkeyexpr, hget, Bool.false_eq_true,
            if_true, if_false]
          exact ((hquery.leaked (by simp)).free (by simp)).free (by simp)
      | true =>
          simp only [generateRecvQueryMsgData, hobject, hpayload, hkeyexpr, hget, if_true]
          have hleaked := (hquery.allocate (.keyexpr s.next)).leaked (by simp)
          exact ((hleaked.free (by simp)).free (by simp)).free (by simp)

theorem sample_content {sample : ZenohSample B} {alloc : Allocations} :
    (generateRecvSampleMsgData z s q sample recvTs alloc).2.map
        (generateRecvSampleMsgData z s q sample recvTs alloc).1.memory.content =
      if alloc.gid then rmwZenohPicoGenerateRecvSampleMsgData z sample recvTs alloc.toReceiveAllocations
      else none := by
  unfold generateRecvSampleMsgData rmwZenohPicoGenerateRecvSampleMsgData readAttachment
  cases hobject : alloc.recvData with
  | false => simp [ReceiveAllocations.succeed, hobject]
  | true =>
      cases hpayload : alloc.payload with
      | false => simp [ReceiveAllocations.succeed, hobject, hpayload]
      | true =>
          cases hgid : alloc.gid with
          | false => simp
          | true =>
              cases hget : attachmentDataGet z sample.attachment with
              | none => simp [ReceiveAllocations.succeed, hobject, hpayload]
              | some attachment => simp [ReceiveAllocations.succeed, hobject, hpayload, State.fill]

theorem query_content {query : ZenohQuery ω B} {alloc : Allocations} :
    (generateRecvQueryMsgData z s q query recvTs alloc).2.map
        (generateRecvQueryMsgData z s q query recvTs alloc).1.memory.content =
      if alloc.gid then rmwZenohPicoGenerateRecvQueryMsgData z query recvTs alloc.toReceiveAllocations
      else none := by
  unfold generateRecvQueryMsgData rmwZenohPicoGenerateRecvQueryMsgData readAttachment
  cases hobject : alloc.recvData with
  | false => simp [ReceiveAllocations.succeed, hobject]
  | true =>
      cases hpayload : alloc.payload with
      | false => simp [ReceiveAllocations.succeed, hobject, hpayload]
      | true =>
          cases hgid : alloc.gid with
          | false => simp
          | true =>
              cases hget : attachmentDataGet z query.attachment with
              | none => simp [ReceiveAllocations.succeed, hobject, hpayload]
              | some attachment => simp [ReceiveAllocations.succeed, hobject, hpayload, State.fill]

end Generate

section Receive

variable [DecidableEq ι] {z : ZeSerializer S B D} {s : State ι ω} {q : Queue ι} {r : State ι ω × Option Nat}

def receive (q : Queue ι) (r : State ι ω × Option Nat) : State ι ω :=
  match r.2 with
  | none => r.1
  | some recvData => recvMsgListAppend r.1 q recvData

theorem mem_append {t : State ι ω} {q' : Queue ι} {recvData a : Nat} :
    a ∈ (recvMsgListAppend t q recvData).queue q' ↔ a ∈ t.queue q' ∨ (q' = q ∧ a = recvData) := by
  by_cases hq : q' = q
  · subst hq
    simp [recvMsgListAppend, MessageQueue.append]
  · simp [recvMsgListAppend, hq]

theorem Finished.receive (hs : Settled s) (h : Finished s q r) : Settled (receive q r) := by
  have hreceive : Reception.receive q r = recvMsgListAppend r.1 q s.next := by
    simp only [Reception.receive, h.returned]
  have hmem : ∀ {q' a}, a ∈ (recvMsgListAppend r.1 q s.next).queue q' ↔
      a ∈ s.queue q' ∨ (q' = q ∧ a = s.next) := by
    intro q' a
    rw [mem_append, h.queue]
  have hparts : ∀ a, a ≠ s.next → r.1.memory.parts a = s.memory.parts a :=
    fun a ha => parts_congr_at (h.content a ha)
  rw [hreceive]
  constructor
  case queued =>
    intro q' a ha
    show a < r.1.next
    rw [h.next]
    rcases hmem.mp ha with ha | ⟨-, rfl⟩
    · exact Nat.lt_succ_of_lt (hs.queued q' a ha)
    · exact Nat.lt_succ_self _
  case released =>
    intro p hp
    show owner p < r.1.next
    rw [h.next]
    exact Nat.lt_succ_of_lt (hs.released p (h.released ▸ hp))
  case noLeak =>
    intro q' p hp
    show _ ∧ p ∉ r.1.memory.released ∨ _ ∧ r.1.memory.released.count p = 1
    rw [h.released]
    rcases h.allocated q' p hp with hold | ⟨rfl, hnew⟩
    · rcases hs.noLeak q' p hold with ⟨⟨a, ha, hpart⟩, hkept⟩ | ⟨hfree, hcount⟩
      · have hne : a ≠ s.next := Nat.ne_of_lt (hs.queued q' a ha)
        exact Or.inl ⟨⟨a, hmem.mpr (Or.inl ha), (hparts a hne).symm ▸ hpart⟩, hkept⟩
      · have hlt : owner p < s.next := hs.released p (List.count_pos_iff.mp (by omega))
        refine Or.inr ⟨?_, hcount⟩
        rintro q'' ⟨a, ha, hpart⟩
        have hne : a ≠ s.next := owner_of_mem hpart ▸ Nat.ne_of_lt hlt
        rcases hmem.mp ha with ha | ⟨-, ha⟩
        · exact hfree q'' ⟨a, ha, hparts a hne ▸ hpart⟩
        · exact hne ha
    · refine Or.inl ⟨⟨s.next, hmem.mpr (Or.inr ⟨rfl, rfl⟩), hnew⟩, ?_⟩
      intro hr
      have hlt := hs.released p hr
      rw [owner_of_mem hnew] at hlt
      exact Nat.lt_irrefl _ hlt

theorem Leaked.receive (hs : Settled s) (h : Leaked s q r) : ¬NoLeak (receive q r) := by
  have hreceive : Reception.receive q r = r.1 := by simp only [Reception.receive, h.returned]
  have hkept : .message s.next ∉ s.memory.released :=
    fun hr => Nat.lt_irrefl _ (hs.released (.message s.next) hr)
  rw [hreceive]
  intro hn
  rcases hn q (.message s.next) h.allocated with ⟨⟨a, ha, hpart⟩, -⟩ | ⟨-, hcount⟩
  · have ha' : a = s.next := (owner_of_mem hpart).symm
    have hlt := hs.queued q a (h.queue ▸ ha)
    omega
  · exact hkept (h.released (List.count_pos_iff.mp (by omega)))

theorem handle_settled (hs : Settled s) {l : Label ι ω B} (h : UnfailingCall z l) :
    Settled (handle z s l) := by
  have hreceive : ∀ {q r}, r = (s, none) ∨ Finished s q r → Settled (receive q r) := by
    rintro q r (rfl | hf)
    · exact hs
    · exact hf.receive hs
  cases l with
  | subscriptionData sample ctx recvTs alloc =>
      cases ctx with
      | none => exact hs
      | some subData => exact hreceive (sample_unfailing (h rfl))
  | reply reply ctx recvTs alloc =>
      cases reply with
      | none => exact hs
      | some sample =>
          cases ctx with
          | none => exact hs
          | some clientData => exact hreceive (sample_unfailing (h sample rfl rfl))
  | request query ctx recvTs alloc =>
      cases ctx with
      | none => exact hs
      | some serviceData => exact hreceive (query_unfailing (h rfl))

theorem handle_leaks (hs : Settled s) {l : Label ι ω B} (h : ¬UnfailingCall z l) :
    ¬NoLeak (handle z s l) := by
  cases l with
  | subscriptionData sample ctx recvTs alloc =>
      obtain ⟨hctx, hfail⟩ := Classical.not_imp.mp h
      obtain ⟨subData, rfl⟩ := Option.isSome_iff_exists.mp hctx
      exact (sample_failing hfail).receive hs
  | reply reply ctx recvTs alloc =>
      simp only [UnfailingCall, Classical.not_forall] at h
      obtain ⟨sample, rfl, hctx, hfail⟩ := h
      obtain ⟨clientData, rfl⟩ := Option.isSome_iff_exists.mp hctx
      exact (sample_failing hfail).receive hs
  | request query ctx recvTs alloc =>
      obtain ⟨hctx, hfail⟩ := Classical.not_imp.mp h
      obtain ⟨serviceData, rfl⟩ := Option.isSome_iff_exists.mp hctx
      exact (query_failing hfail).receive hs

end Receive

def initial : State ι ω where
  memory := ⟨fun _ => ⟨none, 0, 0, 0, ⟨0, 0, ⟨none, 0, fun _ => rfl⟩⟩, .sample, none⟩, fun _ => .absent,
    fun _ => none, []⟩
  next := 0
  allocated := []
  queue _ := []

theorem initial_settled : Settled (initial : State ι ω) :=
  ⟨by simp [initial], by simp [initial], by simp [NoLeak, initial]⟩

/-- Nothing is lost in a run exactly when every message that was begun could
be completed. -/
theorem reception_noLeak_iff [DecidableEq ι] (z : ZeSerializer S B D) {s : State ι ω} (hs : Settled s)
    (ls : List (Label ι ω B)) :
    Always (machine z) NoLeak s ls ↔ Every (machine z) (fun _ l => UnfailingCall z l) s ls := by
  constructor
  · intro h
    refine every_of_always_of_invariant ?_ ?_ hs h
    · rintro s l _ hs hl ⟨⟩
      exact handle_settled hs hl
    · intro s l hs hnext
      by_contra hl
      exact handle_leaks hs hl (hnext (handle z s l) rfl)
  · intro h
    have hsettled : Always (machine z) Settled s ls := by
      refine always_of_every ?_ hs h
      rintro s l _ hs hl ⟨⟩
      exact handle_settled hs hl
    exact always_mono (fun _ ht => ht.noLeak) hsettled

def soundSample : Label Unit Nat (List (Int ⊕ Slice)) :=
  .subscriptionData ⟨[0, 1, 0, 0], [.inl 0, .inl 0, .inr (zSliceCopyFromBuf fun _ => 0)]⟩ (some ()) 0
    ⟨⟨true, true⟩, true, true⟩

def bareSample : Label Unit Nat (List (Int ⊕ Slice)) :=
  .subscriptionData ⟨[0, 1, 0, 0], []⟩ (some ()) 0 ⟨⟨true, true⟩, true, true⟩

theorem soundSample_kept : Always (machine valueSerializer) NoLeak initial [soundSample] :=
  (reception_noLeak_iff valueSerializer initial_settled [soundSample]).mpr
    ⟨fun _ _ => ⟨rfl, rfl⟩, fun _ _ => trivial⟩

/-- There is memory for everything. The object of the message is lost. -/
theorem bareSample_leaks : ¬Always (machine valueSerializer) NoLeak initial [bareSample] := by
  intro h
  refine handle_leaks initial_settled ?_ (h [bareSample] (handle valueSerializer initial bareSample)
    (List.prefix_refl _) rfl)
  intro hcall
  exact absurd (hcall rfl rfl).2 (by decide)

end RmwZenohPico.Reception
