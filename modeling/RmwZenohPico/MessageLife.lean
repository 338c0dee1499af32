import RmwZenohPico.MessageRelease
import RmwZenohPico.Reception
import RmwZenohPico.Teardown

namespace RmwZenohPico.MessageLife

open Lib.LabelledMachine Lib.RefHeap RmwTypes Attachment RosMessage MessageList MessageMemory MessageRelease
open Reception (Queue Finished Leaked UnfailingCall owner owner_of_mem)
open Teardown (destroyLoop drainLoop drain)
open Service (compareResponceMsg)

variable {ι ω R Res M I S B D A : Type}

/-- Only these messages were written to, and none was replaced by one with
other parts. -/
structure Frame (m m' : Memory A ω) (xs : List A) : Prop where
  links : ∀ b, b ∉ xs → m'.links b = m.links b
  object : ∀ b, b ∉ xs → m'.object b = m.object b
  parts : m'.parts = m.parts

theorem Frame.refl (m : Memory A ω) (xs : List A) : Frame m m xs :=
  ⟨fun _ _ => rfl, fun _ _ => rfl, rfl⟩

theorem Frame.trans {m m' m'' : Memory A ω} {xs ys : List A} (h : Frame m m' xs) (h' : Frame m' m'' ys)
    (hsub : ys ⊆ xs) : Frame m m'' xs where
  links b hb := (h'.links b fun hm => hb (hsub hm)).trans (h.links b hb)
  object b hb := (h'.object b fun hm => hb (hsub hm)).trans (h.object b hb)
  parts := h'.parts.trans h.parts

theorem Frame.queued {m m' : Memory A ω} {xs ys : List A} {msgList : ReceiveMessageDataList A}
    (h : Frame m m' xs) (hd : xs.Disjoint ys) (hq : Queued m msgList ys) : Queued m' msgList ys :=
  hq.frame (fun a ha => h.links a fun hx => hd hx ha) fun a ha => h.object a fun hx => hd hx ha

section Functions

variable [DecidableEq A]

theorem pop_frame {m m' : Memory A ω} {msgList msgList' : ReceiveMessageDataList A} {a : Option A}
    {xs : List A} (h : Queued m msgList xs) (hr : m.pop msgList = some (m', msgList', a)) : Frame m m' xs := by
  have hremoves := pop_removes h.represents
  simp only [Memory.pop, Option.ite_none_right_eq_some, Option.some.injEq, Prod.mk.injEq] at hr
  obtain ⟨-, rfl, -⟩ := hr
  exact ⟨hremoves.frame, fun _ _ => rfl, rfl⟩

theorem pickup_frame {m m' : Memory A ω} {msgList msgList' : ReceiveMessageDataList A} {a : Option A}
    {xs : List A} {fuel : Nat} (hf : xs.length ≤ fuel) {func : A → Bool} (h : Queued m msgList xs)
    (hr : m.pickup fuel msgList func = some (m', msgList', a)) :
    Frame m m' xs ∧ m'.content = m.content ∧ (∀ b ∈ a, b ∈ xs) := by
  obtain ⟨r, hpickup, hremoves⟩ := pickup_removes func h.represents fuel hf
  simp only [Memory.pickup, hpickup, Option.bind_some, Option.ite_none_right_eq_some, Option.some.injEq,
    Prod.mk.injEq] at hr
  obtain ⟨-, rfl, -, rfl⟩ := hr
  refine ⟨⟨hremoves.frame, fun _ _ => rfl, rfl⟩, rfl, ?_⟩
  intro b hb
  rw [hremoves.returned] at hb
  exact MessageQueue.mem_of_pickup hb

theorem destroy_message_frame {m m' : Memory A ω} {a : A} {xs : List A} (ha : a ∈ xs)
    (hr : zenohPicoDataDestroy m a = some m') : Frame m m' xs := by
  obtain ⟨object, hobject, rfl⟩ := Option.map_eq_some_iff.mp hr
  refine ⟨fun _ _ => rfl, ?_, rfl⟩
  intro b hb
  exact destroy_frame (fun he => hb (he ▸ ha)) hobject

theorem delete_frame {m m' : Memory A ω} {a : A} {xs : List A} (ha : a ∈ xs)
    (hr : zenohPicoDeleteRecvMsgData m a = some m') : Frame m m' xs := by
  obtain ⟨⟨object, last⟩, hrelease, hr⟩ := Option.bind_eq_some_iff.mp hr
  have hobject : ∀ b, b ∉ xs → object b = m.object b := by
    intro b hb
    have hne : b ≠ a := fun he => hb (he ▸ ha)
    simp only [release, refDec] at hrelease
    cases hlive : m.object a with
    | absent | freed =>
        rw [hlive] at hrelease
        cases hrelease
    | live n =>
        rw [hlive] at hrelease
        cases hrelease
        exact Function.update_of_ne hne ..
  have hcounted : ∀ released, Frame m { m with object := object, released := released } xs :=
    fun _ => ⟨fun _ _ => rfl, hobject, rfl⟩
  cases last with
  | false =>
      cases hr
      exact hcounted _
  | true =>
      refine (hcounted _).trans (destroy_message_frame ha hr) ?_
      exact List.Subset.refl _

theorem takeMessage_frame {deserialize : ReceiveMessageData ω → Bool × M × Option I} {m : Memory A ω}
    {msgList : ReceiveMessageDataList A} {xs : List A} (h : Queued m msgList xs) {rosMessage : M}
    {info : Option I} {taken : Bool} {r : Service.TakeResult (MessageState A ω) M I}
    (hr : takeMessage deserialize (m, msgList) rosMessage info taken = some r) : Frame m r.data.1 xs := by
  obtain ⟨⟨m', msgList', msgData⟩, hpop, hr⟩ := Option.bind_eq_some_iff.mp hr
  have hframe := pop_frame h hpop
  cases msgData with
  | none =>
      cases hr
      exact hframe
  | some a =>
      have ha : a ∈ xs := by
        have hreturned := (pop_removes h.represents).returned
        simp only [Memory.pop, Option.ite_none_right_eq_some, Option.some.injEq, Prod.mk.injEq] at hpop
        rw [hpop.2.2.2] at hreturned
        exact List.mem_of_head? hreturned.symm
      simp only at hr
      split at hr
      · obtain ⟨m'', hdelete, rfl⟩ := Option.map_eq_some_iff.mp hr
        exact hframe.trans (delete_frame ha hdelete) (List.Subset.refl _)
      · cases hr
        exact hframe

theorem takeSequenceLoop_frame {callbacks : MessageTypeSupportCallbacks R}
    {slots : List (R × RmwMessageInfo)} {m : Memory A ω} {msgList : ReceiveMessageDataList A} {xs : List A}
    (h : Queued m msgList xs) {ret : RmwRet} {r : SequenceResult (MessageState A ω) R}
    (hr : takeSequenceLoop (rmwZenohPicoTakeOne callbacks) ret (m, msgList) slots = some r) :
    Frame m r.data.1 xs := by
  induction slots generalizing m msgList xs ret r with
  | nil =>
      cases hr
      exact Frame.refl m xs
  | cons slot slots ih =>
      obtain ⟨taken, htake, hr⟩ := Option.bind_eq_some_iff.mp hr
      have hframe := takeMessage_frame h htake
      simp only at hr
      split at hr
      · cases hr
        exact hframe
      · rename_i hok
        obtain ⟨rest, hloop, rfl⟩ := Option.map_eq_some_iff.mp hr
        cases xs with
        | nil =>
            rw [rmwZenohPicoTakeOne, takeMessage_empty h] at htake
            cases htake
            exact absurd (Or.inl fun he => by cases he) hok
        | cons a xs =>
            obtain ⟨m', msgList', _, _, htake', hqueued, -⟩ := takeOne_cons h callbacks slot.1 (some slot.2) false
            rw [htake] at htake'
            have hdata : taken.data = (m', msgList') := by
              split at htake' <;> cases htake' <;> rfl
            rw [hdata] at hloop hframe
            have hrest := ih hqueued hloop
            exact hframe.trans hrest (List.subset_cons_self a xs)

theorem stamp_frame (m : Memory A ω) (a : A) (attachment : AttachmentData) (xs : List A) :
    Frame m (stamp m a attachment) xs :=
  ⟨fun _ _ => rfl, fun _ _ => rfl, stamp_parts m a attachment⟩

theorem sendResponse_frame {z : ZeSerializer S B D} {fuel : Nat}
    {responseCallback : MessageTypeSupportCallbacks Res} {m : Memory A ω}
    {msgList : ReceiveMessageDataList A} {xs : List A} (h : Queued m msgList xs) (hf : xs.length ≤ fuel)
    {requestHeader : RmwRequestId} {rosResponse : Res} {env : Service.SendEnvironment}
    {r : SendResponseResult A ω B}
    (hr : sendResponse z fuel responseCallback (m, msgList) requestHeader rosResponse env = some r) :
    Frame m r.data.1 xs := by
  obtain ⟨⟨m', msgList', picked⟩, hpickup, hr⟩ := Option.bind_eq_some_iff.mp hr
  obtain ⟨hframe, -, hpicked⟩ := pickup_frame hf h hpickup
  simp only at hr
  split at hr
  · obtain ⟨m'', hdelete, rfl⟩ := Option.map_eq_some_iff.mp hr
    cases picked with
    | none =>
        cases hdelete
        exact hframe
    | some a => exact hframe.trans (delete_frame (hpicked a rfl) hdelete) (List.Subset.refl _)
  · obtain ⟨a, rfl, hsend⟩ := Option.bind_eq_some_iff.mp hr
    generalize attachmentGen z (m'.content a).attachment env.now env.attachmentFailed = gen at hsend
    have hstamped : Frame m (stamp m' a gen.1) xs := hframe.trans (stamp_frame m' a gen.1 xs) (List.Subset.refl _)
    cases hattachment : gen.2 with
    | none =>
        rw [hattachment] at hsend
        cases hsend
        exact hstamped
    | some attachment =>
        rw [hattachment] at hsend
        obtain ⟨m'', hdelete, rfl⟩ := Option.map_eq_some_iff.mp hsend
        exact hstamped.trans (delete_frame (hpicked a rfl) hdelete) (List.Subset.refl _)

theorem run_frame {z : ZeSerializer S B D} {m : Memory A ω} {msgList : ReceiveMessageDataList A} {xs : List A}
    (h : Queued m msgList xs) {fuel : Nat} (hf : xs.length ≤ fuel) {call : Call R Res}
    {r : RmwRet × MessageState A ω} (hr : call.run z fuel (m, msgList) = some r) : Frame m r.2.1 xs := by
  cases call with
  | take | takeWithInfo | takeResponse =>
      obtain ⟨r', htake, rfl⟩ := Option.map_eq_some_iff.mp hr
      exact takeMessage_frame h htake
  | takeSequence =>
      obtain ⟨r', hloop, rfl⟩ := Option.map_eq_some_iff.mp hr
      exact takeSequenceLoop_frame h hloop
  | sendResponse =>
      obtain ⟨r', hsend, rfl⟩ := Option.map_eq_some_iff.mp hr
      exact sendResponse_frame h hf hsend

theorem destroyLoop_frame {m m' : Memory A ω} {msgList msgList' : ReceiveMessageDataList A} {xs : List A}
    (h : Queued m msgList xs) {fuel : Nat} (hr : destroyLoop fuel m msgList = some (m', msgList')) :
    Frame m m' xs := by
  induction fuel generalizing m msgList xs with
  | zero => cases hr
  | succ fuel ih =>
      simp only [destroyLoop] at hr
      split at hr
      · cases hr
        exact Frame.refl _ xs
      · obtain ⟨⟨m₁, msgList₁, msgData⟩, hpop, hr⟩ := Option.bind_eq_some_iff.mp hr
        obtain ⟨a, rfl, hr⟩ := Option.bind_eq_some_iff.mp hr
        obtain ⟨m₂, hdestroy, hr⟩ := Option.bind_eq_some_iff.mp hr
        have hframe := pop_frame h hpop
        cases xs with
        | nil =>
            rw [pop_empty h] at hpop
            cases hpop
        | cons b xs =>
            obtain ⟨links, msgList₂, hpop', hqueued, -⟩ := pop_cons h
            rw [hpop] at hpop'
            cases hpop'
            have hkept := dataDestroy_referenced (m := { m with links := links })
              (h.referenced _ List.mem_cons_self)
            rw [hkept] at hdestroy
            cases hdestroy
            exact hframe.trans (ih hqueued hr) (List.subset_cons_self _ xs)

end Functions

/-- The data objects that hold queues. Those of services and of clients are
one type. -/
inductive Data (ι : Type)
  | subscription (subData : ι)
  | service (data : ι)
  deriving DecidableEq

def dataOf : Queue ι → Data ι
  | .message subData => .subscription subData
  | .response data | .request data => .service data

/-- The received messages of a process, with everything that was allocated
for them, and the queues of its endpoints. -/
structure Process (ι ω : Type) where
  memory : Memory Nat ω
  next : Nat
  allocated : List (Queue ι × MessageMemory.Part Nat)
  list : Queue ι → ReceiveMessageDataList Nat
  alive : Data ι → Bool

inductive Label (ι ω R Res B : Type)
  | create (data : Data ι)
  | arrive (l : Reception.Label ι ω B)
  | call (data : ι) (call : Call R Res)
  | takeRequest (serviceData : ι)
  | destroy (data : Data ι)

def Process.heap (s : Process ι ω) : Reception.State ι ω := ⟨s.memory, s.next, s.allocated, fun _ => []⟩

def Process.receive (s : Process ι ω) (r : Reception.State ι ω × Option Nat) : Process ι ω :=
  { s with memory := r.1.memory, next := r.1.next, allocated := r.1.allocated }

def generation (z : ZeSerializer S B D) (s : Reception.State ι ω) :
    Reception.Label ι ω B → Option (Queue ι × Reception.State ι ω × Option Nat)
  | .subscriptionData sample ctx recvTs alloc => ctx.map fun subData =>
      (.message subData, Reception.generateRecvSampleMsgData z s (.message subData) sample recvTs alloc)
  | .reply reply ctx recvTs alloc => reply.bind fun sample => ctx.map fun clientData =>
      (.response clientData, Reception.generateRecvSampleMsgData z s (.response clientData) sample recvTs alloc)
  | .request query ctx recvTs alloc => ctx.map fun serviceData =>
      (.request serviceData, Reception.generateRecvQueryMsgData z s (.request serviceData) query recvTs alloc)

theorem handle_generation [DecidableEq ι] (z : ZeSerializer S B D) (s : Reception.State ι ω)
    (l : Reception.Label ι ω B) :
    Reception.handle z s l = match generation z s l with
      | none => s
      | some (q, r) => Reception.receive q r := by
  cases l with
  | subscriptionData sample ctx => cases ctx <;> rfl
  | reply reply ctx => cases reply <;> cases ctx <;> rfl
  | request query ctx => cases ctx <;> rfl

def callQueue (data : ι) : Call R Res → Queue ι
  | .take .. | .takeWithInfo .. | .takeSequence .. => .message data
  | .takeResponse .. | .sendResponse .. => .response data

def Memory.append (m : Memory A ω) [DecidableEq A] (msgList : ReceiveMessageDataList A) (recvData : A) :
    Option (Memory A ω × ReceiveMessageDataList A) :=
  let r := recvMsgListAppend m.links msgList recvData
  if (m.object recvData).isLive && msgList.queBottom.all fun a => (m.object a).isLive then
    some ({ m with links := r.1 }, r.2)
  else none

variable [DecidableEq ι]

def Process.setList (s : Process ι ω) (memory : Memory Nat ω) (q : Queue ι)
    (msgList : ReceiveMessageDataList Nat) : Process ι ω :=
  { s with memory := memory, list := Function.update s.list q msgList }

def Process.retire (s : Process ι ω) (data : Data ι) : Process ι ω :=
  { s with alive := Function.update s.alive data false }

def enabled (z : ZeSerializer S B D) (s : Process ι ω) : Label ι ω R Res B → Bool
  | .create data => !s.alive data
  | .arrive l => (generation z s.heap l).all fun g => s.alive (dataOf g.1)
  | .call data call => s.alive (dataOf (callQueue data call))
  | .takeRequest serviceData => s.alive (.service serviceData)
  | .destroy data => s.alive data

def stepCreate (s : Process ι ω) (data : Data ι) : Process ι ω :=
  { s with
    list := fun q => if dataOf q = data then recvMsgListInit else s.list q
    alive := Function.update s.alive data true }

def stepArrive (z : ZeSerializer S B D) (s : Process ι ω) (l : Reception.Label ι ω B) :
    Option (Process ι ω) :=
  match generation z s.heap l with
  | none => some s
  | some (q, r) =>
      let s := s.receive r
      match r.2 with
      | none => some s
      | some recvData => (Memory.append s.memory (s.list q) recvData).map fun (memory, msgList) =>
          s.setList memory q msgList

def stepCall (z : ZeSerializer S B D) (s : Process ι ω) (q : Queue ι) (call : Call R Res) :
    Option (Process ι ω) :=
  (call.run z s.next (s.memory, s.list q)).map fun r => s.setList r.2.1 q r.2.2

/-- The request that is taken goes to the other queue, whether it can be
deserialized or not. -/
def stepTakeRequest (s : Process ι ω) (serviceData : ι) : Option (Process ι ω) :=
  (s.memory.pop (s.list (.request serviceData))).bind fun (memory, msgList, msgData) =>
    let s := s.setList memory (.request serviceData) msgList
    match msgData with
    | none => some s
    | some a => (Memory.append s.memory (s.list (.response serviceData)) a).map fun (memory, msgList) =>
        s.setList memory (.response serviceData) msgList

def stepDestroy (s : Process ι ω) (data : Data ι) : Option (Process ι ω) :=
  match data with
  | .subscription subData =>
      (Teardown.zenohPicoDestroySubscriptionData (s.next + 1) s.memory ⟨1, s.list (.message subData)⟩).map
        fun (memory, subData') =>
          (s.retire data).setList memory (.message subData) subData'.messageQueue
  | .service serviceData =>
      (Teardown.zenohPicoDestroyServiceData (s.next + s.next + 1) s.memory
        ⟨1, s.list (.request serviceData), s.list (.response serviceData)⟩).map fun (memory, data') =>
          ((s.retire data).setList memory (.request serviceData) data'.requestQueue).setList memory
            (.response serviceData) data'.responseQueue

def exec (z : ZeSerializer S B D) (s : Process ι ω) : Label ι ω R Res B → Option (Process ι ω)
  | .create data => some (stepCreate s data)
  | .arrive l => stepArrive z s l
  | .call data call => stepCall z s (callQueue data call) call
  | .takeRequest serviceData => stepTakeRequest s serviceData
  | .destroy data => stepDestroy s data

def machine (z : ZeSerializer S B D) : Machine (Process ι ω) (Label ι ω R Res B) :=
  fun s l => if enabled z s l then exec z s l else none

def Owned (s : Process ι ω) (p : MessageMemory.Part Nat) : Prop :=
  ∃ q xs, Represents s.memory.links (s.list q) xs ∧ ∃ a ∈ xs, p ∈ s.memory.parts a

/-- Whatever was ever allocated for a message belongs to a message in a queue,
or it was released, and that once. -/
def NoLeak (s : Process ι ω) : Prop :=
  ∀ q p, (q, p) ∈ s.allocated → (Owned s p ∧ p ∉ s.memory.released) ∨
    (¬Owned s p ∧ s.memory.released.count p = 1)

/-- A message that arrives can be completed, one that is removed is accepted,
and the queue of a subscription is empty when that is destroyed. -/
def Sound (z : ZeSerializer S B D) (s : Process ι ω) (l : Label ι ω R Res B) : Prop :=
  enabled z s l = true →
    match l with
    | .arrive l => UnfailingCall z l
    | .call data call => ∀ xs, Queued s.memory (s.list (callQueue data call)) xs → call.Accepted z s.memory xs
    | .destroy (.subscription subData) => recvMsgListEmpty (s.list (.message subData)) = true
    | _ => True

/-- No call of a living endpoint reads or writes a message that is gone. An
answer to a request that is not queued has no outcome in any state, and is not
asked for one. -/
def Safe (z : ZeSerializer S B D) (R Res : Type) (s : Process ι ω) : Prop :=
  ∀ l : Label ι ω R Res B, enabled z s l = true →
    (∀ data call, l = .call data call → ∀ xs, Queued s.memory (s.list (callQueue data call)) xs →
      ¬call.Unknown s.memory xs) → (exec z s l).isSome

structure Kept (s : Process ι ω) (queue : Queue ι → List Nat) : Prop where
  queued : ∀ q, Queued s.memory (s.list q) (queue q)
  disjoint : ∀ q q', q ≠ q' → (queue q).Disjoint (queue q')
  fresh : ∀ q, ∀ a ∈ queue q, a < s.next
  released : ∀ p ∈ s.memory.released, owner p < s.next
  unreleased : ∀ q, ∀ a ∈ queue q, ∀ p ∈ s.memory.parts a, p ∉ s.memory.released
  object : ∀ q, ∀ a ∈ queue q, ∃ q', (q', .message a) ∈ s.allocated
  accounted : ∀ q p, (q, p) ∈ s.allocated →
    (∃ q', ∃ a ∈ queue q', p ∈ s.memory.parts a) ∨ s.memory.released.count p = 1
  idle : ∀ q, s.alive (dataOf q) = false → queue q = []

section Invariant

variable {s t : Process ι ω} {queue : Queue ι → List Nat}

omit [DecidableEq ι] in
theorem Kept.owned_iff (h : Kept s queue) {p : MessageMemory.Part Nat} :
    Owned s p ↔ ∃ q, ∃ a ∈ queue q, p ∈ s.memory.parts a := by
  constructor
  · rintro ⟨q, xs, hxs, a, ha, hp⟩
    have hsame := Lib.LinkedSegment.chain_unique hxs.chain (h.queued q).represents.chain
    exact ⟨q, a, hsame ▸ ha, hp⟩
  · rintro ⟨q, a, ha, hp⟩
    exact ⟨q, queue q, (h.queued q).represents, a, ha, hp⟩

omit [DecidableEq ι] in
theorem Kept.noLeak (h : Kept s queue) : NoLeak s := by
  intro q p hp
  by_cases howned : Owned s p
  · obtain ⟨q', a, ha, hpart⟩ := h.owned_iff.mp howned
    exact Or.inl ⟨howned, h.unreleased q' a ha p hpart⟩
  · rcases h.accounted q p hp with hq | hcount
    · exact absurd (h.owned_iff.mpr hq) howned
    · exact Or.inr ⟨howned, hcount⟩

omit [DecidableEq ι] in
theorem Kept.length_le (h : Kept s queue) (q : Queue ι) : (queue q).length ≤ s.next := by
  have hsub : queue q ⊆ List.range s.next := fun a ha => List.mem_range.mpr (h.fresh q a ha)
  simpa using ((h.queued q).represents.nodup.subperm hsub).length_le

omit [DecidableEq ι] in
theorem Kept.length_add_le (h : Kept s queue) (q q' : Queue ι) :
    (queue q ++ queue q').length ≤ s.next + s.next := by
  have hq := h.length_le q
  have hq' := h.length_le q'
  rw [List.length_append]
  omega

structure Takes (s t : Process ι ω) (q : Queue ι) (xs zs ys : List Nat) : Prop where
  frame : Frame s.memory t.memory xs
  perm : xs.Perm (zs ++ ys)
  queued : Queued t.memory (t.list q) ys
  list : ∀ q', q' ≠ q → t.list q' = s.list q'
  next : t.next = s.next
  allocated : t.allocated = s.allocated

theorem Takes.queued_update {q : Queue ι} {zs ys : List Nat} (ht : Takes s t q (queue q) zs ys)
    (h : Kept s queue) (q' : Queue ι) : Queued t.memory (t.list q') (Function.update queue q ys q') := by
  by_cases hq : q' = q
  · subst hq
    rw [Function.update_self]
    exact ht.queued
  · rw [Function.update_of_ne hq, ht.list q' hq]
    exact ht.frame.queued (h.disjoint q q' (Ne.symm hq)) (h.queued q')

theorem Takes.mem_update {q : Queue ι} {zs ys : List Nat} (ht : Takes s t q (queue q) zs ys)
    (h : Kept s queue) {q' : Queue ι} {a : Nat} :
    a ∈ Function.update queue q ys q' ↔ a ∈ queue q' ∧ a ∉ zs := by
  have hnodup := ht.perm.nodup_iff.mp (h.queued q).represents.nodup
  obtain ⟨-, -, hdisjoint⟩ := List.nodup_append'.mp hnodup
  by_cases hq : q' = q
  · subst hq
    rw [Function.update_self, ht.perm.mem_iff, List.mem_append]
    constructor
    · exact fun ha => ⟨Or.inr ha, fun hz => hdisjoint hz ha⟩
    · exact fun ha => ha.1.resolve_left ha.2
  · rw [Function.update_of_ne hq]
    refine (and_iff_left_of_imp ?_).symm
    intro ha hz
    exact h.disjoint q q' (Ne.symm hq) (ht.perm.mem_iff.mpr (List.mem_append_left _ hz)) ha

theorem Takes.kept {q : Queue ι} {zs ys : List Nat} (ht : Takes s t q (queue q) zs ys) (h : Kept s queue)
    (hreleased : t.memory.released = s.memory.released ++ zs.flatMap s.memory.parts)
    (hidle : ∀ q', t.alive (dataOf q') = false → Function.update queue q ys q' = []) :
    Kept t (Function.update queue q ys) where
  queued := ht.queued_update h
  disjoint q₁ q₂ hne a ha ha' :=
    h.disjoint q₁ q₂ hne ((ht.mem_update h).mp ha).1 ((ht.mem_update h).mp ha').1
  fresh q' a ha := by
    rw [ht.next]
    exact h.fresh q' a ((ht.mem_update h).mp ha).1
  released p hp := by
    rw [ht.next]
    rw [hreleased] at hp
    rcases List.mem_append.mp hp with hp | hp
    · exact h.released p hp
    · obtain ⟨a, ha, hpart⟩ := List.mem_flatMap.mp hp
      rw [owner_of_mem hpart]
      exact h.fresh q a (ht.perm.mem_iff.mpr (List.mem_append_left _ ha))
  unreleased q' a ha p hp := by
    obtain ⟨hold, hz⟩ := (ht.mem_update h).mp ha
    rw [ht.frame.parts] at hp
    rw [hreleased, List.mem_append, not_or]
    refine ⟨h.unreleased q' a hold p hp, ?_⟩
    intro hm
    obtain ⟨b, hb, hpart⟩ := List.mem_flatMap.mp hm
    rw [← owner_of_mem hpart, owner_of_mem hp] at hb
    exact hz hb
  object q' a ha := by
    rw [ht.allocated]
    exact h.object q' a ((ht.mem_update h).mp ha).1
  accounted q' p hp := by
    rw [ht.allocated] at hp
    rw [ht.frame.parts, hreleased, List.count_append]
    have hnodup : zs.Nodup :=
      (List.nodup_append'.mp (ht.perm.nodup_iff.mp (h.queued q).represents.nodup)).1
    rcases h.accounted q' p hp with ⟨q₁, a, ha, hpart⟩ | hcount
    · by_cases hz : a ∈ zs
      · right
        have hnot := List.count_eq_zero_of_not_mem (h.unreleased q₁ a ha p hpart)
        have hone := List.count_eq_one_of_mem (parts_flatMap_nodup s.memory hnodup)
          (List.mem_flatMap.mpr ⟨a, hz, hpart⟩)
        omega
      · exact Or.inl ⟨q₁, a, (ht.mem_update h).mpr ⟨ha, hz⟩, hpart⟩
    · right
      have hnot : p ∉ zs.flatMap s.memory.parts := by
        intro hm
        obtain ⟨a, ha, hpart⟩ := List.mem_flatMap.mp hm
        have hmem := ht.perm.mem_iff.mpr (List.mem_append_left ys ha)
        have hzero := List.count_eq_zero_of_not_mem (h.unreleased q a hmem p hpart)
        omega
      rw [hcount, List.count_eq_zero_of_not_mem hnot]
  idle := hidle

theorem Takes.leaks {q : Queue ι} {zs ys ws : List Nat} (ht : Takes s t q (queue q) zs ys) (h : Kept s queue)
    (hreleased : t.memory.released = s.memory.released ++ ws.flatMap s.memory.parts) (hsub : ws.Sublist zs)
    (hne : ws ≠ zs) : ¬NoLeak t := by
  obtain ⟨a, ha, hw⟩ : ∃ a ∈ zs, a ∉ ws := by
    by_contra hall
    have hnodup : zs.Nodup :=
      (List.nodup_append'.mp (ht.perm.nodup_iff.mp (h.queued q).represents.nodup)).1
    have hsubset : zs ⊆ ws := fun a ha => by_contra fun hw => hall ⟨a, ha, hw⟩
    exact hne (hsub.eq_of_length (le_antisymm hsub.length_le (hnodup.subperm hsubset).length_le))
  have hmem : a ∈ queue q := ht.perm.mem_iff.mpr (List.mem_append_left ys ha)
  obtain ⟨q', hobject⟩ := h.object q a hmem
  have hkept : .message a ∉ t.memory.released := by
    rw [hreleased, List.mem_append, not_or]
    refine ⟨h.unreleased q a hmem _ (message_mem_parts.mpr rfl), ?_⟩
    intro hm
    obtain ⟨b, hb, hpart⟩ := List.mem_flatMap.mp hm
    exact hw (message_mem_parts.mp hpart ▸ hb)
  intro hn
  rcases hn q' (.message a) (ht.allocated ▸ hobject) with ⟨⟨q₁, xs, hxs, b, hb, hpart⟩, -⟩ | ⟨-, hcount⟩
  · obtain rfl := message_mem_parts.mp hpart
    have hsame := Lib.LinkedSegment.chain_unique hxs.chain (ht.queued_update h q₁).represents.chain
    exact ((ht.mem_update h).mp (hsame ▸ hb)).2 ha
  · exact hkept (List.count_pos_iff.mp (by omega))

theorem stepCreate_kept (h : Kept s queue) {data : Data ι} (hd : s.alive data = false) :
    Kept (stepCreate s data) queue := by
  refine { h with queued := ?_, idle := ?_ }
  · intro q
    by_cases hq : dataOf q = data
    · have hempty : queue q = [] := h.idle q (hq ▸ hd)
      simp only [stepCreate, hq, if_true, hempty]
      exact ⟨init_represents _, fun a ha => by cases ha⟩
    · simp only [stepCreate, hq, if_false]
      exact h.queued q
  · intro q hq
    by_cases hqd : dataOf q = data
    · simp only [stepCreate, hqd, Function.update_self] at hq
      cases hq
    · simp only [stepCreate, Function.update_of_ne hqd] at hq
      exact h.idle q hq

theorem idle_update (h : Kept s queue) {q : Queue ι} (hq : s.alive (dataOf q) = true) (ys : List Nat)
    (q' : Queue ι) (hq' : s.alive (dataOf q') = false) : Function.update queue q ys q' = [] := by
  have hne : q' ≠ q := by
    rintro rfl
    rw [hq] at hq'
    cases hq'
  rw [Function.update_of_ne hne]
  exact h.idle q' hq'

theorem stepCall_takes {z : ZeSerializer S B D} (h : Kept s queue) {q : Queue ι} {call : Call R Res}
    (hs : stepCall z s q call = some t) :
    t.alive = s.alive ∧ ∃ zs ys ws, Takes s t q (queue q) zs ys ∧
      t.memory.released = s.memory.released ++ ws.flatMap s.memory.parts ∧ ws.Sublist zs ∧
      (ws = zs ↔ call.Accepted z s.memory (queue q)) := by
  obtain ⟨r, hrun, rfl⟩ := Option.map_eq_some_iff.mp hs
  obtain ⟨zs, ws, ⟨⟨ys, hys, hperm⟩, hreleased, hsub⟩, hiff⟩ := run_leaves z (h.queued q) (h.length_le q) call hrun
  refine ⟨rfl, zs, ys, ws, ⟨run_frame (h.queued q) (h.length_le q) hrun, hperm, ?_, ?_, rfl, rfl⟩,
    hreleased, hsub, hiff⟩
  · simpa only [Process.setList, Function.update_self] using hys
  · intro q' hq
    simp only [Process.setList, Function.update_of_ne hq]

theorem drain_frame {m m' : Memory Nat ω} {xs : List Nat} (hcontent : m'.content = m.content)
    (hother : ∀ b, b ∉ xs → m'.links b = m.links b ∧ m'.object b = m.object b) : Frame m m' xs :=
  ⟨fun b hb => (hother b hb).1, fun b hb => (hother b hb).2, parts_congr hcontent⟩

theorem idle_retire (h : Kept s queue) {data : Data ι} {queue' : Queue ι → List Nat}
    (hdata : ∀ q, dataOf q = data → queue' q = []) (hother : ∀ q, dataOf q ≠ data → queue' q = queue q)
    {q : Queue ι} (hq : Function.update s.alive data false (dataOf q) = false) : queue' q = [] := by
  by_cases hqd : dataOf q = data
  · exact hdata q hqd
  · rw [Function.update_of_ne hqd] at hq
    rw [hother q hqd]
    exact h.idle q hq

theorem stepDestroy_subscription (h : Kept s queue) (subData : ι) :
    ∃ t, stepDestroy s (.subscription subData) = some t ∧
      t.alive = Function.update s.alive (.subscription subData) false ∧
      Takes s t (.message subData) (queue (.message subData)) (queue (.message subData)) [] ∧
      t.memory.released = s.memory.released := by
  have hqueued := h.queued (.message subData)
  have hfuel : (queue (.message subData)).length < s.next + 1 := Nat.lt_succ_of_le (h.length_le _)
  obtain ⟨links, msgList, hloop, hempty⟩ := Teardown.destroyLoop_eq hqueued hfuel
  have hframe := destroyLoop_frame hqueued hloop
  have hcount : ¬0 < recvMsgListCount msgList := by
    rw [recvMsgListCount, hempty.represents.count]
    simp
  have hdestroy : Teardown.zenohPicoDestroySubscriptionData (s.next + 1) s.memory ⟨1, s.list (.message subData)⟩ =
      some ({ s.memory with links := links }, ⟨0, msgList⟩) := by
    simp [Teardown.zenohPicoDestroySubscriptionData, hloop, drain, hcount]
  refine ⟨(s.retire (.subscription subData)).setList { s.memory with links := links } (.message subData) msgList,
    by simp only [stepDestroy, hdestroy, Option.map_some], rfl, ⟨hframe, by simp, ?_, ?_, rfl, rfl⟩, rfl⟩
  · simpa only [Process.setList, Function.update_self] using hempty
  · intro q' hq
    simp only [Process.setList, Process.retire, Function.update_of_ne hq]

theorem stepDestroy_service (h : Kept s queue) (data : ι) (halive : s.alive (.service data) = true) :
    ∃ t, stepDestroy s (.service data) = some t ∧
      Kept t (Function.update (Function.update queue (.request data) []) (.response data) []) := by
  have hfuel := h.length_add_le (.request data) (.response data)
  rw [List.length_append] at hfuel
  obtain ⟨m₁, requestQueue, hdrain₁, hempty₁, hcontent₁, hreleased₁, hother₁⟩ :=
    Teardown.drain_eq (h.queued (.request data)) (by omega : (queue (.request data)).length < s.next + s.next + 1)
  have htakes₁ : Takes s (s.setList m₁ (.request data) requestQueue) (.request data) (queue (.request data))
      (queue (.request data)) [] := by
    refine ⟨drain_frame hcontent₁ hother₁, by simp, ?_, ?_, rfl, rfl⟩
    · simpa only [Process.setList, Function.update_self] using hempty₁
    · intro q' hq
      simp only [Process.setList, Function.update_of_ne hq]
  have hkept₁ := htakes₁.kept h hreleased₁ (idle_update (q := .request data) h halive [])
  have hqueued := hkept₁.queued (.response data)
  rw [Function.update_of_ne (by simp)] at hqueued
  have hlist : (s.setList m₁ (.request data) requestQueue).list (.response data) = s.list (.response data) := by
    simp [Process.setList]
  rw [hlist] at hqueued
  obtain ⟨m₂, responseQueue, hdrain₂, hempty₂, hcontent₂, hreleased₂, hother₂⟩ :=
    Teardown.drain_eq (m := m₁) hqueued (by omega : (queue (.response data)).length < s.next + s.next + 1)
  have hdestroy : Teardown.zenohPicoDestroyServiceData (s.next + s.next + 1) s.memory
      ⟨1, s.list (.request data), s.list (.response data)⟩ = some (m₂, ⟨0, requestQueue, responseQueue⟩) := by
    simp [Teardown.zenohPicoDestroyServiceData, hdrain₁, hdrain₂]
  let t := ((s.retire (.service data)).setList m₂ (.request data) requestQueue).setList m₂ (.response data)
    responseQueue
  refine ⟨t, by simp only [stepDestroy, hdestroy, Option.map_some, t], ?_⟩
  have htakes₂ : Takes (s.setList m₁ (.request data) requestQueue) t (.response data)
      (Function.update queue (.request data) [] (.response data)) (queue (.response data)) [] := by
    refine ⟨?_, by simp, ?_, ?_, rfl, rfl⟩
    · rw [Function.update_of_ne (by simp)]
      exact drain_frame hcontent₂ hother₂
    · simpa only [t, Process.setList, Function.update_self] using hempty₂
    · intro q' hq
      simp only [t, Process.setList, Process.retire, Function.update_of_ne hq]
  refine htakes₂.kept hkept₁ hreleased₂ ?_
  intro q' hq'
  refine idle_retire h ?_ ?_ hq'
  · intro q hq
    cases q with
    | message => cases hq
    | response | request => cases hq; simp
  · intro q hq
    have hrequest : q ≠ .request data := by
      rintro rfl
      exact hq rfl
    have hresponse : q ≠ .response data := by
      rintro rfl
      exact hq rfl
    rw [Function.update_of_ne hresponse, Function.update_of_ne hrequest]

omit [DecidableEq ι] in
theorem append_queued {m : Memory Nat ω} {msgList : ReceiveMessageDataList Nat} {xs : List Nat} {a : Nat}
    (h : Queued m msgList xs) (ha : a ∉ xs) (hlive : m.object a = .live 1) :
    ∃ links msgList', Memory.append m msgList a = some ({ m with links := links }, msgList') ∧
      Queued { m with links := links } msgList' (xs ++ [a]) ∧ ∀ b, b ≠ a → b ∉ xs → links b = m.links b := by
  refine ⟨(recvMsgListAppend m.links msgList a).1, (recvMsgListAppend m.links msgList a).2, ?_,
    ⟨append_represents h.represents ha, ?_⟩, fun b hb hx => append_frame h.represents hb hx⟩
  · have hbottom : msgList.queBottom.all fun b => (m.object b).isLive := by
      rw [Option.all_eq_true]
      intro b hb
      rw [h.represents.bottom] at hb
      rw [h.referenced b (List.mem_of_getLast? hb)]
      rfl
    have hmessage : (m.object a).isLive = true := by rw [hlive]; rfl
    simp only [Memory.append, hbottom, hmessage, Bool.and_self, if_true]
  · intro b hb
    rcases List.mem_append.mp hb with hb | hb
    · exact h.referenced b hb
    · rw [List.mem_singleton.mp hb]
      exact hlive

/-- All messages are in the queues but one, which no other is linked to. -/
structure InHand (s : Process ι ω) (queue : Queue ι → List Nat) (a : Nat) : Prop where
  queued : ∀ q, Queued s.memory (s.list q) (queue q)
  disjoint : ∀ q q', q ≠ q' → (queue q).Disjoint (queue q')
  apart : ∀ q, a ∉ queue q
  live : s.memory.object a = .live 1
  fresh : ∀ q, ∀ b ∈ a :: queue q, b < s.next
  released : ∀ p ∈ s.memory.released, owner p < s.next
  unreleased : ∀ q, ∀ b ∈ a :: queue q, ∀ p ∈ s.memory.parts b, p ∉ s.memory.released
  object : ∀ q, ∀ b ∈ a :: queue q, ∃ q', (q', .message b) ∈ s.allocated
  accounted : ∀ q p, (q, p) ∈ s.allocated →
    (∃ q', ∃ b ∈ a :: queue q', p ∈ s.memory.parts b) ∨ s.memory.released.count p = 1
  idle : ∀ q, s.alive (dataOf q) = false → queue q = []

theorem mem_push {q q' : Queue ι} {a b : Nat} :
    b ∈ Function.update queue q (queue q ++ [a]) q' ↔ b ∈ queue q' ∨ (q' = q ∧ b = a) := by
  by_cases hq : q' = q
  · subst hq
    simp
  · simp [hq]

theorem InHand.push {a : Nat} (h : InHand s queue a) {q : Queue ι} (hq : s.alive (dataOf q) = true) :
    ∃ memory msgList, Memory.append s.memory (s.list q) a = some (memory, msgList) ∧
      Kept (s.setList memory q msgList) (Function.update queue q (queue q ++ [a])) := by
  obtain ⟨links, msgList, happend, hqueued, hframe⟩ := append_queued (h.queued q) (h.apart q) h.live
  have hmem : ∀ {q' b}, b ∈ Function.update queue q (queue q ++ [a]) q' → b ∈ a :: queue q' := by
    intro q' b hb
    rcases mem_push.mp hb with hb | ⟨-, rfl⟩
    · exact List.mem_cons_of_mem a hb
    · exact List.mem_cons_self
  refine ⟨{ s.memory with links := links }, msgList, happend, ?_⟩
  constructor
  case queued =>
    intro q'
    by_cases hq' : q' = q
    · subst hq'
      simpa only [Process.setList, Function.update_self] using hqueued
    · simp only [Process.setList, Function.update_of_ne hq']
      refine (h.queued q').frame ?_ (fun _ _ => rfl)
      intro b hb
      refine hframe b (fun he => h.apart q' (he ▸ hb)) fun hx => ?_
      exact h.disjoint q q' (Ne.symm hq') hx hb
  case disjoint =>
    intro q₁ q₂ hne b hb₁ hb₂
    rcases mem_push.mp hb₁ with hb₁ | ⟨hq₁, hba⟩ <;> rcases mem_push.mp hb₂ with hb₂ | ⟨hq₂, hba'⟩
    · exact h.disjoint q₁ q₂ hne hb₁ hb₂
    · exact h.apart q₁ (hba' ▸ hb₁)
    · exact h.apart q₂ (hba ▸ hb₂)
    · exact hne (hq₁.trans hq₂.symm)
  case fresh => exact fun q' b hb => h.fresh q' b (hmem hb)
  case released => exact h.released
  case unreleased => exact fun q' b hb => h.unreleased q' b (hmem hb)
  case object => exact fun q' b hb => h.object q' b (hmem hb)
  case accounted =>
    intro q' p hp
    rcases h.accounted q' p hp with ⟨q₁, b, hb, hpart⟩ | hcount
    · rcases List.mem_cons.mp hb with rfl | hb
      · exact Or.inl ⟨q, b, mem_push.mpr (Or.inr ⟨rfl, rfl⟩), hpart⟩
      · exact Or.inl ⟨q₁, b, mem_push.mpr (Or.inl hb), hpart⟩
    · exact Or.inr hcount
  case idle =>
    intro q' hq'
    have hne : q' ≠ q := by
      rintro rfl
      rw [show (s.setList _ q' msgList).alive = s.alive from rfl, hq] at hq'
      cases hq'
    rw [Function.update_of_ne hne]
    exact h.idle q' hq'

theorem Kept.mem_rest (h : Kept s queue) {q q' : Queue ι} {a b : Nat} {ms : List Nat} (hq : queue q = a :: ms) :
    b ∈ Function.update queue q ms q' ↔ b ∈ queue q' ∧ b ≠ a := by
  have hnodup := (h.queued q).represents.nodup
  rw [hq, List.nodup_cons] at hnodup
  by_cases hq' : q' = q
  · subst hq'
    rw [Function.update_self, hq, List.mem_cons]
    constructor
    · exact fun hb => ⟨Or.inr hb, fun he => hnodup.1 (he ▸ hb)⟩
    · exact fun hb => hb.1.resolve_left hb.2
  · rw [Function.update_of_ne hq']
    refine (and_iff_left_of_imp ?_).symm
    rintro hb rfl
    exact h.disjoint q q' (Ne.symm hq') (hq ▸ List.mem_cons_self) hb

theorem Kept.inHand (h : Kept s queue) {q : Queue ι} {a : Nat} {ms : List Nat} (hq : queue q = a :: ms)
    (halive : s.alive (dataOf q) = true) {links : Links Nat} {msgList : ReceiveMessageDataList Nat}
    (hrest : Queued { s.memory with links := links } msgList ms)
    (hframe : ∀ b, b ∉ a :: ms → links b = s.memory.links b) :
    InHand (s.setList { s.memory with links := links } q msgList) (Function.update queue q ms) a := by
  have hhead : a ∈ queue q := hq ▸ List.mem_cons_self
  have hmem : ∀ {q' b}, b ∈ a :: Function.update queue q ms q' → ∃ q'', b ∈ queue q'' := by
    intro q' b hb
    rcases List.mem_cons.mp hb with rfl | hb
    · exact ⟨q, hhead⟩
    · exact ⟨q', ((h.mem_rest hq).mp hb).1⟩
  constructor
  case queued =>
    intro q'
    by_cases hq' : q' = q
    · subst hq'
      simpa only [Process.setList, Function.update_self] using hrest
    · simp only [Process.setList, Function.update_of_ne hq']
      refine (h.queued q').frame ?_ (fun _ _ => rfl)
      intro b hb
      exact hframe b fun hx => h.disjoint q q' (Ne.symm hq') (hq ▸ hx) hb
  case disjoint =>
    intro q₁ q₂ hne b hb₁ hb₂
    exact h.disjoint q₁ q₂ hne ((h.mem_rest hq).mp hb₁).1 ((h.mem_rest hq).mp hb₂).1
  case apart => exact fun q' ha => ((h.mem_rest hq).mp ha).2 rfl
  case live => exact (h.queued q).referenced a hhead
  case fresh =>
    intro q' b hb
    obtain ⟨q'', hb⟩ := hmem hb
    exact h.fresh q'' b hb
  case released => exact h.released
  case unreleased =>
    intro q' b hb
    obtain ⟨q'', hb⟩ := hmem hb
    exact h.unreleased q'' b hb
  case object =>
    intro q' b hb
    obtain ⟨q'', hb⟩ := hmem hb
    exact h.object q'' b hb
  case accounted =>
    intro q' p hp
    rcases h.accounted q' p hp with ⟨q'', b, hb, hpart⟩ | hcount
    · refine Or.inl ⟨q'', b, ?_, hpart⟩
      by_cases hba : b = a
      · exact List.mem_cons.mpr (Or.inl hba)
      · exact List.mem_cons_of_mem a ((h.mem_rest hq).mpr ⟨hb, hba⟩)
    · exact Or.inr hcount
  case idle => exact idle_update h halive ms

theorem stepTakeRequest_kept (h : Kept s queue) {serviceData : ι}
    (halive : s.alive (.service serviceData) = true) :
    ∃ t queue', stepTakeRequest s serviceData = some t ∧ Kept t queue' := by
  have hqueued := h.queued (.request serviceData)
  cases hq : queue (.request serviceData) with
  | nil =>
      rw [hq] at hqueued
      have hsame : s.setList s.memory (.request serviceData) (s.list (.request serviceData)) = s := by
        simp only [Process.setList, Function.update_eq_self]
      refine ⟨s, queue, ?_, h⟩
      simp only [stepTakeRequest, pop_empty hqueued, Option.bind_some, hsame]
  | cons a ms =>
      rw [hq] at hqueued
      obtain ⟨links, msgList, hpop, hrest, hframe⟩ := pop_cons hqueued
      have hinHand := h.inHand hq halive hrest hframe
      obtain ⟨memory, msgList', happend, hkept⟩ := hinHand.push (q := .response serviceData) halive
      refine ⟨_, _, ?_, hkept⟩
      simp only [stepTakeRequest, hpop, Option.bind_some, happend, Option.map_some]

structure Arrived (s : Reception.State ι ω) (q : Queue ι) (r : Reception.State ι ω × Option Nat) : Prop where
  links : r.1.memory.links = s.memory.links
  object : r.1.memory.object = generate s.memory.object s.next
  kept : ∀ x ∈ s.allocated, x ∈ r.1.allocated
  noted : (q, .message s.next) ∈ r.1.allocated

omit [DecidableEq ι] in
theorem sample_arrived {z : ZeSerializer S B D} (s : Reception.State ι ω) (q : Queue ι) (sample : ZenohSample B)
    (recvTs : Int) {alloc : Reception.Allocations} (h : alloc.recvData = true) :
    Arrived s q (Reception.generateRecvSampleMsgData z s q sample recvTs alloc) := by
  unfold Reception.generateRecvSampleMsgData
  rw [if_pos h]
  cases hpayload : alloc.payload with
  | false => constructor <;> simp +contextual [Reception.State.zenohPicoDataGenerate]
  | true =>
      cases hget : Reception.readAttachment z sample.attachment alloc with
      | none =>
          constructor <;>
            simp +contextual [Reception.State.zenohPicoDataGenerate, Reception.State.allocate,
              Reception.State.free]
      | some attachment =>
          constructor <;>
            simp +contextual [Reception.State.zenohPicoDataGenerate, Reception.State.allocate,
              Reception.State.fill]

omit [DecidableEq ι] in
theorem query_arrived {z : ZeSerializer S B D} (s : Reception.State ι ω) (q : Queue ι) (query : ZenohQuery ω B)
    (recvTs : Int) {alloc : Reception.Allocations} (h : alloc.recvData = true) :
    Arrived s q (Reception.generateRecvQueryMsgData z s q query recvTs alloc) := by
  unfold Reception.generateRecvQueryMsgData
  rw [if_pos h]
  cases hpayload : alloc.payload with
  | false => constructor <;> simp +contextual [Reception.State.zenohPicoDataGenerate]
  | true =>
      cases hget : Reception.readAttachment z query.attachment alloc with
      | none =>
          cases hkeyexpr : alloc.keyexpr <;> constructor <;>
            simp +contextual [Reception.State.zenohPicoDataGenerate, Reception.State.allocate,
              Reception.State.free]
      | some attachment =>
          cases hkeyexpr : alloc.keyexpr <;> constructor <;>
            simp +contextual [Reception.State.zenohPicoDataGenerate, Reception.State.allocate,
              Reception.State.fill]

omit [DecidableEq ι] in
theorem generation_cases (z : ZeSerializer S B D) (s : Reception.State ι ω) (l : Reception.Label ι ω B) :
    (generation z s l = none ∧ UnfailingCall z l) ∨ ∃ q r, generation z s l = some (q, r) ∧
      ((UnfailingCall z l ∧ (r = (s, none) ∨ (Finished s q r ∧ Arrived s q r))) ∨
        (¬UnfailingCall z l ∧ Leaked s q r ∧ Arrived s q r)) := by
  have hsample : ∀ q sample recvTs alloc, (Reception.Unfailing z sample.attachment alloc ∧
      (Reception.generateRecvSampleMsgData z s q sample recvTs alloc = (s, none) ∨
        (Finished s q (Reception.generateRecvSampleMsgData z s q sample recvTs alloc) ∧
          Arrived s q (Reception.generateRecvSampleMsgData z s q sample recvTs alloc)))) ∨
      (¬Reception.Unfailing z sample.attachment alloc ∧
        Leaked s q (Reception.generateRecvSampleMsgData z s q sample recvTs alloc) ∧
        Arrived s q (Reception.generateRecvSampleMsgData z s q sample recvTs alloc)) := by
    intro q sample recvTs alloc
    by_cases hu : Reception.Unfailing z sample.attachment alloc
    · refine Or.inl ⟨hu, ?_⟩
      cases hr : alloc.recvData with
      | false => exact Or.inl (by simp [Reception.generateRecvSampleMsgData, hr])
      | true =>
          refine (Reception.sample_unfailing hu).imp_right fun hf => ⟨hf, sample_arrived s q sample recvTs hr⟩
    · exact Or.inr ⟨hu, Reception.sample_failing hu,
        sample_arrived s q sample recvTs (Classical.not_imp.mp hu).1⟩
  cases l with
  | subscriptionData sample ctx recvTs alloc =>
      cases ctx with
      | none => exact Or.inl ⟨rfl, fun h => by cases h⟩
      | some subData =>
          refine Or.inr ⟨_, _, rfl, ?_⟩
          rcases hsample (.message subData) sample recvTs alloc with ⟨hu, hr⟩ | ⟨hu, hr⟩
          · exact Or.inl ⟨fun _ => hu, hr⟩
          · exact Or.inr ⟨fun h => hu (h rfl), hr⟩
  | reply reply ctx recvTs alloc =>
      cases reply with
      | none => exact Or.inl ⟨rfl, fun _ h => by cases h⟩
      | some sample =>
          cases ctx with
          | none => exact Or.inl ⟨rfl, fun _ _ h => by cases h⟩
          | some clientData =>
              refine Or.inr ⟨_, _, rfl, ?_⟩
              rcases hsample (.response clientData) sample recvTs alloc with ⟨hu, hr⟩ | ⟨hu, hr⟩
              · exact Or.inl ⟨fun _ h _ => Option.some.inj h ▸ hu, hr⟩
              · exact Or.inr ⟨fun h => hu (h sample rfl rfl), hr⟩
  | request query ctx recvTs alloc =>
      cases ctx with
      | none => exact Or.inl ⟨rfl, fun h => by cases h⟩
      | some serviceData =>
          refine Or.inr ⟨_, _, rfl, ?_⟩
          by_cases hu : Reception.Unfailing z query.attachment alloc
          · refine Or.inl ⟨fun _ => hu, ?_⟩
            cases hr : alloc.recvData with
            | false => exact Or.inl (by simp [Reception.generateRecvQueryMsgData, hr])
            | true =>
                exact (Reception.query_unfailing hu).imp_right fun hf => ⟨hf, query_arrived s _ query recvTs hr⟩
          · exact Or.inr ⟨fun h => hu (h rfl), Reception.query_failing hu,
              query_arrived s _ query recvTs (Classical.not_imp.mp hu).1⟩

omit [DecidableEq ι] in
theorem Kept.received (h : Kept s queue) {q : Queue ι} {r : Reception.State ι ω × Option Nat}
    (hf : Finished s.heap q r) (ha : Arrived s.heap q r) : InHand (s.receive r) queue s.next := by
  have hold : ∀ {q' b}, b ∈ queue q' → b ≠ s.next := fun hb => Nat.ne_of_lt (h.fresh _ _ hb)
  have hlinks : r.1.memory.links = s.memory.links := ha.links
  have hreleased : r.1.memory.released = s.memory.released := hf.released
  have hobject : ∀ b, b ≠ s.next → r.1.memory.object b = s.memory.object b := by
    intro b hb
    rw [ha.object]
    exact Function.update_of_ne hb ..
  have hparts : ∀ b, b ≠ s.next → r.1.memory.parts b = s.memory.parts b :=
    fun b hb => parts_congr_at (hf.content b hb)
  constructor
  case queued =>
    intro q'
    exact (h.queued q').frame (fun b _ => congrFun hlinks b) fun b hb => hobject b (hold hb)
  case disjoint => exact h.disjoint
  case apart => exact fun q' hb => hold hb rfl
  case live =>
    change r.1.memory.object s.next = .live 1
    rw [ha.object]
    exact Function.update_self ..
  case fresh =>
    intro q' b hb
    change b < r.1.next
    rw [hf.next]
    rcases List.mem_cons.mp hb with rfl | hb
    · exact Nat.lt_succ_self _
    · exact Nat.lt_succ_of_lt (h.fresh q' b hb)
  case released =>
    intro p hp
    change owner p < r.1.next
    rw [hf.next]
    exact Nat.lt_succ_of_lt (h.released p (hreleased ▸ hp))
  case unreleased =>
    intro q' b hb p hp hm
    have hm' : p ∈ s.memory.released := hreleased ▸ hm
    rcases List.mem_cons.mp hb with rfl | hb
    · have hlt := h.released p hm'
      rw [owner_of_mem hp] at hlt
      exact Nat.lt_irrefl _ hlt
    · have hp' : p ∈ s.memory.parts b := hparts b (hold hb) ▸ hp
      exact h.unreleased q' b hb p hp' hm'
  case object =>
    intro q' b hb
    rcases List.mem_cons.mp hb with rfl | hb
    · exact ⟨q, ha.noted⟩
    · obtain ⟨q'', hnoted⟩ := h.object q' b hb
      exact ⟨q'', ha.kept _ hnoted⟩
  case accounted =>
    intro q' p hp
    change _ ∨ r.1.memory.released.count p = 1
    rw [hreleased]
    rcases hf.allocated q' p hp with hp | ⟨-, hp⟩
    · rcases h.accounted q' p hp with ⟨q'', b, hb, hpart⟩ | hcount
      · exact Or.inl ⟨q'', b, List.mem_cons_of_mem _ hb, (hparts b (hold hb)).symm ▸ hpart⟩
      · exact Or.inr hcount
    · exact Or.inl ⟨q, s.next, List.mem_cons_self, hp⟩
  case idle => exact h.idle

omit [DecidableEq ι] in
theorem Kept.received_leaks (h : Kept s queue) {q : Queue ι} {r : Reception.State ι ω × Option Nat}
    (hl : Leaked s.heap q r) (ha : Arrived s.heap q r) : ¬NoLeak (s.receive r) := by
  have hkept : .message s.next ∉ s.memory.released :=
    fun hm => Nat.lt_irrefl _ (h.released (.message s.next) hm)
  intro hn
  rcases hn q (.message s.next) ha.noted with ⟨⟨q', xs, hxs, b, hb, hpart⟩, -⟩ | ⟨-, hcount⟩
  · obtain rfl := message_mem_parts.mp hpart
    have hxs' : Represents s.memory.links (s.list q') xs :=
      hxs.frame fun c _ => (congrFun ha.links c).symm
    have hsame := Lib.LinkedSegment.chain_unique hxs'.chain (h.queued q').represents.chain
    exact Nat.lt_irrefl _ (h.fresh q' s.next (hsame ▸ hb))
  · have hpos : 0 < r.1.memory.released.count (.message s.next) := Nat.lt_of_lt_of_eq Nat.one_pos hcount.symm
    exact hkept (hl.released (List.count_pos_iff.mp hpos))

theorem stepArrive_kept {z : ZeSerializer S B D} (h : Kept s queue) {l : Reception.Label ι ω B}
    (hq : (generation z s.heap l).all fun g => s.alive (dataOf g.1)) :
    ∃ t, stepArrive z s l = some t ∧
      ((UnfailingCall z l ∧ ∃ queue', Kept t queue') ∨ (¬UnfailingCall z l ∧ ¬NoLeak t)) := by
  rcases generation_cases z s.heap l with ⟨hnone, hu⟩ | ⟨q, r, hsome, hcases⟩
  · exact ⟨s, by simp only [stepArrive, hnone], Or.inl ⟨hu, queue, h⟩⟩
  · rw [hsome] at hq
    have halive : s.alive (dataOf q) = true := hq
    rcases hcases with ⟨hu, rfl | ⟨hf, ha⟩⟩ | ⟨hu, hl, ha⟩
    · exact ⟨s, by simp only [stepArrive, hsome]; rfl, Or.inl ⟨hu, queue, h⟩⟩
    · obtain ⟨memory, msgList, happend, hkept⟩ := (h.received hf ha).push (q := q) halive
      have hreturned : r.2 = some s.next := hf.returned
      refine ⟨(s.receive r).setList memory q msgList, ?_, Or.inl ⟨hu, _, hkept⟩⟩
      simp only [stepArrive, hsome, hreturned, happend, Option.map_some]
    · exact ⟨s.receive r, by simp only [stepArrive, hsome, hl.returned], Or.inr ⟨hu, h.received_leaks hl ha⟩⟩

end Invariant

section Runs

variable {z : ZeSerializer S B D}

theorem exec_sound {s t : Process ι ω} {queue : Queue ι → List Nat} (h : Kept s queue)
    {l : Label ι ω R Res B} (hl : enabled z s l = true) (hs : exec z s l = some t) :
    (Sound z s l ∧ ∃ queue', Kept t queue') ∨ (¬Sound z s l ∧ ¬NoLeak t) := by
  cases l with
  | create data =>
      cases hs
      have hdead : s.alive data = false := by simpa [enabled] using hl
      exact Or.inl ⟨fun _ => trivial, queue, stepCreate_kept h hdead⟩
  | arrive l =>
      obtain ⟨t', ht', hcases⟩ := stepArrive_kept h hl
      obtain rfl := Option.some.inj (ht'.symm.trans hs)
      rcases hcases with ⟨hu, hkept⟩ | ⟨hu, hleaks⟩
      · exact Or.inl ⟨fun _ => hu, hkept⟩
      · exact Or.inr ⟨fun hsound => hu (hsound hl), hleaks⟩
  | call data call =>
      obtain ⟨halive, zs, ys, ws, htakes, hreleased, hsub, hiff⟩ := stepCall_takes h hs
      have hqueue : ∀ xs, Queued s.memory (s.list (callQueue data call)) xs → xs = queue (callQueue data call) :=
        fun xs hxs => queued_unique hxs (h.queued _)
      by_cases hw : ws = zs
      · subst hw
        refine Or.inl ⟨?_, _, htakes.kept h hreleased ?_⟩
        · intro _ xs hxs
          rw [hqueue xs hxs]
          exact hiff.mp rfl
        · intro q' hq'
          rw [halive] at hq'
          exact idle_update h hl ys q' hq'
      · refine Or.inr ⟨?_, htakes.leaks h hreleased hsub hw⟩
        intro hsound
        exact hw (hiff.mpr (hsound hl _ (h.queued _)))
  | takeRequest serviceData =>
      obtain ⟨t', queue', ht', hkept⟩ := stepTakeRequest_kept h hl
      obtain rfl := Option.some.inj (ht'.symm.trans hs)
      exact Or.inl ⟨fun _ => trivial, queue', hkept⟩
  | destroy data =>
      cases data with
      | subscription subData =>
          obtain ⟨t', ht', halive, htakes, hreleased⟩ := stepDestroy_subscription h subData
          obtain rfl := Option.some.inj (ht'.symm.trans hs)
          have hempty := empty_iff (h.queued (.message subData)).represents
          have hnone : t'.memory.released = s.memory.released ++ [].flatMap s.memory.parts := by
            rw [hreleased, List.flatMap_nil, List.append_nil]
          cases hq : queue (.message subData) with
          | nil =>
              rw [hq] at hempty
              refine Or.inl ⟨fun _ => hempty, _, htakes.kept h (by rw [hq, hnone]) ?_⟩
              intro q' hq'
              rw [halive] at hq'
              refine idle_retire h (q := q') ?_ ?_ hq'
              · intro q hqd
                cases q with
                | message => cases hqd; simp
                | response | request => cases hqd
              · intro q hqd
                have hne : q ≠ .message subData := by
                  rintro rfl
                  exact hqd rfl
                rw [Function.update_of_ne hne]
          | cons a ms =>
              rw [hq] at hempty
              refine Or.inr ⟨?_, htakes.leaks h hnone (List.nil_sublist _) (by rw [hq]; simp)⟩
              intro hsound
              have hsound' : recvMsgListEmpty (s.list (.message subData)) = true := hsound hl
              rw [hempty] at hsound'
              cases hsound'
      | service serviceData =>
          obtain ⟨t', ht', hkept⟩ := stepDestroy_service h serviceData hl
          obtain rfl := Option.some.inj (ht'.symm.trans hs)
          exact Or.inl ⟨fun _ => trivial, _, hkept⟩

theorem Kept.safe {s : Process ι ω} {queue : Queue ι → List Nat} (h : Kept s queue) : Safe z R Res s := by
  intro l hl hknown
  cases l with
  | create data => rfl
  | arrive l =>
      obtain ⟨t, ht, -⟩ := stepArrive_kept h hl
      simp [exec, ht]
  | call data call =>
      have hunknown := hknown data call rfl _ (h.queued _)
      obtain ⟨r, hrun⟩ := run_returns z (h.queued _) (h.length_le _) hunknown
      simp [exec, stepCall, hrun]
  | takeRequest serviceData =>
      obtain ⟨t, queue', ht, -⟩ := stepTakeRequest_kept h hl
      simp [exec, ht]
  | destroy data =>
      cases data with
      | subscription subData =>
          obtain ⟨t, ht, -⟩ := stepDestroy_subscription h subData
          simp [exec, ht]
      | service serviceData =>
          obtain ⟨t, ht, -⟩ := stepDestroy_service h serviceData hl
          simp [exec, ht]

def initial : Process ι ω where
  memory := Reception.initial.memory (ι := ι)
  next := 0
  allocated := []
  list _ := recvMsgListInit
  alive _ := false

omit [DecidableEq ι] in
theorem initial_kept : Kept (initial : Process ι ω) fun _ => [] where
  queued _ := ⟨init_represents _, fun _ h => by cases h⟩
  disjoint _ _ _ _ h := by cases h
  fresh _ _ h := by cases h
  released _ h := by cases h
  unreleased _ _ h := by cases h
  object _ _ h := by cases h
  accounted _ _ h := by cases h
  idle _ _ := rfl

/-- Over the whole life of the endpoints of a process, with messages that
arrive, are taken, answered and torn down in any order: nothing is lost and
nothing that is gone is touched, exactly as long as every step is sound. -/
theorem messages_kept_iff (z : ZeSerializer S B D) (ls : List (Label ι ω R Res B)) :
    Always (machine z) (fun s => NoLeak s ∧ Safe z R Res s) initial ls ↔
      Every (machine z) (Sound z) (initial : Process ι ω) ls := by
  have hexec : ∀ s (l : Label ι ω R Res B) t, machine z s l = some t →
      enabled z s l = true ∧ exec z s l = some t := by
    intro s l t ht
    simpa [machine, Option.ite_none_right_eq_some] using ht
  have hstep : ∀ s (l : Label ι ω R Res B) t, (∃ queue, Kept s queue) → Sound z s l → machine z s l = some t →
      ∃ queue, Kept t queue := by
    rintro s l t ⟨queue, hkept⟩ hsound ht
    obtain ⟨hl, he⟩ := hexec s l t ht
    rcases exec_sound hkept hl he with ⟨-, hkept'⟩ | ⟨hunsound, -⟩
    · exact hkept'
    · exact absurd hsound hunsound
  constructor
  · intro h
    refine every_of_always_of_invariant hstep ?_ ⟨_, initial_kept⟩ (always_mono (fun _ hs => hs.1) h)
    rintro s l ⟨queue, hkept⟩ hnext
    by_contra hunsound
    have hl : enabled z s l = true := (Classical.not_imp.mp hunsound).1
    have hreturns : (exec z s l).isSome := by
      refine hkept.safe l hl ?_
      rintro data call rfl xs hxs hunknown
      refine hunsound fun _ xs' hxs' => ?_
      rw [queued_unique hxs' hxs]
      exact unknown_accepted z hunknown
    obtain ⟨t, ht⟩ := Option.isSome_iff_exists.mp hreturns
    rcases exec_sound hkept hl ht with ⟨hsound, -⟩ | ⟨-, hleaks⟩
    · exact hunsound hsound
    · exact hleaks (hnext t (by rw [machine, if_pos hl, ht]))
  · intro h
    have hkept : Always (machine z) (fun s => ∃ queue, Kept s queue) (initial : Process ι ω) ls :=
      always_of_every hstep ⟨_, initial_kept⟩ h
    refine always_mono ?_ hkept
    rintro s ⟨queue, hk⟩
    exact ⟨hk.noLeak, hk.safe⟩

end Runs

/-- A request that has been taken is not answered before its service is
destroyed. -/
def unanswered : List (Label Unit Nat UInt8 UInt8 (List (Int ⊕ Slice))) :=
  [.create (.service ()),
    .arrive (.request ⟨3, [0, 1, 0, 0, 7], [.inl 1, .inl 5, .inr (zSliceCopyFromBuf fun _ => 0)]⟩ (some ()) 8
      ⟨⟨true, true⟩, true, true⟩),
    .takeRequest (), .destroy (.service ())]

theorem unanswered_kept : Always (machine valueSerializer)
    (fun s => NoLeak s ∧ Safe valueSerializer UInt8 UInt8 s) initial unanswered := by
  refine (messages_kept_iff valueSerializer unanswered).mpr ?_
  refine ⟨fun _ => trivial, fun _ _ => ⟨fun _ => ?_, fun _ _ => ⟨fun _ => trivial, fun _ _ =>
    ⟨fun _ => trivial, fun _ _ => trivial⟩⟩⟩⟩
  exact fun _ _ => ⟨rfl, by decide⟩

end RmwZenohPico.MessageLife
