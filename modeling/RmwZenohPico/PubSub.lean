import RmwZenohPico.Lib.LabelledMachine
import RmwZenohPico.Subscription

namespace RmwZenohPico.PubSub

open Lib.LabelledMachine RmwTypes Attachment RosMessage Service Subscription

variable {T R S B D : Type}

structure Publication (R B : Type) where
  rosMessage : R
  sequenceNum : Int
  payload : List UInt8
  attachment : B

/-- Where a thread stands in rmw_zenoh_pico_publish: outside, waiting for the
mutex with the serialized message, holding it, with the number increased, with
the attachment generated, and about to release it. -/
inductive Pc (R B : Type)
  | idle
  | serialized (rosMessage : R) (msgBytes : List UInt8)
  | locked (rosMessage : R) (msgBytes : List UInt8)
  | counted (rosMessage : R) (msgBytes : List UInt8)
  | stamped (rosMessage : R) (msgBytes : List UInt8) (attachment : B)
  | leaving (ret : RmwRet)

structure Topic (T R B : Type) where
  attachment : AttachmentData
  mutex : Option T
  pc : T → Pc R B
  wire : List (Publication R B)
  puts : List (Publication R B)
  subscription : SubData R Unit
  taken : List (R × RmwMessageInfo)

inductive Label (T R : Type)
  | serialize (t : T) (rosMessage : R)
  | lock (t : T)
  | sequenceNumInc (t : T)
  | attachmentGen (t : T) (now : Int) (failed : Bool)
  | put (t : T) (accepted : Bool)
  | unlock (t : T)
  | deliver (recvTs : Int)
  | takeWithInfo (rosMessage : R) (messageInfo : RmwMessageInfo)

def initial (xxh3 : List Char → XXH128Hash) (topicKey : List Char)
    (callbacks : MessageTypeSupportCallbacks R) : Topic T R B :=
  { attachment := ⟨0, 0, zSliceCopyFromBuf (zenohPicoGenGid xxh3 topicKey)⟩
    mutex := none
    pc := fun _ => .idle
    wire := []
    puts := []
    subscription := ⟨callbacks, []⟩
    taken := [] }

variable [DecidableEq T]

def Topic.goto (s : Topic T R B) (t : T) (pc : Pc R B) : Topic T R B :=
  { s with pc := Function.update s.pc t pc }

/-- The steps of the publishing threads, of the transport and of the taking
thread. Every allocation succeeds; generating an attachment and putting may
fail. -/
def step (z : ZeSerializer S B D) (callbacks : MessageTypeSupportCallbacks R) :
    Machine (Topic T R B) (Label T R)
  | s, .serialize t rosMessage =>
      match s.pc t with
      | .idle => (rmwZenohPicoSerialize callbacks rosMessage true).map fun msgBytes =>
          s.goto t (.serialized rosMessage msgBytes)
      | _ => none
  | s, .lock t =>
      match s.pc t, s.mutex with
      | .serialized rosMessage msgBytes, none =>
          some ({ s with mutex := some t }.goto t (.locked rosMessage msgBytes))
      | _, _ => none
  | s, .sequenceNumInc t =>
      match s.pc t with
      | .locked rosMessage msgBytes =>
          some ({ s with attachment := (attachmentSequenceNumInc s.attachment).1 }.goto t
            (.counted rosMessage msgBytes))
      | _ => none
  | s, .attachmentGen t now failed =>
      match s.pc t with
      | .counted rosMessage msgBytes =>
          let gen := attachmentGen z s.attachment now failed
          let s := { s with attachment := gen.1 }
          match gen.2 with
          | none => some (s.goto t (.leaving .error))
          | some attachment => some (s.goto t (.stamped rosMessage msgBytes attachment))
      | _ => none
  | s, .put t accepted =>
      match s.pc t with
      | .stamped rosMessage msgBytes attachment =>
          if accepted then
            let p : Publication R B := ⟨rosMessage, s.attachment.sequenceNum, msgBytes, attachment⟩
            some ({ s with wire := s.wire ++ [p], puts := s.puts ++ [p] }.goto t (.leaving .ok))
          else some (s.goto t (.leaving .error))
      | _ => none
  | s, .unlock t =>
      match s.pc t with
      | .leaving _ => some ({ s with mutex := none }.goto t .idle)
      | _ => none
  | s, .deliver recvTs =>
      match s.wire with
      | [] => none
      | p :: wire =>
          some { s with
            wire := wire
            subscription :=
              subscriptionDataHandler z s.subscription ⟨p.payload, p.attachment⟩ recvTs ⟨true, true⟩ }
  | s, .takeWithInfo rosMessage messageInfo =>
      let r := rmwZenohPicoTakeOne s.subscription rosMessage (some messageInfo) false
      some { s with
        subscription := r.data
        taken := s.taken ++ if r.taken then r.info.toList.map (r.rosMessage, ·) else [] }

def TakenAs (r : R × RmwMessageInfo) (p : Publication R B) : Prop :=
  r.1 = p.rosMessage ∧ r.2.publicationSequenceNumber = p.sequenceNum

def QueuedAs (m : ReceiveMessageData Unit) (p : Publication R B) : Prop :=
  m.payloadStart = some p.payload ∧ m.payloadSize = p.payload.length ∧
    m.attachment.sequenceNum = p.sequenceNum

/-- The taken messages, those queued and those in flight are the accepted
publications in their order, and the numbers reported increase. -/
structure Delivers (s : Topic T R B) : Prop where
  split : ∃ ts qs, s.puts = ts ++ qs ++ s.wire ∧ List.Forall₂ TakenAs s.taken ts ∧
    List.Forall₂ QueuedAs s.subscription.messageQueue qs
  increasing : (s.taken.map (·.2.publicationSequenceNumber)).Pairwise (· < ·)

structure Authentic (z : ZeSerializer S B D) (callbacks : MessageTypeSupportCallbacks R)
    (p : Publication R B) : Prop where
  payload : rmwZenohPicoSerialize callbacks p.rosMessage true = some p.payload
  attachment : ∃ a, attachmentDataGet z p.attachment = some a ∧ a.sequenceNum = p.sequenceNum

def Pc.critical : Pc R B → Bool
  | .idle | .serialized .. => false
  | _ => true

/-- What a thread relies on: its bytes are the serialized message, and from
the increment to the put no publication has the number it is going to use. -/
def ThreadOk (z : ZeSerializer S B D) (callbacks : MessageTypeSupportCallbacks R) (num : Int)
    (puts : List (Publication R B)) : Pc R B → Prop
  | .idle | .leaving _ => True
  | .serialized r msgBytes | .locked r msgBytes =>
      rmwZenohPicoSerialize callbacks r true = some msgBytes
  | .counted r msgBytes =>
      rmwZenohPicoSerialize callbacks r true = some msgBytes ∧ ∀ p ∈ puts, p.sequenceNum < num
  | .stamped r msgBytes b =>
      Authentic z callbacks ⟨r, num, msgBytes, b⟩ ∧ ∀ p ∈ puts, p.sequenceNum < num

structure Invariant (z : ZeSerializer S B D) (callbacks : MessageTypeSupportCallbacks R)
    (s : Topic T R B) : Prop where
  sameType : s.subscription.callbacks = callbacks
  exclusive : ∀ t, (s.pc t).critical = true → s.mutex = some t
  threads : ∀ t, ThreadOk z callbacks s.attachment.sequenceNum s.puts (s.pc t)
  bounded : ∀ p ∈ s.puts, p.sequenceNum ≤ s.attachment.sequenceNum
  ordered : s.puts.Pairwise fun p p' => p.sequenceNum < p'.sequenceNum
  authentic : ∀ p ∈ s.puts, Authentic z callbacks p
  split : ∃ ts qs, s.puts = ts ++ qs ++ s.wire ∧ List.Forall₂ TakenAs s.taken ts ∧
    List.Forall₂ QueuedAs s.subscription.messageQueue qs

section Steps

variable {z : ZeSerializer S B D} {callbacks : MessageTypeSupportCallbacks R}

theorem ThreadOk.of_not_critical {num num' : Int} {puts puts' : List (Publication R B)} {pc : Pc R B}
    (h : ThreadOk z callbacks num puts pc) (hc : pc.critical = false) :
    ThreadOk z callbacks num' puts' pc := by
  cases pc with
  | idle => trivial
  | serialized r msgBytes => exact h
  | _ => cases hc

omit [DecidableEq T] in
theorem Invariant.others {s : Topic T R B} (h : Invariant z callbacks s) {t u : T}
    (ht : (s.pc t).critical = true) (hu : u ≠ t) : (s.pc u).critical = false := by
  by_contra hc
  have hm := h.exclusive u (by simpa using hc)
  rw [h.exclusive t ht] at hm
  exact hu (Option.some.inj hm).symm

theorem Invariant.threads_update {s : Topic T R B} (h : Invariant z callbacks s) {t : T}
    (ht : (s.pc t).critical = true) {num : Int} {puts : List (Publication R B)} {pc : Pc R B}
    (hpc : ThreadOk z callbacks num puts pc) (u : T) :
    ThreadOk z callbacks num puts (Function.update s.pc t pc u) := by
  by_cases hu : u = t
  · subst hu
    simpa using hpc
  · rw [Function.update_of_ne hu]
    exact (h.threads u).of_not_critical (h.others ht hu)

theorem Invariant.exclusive_update {s : Topic T R B} (h : Invariant z callbacks s)
    {t : T} {mutex : Option T} {pc : Pc R B} (hm : ∀ u, u ≠ t → s.mutex = some u → mutex = some u)
    (hpc : pc.critical = true → mutex = some t) (u : T)
    (hu : (Function.update s.pc t pc u).critical = true) : mutex = some u := by
  by_cases hut : u = t
  · subst hut
    rw [Function.update_self] at hu
    exact hpc hu
  · rw [Function.update_of_ne hut] at hu
    exact hm u hut (h.exclusive u hu)

theorem Invariant.threads_goto {s : Topic T R B} (h : Invariant z callbacks s) {t : T}
    {pc : Pc R B} (hpc : ThreadOk z callbacks s.attachment.sequenceNum s.puts pc) (u : T) :
    ThreadOk z callbacks s.attachment.sequenceNum s.puts (Function.update s.pc t pc u) := by
  by_cases hu : u = t
  · subst hu
    simpa using hpc
  · rw [Function.update_of_ne hu]
    exact h.threads u

theorem step_serialize {s s' : Topic T R B} (h : Invariant z callbacks s) {t : T} {r : R}
    (hs : step z callbacks s (.serialize t r) = some s') : Invariant z callbacks s' := by
  simp only [step] at hs
  split at hs
  · obtain ⟨msgBytes, hb, rfl⟩ := Option.map_eq_some_iff.mp hs
    exact { h with
      exclusive := h.exclusive_update (fun _ _ hm => hm) (fun hc => by cases hc)
      threads := h.threads_goto hb }
  · cases hs

theorem step_lock {s s' : Topic T R B} (h : Invariant z callbacks s) {t : T}
    (hs : step z callbacks s (.lock t) = some s') : Invariant z callbacks s' := by
  simp only [step] at hs
  split at hs
  · rename_i r msgBytes hpc hm
    cases hs
    have ht := h.threads t
    rw [hpc] at ht
    exact { h with
      exclusive := h.exclusive_update (fun u _ hu => by rw [hm] at hu; cases hu) (fun _ => rfl)
      threads := h.threads_goto ht }
  · cases hs

theorem step_sequenceNumInc {s s' : Topic T R B} (h : Invariant z callbacks s) {t : T}
    (hs : step z callbacks s (.sequenceNumInc t) = some s') : Invariant z callbacks s' := by
  simp only [step] at hs
  split at hs
  · rename_i r msgBytes hpc
    cases hs
    have hc : (s.pc t).critical = true := by rw [hpc]; rfl
    have ht := h.threads t
    rw [hpc] at ht
    have hlt : ∀ p ∈ s.puts, p.sequenceNum < s.attachment.sequenceNum + 1 := fun p hp => by
      have hb := h.bounded p hp
      omega
    exact { h with
      exclusive := h.exclusive_update (fun _ _ hm => hm) (fun _ => h.exclusive t hc)
      threads := h.threads_update hc ⟨ht, hlt⟩
      bounded := fun p hp => le_of_lt (hlt p hp) }
  · cases hs

theorem step_attachmentGen (hz : RoundTrips z) {s s' : Topic T R B}
    (h : Invariant z callbacks s) {t : T} {now : Int} {failed : Bool}
    (hs : step z callbacks s (.attachmentGen t now failed) = some s') : Invariant z callbacks s' := by
  simp only [step, attachmentGen_fst] at hs
  split at hs
  · rename_i r msgBytes hpc
    have hc : (s.pc t).critical = true := by rw [hpc]; rfl
    have ht := h.threads t
    rw [hpc] at ht
    split at hs
    · cases hs
      have hok : ThreadOk z callbacks s.attachment.sequenceNum s.puts (.leaving .error) := trivial
      exact { h with
        exclusive := h.exclusive_update (fun _ _ hm => hm) (fun _ => h.exclusive t hc)
        threads := h.threads_goto hok
        bounded := h.bounded }
    · rename_i b hb
      cases hs
      obtain ⟨g, hget, -⟩ := attachmentGen_get hz hb
      have hok : ThreadOk z callbacks s.attachment.sequenceNum s.puts (.stamped r msgBytes b) :=
        ⟨⟨ht.1, _, hget, rfl⟩, ht.2⟩
      exact { h with
        exclusive := h.exclusive_update (fun _ _ hm => hm) (fun _ => h.exclusive t hc)
        threads := h.threads_goto hok
        bounded := h.bounded }
  · cases hs

theorem step_put {s s' : Topic T R B} (h : Invariant z callbacks s) {t : T}
    {accepted : Bool} (hs : step z callbacks s (.put t accepted) = some s') : Invariant z callbacks s' := by
  simp only [step] at hs
  split at hs
  · rename_i r msgBytes b hpc
    have hc : (s.pc t).critical = true := by rw [hpc]; rfl
    have ht := h.threads t
    rw [hpc] at ht
    cases accepted with
    | false =>
        cases hs
        exact { h with
          exclusive := h.exclusive_update (fun _ _ hm => hm) (fun _ => h.exclusive t hc)
          threads := h.threads_goto trivial }
    | true =>
        cases hs
        refine { h with
          exclusive := h.exclusive_update (fun _ _ hm => hm) (fun _ => h.exclusive t hc)
          threads := h.threads_update hc trivial
          bounded := ?_
          ordered := ?_
          authentic := ?_
          split := ?_ }
        · intro p hp
          rcases List.mem_append.mp hp with hp | hp
          · exact h.bounded p hp
          · obtain rfl := List.mem_singleton.mp hp
            exact le_refl _
        · refine List.pairwise_append.mpr ⟨h.ordered, List.pairwise_singleton _ _, ?_⟩
          intro p hp p' hp'
          exact (List.mem_singleton.mp hp') ▸ ht.2 p hp
        · intro p hp
          rcases List.mem_append.mp hp with hp | hp
          · exact h.authentic p hp
          · exact (List.mem_singleton.mp hp) ▸ ht.1
        · obtain ⟨ts, qs, he, hts, hqs⟩ := h.split
          exact ⟨ts, qs, by simp [Topic.goto, he], hts, hqs⟩
  · cases hs

theorem step_unlock {s s' : Topic T R B} (h : Invariant z callbacks s) {t : T}
    (hs : step z callbacks s (.unlock t) = some s') : Invariant z callbacks s' := by
  simp only [step] at hs
  split at hs
  · rename_i ret hpc
    cases hs
    have hm : s.mutex = some t := h.exclusive t (by rw [hpc]; rfl)
    exact { h with
      exclusive := h.exclusive_update
        (fun u hu hu' => absurd (Option.some.inj (hm.symm.trans hu')) (Ne.symm hu))
        (fun hc => by cases hc)
      threads := h.threads_goto trivial }
  · cases hs

omit [DecidableEq T] in
theorem handler_queues {p : Publication R B} (hp : Authentic z callbacks p) (data : SubData R Unit)
    (recvTs : Int) :
    ∃ m, QueuedAs m p ∧
      subscriptionDataHandler z data ⟨p.payload, p.attachment⟩ recvTs ⟨true, true⟩ =
        { data with messageQueue := data.messageQueue ++ [m] } := by
  obtain ⟨a, ha, hn⟩ := hp.attachment
  refine ⟨⟨some p.payload, p.payload.length, recvTs, 0, a, .sample, none⟩, ⟨rfl, rfl, hn⟩, ?_⟩
  simp [subscriptionDataHandler, rmwZenohPicoGenerateRecvSampleMsgData, ReceiveAllocations.succeed, ha,
    addNewSubscriptionMessage, MessageQueue.append]

theorem step_deliver {s s' : Topic T R B} (h : Invariant z callbacks s) {recvTs : Int}
    (hs : step z callbacks s (.deliver recvTs) = some s') : Invariant z callbacks s' := by
  obtain ⟨ts, qs, he, hts, hqs⟩ := h.split
  simp only [step] at hs
  split at hs
  · cases hs
  · rename_i p wire hw
    cases hs
    have hp : Authentic z callbacks p := h.authentic p (by simp [he, hw])
    obtain ⟨m, hm, hq⟩ := handler_queues hp s.subscription recvTs
    refine { h with sameType := ?_, split := ?_ }
    · simpa only [hq] using h.sameType
    · refine ⟨ts, qs ++ [p], by simp [he, hw], hts, ?_⟩
      simp only [hq]
      exact List.rel_append hqs (.cons hm .nil)

theorem step_takeWithInfo {s s' : Topic T R B} (hc : CdrInverse callbacks)
    (h : Invariant z callbacks s) {r : R} {info : RmwMessageInfo}
    (hs : step z callbacks s (.takeWithInfo r info) = some s') : Invariant z callbacks s' := by
  obtain ⟨ts, qs, he, hts, hqs⟩ := h.split
  cases hs
  cases hq : s.subscription.messageQueue with
  | nil =>
      simp only [takeOne_empty hq, Bool.false_eq_true, if_false, List.append_nil]
      exact h
  | cons m ms =>
      rw [hq] at hqs
      obtain ⟨p, qs, hm, hms, rfl⟩ := List.forall₂_cons_left_iff.mp hqs
      have hp : Authentic z callbacks p := h.authentic p (by simp [he])
      have hd : rmwZenohPicoDeserialize m.payloadStart m.payloadSize s.subscription.callbacks r =
          (true, p.rosMessage) := by
        rw [hm.1, hm.2.1, h.sameType]
        exact deserialize_serialize hc hp.payload r
      obtain ⟨info', ht, hinfo⟩ := takeOne_cons hq hd info false
      refine { h with sameType := ?_, split := ?_ }
      · simpa only [ht] using h.sameType
      · refine ⟨ts ++ [p], qs, by simp [he], ?_, ?_⟩
        · simp only [ht, if_true, Option.toList_some, List.map_cons, List.map_nil]
          exact List.rel_append hts (.cons ⟨rfl, hinfo.trans hm.2.2⟩ .nil)
        · simpa only [ht] using hms

theorem step_invariant (hz : RoundTrips z) (hc : CdrInverse callbacks) (s : Topic T R B)
    (l : Label T R) (s' : Topic T R B) (h : Invariant z callbacks s)
    (hs : step z callbacks s l = some s') : Invariant z callbacks s' := by
  cases l with
  | serialize t r => exact step_serialize h hs
  | lock t => exact step_lock h hs
  | sequenceNumInc t => exact step_sequenceNumInc h hs
  | attachmentGen t now failed => exact step_attachmentGen hz h hs
  | put t accepted => exact step_put h hs
  | unlock t => exact step_unlock h hs
  | deliver recvTs => exact step_deliver h hs
  | takeWithInfo r info => exact step_takeWithInfo hc h hs

omit [DecidableEq T] in
theorem taken_numbers {taken : List (R × RmwMessageInfo)} {ts : List (Publication R B)}
    (h : List.Forall₂ TakenAs taken ts) :
    taken.map (·.2.publicationSequenceNumber) = ts.map (·.sequenceNum) := by
  induction h with
  | nil => rfl
  | cons hr _ ih => rw [List.map_cons, List.map_cons, hr.2, ih]

omit [DecidableEq T] in
theorem Invariant.delivers {s : Topic T R B} (h : Invariant z callbacks s) : Delivers s := by
  refine ⟨h.split, ?_⟩
  obtain ⟨ts, qs, he, hts, -⟩ := h.split
  have ho := h.ordered
  rw [he, List.append_assoc] at ho
  rw [taken_numbers hts, List.pairwise_map]
  exact (List.pairwise_append.mp ho).1

omit [DecidableEq T] in
theorem initial_invariant (xxh3 : List Char → XXH128Hash) (topicKey : List Char) :
    Invariant z callbacks (initial xxh3 topicKey callbacks : Topic T R B) where
  sameType := rfl
  exclusive _ hc := by cases hc
  threads _ := trivial
  bounded _ hp := by cases hp
  ordered := List.Pairwise.nil
  authentic _ hp := by cases hp
  split := ⟨[], [], rfl, .nil, .nil⟩

end Steps

/-- Nothing is lost, repeated or reordered between the puts and the takes, and
every taken message is the published one under its own number. -/
theorem publications_delivered {z : ZeSerializer S B D} (hz : RoundTrips z)
    {callbacks : MessageTypeSupportCallbacks R} (hc : CdrInverse callbacks)
    (xxh3 : List Char → XXH128Hash) (topicKey : List Char) (ls : List (Label T R)) (s : Topic T R B)
    (hr : run (step z callbacks) (initial xxh3 topicKey callbacks) ls = some s) : Delivers s :=
  (invariant (step_invariant hz hc) (initial_invariant xxh3 topicKey) ⟨ls, hr⟩).delivers

def failedAndPublished : List (Label Bool UInt8) :=
  [.serialize false 7, .serialize true 9, .lock false, .sequenceNumInc false,
    .attachmentGen false 5 false, .put false false, .unlock false, .lock true, .sequenceNumInc true,
    .attachmentGen true 6 false, .put true true, .deliver 7, .unlock true,
    .takeWithInfo 0 ⟨0, 0, 0, 0, ⟨none, fun _ => 0⟩, false⟩]

theorem publications_delivered_after_failure :
    ∃ s, run (step valueSerializer byteCallbacks) (initial (fun _ => ⟨0, 0⟩) [] byteCallbacks)
        failedAndPublished = some s ∧ Delivers s ∧
      s.taken.map (fun r => (r.1, r.2.publicationSequenceNumber)) = [(9, 2)] := by
  refine ⟨_, rfl, ?_, by decide⟩
  exact publications_delivered valueSerializer_roundTrips byteCallbacks_inverse (fun _ => ⟨0, 0⟩) []
    failedAndPublished _ rfl

end RmwZenohPico.PubSub
