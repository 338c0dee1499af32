import RmwZenohPico.PubSub

namespace RmwZenohPico.MessageIdentity

open Lib.LabelledMachine RmwTypes Attachment RosMessage Subscription
open PubSub (Topic Publication Pc ThreadOk)

variable {P Q T R S B D : Type}

/-- A publication is named by its publisher and its place among the
publications of that publisher. -/
abbrev Source (P : Type) := P × Nat

structure Reader (P R : Type) where
  data : SubData R Unit
  sources : List (Source P)

/-- Publishers and subscriptions of any nodes. Of each topic it is the
publishing side that is used here. The received messages are recorded as they
are taken. -/
structure Network (P Q T R B : Type) where
  publishers : P → Topic T R B
  readers : Q → Reader P R
  received : List (RmwMessageInfo × Source P)

inductive Label (P Q T R : Type)
  | publish (p : P) (l : PubSub.Label T R)
  | deliver (q : Q) (source : Source P) (recvTs : Int) (alloc : ReceiveAllocations)
  | takeWithInfo (q : Q) (rosMessage : R) (messageInfo : RmwMessageInfo)

def initial (xxh3 : List Char → XXH128Hash) (topicKey : P → List Char)
    (callbacks : P → MessageTypeSupportCallbacks R) (readerCallbacks : Q → MessageTypeSupportCallbacks R) :
    Network P Q T R B :=
  { publishers := fun p => PubSub.initial xxh3 (topicKey p) (callbacks p)
    readers := fun q => ⟨⟨readerCallbacks q, []⟩, []⟩
    received := [] }

def publishing : PubSub.Label T R → Bool
  | .deliver _ | .takeWithInfo .. => false
  | _ => true

variable [DecidableEq P] [DecidableEq Q] [DecidableEq T]

/-- A publication may arrive anywhere, at any time and more than once. -/
def step (z : ZeSerializer S B D) (callbacks : P → MessageTypeSupportCallbacks R) :
    Machine (Network P Q T R B) (Label P Q T R)
  | s, .publish p l =>
      if publishing l then
        (PubSub.step z (callbacks p) (s.publishers p) l).map fun topic =>
          { s with publishers := Function.update s.publishers p topic }
      else none
  | s, .deliver q source recvTs alloc =>
      (s.publishers source.1).puts[source.2]?.map fun pub =>
        let reader := s.readers q
        let sample : ZenohSample B := ⟨pub.payload, pub.attachment⟩
        let data := subscriptionDataHandler z reader.data sample recvTs alloc
        let recvData : Option (ReceiveMessageData Unit) :=
          rmwZenohPicoGenerateRecvSampleMsgData z sample recvTs alloc
        let sources := if recvData.isSome then reader.sources ++ [source] else reader.sources
        { s with readers := Function.update s.readers q ⟨data, sources⟩ }
  | s, .takeWithInfo q rosMessage messageInfo =>
      let reader := s.readers q
      let r := rmwZenohPicoTakeOne reader.data rosMessage (some messageInfo) false
      let taken := if r.taken then r.info.toList.zip reader.sources else []
      some { s with
        readers := Function.update s.readers q ⟨r.data, reader.sources.tail⟩
        received := s.received ++ taken }

def Identified (s : Network P Q T R B) : Prop :=
  ∀ x ∈ s.received, ∀ y ∈ s.received, x.1.publisherGid = y.1.publisherGid →
    x.1.publicationSequenceNumber = y.1.publicationSequenceNumber → x.2 = y.2

/-- A put that is accepted carries a number that no other publisher of the
same topic key has published under. -/
def Unshared (topicKey : P → List Char) (s : Network P Q T R B) : Label P Q T R → Prop
  | .publish p (.put _ true) => ∀ p', p' ≠ p → topicKey p' = topicKey p →
      ∀ pub ∈ (s.publishers p').puts, pub.sequenceNum ≠ (s.publishers p).attachment.sequenceNum
  | _ => True

section Publisher

variable {z : ZeSerializer S B D} {callbacks : MessageTypeSupportCallbacks R}

omit [DecidableEq P] [DecidableEq Q] in
theorem publish_cases {s s' : Topic T R B} {l : PubSub.Label T R} (hl : publishing l = true)
    (hs : PubSub.step z callbacks s l = some s') :
    s'.attachment.gid = s.attachment.gid ∧ ∃ t pc, s'.pc = Function.update s.pc t pc ∧
      ((s'.puts = s.puts ∧ ∀ r msgBytes b, pc = .stamped r msgBytes b →
          ∃ now failed, (attachmentGen z s.attachment now failed).2 = some b) ∨
        ∃ r msgBytes b, l = .put t true ∧ s.pc t = .stamped r msgBytes b ∧ pc = .leaving .ok ∧
          s'.puts = s.puts ++ [⟨r, s.attachment.sequenceNum, msgBytes, b⟩]) := by
  cases l with
  | deliver | takeWithInfo => cases hl
  | serialize t r =>
      simp only [PubSub.step] at hs
      split at hs
      · obtain ⟨msgBytes, -, rfl⟩ := Option.map_eq_some_iff.mp hs
        exact ⟨rfl, t, _, rfl, .inl ⟨rfl, fun _ _ _ h => by cases h⟩⟩
      · cases hs
  | lock t | sequenceNumInc t | unlock t =>
      simp only [PubSub.step] at hs
      split at hs
      · cases hs
        exact ⟨rfl, t, _, rfl, .inl ⟨rfl, fun _ _ _ h => by cases h⟩⟩
      · cases hs
  | attachmentGen t now failed =>
      simp only [PubSub.step, attachmentGen_fst] at hs
      split at hs
      · split at hs
        · cases hs
          exact ⟨rfl, t, _, rfl, .inl ⟨rfl, fun _ _ _ h => by cases h⟩⟩
        · rename_i b hb
          cases hs
          refine ⟨rfl, t, _, rfl, .inl ⟨rfl, ?_⟩⟩
          intro r msgBytes b' h
          cases h
          exact ⟨now, failed, hb⟩
      · cases hs
  | put t accepted =>
      simp only [PubSub.step] at hs
      split at hs
      · rename_i r msgBytes b hpc
        cases accepted with
        | false =>
            cases hs
            exact ⟨rfl, t, _, rfl, .inl ⟨rfl, fun _ _ _ h => by cases h⟩⟩
        | true =>
            cases hs
            exact ⟨rfl, t, _, rfl, .inr ⟨r, msgBytes, b, rfl, hpc, rfl, rfl⟩⟩
      · cases hs

omit [DecidableEq P] [DecidableEq Q] in
theorem publish_invariant (hz : RoundTrips z) {s s' : Topic T R B} {l : PubSub.Label T R}
    (hl : publishing l = true) (h : PubSub.Invariant z callbacks s)
    (hs : PubSub.step z callbacks s l = some s') : PubSub.Invariant z callbacks s' := by
  cases l with
  | serialize t r => exact PubSub.step_serialize h hs
  | lock t => exact PubSub.step_lock h hs
  | sequenceNumInc t => exact PubSub.step_sequenceNumInc h hs
  | attachmentGen t now failed => exact PubSub.step_attachmentGen hz h hs
  | put t accepted => exact PubSub.step_put h hs
  | unlock t => exact PubSub.step_unlock h hs
  | deliver | takeWithInfo => cases hl

def SignedWith (z : ZeSerializer S B D) (gid : Gid) (b : B) : Prop :=
  ∃ a, attachmentDataGet z b = some a ∧ a.gid.bytes = (zSliceCopyFromBuf gid).bytes

structure Signed (z : ZeSerializer S B D) (gid : Gid) (s : Topic T R B) : Prop where
  own : s.attachment.gid.bytes = (zSliceCopyFromBuf gid).bytes
  stamped : ∀ t r msgBytes b, s.pc t = .stamped r msgBytes b → SignedWith z gid b
  puts : ∀ pub ∈ s.puts, SignedWith z gid pub.attachment

omit [DecidableEq P] [DecidableEq Q] in
theorem Signed.step (hz : RoundTrips z) {gid : Gid} {s s' : Topic T R B} {l : PubSub.Label T R}
    (hl : publishing l = true) (h : Signed z gid s) (hs : PubSub.step z callbacks s l = some s') :
    Signed z gid s' := by
  obtain ⟨hgid, t, pc, hpc, hcases⟩ := publish_cases hl hs
  have hstamped : (∀ r msgBytes b, pc = .stamped r msgBytes b → SignedWith z gid b) →
      ∀ u r msgBytes b, s'.pc u = .stamped r msgBytes b → SignedWith z gid b := by
    intro hsigned u r msgBytes b hu
    rw [hpc] at hu
    by_cases hut : u = t
    · subst hut
      rw [Function.update_self] at hu
      exact hsigned r msgBytes b hu
    · rw [Function.update_of_ne hut] at hu
      exact h.stamped u r msgBytes b hu
  have hown : s'.attachment.gid.bytes = (zSliceCopyFromBuf gid).bytes := by rw [hgid, h.own]
  rcases hcases with ⟨hputs, hgen⟩ | ⟨r, msgBytes, b, -, hb, rfl, hputs⟩
  · refine ⟨hown, hstamped ?_, by rw [hputs]; exact h.puts⟩
    intro r msgBytes b hb
    obtain ⟨now, failed, hgen⟩ := hgen r msgBytes b hb
    obtain ⟨g, hget, hg⟩ := attachmentGen_get hz hgen
    exact ⟨_, hget, hg.trans h.own⟩
  · refine ⟨hown, hstamped fun _ _ _ h => (by cases h), ?_⟩
    intro pub hpub
    rw [hputs] at hpub
    rcases List.mem_append.mp hpub with hpub | hpub
    · exact h.puts pub hpub
    · obtain rfl := List.mem_singleton.mp hpub
      exact h.stamped t r msgBytes b hb

end Publisher

def NumberOf (s : Network P Q T R B) (source : Source P) (num : Int) : Prop :=
  ∃ pub, (s.publishers source.1).puts[source.2]? = some pub ∧ pub.sequenceNum = num

def Carries (s : Network P Q T R B) (xxh3 : List Char → XXH128Hash) (topicKey : P → List Char)
    (m : ReceiveMessageData Unit) (source : Source P) : Prop :=
  NumberOf s source m.attachment.sequenceNum ∧
    m.attachment.gid.bytes = (zSliceCopyFromBuf (zenohPicoGenGid xxh3 (topicKey source.1))).bytes

structure Invariant (z : ZeSerializer S B D) (xxh3 : List Char → XXH128Hash) (topicKey : P → List Char)
    (callbacks : P → MessageTypeSupportCallbacks R) (s : Network P Q T R B) : Prop where
  publishers : ∀ p, PubSub.Invariant z (callbacks p) (s.publishers p)
  signed : ∀ p, Signed z (zenohPicoGenGid xxh3 (topicKey p)) (s.publishers p)
  unshared : ∀ p p', p ≠ p' → topicKey p = topicKey p' → ∀ pub ∈ (s.publishers p).puts,
    ∀ pub' ∈ (s.publishers p').puts, pub.sequenceNum ≠ pub'.sequenceNum
  queued : ∀ q, List.Forall₂ (Carries s xxh3 topicKey) (s.readers q).data.messageQueue
    (s.readers q).sources
  received : ∀ x ∈ s.received, NumberOf s x.2 x.1.publicationSequenceNumber ∧
    x.1.publisherGid.data = zenohPicoGenGid xxh3 (topicKey x.2.1)

section Steps

variable {z : ZeSerializer S B D} {xxh3 : List Char → XXH128Hash} {topicKey : P → List Char}
  {callbacks : P → MessageTypeSupportCallbacks R}

omit [DecidableEq P] [DecidableEq Q] [DecidableEq T] in
theorem NumberOf.mono {s s' : Network P Q T R B}
    (h : ∀ p, (s.publishers p).puts <+: (s'.publishers p).puts) {source : Source P} {num : Int}
    (hn : NumberOf s source num) : NumberOf s' source num := by
  obtain ⟨pub, hpub, hnum⟩ := hn
  obtain ⟨hlt, hget⟩ := List.getElem?_eq_some_iff.mp hpub
  refine ⟨pub, ?_, hnum⟩
  rw [List.prefix_iff_getElem?.mp (h source.1) _ hlt, hget]

theorem step_publish (hz : RoundTrips z) {s s' : Network P Q T R B} {p : P} {l : PubSub.Label T R}
    (h : Invariant z xxh3 topicKey callbacks s) (hu : Unshared topicKey s (.publish p l))
    (hs : step z callbacks s (.publish p l) = some s') : Invariant z xxh3 topicKey callbacks s' := by
  simp only [step] at hs
  split at hs
  · rename_i hl
    obtain ⟨topic, htopic, rfl⟩ := Option.map_eq_some_iff.mp hs
    have hputs : topic.puts = (s.publishers p).puts ∨ ∃ t pub, l = .put t true ∧
        pub.sequenceNum = (s.publishers p).attachment.sequenceNum ∧
        topic.puts = (s.publishers p).puts ++ [pub] := by
      obtain ⟨-, t, pc, -, hcases⟩ := publish_cases hl htopic
      rcases hcases with ⟨hsame, -⟩ | ⟨r, msgBytes, b, hput, -, -, hnew⟩
      · exact .inl hsame
      · exact .inr ⟨t, _, hput, rfl, hnew⟩
    have hprefix : ∀ p', (s.publishers p').puts <+: (Function.update s.publishers p topic p').puts := by
      refine (Function.forall_update_iff s.publishers
        fun p' topic' => (s.publishers p').puts <+: topic'.puts).mpr ⟨?_, fun p' _ => List.prefix_rfl⟩
      rcases hputs with hsame | ⟨t, pub, -, -, hnew⟩
      · rw [hsame]
      · rw [hnew]
        exact List.prefix_append _ _
    have hfresh : ∀ p', p' ≠ p → topicKey p' = topicKey p → ∀ pub ∈ topic.puts,
        ∀ pub' ∈ (s.publishers p').puts, pub.sequenceNum ≠ pub'.sequenceNum := by
      intro p' hne hkey pub hpub pub' hpub'
      rcases hputs with hsame | ⟨t, new, rfl, hnum, hnew⟩
      · rw [hsame] at hpub
        exact h.unshared p p' hne.symm hkey.symm pub hpub pub' hpub'
      · rw [hnew] at hpub
        rcases List.mem_append.mp hpub with hpub | hpub
        · exact h.unshared p p' hne.symm hkey.symm pub hpub pub' hpub'
        · rw [List.mem_singleton.mp hpub, hnum]
          exact (hu p' hne hkey pub' hpub').symm
    refine ⟨?_, ?_, ?_, ?_, ?_⟩
    · exact (Function.forall_update_iff s.publishers
        fun p' topic' => PubSub.Invariant z (callbacks p') topic').mpr
        ⟨publish_invariant hz hl (h.publishers p) htopic, fun p' _ => h.publishers p'⟩
    · exact (Function.forall_update_iff s.publishers
        fun p' topic' => Signed z (zenohPicoGenGid xxh3 (topicKey p')) topic').mpr
        ⟨(h.signed p).step hz hl htopic, fun p' _ => h.signed p'⟩
    · intro p₁ p₂ hne hkey pub hpub pub' hpub'
      by_cases hp₁ : p₁ = p
      · subst hp₁
        simp only [Function.update_self, Function.update_of_ne hne.symm] at hpub hpub'
        exact hfresh p₂ hne.symm hkey.symm pub hpub pub' hpub'
      · by_cases hp₂ : p₂ = p
        · subst hp₂
          simp only [Function.update_self, Function.update_of_ne hne] at hpub hpub'
          exact (hfresh p₁ hne hkey pub' hpub' pub hpub).symm
        · simp only [Function.update_of_ne hp₁, Function.update_of_ne hp₂] at hpub hpub'
          exact h.unshared p₁ p₂ hne hkey pub hpub pub' hpub'
    · intro q
      exact (h.queued q).imp fun m source hm => ⟨hm.1.mono hprefix, hm.2⟩
    · intro x hx
      obtain ⟨hnum, hgid⟩ := h.received x hx
      exact ⟨hnum.mono hprefix, hgid⟩
  · cases hs

omit [DecidableEq P] [DecidableEq Q] [DecidableEq T] in
theorem handler_cases (data : SubData R Unit) (sample : ZenohSample B) (recvTs : Int)
    (alloc : ReceiveAllocations) :
    ((rmwZenohPicoGenerateRecvSampleMsgData z sample recvTs alloc : Option (ReceiveMessageData Unit)) = none ∧
        subscriptionDataHandler z data sample recvTs alloc = data) ∨
      ∃ m : ReceiveMessageData Unit, rmwZenohPicoGenerateRecvSampleMsgData z sample recvTs alloc = some m ∧
        attachmentDataGet z sample.attachment = some m.attachment ∧
        subscriptionDataHandler z data sample recvTs alloc =
          { data with messageQueue := data.messageQueue ++ [m] } := by
  cases hm : (rmwZenohPicoGenerateRecvSampleMsgData z sample recvTs alloc :
      Option (ReceiveMessageData Unit)) with
  | none => exact .inl ⟨rfl, by simp [subscriptionDataHandler, hm]⟩
  | some m =>
      refine .inr ⟨m, rfl, ?_, ?_⟩
      · simp only [rmwZenohPicoGenerateRecvSampleMsgData, Option.ite_none_right_eq_some,
          Option.map_eq_some_iff] at hm
        obtain ⟨-, a, ha, rfl⟩ := hm
        exact ha
      · simp [subscriptionDataHandler, hm, addNewSubscriptionMessage, MessageQueue.append]

theorem step_deliver {s s' : Network P Q T R B} {q : Q} {source : Source P} {recvTs : Int}
    {alloc : ReceiveAllocations} (h : Invariant z xxh3 topicKey callbacks s)
    (hs : step z callbacks s (.deliver q source recvTs alloc) = some s') :
    Invariant z xxh3 topicKey callbacks s' := by
  obtain ⟨pub, hpub, rfl⟩ := Option.map_eq_some_iff.mp hs
  refine { h with queued := ?_, received := h.received }
  refine (Function.forall_update_iff s.readers fun _ reader => List.Forall₂ (Carries s xxh3 topicKey)
    reader.data.messageQueue reader.sources).mpr ⟨?_, fun q' _ => h.queued q'⟩
  have hmem : pub ∈ (s.publishers source.1).puts := List.mem_of_getElem? hpub
  rcases handler_cases (z := z) (s.readers q).data ⟨pub.payload, pub.attachment⟩ recvTs alloc with
    ⟨hnone, hdata⟩ | ⟨m, hsome, hm, hdata⟩
  · simpa [hnone, hdata] using h.queued q
  · obtain ⟨a, ha, hnum⟩ := ((h.publishers source.1).authentic pub hmem).attachment
    obtain ⟨a', ha', hgid⟩ := (h.signed source.1).puts pub hmem
    cases ha.symm.trans hm
    cases ha'.symm.trans hm
    simp only [hsome, hdata, Option.isSome_some, if_true]
    exact List.rel_append (h.queued q) (.cons ⟨⟨pub, hpub, hnum.symm⟩, hgid⟩ .nil)

omit [DecidableEq P] [DecidableEq Q] [DecidableEq T] in
theorem takeOne_info {data : SubData R Unit} {m : ReceiveMessageData Unit}
    {ms : List (ReceiveMessageData Unit)} (hq : data.messageQueue = m :: ms) (rosMessage : R)
    (info : RmwMessageInfo) :
    (rmwZenohPicoTakeOne data rosMessage (some info) false).data = { data with messageQueue := ms } ∧
      ((rmwZenohPicoTakeOne data rosMessage (some info) false).taken = true →
        ∃ info', (rmwZenohPicoTakeOne data rosMessage (some info) false).info = some info' ∧
          info'.publicationSequenceNumber = m.attachment.sequenceNum ∧
          info'.publisherGid.data = m.attachment.gid.copyInto info.publisherGid.data) := by
  refine ⟨by simp [rmwZenohPicoTakeOne, MessageQueue.pop, hq], ?_⟩
  simp only [rmwZenohPicoTakeOne, MessageQueue.pop, hq, List.head?_cons, rmwZenohPicoDeserializeTopicMsg]
  split
  · intro _
    exact ⟨_, rfl, rfl, rfl⟩
  · intro htaken
    cases htaken

theorem step_takeWithInfo {s s' : Network P Q T R B} {q : Q} {rosMessage : R} {info : RmwMessageInfo}
    (h : Invariant z xxh3 topicKey callbacks s)
    (hs : step z callbacks s (.takeWithInfo q rosMessage info) = some s') :
    Invariant z xxh3 topicKey callbacks s' := by
  cases hs
  have hqueued := h.queued q
  cases hq : (s.readers q).data.messageQueue with
  | nil =>
      rw [hq, List.forall₂_nil_left_iff] at hqueued
      refine { h with queued := ?_, received := ?_ }
      · refine (Function.forall_update_iff s.readers fun _ reader => List.Forall₂ (Carries s xxh3 topicKey)
          reader.data.messageQueue reader.sources).mpr ⟨?_, fun q' _ => h.queued q'⟩
        rw [takeOne_empty hq, hq, hqueued]
        exact .nil
      · intro x hx
        have hold : x ∈ s.received := by simpa [takeOne_empty hq] using hx
        exact h.received x hold
  | cons m ms =>
      rw [hq] at hqueued
      obtain ⟨source, sources, hm, hms, hsources⟩ := List.forall₂_cons_left_iff.mp hqueued
      obtain ⟨hdata, hinfo⟩ := takeOne_info hq rosMessage info
      refine { h with queued := ?_, received := ?_ }
      · refine (Function.forall_update_iff s.readers fun _ reader => List.Forall₂ (Carries s xxh3 topicKey)
          reader.data.messageQueue reader.sources).mpr ⟨?_, fun q' _ => h.queued q'⟩
        rw [hdata, hsources]
        exact hms
      · intro x hx
        rcases List.mem_append.mp hx with hx | hx
        · exact h.received x hx
        · split at hx
          · rename_i htaken
            obtain ⟨info', hi, hnum, hgid⟩ := hinfo htaken
            rw [hi, hsources] at hx
            obtain rfl := List.mem_singleton.mp hx
            refine ⟨hnum ▸ hm.1, ?_⟩
            have hlen : 16 ≤ m.attachment.gid.len := by
              rw [← Slice.bytes_length, hm.2, Slice.bytes_length]
              rfl
            rw [hgid, Slice.copyInto_of_le hlen, Slice.gid_congr hm.2, copyFromBuf_gid]
          · cases hx

theorem step_invariant (hz : RoundTrips z) (s : Network P Q T R B) (l : Label P Q T R)
    (s' : Network P Q T R B) (h : Invariant z xxh3 topicKey callbacks s) (hu : Unshared topicKey s l)
    (hs : step z callbacks s l = some s') : Invariant z xxh3 topicKey callbacks s' := by
  cases l with
  | publish p l => exact step_publish hz h hu hs
  | deliver q source recvTs alloc => exact step_deliver h hs
  | takeWithInfo q rosMessage info => exact step_takeWithInfo h hs

omit [DecidableEq P] [DecidableEq Q] [DecidableEq T] in
theorem initial_invariant (readerCallbacks : Q → MessageTypeSupportCallbacks R) :
    Invariant z xxh3 topicKey callbacks
      (initial xxh3 topicKey callbacks readerCallbacks : Network P Q T R B) where
  publishers p := PubSub.initial_invariant xxh3 (topicKey p)
  signed _ := ⟨rfl, fun _ _ _ _ h => (by cases h), fun _ h => (by cases h)⟩
  unshared _ _ _ _ _ h := by cases h
  queued _ := .nil
  received _ h := by cases h

omit [DecidableEq P] [DecidableEq Q] [DecidableEq T] in
theorem Invariant.place_unique {s : Network P Q T R B} (h : Invariant z xxh3 topicKey callbacks s) {p : P}
    {i j : Nat} {num : Int} (hi : NumberOf s (p, i) num) (hj : NumberOf s (p, j) num) : i = j := by
  obtain ⟨pub, hpub, hnum⟩ := hi
  obtain ⟨pub', hpub', hnum'⟩ := hj
  obtain ⟨hi, rfl⟩ := List.getElem?_eq_some_iff.mp hpub
  obtain ⟨hj, rfl⟩ := List.getElem?_eq_some_iff.mp hpub'
  have hordered := List.pairwise_iff_getElem.mp (h.publishers p).ordered
  rcases Nat.lt_trichotomy i j with hlt | heq | hlt
  · have hless := hordered i j hi hj hlt
    exact absurd (hnum.trans hnum'.symm) (ne_of_lt hless)
  · exact heq
  · have hless := hordered j i hj hi hlt
    exact absurd (hnum'.trans hnum.symm) (ne_of_lt hless)

omit [DecidableEq P] [DecidableEq Q] [DecidableEq T] in
/-- Publishers with one gid have one topic key, and so no number in common. -/
theorem Invariant.identified
    (hx : ∀ p p', xxh3 (topicKey p) = xxh3 (topicKey p') → topicKey p = topicKey p') {s : Network P Q T R B}
    (h : Invariant z xxh3 topicKey callbacks s) : Identified s := by
  rintro ⟨info, p, i⟩ hreceived ⟨info', p', j⟩ hreceived' hgid hnum
  obtain ⟨hi, hxgid⟩ := h.received _ hreceived
  obtain ⟨hj, hygid⟩ := h.received _ hreceived'
  rw [← hnum] at hj
  have hkey : topicKey p = topicKey p' := by
    apply hx
    apply genGid_inj
    rw [← hxgid, ← hygid, hgid]
  by_cases hp : p = p'
  · subst hp
    rw [h.place_unique hi hj]
  · obtain ⟨pub, hpub, hpubnum⟩ := hi
    obtain ⟨pub', hpub', hpubnum'⟩ := hj
    exact absurd (hpubnum.trans hpubnum'.symm)
      (h.unshared p p' hp hkey pub (List.mem_of_getElem? hpub) pub' (List.mem_of_getElem? hpub'))

end Steps

/-- As long as publishers of one topic key publish under different numbers. -/
theorem messages_identified {z : ZeSerializer S B D} (hz : RoundTrips z) {xxh3 : List Char → XXH128Hash}
    {topicKey : P → List Char}
    (hx : ∀ p p', xxh3 (topicKey p) = xxh3 (topicKey p') → topicKey p = topicKey p')
    (callbacks : P → MessageTypeSupportCallbacks R) (readerCallbacks : Q → MessageTypeSupportCallbacks R)
    {ls : List (Label P Q T R)}
    (he : Every (step z callbacks) (Unshared topicKey) (initial xxh3 topicKey callbacks readerCallbacks) ls) :
    Always (step z callbacks) Identified (initial xxh3 topicKey callbacks readerCallbacks) ls :=
  always_mono (fun _ h => h.identified hx)
    (always_of_every (step_invariant hz) (initial_invariant readerCallbacks) he)

section Example

def publishOne (p : Bool) (rosMessage : UInt8) : List (Label Bool Unit Unit UInt8) :=
  [.publish p (.serialize () rosMessage), .publish p (.lock ()), .publish p (.sequenceNumInc ()),
    .publish p (.attachmentGen () 5 false), .publish p (.put () true), .publish p (.unlock ())]

def deliverOne (p : Bool) : List (Label Bool Unit Unit UInt8) :=
  [.deliver () (p, 0) 8 ⟨true, true⟩, .takeWithInfo () 0 ⟨0, 0, 0, 0, ⟨none, fun _ => 0⟩, false⟩]

def bothPublish : List (Label Bool Unit Unit UInt8) :=
  publishOne false 7 ++ publishOne true 9 ++ deliverOne false ++ deliverOne true

def lengthHash (key : List Char) : XXH128Hash := ⟨key.length.toUInt64, 0⟩

def twoPublishers (topicKey : Bool → List Char) :
    Network Bool Unit Unit UInt8 (List (Int ⊕ Slice)) :=
  initial lengthHash topicKey (fun _ => byteCallbacks) fun _ => byteCallbacks

omit [DecidableEq P] [DecidableEq Q] [DecidableEq T] in
theorem unshared_of_injective {topicKey : P → List Char} (h : Function.Injective topicKey)
    (s : Network P Q T R B) (l : Label P Q T R) : Unshared topicKey s l := by
  unfold Unshared
  split
  · intro p' hne hkey
    exact absurd (h hkey) hne
  · trivial

def ownTopic (p : Bool) : List Char := if p then "0/chatter".toList else "0/rosout".toList

theorem own_topics_identified :
    Always (step valueSerializer fun _ => byteCallbacks) Identified (twoPublishers ownTopic) bothPublish := by
  refine messages_identified valueSerializer_roundTrips ?_ _ _ ?_
  · have hlength : ∀ p p', (ownTopic p).length.toUInt64 = (ownTopic p').length.toUInt64 →
        ownTopic p = ownTopic p' := by decide
    intro p p' h
    exact hlength p p' (congrArg XXH128Hash.low64 h)
  · have hinjective : Function.Injective ownTopic := by decide
    exact every_of_invariant (I := fun _ => True) (fun _ _ _ _ _ _ => trivial)
      (fun s l _ _ => unshared_of_injective hinjective s l) trivial (every_true _ _ _)

theorem one_topic_confused :
    ¬Always (step valueSerializer fun _ => byteCallbacks) Identified
      (twoPublishers fun _ => "0/chatter".toList) bothPublish := by
  intro h
  have hidentified := h bothPublish _ List.prefix_rfl rfl
  have hsame := hidentified _ List.mem_cons_self _ (List.mem_cons_of_mem _ List.mem_cons_self) rfl rfl
  cases hsame

end Example

end RmwZenohPico.MessageIdentity
