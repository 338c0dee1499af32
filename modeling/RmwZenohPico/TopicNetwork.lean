import RmwZenohPico.EndpointMatching
import RmwZenohPico.MessageIdentity

namespace RmwZenohPico.TopicNetwork

open Lib.LabelledMachine Lib.CBuffer RmwTypes Attachment RosMessage Subscription TopicKey EndpointMatching
open PubSub (Topic Publication TakenAs QueuedAs Authentic)
open MessageIdentity (publishing publish_cases publish_invariant handler_cases)

variable {P Q T R S B D α : Type}

/-- Publishers and subscriptions of any nodes, and what is on the way from each
publisher to each subscription. The senders of the queued messages, the
samples that a subscription could not receive and the taken messages are
recorded as they happen. -/
structure Network (P Q T R B : Type) where
  publishers : P → Topic T R B
  declared : Q → Bool
  since : P → Q → Nat
  links : P → Q → List (Publication R B)
  subscriptions : Q → SubData R Unit
  senders : Q → List P
  lost : P → Q → Nat
  taken : Q → List (P × R × RmwMessageInfo)

inductive Label (P Q T R : Type)
  | publish (p : P) (l : PubSub.Label T R)
  | declareSubscriber (q : Q)
  | deliver (p : P) (q : Q) (recvTs : Int) (alloc : ReceiveAllocations)
  | takeWithInfo (q : Q) (rosMessage : R) (messageInfo : RmwMessageInfo)

variable [DecidableEq P] [DecidableEq Q] [DecidableEq T]

/-- A put goes to the subscribers that are declared and that its key reaches. -/
def stepPublish (z : ZeSerializer S B D) (callbacks : P → MessageTypeSupportCallbacks R)
    (reaches : P → Q → Bool) (s : Network P Q T R B) (p : P) (l : PubSub.Label T R) :
    Option (Network P Q T R B) :=
  if publishing l then
    (PubSub.step z (callbacks p) (s.publishers p) l).map fun topic =>
      let sent := topic.puts.drop (s.publishers p).puts.length
      { s with
        publishers := Function.update s.publishers p topic
        links := Function.update s.links p fun q =>
          if s.declared q && reaches p q then s.links p q ++ sent else s.links p q }
  else none

def stepDeclareSubscriber (s : Network P Q T R B) (q : Q) : Option (Network P Q T R B) :=
  if s.declared q then none
  else some { s with
    declared := Function.update s.declared q true
    since := fun p => Function.update (s.since p) q (s.publishers p).puts.length }

def stepDeliver (z : ZeSerializer S B D) (s : Network P Q T R B) (p : P) (q : Q) (recvTs : Int)
    (alloc : ReceiveAllocations) : Option (Network P Q T R B) :=
  match s.links p q with
  | [] => none
  | pub :: links =>
      let sample : ZenohSample B := ⟨pub.payload, pub.attachment⟩
      let recvData : Option (ReceiveMessageData Unit) :=
        rmwZenohPicoGenerateRecvSampleMsgData z sample recvTs alloc
      some { s with
        links := Function.update s.links p (Function.update (s.links p) q links)
        subscriptions := Function.update s.subscriptions q
          (subscriptionDataHandler z (s.subscriptions q) sample recvTs alloc)
        senders := Function.update s.senders q
          (if recvData.isSome then s.senders q ++ [p] else s.senders q)
        lost := Function.update s.lost p
          (Function.update (s.lost p) q (if recvData.isSome then s.lost p q else s.lost p q + 1)) }

def stepTakeWithInfo (s : Network P Q T R B) (q : Q) (rosMessage : R) (messageInfo : RmwMessageInfo) :
    Network P Q T R B :=
  let r := rmwZenohPicoTakeOne (s.subscriptions q) rosMessage (some messageInfo) false
  let taken := if r.taken then (s.senders q).zip (r.info.toList.map (r.rosMessage, ·)) else []
  { s with
    subscriptions := Function.update s.subscriptions q r.data
    senders := Function.update s.senders q (s.senders q).tail
    taken := Function.update s.taken q (s.taken q ++ taken) }

def step (z : ZeSerializer S B D) (callbacks : P → MessageTypeSupportCallbacks R) (reaches : P → Q → Bool) :
    Machine (Network P Q T R B) (Label P Q T R)
  | s, .publish p l => stepPublish z callbacks reaches s p l
  | s, .declareSubscriber q => stepDeclareSubscriber s q
  | s, .deliver p q recvTs alloc => stepDeliver z s p q recvTs alloc
  | s, .takeWithInfo q rosMessage messageInfo => some (stepTakeWithInfo s q rosMessage messageInfo)

def ofSender (p : P) (xs : List (P × α)) : List α := (xs.filter fun x => x.1 = p).map Prod.snd

@[simp] theorem ofSender_nil (p : P) : ofSender p ([] : List (P × α)) = [] := rfl

@[simp] theorem ofSender_append (p : P) (xs ys : List (P × α)) :
    ofSender p (xs ++ ys) = ofSender p xs ++ ofSender p ys := by
  simp [ofSender]

@[simp] theorem ofSender_cons_self (p : P) (x : α) (xs : List (P × α)) :
    ofSender p ((p, x) :: xs) = x :: ofSender p xs := by
  simp [ofSender]

theorem ofSender_cons_ne {p p' : P} (h : p' ≠ p) (x : α) (xs : List (P × α)) :
    ofSender p ((p', x) :: xs) = ofSender p xs := by
  simp [ofSender, h]

theorem mem_ofSender {p : P} {x : α} {xs : List (P × α)} : x ∈ ofSender p xs ↔ (p, x) ∈ xs := by
  simp [ofSender]

def Network.queuedFrom (s : Network P Q T R B) (p : P) (q : Q) : List (ReceiveMessageData Unit) :=
  ofSender p ((s.senders q).zip (s.subscriptions q).messageQueue)

def Network.takenFrom (s : Network P Q T R B) (p : P) (q : Q) : List (R × RmwMessageInfo) :=
  ofSender p (s.taken q)

/-- Of the puts, those on the way stand last. The taken and then the queued
messages are the others in their order, less as many as were lost. -/
def Flows (puts links : List (Publication R B)) (taken : List (R × RmwMessageInfo))
    (queued : List (ReceiveMessageData Unit)) (lost : Nat) : Prop :=
  ∃ ts qs sent, puts = sent ++ links ∧ List.Forall₂ TakenAs taken ts ∧ List.Forall₂ QueuedAs queued qs ∧
    (ts ++ qs).Sublist sent ∧ sent.length = (ts ++ qs).length + lost

/-- The puts since the declaration of the subscriber flow to it. -/
def DeliversTo (s : Network P Q T R B) (p : P) (q : Q) : Prop :=
  Flows ((s.publishers p).puts.drop (s.since p q)) (s.links p q) (s.takenFrom p q) (s.queuedFrom p q)
    (s.lost p q)

structure Silent (s : Network P Q T R B) (p : P) (q : Q) : Prop where
  links : s.links p q = []
  taken : s.takenFrom p q = []
  queued : s.queuedFrom p q = []
  lost : s.lost p q = 0

structure Invariant (z : ZeSerializer S B D) (callbacks : P → MessageTypeSupportCallbacks R)
    (readerCallbacks : Q → MessageTypeSupportCallbacks R) (reaches : P → Q → Bool)
    (s : Network P Q T R B) : Prop where
  publishers : ∀ p, PubSub.Invariant z (callbacks p) (s.publishers p)
  sameType : ∀ q, (s.subscriptions q).callbacks = readerCallbacks q
  senders : ∀ q, (s.senders q).length = (s.subscriptions q).messageQueue.length
  since : ∀ p q, s.since p q ≤ (s.publishers p).puts.length
  connected : ∀ p q, (s.declared q && reaches p q) = true → DeliversTo s p q
  silent : ∀ p q, (s.declared q && reaches p q) = false → Silent s p q

section Flows

variable {puts links : List (Publication R B)} {taken : List (R × RmwMessageInfo)}
  {queued : List (ReceiveMessageData Unit)} {lost : Nat}

theorem flows_nil : Flows ([] : List (Publication R B)) [] [] [] 0 :=
  ⟨[], [], [], rfl, .nil, .nil, List.Sublist.refl _, rfl⟩

theorem Flows.put (h : Flows puts links taken queued lost) (sent : List (Publication R B)) :
    Flows (puts ++ sent) (links ++ sent) taken queued lost := by
  obtain ⟨ts, qs, old, rfl, hts, hqs, hsub, hlen⟩ := h
  exact ⟨ts, qs, old, by rw [List.append_assoc], hts, hqs, hsub, hlen⟩

theorem Flows.queue {pub : Publication R B} {m : ReceiveMessageData Unit}
    (h : Flows puts (pub :: links) taken queued lost) (hm : QueuedAs m pub) :
    Flows puts links taken (queued ++ [m]) lost := by
  obtain ⟨ts, qs, sent, rfl, hts, hqs, hsub, hlen⟩ := h
  refine ⟨ts, qs ++ [pub], sent ++ [pub], by simp, hts, List.rel_append hqs (.cons hm .nil), ?_, ?_⟩
  · rw [← List.append_assoc]
    exact hsub.append (List.Sublist.refl _)
  · simp only [List.length_append, List.length_cons, List.length_nil] at hlen ⊢
    omega

theorem Flows.lose {pub : Publication R B} (h : Flows puts (pub :: links) taken queued lost) :
    Flows puts links taken queued (lost + 1) := by
  obtain ⟨ts, qs, sent, rfl, hts, hqs, hsub, hlen⟩ := h
  refine ⟨ts, qs, sent ++ [pub], by simp, hts, hqs, hsub.trans (List.sublist_append_left _ _), ?_⟩
  simp only [List.length_append, List.length_cons, List.length_nil] at hlen ⊢
  omega

theorem Flows.link_mem (h : Flows puts links taken queued lost) {pub : Publication R B}
    (hpub : pub ∈ links) : pub ∈ puts := by
  obtain ⟨ts, qs, sent, rfl, -⟩ := h
  exact List.mem_append_right _ hpub

theorem Flows.take {m : ReceiveMessageData Unit} (h : Flows puts links taken (m :: queued) lost) :
    ∃ pub ∈ puts, QueuedAs m pub ∧
      ∀ r, TakenAs r pub → Flows puts links (taken ++ [r]) queued lost := by
  obtain ⟨ts, qs, sent, rfl, hts, hqs, hsub, hlen⟩ := h
  obtain ⟨pub, qs, hm, hrest, rfl⟩ := List.forall₂_cons_left_iff.mp hqs
  refine ⟨pub, ?_, hm, ?_⟩
  · exact List.mem_append_left _ (hsub.subset (by simp))
  · intro r hr
    refine ⟨ts ++ [pub], qs, sent, rfl, List.rel_append hts (.cons hr .nil), hrest, ?_, ?_⟩
    · simpa using hsub
    · simpa using hlen

end Flows

section Steps

variable {z : ZeSerializer S B D} {callbacks : P → MessageTypeSupportCallbacks R}
  {readerCallbacks : Q → MessageTypeSupportCallbacks R} {reaches : P → Q → Bool}

omit [DecidableEq P] [DecidableEq Q] in
theorem publish_appends {s s' : Topic T R B} {c : MessageTypeSupportCallbacks R} {l : PubSub.Label T R}
    (hl : publishing l = true) (hs : PubSub.step z c s l = some s') :
    s'.puts = s.puts ++ s'.puts.drop s.puts.length := by
  obtain ⟨-, t, pc, -, hcases⟩ := publish_cases hl hs
  rcases hcases with ⟨hputs, -⟩ | ⟨r, msgBytes, b, -, -, -, hputs⟩
  · rw [hputs, List.drop_length, List.append_nil]
  · rw [hputs, List.drop_left]

omit [DecidableEq Q] in
theorem stepPublish_invariant (hz : RoundTrips z) {s s' : Network P Q T R B} {p : P} {l : PubSub.Label T R}
    (h : Invariant z callbacks readerCallbacks reaches s)
    (hs : stepPublish z callbacks reaches s p l = some s') :
    Invariant z callbacks readerCallbacks reaches s' := by
  simp only [stepPublish] at hs
  split at hs
  · rename_i hl
    obtain ⟨topic, htopic, rfl⟩ := Option.map_eq_some_iff.mp hs
    have hputs := publish_appends hl htopic
    generalize topic.puts.drop (s.publishers p).puts.length = sent at hputs ⊢
    refine { h with publishers := ?_, since := ?_, connected := ?_, silent := ?_ }
    · exact (Function.forall_update_iff s.publishers fun p' topic' => PubSub.Invariant z (callbacks p') topic').mpr
        ⟨publish_invariant hz hl (h.publishers p) htopic, fun p' _ => h.publishers p'⟩
    · intro p' q
      have hsince := h.since p' q
      by_cases hp : p' = p
      · subst hp
        simp only [Function.update_self, hputs, List.length_append]
        omega
      · simpa only [Function.update_of_ne hp] using hsince
    · intro p' q hr
      have hflows : Flows _ _ _ _ _ := h.connected p' q hr
      by_cases hp : p' = p
      · subst hp
        have hr' : (s.declared q && reaches p' q) = true := hr
        simpa only [DeliversTo, Network.takenFrom, Network.queuedFrom, Function.update_self, hputs,
          List.drop_append_of_le_length (h.since p' q), hr', if_true] using hflows.put sent
      · simpa only [DeliversTo, Network.takenFrom, Network.queuedFrom, Function.update_of_ne hp] using hflows
    · intro p' q hr
      obtain ⟨hlinks, htaken, hqueued, hlost⟩ := h.silent p' q hr
      refine ⟨?_, htaken, hqueued, hlost⟩
      by_cases hp : p' = p
      · subst hp
        have hr' : (s.declared q && reaches p' q) = false := hr
        simp only [Function.update_self, hr', Bool.false_eq_true, if_false, hlinks]
      · simpa only [Function.update_of_ne hp] using hlinks
  · cases hs

omit [DecidableEq T] in
theorem stepDeclareSubscriber_invariant {s s' : Network P Q T R B} {q : Q}
    (h : Invariant z callbacks readerCallbacks reaches s) (hs : stepDeclareSubscriber s q = some s') :
    Invariant z callbacks readerCallbacks reaches s' := by
  simp only [stepDeclareSubscriber] at hs
  split at hs
  · cases hs
  · rename_i hd
    cases hs
    have hnew : s.declared q = false := by simpa using hd
    refine { h with since := ?_, connected := ?_, silent := ?_ }
    · intro p q'
      by_cases hq : q' = q
      · subst hq
        simp only [Function.update_self, le_refl]
      · simpa only [Function.update_of_ne hq] using h.since p q'
    · intro p q' hr
      by_cases hq : q' = q
      · subst hq
        obtain ⟨hlinks, htaken, hqueued, hlost⟩ := h.silent p q' (by rw [hnew, Bool.false_and])
        have hflows : Flows ((s.publishers p).puts.drop (s.publishers p).puts.length) (s.links p q')
            (s.takenFrom p q') (s.queuedFrom p q') (s.lost p q') := by
          rw [List.drop_length, hlinks, htaken, hqueued, hlost]
          exact flows_nil
        simpa only [DeliversTo, Network.takenFrom, Network.queuedFrom, Function.update_self] using hflows
      · simp only [Function.update_of_ne hq] at hr
        have hflows : Flows _ _ _ _ _ := h.connected p q' hr
        simpa only [DeliversTo, Network.takenFrom, Network.queuedFrom, Function.update_of_ne hq] using hflows
    · intro p q' hr
      by_cases hq : q' = q
      · subst hq
        have hs := h.silent p q' (by rw [hnew, Bool.false_and])
        exact ⟨hs.links, hs.taken, hs.queued, hs.lost⟩
      · simp only [Function.update_of_ne hq] at hr
        have hs := h.silent p q' hr
        exact ⟨hs.links, hs.taken, hs.queued, hs.lost⟩

omit [DecidableEq Q] [DecidableEq T] in
theorem Invariant.reached {s : Network P Q T R B} (h : Invariant z callbacks readerCallbacks reaches s)
    {p : P} {q : Q} (hne : s.links p q ≠ [] ∨ s.takenFrom p q ≠ [] ∨ s.queuedFrom p q ≠ []) :
    (s.declared q && reaches p q) = true := by
  by_contra hr
  obtain ⟨hlinks, htaken, hqueued, -⟩ := h.silent p q (by simpa using hr)
  rcases hne with hne | hne | hne
  · exact hne hlinks
  · exact hne htaken
  · exact hne hqueued

omit [DecidableEq P] [DecidableEq Q] [DecidableEq T] in
theorem received_queues {c : MessageTypeSupportCallbacks R} {pub : Publication R B} (hp : Authentic z c pub)
    {recvTs : Int} {alloc : ReceiveAllocations} {m : ReceiveMessageData Unit}
    (hm : rmwZenohPicoGenerateRecvSampleMsgData z ⟨pub.payload, pub.attachment⟩ recvTs alloc = some m) :
    QueuedAs m pub := by
  obtain ⟨a, ha, hnum⟩ := hp.attachment
  simp only [rmwZenohPicoGenerateRecvSampleMsgData, Option.ite_none_right_eq_some, ha, Option.map_some,
    Option.some.injEq] at hm
  obtain ⟨-, rfl⟩ := hm
  exact ⟨rfl, rfl, hnum⟩

structure Frame (s s' : Network P Q T R B) (p : P) (q : Q) : Prop where
  publishers : s'.publishers = s.publishers
  declared : s'.declared = s.declared
  since : s'.since = s.since
  sameType : ∀ q, (s'.subscriptions q).callbacks = (s.subscriptions q).callbacks
  senders : ∀ q, (s'.senders q).length = (s'.subscriptions q).messageQueue.length
  others : ∀ p' q', ¬(p' = p ∧ q' = q) → s'.links p' q' = s.links p' q' ∧
    s'.takenFrom p' q' = s.takenFrom p' q' ∧ s'.queuedFrom p' q' = s.queuedFrom p' q' ∧
    s'.lost p' q' = s.lost p' q'

omit [DecidableEq Q] [DecidableEq T] in
theorem Frame.invariant {s s' : Network P Q T R B} {p : P} {q : Q} (hf : Frame s s' p q)
    (h : Invariant z callbacks readerCallbacks reaches s) (hr : (s.declared q && reaches p q) = true)
    (hd : DeliversTo s' p q) : Invariant z callbacks readerCallbacks reaches s' where
  publishers := by
    rw [hf.publishers]
    exact h.publishers
  sameType q' := (hf.sameType q').trans (h.sameType q')
  senders := hf.senders
  since := by
    rw [hf.publishers, hf.since]
    exact h.since
  connected p' q' hr' := by
    by_cases hpq : p' = p ∧ q' = q
    · obtain ⟨rfl, rfl⟩ := hpq
      exact hd
    · obtain ⟨hlinks, htaken, hqueued, hlost⟩ := hf.others p' q' hpq
      rw [hf.declared] at hr'
      rw [DeliversTo, hf.publishers, hf.since, hlinks, htaken, hqueued, hlost]
      exact h.connected p' q' hr'
  silent p' q' hr' := by
    rw [hf.declared] at hr'
    have hpq : ¬(p' = p ∧ q' = q) := by
      rintro ⟨rfl, rfl⟩
      rw [hr] at hr'
      cases hr'
    obtain ⟨hlinks, htaken, hqueued, hlost⟩ := hf.others p' q' hpq
    have hs := h.silent p' q' hr'
    exact ⟨hlinks.trans hs.links, htaken.trans hs.taken, hqueued.trans hs.queued, hlost.trans hs.lost⟩

omit [DecidableEq T] in
theorem update_link_ne {β : Type} (f : P → Q → β) {p p' : P} {q q' : Q} (x : β) (h : ¬(p' = p ∧ q' = q)) :
    Function.update f p (Function.update (f p) q x) p' q' = f p' q' := by
  by_cases hp : p' = p
  · subst hp
    have hq : q' ≠ q := fun he => h ⟨rfl, he⟩
    rw [Function.update_self, Function.update_of_ne hq]
  · rw [Function.update_of_ne hp]

omit [DecidableEq T] in
theorem stepDeliver_invariant {s s' : Network P Q T R B} {p : P} {q : Q} {recvTs : Int}
    {alloc : ReceiveAllocations} (h : Invariant z callbacks readerCallbacks reaches s)
    (hs : stepDeliver z s p q recvTs alloc = some s') :
    Invariant z callbacks readerCallbacks reaches s' := by
  simp only [stepDeliver] at hs
  split at hs
  · cases hs
  · rename_i pub links hlinks
    cases hs
    have hr : (s.declared q && reaches p q) = true := h.reached (.inl (by simp [hlinks]))
    have hflows : Flows _ _ _ _ _ := h.connected p q hr
    rw [hlinks] at hflows
    have hpub : pub ∈ (s.publishers p).puts := List.mem_of_mem_drop (hflows.link_mem List.mem_cons_self)
    have hp := (h.publishers p).authentic pub hpub
    rcases handler_cases (z := z) (s.subscriptions q) ⟨pub.payload, pub.attachment⟩ recvTs alloc with
      ⟨hnone, hdata⟩ | ⟨m, hsome, -, hdata⟩
    · simp only [hnone, hdata, Option.isSome_none, Bool.false_eq_true, if_false, Function.update_eq_self]
      refine Frame.invariant (s := s) (p := p) (q := q) ⟨rfl, rfl, rfl, fun _ => rfl, h.senders, ?_⟩ h hr ?_
      · intro p' q' hpq
        exact ⟨update_link_ne s.links links hpq, rfl, rfl, update_link_ne s.lost _ hpq⟩
      · simpa only [DeliversTo, Network.takenFrom, Network.queuedFrom, Function.update_self] using hflows.lose
    · have hm := received_queues hp hsome
      simp only [hsome, hdata, Option.isSome_some, if_true, Function.update_eq_self]
      have hzip : (s.senders q ++ [p]).zip ((s.subscriptions q).messageQueue ++ [m]) =
          (s.senders q).zip (s.subscriptions q).messageQueue ++ [(p, m)] :=
        List.zip_append (h.senders q)
      refine Frame.invariant (s := s) (p := p) (q := q) ⟨rfl, rfl, rfl, ?_, ?_, ?_⟩ h hr ?_
      · intro q'
        by_cases hq : q' = q
        · subst hq
          simp only [Function.update_self]
        · simp only [Function.update_of_ne hq]
      · intro q'
        by_cases hq : q' = q
        · subst hq
          simp only [Function.update_self, List.length_append, h.senders q', List.length_singleton]
        · simpa only [Function.update_of_ne hq] using h.senders q'
      · intro p' q' hpq
        refine ⟨update_link_ne s.links links hpq, rfl, ?_, rfl⟩
        by_cases hq : q' = q
        · subst hq
          have hp' : p ≠ p' := fun he => hpq ⟨he.symm, rfl⟩
          simp only [Network.queuedFrom, Function.update_self, hzip, ofSender_append, ofSender_cons_ne hp',
            ofSender_nil, List.append_nil]
        · simp only [Network.queuedFrom, Function.update_of_ne hq]
      · simpa only [DeliversTo, Network.takenFrom, Network.queuedFrom, Function.update_self, hzip,
          ofSender_append, ofSender_cons_self, ofSender_nil] using hflows.queue hm

omit [DecidableEq T] in
theorem stepTakeWithInfo_invariant (hc : ∀ p, CdrInverse (callbacks p))
    (ht : ∀ p q, reaches p q = true → callbacks p = readerCallbacks q) {s : Network P Q T R B}
    (h : Invariant z callbacks readerCallbacks reaches s) (q : Q) (r : R) (info : RmwMessageInfo) :
    Invariant z callbacks readerCallbacks reaches (stepTakeWithInfo s q r info) := by
  have hlength := h.senders q
  cases hq : (s.subscriptions q).messageQueue with
  | nil =>
      rw [hq, List.length_nil, List.length_eq_zero_iff] at hlength
      have hsame : stepTakeWithInfo s q r info = s := by
        simp only [stepTakeWithInfo, takeOne_empty hq, Bool.false_eq_true, if_false, List.append_nil, hlength,
          List.tail_nil, Function.update_eq_self]
        rw [← hlength, Function.update_eq_self]
      rw [hsame]
      exact h
  | cons m ms =>
      rw [hq] at hlength
      obtain ⟨p, ps, hsenders⟩ := List.exists_cons_of_length_eq_add_one hlength
      have hqueued : s.queuedFrom p q = m :: ofSender p (ps.zip ms) := by
        simp only [Network.queuedFrom, hsenders, hq, List.zip_cons_cons, ofSender_cons_self]
      have hr := h.reached (.inr (.inr (by rw [hqueued]; exact List.cons_ne_nil _ _)))
      have hflows : Flows _ _ _ _ _ := h.connected p q hr
      rw [hqueued] at hflows
      obtain ⟨pub, hpub, hm, htake⟩ := hflows.take
      have hp := (h.publishers p).authentic pub (List.mem_of_mem_drop hpub)
      have htype : (s.subscriptions q).callbacks = callbacks p := by
        rw [h.sameType q, ht p q (Bool.and_eq_true_iff.mp hr).2]
      have hd : rmwZenohPicoDeserialize m.payloadStart m.payloadSize (s.subscriptions q).callbacks r =
          (true, pub.rosMessage) := by
        rw [hm.1, hm.2.1, htype]
        exact deserialize_serialize (hc p) hp.payload r
      obtain ⟨info', htakeOne, hinfo⟩ := takeOne_cons hq hd info false
      simp only [stepTakeWithInfo, htakeOne, if_true, Option.toList_some, List.map_cons, List.map_nil, hsenders,
        List.tail_cons, List.zip_cons_cons, List.zip_nil_right]
      refine Frame.invariant (s := s) (p := p) (q := q) ⟨rfl, rfl, rfl, ?_, ?_, ?_⟩ h hr ?_
      · intro q'
        by_cases hq' : q' = q
        · subst hq'
          simp only [Function.update_self]
        · simp only [Function.update_of_ne hq']
      · intro q'
        by_cases hq' : q' = q
        · subst hq'
          rw [hsenders] at hlength
          simpa only [Function.update_self, List.length_cons, Nat.add_right_cancel_iff] using hlength
        · simpa only [Function.update_of_ne hq'] using h.senders q'
      · intro p' q' hpq
        by_cases hq' : q' = q
        · subst hq'
          have hp' : p ≠ p' := fun he => hpq ⟨he.symm, rfl⟩
          simp only [Network.takenFrom, Network.queuedFrom, Function.update_self, ofSender_append, hsenders, hq,
            List.zip_cons_cons, ofSender_cons_ne hp', ofSender_nil, List.append_nil, and_self]
        · simp only [Network.takenFrom, Network.queuedFrom, Function.update_of_ne hq', and_self]
      · have hnext := htake (pub.rosMessage, info') ⟨rfl, hinfo.trans hm.2.2⟩
        simpa only [DeliversTo, Network.takenFrom, Network.queuedFrom, Function.update_self, ofSender_append,
          ofSender_cons_self, ofSender_nil] using hnext

theorem step_invariant (hz : RoundTrips z) (hc : ∀ p, CdrInverse (callbacks p))
    (ht : ∀ p q, reaches p q = true → callbacks p = readerCallbacks q) (s : Network P Q T R B)
    (l : Label P Q T R) (s' : Network P Q T R B) (h : Invariant z callbacks readerCallbacks reaches s)
    (hs : step z callbacks reaches s l = some s') : Invariant z callbacks readerCallbacks reaches s' := by
  cases l with
  | publish p l => exact stepPublish_invariant hz h hs
  | declareSubscriber q => exact stepDeclareSubscriber_invariant h hs
  | deliver p q recvTs alloc => exact stepDeliver_invariant h hs
  | takeWithInfo q r info =>
      cases hs
      exact stepTakeWithInfo_invariant hc ht h q r info

end Steps

/-- A key without a wildcard is matched by itself alone. -/
def MatchesPlain (intersects : List Char → List Char → Bool) : Prop :=
  ∀ key key', '*' ∉ key → '*' ∉ key' → (intersects key key' = true ↔ key = key')

structure NoWildcard (e : Endpoint) : Prop where
  topicName : '*' ∉ e.topicName.chars
  messageNamespace : '*' ∉ e.messageNamespace.chars
  messageName : '*' ∉ e.messageName.chars

def keyChars (e : Endpoint) : List Char :=
  match topicKey e with
  | .ok key => key.chars
  | .error _ => []

def reachesBetween (intersects : List Char → List Char → Bool) :
    Except Failure CString → Except Failure CString → Bool
  | .ok key, .ok key' => intersects key.chars key'.chars
  | _, _ => false

def keysReach (intersects : List Char → List Char → Bool) (publisher subscription : Endpoint) : Bool :=
  reachesBetween intersects (topicKey publisher) (topicKey subscription)

def callbacksOf (typeSupport : CString → CString → RosidlTypeHash → MessageTypeSupportCallbacks R)
    (e : Endpoint) : MessageTypeSupportCallbacks R :=
  typeSupport e.messageNamespace e.messageName e.typeHash

def initial (xxh3 : List Char → XXH128Hash)
    (typeSupport : CString → CString → RosidlTypeHash → MessageTypeSupportCallbacks R)
    (publisher : P → Endpoint) (subscription : Q → Endpoint) : Network P Q T R B :=
  { publishers := fun p => PubSub.initial xxh3 (keyChars (publisher p)) (callbacksOf typeSupport (publisher p))
    declared := fun _ => false
    since := fun _ _ => 0
    links := fun _ _ => []
    subscriptions := fun q => ⟨callbacksOf typeSupport (subscription q), []⟩
    senders := fun _ => []
    lost := fun _ _ => 0
    taken := fun _ => [] }

/-- Every taken message is from a publisher of the same domain, topic, type and
hash, and whatever such a publisher puts is delivered. -/
structure TypedDelivery (publisher : P → Endpoint) (subscription : Q → Endpoint) (s : Network P Q T R B) :
    Prop where
  isolated : ∀ q, ∀ x ∈ s.taken q, publisher x.1 = subscription q
  delivered : ∀ p q, publisher p = subscription q → s.declared q = true → DeliversTo s p q

theorem digitChar_ne_wildcard (n : Fin 16) : Nat.digitChar n ≠ '*' := by
  revert n
  decide

theorem wildcard_notMem_hexByte (byte : UInt8) : '*' ∉ hexByte byte := by
  have hb := byte.toNat_lt
  have hdigit : ∀ n : UInt8, n.toNat < 16 → hexDigit n ≠ '*' := by
    intro n hn
    rw [(hexDigit_of_lt hn).1]
    exact digitChar_ne_wildcard ⟨n.toNat, hn⟩
  simp only [hexByte, List.mem_cons, List.not_mem_nil, or_false, not_or]
  exact ⟨(hdigit _ (by rw [highNibble]; omega)).symm, (hdigit _ (by rw [lowNibble]; omega)).symm⟩

theorem wildcard_notMem_key {e : Endpoint} (h : NoWildcard e) : '*' ∉ e.key := by
  have hdomain : '*' ∉ decimal e.domainId := fun hc => absurd (natCast_isDigit hc) (by decide)
  have hhash : '*' ∉ hashText e.typeHash := by
    intro hc
    rcases List.mem_append.mp hc with hc | hc
    · exact absurd hc (by decide)
    · obtain ⟨b, -, hb⟩ := List.mem_flatMap.mp hc
      exact wildcard_notMem_hexByte b hb
  have htype : '*' ∉ e.type := by
    simp only [Endpoint.type, typeName, List.mem_append, not_or]
    exact ⟨⟨⟨h.messageNamespace, by decide⟩, h.messageName⟩, by decide⟩
  have hname : '*' ∉ namePart e.topicName.chars := by
    intro hc
    rcases List.mem_append.mp hc with hc | hc
    · split at hc
      · exact h.topicName (List.mem_of_mem_tail hc)
      · exact h.topicName hc
    · split at hc
      · cases hc
      · exact absurd hc (by decide)
  simp only [Endpoint.key, wholeKey, List.mem_append, List.mem_cons, not_or]
  exact ⟨hdomain, by decide, hname, htype, by decide, hhash⟩

theorem keysReach_iff {intersects : List Char → List Char → Bool} (hm : MatchesPlain intersects)
    {a b : Endpoint} (ha : Matchable a) (hb : Matchable b) (hna : NoWildcard a) (hnb : NoWildcard b) :
    keysReach intersects a b = true ↔ a = b := by
  obtain ⟨hta, hka⟩ := topicKey_eq ha
  obtain ⟨htb, hkb⟩ := topicKey_eq hb
  have hmatch := hm a.key b.key (wildcard_notMem_key hna) (wildcard_notMem_key hnb)
  rw [keysReach, hka, hkb]
  exact hmatch.trans ⟨key_inj ha hb, congrArg Endpoint.key⟩

section Delivery

variable {z : ZeSerializer S B D} {xxh3 : List Char → XXH128Hash}
  {typeSupport : CString → CString → RosidlTypeHash → MessageTypeSupportCallbacks R}
  {intersects : List Char → List Char → Bool} {publisher : P → Endpoint} {subscription : Q → Endpoint}

omit [DecidableEq Q] [DecidableEq T] in
theorem initial_invariant (reaches : P → Q → Bool) :
    Invariant z (fun p => callbacksOf typeSupport (publisher p))
      (fun q => callbacksOf typeSupport (subscription q)) reaches
      (initial xxh3 typeSupport publisher subscription : Network P Q T R B) where
  publishers p := PubSub.initial_invariant xxh3 (keyChars (publisher p))
  sameType _ := rfl
  senders _ := rfl
  since _ _ := Nat.zero_le _
  connected _ _ h := by cases h
  silent _ _ _ := ⟨rfl, rfl, rfl, rfl⟩

end Delivery

section Example

def domainOf (p : Bool) : Endpoint := if p then chatter 1 else chatter 0

def byteTypes (_ _ : CString) (_ : RosidlTypeHash) : MessageTypeSupportCallbacks UInt8 := byteCallbacks

def publishTo (p : Bool) (rosMessage : UInt8) : List (Label Bool Unit Unit UInt8) :=
  [.publish p (.serialize () rosMessage), .publish p (.lock ()), .publish p (.sequenceNumInc ()),
    .publish p (.attachmentGen () 5 false), .publish p (.put () true), .publish p (.unlock ())]

def twoDomains : List (Label Bool Unit Unit UInt8) :=
  publishTo false 1 ++ [.declareSubscriber ()] ++ publishTo true 9 ++ publishTo false 7 ++ publishTo false 8 ++
    [.deliver false () 6 ⟨true, false⟩, .deliver false () 8 ⟨true, true⟩,
      .takeWithInfo () 0 ⟨0, 0, 0, 0, ⟨none, fun _ => 0⟩, false⟩]

end Example

end RmwZenohPico.TopicNetwork
