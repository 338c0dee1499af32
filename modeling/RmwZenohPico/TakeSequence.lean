import RmwZenohPico.MessageRelease
import RmwZenohPico.Takes

namespace RmwZenohPico.TakeSequence

open RmwTypes Attachment RosMessage
open MessageMemory (Queued)
open MessageRelease (SequenceResult MessageState takeSequenceLoop)
open Service (TakeResult)
open Subscription (SubData rmwZenohPicoTakeOne)
open Takes (plainMessage)

variable {A R ω : Type}

structure RmwSequence (α : Type) where
  data : List α
  size : Nat

def RmwSequence.capacity {α : Type} (s : RmwSequence α) : Nat := s.data.length

abbrev Slot (R : Type) := R × RmwMessageInfo

def uintMax : Nat := 2 ^ 32 - 1

structure TakeSequenceResult (R ω : Type) where
  ret : RmwRet
  data : SubData R ω
  messageSequence : RmwSequence R
  messageInfoSequence : RmwSequence RmwMessageInfo
  taken : Nat

def takeOne (data : SubData R ω) (rosMessage : R) (messageInfo : Option RmwMessageInfo) (taken : Bool) :
    Option (TakeResult (SubData R ω) R RmwMessageInfo) :=
  some (rmwZenohPicoTakeOne data rosMessage messageInfo taken)

/-- rmw_take_sequence behind its argument checks. The loop sees the first
count places, the others stay as they are. -/
def takeSequence (data : SubData R ω) (count : Nat) (messageSequence : RmwSequence R)
    (messageInfoSequence : RmwSequence RmwMessageInfo) : Option (TakeSequenceResult R ω) :=
  let slots := messageSequence.data.zip messageInfoSequence.data
  (takeSequenceLoop takeOne .error data (slots.take count)).map fun r =>
    { ret := r.ret
      data := r.data
      messageSequence := ⟨r.slots.map Prod.fst ++ messageSequence.data.drop count, r.taken⟩
      messageInfoSequence := ⟨r.slots.map Prod.snd ++ messageInfoSequence.data.drop count, r.taken⟩
      taken := r.taken }

def rmwTakeSequence (subscription : Option (RmwHandle (SubData R ω))) (count : Nat)
    (messageSequence : Option (RmwSequence R)) (messageInfoSequence : Option (RmwSequence RmwMessageInfo))
    (taken : Option Nat) : Except RmwRet (Option (TakeSequenceResult R ω)) :=
  match subscription with
  | none => .error .invalidArgument
  | some subscription =>
      match subscription.name, subscription.data with
      | none, _ => .error .error
      | some _, none => .error .error
      | some _, some data =>
          match messageSequence, messageInfoSequence, taken with
          | some messageSequence, some messageInfoSequence, some _ =>
              if !checkTypeIdentifiersMatch subscription.implementationIdentifier then
                .error .incorrectRmwImplementation
              else if count = 0 then .error .invalidArgument
              else if count > messageSequence.capacity then .error .invalidArgument
              else if count > messageInfoSequence.capacity then .error .invalidArgument
              else if count > uintMax then .error .error
              else .ok (takeSequence data count messageSequence messageInfoSequence)
          | _, _, _ => .error .invalidArgument

def deserializeInto (callbacks : MessageTypeSupportCallbacks R) (msgData : ReceiveMessageData ω)
    (slot : Slot R) : Slot R :=
  let r := rmwZenohPicoDeserializeTopicMsg msgData callbacks slot.1 (some slot.2)
  (r.2.1, r.2.2.getD slot.2)

def Accepted (callbacks : MessageTypeSupportCallbacks R) (msgs : List (ReceiveMessageData ω))
    (slots : List (Slot R)) : Prop :=
  ∀ p ∈ msgs.zip slots, Deserializes p.1 callbacks p.2.1

def RejectedAt (callbacks : MessageTypeSupportCallbacks R) (msgs : List (ReceiveMessageData ω))
    (slots : List (Slot R)) (k : Nat) : Prop :=
  Accepted callbacks (msgs.take k) (slots.take k) ∧
    ∃ m slot, msgs[k]? = some m ∧ slots[k]? = some slot ∧ ¬ Deserializes m callbacks slot.1

structure Reports (data : SubData R ω) (slots : List (Slot R)) (j : Nat) (r : TakeSequenceResult R ω) :
    Prop where
  taken : r.taken = j
  size : r.messageSequence.size = j
  infoSize : r.messageInfoSequence.size = j
  filled : (r.messageSequence.data.zip r.messageInfoSequence.data).take j =
    (List.zipWith (deserializeInto data.callbacks) data.messageQueue slots).take j

/-- What is expected of the call with these slots, of which it may fill the
first count. -/
structure TakesFirst (data : SubData R ω) (count : Nat) (slots : List (Slot R))
    (r : TakeSequenceResult R ω) : Prop where
  accepted : Accepted data.callbacks data.messageQueue (slots.take count) →
    r.ret = .ok ∧ Reports data slots (min data.messageQueue.length count) r ∧
      r.data.messageQueue = data.messageQueue.drop (min data.messageQueue.length count)
  rejected : ∀ k, RejectedAt data.callbacks data.messageQueue (slots.take count) k →
    r.ret ≠ .ok ∧ Reports data slots k r

theorem takeSequenceLoop_empty (callbacks : MessageTypeSupportCallbacks R) (ret : RmwRet) (slot : Slot R)
    (slots : List (Slot R)) :
    takeSequenceLoop takeOne ret (⟨callbacks, []⟩ : SubData R ω) (slot :: slots) =
      some ⟨.error, ⟨callbacks, []⟩, slot :: slots, 0⟩ := rfl

theorem takeSequenceLoop_cons (callbacks : MessageTypeSupportCallbacks R) (ret : RmwRet)
    (m : ReceiveMessageData ω) (msgs : List (ReceiveMessageData ω)) (slot : Slot R) (slots : List (Slot R)) :
    takeSequenceLoop takeOne ret ⟨callbacks, m :: msgs⟩ (slot :: slots) =
      if Deserializes m callbacks slot.1 then
        (takeSequenceLoop takeOne .ok ⟨callbacks, msgs⟩ slots).map fun rest =>
          { rest with slots := deserializeInto callbacks m slot :: rest.slots, taken := rest.taken + 1 }
      else some ⟨.error, ⟨callbacks, msgs⟩, deserializeInto callbacks m slot :: slots, 0⟩ := by
  obtain ⟨rosMessage, messageInfo⟩ := slot
  by_cases hm : Deserializes m callbacks rosMessage
  · have htaken : (rmwZenohPicoDeserializeTopicMsg m callbacks rosMessage (some messageInfo)).1 = true :=
      deserializeTopicMsg_iff.mpr hm
    simp [takeSequenceLoop, takeOne, rmwZenohPicoTakeOne, MessageQueue.pop, deserializeInto, hm, htaken]
  · have htaken : ¬(rmwZenohPicoDeserializeTopicMsg m callbacks rosMessage (some messageInfo)).1 = true :=
      mt deserializeTopicMsg_iff.mp hm
    simp [takeSequenceLoop, takeOne, rmwZenohPicoTakeOne, MessageQueue.pop, deserializeInto, hm, htaken]

/-- As long as the messages are accepted the loop fills one slot after the
other. -/
theorem takeSequenceLoop_accepted {callbacks : MessageTypeSupportCallbacks R}
    {msgs rest : List (ReceiveMessageData ω)} {slots back : List (Slot R)} (hl : msgs.length = slots.length)
    (ha : Accepted callbacks msgs slots) (ret : RmwRet) :
    takeSequenceLoop takeOne ret ⟨callbacks, msgs ++ rest⟩ (slots ++ back) =
      (takeSequenceLoop takeOne (if slots = [] then ret else .ok) ⟨callbacks, rest⟩ back).map fun r =>
        { r with
          slots := List.zipWith (deserializeInto callbacks) msgs slots ++ r.slots
          taken := r.taken + slots.length } := by
  induction slots generalizing msgs ret with
  | nil =>
      obtain rfl := List.length_eq_zero_iff.mp hl
      simp
  | cons slot slots ih =>
      cases msgs with
      | nil => cases hl
      | cons m msgs =>
          have hm : Deserializes m callbacks slot.1 := ha (m, slot) List.mem_cons_self
          have hrest : Accepted callbacks msgs slots := fun p hp => ha p (List.mem_cons_of_mem _ hp)
          rw [List.cons_append, List.cons_append, takeSequenceLoop_cons, if_pos hm,
            ih (Nat.succ.inj hl) hrest .ok, ite_self, Option.map_map, if_neg (List.cons_ne_nil _ _)]
          rfl

theorem zip_take_pairs {α β : Type} (pairs : List (α × β)) (xs : List α) (ys : List β) :
    ((pairs.map Prod.fst ++ xs).zip (pairs.map Prod.snd ++ ys)).take pairs.length = pairs := by
  rw [List.zip_eq_zipWith, List.take_zipWith, List.take_left' (List.length_map _),
    List.take_left' (List.length_map _), ← List.zip_eq_zipWith, List.zip_map']
  exact List.map_id pairs

theorem accepted_take {callbacks : MessageTypeSupportCallbacks R} {msgs : List (ReceiveMessageData ω)}
    {slots : List (Slot R)} {count j : Nat} (ha : Accepted callbacks msgs (slots.take count)) (hj : j ≤ count) :
    Accepted callbacks (msgs.take j) (slots.take j) := by
  have hzip : (msgs.take j).zip (slots.take j) = (msgs.zip (slots.take count)).take j := by
    rw [List.zip_eq_zipWith, List.zip_eq_zipWith, List.take_zipWith, List.take_take, Nat.min_eq_left hj]
  intro p hp
  rw [hzip] at hp
  exact ha p (List.mem_of_mem_take hp)

theorem not_rejectedAt {callbacks : MessageTypeSupportCallbacks R} {msgs : List (ReceiveMessageData ω)}
    {slots : List (Slot R)} (ha : Accepted callbacks msgs slots) (k : Nat) :
    ¬ RejectedAt callbacks msgs slots k := by
  rintro ⟨-, m, slot, hm, hslot, hd⟩
  have hzip : (msgs.zip slots)[k]? = some (m, slot) := List.getElem?_zip_eq_some.mpr ⟨hm, hslot⟩
  exact hd (ha (m, slot) (List.mem_of_getElem? hzip))

theorem accepted_or_rejectedAt (callbacks : MessageTypeSupportCallbacks R)
    (msgs : List (ReceiveMessageData ω)) (slots : List (Slot R)) :
    Accepted callbacks msgs slots ∨ ∃ k, RejectedAt callbacks msgs slots k := by
  induction slots generalizing msgs with
  | nil => exact .inl (by simp [Accepted])
  | cons slot slots ih =>
      cases msgs with
      | nil => exact .inl (by simp [Accepted])
      | cons m msgs =>
          by_cases hd : Deserializes m callbacks slot.1
          · have hcons : ∀ {msgs : List (ReceiveMessageData ω)} {slots : List (Slot R)},
                Accepted callbacks msgs slots → Accepted callbacks (m :: msgs) (slot :: slots) := by
              intro msgs slots ha p hp
              rcases List.mem_cons.mp hp with rfl | hp
              · exact hd
              · exact ha p hp
            rcases ih msgs with ha | ⟨k, ha, hk⟩
            · exact .inl (hcons ha)
            · exact .inr ⟨k + 1, hcons ha, hk⟩
          · exact .inr ⟨0, by simp [Accepted], m, slot, rfl, rfl, hd⟩

theorem takeSequence_front {data : SubData R ω} {count j : Nat} {messageSequence : RmwSequence R}
    {messageInfoSequence : RmwSequence RmwMessageInfo} (hcount : count ≤ messageSequence.capacity)
    (hinfo : count ≤ messageInfoSequence.capacity) (hj : j ≤ data.messageQueue.length) (hjc : j ≤ count)
    (ha : Accepted data.callbacks (data.messageQueue.take j)
      ((messageSequence.data.zip messageInfoSequence.data).take j))
    {ret : RmwRet} {queue : List (ReceiveMessageData ω)}
    (hend : ∃ back, takeSequenceLoop takeOne (if j = 0 then .error else .ok)
        ⟨data.callbacks, data.messageQueue.drop j⟩
        (((messageSequence.data.zip messageInfoSequence.data).take count).drop j) =
      some ⟨ret, ⟨data.callbacks, queue⟩, back, 0⟩) :
    ∃ r, takeSequence data count messageSequence messageInfoSequence = some r ∧ r.ret = ret ∧
      r.data.messageQueue = queue ∧ Reports data (messageSequence.data.zip messageInfoSequence.data) j r := by
  obtain ⟨back, hend⟩ := hend
  generalize hs : messageSequence.data.zip messageInfoSequence.data = slots at ha hend ⊢
  have hlen : slots.length = min messageSequence.capacity messageInfoSequence.capacity := by
    rw [← hs, List.length_zip]
    rfl
  have hfront : (data.messageQueue.take j).length = (slots.take j).length := by
    rw [List.length_take, List.length_take]
    omega
  have hsplit : slots.take count = slots.take j ++ (slots.take count).drop j := by
    rw [← List.take_append_drop j (slots.take count), List.take_take, Nat.min_eq_left hjc,
      List.drop_append_of_le_length (by rw [List.length_take]; omega)]
    simp
  have hnil : slots.take j = [] ↔ j = 0 := by
    rw [← List.length_eq_zero_iff, List.length_take]
    omega
  have hloop : takeSequenceLoop takeOne .error
      ⟨data.callbacks, data.messageQueue.take j ++ data.messageQueue.drop j⟩
      (slots.take j ++ (slots.take count).drop j) = _ := takeSequenceLoop_accepted hfront ha .error
  have hpairs : List.zipWith (deserializeInto data.callbacks) (data.messageQueue.take j) (slots.take j) =
      (List.zipWith (deserializeInto data.callbacks) data.messageQueue slots).take j :=
    List.take_zipWith.symm
  have hlength : ((List.zipWith (deserializeInto data.callbacks) data.messageQueue slots).take j).length = j := by
    rw [List.length_take, List.length_zipWith]
    omega
  have htaken : 0 + (slots.take j).length = j := by
    rw [List.length_take]
    omega
  simp only [List.take_append_drop, ← hsplit, hnil, hend, Option.map_some, hpairs, htaken] at hloop
  obtain ⟨pairs, hdef⟩ :
      ∃ pairs, (List.zipWith (deserializeInto data.callbacks) data.messageQueue slots).take j = pairs := ⟨_, rfl⟩
  rw [hdef] at hloop hlength
  refine ⟨_, by rw [takeSequence, hs, hloop, Option.map_some], rfl, rfl, rfl, rfl, rfl, ?_⟩
  rw [hdef, List.map_append, List.map_append, List.append_assoc, List.append_assoc, ← hlength]
  exact zip_take_pairs pairs _ _

theorem drop_of_getElem? {α : Type} {xs : List α} {k : Nat} {x : α} (h : xs[k]? = some x) :
    xs.drop k = x :: xs.drop (k + 1) := by
  obtain ⟨hk, hx⟩ := List.getElem?_eq_some_iff.mp h
  rw [List.drop_eq_getElem_cons hk, hx]

section Calls

variable {data : SubData R ω} {count : Nat} {messageSequence : RmwSequence R}
  {messageInfoSequence : RmwSequence RmwMessageInfo}

theorem takeSequence_rejected (hcount : count ≤ messageSequence.capacity)
    (hinfo : count ≤ messageInfoSequence.capacity) {k : Nat}
    (h : RejectedAt data.callbacks data.messageQueue
      ((messageSequence.data.zip messageInfoSequence.data).take count) k) :
    ∃ r, takeSequence data count messageSequence messageInfoSequence = some r ∧ r.ret = .error ∧
      r.data.messageQueue = data.messageQueue.drop (k + 1) ∧
      Reports data (messageSequence.data.zip messageInfoSequence.data) k r := by
  obtain ⟨ha, m, slot, hm, hslot, hd⟩ := h
  have hkn : k < data.messageQueue.length := (List.getElem?_eq_some_iff.mp hm).1
  have hkc : k < count := by
    have hk := (List.getElem?_eq_some_iff.mp hslot).1
    rw [List.length_take] at hk
    omega
  rw [List.take_take, Nat.min_eq_left hkc.le] at ha
  refine takeSequence_front hcount hinfo hkn.le hkc.le ha ?_
  rw [drop_of_getElem? hm, drop_of_getElem? hslot, takeSequenceLoop_cons, if_neg hd]
  exact ⟨_, rfl⟩

theorem takeSequence_full (hpos : 0 < count) (hcount : count ≤ messageSequence.capacity)
    (hinfo : count ≤ messageInfoSequence.capacity)
    (ha : Accepted data.callbacks data.messageQueue
      ((messageSequence.data.zip messageInfoSequence.data).take count))
    (hn : count ≤ data.messageQueue.length) :
    ∃ r, takeSequence data count messageSequence messageInfoSequence = some r ∧ r.ret = .ok ∧
      r.data.messageQueue = data.messageQueue.drop count ∧
      Reports data (messageSequence.data.zip messageInfoSequence.data) count r := by
  refine takeSequence_front hcount hinfo hn le_rfl (accepted_take ha le_rfl) ?_
  rw [List.drop_take_self, if_neg (Nat.pos_iff_ne_zero.mp hpos)]
  exact ⟨[], rfl⟩

/-- With messages missing the last round finds the queue empty, which is an
error of the single take. -/
theorem takeSequence_drained (hcount : count ≤ messageSequence.capacity)
    (hinfo : count ≤ messageInfoSequence.capacity)
    (ha : Accepted data.callbacks data.messageQueue
      ((messageSequence.data.zip messageInfoSequence.data).take count))
    (hn : data.messageQueue.length < count) :
    ∃ r, takeSequence data count messageSequence messageInfoSequence = some r ∧ r.ret = .error ∧
      r.data.messageQueue = [] ∧
      Reports data (messageSequence.data.zip messageInfoSequence.data) data.messageQueue.length r := by
  refine takeSequence_front hcount hinfo le_rfl hn.le (accepted_take ha hn.le) ?_
  have hslots : ((messageSequence.data.zip messageInfoSequence.data).take count).drop
      data.messageQueue.length ≠ [] := by
    have hlen : data.messageQueue.length <
        ((messageSequence.data.zip messageInfoSequence.data).take count).length := by
      rw [List.length_take, List.length_zip]
      exact lt_min hn (lt_min (hn.trans_le hcount) (hn.trans_le hinfo))
    exact mt List.drop_eq_nil_iff.mp (Nat.not_le.mpr hlen)
  obtain ⟨slot, slots, hback⟩ := List.exists_cons_of_ne_nil hslots
  rw [hback, List.drop_length, takeSequenceLoop_empty]
  exact ⟨_, rfl⟩

theorem rmwTakeSequence_valid (name : String) (taken : Nat) (hpos : 0 < count)
    (hcount : count ≤ messageSequence.capacity) (hinfo : count ≤ messageInfoSequence.capacity) :
    rmwTakeSequence (some (.ofData name data)) count (some messageSequence) (some messageInfoSequence)
        (some taken) =
      if count > uintMax then .error .error
      else .ok (takeSequence data count messageSequence messageInfoSequence) := by
  have hzero : count ≠ 0 := Nat.pos_iff_ne_zero.mp hpos
  have hfits : ¬count > messageSequence.capacity := Nat.not_lt.mpr hcount
  have hinfofits : ¬count > messageInfoSequence.capacity := Nat.not_lt.mpr hinfo
  simp only [rmwTakeSequence, ofData_name, ofData_data, ofData_identifier, Bool.not_true, Bool.false_eq_true,
    if_false, if_neg hzero, if_neg hfits, if_neg hinfofits]

theorem takesFirst_iff (name : String) (taken : Nat) (hpos : 0 < count)
    (hcount : count ≤ messageSequence.capacity) (hinfo : count ≤ messageInfoSequence.capacity) :
    (∃ r, rmwTakeSequence (some (.ofData name data)) count (some messageSequence)
        (some messageInfoSequence) (some taken) = .ok (some r) ∧
      TakesFirst data count (messageSequence.data.zip messageInfoSequence.data) r) ↔
      count ≤ uintMax ∧
        (Accepted data.callbacks data.messageQueue
            ((messageSequence.data.zip messageInfoSequence.data).take count) →
          count ≤ data.messageQueue.length) := by
  rw [rmwTakeSequence_valid name taken hpos hcount hinfo]
  constructor
  · rintro ⟨r, hr, htakes⟩
    split at hr
    · cases hr
    · rename_i hmax
      rw [Except.ok.injEq] at hr
      refine ⟨Nat.not_lt.mp hmax, ?_⟩
      intro ha
      by_contra hn
      obtain ⟨r', hr', hret, -⟩ := takeSequence_drained hcount hinfo ha (Nat.not_le.mp hn)
      obtain rfl := Option.some.inj (hr'.symm.trans hr)
      rw [(htakes.accepted ha).1] at hret
      cases hret
  · rintro ⟨hmax, hn⟩
    rw [if_neg (Nat.not_lt.mpr hmax)]
    rcases accepted_or_rejectedAt data.callbacks data.messageQueue
        ((messageSequence.data.zip messageInfoSequence.data).take count) with ha | ⟨k, hk⟩
    · obtain ⟨r, hr, hret, hqueue, hreports⟩ := takeSequence_full hpos hcount hinfo ha (hn ha)
      refine ⟨r, congrArg _ hr, fun _ => ?_, fun k hk => absurd hk (not_rejectedAt ha k)⟩
      rw [Nat.min_eq_right (hn ha)]
      exact ⟨hret, hreports, hqueue⟩
    · obtain ⟨r, hr, -⟩ := takeSequence_rejected hcount hinfo hk
      refine ⟨r, congrArg _ hr, fun ha => absurd hk (not_rejectedAt ha k), ?_⟩
      intro k' hk'
      obtain ⟨r', hr', hret, -, hreports⟩ := takeSequence_rejected hcount hinfo hk'
      obtain rfl := Option.some.inj (hr'.symm.trans hr)
      refine ⟨?_, hreports⟩
      rw [hret]
      decide

def places (n : Nat) : RmwSequence Unit := ⟨List.replicate n (), 0⟩

def infoPlaces (n : Nat) : RmwSequence RmwMessageInfo :=
  ⟨List.replicate n ⟨0, 0, 0, 0, ⟨none, fun _ => 0⟩, false⟩, 0⟩

def oneMessage : SubData Unit Unit := ⟨emptyMessageCallbacks, [plainMessage [0, 1, 0, 0]]⟩

theorem oneMessage_takesFirst :
    ∃ r, rmwTakeSequence (some (.ofData "topic" oneMessage)) 1 (some (places 1)) (some (infoPlaces 1))
        (some 0) = .ok (some r) ∧
      TakesFirst oneMessage 1 ((places 1).data.zip (infoPlaces 1).data) r :=
  (takesFirst_iff "topic" 0 (by decide) (by decide) (by decide)).mpr ⟨by decide, fun _ => by decide⟩

theorem oneMessage_drained :
    ¬ ∃ r, rmwTakeSequence (some (.ofData "topic" oneMessage)) 2 (some (places 2)) (some (infoPlaces 2))
        (some 0) = .ok (some r) ∧
      TakesFirst oneMessage 2 ((places 2).data.zip (infoPlaces 2).data) r := by
  have ha : Accepted oneMessage.callbacks oneMessage.messageQueue
      (((places 2).data.zip (infoPlaces 2).data).take 2) := by
    intro p hp
    obtain rfl := List.mem_singleton.mp hp
    rfl
  rintro ⟨r, hr, htakes⟩
  have hret : some RmwRet.error = some r.ret := congrArg (Option.map TakeSequenceResult.ret) (Except.ok.inj hr)
  rw [(htakes.accepted ha).1] at hret
  cases hret

end Calls

theorem takeOne_callbacks (data : SubData R ω) (rosMessage : R) (messageInfo : Option RmwMessageInfo) :
    (rmwZenohPicoTakeOne data rosMessage messageInfo false).data.callbacks = data.callbacks := by
  cases hq : data.messageQueue <;> simp [rmwZenohPicoTakeOne, MessageQueue.pop, hq]

/-- The loop over a queue of linked messages does what it does over their
contents. -/
theorem takeSequenceLoop_refines [DecidableEq A] (callbacks : MessageTypeSupportCallbacks R)
    (slots : List (Slot R)) {s : MessageState A ω} {xs : List A} (h : Queued s.1 s.2 xs) (ret : RmwRet) :
    ∃ r s' ys, takeSequenceLoop takeOne ret ⟨callbacks, xs.map s.1.content⟩ slots = some r ∧
      takeSequenceLoop (MessageRelease.rmwZenohPicoTakeOne callbacks) ret s slots =
        some ⟨r.ret, s', r.slots, r.taken⟩ ∧
      Queued s'.1 s'.2 ys ∧ r.data.messageQueue = ys.map s'.1.content := by
  induction slots generalizing s xs ret with
  | nil => exact ⟨_, s, xs, rfl, rfl, h, rfl⟩
  | cons slot slots ih =>
      obtain ⟨s₁, ys, htake, hqueued, hqueue⟩ := MessageRelease.takeOne_refines h
        (rfl : (⟨callbacks, xs.map s.1.content⟩ : SubData R ω).messageQueue = xs.map s.1.content) slot.1
        (some slot.2) false
      have hcallbacks : (rmwZenohPicoTakeOne (⟨callbacks, xs.map s.1.content⟩ : SubData R ω) slot.1
          (some slot.2) false).data.callbacks = callbacks := takeOne_callbacks _ slot.1 (some slot.2)
      simp only [takeSequenceLoop, takeOne, Option.bind_some, htake]
      generalize rmwZenohPicoTakeOne (⟨callbacks, xs.map s.1.content⟩ : SubData R ω) slot.1 (some slot.2)
        false = r₁ at hqueue hcallbacks ⊢
      have hdata : r₁.data = ⟨callbacks, ys.map s₁.1.content⟩ := by
        rw [← hqueue, ← hcallbacks]
      split
      · exact ⟨_, s₁, ys, rfl, rfl, hqueued, hqueue⟩
      · obtain ⟨r, s', zs, hloop, hlinked, hrest, hcontents⟩ := ih hqueued r₁.ret
        rw [hdata, hloop, hlinked]
        exact ⟨_, s', zs, rfl, rfl, hrest, hcontents⟩

end RmwZenohPico.TakeSequence
