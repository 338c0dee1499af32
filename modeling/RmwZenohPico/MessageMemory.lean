import RmwZenohPico.Lib.RefHeap
import RmwZenohPico.MessageList
import RmwZenohPico.RosMessage

namespace RmwZenohPico.MessageMemory

open Lib.RefHeap RmwTypes RosMessage MessageList

variable {A ω : Type}

inductive Part (A : Type)
  | payload (a : A)
  | gid (a : A)
  | keyexpr (a : A)
  | query (a : A)
  | message (a : A)
  deriving DecidableEq

/-- The received messages of the process: what they hold, their counts, their
next members, and what has been released so far. -/
structure Memory (A ω : Type) where
  content : A → ReceiveMessageData ω
  object : Heap A
  links : Links A
  released : List (Part A)

def Memory.members (m : Memory A ω) (a : A) : List (Part A) :=
  (if (m.content a).payloadStart.isSome then [.payload a] else []) ++ [.gid a] ++
    if (m.content a).type = .query then [.keyexpr a, .query a] else []

def Memory.parts (m : Memory A ω) (a : A) : List (Part A) := m.members a ++ [.message a]

variable [DecidableEq A]

def zenohPicoDataDestroy (m : Memory A ω) (a : A) : Option (Memory A ω) :=
  (destroy m.object a).map fun object =>
    { m with
      object := object
      released := m.released ++ if object a = .freed then [.message a] else [] }

def zenohPicoDeleteRecvMsgData (m : Memory A ω) (a : A) : Option (Memory A ω) :=
  (release m.object a).bind fun (object, last) =>
    let m := { m with object := object }
    if last then zenohPicoDataDestroy { m with released := m.released ++ m.members a } a else some m

def Memory.pop (m : Memory A ω) (msgList : ReceiveMessageDataList A) :
    Option (Memory A ω × ReceiveMessageDataList A × Option A) :=
  let r := recvMsgListPop m.links msgList
  if r.2.2.all fun a => (m.object a).isLive then some ({ m with links := r.1 }, r.2.1, r.2.2) else none

def Memory.pickup (fuel : Nat) (m : Memory A ω) (msgList : ReceiveMessageDataList A) (func : A → Bool) :
    Option (Memory A ω × ReceiveMessageDataList A × Option A) :=
  (recvMsgListPickup fuel m.links msgList func).bind fun r =>
    if r.2.2.all fun a => (m.object a).isLive then some ({ m with links := r.1 }, r.2.1, r.2.2) else none

/-- The queue holds these messages, each with the one reference that it was
generated with. -/
structure Queued (m : Memory A ω) (msgList : ReceiveMessageDataList A) (xs : List A) : Prop where
  represents : Represents m.links msgList xs
  referenced : ∀ a ∈ xs, m.object a = .live 1

/-- Every part of these messages was released once, and nothing else. -/
def ReleasedOnce (m m' : Memory A ω) (xs : List A) : Prop :=
  ∃ new, m'.released = m.released ++ new ∧
    ∀ p, new.count p = if ∃ a ∈ xs, p ∈ m.parts a then 1 else 0

omit [DecidableEq A] in
theorem members_owner {m : Memory A ω} {a : A} {p : Part A} (h : p ∈ m.members a) :
    p = .payload a ∨ p = .gid a ∨ p = .keyexpr a ∨ p = .query a := by
  simp only [Memory.members, List.mem_append, List.mem_singleton] at h
  rcases h with (h | h) | h
  · split at h
    · exact Or.inl (List.mem_singleton.mp h)
    · cases h
  · exact Or.inr (Or.inl h)
  · split at h
    · rcases List.mem_cons.mp h with h | h
      · exact Or.inr (Or.inr (Or.inl h))
      · exact Or.inr (Or.inr (Or.inr (List.mem_singleton.mp h)))
    · cases h

omit [DecidableEq A] in
theorem parts_congr_at {m m' : Memory A ω} {a : A} (h : m'.content a = m.content a) :
    m'.parts a = m.parts a := by
  simp only [Memory.parts, Memory.members, h]

omit [DecidableEq A] in
theorem parts_congr {m m' : Memory A ω} (h : m'.content = m.content) : m'.parts = m.parts := by
  funext a
  exact parts_congr_at (congrFun h a)

omit [DecidableEq A] in
theorem parts_nodup (m : Memory A ω) (a : A) : (m.parts a).Nodup := by
  unfold Memory.parts Memory.members
  split <;> split <;> simp

omit [DecidableEq A] in
theorem parts_disjoint (m : Memory A ω) {a b : A} (h : a ≠ b) : (m.parts a).Disjoint (m.parts b) := by
  intro p ha hb
  simp only [Memory.parts, List.mem_append, List.mem_singleton] at ha hb
  rcases ha with ha | rfl
  · rcases hb with hb | rfl
    · rcases members_owner ha with rfl | rfl | rfl | rfl <;>
        rcases members_owner hb with hb | hb | hb | hb <;> cases hb <;> exact h rfl
    · rcases members_owner ha with ha | ha | ha | ha <;> cases ha
  · rcases hb with hb | hb
    · rcases members_owner hb with hb | hb | hb | hb <;> cases hb
    · cases hb
      exact h rfl

omit [DecidableEq A] in
theorem parts_flatMap_nodup (m : Memory A ω) {xs : List A} (h : xs.Nodup) : (xs.flatMap m.parts).Nodup := by
  rw [List.nodup_flatMap]
  exact ⟨fun a _ => parts_nodup m a, h.imp fun hne => parts_disjoint m hne⟩

theorem releasedOnce_of_eq {m m' : Memory A ω} {xs : List A} (h : xs.Nodup)
    (hr : m'.released = m.released ++ xs.flatMap m.parts) : ReleasedOnce m m' xs := by
  refine ⟨_, hr, ?_⟩
  intro p
  split
  · rename_i hp
    exact List.count_eq_one_of_mem (parts_flatMap_nodup m h) (List.mem_flatMap.mpr hp)
  · rename_i hp
    exact List.count_eq_zero_of_not_mem fun hm => hp (List.mem_flatMap.mp hm)

omit [DecidableEq A] in
theorem message_mem_parts {m : Memory A ω} {a b : A} : .message a ∈ m.parts b ↔ a = b := by
  rw [Memory.parts, List.mem_append, List.mem_singleton, Part.message.injEq]
  constructor
  · rintro (hm | rfl)
    · rcases members_owner hm with h | h | h | h <;> cases h
    · rfl
  · exact Or.inr

theorem releasedOnce_perm {m m' : Memory A ω} {xs ys : List A} (h : xs.Perm ys) :
    ReleasedOnce m m' xs ↔ ReleasedOnce m m' ys := by
  simp only [ReleasedOnce, h.mem_iff]

/-- Which messages are released shows in which message objects are. -/
theorem releasedOnce_iff {m m' : Memory A ω} {xs ys : List A} (h : xs.Nodup) (hs : ys.Sublist xs)
    (hr : m'.released = m.released ++ ys.flatMap m.parts) : ReleasedOnce m m' xs ↔ ys = xs := by
  constructor
  · rintro ⟨new, hnew, hcount⟩
    rw [hr, List.append_right_inj] at hnew
    have hsub : xs ⊆ ys := by
      intro a ha
      have hone := hcount (.message a)
      rw [if_pos ⟨a, ha, message_mem_parts.mpr rfl⟩, ← hnew] at hone
      have hmem : Part.message a ∈ ys.flatMap m.parts := List.count_pos_iff.mp (by omega)
      obtain ⟨b, hb, hab⟩ := List.mem_flatMap.mp hmem
      rwa [message_mem_parts.mp hab]
    exact hs.eq_of_length (le_antisymm hs.length_le (h.subperm hsub).length_le)
  · rintro rfl
    exact releasedOnce_of_eq h hr

theorem delete_eq {m : Memory A ω} {a : A} (h : m.object a = .live 1) :
    zenohPicoDeleteRecvMsgData m a = some { m with
      object := Function.update m.object a .freed
      released := m.released ++ m.parts a } := by
  have hmembers : ({ m with object := Function.update m.object a (.live 0) } : Memory A ω).members a =
      m.members a := rfl
  simp [zenohPicoDeleteRecvMsgData, zenohPicoDataDestroy, release, refDec, destroy, h, Memory.parts,
    hmembers]

theorem dataDestroy_referenced {m : Memory A ω} {a : A} (h : m.object a = .live 1) :
    zenohPicoDataDestroy m a = some m := by
  have hd := destroy_referenced h (by decide)
  simp [zenohPicoDataDestroy, hd, h]

theorem pop_empty {m : Memory A ω} {msgList : ReceiveMessageDataList A} (h : Queued m msgList []) :
    m.pop msgList = some (m, msgList, none) := by
  have htop : msgList.queTop = none := h.represents.top
  simp [Memory.pop, recvMsgListPop, htop]

theorem pop_cons {m : Memory A ω} {msgList : ReceiveMessageDataList A} {a : A} {xs : List A}
    (h : Queued m msgList (a :: xs)) :
    ∃ links msgList', m.pop msgList = some ({ m with links := links }, msgList', some a) ∧
      Queued { m with links := links } msgList' xs ∧ ∀ b, b ∉ a :: xs → links b = m.links b := by
  have hr := pop_removes h.represents
  have ha := h.referenced a List.mem_cons_self
  refine ⟨(recvMsgListPop m.links msgList).1, (recvMsgListPop m.links msgList).2.1, ?_, ⟨hr.represents, ?_⟩,
    hr.frame⟩
  · have hret : (recvMsgListPop m.links msgList).2.2 = some a := hr.returned
    simp [Memory.pop, hret, ha, Cell.isLive]
  · intro b hb
    exact h.referenced b (List.mem_cons_of_mem _ hb)

theorem pickup_queued {m : Memory A ω} {msgList : ReceiveMessageDataList A} {xs : List A}
    (func : A → Bool) (h : Queued m msgList xs) {fuel : Nat} (hf : xs.length ≤ fuel) :
    ∃ links msgList', m.pickup fuel msgList func =
        some ({ m with links := links }, msgList', (MessageQueue.pickup xs func).1) ∧
      Queued { m with links := links } msgList' (MessageQueue.pickup xs func).2 := by
  obtain ⟨r, hr, hrem⟩ := pickup_removes func h.represents fuel hf
  refine ⟨r.1, r.2.1, ?_, ⟨hrem.represents, ?_⟩⟩
  · have hlive : (MessageQueue.pickup xs func).1.all fun a => (m.object a).isLive := by
      rw [Option.all_eq_true]
      intro a ha
      rw [h.referenced a (MessageQueue.mem_of_pickup ha)]
      rfl
    simp only [Memory.pickup, hr, Option.bind_some, hrem.returned, hlive, if_true]
  · intro a ha
    exact h.referenced a (List.mem_of_mem_eraseP ha)

omit [DecidableEq A] in
theorem queued_unique {m : Memory A ω} {msgList : ReceiveMessageDataList A} {xs ys : List A}
    (hx : Queued m msgList xs) (hy : Queued m msgList ys) : xs = ys :=
  Lib.LinkedSegment.chain_unique hx.represents.chain hy.represents.chain

omit [DecidableEq A] in
theorem Queued.frame {m m' : Memory A ω} {msgList : ReceiveMessageDataList A} {xs : List A}
    (h : Queued m msgList xs) (hl : ∀ a ∈ xs, m'.links a = m.links a)
    (ho : ∀ a ∈ xs, m'.object a = m.object a) : Queued m' msgList xs := by
  refine ⟨h.represents.frame hl, ?_⟩
  intro a ha
  rw [ho a ha]
  exact h.referenced a ha

theorem delete_queued {m : Memory A ω} {msgList : ReceiveMessageDataList A} {a : A} {xs : List A}
    (h : Queued m msgList xs) (ha : a ∉ xs) (hlive : m.object a = .live 1) :
    ∃ object, zenohPicoDeleteRecvMsgData m a =
        some { m with object := object, released := m.released ++ m.parts a } ∧
      Queued { m with object := object, released := m.released ++ m.parts a } msgList xs ∧
      ∀ b, b ≠ a → object b = m.object b := by
  have hframe : ∀ b, b ≠ a → Function.update m.object a .freed b = m.object b :=
    fun b hb => Function.update_of_ne hb ..
  refine ⟨Function.update m.object a .freed, delete_eq hlive, ?_, hframe⟩
  refine h.frame (fun _ _ => rfl) ?_
  intro b hb
  have hne : b ≠ a := fun heq => ha (heq ▸ hb)
  exact hframe b hne

def generated (content : A → ReceiveMessageData ω) : Memory A ω :=
  ⟨content, fun _ => .live 1, fun _ => none, []⟩

def single (a : A) : ReceiveMessageDataList A := ⟨some a, some a, 1⟩

omit [DecidableEq A] in
theorem single_queued (content : A → ReceiveMessageData ω) (a : A) :
    Queued (generated content) (single a) [a] :=
  ⟨⟨⟨rfl, rfl⟩, rfl, rfl⟩, fun _ _ => rfl⟩

end RmwZenohPico.MessageMemory
