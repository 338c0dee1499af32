import RmwZenohPico.Lib.LinkedSegment
import RmwZenohPico.MessageQueue
import Mathlib.Data.List.Induction

namespace RmwZenohPico.MessageList

open Lib.LinkedSegment

variable {A : Type}

/-- A queue header. Messages are named by their addresses, and count is an
int which stays exact while the queue is shorter than 2^31. -/
structure ReceiveMessageDataList (A : Type) where
  queTop : Option A
  queBottom : Option A
  count : Int
  deriving DecidableEq

abbrev Links (A : Type) := A → Option A

def recvMsgListInit : ReceiveMessageDataList A := ⟨none, none, 0⟩

section Operations

variable [DecidableEq A]

def recvMsgListAppend (next : Links A) (msgList : ReceiveMessageDataList A) (recvData : A) :
    Links A × ReceiveMessageDataList A :=
  let next := Function.update next recvData none
  let next := match msgList.queBottom with
    | some bottomMsg => Function.update next bottomMsg (some recvData)
    | none => next
  let queTop := match msgList.queTop with
    | some topMsg => some topMsg
    | none => some recvData
  (next, ⟨queTop, some recvData, msgList.count + 1⟩)

def recvMsgListPop (next : Links A) (msgList : ReceiveMessageDataList A) :
    Links A × ReceiveMessageDataList A × Option A :=
  match msgList.queTop with
  | none => (next, msgList, none)
  | some topMsg =>
      let queBottom := if msgList.queBottom = some topMsg then none else msgList.queBottom
      (Function.update next topMsg none, ⟨next topMsg, queBottom, msgList.count - 1⟩, some topMsg)

/-- The while loop over the second and later messages. The predicate does not
write the heap, so it is a function of the message. None is only returned
when the fuel runs out. -/
def pickupLoop (func : A → Bool) (next : Links A) (msgList : ReceiveMessageDataList A) :
    Nat → A → A → Option (Links A × ReceiveMessageDataList A × Option A)
  | 0, _, _ => none
  | fuel + 1, beforeMsg, currentMsg =>
      match next currentMsg with
      | none => some (next, msgList, none)
      | some currentMsg =>
          if func currentMsg then
            let queBottom :=
              if msgList.queBottom = some currentMsg then some beforeMsg else msgList.queBottom
            some (Function.update (Function.update next beforeMsg (next currentMsg)) currentMsg none,
              ⟨msgList.queTop, queBottom, msgList.count - 1⟩, some currentMsg)
          else pickupLoop func next msgList fuel currentMsg currentMsg

def recvMsgListPickup (fuel : Nat) (next : Links A) (msgList : ReceiveMessageDataList A)
    (func : A → Bool) : Option (Links A × ReceiveMessageDataList A × Option A) :=
  match msgList.queTop with
  | none => some (next, msgList, none)
  | some currentMsg =>
      if func currentMsg then
        let queBottom := if msgList.queBottom = some currentMsg then none else msgList.queBottom
        some (Function.update next currentMsg none,
          ⟨next currentMsg, queBottom, msgList.count - 1⟩, some currentMsg)
      else pickupLoop func next msgList fuel currentMsg currentMsg

end Operations

def recvMsgListCount (msgList : ReceiveMessageDataList A) : Int := msgList.count

def recvMsgListEmpty (msgList : ReceiveMessageDataList A) : Bool := recvMsgListCount msgList == 0

structure Represents (next : Links A) (msgList : ReceiveMessageDataList A) (xs : List A) : Prop where
  chain : Chain next msgList.queTop xs
  bottom : msgList.queBottom = xs.getLast?
  count : msgList.count = xs.length

theorem init_represents (next : Links A) : Represents next recvMsgListInit [] := ⟨rfl, rfl, rfl⟩

theorem Represents.nodup {next : Links A} {msgList : ReceiveMessageDataList A} {xs : List A}
    (h : Represents next msgList xs) : xs.Nodup :=
  chain_nodup h.chain

theorem Represents.top {next : Links A} {msgList : ReceiveMessageDataList A} {xs : List A}
    (h : Represents next msgList xs) : msgList.queTop = xs.head? :=
  chain_head h.chain

theorem Represents.top_none_iff {next : Links A} {msgList : ReceiveMessageDataList A} {xs : List A}
    (h : Represents next msgList xs) : msgList.queTop = none ↔ msgList.queBottom = none := by
  rw [h.top, h.bottom, List.head?_eq_none_iff, List.getLast?_eq_none_iff]

theorem Represents.bottom_next {next : Links A} {msgList : ReceiveMessageDataList A} {xs : List A}
    (h : Represents next msgList xs) {b : A} (hb : msgList.queBottom = some b) : next b = none := by
  have hl : xs.getLast? = some b := h.bottom.symm.trans hb
  obtain ⟨ys, rfl⟩ := List.getLast?_eq_some_iff.mp hl
  have hc : Chain next (some b) [b] := chain_suffix ys [] h.chain
  exact hc.2

theorem Represents.frame {next next' : Links A} {msgList : ReceiveMessageDataList A} {xs : List A}
    (h : Represents next msgList xs) (hf : ∀ a ∈ xs, next' a = next a) : Represents next' msgList xs :=
  ⟨(segment_congr hf).mpr h.chain, h.bottom, h.count⟩

theorem empty_iff {next : Links A} {msgList : ReceiveMessageDataList A} {xs : List A}
    (h : Represents next msgList xs) : recvMsgListEmpty msgList = xs.isEmpty := by
  cases xs with
  | nil => simp [recvMsgListEmpty, recvMsgListCount, h.count]
  | cons x xs =>
      have hc : msgList.count ≠ 0 := by rw [h.count, List.length_cons]; omega
      simp [recvMsgListEmpty, recvMsgListCount, hc]

variable [DecidableEq A]

theorem append_represents {next : Links A} {msgList : ReceiveMessageDataList A} {xs : List A} {d : A}
    (h : Represents next msgList xs) (hd : d ∉ xs) :
    Represents (recvMsgListAppend next msgList d).1 (recvMsgListAppend next msgList d).2 (xs ++ [d]) := by
  have hcount : msgList.count + 1 = ((xs ++ [d]).length : Int) := by
    rw [h.count, List.length_append]; rfl
  cases xs using List.reverseRecOn with
  | nil =>
      have ht : msgList.queTop = none := h.top
      have hb : msgList.queBottom = none := h.bottom
      refine ⟨?_, by simp [recvMsgListAppend], hcount⟩
      simp [recvMsgListAppend, ht, hb, Segment]
  | append_singleton xs x =>
      have hb : msgList.queBottom = some x := by simpa using h.bottom
      obtain ⟨t, ht⟩ : ∃ t, msgList.queTop = some t := by
        rw [h.top]
        cases xs <;> simp
      refine ⟨?_, by simp [recvMsgListAppend], hcount⟩
      have hc := chain_push h.chain hd
      simpa only [recvMsgListAppend, ht, hb] using hc

theorem append_frame {next : Links A} {msgList : ReceiveMessageDataList A} {xs : List A} {d a : A}
    (h : Represents next msgList xs) (hd : a ≠ d) (ha : a ∉ xs) :
    (recvMsgListAppend next msgList d).1 a = next a := by
  cases hb : msgList.queBottom with
  | none => simp [recvMsgListAppend, hb, hd]
  | some b =>
      have hl : xs.getLast? = some b := h.bottom.symm.trans hb
      have hab : a ≠ b := fun he => ha (he ▸ List.mem_of_getLast? hl)
      simp [recvMsgListAppend, hb, hd, hab]

/-- Removing the first message: the header moves to the second one, and the
bottom pointer is cleared exactly when there is none. -/
theorem remove_first {next : Links A} {msgList : ReceiveMessageDataList A} {x : A} {xs : List A}
    (h : Represents next msgList (x :: xs)) :
    Represents (Function.update next x none)
      ⟨next x, if msgList.queBottom = some x then none else msgList.queBottom, msgList.count - 1⟩ xs := by
  refine ⟨chain_tail h.chain, ?_, ?_⟩
  · have hx : x ∉ xs := (List.nodup_cons.mp h.nodup).1
    rw [h.bottom]
    cases xs using List.reverseRecOn with
    | nil => simp
    | append_singleton xs y =>
        have hxy : y ≠ x := fun he => hx (by simp [he])
        simp [List.getLast?_cons, hxy]
  · change msgList.count - 1 = _
    rw [h.count, List.length_cons]
    omega

theorem remove_first_frame {next : Links A} {x a : A} {xs : List A} (ha : a ∉ x :: xs) :
    Function.update next x none a = next a :=
  Function.update_of_ne (fun he : a = x => ha (by simp [he])) none next

theorem remove_later {next : Links A} {msgList : ReceiveMessageDataList A} {us ys : List A} {b d : A}
    (h : Represents next msgList (us ++ b :: d :: ys)) :
    Represents (Function.update (Function.update next b (next d)) d none)
      ⟨msgList.queTop, if msgList.queBottom = some d then some b else msgList.queBottom,
        msgList.count - 1⟩ (us ++ b :: ys) := by
  refine ⟨chain_unlink h.chain, ?_, ?_⟩
  · have hd : d ∉ ys := by
      have hn := (List.nodup_append.mp h.nodup).2.1
      exact (List.nodup_cons.mp (List.nodup_cons.mp hn).2).1
    rw [h.bottom]
    cases ys using List.reverseRecOn with
    | nil => simp
    | append_singleton ys y =>
        have hyd : y ≠ d := fun he => hd (by simp [he])
        simp [List.getLast?_append, List.getLast?_cons, hyd]
  · change msgList.count - 1 = _
    rw [h.count]
    simp only [List.length_append, List.length_cons]
    omega

structure Removes (next : Links A) (xs : List A) (ret : Option A) (ys : List A)
    (result : Links A × ReceiveMessageDataList A × Option A) : Prop where
  returned : result.2.2 = ret
  represents : Represents result.1 result.2.1 ys
  frame : ∀ a, a ∉ xs → result.1 a = next a
  cleared : ∀ x, ret = some x → result.1 x = none

theorem pop_removes {next : Links A} {msgList : ReceiveMessageDataList A} {xs : List A}
    (h : Represents next msgList xs) :
    Removes next xs (MessageQueue.pop xs).1 (MessageQueue.pop xs).2 (recvMsgListPop next msgList) := by
  cases xs with
  | nil =>
      have ht : msgList.queTop = none := h.top
      simp only [recvMsgListPop, ht]
      exact ⟨rfl, h, fun a _ => rfl, fun x hx => by cases hx⟩
  | cons x xs =>
      have ht : msgList.queTop = some x := h.top
      simp only [recvMsgListPop, ht]
      refine ⟨rfl, remove_first h, fun a ha => remove_first_frame ha, ?_⟩
      intro y hy
      cases hy
      exact Function.update_self ..

/-- The loop invariant: the messages up to and including the current one do
not match, and before and current are the same message. -/
theorem pickupLoop_removes {next : Links A} {msgList : ReceiveMessageDataList A} {func : A → Bool}
    (us vs : List A) (b : A) (h : Represents next msgList (us ++ b :: vs))
    (fuel : Nat) (hf : vs.length < fuel) :
    ∃ result, pickupLoop func next msgList fuel b b = some result ∧
      Removes next (us ++ b :: vs) (vs.find? func) (us ++ b :: vs.eraseP func) result := by
  induction vs generalizing us b fuel with
  | nil =>
      obtain ⟨fuel, rfl⟩ : ∃ n, fuel = n + 1 := ⟨fuel - 1, by simp at hf; omega⟩
      have hb : next b = none := (chain_suffix us [] h.chain).2
      refine ⟨(next, msgList, none), by simp [pickupLoop, hb], rfl, h, fun a _ => rfl, ?_⟩
      intro x hx
      cases hx
  | cons d vs ih =>
      obtain ⟨fuel, rfl⟩ : ∃ n, fuel = n + 1 := ⟨fuel - 1, by simp at hf; omega⟩
      have hb : next b = some d := (chain_suffix us (d :: vs) h.chain).2.1
      cases hd : func d with
      | true =>
          simp only [pickupLoop, hb, hd, if_true, List.find?_cons, List.eraseP_cons_of_pos]
          refine ⟨_, rfl, rfl, remove_later h, ?_, ?_⟩
          · intro a ha
            simp only [List.mem_append, List.mem_cons, not_or] at ha
            simp [ha.2.1, ha.2.2.1]
          · intro x hx
            cases hx
            exact Function.update_self ..
      | false =>
          have hs : us ++ b :: d :: vs = (us ++ [b]) ++ d :: vs := by simp
          simp only [List.length_cons] at hf
          obtain ⟨result, hr, hrem⟩ := ih (us ++ [b]) d (hs ▸ h) fuel (by omega)
          refine ⟨result, by simpa [pickupLoop, hb, hd] using hr, ?_⟩
          rw [List.find?_cons_of_neg (by simp [hd]), List.eraseP_cons_of_neg (by simp [hd]), hs]
          simpa using hrem

theorem pickup_removes {next : Links A} {msgList : ReceiveMessageDataList A} {xs : List A}
    (func : A → Bool) (h : Represents next msgList xs) (fuel : Nat) (hf : xs.length ≤ fuel) :
    ∃ result, recvMsgListPickup fuel next msgList func = some result ∧
      Removes next xs (MessageQueue.pickup xs func).1 (MessageQueue.pickup xs func).2 result := by
  cases xs with
  | nil =>
      have ht : msgList.queTop = none := h.top
      refine ⟨(next, msgList, none), by simp [recvMsgListPickup, ht], rfl, h, fun a _ => rfl, ?_⟩
      intro x hx
      cases hx
  | cons x xs =>
      have ht : msgList.queTop = some x := h.top
      cases hx : func x with
      | true =>
          simp only [recvMsgListPickup, ht, hx, if_true, MessageQueue.pickup, List.find?_cons,
            List.eraseP_cons_of_pos]
          refine ⟨_, rfl, rfl, remove_first h, fun a ha => remove_first_frame ha, ?_⟩
          intro y hy
          cases hy
          exact Function.update_self ..
      | false =>
          simp only [List.length_cons] at hf
          obtain ⟨result, hr, hrem⟩ := @pickupLoop_removes A _ next msgList func [] xs x h fuel (by omega)
          refine ⟨result, by simpa [recvMsgListPickup, ht, hx] using hr, ?_⟩
          simp only [MessageQueue.pickup]
          rw [List.find?_cons_of_neg (by simp [hx]), List.eraseP_cons_of_neg (by simp [hx])]
          exact hrem

end RmwZenohPico.MessageList
