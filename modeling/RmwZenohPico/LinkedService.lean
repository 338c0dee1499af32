import RmwZenohPico.MessageStore
import RmwZenohPico.PendingRequests
import Mathlib.Data.Fintype.EquivFin

namespace RmwZenohPico.LinkedService

open Lib.LabelledMachine RmwTypes Attachment RosMessage Service MessageStore

variable {A Req Res ω S B D : Type} [DecidableEq A]

inductive Queue
  | request
  | response
  deriving DecidableEq

/-- The linked queues hold the messages of a service, whose queues so far were
sequences. content says what is stored at an address. -/
structure Holds (content : A → ReceiveMessageData ω) (s : Store A Queue) (q : Queue → List A)
    (data : ServiceData Req Res ω) : Prop where
  refines : Refines s q
  request : data.requestQueue = (q .request).map content
  response : data.responseQueue = (q .response).map content

def Follows (fuel : Nat) (s : Store A Queue) (q : Queue → List A) (data : ServiceData Req Res ω) : Prop :=
  ∃ ops content s' q', run (machine fuel) s ops = some s' ∧ Holds content s' q' data ∧
    ∀ i, (q' i).length ≤ (q i).length + 1

variable {content : A → ReceiveMessageData ω} {s : Store A Queue} {q : Queue → List A}
  {data : ServiceData Req Res ω} {fuel : Nat}

theorem map_update_of_fresh {xs : List A} {d : A} (m : ReceiveMessageData ω) (hd : d ∉ xs) :
    xs.map (Function.update content d m) = xs.map content := by
  apply List.map_congr_left
  intro x hx
  apply Function.update_of_ne
  rintro rfl
  exact hd hx

theorem addNewRequestMessage_linked (hs : Holds content s q data) (m : ReceiveMessageData ω) {d : A}
    (hd : ∀ i, d ∉ q i) (hf : ∀ i, (q i).length ≤ fuel) :
    Follows fuel s q (addNewRequestMessage data m) := by
  obtain ⟨s', he, hr, -⟩ := exec_refines hs.refines (.append .request d) hd fuel hf
  refine ⟨[.append .request d], Function.update content d m, s', _, by simp [run, machine, he], ⟨hr, ?_, ?_⟩, ?_⟩
  · simp [specExec, addNewRequestMessage, MessageQueue.append, hs.request, map_update_of_fresh m (hd .request)]
  · simp [specExec, addNewRequestMessage, hs.response, map_update_of_fresh m (hd .response)]
  · exact fun i => specExec_length q _ i

theorem takeRequest_linked (hs : Holds content s q data) (header : Option RmwServiceInfo) (rosRequest : Req)
    (taken : Bool) (hf : ∀ i, (q i).length ≤ fuel) :
    Follows fuel s q (takeRequest data header rosRequest taken).data := by
  cases hq : q .request with
  | nil =>
      have hempty : data.requestQueue = [] := by rw [hs.request, hq]; rfl
      rw [takeRequest_empty hempty]
      exact ⟨[], content, s, q, rfl, hs, fun i => Nat.le_succ _⟩
  | cons d ds =>
      have hpop : data.requestQueue = content d :: ds.map content := by rw [hs.request, hq]; rfl
      obtain ⟨s₁, he₁, hr₁, hdet⟩ := exec_refines hs.refines (.pop .request) trivial fuel hf
      let q₁ := Function.update q .request ds
      have hspec : specExec q (.pop .request) = (q₁, .message (some d)) := by
        simp [specExec, MessageQueue.pop, hq, q₁]
      rw [hspec] at he₁ hr₁ hdet
      have hf₁ : ∀ i, (q₁ i).length ≤ fuel := by
        intro i
        have hi := hf i
        cases i with
        | request =>
            rw [hq, List.length_cons] at hi
            simp only [q₁, Function.update_self]
            omega
        | response => simpa [q₁] using hi
      obtain ⟨s₂, he₂, hr₂, -⟩ := exec_refines hr₁ (.append .response d) hdet.2 fuel hf₁
      refine ⟨[.pop .request, .append .response d], content, s₂, _, by simp [run, machine, he₁, he₂],
        ⟨hr₂, ?_, ?_⟩, ?_⟩
      · simp [takeRequest, MessageQueue.pop, hpop, specExec, q₁]
      · simp [takeRequest, MessageQueue.pop, hpop, specExec, MessageQueue.append, hs.response, q₁]
      · intro i
        cases i with
        | request =>
            simp [specExec, q₁, hq]
            omega
        | response => simp [specExec, MessageQueue.append, q₁]

theorem sendResponse_linked {z : ZeSerializer S B D} {id : RmwRequestId} {res : Res} {env : SendEnvironment}
    {r : SendResponseResult Req Res ω B} (hs : Holds content s q data)
    (hr : sendResponse z data id res env = some r) (hf : ∀ i, (q i).length ≤ fuel) :
    Follows fuel s q r.data := by
  obtain ⟨-, hdata, -⟩ := sendResponse_cases hr
  have hpick := MessageQueue.pickup_map content (q .response) (compareResponceMsg id)
  rw [← hs.response] at hpick
  obtain ⟨s', he, hr', -⟩ := exec_refines hs.refines
    (.pickup .response (compareResponceMsg id ∘ content)) trivial fuel hf
  refine ⟨[.pickup .response (compareResponceMsg id ∘ content)], content, s', _,
    by simp [run, machine, he], ⟨hr', ?_, ?_⟩, ?_⟩
  · simp [hdata, specExec, hs.request]
  · simp [hdata, specExec, hpick]
  · exact fun i => specExec_length q _ i

theorem step_linked [Infinite A] {z : ZeSerializer S B D}
    {h h' : PendingRequests.History Req Res ω} {l : PendingRequests.Label Req Res ω B}
    (hs : Holds content s q h.service) (hf : ∀ i, (q i).length ≤ fuel)
    (hstep : PendingRequests.step z h l = some h') : Follows fuel s q h'.service := by
  cases l with
  | arrive query recvTs alloc =>
      have hservice : h'.service = (requestHandler z h.service query recvTs alloc).1 := by
        cases hm : rmwZenohPicoGenerateRecvQueryMsgData (ω := ω) z query recvTs alloc with
        | none =>
            simp only [PendingRequests.step, hm, Option.some.injEq] at hstep
            rw [← hstep]
        | some m =>
            simp only [PendingRequests.step, hm, Option.ite_none_left_eq_some, Option.some.injEq] at hstep
            rw [← hstep.2]
      rw [hservice]
      rcases requestHandler_cases z h.service query recvTs alloc with hsame | ⟨m, -, -, hadd⟩
      · rw [hsame]
        exact ⟨[], content, s, q, rfl, hs, fun i => Nat.le_succ _⟩
      · obtain ⟨d, hd⟩ := Infinite.exists_notMem_finset ((q .request ++ q .response).toFinset)
        rw [List.mem_toFinset, List.mem_append, not_or] at hd
        rw [hadd]
        apply addNewRequestMessage_linked hs m _ hf
        · exact d
        · intro i
          cases i with
          | request => exact hd.1
          | response => exact hd.2
  | takeRequest header rosRequest taken =>
      cases hstep
      exact takeRequest_linked hs (some header) rosRequest taken hf
  | sendResponse id res env =>
      simp only [PendingRequests.step, Option.ite_none_right_eq_some, Option.map_eq_some_iff] at hstep
      obtain ⟨-, r, hr, rfl⟩ := hstep
      exact sendResponse_linked hs hr hf

/-- Every run of the service on sequences is a run on linked queues which
represent them at its end. -/
theorem run_linked [Infinite A] {z : ZeSerializer S B D} {h h' : PendingRequests.History Req Res ω}
    {ls : List (PendingRequests.Label Req Res ω B)} (hs : Holds content s q h.service)
    (hf : ∀ i, (q i).length + ls.length ≤ fuel) (hr : run (PendingRequests.step z) h ls = some h') :
    ∃ ops content' s' q', run (machine fuel) s ops = some s' ∧
      Holds (A := A) content' s' q' h'.service := by
  induction ls generalizing h content s q with
  | nil =>
      cases hr
      exact ⟨[], content, s, q, rfl, hs⟩
  | cons l ls ih =>
      obtain ⟨g, hg, hr⟩ := run_cons_some hr
      have hnow : ∀ i, (q i).length ≤ fuel := fun i => le_trans (Nat.le_add_right _ _) (hf i)
      obtain ⟨ops, content₁, s₁, q₁, hops, hs₁, hlen⟩ := step_linked hs hnow hg
      have hf₁ : ∀ i, (q₁ i).length + ls.length ≤ fuel := by
        intro i
        have hi := hf i
        have hli := hlen i
        rw [List.length_cons] at hi
        omega
      obtain ⟨ops', content', s', q', hops', hs'⟩ := ih hs₁ hf₁ hr
      refine ⟨ops ++ ops', content', s', q', ?_, hs'⟩
      rw [run_append, hops]
      exact hops'

end RmwZenohPico.LinkedService
