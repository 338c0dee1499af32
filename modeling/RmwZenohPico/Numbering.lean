import RmwZenohPico.ServiceNetwork

namespace RmwZenohPico.Numbering

open Lib.LabelledMachine RmwTypes Attachment RosMessage Service ServiceNetwork

variable {C Req Res S B D : Type}

def Reports (s : Network C Req Res B) (q : C × Nat) (info : RmwServiceInfo) : Prop :=
  (∃ m, (m, some info) ∈ s.taken ∧ m.query = some q) ∨ (q, info) ∈ s.responses

def Numbered (s : Network C Req Res B) : Prop :=
  ∀ q n, (q, n) ∈ s.sent → ∀ info, Reports s q info → info.requestId.sequenceNumber = n

theorem sent_unique {sent : List ((C × Nat) × Int)} (h : (sent.map Prod.fst).Nodup) {q : C × Nat}
    {n n' : Int} (hn : (q, n) ∈ sent) (hn' : (q, n') ∈ sent) : n = n' :=
  (Prod.mk.inj (List.inj_on_of_nodup_map h hn hn' rfl)).2

theorem Traced.reports_next {z : ZeSerializer S B D} {gid : Gid} {s : Network C Req Res B}
    (h : Traced z gid s) {q : C × Nat} {n : Int} (hn : (q, n) ∈ s.sent) {info : RmwServiceInfo}
    (hr : Reports s q info) : info.requestId.sequenceNumber = n + 1 := by
  rcases hr with ⟨m, hm, hq⟩ | hr
  · obtain ⟨q', hq', hst⟩ := h.taken _ hm
    obtain rfl : q' = q := Option.some.inj (hq'.symm.trans hq)
    obtain ⟨n', hn', hnum⟩ := hst.number
    obtain rfl := sent_unique h.unique hn hn'
    rw [h.reported _ hm info rfl]
    exact hnum
  · obtain ⟨n', hn', hnum⟩ := h.responses _ hr
    obtain rfl := sent_unique h.unique hn hn'
    exact hnum

variable [DecidableEq C]

/-- In every run, every number that is reported for a successfully sent
request is the one after the number which the send returned. -/
theorem reported_number_off_by_one {z : ZeSerializer S B D} (hz : RoundTrips z)
    (xxh3 : List Char → XXH128Hash) (topicKey : List Char)
    (requestCallback : MessageTypeSupportCallbacks Req)
    (responseCallback : MessageTypeSupportCallbacks Res) (ls : List (Label C Req Res))
    (s : Network C Req Res B)
    (hr : run (step z) (initial xxh3 topicKey requestCallback responseCallback) ls = some s)
    (q : C × Nat) (n : Int) (hn : (q, n) ∈ s.sent) (info : RmwServiceInfo) (hi : Reports s q info) :
    info.requestId.sequenceNumber = n + 1 ∧ info.requestId.sequenceNumber ≠ n := by
  have hs : Traced z (zenohPicoGenGid xxh3 topicKey) s :=
    invariant (step_traced hz) (initial_traced z xxh3 topicKey requestCallback responseCallback)
      ⟨ls, hr⟩
  have hnext := Traced.reports_next hs hn hi
  exact ⟨hnext, by omega⟩

def firstExchange : List (Label Unit Unit Unit) :=
  [.sendRequest () () ⟨true, false, 5, true⟩, .deliverQuery 0 6 ⟨true, true⟩,
    .takeRequest ⟨0, 0, ⟨fun _ => 0, 0⟩⟩ () false, .sendResponse ((), 0) () ⟨true, false, 7, true⟩,
    .deliverReply 0 8 ⟨true, true⟩, .takeResponse () ⟨0, 0, ⟨fun _ => 0, 0⟩⟩ () false]

def firstInitial : Network Unit Unit Unit (List (Int ⊕ Slice)) :=
  initial (fun _ => ⟨0, 0⟩) [] emptyMessageCallbacks emptyMessageCallbacks

theorem first_exchange_misnumbered :
    ∃ s, run (step valueSerializer) firstInitial firstExchange = some s ∧ ¬ Numbered s := by
  refine ⟨_, rfl, ?_⟩
  intro h
  have hn := h ((), 0) 0 (.head _) _ (.inr (.head _))
  exact absurd hn (by decide)

theorem first_exchange_off_by_one :
    ∃ s info, run (step valueSerializer) firstInitial firstExchange = some s ∧
      Reports s ((), 0) info ∧ info.requestId.sequenceNumber = 0 + 1 ∧
      info.requestId.sequenceNumber ≠ 0 := by
  refine ⟨_, _, rfl, .inr (.head _), ?_⟩
  exact reported_number_off_by_one valueSerializer_roundTrips (fun _ => ⟨0, 0⟩) []
    emptyMessageCallbacks emptyMessageCallbacks firstExchange _ rfl ((), 0) 0 (.head _) _
    (.inr (.head _))

end RmwZenohPico.Numbering
