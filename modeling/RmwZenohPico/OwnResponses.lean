import RmwZenohPico.Numbering
import RmwZenohPico.Routing

namespace RmwZenohPico.OwnResponses

open Lib.LabelledMachine RmwTypes Attachment RosMessage Service Client ServiceNetwork Routing

variable {C Req Res S B D : Type} [DecidableEq C]

/-- A response that finds a message of the client it is for finds the request
it is sent for. -/
def Own (z : ZeSerializer S B D) (s : Network C Req Res B) : Label C Req Res → Prop
  | .sendResponse q res env =>
      ∀ m info, takenWith s q = some (m, some info) →
        ∀ r, sendResponse z s.server info.requestId res env = some r →
          ∀ m' q', r.picked = some m' → m'.query = some q' → q'.1 = q.1 → q' = q
  | _ => True

structure Numbers (s : Network C Req Res B) : Prop where
  below : ∀ p ∈ s.sent, p.2 < (s.clients p.1.1).attachment.sequenceNum
  unique : ∀ p ∈ s.sent, ∀ p' ∈ s.sent, p.1.1 = p'.1.1 → p.2 = p'.2 → p.1 = p'.1

omit [DecidableEq C] in
theorem sendRequest_number (z : ZeSerializer S B D) (data : ServiceData Req Res (C × Nat)) (req : Req)
    (env : SendEnvironment) :
    data.attachment.sequenceNum ≤ (sendRequest z data req env).data.attachment.sequenceNum ∧
      ∀ n, (sendRequest z data req env).sequenceId = some n →
        n = data.attachment.sequenceNum ∧ n < (sendRequest z data req env).data.attachment.sequenceNum := by
  simp only [sendRequest]
  split
  · exact ⟨le_refl _, fun n hn => by cases hn⟩
  · split <;>
    · simp only [attachmentGen_fst, attachmentSequenceNumInc, Option.some.injEq]
      refine ⟨by omega, ?_⟩
      rintro n rfl
      omega

structure SameNumbers (s t : Network C Req Res B) : Prop where
  sent : t.sent = s.sent
  attachment : ∀ c, (t.clients c).attachment = (s.clients c).attachment

omit [DecidableEq C] in
theorem Numbers.frame {s t : Network C Req Res B} (h : Numbers s) (hf : SameNumbers s t) : Numbers t := by
  constructor
  · intro p hp
    rw [hf.sent] at hp
    rw [hf.attachment]
    exact h.below p hp
  · rw [hf.sent]
    exact h.unique

theorem SameNumbers.updateClient (s : Network C Req Res B) (c : C) {data : ServiceData Req Res (C × Nat)}
    (h : data.attachment = (s.clients c).attachment) (d : C) :
    (Function.update s.clients c data d).attachment = (s.clients d).attachment := by
  by_cases hd : d = c
  · subst hd
    rw [Function.update_self, h]
  · rw [Function.update_of_ne hd]

theorem stepSendRequest_numbers {z : ZeSerializer S B D} {s : Network C Req Res B} (h : Numbers s) (c : C)
    (req : Req) (env : SendEnvironment) : Numbers (stepSendRequest z s c req env) := by
  obtain ⟨hle, hnumber⟩ := sendRequest_number z (s.clients c) req env
  have hbelow : ∀ p ∈ s.sent, p.2 < (Function.update s.clients c
      (sendRequest z (s.clients c) req env).data p.1.1).attachment.sequenceNum := by
    intro p hp
    have hlt := h.below p hp
    by_cases hc : p.1.1 = c
    · rw [hc] at hlt ⊢
      rw [Function.update_self]
      omega
    · rwa [Function.update_of_ne hc]
  simp only [stepSendRequest]
  split
  · rename_i n request hret hseq hreq
    obtain ⟨rfl, hlt⟩ := hnumber n hseq
    constructor
    · intro p hp
      rcases List.mem_append.mp hp with hp | hp
      · exact hbelow p hp
      · rw [List.mem_singleton.mp hp]
        simpa using hlt
    · intro p hp p' hp' hclient hnum
      rcases List.mem_append.mp hp with hp | hp
      · rcases List.mem_append.mp hp' with hp' | hp'
        · exact h.unique p hp p' hp' hclient hnum
        · rw [List.mem_singleton.mp hp'] at hclient hnum
          have hlt' := h.below p hp
          rw [hclient] at hlt'
          exact absurd hnum (ne_of_lt hlt')
      · rw [List.mem_singleton.mp hp] at hclient hnum
        rcases List.mem_append.mp hp' with hp' | hp'
        · have hlt' := h.below p' hp'
          rw [← hclient] at hlt'
          exact absurd hnum.symm (ne_of_lt hlt')
        · rw [List.mem_singleton.mp hp, List.mem_singleton.mp hp']
  · exact ⟨hbelow, h.unique⟩

theorem step_numbers {z : ZeSerializer S B D} {s t : Network C Req Res B} {l : Label C Req Res}
    (h : Numbers s) (hs : step z s l = some t) : Numbers t := by
  cases l with
  | sendRequest c req env =>
      cases hs
      exact stepSendRequest_numbers h c req env
  | deliverQuery i recvTs alloc =>
      obtain ⟨query, -, rfl⟩ := Option.map_eq_some_iff.mp hs
      exact h.frame ⟨rfl, fun _ => rfl⟩
  | takeRequest header req taken =>
      cases hs
      simp only [stepTakeRequest]
      split
      · exact h.frame ⟨rfl, fun _ => rfl⟩
      · exact h.frame ⟨rfl, fun _ => rfl⟩
  | sendResponse query res env =>
      simp only [step, stepSendResponse] at hs
      split at hs
      · obtain ⟨r, -, rfl⟩ := Option.map_eq_some_iff.mp hs
        exact h.frame ⟨rfl, fun _ => rfl⟩
      · cases hs
  | deliverReply i recvTs alloc =>
      obtain ⟨reply, -, rfl⟩ := Option.map_eq_some_iff.mp hs
      dsimp only
      split
      · exact h.frame ⟨rfl, fun _ => rfl⟩
      · rename_i q _
        have hdata : (replyHandler z (s.clients q.1) ⟨reply.payload, reply.attachment⟩ recvTs
            alloc).attachment = (s.clients q.1).attachment := by
          simp only [replyHandler]
          split <;> rfl
        split
        · exact h.frame ⟨rfl, SameNumbers.updateClient s q.1 hdata⟩
        · exact h.frame ⟨rfl, SameNumbers.updateClient s q.1 hdata⟩
  | takeResponse c header res taken =>
      cases hs
      have hdata : (takeResponse (s.clients c) (some header) res taken).data.attachment =
          (s.clients c).attachment := by
        simp only [takeResponse]
        split <;> rfl
      simp only [stepTakeResponse]
      split
      · exact h.frame ⟨rfl, SameNumbers.updateClient s c hdata⟩
      · exact h.frame ⟨rfl, SameNumbers.updateClient s c hdata⟩

omit [DecidableEq C] in
theorem Numbers.query_eq {z : ZeSerializer S B D} {gid : Gid} {s : Network C Req Res B} (h : Numbers s)
    (ht : Traced z gid s) {m m' : ReceiveMessageData (C × Nat)} {q q' : C × Nat}
    (hm : m ∈ s.taken.map Prod.fst) (hm' : m' ∈ s.taken.map Prod.fst) (hq : m.query = some q)
    (hq' : m'.query = some q') (hclient : q'.1 = q.1)
    (hnum : m'.attachment.sequenceNum = m.attachment.sequenceNum) : q' = q := by
  obtain ⟨r, hr, rfl⟩ := List.mem_map.mp hm
  obtain ⟨r', hr', rfl⟩ := List.mem_map.mp hm'
  obtain ⟨q₁, hq₁, hst⟩ := ht.taken r hr
  obtain ⟨q₂, hq₂, hst'⟩ := ht.taken r' hr'
  obtain rfl : q₁ = q := Option.some.inj (hq₁.symm.trans hq)
  obtain rfl : q₂ = q' := Option.some.inj (hq₂.symm.trans hq')
  obtain ⟨n, hn, hnext⟩ := hst.number
  obtain ⟨n', hn', hnext'⟩ := hst'.number
  exact h.unique _ hn' _ hn hclient (by omega)

theorem own_of_numbers {z : ZeSerializer S B D} {gid : Gid} {s : Network C Req Res B} (h : Numbers s)
    (ht : Traced z gid s) (l : Label C Req Res) : Own z s l := by
  cases l with
  | sendResponse q res env =>
      intro m info htaken r hr m' q' hpicked hq' hclient
      obtain ⟨hm, hq⟩ := takenWith_some htaken
      obtain ⟨hpick, -, -⟩ := sendResponse_cases hr
      rw [hpicked] at hpick
      have hpending := ht.pending m' (MessageQueue.mem_of_pickup hpick.symm)
      obtain ⟨r', hr', rfl⟩ := List.mem_map.mp hpending
      obtain ⟨q₁, -, hst⟩ := ht.taken r' hr'
      have hmatch := (compareResponceMsg_iff hst.len _).mp (List.find?_some hpick.symm)
      rw [ht.reported _ hm info rfl] at hmatch
      exact h.query_eq ht (List.mem_map_of_mem hm) hpending hq hq' hclient
        (congrArg RmwRequestId.sequenceNumber hmatch)
  | _ => trivial

theorem Aligned.no_twin [Subsingleton C] {z : ZeSerializer S B D} {gid : Gid} {s : Network C Req Res B}
    (h : Aligned z gid s) (hn : Numbers s) (l : Label C Req Res) :
    NoEarlierTwin s l ∧ NoTwinOfRepeated s l := by
  cases l with
  | sendResponse q res env =>
      have hquery : ∀ m info, takenWith s q = some (m, some info) → ∀ x ∈ s.server.responseQueue,
          x.attachment.sequenceNum = m.attachment.sequenceNum → x.query = some q := by
        intro m info htaken x hx hnum
        obtain ⟨hm, hq⟩ := takenWith_some htaken
        have hpending := h.pending x hx
        obtain ⟨r, hr, rfl⟩ := List.mem_map.mp hpending
        obtain ⟨q', hq', -⟩ := h.taken r hr
        rw [hn.query_eq h.toTraced (List.mem_map_of_mem hm) hpending hq hq' (Subsingleton.elim _ _) hnum] at hq'
        exact hq'
      constructor
      · intro m info htaken hq xs ys he x hx hnum
        have hxq := hquery m info htaken x (by simp [he, hx]) hnum
        have hdistinct := h.queue_distinct
        rw [he, List.map_append, List.map_cons] at hdistinct
        have hmq : m.query = some q := (takenWith_some htaken).2
        exact (List.nodup_append.mp hdistinct).2.2 _ (List.mem_map_of_mem hx) _ List.mem_cons_self
          (hxq.trans hmq.symm)
      · intro m info htaken hq x hx hnum
        have hxq := hquery m info htaken x hx hnum
        rw [h.queue] at hx
        obtain ⟨r, hr, rfl⟩ := List.mem_map.mp hx
        have hne : r.1.query ∉ s.answered.map some := by simpa using (List.mem_filter.mp hr).2
        exact hne (hxq ▸ List.mem_map_of_mem hq)
  | _ => exact ⟨trivial, trivial⟩

omit [DecidableEq C] in
theorem initial_numbers (xxh3 : List Char → XXH128Hash) (topicKey : List Char)
    (requestCallback : MessageTypeSupportCallbacks Req) (responseCallback : MessageTypeSupportCallbacks Res) :
    Numbers (initial xxh3 topicKey requestCallback responseCallback : Network C Req Res B) :=
  ⟨fun _ hp => (List.not_mem_nil hp).elim, fun _ hp => (List.not_mem_nil hp).elim⟩

/-- Clients get the responses to each other's requests, but no client gets the
response to another request of its own. So a service of one client answers
each request for what it is. -/
theorem responses_own {z : ZeSerializer S B D} (hz : RoundTrips z) (xxh3 : List Char → XXH128Hash)
    (topicKey : List Char) (requestCallback : MessageTypeSupportCallbacks Req)
    (responseCallback : MessageTypeSupportCallbacks Res) (ls : List (Label C Req Res)) :
    Every (step z) (Own z) (initial xxh3 topicKey requestCallback responseCallback : Network C Req Res B) ls ∧
      (Subsingleton C →
        Every (step z) (Routed z)
          (initial xxh3 topicKey requestCallback responseCallback : Network C Req Res B) ls) := by
  have hn := initial_numbers (C := C) (B := B) xxh3 topicKey requestCallback responseCallback
  constructor
  · refine every_of_invariant (I := fun s => Traced z (zenohPicoGenGid xxh3 topicKey) s ∧ Numbers s) ?_ ?_
      ⟨initial_traced z xxh3 topicKey requestCallback responseCallback, hn⟩ (every_true (step z) _ ls)
    · exact fun s l t h _ hs => ⟨step_traced hz s l t h.1 hs, step_numbers h.2 hs⟩
    · exact fun s l h _ => own_of_numbers h.2 h.1 l
  · intro hC
    refine every_of_invariant (I := fun s => Aligned z (zenohPicoGenGid xxh3 topicKey) s ∧ Numbers s) ?_ ?_
      ⟨initial_aligned z xxh3 topicKey requestCallback responseCallback, hn⟩ (every_true (step z) _ ls)
    · intro s l t h _ hs
      exact ⟨step_aligned hz s l t h.1 (Aligned.no_twin h.1 h.2 l) hs, step_numbers h.2 hs⟩
    · exact fun s l h _ => (h.1.routed_iff l).mpr (Aligned.no_twin h.1 h.2 l).1

theorem one_client_routed :
    Every (step valueSerializer) (Routed valueSerializer) Numbering.firstInitial Numbering.firstExchange :=
  (responses_own valueSerializer_roundTrips (fun _ => ⟨0, 0⟩) [] emptyMessageCallbacks emptyMessageCallbacks
    Numbering.firstExchange).2 inferInstance

end RmwZenohPico.OwnResponses
