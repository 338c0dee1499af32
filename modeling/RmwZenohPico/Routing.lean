import RmwZenohPico.ServiceNetwork

namespace RmwZenohPico.Routing

open Lib.LabelledMachine RmwTypes Attachment RosMessage Service ServiceNetwork

variable {C Req Res S B D : Type} [DecidableEq C]

def unanswered (s : Network C Req Res B) :
    List (ReceiveMessageData (C × Nat) × Option RmwServiceInfo) :=
  s.taken.filter fun r => r.1.query ∉ s.answered.map some

/-- A first response to a taken request, with the id reported for it, picks
that request and replies to its query. -/
def Routed (z : ZeSerializer S B D) (s : Network C Req Res B) : Label C Req Res → Prop
  | .sendResponse q res env =>
      ∀ m info, takenWith s q = some (m, some info) → q ∉ s.answered →
        (MessageQueue.pickup s.server.responseQueue (compareResponceMsg info.requestId)).1 = some m ∧
          ∀ r, sendResponse z s.server info.requestId res env = some r →
            r.picked = some m ∧ ∀ reply, r.reply = some reply → reply.query = some q
  | _ => True

/-- No request that waits ahead of the one being answered has its number. -/
def NoEarlierTwin (s : Network C Req Res B) : Label C Req Res → Prop
  | .sendResponse q _ _ =>
      ∀ m info, takenWith s q = some (m, some info) → q ∉ s.answered →
        ∀ xs ys, s.server.responseQueue = xs ++ m :: ys →
          ∀ x ∈ xs, x.attachment.sequenceNum ≠ m.attachment.sequenceNum
  | _ => True

/-- When a request is answered again, no waiting request has its number. -/
def NoTwinOfRepeated (s : Network C Req Res B) : Label C Req Res → Prop
  | .sendResponse q _ _ =>
      ∀ m info, takenWith s q = some (m, some info) → q ∈ s.answered →
        ∀ x ∈ s.server.responseQueue, x.attachment.sequenceNum ≠ m.attachment.sequenceNum
  | _ => True

structure Aligned (z : ZeSerializer S B D) (gid : Gid) (s : Network C Req Res B) : Prop
    extends Traced z gid s where
  queue : s.server.responseQueue = (unanswered s).map Prod.fst
  answered : ∀ q ∈ s.answered, some q ∈ s.taken.map (·.1.query)

theorem takenWith_some {s : Network C Req Res B} {q : C × Nat}
    {r : ReceiveMessageData (C × Nat) × Option RmwServiceInfo} (h : takenWith s q = some r) :
    r ∈ s.taken ∧ r.1.query = some q :=
  ⟨List.mem_of_find?_eq_some h, by simpa using List.find?_some h⟩

omit [DecidableEq C] in
theorem Traced.taken_distinct {z : ZeSerializer S B D} {gid : Gid} {s : Network C Req Res B}
    (h : Traced z gid s) : (s.taken.map (·.1.query)).Nodup :=
  (List.nodup_append.mp h.distinct).2.1

theorem Aligned.queue_distinct {z : ZeSerializer S B D} {gid : Gid} {s : Network C Req Res B}
    (h : Aligned z gid s) : (s.server.responseQueue.map (·.query)).Nodup := by
  have hs : ((unanswered s).map (·.1.query)).Sublist (s.taken.map (·.1.query)) :=
    List.filter_sublist.map _
  rw [h.queue, List.map_map]
  exact (Traced.taken_distinct h.toTraced).sublist hs

/-- All requests carry the gid of the service, so the search compares nothing
but the numbers. -/
theorem Aligned.compare_iff {z : ZeSerializer S B D} {gid : Gid} {s : Network C Req Res B}
    (h : Aligned z gid s) {x m : ReceiveMessageData (C × Nat)} {info : RmwServiceInfo}
    (hx : x ∈ s.server.responseQueue) (hm : (m, some info) ∈ s.taken) :
    compareResponceMsg info.requestId x = true ↔
      x.attachment.sequenceNum = m.attachment.sequenceNum := by
  obtain ⟨p, hp, rfl⟩ := List.mem_map.mp (h.pending x hx)
  obtain ⟨q, -, hx⟩ := h.taken p hp
  obtain ⟨q', -, hm'⟩ := h.taken _ hm
  rw [compareResponceMsg_iff hx.len, h.reported _ hm info rfl]
  simp only [requestIdOf, hx.gid_eq, hm'.gid_eq, RmwRequestId.mk.injEq, true_and]

theorem Aligned.mem_queue {z : ZeSerializer S B D} {gid : Gid} {s : Network C Req Res B}
    (h : Aligned z gid s) {q : C × Nat} {r : ReceiveMessageData (C × Nat) × Option RmwServiceInfo}
    (hr : takenWith s q = some r) (hq : q ∉ s.answered) : r.1 ∈ s.server.responseQueue := by
  obtain ⟨hm, hrq⟩ := takenWith_some hr
  rw [h.queue]
  exact List.mem_map.mpr ⟨r, List.mem_filter.mpr ⟨hm, by simpa [hrq] using hq⟩, rfl⟩

theorem Aligned.pickup {z : ZeSerializer S B D} {gid : Gid} {s : Network C Req Res B}
    (h : Aligned z gid s) {q : C × Nat} {res : Res} {env : SendEnvironment}
    {m : ReceiveMessageData (C × Nat)} {info : RmwServiceInfo}
    (hr : takenWith s q = some (m, some info)) (hq : q ∉ s.answered)
    (ht : NoEarlierTwin s (.sendResponse q res env)) :
    MessageQueue.pickup s.server.responseQueue (compareResponceMsg info.requestId) =
      (some m, s.server.responseQueue.filter fun x => x.query ≠ some q) := by
  obtain ⟨hm, hmq⟩ := takenWith_some hr
  have hmem : m ∈ s.server.responseQueue := h.mem_queue hr hq
  obtain ⟨xs, ys, he⟩ := List.append_of_mem hmem
  have hxs : ∀ x ∈ xs, compareResponceMsg info.requestId x = false := by
    intro x hx
    have hne := ht m info hr hq xs ys he x hx
    rw [Bool.eq_false_iff, ne_eq, h.compare_iff (by simp [he, hx]) hm]
    exact hne
  have hself : compareResponceMsg info.requestId m = true := (h.compare_iff hmem hm).mpr rfl
  have hn := h.queue_distinct
  rw [he] at hn ⊢
  rw [MessageQueue.pickup_append_cons hxs hself, ← MessageQueue.filter_key_append_cons hn]
  simp only [show m.query = some q from hmq]

theorem Aligned.routed_iff {z : ZeSerializer S B D} {gid : Gid} {s : Network C Req Res B}
    (h : Aligned z gid s) (l : Label C Req Res) : Routed z s l ↔ NoEarlierTwin s l := by
  cases l with
  | sendResponse q res env =>
      constructor
      · intro hroute m info hr hq xs ys he x hx heq
        obtain ⟨hm, -⟩ := takenWith_some hr
        have hpick := (hroute m info hr hq).1
        have hx' : compareResponceMsg info.requestId x = true :=
          (h.compare_iff (by simp [he, hx]) hm).mpr heq
        rw [MessageQueue.pickup, he, List.find?_append] at hpick
        cases hf : xs.find? (compareResponceMsg info.requestId) with
        | none => exact absurd hx' (List.find?_eq_none.mp hf x hx)
        | some y =>
            rw [hf, Option.some_or, Option.some.injEq] at hpick
            have hn := h.queue_distinct
            rw [he, List.map_append, List.map_cons] at hn
            have hy : y.query ∈ xs.map (·.query) :=
              List.mem_map_of_mem (List.mem_of_find?_eq_some hf)
            exact (List.nodup_append.mp hn).2.2 _ hy _ List.mem_cons_self (by rw [hpick])
      · intro ht m info hr hq
        have hp := h.pickup hr hq ht
        refine ⟨by rw [hp], fun r hs => ?_⟩
        obtain ⟨hpicked, -, hreply⟩ := sendResponse_cases hs
        rw [hp] at hpicked
        refine ⟨hpicked, fun reply hrep => ?_⟩
        obtain ⟨m', hm', hquery, -⟩ := hreply reply hrep
        obtain rfl : m = m' := Option.some.inj (hpicked.symm.trans hm')
        exact hquery.trans (takenWith_some hr).2
  | _ => exact iff_of_true trivial trivial

theorem unanswered_snoc (s : Network C Req Res B) (q : C × Nat) :
    (unanswered { s with answered := s.answered ++ [q] }).map Prod.fst =
      ((unanswered s).map Prod.fst).filter fun x => x.query ≠ some q := by
  simp only [unanswered, List.filter_map]
  rw [List.filter_filter]
  congr 1
  refine List.filter_congr fun r _ => ?_
  simp only [List.map_append, List.map_cons, List.map_nil, List.mem_append, List.mem_singleton,
    not_or, Function.comp_apply]
  rw [Bool.decide_and, Bool.and_comm]

theorem stepSendResponse_aligned {z : ZeSerializer S B D} (hz : RoundTrips z) {gid : Gid}
    {s t : Network C Req Res B} (h : Aligned z gid s) {q : C × Nat} {res : Res} {env : SendEnvironment}
    (ht : NoEarlierTwin s (.sendResponse q res env)) (hrep : NoTwinOfRepeated s (.sendResponse q res env))
    (hs : stepSendResponse z s q res env = some t) : Aligned z gid t := by
  have htrace := stepSendResponse_traced hz h.toTraced hs
  simp only [stepSendResponse] at hs
  split at hs
  · rename_i m info hr
    obtain ⟨r, hsend, rfl⟩ := Option.map_eq_some_iff.mp hs
    obtain ⟨-, hdata, -⟩ := sendResponse_cases hsend
    obtain ⟨hm, hmq⟩ := takenWith_some hr
    refine { htrace with queue := ?_, answered := ?_ }
    · have hu := unanswered_snoc s q
      rw [← h.queue] at hu
      refine Eq.trans ?_ hu.symm
      rw [hdata]
      by_cases hq : q ∈ s.answered
      · have hnone : ∀ x ∈ s.server.responseQueue, compareResponceMsg info.requestId x = false := by
          intro x hx
          rw [Bool.eq_false_iff, ne_eq, h.compare_iff hx hm]
          exact hrep m info hr hq x hx
        simp only [MessageQueue.pickup_none hnone]
        refine (List.filter_eq_self.mpr fun x hx => ?_).symm
        rw [h.queue] at hx
        obtain ⟨p, hp, rfl⟩ := List.mem_map.mp hx
        have hne : p.1.query ∉ s.answered.map some := by simpa using (List.mem_filter.mp hp).2
        simpa using fun he : p.1.query = some q => hne (he ▸ List.mem_map_of_mem hq)
      · simp only [h.pickup hr hq ht]
    · intro q' hq'
      rcases List.mem_append.mp hq' with hq' | hq'
      · exact h.answered q' hq'
      · obtain rfl := List.mem_singleton.mp hq'
        exact List.mem_map.mpr ⟨_, hm, hmq⟩
  · cases hs

omit [DecidableEq C] in
theorem Traced.fresh_request {z : ZeSerializer S B D} {gid : Gid} {s : Network C Req Res B}
    (h : Traced z gid s) {m : ReceiveMessageData (C × Nat)} (hm : m ∈ s.server.requestQueue) :
    m.query ∉ s.taken.map (·.1.query) := by
  intro ht
  have hd := (List.nodup_append.mp h.distinct).2.2
  exact hd _ (List.mem_append_right _ (List.mem_map_of_mem hm)) _ ht rfl

theorem stepTakeRequest_aligned {z : ZeSerializer S B D} {gid : Gid} {s : Network C Req Res B}
    (h : Aligned z gid s) (header : RmwServiceInfo) (req : Req) (taken : Bool) :
    Aligned z gid (stepTakeRequest s header req taken) := by
  have htrace := stepTakeRequest_traced h.toTraced header req taken
  cases hq : s.server.requestQueue with
  | nil =>
      simp only [stepTakeRequest, hq, takeRequest_empty hq]
      exact h
  | cons m ms =>
      have hfresh : m.query ∉ s.answered.map some := by
        intro hm
        obtain ⟨q, hqa, he⟩ := List.mem_map.mp hm
        exact Traced.fresh_request h.toTraced (m := m) (by simp [hq]) (he ▸ h.answered q hqa)
      refine { htrace with queue := ?_, answered := ?_ } <;>
        simp only [stepTakeRequest, hq, (takeRequest_cons hq header req taken).1]
      · rw [h.queue]
        simp only [unanswered, List.filter_append, List.map_append]
        congr 1
        simp only [hfresh, not_false_eq_true, decide_true, List.filter_cons_of_pos, List.filter_nil,
          List.map_cons, List.map_nil]
      · intro q hqa
        rw [List.map_append, List.mem_append]
        exact .inl (h.answered q hqa)

structure ServiceUnchanged (s t : Network C Req Res B) : Prop where
  queue : t.server.responseQueue = s.server.responseQueue
  taken : t.taken = s.taken
  answered : t.answered = s.answered

theorem stepSendRequest_service (z : ZeSerializer S B D) (s : Network C Req Res B) (c : C) (req : Req)
    (env : SendEnvironment) : ServiceUnchanged s (stepSendRequest z s c req env) := by
  simp only [stepSendRequest]
  split <;> exact ⟨rfl, rfl, rfl⟩

omit [DecidableEq C] in
theorem stepDeliverQuery_service {z : ZeSerializer S B D} {s t : Network C Req Res B} {i : Nat}
    {recvTs : Int} {alloc : ReceiveAllocations} (hs : stepDeliverQuery z s i recvTs alloc = some t) :
    ServiceUnchanged s t := by
  obtain ⟨query, -, rfl⟩ := Option.map_eq_some_iff.mp hs
  rcases requestHandler_cases z s.server query recvTs alloc with hr | ⟨m, -, -, hr⟩ <;>
    exact ⟨by simp only [hr, addNewRequestMessage], rfl, rfl⟩

theorem stepDeliverReply_service {z : ZeSerializer S B D} {s t : Network C Req Res B} {i : Nat}
    {recvTs : Int} {alloc : ReceiveAllocations} (hs : stepDeliverReply z s i recvTs alloc = some t) :
    ServiceUnchanged s t := by
  obtain ⟨reply, -, rfl⟩ := Option.map_eq_some_iff.mp hs
  dsimp only
  split
  · exact ⟨rfl, rfl, rfl⟩
  · split <;> exact ⟨rfl, rfl, rfl⟩

theorem stepTakeResponse_service (s : Network C Req Res B) (c : C) (header : RmwServiceInfo) (res : Res)
    (taken : Bool) : ServiceUnchanged s (stepTakeResponse s c header res taken) := by
  simp only [stepTakeResponse]
  split <;> exact ⟨rfl, rfl, rfl⟩

theorem Aligned.frame {z : ZeSerializer S B D} {gid : Gid} {s t : Network C Req Res B}
    (h : Aligned z gid s) (ht : Traced z gid t) (hf : ServiceUnchanged s t) : Aligned z gid t := by
  refine { ht with queue := ?_, answered := ?_ }
  · simp only [unanswered, hf.queue, hf.taken, hf.answered]
    exact h.queue
  · simpa only [hf.taken, hf.answered] using h.answered

theorem step_aligned {z : ZeSerializer S B D} (hz : RoundTrips z) {gid : Gid}
    (s : Network C Req Res B) (l : Label C Req Res) (t : Network C Req Res B) (h : Aligned z gid s)
    (hok : NoEarlierTwin s l ∧ NoTwinOfRepeated s l) (hs : step z s l = some t) : Aligned z gid t := by
  have htrace := step_traced hz s l t h.toTraced hs
  cases l with
  | sendRequest c req env =>
      obtain rfl := Option.some.inj hs
      exact h.frame htrace (stepSendRequest_service z s c req env)
  | deliverQuery i recvTs alloc => exact h.frame htrace (stepDeliverQuery_service hs)
  | takeRequest header req taken =>
      exact Option.some.inj hs ▸ stepTakeRequest_aligned h header req taken
  | sendResponse q res env => exact stepSendResponse_aligned hz h hok.1 hok.2 hs
  | deliverReply i recvTs alloc => exact h.frame htrace (stepDeliverReply_service hs)
  | takeResponse c header res taken =>
      obtain rfl := Option.some.inj hs
      exact h.frame htrace (stepTakeResponse_service s c header res taken)

theorem initial_aligned (z : ZeSerializer S B D) (xxh3 : List Char → XXH128Hash) (topicKey : List Char)
    (requestCallback : MessageTypeSupportCallbacks Req)
    (responseCallback : MessageTypeSupportCallbacks Res) :
    Aligned z (zenohPicoGenGid xxh3 topicKey)
      (initial xxh3 topicKey requestCallback responseCallback : Network C Req Res B) :=
  { initial_traced z xxh3 topicKey requestCallback responseCallback with
    queue := rfl
    answered := fun _ hq => absurd hq (by simp [initial]) }

/-- In every run in which no request that waits ahead of an answered one, and
none that waits when a request is answered again, has the number of that
request, every first response goes to the request it is sent for. In each
state of such a run the next response does so exactly if no request that
waits ahead has its number. -/
theorem response_routing {z : ZeSerializer S B D} (hz : RoundTrips z) (xxh3 : List Char → XXH128Hash)
    (topicKey : List Char) (requestCallback : MessageTypeSupportCallbacks Req)
    (responseCallback : MessageTypeSupportCallbacks Res) (ls : List (Label C Req Res))
    (hok : Every (step z) (fun s l => NoEarlierTwin s l ∧ NoTwinOfRepeated s l)
      (initial xxh3 topicKey requestCallback responseCallback : Network C Req Res B) ls) :
    Every (step z) (Routed z) (initial xxh3 topicKey requestCallback responseCallback) ls ∧
      ∀ s l, run (step z) (initial xxh3 topicKey requestCallback responseCallback) ls = some s →
        (Routed z s l ↔ NoEarlierTwin s l) := by
  have hs : Aligned z (zenohPicoGenGid xxh3 topicKey)
      (initial xxh3 topicKey requestCallback responseCallback : Network C Req Res B) :=
    initial_aligned z xxh3 topicKey requestCallback responseCallback
  refine ⟨every_of_invariant (step_aligned hz) ?_ hs hok, ?_⟩
  · exact fun s l h hl => (h.routed_iff l).mpr hl.1
  · intro s l hr
    exact (invariant_of_every (step_aligned hz) hs hok hr).routed_iff l

def twoClients : List (Label Bool Unit Unit) :=
  [.sendRequest false () ⟨true, false, 5, true⟩, .sendRequest true () ⟨true, false, 6, true⟩,
    .deliverQuery 0 7 ⟨true, true⟩, .deliverQuery 0 8 ⟨true, true⟩,
    .takeRequest ⟨0, 0, ⟨fun _ => 0, 0⟩⟩ () false, .takeRequest ⟨0, 0, ⟨fun _ => 0, 0⟩⟩ () false]

def twoInitial : Network Bool Unit Unit (List (Int ⊕ Slice)) :=
  initial (fun _ => ⟨0, 0⟩) [] emptyMessageCallbacks emptyMessageCallbacks

theorem two_clients_misrouted :
    ¬ Every (step valueSerializer) (Routed valueSerializer) twoInitial
      (twoClients ++ [.sendResponse (true, 0) () ⟨true, false, 9, true⟩]) := by
  intro h
  have hl := ((every_append _ _ _ _ _).mp h).2 _ rfl
  have hp := (hl.1 _ _ rfl (by decide)).1
  exact absurd (congrArg (Option.map (·.query)) hp) (by decide)

theorem two_clients_routed :
    Every (step valueSerializer) (Routed valueSerializer) twoInitial
      (twoClients ++ [.sendResponse (false, 0) () ⟨true, false, 9, true⟩]) := by
  refine (response_routing valueSerializer_roundTrips (fun _ => ⟨0, 0⟩) [] emptyMessageCallbacks
    emptyMessageCallbacks _ ?_).1
  refine (every_append _ _ _ _ _).mpr ⟨?_, ?_⟩
  · iterate 6 refine ⟨⟨trivial, trivial⟩, fun _ _ => ?_⟩
    trivial
  · intro s hs
    refine ⟨⟨?_, ?_⟩, fun _ _ => trivial⟩
    · rintro m info hm - xs ys he x hx
      have hq : m.query = some (false, 0) := (takenWith_some hm).2
      have hqueue : s.server.responseQueue.map (·.query) = [some (false, 0), some (true, 0)] := by
        cases hs
        rfl
      rw [he, List.map_append, List.map_cons, hq] at hqueue
      cases xs with
      | nil => cases hx
      | cons y xs => cases xs <;> simp at hqueue
    · rintro m info - hq
      have hanswered : s.answered = [] := by
        cases hs
        rfl
      simp [hanswered] at hq

end RmwZenohPico.Routing
