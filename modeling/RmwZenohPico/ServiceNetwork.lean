import RmwZenohPico.Lib.LabelledMachine
import RmwZenohPico.Client

namespace RmwZenohPico.ServiceNetwork

open Lib.LabelledMachine RmwTypes Attachment RosMessage Service Client

variable {C Req Res S B D : Type}

/-- One service and its clients, with the queries and replies in flight. A
query is named by its client and a running number. The last components only
record what happened: where the messages in a client's response queue come
from, the numbers returned by successful sends, the requests taken with what
was reported of them, the requests for which a response was sent, and the
headers which clients were given with responses. -/
structure Network (C Req Res B : Type) where
  clients : C → ServiceData Req Res (C × Nat)
  server : ServiceData Req Res (C × Nat)
  issued : C → Nat
  queries : List (ZenohQuery (C × Nat) B)
  replies : List (Reply (C × Nat) B)
  origins : C → List (C × Nat)
  sent : List ((C × Nat) × Int)
  taken : List (ReceiveMessageData (C × Nat) × Option RmwServiceInfo)
  answered : List (C × Nat)
  responses : List ((C × Nat) × RmwServiceInfo)

inductive Label (C Req Res : Type)
  | sendRequest (c : C) (rosRequest : Req) (env : SendEnvironment)
  | deliverQuery (i : Nat) (recvTs : Int) (alloc : ReceiveAllocations)
  | takeRequest (requestHeader : RmwServiceInfo) (rosRequest : Req) (taken : Bool)
  | sendResponse (query : C × Nat) (rosResponse : Res) (env : SendEnvironment)
  | deliverReply (i : Nat) (recvTs : Int) (alloc : ReceiveAllocations)
  | takeResponse (c : C) (requestHeader : RmwServiceInfo) (rosResponse : Res) (taken : Bool)

def initial (xxh3 : List Char → XXH128Hash) (topicKey : List Char)
    (requestCallback : MessageTypeSupportCallbacks Req)
    (responseCallback : MessageTypeSupportCallbacks Res) : Network C Req Res B :=
  { clients := fun _ =>
      zenohPicoGenerateServiceData xxh3 topicKey requestCallback responseCallback
    server := zenohPicoGenerateServiceData xxh3 topicKey requestCallback responseCallback
    issued := fun _ => 0
    queries := []
    replies := []
    origins := fun _ => []
    sent := []
    taken := []
    answered := []
    responses := [] }

variable [DecidableEq C]

def takenWith (s : Network C Req Res B) (query : C × Nat) :
    Option (ReceiveMessageData (C × Nat) × Option RmwServiceInfo) :=
  s.taken.find? fun r => r.1.query = some query

def stepSendRequest (z : ZeSerializer S B D) (s : Network C Req Res B) (c : C) (rosRequest : Req)
    (env : SendEnvironment) : Network C Req Res B :=
  let r := sendRequest z (s.clients c) rosRequest env
  let s := { s with clients := Function.update s.clients c r.data }
  match r.ret, r.sequenceId, r.request with
  | .ok, some sequenceId, some request =>
      { s with
        issued := Function.update s.issued c (s.issued c + 1)
        queries := s.queries ++ [⟨(c, s.issued c), request.1, request.2⟩]
        sent := s.sent ++ [((c, s.issued c), sequenceId)] }
  | _, _, _ => s

omit [DecidableEq C] in
def stepDeliverQuery (z : ZeSerializer S B D) (s : Network C Req Res B) (i : Nat) (recvTs : Int)
    (alloc : ReceiveAllocations) : Option (Network C Req Res B) :=
  s.queries[i]?.map fun query =>
    { s with
      queries := s.queries.eraseIdx i
      server := (requestHandler z s.server query recvTs alloc).1 }

omit [DecidableEq C] in
def stepTakeRequest (s : Network C Req Res B) (requestHeader : RmwServiceInfo) (rosRequest : Req)
    (taken : Bool) : Network C Req Res B :=
  let r := takeRequest s.server (some requestHeader) rosRequest taken
  match s.server.requestQueue with
  | [] => { s with server := r.data }
  | m :: _ =>
      { s with
        server := r.data
        taken := s.taken ++ [(m, if r.taken then r.info else none)] }

def stepSendResponse (z : ZeSerializer S B D) (s : Network C Req Res B) (query : C × Nat)
    (rosResponse : Res) (env : SendEnvironment) : Option (Network C Req Res B) :=
  match takenWith s query with
  | some (_, some info) =>
      (sendResponse z s.server info.requestId rosResponse env).map fun r =>
        { s with
          server := r.data
          replies := s.replies ++ if r.ret = .ok then r.reply.toList else []
          answered := s.answered ++ [query] }
  | _ => none

def stepDeliverReply (z : ZeSerializer S B D) (s : Network C Req Res B) (i : Nat) (recvTs : Int)
    (alloc : ReceiveAllocations) : Option (Network C Req Res B) :=
  s.replies[i]?.map fun reply =>
    let s := { s with replies := s.replies.eraseIdx i }
    match reply.query with
    | none => s
    | some q =>
        let sample : ZenohSample B := ⟨reply.payload, reply.attachment⟩
        let data := replyHandler z (s.clients q.1) sample recvTs alloc
        let s := { s with clients := Function.update s.clients q.1 data }
        match rmwZenohPicoGenerateRecvSampleMsgData (ω := C × Nat) z sample recvTs alloc with
        | some _ => { s with origins := Function.update s.origins q.1 (s.origins q.1 ++ [q]) }
        | none => s

def stepTakeResponse (s : Network C Req Res B) (c : C) (requestHeader : RmwServiceInfo)
    (rosResponse : Res) (taken : Bool) : Network C Req Res B :=
  let r := takeResponse (s.clients c) (some requestHeader) rosResponse taken
  let s := { s with clients := Function.update s.clients c r.data }
  match s.origins c with
  | [] => s
  | q :: qs =>
      { s with
        origins := Function.update s.origins c qs
        responses := s.responses ++ if r.taken then r.info.toList.map (q, ·) else [] }

def step (z : ZeSerializer S B D) : Machine (Network C Req Res B) (Label C Req Res)
  | s, .sendRequest c req env => some (stepSendRequest z s c req env)
  | s, .deliverQuery i recvTs alloc => stepDeliverQuery z s i recvTs alloc
  | s, .takeRequest header req taken => some (stepTakeRequest s header req taken)
  | s, .sendResponse query res env => stepSendResponse z s query res env
  | s, .deliverReply i recvTs alloc => stepDeliverReply z s i recvTs alloc
  | s, .takeResponse c header res taken => some (stepTakeResponse s c header res taken)

/-- An attachment that belongs to a query: its number is the one after the
number returned by the send, and its gid is the one of the service. -/
structure Stamped (sent : List ((C × Nat) × Int)) (gid : Gid) (q : C × Nat) (a : AttachmentData) :
    Prop where
  number : ∃ n, (q, n) ∈ sent ∧ a.sequenceNum = n + 1
  gid : a.gid.bytes = (zSliceCopyFromBuf gid).bytes

def handles (s : Network C Req Res B) : List (Option (C × Nat)) :=
  s.queries.map (fun x => some x.handle) ++ s.server.requestQueue.map (·.query) ++
    s.taken.map (·.1.query)

/-- What holds in every reachable state, whatever the requests are answered with. -/
structure Traced (z : ZeSerializer S B D) (gid : Gid) (s : Network C Req Res B) : Prop where
  clients : ∀ c, (s.clients c).attachment.gid.bytes = (zSliceCopyFromBuf gid).bytes
  fresh : ∀ p ∈ s.sent, p.1.2 < s.issued p.1.1
  unique : (s.sent.map Prod.fst).Nodup
  queries : ∀ x ∈ s.queries, ∃ a, attachmentDataGet z x.attachment = some a ∧
    Stamped s.sent gid x.handle a
  requests : ∀ m ∈ s.server.requestQueue, ∃ q, m.query = some q ∧ Stamped s.sent gid q m.attachment
  taken : ∀ r ∈ s.taken, ∃ q, r.1.query = some q ∧ Stamped s.sent gid q r.1.attachment
  reported : ∀ r ∈ s.taken, ∀ h, r.2 = some h → h.requestId = requestIdOf r.1
  pending : ∀ m ∈ s.server.responseQueue, m ∈ s.taken.map Prod.fst
  distinct : (handles s).Nodup
  replies : ∀ x ∈ s.replies, ∃ q a, x.query = some q ∧ attachmentDataGet z x.attachment = some a ∧
    Stamped s.sent gid q a
  arrived : ∀ c, List.Forall₂ (fun m q => Stamped s.sent gid q m.attachment)
    (s.clients c).responseQueue (s.origins c)
  responses : ∀ r ∈ s.responses, ∃ n, (r.1, n) ∈ s.sent ∧ r.2.requestId.sequenceNumber = n + 1

omit [DecidableEq C] in
theorem Stamped.mono {sent sent' : List ((C × Nat) × Int)} {gid : Gid} {q : C × Nat}
    {a : AttachmentData} (h : Stamped sent gid q a) (hs : sent ⊆ sent') : Stamped sent' gid q a :=
  ⟨h.number.imp fun _ hn => ⟨hs hn.1, hn.2⟩, h.gid⟩

omit [DecidableEq C] in
theorem Stamped.len {sent : List ((C × Nat) × Int)} {gid : Gid} {q : C × Nat} {a : AttachmentData}
    (h : Stamped sent gid q a) : 16 ≤ a.gid.len := by
  have hl := congrArg List.length h.gid
  rw [Slice.bytes_length, Slice.bytes_length] at hl
  exact hl.symm ▸ le_refl 16

omit [DecidableEq C] in
theorem Stamped.gid_eq {sent : List ((C × Nat) × Int)} {gid : Gid} {q : C × Nat} {a : AttachmentData}
    (h : Stamped sent gid q a) : a.gid.gid = gid := by
  rw [Slice.gid_congr h.gid, copyFromBuf_gid]

omit [DecidableEq C] in
theorem Stamped.mem_sent {sent : List ((C × Nat) × Int)} {gid : Gid} {q : C × Nat}
    {a : AttachmentData} (h : Stamped sent gid q a) : q ∈ sent.map Prod.fst := by
  obtain ⟨n, hn, -⟩ := h.number
  exact List.mem_map.mpr ⟨_, hn, rfl⟩

omit [DecidableEq C] in
theorem Traced.handle_sent {z : ZeSerializer S B D} {gid : Gid} {s : Network C Req Res B}
    (h : Traced z gid s) {q : C × Nat} (hq : some q ∈ handles s) : q ∈ s.sent.map Prod.fst := by
  simp only [handles, List.mem_append, List.mem_map, Option.some.injEq] at hq
  rcases hq with (⟨x, hx, rfl⟩ | ⟨m, hm, hmq⟩) | ⟨r, hr, hrq⟩
  · obtain ⟨a, -, hs⟩ := h.queries x hx
    exact hs.mem_sent
  · obtain ⟨q', hq', hs⟩ := h.requests m hm
    obtain rfl : q' = q := Option.some.inj (hq'.symm.trans hmq)
    exact hs.mem_sent
  · obtain ⟨q', hq', hs⟩ := h.taken r hr
    obtain rfl : q' = q := Option.some.inj (hq'.symm.trans hrq)
    exact hs.mem_sent

omit [DecidableEq C] in
theorem initial_traced (z : ZeSerializer S B D) (xxh3 : List Char → XXH128Hash) (topicKey : List Char)
    (requestCallback : MessageTypeSupportCallbacks Req)
    (responseCallback : MessageTypeSupportCallbacks Res) :
    Traced z (zenohPicoGenGid xxh3 topicKey)
      (initial xxh3 topicKey requestCallback responseCallback : Network C Req Res B) := by
  constructor <;> simp [initial, zenohPicoGenerateServiceData, handles]

theorem Traced.updateClient {z : ZeSerializer S B D} {gid : Gid} {s : Network C Req Res B}
    (h : Traced z gid s) (c : C) {data : ServiceData Req Res (C × Nat)}
    (hg : data.attachment.gid = (s.clients c).attachment.gid)
    (hq : data.responseQueue = (s.clients c).responseQueue) :
    Traced z gid { s with clients := Function.update s.clients c data } := by
  refine { h with clients := fun d => ?_, arrived := fun d => ?_ }
  · by_cases hd : d = c
    · subst hd
      simpa [hg] using h.clients d
    · simpa [hd] using h.clients d
  · by_cases hd : d = c
    · subst hd
      simpa [hq] using h.arrived d
    · simpa [hd] using h.arrived d

theorem Traced.issue {z : ZeSerializer S B D} {gid : Gid} {s : Network C Req Res B}
    (h : Traced z gid s) (c : C) (payload : List UInt8) {b : B} {a : AttachmentData} {n : Int}
    (hb : attachmentDataGet z b = some a) (hn : a.sequenceNum = n + 1)
    (hg : a.gid.bytes = (zSliceCopyFromBuf gid).bytes) :
    Traced z gid { s with
      issued := Function.update s.issued c (s.issued c + 1)
      queries := s.queries ++ [⟨(c, s.issued c), payload, b⟩]
      sent := s.sent ++ [((c, s.issued c), n)] } := by
  have hnew : (c, s.issued c) ∉ s.sent.map Prod.fst := by
    intro hm
    obtain ⟨p, hp, he⟩ := List.mem_map.mp hm
    have hlt := h.fresh p hp
    rw [he] at hlt
    exact lt_irrefl _ hlt
  have hsub : s.sent ⊆ s.sent ++ [((c, s.issued c), n)] := List.subset_append_left _ _
  refine
    { clients := h.clients
      fresh := ?_
      unique := ?_
      queries := ?_
      requests := fun m hm => (h.requests m hm).imp fun q hq => ⟨hq.1, hq.2.mono hsub⟩
      taken := fun r hr => (h.taken r hr).imp fun q hq => ⟨hq.1, hq.2.mono hsub⟩
      reported := h.reported
      pending := h.pending
      distinct := ?_
      replies := fun x hx => (h.replies x hx).imp fun q => Exists.imp fun a hq =>
        ⟨hq.1, hq.2.1, hq.2.2.mono hsub⟩
      arrived := fun d => (h.arrived d).imp fun m q hq => hq.mono hsub
      responses := fun r hr => (h.responses r hr).imp fun n hn => ⟨hsub hn.1, hn.2⟩ }
  · intro p hp
    change p.1.2 < Function.update s.issued c (s.issued c + 1) p.1.1
    rcases List.mem_append.mp hp with hp | hp
    · have hlt := h.fresh p hp
      by_cases hc : p.1.1 = c
      · rw [hc] at hlt ⊢
        rw [Function.update_self]
        omega
      · rwa [Function.update_of_ne hc]
    · obtain rfl := List.mem_singleton.mp hp
      simp
  · rw [List.map_append]
    refine List.nodup_append.mpr ⟨h.unique, by simp, ?_⟩
    intro x hx y hy he
    rw [he, List.mem_singleton.mp hy] at hx
    exact hnew hx
  · intro x hx
    rcases List.mem_append.mp hx with hx | hx
    · exact (h.queries x hx).imp fun a ha => ⟨ha.1, ha.2.mono hsub⟩
    · obtain rfl := List.mem_singleton.mp hx
      exact ⟨a, hb, ⟨n, by simp, hn⟩, hg⟩
  · have hp : (some (c, s.issued c) :: handles s).Perm (handles { s with
        issued := Function.update s.issued c (s.issued c + 1)
        queries := s.queries ++ [⟨(c, s.issued c), payload, b⟩]
        sent := s.sent ++ [((c, s.issued c), n)] }) := by
      simp only [handles, List.map_append, List.map_cons, List.map_nil, List.append_assoc,
        List.singleton_append]
      exact List.perm_middle.symm
    exact hp.nodup_iff.mp (List.nodup_cons.mpr ⟨fun hm => hnew (h.handle_sent hm), h.distinct⟩)

theorem stepSendRequest_traced {z : ZeSerializer S B D} (hz : RoundTrips z) {gid : Gid}
    {s : Network C Req Res B} (h : Traced z gid s) (c : C) (req : Req) (env : SendEnvironment) :
    Traced z gid (stepSendRequest z s c req env) := by
  obtain ⟨num, ts, hdata⟩ := sendRequest_data z (s.clients c) req env
  have hs : Traced z gid { s with
      clients := Function.update s.clients c (sendRequest z (s.clients c) req env).data } :=
    h.updateClient c (by rw [hdata]) (by rw [hdata])
  simp only [stepSendRequest]
  split
  · rename_i n request hret hseq hreq
    obtain ⟨payload, b⟩ := request
    obtain ⟨hid, g, hget, hg⟩ := sendRequest_request hz hreq
    obtain rfl : n = (s.clients c).attachment.sequenceNum := Option.some.inj (hseq.symm.trans hid)
    exact hs.issue c payload hget rfl (hg.trans (h.clients c))
  · exact hs

omit [DecidableEq C] in
theorem erase_perm {α : Type} {xs : List α} {i : Nat} {x : α} (h : xs[i]? = some x) :
    (x :: xs.eraseIdx i).Perm xs := by
  obtain ⟨hi, rfl⟩ := List.getElem?_eq_some_iff.mp h
  exact List.getElem_cons_eraseIdx_perm hi

omit [DecidableEq C] in
theorem stepDeliverQuery_traced {z : ZeSerializer S B D} {gid : Gid} {s t : Network C Req Res B}
    (h : Traced z gid s) {i : Nat} {recvTs : Int} {alloc : ReceiveAllocations}
    (hs : stepDeliverQuery z s i recvTs alloc = some t) : Traced z gid t := by
  obtain ⟨query, hi, rfl⟩ := Option.map_eq_some_iff.mp hs
  have hperm := erase_perm hi
  have hmem : ∀ x ∈ s.queries.eraseIdx i, x ∈ s.queries := fun x hx => List.mem_of_mem_eraseIdx hx
  rcases requestHandler_cases z s.server query recvTs alloc with hr | ⟨m, hget, hquery, hr⟩
  · refine { h with
      queries := fun x hx => h.queries x (hmem x hx)
      requests := by simpa only [hr] using h.requests
      pending := by simpa only [hr] using h.pending
      distinct := ?_ }
    have hsub : (handles { s with queries := s.queries.eraseIdx i }).Sublist (handles s) :=
      (((List.eraseIdx_sublist ..).map _).append_right _).append_right _
    simpa only [hr, handles] using h.distinct.sublist hsub
  · refine { h with
      queries := fun x hx => h.queries x (hmem x hx)
      requests := ?_
      pending := by simpa only [hr, addNewRequestMessage] using h.pending
      distinct := ?_ }
    · intro x hx
      simp only [hr, addNewRequestMessage, MessageQueue.append, List.mem_append,
        List.mem_singleton] at hx
      rcases hx with hx | rfl
      · exact h.requests x hx
      · obtain ⟨a, ha, hst⟩ := h.queries query (hperm.mem_iff.mp List.mem_cons_self)
        obtain rfl : a = x.attachment := Option.some.inj (ha.symm.trans hget)
        exact ⟨query.handle, hquery, hst⟩
    · have hq := (hperm.map fun x => some x.handle).symm
      have hp : (handles s).Perm
          (handles { s with
            queries := s.queries.eraseIdx i
            server := addNewRequestMessage s.server m }) := by
        simp only [handles, addNewRequestMessage, MessageQueue.append, List.map_append, List.map_cons,
          List.map_nil, hquery]
        refine ((hq.append_right _).append_right _).trans ?_
        simp only [List.map_cons, List.cons_append, List.append_assoc, List.nil_append]
        refine List.perm_middle.symm.trans ?_
        exact List.Perm.append_left _ List.perm_middle.symm
      simpa only [hr] using hp.nodup_iff.mp h.distinct

omit [DecidableEq C] in
theorem stepTakeRequest_traced {z : ZeSerializer S B D} {gid : Gid} {s : Network C Req Res B}
    (h : Traced z gid s) (header : RmwServiceInfo) (req : Req) (taken : Bool) :
    Traced z gid (stepTakeRequest s header req taken) := by
  cases hq : s.server.requestQueue with
  | nil =>
      simp only [stepTakeRequest, hq, takeRequest_empty hq]
      exact h
  | cons m ms =>
      obtain ⟨hdata, htaken, hinfo⟩ := takeRequest_cons hq header req taken
      obtain ⟨q, hmq, hst⟩ := h.requests m (by simp [hq])
      simp only [stepTakeRequest, hq, hdata]
      refine { h with
        requests := fun x hx => h.requests x (by simp only [hq, List.mem_cons]; exact .inr hx)
        taken := ?_
        reported := ?_
        pending := ?_
        distinct := ?_ }
      · intro r hr
        rcases List.mem_append.mp hr with hr | hr
        · exact h.taken r hr
        · obtain rfl := List.mem_singleton.mp hr
          exact ⟨q, hmq, hst⟩
      · intro r hr i hi
        rcases List.mem_append.mp hr with hr | hr
        · exact h.reported r hr i hi
        · obtain rfl := List.mem_singleton.mp hr
          by_cases hd : Deserializes m s.server.requestCallback req
          · simp only [htaken, hd, decide_true, if_true, hinfo hd, Option.some.injEq] at hi
            rw [← hi, fillRequestHeader_id hst.len]
            rfl
          · simp [htaken, hd] at hi
      · intro x hx
        rw [List.map_append, List.mem_append]
        rcases List.mem_append.mp hx with hx | hx
        · exact .inl (h.pending x hx)
        · obtain rfl := List.mem_singleton.mp hx
          exact .inr (by simp)
      · have hp := h.distinct
        simp only [handles, hq, List.map_cons, List.map_append, List.map_nil, List.append_assoc,
          List.cons_append] at hp ⊢
        refine (List.Perm.nodup_iff ?_).mp hp
        refine List.Perm.append_left _ ?_
        rw [← List.append_assoc]
        exact (List.perm_append_singleton _ _).symm

theorem stepSendResponse_traced {z : ZeSerializer S B D} (hz : RoundTrips z) {gid : Gid}
    {s t : Network C Req Res B} (h : Traced z gid s) {query : C × Nat} {res : Res}
    {env : SendEnvironment} (hs : stepSendResponse z s query res env = some t) : Traced z gid t := by
  simp only [stepSendResponse] at hs
  split at hs
  · rename_i info ht
    obtain ⟨r, hr, rfl⟩ := Option.map_eq_some_iff.mp hs
    obtain ⟨hpicked, hdata, hreply⟩ := sendResponse_cases hr
    refine { h with
      requests := by simpa only [hdata] using h.requests
      pending := fun x hx => h.pending x ?_
      distinct := by simpa only [hdata, handles] using h.distinct
      replies := ?_ }
    · rw [hdata] at hx
      exact List.eraseP_subset hx
    · intro x hx
      rcases List.mem_append.mp hx with hx | hx
      · exact h.replies x hx
      · split at hx
        · obtain ⟨m, hm, hmq, hatt⟩ := hreply x (Option.mem_toList.mp hx)
          rw [hpicked] at hm
          obtain ⟨p, hp, rfl⟩ := List.mem_map.mp (h.pending m (MessageQueue.mem_of_pickup hm))
          obtain ⟨q, hq, hst⟩ := h.taken p hp
          obtain ⟨g, hget, hg⟩ := attachmentGen_get hz hatt
          exact ⟨q, _, hmq.trans hq, hget, hst.number, hg.trans hst.gid⟩
        · cases hx
  · cases hs

theorem stepDeliverReply_traced {z : ZeSerializer S B D} {gid : Gid} {s t : Network C Req Res B}
    (h : Traced z gid s) {i : Nat} {recvTs : Int} {alloc : ReceiveAllocations}
    (hs : stepDeliverReply z s i recvTs alloc = some t) : Traced z gid t := by
  obtain ⟨reply, hi, rfl⟩ := Option.map_eq_some_iff.mp hs
  have hmem : ∀ x ∈ s.replies.eraseIdx i, x ∈ s.replies := fun x hx => List.mem_of_mem_eraseIdx hx
  obtain ⟨q, a, hq, ha, hst⟩ := h.replies reply (List.mem_of_getElem? hi)
  have he : Traced z gid { s with replies := s.replies.eraseIdx i } :=
    { h with replies := fun x hx => h.replies x (hmem x hx) }
  simp only [hq]
  cases hm : rmwZenohPicoGenerateRecvSampleMsgData (ω := C × Nat) z
      ⟨reply.payload, reply.attachment⟩ recvTs alloc with
  | none =>
      simp only [replyHandler, hm]
      simpa only [Function.update_eq_self] using he
  | some m =>
      have hatt : m.attachment = a := by
        simp only [rmwZenohPicoGenerateRecvSampleMsgData, Option.ite_none_right_eq_some, ha,
          Option.map_some, Option.some.injEq] at hm
        obtain ⟨-, rfl⟩ := hm
        rfl
      simp only [replyHandler, hm, addNewReplayMessage, MessageQueue.append]
      refine { he with clients := fun d => ?_, arrived := fun d => ?_ }
      · by_cases hd : d = q.1
        · subst hd
          simpa using h.clients q.1
        · simpa [hd] using h.clients d
      · by_cases hd : d = q.1
        · subst hd
          simp only [Function.update_self]
          exact List.rel_append (h.arrived q.1) (.cons (hatt ▸ hst) .nil)
        · simpa [hd] using h.arrived d

theorem stepTakeResponse_traced {z : ZeSerializer S B D} {gid : Gid} {s : Network C Req Res B}
    (h : Traced z gid s) (c : C) (header : RmwServiceInfo) (res : Res) (taken : Bool) :
    Traced z gid (stepTakeResponse s c header res taken) := by
  have ha := h.arrived c
  cases ho : s.origins c with
  | nil =>
      rw [ho, List.forall₂_nil_right_iff] at ha
      simp only [stepTakeResponse, takeResponse_empty ha, ho, Function.update_eq_self]
      exact h
  | cons q qs =>
      rw [ho] at ha
      obtain ⟨m, ms, hst, hms, hq⟩ := List.forall₂_cons_right_iff.mp ha
      obtain ⟨hdata, htaken, hinfo⟩ := takeResponse_cons hq header res taken
      simp only [stepTakeResponse, hdata, ho]
      refine { h with
        clients := fun d => ?_
        arrived := fun d => ?_
        responses := ?_ }
      · by_cases hd : d = c
        · subst hd
          simpa using h.clients d
        · simpa [hd] using h.clients d
      · by_cases hd : d = c
        · subst hd
          simpa using hms
        · simpa [hd] using h.arrived d
      · intro r hr
        rcases List.mem_append.mp hr with hr | hr
        · exact h.responses r hr
        · by_cases hd : Deserializes m (s.clients c).responseCallback res
          · simp only [htaken, hd, decide_true, if_true, hinfo hd, Option.toList_some, List.map_cons,
              List.map_nil, List.mem_singleton] at hr
            subst hr
            exact hst.number
          · simp [htaken, hd] at hr

theorem step_traced {z : ZeSerializer S B D} (hz : RoundTrips z) {gid : Gid}
    (s : Network C Req Res B) (l : Label C Req Res) (t : Network C Req Res B) (h : Traced z gid s)
    (hs : step z s l = some t) : Traced z gid t := by
  cases l with
  | sendRequest c req env => exact Option.some.inj hs ▸ stepSendRequest_traced hz h c req env
  | deliverQuery i recvTs alloc => exact stepDeliverQuery_traced h hs
  | takeRequest header req taken => exact Option.some.inj hs ▸ stepTakeRequest_traced h header req taken
  | sendResponse query res env => exact stepSendResponse_traced hz h hs
  | deliverReply i recvTs alloc => exact stepDeliverReply_traced h hs
  | takeResponse c header res taken =>
      exact Option.some.inj hs ▸ stepTakeResponse_traced h c header res taken

end RmwZenohPico.ServiceNetwork
