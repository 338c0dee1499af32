import RmwZenohPico.Lib.LabelledMachine
import RmwZenohPico.Client

namespace RmwZenohPico.Queryables

open Lib.LabelledMachine RmwTypes Attachment RosMessage Service Client

variable {Req Res S B D : Type}

structure Endpoint (Req Res : Type) where
  type : ZenohPicoEntityType
  data : ServiceData Req Res Nat
  declared : Bool

def declarationServiceData (e : Endpoint Req Res) : Endpoint Req Res := { e with declared := true }

def undeclarationServiceData (e : Endpoint Req Res) : Endpoint Req Res := { e with declared := false }

section Creation

variable (xxh3 : List Char → XXH128Hash) (topicKey : List Char)
  (requestCallback : MessageTypeSupportCallbacks Req) (responseCallback : MessageTypeSupportCallbacks Res)

def rmwCreateService : Endpoint Req Res :=
  declarationServiceData
    ⟨.service, zenohPicoGenerateServiceData xxh3 topicKey requestCallback responseCallback, false⟩

/-- What a successful rmw_create_client makes. It goes through the declaration
of a service. -/
def rmwCreateClient : Endpoint Req Res :=
  declarationServiceData
    ⟨.client, zenohPicoGenerateServiceData xxh3 topicKey requestCallback responseCallback, false⟩

end Creation

structure Network (Req Res B : Type) where
  endpoints : List (Endpoint Req Res)
  issued : Nat
  queries : List (Nat × ZenohQuery Nat B)

inductive Label (Req Res B : Type)
  | createService (topicKey : List Char) (requestCallback : MessageTypeSupportCallbacks Req)
      (responseCallback : MessageTypeSupportCallbacks Res)
  | createClient (topicKey : List Char) (requestCallback : MessageTypeSupportCallbacks Req)
      (responseCallback : MessageTypeSupportCallbacks Res)
  | destroy (i : Nat)
  | sendRequest (i : Nat) (rosRequest : Req) (env : SendEnvironment)
  | deliverQuery (k : Nat) (recvTs : Int) (alloc : ReceiveAllocations)
  | takeRequest (i : Nat) (requestHeader : RmwServiceInfo) (rosRequest : Req) (taken : Bool)
  | sendResponse (i : Nat) (requestHeader : RmwRequestId) (rosResponse : Res) (env : SendEnvironment)
  | deliverReply (i : Nat) (sample : ZenohSample B) (recvTs : Int) (alloc : ReceiveAllocations)
  | takeResponse (i : Nat) (requestHeader : RmwServiceInfo) (rosResponse : Res) (taken : Bool)

def initial : Network Req Res B := ⟨[], 0, []⟩

def Network.endpoint (s : Network Req Res B) (i : Nat) (type : ZenohPicoEntityType) :
    Option (Endpoint Req Res) :=
  s.endpoints[i]?.filter fun e => e.declared && e.type = type

def Network.setData (s : Network Req Res B) (i : Nat) (e : Endpoint Req Res) (data : ServiceData Req Res Nat) :
    Network Req Res B :=
  { s with endpoints := s.endpoints.set i { e with data := data } }

/-- A query goes to every queryable that is declared on its key. -/
def Network.fanOut (s : Network Req Res B) (key : List Char) (query : ZenohQuery Nat B) :
    List (Nat × ZenohQuery Nat B) :=
  (s.endpoints.zipIdx.filter fun p => p.1.declared && p.1.data.topicKey = key).map fun p => (p.2, query)

def stepSendRequest (z : ZeSerializer S B D) (s : Network Req Res B) (i : Nat) (rosRequest : Req)
    (env : SendEnvironment) : Option (Network Req Res B) :=
  (s.endpoint i .client).map fun e =>
    let r := sendRequest z e.data rosRequest env
    let s := s.setData i e r.data
    match r.ret, r.request with
    | .ok, some (payload, attachment) => { s with
        issued := s.issued + 1
        queries := s.queries ++ s.fanOut e.data.topicKey ⟨s.issued, payload, attachment⟩ }
    | _, _ => s

/-- The handler is the same for every queryable. -/
def stepDeliverQuery (z : ZeSerializer S B D) (s : Network Req Res B) (k : Nat) (recvTs : Int)
    (alloc : ReceiveAllocations) : Option (Network Req Res B) :=
  s.queries[k]?.map fun (i, query) =>
    let s := { s with queries := s.queries.eraseIdx k }
    match s.endpoints[i]? with
    | none => s
    | some e => if e.declared then s.setData i e (requestHandler z e.data query recvTs alloc).1 else s

def step (z : ZeSerializer S B D) (xxh3 : List Char → XXH128Hash) :
    Machine (Network Req Res B) (Label Req Res B)
  | s, .createService topicKey requestCallback responseCallback => some { s with
      endpoints := s.endpoints ++ [rmwCreateService xxh3 topicKey requestCallback responseCallback] }
  | s, .createClient topicKey requestCallback responseCallback => some { s with
      endpoints := s.endpoints ++ [rmwCreateClient xxh3 topicKey requestCallback responseCallback] }
  | s, .destroy i => s.endpoints[i]?.map fun e =>
      { s with endpoints := s.endpoints.set i (undeclarationServiceData e) }
  | s, .sendRequest i rosRequest env => stepSendRequest z s i rosRequest env
  | s, .deliverQuery k recvTs alloc => stepDeliverQuery z s k recvTs alloc
  | s, .takeRequest i requestHeader rosRequest taken =>
      (s.endpoint i .service).map fun e =>
        s.setData i e (takeRequest e.data (some requestHeader) rosRequest taken).data
  | s, .sendResponse i requestHeader rosResponse env =>
      (s.endpoint i .service).bind fun e =>
        (sendResponse z e.data requestHeader rosResponse env).map fun r => s.setData i e r.data
  | s, .deliverReply i sample recvTs alloc =>
      (s.endpoint i .client).map fun e => s.setData i e (replyHandler z e.data sample recvTs alloc)
  | s, .takeResponse i requestHeader rosResponse taken =>
      (s.endpoint i .client).map fun e =>
        s.setData i e (takeResponse e.data (some requestHeader) rosResponse taken).data

def ClientsUnasked (s : Network Req Res B) : Prop :=
  ∀ e ∈ s.endpoints, e.type = .client → e.data.requestQueue = []

/-- A query that reaches the queryable of a client cannot be made a message
of: there is no memory for it, or no attachment to be read from it. -/
def Unheard (z : ZeSerializer S B D) (s : Network Req Res B) : Label Req Res B → Prop
  | .deliverQuery k _ alloc => ∀ i query e, s.queries[k]? = some (i, query) → s.endpoints[i]? = some e →
      e.declared = true → e.type = .client →
      alloc.succeed = false ∨ attachmentDataGet z query.attachment = none
  | _ => True

theorem endpoint_some {s : Network Req Res B} {i : Nat} {type : ZenohPicoEntityType} {e : Endpoint Req Res}
    (h : s.endpoint i type = some e) : e ∈ s.endpoints ∧ e.type = type := by
  obtain ⟨he, hp⟩ := Option.filter_eq_some_iff.mp h
  rw [Bool.and_eq_true, decide_eq_true_eq] at hp
  exact ⟨List.mem_of_getElem? he, hp.2⟩

theorem ClientsUnasked.append {s : Network Req Res B} (h : ClientsUnasked s) {e : Endpoint Req Res}
    (he : e.data.requestQueue = []) : ClientsUnasked { s with endpoints := s.endpoints ++ [e] } := by
  intro e' hmem htype
  rcases List.mem_append.mp hmem with hmem | hmem
  · exact h e' hmem htype
  · rw [List.mem_singleton.mp hmem]
    exact he

theorem ClientsUnasked.set {s : Network Req Res B} (h : ClientsUnasked s) (i : Nat) {e : Endpoint Req Res}
    (he : e.type = .client → e.data.requestQueue = []) :
    ClientsUnasked { s with endpoints := s.endpoints.set i e } := by
  intro e' hmem htype
  rcases List.mem_or_eq_of_mem_set hmem with hmem | rfl
  · exact h e' hmem htype
  · exact he htype

theorem requestHandler_unheard {z : ZeSerializer S B D} (data : ServiceData Req Res Nat)
    {query : ZenohQuery Nat B} (recvTs : Int) {alloc : ReceiveAllocations}
    (h : alloc.succeed = false ∨ attachmentDataGet z query.attachment = none) :
    (requestHandler z data query recvTs alloc).1 = data := by
  have hnone : rmwZenohPicoGenerateRecvQueryMsgData z query recvTs alloc = none := by
    rcases h with h | h
    · simp [rmwZenohPicoGenerateRecvQueryMsgData, h]
    · simp [rmwZenohPicoGenerateRecvQueryMsgData, h]
  rw [requestHandler, hnone]

theorem requestHandler_heard {z : ZeSerializer S B D} (data : ServiceData Req Res Nat)
    {query : ZenohQuery Nat B} (recvTs : Int) {alloc : ReceiveAllocations}
    (h : ¬(alloc.succeed = false ∨ attachmentDataGet z query.attachment = none)) :
    (requestHandler z data query recvTs alloc).1.requestQueue ≠ [] := by
  obtain ⟨halloc, hattachment⟩ := not_or.mp h
  obtain ⟨attachment, ha⟩ := Option.ne_none_iff_exists'.mp hattachment
  have hsucceed : alloc.succeed = true := by simpa using halloc
  simp [requestHandler, rmwZenohPicoGenerateRecvQueryMsgData, hsucceed, ha, addNewRequestMessage,
    MessageQueue.append]

theorem replyHandler_requestQueue (z : ZeSerializer S B D) (data : ServiceData Req Res Nat)
    (sample : ZenohSample B) (recvTs : Int) (alloc : ReceiveAllocations) :
    (replyHandler z data sample recvTs alloc).requestQueue = data.requestQueue := by
  unfold replyHandler
  split <;> rfl

theorem takeResponse_requestQueue (data : ServiceData Req Res Nat) (requestHeader : Option RmwServiceInfo)
    (rosResponse : Res) (taken : Bool) :
    (takeResponse data requestHeader rosResponse taken).data.requestQueue = data.requestQueue := by
  unfold takeResponse
  split <;> rfl

variable {z : ZeSerializer S B D} {xxh3 : List Char → XXH128Hash}

theorem ClientsUnasked.deliver {s t : Network Req Res B} (hs : ClientsUnasked s) {k : Nat} {recvTs : Int}
    {alloc : ReceiveAllocations} (hunheard : Unheard z s (.deliverQuery k recvTs alloc))
    (h : stepDeliverQuery z s k recvTs alloc = some t) : ClientsUnasked t := by
  obtain ⟨⟨i, query⟩, hk, rfl⟩ := Option.map_eq_some_iff.mp h
  cases he : s.endpoints[i]? with
  | none =>
      simp only [he]
      exact hs
  | some e =>
      simp only [he]
      split
      · rename_i hdeclared
        apply ClientsUnasked.set (s := { s with queries := s.queries.eraseIdx k }) hs
        intro htype
        change (requestHandler z e.data query recvTs alloc).1.requestQueue = []
        rw [requestHandler_unheard e.data recvTs (hunheard i query e hk he hdeclared htype)]
        exact hs e (List.mem_of_getElem? he) htype
      · exact hs

theorem unasked_step {s t : Network Req Res B} {l : Label Req Res B} (hs : ClientsUnasked s)
    (hunheard : Unheard z s l) (h : step z xxh3 s l = some t) : ClientsUnasked t := by
  cases l with
  | createService topicKey requestCallback responseCallback =>
      cases h
      exact hs.append rfl
  | createClient topicKey requestCallback responseCallback =>
      cases h
      exact hs.append rfl
  | destroy i =>
      obtain ⟨e, he, rfl⟩ := Option.map_eq_some_iff.mp h
      exact hs.set i (hs e (List.mem_of_getElem? he))
  | sendRequest i rosRequest env =>
      obtain ⟨e, he, rfl⟩ := Option.map_eq_some_iff.mp h
      obtain ⟨hmem, htype⟩ := endpoint_some he
      have hset : ClientsUnasked (s.setData i e (sendRequest z e.data rosRequest env).data) := by
        apply hs.set i
        intro _
        obtain ⟨num, ts, hdata⟩ := sendRequest_data z e.data rosRequest env
        rw [hdata]
        exact hs e hmem htype
      dsimp only
      split
      · exact hset
      · exact hset
  | deliverQuery k recvTs alloc => exact hs.deliver hunheard h
  | takeRequest i requestHeader rosRequest taken =>
      obtain ⟨e, he, rfl⟩ := Option.map_eq_some_iff.mp h
      apply hs.set i
      intro htype
      rw [(endpoint_some he).2] at htype
      cases htype
  | sendResponse i requestHeader rosResponse env =>
      obtain ⟨e, he, h⟩ := Option.bind_eq_some_iff.mp h
      obtain ⟨r, -, rfl⟩ := Option.map_eq_some_iff.mp h
      apply hs.set i
      intro htype
      rw [(endpoint_some he).2] at htype
      cases htype
  | deliverReply i sample recvTs alloc =>
      obtain ⟨e, he, rfl⟩ := Option.map_eq_some_iff.mp h
      obtain ⟨hmem, htype⟩ := endpoint_some he
      apply hs.set i
      intro _
      exact (replyHandler_requestQueue z e.data sample recvTs alloc).trans (hs e hmem htype)
  | takeResponse i requestHeader rosResponse taken =>
      obtain ⟨e, he, rfl⟩ := Option.map_eq_some_iff.mp h
      obtain ⟨hmem, htype⟩ := endpoint_some he
      apply hs.set i
      intro _
      exact (takeResponse_requestQueue e.data _ rosResponse taken).trans (hs e hmem htype)

theorem unheard_of_unasked {s : Network Req Res B} {l : Label Req Res B}
    (ht : ∀ t, step z xxh3 s l = some t → ClientsUnasked t) : Unheard z s l := by
  cases l with
  | deliverQuery k recvTs alloc =>
      intro i query e hk he hdeclared htype
      by_contra hheard
      have hstep : step z xxh3 s (.deliverQuery k recvTs alloc) =
          some ({ s with queries := s.queries.eraseIdx k }.setData i e
            (requestHandler z e.data query recvTs alloc).1) := by
        simp [step, stepDeliverQuery, hk, he, hdeclared]
      apply requestHandler_heard e.data recvTs hheard
      refine ht _ hstep { e with data := (requestHandler z e.data query recvTs alloc).1 } ?_ htype
      exact List.mem_set (List.getElem?_eq_some_iff.mp he).1 _
  | createService | createClient | destroy | sendRequest | takeRequest | sendResponse | deliverReply
  | takeResponse => trivial

/-- The clients of a run get no request exactly if no query that can be made a
message of is delivered to one of them. -/
theorem clients_unasked_iff (z : ZeSerializer S B D) (xxh3 : List Char → XXH128Hash)
    (ls : List (Label Req Res B)) :
    Always (step z xxh3) ClientsUnasked initial ls ↔ Every (step z xxh3) (Unheard z) initial ls := by
  constructor
  · exact every_of_always fun _ _ _ => unheard_of_unasked
  · apply always_of_every fun _ _ _ => unasked_step
    intro e he
    cases he

def oneRequest : List (Label Unit Unit (List (Int ⊕ Slice))) :=
  [.createService [] emptyMessageCallbacks emptyMessageCallbacks,
    .createClient [] emptyMessageCallbacks emptyMessageCallbacks,
    .sendRequest 1 () ⟨true, false, 5, true⟩, .deliverQuery 0 6 ⟨true, true⟩, .deliverQuery 0 7 ⟨true, true⟩]

theorem one_request_asks_client :
    ((run (step valueSerializer fun _ => ⟨0, 0⟩) initial oneRequest).map fun s =>
      s.endpoints.map fun e => (e.type, e.data.requestQueue.length)) = some [(.service, 1), (.client, 1)] ∧
    ¬Always (step valueSerializer fun _ => ⟨0, 0⟩) ClientsUnasked initial oneRequest := by
  have hqueues : ((run (step valueSerializer fun _ => ⟨0, 0⟩) initial oneRequest).map fun s =>
      s.endpoints.map fun e => (e.type, e.data.requestQueue.length)) = some [(.service, 1), (.client, 1)] := rfl
  refine ⟨hqueues, ?_⟩
  intro halways
  obtain ⟨s, hs, hlist⟩ := Option.map_eq_some_iff.mp hqueues
  have hmem : (ZenohPicoEntityType.client, 1) ∈ s.endpoints.map fun e => (e.type, e.data.requestQueue.length) := by
    rw [hlist]
    exact List.mem_cons_of_mem _ List.mem_cons_self
  obtain ⟨e, he, heq⟩ := List.mem_map.mp hmem
  obtain ⟨htype, hlen⟩ := Prod.mk.inj heq
  rw [halways oneRequest s (List.prefix_refl _) hs e he htype] at hlen
  cases hlen

end RmwZenohPico.Queryables
