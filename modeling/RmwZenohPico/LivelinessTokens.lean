import RmwZenohPico.Lib.LabelledMachine
import RmwZenohPico.Lib.Registry
import RmwZenohPico.AdvertisedQos
import RmwZenohPico.KeyDecoding
import RmwZenohPico.NodeRefs

namespace RmwZenohPico.LivelinessTokens

open Lib.CBuffer Lib.LabelledMachine Lib.Registry RmwTypes TopicKey Liveliness KeyDecoding
open QosKeyexpr (RmwQosProfile)
open Creation (Kind CreateEnv NodeEnv rmwCreate rmwCreateNode)
open ZenohPicoData (Obj nodeDataOf)
open FailedCreation (NodeFresh EndpointFresh)
open NodeRefs (Endpoint Accurate users keepsCounts)
open AdvertisedQos (NodeData TypeSupport EndpointData generateData zenohPicoGenerateEntity)

variable {P N E : Type}

structure Node where
  data : NodeData
  entity : ZenohPicoEntity
  livelinessKey : CString

def zenohPicoGenerateNodeInfo (domainId : Nat) (ns name enclave : CString) :
    Except Failure ZenohPicoNodeInfo := do
  let domain ← convDomain true domainId
  .ok ⟨domain, enclave, ns, name⟩

/-- What the objects hold where there is memory for all of them. -/
def zenohPicoGenerateNodeData (zid enclave : CString) (nodeId entityId domainId : Nat) (name ns : CString) :
    Except Failure Node := do
  let nodeInfo ← zenohPicoGenerateNodeInfo domainId ns name enclave
  let entity : ZenohPicoEntity := ⟨zid, entityId, nodeId, .node, some nodeInfo, none⟩
  let livelinessKey ← generateLiveliness true entity
  .ok ⟨⟨zid, nodeId, nodeInfo⟩, entity, livelinessKey⟩

inductive Owner (N E : Type)
  | node (n : N)
  | endpoint (e : Endpoint N E)
  deriving DecidableEq

/-- The counters of zenoh_pico_get_next_node_id and
zenoh_pico_get_next_entity_id, the counted objects with the handles of the
application, and what is in the data of its nodes and endpoints. -/
structure Process (N E : Type) where
  nextNodeId : Nat
  nextEntityId : Nat
  refs : NodeRefs.State N E
  node : N → Option Node
  endpoint : Endpoint N E → Option EndpointData

structure State (P N E : Type) where
  process : P → Process N E
  tokens : Entries (P × Owner N E) CString

inductive Label (P N E : Type)
  | createNode (p : P) (env : NodeEnv) (n : N) (domainId : Nat) (name ns : CString)
  | destroyNode (p : P) (n : N)
  | create (p : P) (env : CreateEnv) (e : Endpoint N E) (topicName : CString) (typeSupport : TypeSupport)
      (qosProfile : RmwQosProfile)
  | destroy (p : P) (e : Endpoint N E)

def initial : State P N E where
  process _ := ⟨0, 0, NodeRefs.initial, fun _ => none, fun _ => none⟩
  tokens := []

/-- The entity of an endpoint draws its id. That of a service is generated
without its topic info, too. -/
def drawsEntityId (kind : Kind) (env : CreateEnv) : Bool :=
  match kind with
  | .publisher | .subscription => env.topicInfo && env.entity
  | .service | .client => env.entity

def Label.countsKept : Label P N E → Bool
  | .create _ env e _ _ _ => keepsCounts e.kind env
  | _ => true

section Steps

variable [DecidableEq P] [DecidableEq N] [DecidableEq E]

omit [DecidableEq N] [DecidableEq E] in
instance (h : Lib.RefHeap.Heap (Obj N E)) (n : N) : Decidable (NodeFresh h n) :=
  decidable_of_iff (h (.nodeInfo n) = .absent ∧ h (.nodeEntity n) = .absent ∧ h (.nodeData n) = .absent)
    ⟨fun hn => ⟨hn.1, hn.2.1, hn.2.2⟩, fun hn => ⟨hn.nodeInfo, hn.nodeEntity, hn.nodeData⟩⟩

omit [DecidableEq N] [DecidableEq E] in
instance (h : Lib.RefHeap.Heap (Obj N E)) (e : E) : Decidable (EndpointFresh h e) :=
  decidable_of_iff (h (.topicInfo e) = .absent ∧ h (.entity e) = .absent ∧ h (.data e) = .absent)
    ⟨fun he => ⟨he.1, he.2.1, he.2.2⟩, fun he => ⟨he.topicInfo, he.entity, he.data⟩⟩

def State.set (s : State P N E) (p : P) (q : Process N E) : State P N E :=
  { s with process := Function.update s.process p q }

/-- zenoh_pico_destroy_node_data takes the token back with the last reference
of the node, which may go in any call on it. -/
def State.settle (s : State P N E) (p : P) (n : N) : State P N E :=
  if ((s.process p).refs.heap (.nodeData n)).isLive then s
  else { s with tokens := unregister s.tokens (p, .node n) }

def Process.addNode (q : Process N E) (n : N) (heap : Lib.RefHeap.Heap (Obj N E)) (node : Node) : Process N E :=
  { nextNodeId := q.nextNodeId + 1
    nextEntityId := q.nextEntityId + 1
    refs := { q.refs with heap := heap, nodes := n :: q.refs.nodes, created := n :: q.refs.created }
    node := Function.update q.node n (some node)
    endpoint := q.endpoint }

def Process.addEndpoint (q : Process N E) (e : Endpoint N E) (heap : Lib.RefHeap.Heap (Obj N E))
    (data : EndpointData) : Process N E :=
  { q with
    nextEntityId := q.nextEntityId + 1
    refs := { q.refs with heap := heap, endpoints := e :: q.refs.endpoints }
    endpoint := Function.update q.endpoint e (some data) }

def Process.removeEndpoint (q : Process N E) (e : Endpoint N E) (refs : NodeRefs.State N E) : Process N E :=
  { q with refs := refs, endpoint := Function.update q.endpoint e none }

/-- A creation that failed has drawn ids all the same. -/
def Process.failed (q : Process N E) (heap : Lib.RefHeap.Heap (Obj N E)) (nodeId entityId : Bool) :
    Process N E :=
  { q with
    nextNodeId := q.nextNodeId + nodeId.toNat
    nextEntityId := q.nextEntityId + entityId.toNat
    refs := { q.refs with heap := heap } }

def State.createdNode (s : State P N E) (p : P) (n : N) (heap : Lib.RefHeap.Heap (Obj N E)) :
    Except Failure Node → Option (State P N E)
  | .error _ => none
  | .ok node => some ⟨Function.update s.process p ((s.process p).addNode n heap node),
      register s.tokens (p, .node n) node.livelinessKey⟩

def State.createdEndpoint (s : State P N E) (p : P) (e : Endpoint N E) (heap : Lib.RefHeap.Heap (Obj N E)) :
    Except Failure EndpointData → Option (State P N E)
  | .error _ => none
  | .ok data => some ⟨Function.update s.process p ((s.process p).addEndpoint e heap data),
      register s.tokens (p, .endpoint e) data.livelinessKey⟩

/-- Calls through a handle that was destroyed, and those that touch an object
that is gone, have no outcome. zid is that of the session which the process has
open, enclave the one it was opened for. -/
def step (zid enclave : P → CString) : Machine (State P N E) (Label P N E)
  | s, .createNode p env n domainId name ns =>
      let q := s.process p
      if NodeFresh q.refs.heap n ∧ (q.node n).isNone then
        match rmwCreateNode env q.refs.heap n with
        | none => none
        | some (heap, none) => some (s.set p (q.failed heap env.nodeInfo (env.nodeInfo && env.entity)))
        | some (heap, some _) =>
            s.createdNode p n heap
              (zenohPicoGenerateNodeData (zid p) (enclave p) q.nextNodeId q.nextEntityId domainId name ns)
      else none
  | s, .destroyNode p n =>
      let q := s.process p
      if n ∈ q.refs.nodes then
        (NodeRefs.machine q.refs (.destroyNode n)).map fun refs => (s.set p { q with refs := refs }).settle p n
      else none
  | s, .create p env e topicName typeSupport qosProfile =>
      let q := s.process p
      if e.node ∈ q.refs.nodes ∧ EndpointFresh q.refs.heap e.id ∧ (q.endpoint e).isNone then
        match rmwCreate e.kind env q.refs.heap (nodeDataOf e.node) e.id with
        | none => none
        | some (heap, none) =>
            some ((s.set p (q.failed heap false (drawsEntityId e.kind env))).settle p e.node)
        | some (heap, some _) =>
            (q.node e.node).bind fun node => s.createdEndpoint p e heap
              (generateData e.kind node.data q.nextEntityId topicName typeSupport qosProfile)
      else none
  | s, .destroy p e =>
      let q := s.process p
      if e ∈ q.refs.endpoints then
        (NodeRefs.machine q.refs (.destroy e)).map fun refs =>
          State.settle ⟨Function.update s.process p (q.removeEndpoint e refs),
            unregister s.tokens (p, .endpoint e)⟩ p e.node
      else none

inductive Step (zid enclave : P → CString) (s : State P N E) : Label P N E → State P N E → Prop
  | createNode (p env n domainId name ns heap data node) (hfresh : NodeFresh (s.process p).refs.heap n)
      (hn : (s.process p).node n = none)
      (hcall : rmwCreateNode env (s.process p).refs.heap n = some (heap, some data))
      (hnode : zenohPicoGenerateNodeData (zid p) (enclave p) (s.process p).nextNodeId
        (s.process p).nextEntityId domainId name ns = .ok node) :
      Step zid enclave s (.createNode p env n domainId name ns)
        ⟨Function.update s.process p ((s.process p).addNode n heap node),
          register s.tokens (p, .node n) node.livelinessKey⟩
  | failNode (p env n domainId name ns heap) (hfresh : NodeFresh (s.process p).refs.heap n)
      (hcall : rmwCreateNode env (s.process p).refs.heap n = some (heap, none)) :
      Step zid enclave s (.createNode p env n domainId name ns)
        (s.set p ((s.process p).failed heap env.nodeInfo (env.nodeInfo && env.entity)))
  | destroyNode (p n refs) (hn : n ∈ (s.process p).refs.nodes)
      (hcall : NodeRefs.machine (s.process p).refs (.destroyNode n) = some refs) :
      Step zid enclave s (.destroyNode p n) ((s.set p { s.process p with refs := refs }).settle p n)
  | create (p env e topicName typeSupport qosProfile heap handle node data)
      (hn : e.node ∈ (s.process p).refs.nodes) (hfresh : EndpointFresh (s.process p).refs.heap e.id)
      (he : (s.process p).endpoint e = none)
      (hcall : rmwCreate e.kind env (s.process p).refs.heap (nodeDataOf e.node) e.id = some (heap, some handle))
      (hnode : (s.process p).node e.node = some node)
      (hdata : generateData e.kind node.data (s.process p).nextEntityId topicName typeSupport qosProfile =
        .ok data) :
      Step zid enclave s (.create p env e topicName typeSupport qosProfile)
        ⟨Function.update s.process p ((s.process p).addEndpoint e heap data),
          register s.tokens (p, .endpoint e) data.livelinessKey⟩
  | failCreate (p env e topicName typeSupport qosProfile heap) (hn : e.node ∈ (s.process p).refs.nodes)
      (hfresh : EndpointFresh (s.process p).refs.heap e.id)
      (hcall : rmwCreate e.kind env (s.process p).refs.heap (nodeDataOf e.node) e.id = some (heap, none)) :
      Step zid enclave s (.create p env e topicName typeSupport qosProfile)
        ((s.set p ((s.process p).failed heap false (drawsEntityId e.kind env))).settle p e.node)
  | destroy (p e refs) (he : e ∈ (s.process p).refs.endpoints)
      (hcall : NodeRefs.machine (s.process p).refs (.destroy e) = some refs) :
      Step zid enclave s (.destroy p e) (State.settle
        ⟨Function.update s.process p ((s.process p).removeEndpoint e refs),
          unregister s.tokens (p, .endpoint e)⟩ p e.node)

omit [DecidableEq E] in
theorem createdNode_cases {s t : State P N E} {p : P} {n : N} {heap : Lib.RefHeap.Heap (Obj N E)}
    {made : Except Failure Node} (h : s.createdNode p n heap made = some t) : ∃ node, made = .ok node ∧
      t = ⟨Function.update s.process p ((s.process p).addNode n heap node),
        register s.tokens (p, .node n) node.livelinessKey⟩ := by
  cases made with
  | error e => cases h
  | ok node => exact ⟨node, rfl, (Option.some.inj h).symm⟩

theorem createdEndpoint_cases {s t : State P N E} {p : P} {e : Endpoint N E}
    {heap : Lib.RefHeap.Heap (Obj N E)} {made : Except Failure EndpointData}
    (h : s.createdEndpoint p e heap made = some t) : ∃ data, made = .ok data ∧
      t = ⟨Function.update s.process p ((s.process p).addEndpoint e heap data),
        register s.tokens (p, .endpoint e) data.livelinessKey⟩ := by
  cases made with
  | error e => cases h
  | ok data => exact ⟨data, rfl, (Option.some.inj h).symm⟩

theorem step_cases {zid enclave : P → CString} {s t : State P N E} {l : Label P N E}
    (h : step zid enclave s l = some t) : Step zid enclave s l t := by
  cases l with
  | createNode p env n domainId name ns =>
      simp only [step] at h
      split at h
      · rename_i hnew
        obtain ⟨hfresh, hn⟩ := hnew
        split at h
        · cases h
        · rename_i heap hcall
          cases h
          exact .failNode p env n domainId name ns heap hfresh hcall
        · rename_i heap data hcall
          obtain ⟨node, hnode, rfl⟩ := createdNode_cases h
          exact .createNode p env n domainId name ns heap data node hfresh (Option.isNone_iff_eq_none.mp hn)
            hcall hnode
      · cases h
  | destroyNode p n =>
      simp only [step] at h
      split at h
      · rename_i hn
        obtain ⟨refs, hcall, rfl⟩ := Option.map_eq_some_iff.mp h
        exact .destroyNode p n refs hn hcall
      · cases h
  | create p env e topicName typeSupport qosProfile =>
      simp only [step] at h
      split at h
      · rename_i hnew
        obtain ⟨hn, hfresh, he⟩ := hnew
        split at h
        · cases h
        · rename_i heap hcall
          cases h
          exact .failCreate p env e topicName typeSupport qosProfile heap hn hfresh hcall
        · rename_i heap handle hcall
          obtain ⟨node, hnode, h⟩ := Option.bind_eq_some_iff.mp h
          obtain ⟨data, hdata, rfl⟩ := createdEndpoint_cases h
          exact .create p env e topicName typeSupport qosProfile heap handle node data hn hfresh
            (Option.isNone_iff_eq_none.mp he) hcall hnode hdata
      · cases h
  | destroy p e =>
      simp only [step] at h
      split at h
      · rename_i he
        obtain ⟨refs, hcall, rfl⟩ := Option.map_eq_some_iff.mp h
        exact .destroy p e refs he hcall
      · cases h

@[simp] theorem settle_process (s : State P N E) (p : P) (n : N) :
    (s.settle p n).process = s.process := by
  unfold State.settle
  split <;> rfl

theorem mem_settle {s : State P N E} {p : P} {n : N} {token : (P × Owner N E) × CString} :
    token ∈ (s.settle p n).tokens ↔
      token ∈ s.tokens ∧ (token.1 = (p, .node n) → ((s.process p).refs.heap (.nodeData n)).isLive = true) := by
  unfold State.settle
  split
  · simp [*]
  · simp [*, mem_unregister]

end Steps

section Written

def Process.recorded (q : Process N E) : Owner N E → Option (ZenohPicoEntity × CString)
  | .node n => (q.node n).map fun node => (node.entity, node.livelinessKey)
  | .endpoint e => (q.endpoint e).map fun data => (data.entity, data.livelinessKey)

def State.written (s : State P N E) (k : P × Owner N E) : Option CString :=
  ((s.process k.1).recorded k.2).map Prod.snd

variable [DecidableEq P] [DecidableEq N] [DecidableEq E] {s t : State P N E} {p : P} {n : N}

theorem recorded_addNode (q : Process N E) (n : N) (heap : Lib.RefHeap.Heap (Obj N E)) (node : Node) :
    (q.addNode n heap node).recorded =
      Function.update q.recorded (.node n) (some (node.entity, node.livelinessKey)) := by
  funext o
  cases o with
  | node m =>
      by_cases hmn : m = n
      · subst hmn
        simp [Process.recorded, Process.addNode]
      · simp [Process.recorded, Process.addNode, hmn]
  | endpoint e => simp [Process.recorded, Process.addNode]

theorem recorded_update {q t : Process N E} {e : Endpoint N E} (data : Option EndpointData)
    (hn : t.node = q.node) (he : t.endpoint = Function.update q.endpoint e data) :
    t.recorded =
      Function.update q.recorded (.endpoint e) (data.map fun data => (data.entity, data.livelinessKey)) := by
  funext o
  cases o with
  | node m => simp [Process.recorded, hn]
  | endpoint f =>
      by_cases hfe : f = e
      · subst hfe
        simp [Process.recorded, he]
      · simp [Process.recorded, he, hfe]

theorem recorded_addEndpoint (q : Process N E) (e : Endpoint N E) (heap : Lib.RefHeap.Heap (Obj N E))
    (data : EndpointData) :
    (q.addEndpoint e heap data).recorded =
      Function.update q.recorded (.endpoint e) (some (data.entity, data.livelinessKey)) :=
  recorded_update (t := q.addEndpoint e heap data) (some data) rfl rfl

theorem recorded_removeEndpoint (q : Process N E) (e : Endpoint N E) (refs : NodeRefs.State N E) :
    (q.removeEndpoint e refs).recorded = Function.update q.recorded (.endpoint e) none :=
  recorded_update (t := q.removeEndpoint e refs) none rfl rfl

theorem written_update {q : Process N E} {o : Owner N E} {x : Option (ZenohPicoEntity × CString)}
    {tokens : Entries (P × Owner N E) CString} (hq : q.recorded = Function.update (s.process p).recorded o x) :
    State.written ⟨Function.update s.process p q, tokens⟩ =
      Function.update s.written (p, o) (x.map Prod.snd) := by
  funext ⟨p', o'⟩
  by_cases hpp : p' = p
  · subst hpp
    by_cases hoo : o' = o
    · subst hoo
      simp [State.written, hq]
    · simp [State.written, hq, hoo]
  · simp [State.written, hpp]

omit [DecidableEq N] [DecidableEq E] in
theorem written_keep {q : Process N E} (hn : q.node = (s.process p).node)
    (he : q.endpoint = (s.process p).endpoint) : (s.set p q).written = s.written := by
  funext ⟨p', o⟩
  by_cases hpp : p' = p
  · subst hpp
    cases o with
    | node m => simp [State.written, State.set, Process.recorded, hn]
    | endpoint e => simp [State.written, State.set, Process.recorded, he]
  · simp [State.written, State.set, hpp]

def Lasting (k : P × Owner N E) : Prop := ∃ e, k.2 = .endpoint e

/-- The token of an endpoint is there as long as the endpoint is, that of a
node at most as long as it is remembered. -/
def Declared (s : State P N E) : Prop := Records s.tokens s.written Lasting

omit [DecidableEq N] [DecidableEq E] in
theorem Declared.keep (hs : Declared s) {q : Process N E} (hn : q.node = (s.process p).node)
    (he : q.endpoint = (s.process p).endpoint) : Declared (s.set p q) := by
  rw [Declared, written_keep hn he]
  exact hs

theorem Declared.settle (hs : Declared s) : Declared (s.settle p n) := by
  unfold State.settle
  split
  · exact hs
  · refine Records.forget hs ?_
    rintro ⟨e, he⟩
    cases he

theorem declared_step {zid enclave : P → CString} {l : Label P N E} (hs : Declared s)
    (h : Step zid enclave s l t) : Declared t := by
  cases h with
  | createNode p env n domainId name ns heap data node hfresh hn hcall hnode =>
      rw [Declared, written_update (recorded_addNode (s.process p) n heap node)]
      refine register_records hs ?_ _
      simp [State.written, Process.recorded, hn]
  | failNode p env n domainId name ns heap hfresh hcall => exact hs.keep rfl rfl
  | destroyNode p n refs hn hcall =>
      apply Declared.settle
      exact hs.keep rfl rfl
  | create p env e topicName typeSupport qosProfile heap handle node data hn hfresh he hcall hnode hdata =>
      rw [Declared, written_update (recorded_addEndpoint (s.process p) e heap data)]
      refine register_records hs ?_ _
      simp [State.written, Process.recorded, he]
  | failCreate p env e topicName typeSupport qosProfile heap hn hfresh hcall =>
      apply Declared.settle
      exact hs.keep rfl rfl
  | destroy p e refs he hcall =>
      apply Declared.settle
      rw [Declared, written_update (recorded_removeEndpoint (s.process p) e refs)]
      exact unregister_records hs _

end Written

section Ids

def ReadBack (x : ZenohPicoEntity × CString) : Prop :=
  ∃ nodeInfo, x.1.nodeInfo = some nodeInfo ∧ decodeKey x.2 = some (keyFields x.1 nodeInfo)

structure Numbered (zid : CString) (q : Process N E) : Prop where
  entity : ∀ o x, q.recorded o = some x → x.1.zid = zid ∧ ReadBack x ∧ x.1.id < q.nextEntityId
  apart : ∀ o o' x x', q.recorded o = some x → q.recorded o' = some x' → x.1.id = x'.1.id → o = o'
  node : ∀ n node, q.node n = some node → node.entity.nid = node.data.id ∧
    node.entity.nodeInfo = some node.data.nodeInfo ∧ node.entity.topicInfo = none ∧
    node.data.zid = zid ∧ node.data.id < q.nextNodeId
  endpoint : ∀ e data, q.endpoint e = some data → ∃ node, q.node e.node = some node ∧
    data.entity.nid = node.data.id ∧ data.entity.nodeInfo = some node.data.nodeInfo ∧
    data.entity.topicInfo ≠ none
  nodesApart : ∀ n n' node node', q.node n = some node → q.node n' = some node' →
    node.data.id = node'.data.id → n = n'

/-- The strings and ids that a creation puts into a key can be told from it. -/
def Readable (zid enclave : P → CString) (s : State P N E) : Label P N E → Prop
  | .createNode p _ _ domainId name ns => ∀ node,
      zenohPicoGenerateNodeData (zid p) (enclave p) (s.process p).nextNodeId (s.process p).nextEntityId
        domainId name ns = .ok node → Decodable node.entity node.data.nodeInfo
  | .create p _ e topicName typeSupport qosProfile => ∀ node ∈ (s.process p).node e.node, ∀ data,
      generateData e.kind node.data (s.process p).nextEntityId topicName typeSupport qosProfile = .ok data →
        Decodable data.entity node.data.nodeInfo
  | _ => True

instance (entity : ZenohPicoEntity) (nodeInfo : ZenohPicoNodeInfo) : Decidable (Decodable entity nodeInfo) :=
  decidable_of_iff
    ((∀ s ∈ entityStrings entity nodeInfo, slashReplacement ∉ s.chars ∧ s.chars.length ≤ 127) ∧
      entity.nid < 2 ^ 31 ∧ entity.id < 2 ^ 31 ∧ (wholeKey entity nodeInfo).length ≤ 254)
    ⟨fun ⟨hs, hnid, hid, hkey⟩ => ⟨fun s h => (hs s h).1, fun s h => (hs s h).2, hnid, hid, hkey⟩,
      fun h => ⟨fun s hs => ⟨h.plain s hs, h.short s hs⟩, h.nid, h.id, h.key⟩⟩

instance {α : Type} (x : Except Failure α) (p : α → Prop) [DecidablePred p] :
    Decidable (∀ a, x = .ok a → p a) :=
  match x with
  | .error _ => .isTrue fun _ h => nomatch h
  | .ok a => decidable_of_iff (p a) ⟨fun h _ heq => Except.ok.inj heq ▸ h, fun h => h a rfl⟩

instance (zid enclave : P → CString) (s : State P N E) (l : Label P N E) :
    Decidable (Readable zid enclave s l) :=
  match l with
  | .createNode p _ _ domainId name ns => inferInstanceAs (Decidable (∀ node,
      zenohPicoGenerateNodeData (zid p) (enclave p) (s.process p).nextNodeId (s.process p).nextEntityId
        domainId name ns = .ok node → Decodable node.entity node.data.nodeInfo))
  | .create p _ e topicName typeSupport qosProfile => inferInstanceAs (Decidable
      (∀ node ∈ (s.process p).node e.node, ∀ data,
        generateData e.kind node.data (s.process p).nextEntityId topicName typeSupport qosProfile = .ok data →
          Decodable data.entity node.data.nodeInfo))
  | .destroyNode _ _ | .destroy _ _ => .isTrue trivial

theorem generateNodeData_cases {zid enclave : CString} {nodeId id domainId : Nat} {name ns : CString}
    {node : Node} (h : zenohPicoGenerateNodeData zid enclave nodeId id domainId name ns = .ok node) :
    node.data.zid = zid ∧ node.data.id = nodeId ∧
    node.entity = ⟨zid, id, nodeId, .node, some node.data.nodeInfo, none⟩ ∧
    generateLiveliness true node.entity = .ok node.livelinessKey := by
  obtain ⟨nodeInfo, -, h⟩ := bind_ok h
  obtain ⟨livelinessKey, hkey, h⟩ := bind_ok h
  cases h
  exact ⟨rfl, rfl, rfl, hkey⟩

theorem generateData_cases {kind : Kind} {node : NodeData} {id : Nat} {topicName : CString}
    {typeSupport : TypeSupport} {qosProfile : RmwQosProfile} {data : EndpointData}
    (h : generateData kind node id topicName typeSupport qosProfile = .ok data) :
    ∃ type topicInfo, data.entity = zenohPicoGenerateEntity node id type topicInfo ∧
      generateLiveliness true data.entity = .ok data.livelinessKey := by
  obtain ⟨typeName, hashData, encoding, -, -, hentity, hgen⟩ := AdvertisedQos.generateData_generated h
  exact ⟨_, _, hentity, hgen.key⟩

theorem readBack_of_decodable {entity : ZenohPicoEntity} {nodeInfo : ZenohPicoNodeInfo} {key : CString}
    (hnode : entity.nodeInfo = some nodeInfo) (hd : Decodable entity nodeInfo)
    (hkey : generateLiveliness true entity = .ok key) : ReadBack (entity, key) := by
  obtain ⟨key', hkey', hfields⟩ := generate_decodes hnode hd
  rw [hkey] at hkey'
  cases hkey'
  exact ⟨nodeInfo, hnode, hfields⟩

variable {zid : CString} {q t : Process N E}

theorem Numbered.shrink (hs : Numbered zid q) (hn : t.node = q.node)
    (he : ∀ e data, t.endpoint e = some data → q.endpoint e = some data)
    (hnode : q.nextNodeId ≤ t.nextNodeId) (hid : q.nextEntityId ≤ t.nextEntityId) : Numbered zid t := by
  have hrecorded : ∀ o x, t.recorded o = some x → q.recorded o = some x := by
    intro o x hx
    cases o with
    | node n =>
        rw [Process.recorded, hn] at hx
        exact hx
    | endpoint e =>
        obtain ⟨data, hdata, rfl⟩ := Option.map_eq_some_iff.mp hx
        rw [Process.recorded, he e data hdata]
        rfl
  constructor
  · intro o x hx
    obtain ⟨hzid, hread, hless⟩ := hs.entity o x (hrecorded o x hx)
    exact ⟨hzid, hread, by omega⟩
  · intro o o' x x' hx hx'
    exact hs.apart o o' x x' (hrecorded o x hx) (hrecorded o' x' hx')
  · intro n node hx
    rw [hn] at hx
    obtain ⟨hnid, hinfo, htopic, hzid, hless⟩ := hs.node n node hx
    exact ⟨hnid, hinfo, htopic, hzid, by omega⟩
  · intro e data hx
    rw [hn]
    exact hs.endpoint e data (he e data hx)
  · rw [hn]
    exact hs.nodesApart

variable [DecidableEq N] [DecidableEq E]

theorem recorded_new (hs : Numbered zid q) {o : Owner N E} {x : ZenohPicoEntity × CString}
    (ht : t.recorded = Function.update q.recorded o (some x)) (hzid : x.1.zid = zid) (hread : ReadBack x)
    (hid : x.1.id = q.nextEntityId) (hnext : t.nextEntityId = q.nextEntityId + 1) :
    (∀ o' x', t.recorded o' = some x' → x'.1.zid = zid ∧ ReadBack x' ∧ x'.1.id < t.nextEntityId) ∧
    ∀ o₁ o₂ x₁ x₂, t.recorded o₁ = some x₁ → t.recorded o₂ = some x₂ → x₁.1.id = x₂.1.id → o₁ = o₂ := by
  have hcases : ∀ o' x', t.recorded o' = some x' → o' = o ∧ x' = x ∨ q.recorded o' = some x' := by
    intro o' x' hx'
    rw [ht] at hx'
    exact update_some hx'
  constructor
  · intro o' x' hx'
    rcases hcases o' x' hx' with ⟨-, rfl⟩ | hold
    · exact ⟨hzid, hread, by omega⟩
    · obtain ⟨hzid', hread', hless⟩ := hs.entity o' x' hold
      exact ⟨hzid', hread', by omega⟩
  · intro o₁ o₂ x₁ x₂ h₁ h₂ heq
    rcases hcases o₁ x₁ h₁ with ⟨rfl, rfl⟩ | hold₁
    · rcases hcases o₂ x₂ h₂ with ⟨rfl, rfl⟩ | hold₂
      · rfl
      · have hless := (hs.entity o₂ x₂ hold₂).2.2
        omega
    · rcases hcases o₂ x₂ h₂ with ⟨rfl, rfl⟩ | hold₂
      · have hless := (hs.entity o₁ x₁ hold₁).2.2
        omega
      · exact hs.apart o₁ o₂ x₁ x₂ hold₁ hold₂ heq

theorem numbered_addNode (hs : Numbered zid q) {n : N} {heap : Lib.RefHeap.Heap (Obj N E)} {node : Node}
    (hn : q.node n = none)
    {enclave : CString} {domainId : Nat} {name ns : CString}
    (hnode : zenohPicoGenerateNodeData zid enclave q.nextNodeId q.nextEntityId domainId name ns = .ok node)
    (hd : Decodable node.entity node.data.nodeInfo) : Numbered zid (q.addNode n heap node) := by
  obtain ⟨hzid, hid, hentity, hkey⟩ := generateNodeData_cases hnode
  have hread := readBack_of_decodable (by rw [hentity]) hd hkey
  obtain ⟨hentities, hapart⟩ := recorded_new hs (recorded_addNode q n heap node) (by rw [hentity]) hread
    (by rw [hentity]) rfl
  have hcases : ∀ m node', (q.addNode n heap node).node m = some node' →
      m = n ∧ node' = node ∨ q.node m = some node' := fun m node' hm => update_some hm
  refine ⟨hentities, hapart, ?_, ?_, ?_⟩
  · intro m node' hm
    rcases hcases m node' hm with ⟨-, rfl⟩ | hold
    · refine ⟨by rw [hentity, hid], by rw [hentity], by rw [hentity], hzid, ?_⟩
      rw [hid]
      exact Nat.lt_succ_self _
    · obtain ⟨hnid, hinfo, htopic, hzid', hless⟩ := hs.node m node' hold
      exact ⟨hnid, hinfo, htopic, hzid', Nat.lt_succ_of_lt hless⟩
  · intro e data he
    obtain ⟨node', hm, hrest⟩ := hs.endpoint e data he
    have hmn : e.node ≠ n := by
      intro heq
      rw [heq, hn] at hm
      cases hm
    exact ⟨node', by simpa [Process.addNode, hmn] using hm, hrest⟩
  · intro m m' node₁ node₂ h₁ h₂ heq
    rcases hcases m node₁ h₁ with ⟨rfl, rfl⟩ | hold₁
    · rcases hcases m' node₂ h₂ with ⟨rfl, rfl⟩ | hold₂
      · rfl
      · have hless := (hs.node m' node₂ hold₂).2.2.2.2
        omega
    · rcases hcases m' node₂ h₂ with ⟨rfl, rfl⟩ | hold₂
      · have hless := (hs.node m node₁ hold₁).2.2.2.2
        omega
      · exact hs.nodesApart m m' node₁ node₂ hold₁ hold₂ heq

theorem numbered_addEndpoint (hs : Numbered zid q) {e : Endpoint N E}
    {heap : Lib.RefHeap.Heap (Obj N E)} {node : Node} {data : EndpointData} (hn : q.node e.node = some node)
    {topicName : CString} {typeSupport : TypeSupport} {qosProfile : RmwQosProfile}
    (hdata : generateData e.kind node.data q.nextEntityId topicName typeSupport qosProfile = .ok data)
    (hd : Decodable data.entity node.data.nodeInfo) : Numbered zid (q.addEndpoint e heap data) := by
  obtain ⟨type, topicInfo, hentity, hkey⟩ := generateData_cases hdata
  have hread := readBack_of_decodable (by rw [hentity]; rfl) hd hkey
  obtain ⟨hentities, hapart⟩ := recorded_new hs (recorded_addEndpoint q e heap data)
    (by rw [hentity]; exact (hs.node e.node node hn).2.2.2.1) hread (by rw [hentity]; rfl) rfl
  refine ⟨hentities, hapart, hs.node, ?_, hs.nodesApart⟩
  intro f data' hf
  rcases update_some hf with ⟨rfl, rfl⟩ | hold
  · exact ⟨node, hn, by rw [hentity]; rfl, by rw [hentity]; rfl, by rw [hentity]; simp [zenohPicoGenerateEntity]⟩
  · exact hs.endpoint f data' hold

theorem removeEndpoint_some {e f : Endpoint N E} {refs : NodeRefs.State N E} {data : EndpointData}
    (h : (q.removeEndpoint e refs).endpoint f = some data) : f ≠ e ∧ q.endpoint f = some data :=
  update_none h

structure Held (q : Process N E) : Prop where
  node : ∀ n ∈ q.refs.nodes, (q.node n).isSome = true
  endpoint : ∀ e, e ∈ q.refs.endpoints ↔ (q.endpoint e).isSome = true
  nodup : q.refs.endpoints.Nodup

omit [DecidableEq N] [DecidableEq E] in
theorem Held.congr (hs : Held q) (hnode : t.node = q.node) (hendpoint : t.endpoint = q.endpoint)
    (hn : ∀ n ∈ t.refs.nodes, n ∈ q.refs.nodes) (he : t.refs.endpoints = q.refs.endpoints) : Held t := by
  constructor
  · intro n hmem
    rw [hnode]
    exact hs.node n (hn n hmem)
  · rw [hendpoint, he]
    exact hs.endpoint
  · rw [he]
    exact hs.nodup

omit [DecidableEq E] in
theorem held_addNode (hs : Held q) (n : N) (heap : Lib.RefHeap.Heap (Obj N E)) (node : Node) :
    Held (q.addNode n heap node) := by
  refine ⟨?_, hs.endpoint, hs.nodup⟩
  intro m hm
  by_cases hmn : m = n
  · subst hmn
    simp [Process.addNode]
  · have hold : m ∈ q.refs.nodes := by simpa [Process.addNode, hmn] using hm
    simpa [Process.addNode, hmn] using hs.node m hold

theorem held_addEndpoint (hs : Held q) {e : Endpoint N E} (he : q.endpoint e = none)
    (heap : Lib.RefHeap.Heap (Obj N E)) (data : EndpointData) : Held (q.addEndpoint e heap data) := by
  have hnew : e ∉ q.refs.endpoints := by
    rw [hs.endpoint e, he]
    simp
  refine ⟨hs.node, ?_, List.nodup_cons.mpr ⟨hnew, hs.nodup⟩⟩
  intro f
  by_cases hfe : f = e
  · subst hfe
    simp [Process.addEndpoint]
  · simpa [Process.addEndpoint, hfe] using hs.endpoint f

theorem held_removeEndpoint (hs : Held q) {e : Endpoint N E} {refs : NodeRefs.State N E}
    (hn : refs.nodes = q.refs.nodes) (he : refs.endpoints = q.refs.endpoints.erase e) :
    Held (q.removeEndpoint e refs) := by
  refine ⟨?_, ?_, ?_⟩
  · intro n hmem
    exact hs.node n (by simpa [Process.removeEndpoint, hn] using hmem)
  · intro f
    change f ∈ refs.endpoints ↔ _
    rw [he, hs.nodup.mem_erase_iff]
    by_cases hfe : f = e
    · subst hfe
      simp [Process.removeEndpoint]
    · simpa [Process.removeEndpoint, hfe] using hs.endpoint f
  · change refs.endpoints.Nodup
    rw [he]
    exact hs.nodup.erase e

end Ids

section Fields

variable {q : Process N E} {zid : CString}

def Process.fields (q : Process N E) (o : Owner N E) : Option KeyFields :=
  (q.recorded o).bind fun x => x.1.nodeInfo.map (keyFields x.1)

theorem Numbered.fields_of_recorded (hs : Numbered zid q) {o : Owner N E} {x : ZenohPicoEntity × CString}
    (hx : q.recorded o = some x) : ∃ f, q.fields o = some f ∧ decodeKey x.2 = some f ∧ f.zid = zid.chars := by
  obtain ⟨hzid, ⟨nodeInfo, hinfo, hread⟩, -⟩ := hs.entity o x hx
  refine ⟨keyFields x.1 nodeInfo, ?_, hread, ?_⟩
  · simp [Process.fields, hx, hinfo]
  · rw [← hzid]
    rfl

theorem Numbered.fields_node (hs : Numbered zid q) {m : N} {node : Node} (hn : q.node m = some node) :
    q.fields (.node m) = some (keyFields node.entity node.data.nodeInfo) ∧
    (keyFields node.entity node.data.nodeInfo).topic = none := by
  obtain ⟨-, hinfo, htopic, -, -⟩ := hs.node m node hn
  exact ⟨by simp [Process.fields, Process.recorded, hn, hinfo], by simp [keyFields, htopic]⟩

theorem Numbered.fields_endpoint (hs : Numbered zid q) {e : Endpoint N E} {data : EndpointData}
    (he : q.endpoint e = some data) : ∃ node, q.node e.node = some node ∧
      q.fields (.endpoint e) = some (keyFields data.entity node.data.nodeInfo) ∧
      (keyFields data.entity node.data.nodeInfo).topic ≠ none ∧ data.entity.nid = node.data.id := by
  obtain ⟨node, hnode, hnid, hinfo, htopic⟩ := hs.endpoint e data he
  refine ⟨node, hnode, ?_, ?_, hnid⟩
  · simp [Process.fields, Process.recorded, he, hinfo]
  · simpa [keyFields] using htopic

theorem Numbered.node_of_fields (hs : Numbered zid q) {o : Owner N E} {f : KeyFields}
    (hf : q.fields o = some f) (htopic : f.topic = none) : ∃ m node, o = .node m ∧ q.node m = some node ∧
      f = keyFields node.entity node.data.nodeInfo := by
  cases o with
  | node m =>
      obtain ⟨x, hx, -⟩ := Option.bind_eq_some_iff.mp hf
      obtain ⟨node, hnode, -⟩ := Option.map_eq_some_iff.mp hx
      exact ⟨m, node, rfl, hnode, Option.some.inj (hf.symm.trans (hs.fields_node hnode).1)⟩
  | endpoint e =>
      obtain ⟨x, hx, -⟩ := Option.bind_eq_some_iff.mp hf
      obtain ⟨data, hdata, -⟩ := Option.map_eq_some_iff.mp hx
      obtain ⟨node, -, hfields, hsome, -⟩ := hs.fields_endpoint hdata
      obtain rfl := Option.some.inj (hf.symm.trans hfields)
      exact absurd htopic hsome

theorem Numbered.endpoint_of_fields (hs : Numbered zid q) {o : Owner N E} {f : KeyFields}
    (hf : q.fields o = some f) (htopic : f.topic ≠ none) : ∃ e data node, o = .endpoint e ∧
      q.endpoint e = some data ∧ q.node e.node = some node ∧ f = keyFields data.entity node.data.nodeInfo ∧
      data.entity.nid = node.data.id := by
  cases o with
  | node m =>
      obtain ⟨x, hx, -⟩ := Option.bind_eq_some_iff.mp hf
      obtain ⟨node, hnode, -⟩ := Option.map_eq_some_iff.mp hx
      obtain ⟨hfields, hnone⟩ := hs.fields_node hnode
      obtain rfl := Option.some.inj (hf.symm.trans hfields)
      exact absurd hnone htopic
  | endpoint e =>
      obtain ⟨x, hx, -⟩ := Option.bind_eq_some_iff.mp hf
      obtain ⟨data, hdata, -⟩ := Option.map_eq_some_iff.mp hx
      obtain ⟨node, hnode, hfields, -, hnid⟩ := hs.fields_endpoint hdata
      exact ⟨e, data, node, rfl, hdata, hnode, Option.some.inj (hf.symm.trans hfields), hnid⟩

end Fields

end RmwZenohPico.LivelinessTokens
