import RmwZenohPico.LivelinessTokens

namespace RmwZenohPico.AdvertisedGraph

open Lib.CBuffer Lib.LabelledMachine Lib.Registry RmwTypes TopicKey Liveliness KeyDecoding LivelinessTokens
open Creation (NodeEnv)
open NodeRefs (Endpoint Accurate users)

variable {P N E : Type}

section Graph

variable [DecidableEq P] [DecidableEq N] [DecidableEq E] {zid enclave : P → CString} {s t : State P N E}
  {l : Label P N E} {p : P} {n : N}

structure Kept (zid : P → CString) (s : State P N E) : Prop where
  declared : Declared s
  numbered : ∀ p, Numbered (zid p) (s.process p)
  held : ∀ p, Held (s.process p)

omit [DecidableEq N] [DecidableEq E] in
theorem update_process {I : P → Process N E → Prop} (hs : ∀ p, I p (s.process p)) {q : Process N E}
    (hq : I p q) (p' : P) : I p' (Function.update s.process p q p') := by
  by_cases hpp : p' = p
  · subst hpp
    rwa [Function.update_self]
  · rw [Function.update_of_ne hpp]
    exact hs p'

theorem numbered_step (hs : ∀ p, Numbered (zid p) (s.process p)) (hok : Readable zid enclave s l)
    (h : Step zid enclave s l t) : ∀ p, Numbered (zid p) (t.process p) := by
  cases h with
  | createNode p env n domainId name ns heap data node hfresh hn hcall hnode =>
      exact update_process hs (numbered_addNode (hs p) hn hnode (hok node hnode))
  | failNode p env n domainId name ns heap hfresh hcall =>
      refine update_process hs ?_
      exact (hs p).shrink rfl (fun _ _ he => he) (Nat.le_add_right _ _) (Nat.le_add_right _ _)
  | destroyNode p n refs hn hcall =>
      rw [settle_process]
      refine update_process hs ?_
      exact (hs p).shrink rfl (fun _ _ he => he) le_rfl le_rfl
  | create p env e topicName typeSupport qosProfile heap handle node data hn hfresh he hcall hnode hdata =>
      exact update_process hs (numbered_addEndpoint (hs p) hnode hdata (hok node hnode data hdata))
  | failCreate p env e topicName typeSupport qosProfile heap hn hfresh hcall =>
      rw [settle_process]
      refine update_process hs ?_
      exact (hs p).shrink rfl (fun _ _ he => he) (Nat.le_add_right _ _) (Nat.le_add_right _ _)
  | destroy p e refs he hcall =>
      rw [settle_process]
      refine update_process hs ?_
      exact (hs p).shrink rfl (fun _ _ hf => (removeEndpoint_some hf).2) le_rfl le_rfl

theorem held_step (hs : ∀ p, Held (s.process p)) (h : Step zid enclave s l t) : ∀ p, Held (t.process p) := by
  cases h with
  | createNode p env n domainId name ns heap data node hfresh hn hcall hnode =>
      exact update_process (I := fun _ => Held) hs (held_addNode (hs p) n heap node)
  | failNode p env n domainId name ns heap hfresh hcall =>
      refine update_process (I := fun _ => Held) hs ?_
      exact (hs p).congr rfl rfl (fun _ hm => hm) rfl
  | destroyNode p n refs hn hcall =>
      rw [settle_process]
      obtain ⟨heap, rfl⟩ := NodeRefs.destroyNode_cases hcall
      refine update_process (I := fun _ => Held) hs ?_
      exact (hs p).congr rfl rfl (fun _ hm => List.mem_of_mem_erase hm) rfl
  | create p env e topicName typeSupport qosProfile heap handle node data hn hfresh he hcall hnode hdata =>
      exact update_process (I := fun _ => Held) hs (held_addEndpoint (hs p) he heap data)
  | failCreate p env e topicName typeSupport qosProfile heap hn hfresh hcall =>
      rw [settle_process]
      refine update_process (I := fun _ => Held) hs ?_
      exact (hs p).congr rfl rfl (fun _ hm => hm) rfl
  | destroy p e refs he hcall =>
      rw [settle_process]
      obtain ⟨heap, rfl⟩ := NodeRefs.destroy_cases hcall
      exact update_process (I := fun _ => Held) hs (held_removeEndpoint (hs p) rfl rfl)

theorem kept_step (hs : Kept zid s) (hok : Readable zid enclave s l) (h : step zid enclave s l = some t) :
    Kept zid t :=
  ⟨declared_step hs.declared (step_cases h), numbered_step hs.numbered hok (step_cases h),
    held_step hs.held (step_cases h)⟩

omit [DecidableEq P] [DecidableEq N] [DecidableEq E] in
theorem initial_kept (zid : P → CString) : Kept zid (initial : State P N E) where
  declared := by
    have hnone : (initial : State P N E).written = fun _ => none := by
      funext ⟨p, o⟩
      cases o <;> rfl
    rw [Declared, hnone]
    exact empty_records Lasting
  numbered p := by
    refine ⟨?_, ?_, ?_, ?_, ?_⟩
    · intro o x hx
      cases o <;> cases hx
    · intro o o' x x' hx
      cases o <;> cases hx
    · intro n node hn
      cases hn
    · intro e data he
      cases he
    · intro n n' node node' hn
      cases hn
  held p := by
    refine ⟨fun n hn => absurd hn List.not_mem_nil, ?_, List.nodup_nil⟩
    intro e
    simp [initial, NodeRefs.initial]

def InUse (refs : NodeRefs.State N E) (n : N) : Prop := n ∈ refs.nodes ∨ ∃ e ∈ refs.endpoints, e.node = n

omit [DecidableEq E] in
theorem inUse_iff {refs : NodeRefs.State N E} : InUse refs n ↔ users refs n ≠ 0 := by
  have hattached : (∃ e ∈ refs.endpoints, e.node = n) ↔ NodeRefs.attached refs n ≠ 0 := by
    rw [NodeRefs.attached, ← Nat.pos_iff_ne_zero, List.countP_pos_iff]
    simp
  rw [InUse, hattached, users]
  by_cases hn : n ∈ refs.nodes
  · simp [hn]
  · simp [hn]

structure Counted (s : State P N E) : Prop where
  accurate : ∀ p, Accurate (s.process p).refs
  node : ∀ p n key, s.written (p, .node n) = some key →
    (((p, .node n), key) ∈ s.tokens ↔ users (s.process p).refs n ≠ 0)

omit [DecidableEq E] in
theorem Counted.of_node (hs : Counted s) {q : Process N E} {tokens : Entries (P × Owner N E) CString}
    (hacc : Accurate q.refs) (hnode : ∀ m, m ≠ n → q.node m = (s.process p).node m)
    (husers : ∀ m, m ≠ n → users q.refs m = users (s.process p).refs m)
    (htokens : ∀ p' m key, (p', m) ≠ (p, n) →
      (((p', .node m), key) ∈ tokens ↔ ((p', .node m), key) ∈ s.tokens))
    (hown : ∀ key, (q.recorded (.node n)).map Prod.snd = some key →
      (((p, .node n), key) ∈ tokens ↔ users q.refs n ≠ 0)) :
    Counted ⟨Function.update s.process p q, tokens⟩ := by
  constructor
  · exact update_process (I := fun _ q => Accurate q.refs) hs.accurate hacc
  · intro p' m key hkey
    by_cases hpp : p' = p
    · subst hpp
      simp only [State.written, Function.update_self] at hkey ⊢
      by_cases hmn : m = n
      · subst hmn
        exact hown key hkey
      · rw [husers m hmn, htokens p' m key fun heq => hmn (Prod.mk.inj heq).2]
        apply hs.node
        simpa [State.written, Process.recorded, hnode m hmn] using hkey
    · simp only [State.written, Function.update_of_ne hpp] at hkey ⊢
      rw [htokens p' m key fun heq => hpp (Prod.mk.inj heq).1]
      exact hs.node p' m key hkey

theorem Counted.settle (hs : Counted s) {q : Process N E} {tokens : Entries (P × Owner N E) CString}
    (hacc : Accurate q.refs) (hnode : q.node = (s.process p).node)
    (husers : ∀ m, m ≠ n → users q.refs m = users (s.process p).refs m)
    (htokens : ∀ p' m key, ((p', .node m), key) ∈ tokens ↔ ((p', .node m), key) ∈ s.tokens)
    (hcreated : q.refs.created = (s.process p).refs.created) (hused : users (s.process p).refs n ≠ 0) :
    Counted (State.settle ⟨Function.update s.process p q, tokens⟩ p n) := by
  have hmade : n ∈ q.refs.created := by
    rw [hcreated]
    exact (hs.accurate p).created_of_users hused
  have hsettled : State.settle ⟨Function.update s.process p q, tokens⟩ p n =
      ⟨Function.update s.process p q, (State.settle ⟨Function.update s.process p q, tokens⟩ p n).tokens⟩ := by
    unfold State.settle
    split <;> rfl
  rw [hsettled]
  apply hs.of_node (n := n) hacc
  · intro m hmn
    rw [hnode]
  · exact husers
  · intro p' m key hpm
    rw [mem_settle, htokens]
    refine and_iff_left fun heq => absurd ?_ hpm
    cases heq
    rfl
  · intro key hkey
    have hold : s.written (p, .node n) = some key := by
      simpa [State.written, Process.recorded, hnode] using hkey
    rw [mem_settle, htokens, hs.node p n key hold]
    simp [hacc.isLive_iff hmade, hused]

theorem counted_step (hs : Counted s) (hl : l.countsKept = true) (h : Step zid enclave s l t) : Counted t := by
  cases h with
  | createNode p env n domainId name ns heap data node hfresh hn hcall hnode =>
      have hmachine : NodeRefs.machine (s.process p).refs (.createNode env n) =
          some ((s.process p).addNode n heap node).refs := by
        simp [NodeRefs.machine, hcall, Process.addNode]
      apply hs.of_node (n := n)
      · exact NodeRefs.createNode_accurate (hs.accurate p) hfresh hmachine
      · intro m hmn
        exact Function.update_of_ne hmn _ _
      · intro m hmn
        exact NodeRefs.users_cons_node hmn
      · intro p' m key hpm
        rw [mem_register]
        refine or_iff_left fun heq => hpm ?_
        cases heq
        rfl
      · intro key hkey
        have hkey' : node.livelinessKey = key := by
          simpa [recorded_addNode] using hkey
        simp [mem_register, hkey', Process.addNode, users]
  | failNode p env n domainId name ns heap hfresh hcall =>
      apply hs.of_node (n := n)
      · exact NodeRefs.createNode_failed_accurate (hs.accurate p) hfresh hcall
      · intro m hmn
        rfl
      · intro m hmn
        rfl
      · intro p' m key hpm
        rfl
      · exact hs.node p n
  | destroyNode p n refs hn hcall =>
      have hused := NodeRefs.users_of_mem hn
      obtain ⟨refs', hcall', haccurate⟩ := NodeRefs.destroyNode_accurate (hs.accurate p) hn
      obtain rfl : refs = refs' := Option.some.inj (hcall.symm.trans hcall')
      obtain ⟨heap, rfl⟩ := NodeRefs.destroyNode_cases hcall
      apply hs.settle
      · exact haccurate
      · rfl
      · intro m hmn
        exact NodeRefs.users_erase_node hmn
      · intro p' m key
        rfl
      · rfl
      · omega
  | create p env e topicName typeSupport qosProfile heap handle node data hn hfresh he hcall hnode hdata =>
      have hused := NodeRefs.users_of_mem hn
      have hmachine : NodeRefs.machine (s.process p).refs (.create env e) =
          some ((s.process p).addEndpoint e heap data).refs := by
        simp [NodeRefs.machine, hcall, Process.addEndpoint]
      have haccurate := NodeRefs.create_accurate (hs.accurate p) (NodeRefs.clonesNode_of_keepsCounts hl hcall) hn
        hfresh hmachine
      have hmade : e.node ∈ (s.process p).refs.created := (hs.accurate p).created_of_users (by omega)
      have hlive : (heap (.nodeData e.node)).isLive = true := by
        refine (haccurate.isLive_iff hmade).mpr ?_
        simp [Process.addEndpoint, users, hn]
      have hsettle : State.settle ⟨Function.update s.process p ((s.process p).addEndpoint e heap data),
          register s.tokens (p, .endpoint e) data.livelinessKey⟩ p e.node =
          ⟨Function.update s.process p ((s.process p).addEndpoint e heap data),
            register s.tokens (p, .endpoint e) data.livelinessKey⟩ := by
        rw [State.settle, if_pos]
        simpa [Process.addEndpoint] using hlive
      rw [← hsettle]
      apply hs.settle
      · exact haccurate
      · rfl
      · intro m hmn
        exact NodeRefs.users_cons_endpoint hmn
      · intro p' m key
        simp [mem_register]
      · rfl
      · omega
  | failCreate p env e topicName typeSupport qosProfile heap hn hfresh hcall =>
      have hused := NodeRefs.users_of_mem hn
      apply hs.settle
      · exact NodeRefs.create_failed_accurate (hs.accurate p) hn hfresh hl hcall
      · rfl
      · intro m hmn
        rfl
      · intro p' m key
        rfl
      · rfl
      · omega
  | destroy p e refs he hcall =>
      obtain ⟨a, hused⟩ := NodeRefs.users_of_endpoint he
      obtain ⟨refs', hcall', haccurate⟩ := NodeRefs.destroy_accurate (hs.accurate p) he
      obtain rfl : refs = refs' := Option.some.inj (hcall.symm.trans hcall')
      obtain ⟨heap, rfl⟩ := NodeRefs.destroy_cases hcall
      apply hs.settle
      · exact haccurate
      · rfl
      · intro m hmn
        exact NodeRefs.users_erase_endpoint he hmn
      · intro p' m key
        simp [mem_unregister]
      · rfl
      · rw [users]
        omega

omit [DecidableEq P] [DecidableEq E] in
theorem initial_counted : Counted (initial : State P N E) := by
  constructor
  · intro p
    exact NodeRefs.initial_accurate
  · intro p n key hkey
    cases hkey

def advertised (s : State P N E) : List KeyFields := s.tokens.filterMap fun token => decodeKey token.2

/-- Every endpoint is seen from its creation until it is destroyed, once and
as what it is. -/
structure EndpointsAdvertised (s : State P N E) : Prop where
  readable : ∀ token ∈ s.tokens, (decodeKey token.2).isSome = true
  distinct : (advertised s).Nodup
  endpoints : ∀ f, f.topic ≠ none → (f ∈ advertised s ↔
    ∃ p, ∃ e ∈ (s.process p).refs.endpoints, (s.process p).fields (.endpoint e) = some f)
  described : ∀ p, ∀ e ∈ (s.process p).refs.endpoints, ∃ f, f.topic ≠ none ∧
    (s.process p).fields (.endpoint e) = some f
  nodes : ∀ f ∈ advertised s, f.topic = none → ∃ p n, (s.process p).fields (.node n) = some f

/-- The nodes that are seen are those in use, and an endpoint is seen together
with its node. -/
structure NodesAdvertised (s : State P N E) : Prop where
  nodes : ∀ f, f.topic = none → (f ∈ advertised s ↔
    ∃ p n, InUse (s.process p).refs n ∧ (s.process p).fields (.node n) = some f)
  described : ∀ p n, InUse (s.process p).refs n → ∃ f, f.topic = none ∧
    (s.process p).fields (.node n) = some f
  attributed : ∀ f ∈ advertised s, f.topic ≠ none → ∃ g ∈ advertised s, g.topic = none ∧ g.zid = f.zid ∧
    g.nid = f.nid ∧ g.domain = f.domain ∧ g.enclave = f.enclave ∧ g.ns = f.ns ∧ g.name = f.name ∧
    ∀ g' ∈ advertised s, g'.topic = none → g'.zid = f.zid → g'.nid = f.nid → g' = g

omit [DecidableEq P] [DecidableEq N] [DecidableEq E] in
theorem Kept.token (hs : Kept zid s) {o : Owner N E} {key : CString} (h : ((p, o), key) ∈ s.tokens) :
    ∃ f, (s.process p).fields o = some f ∧ decodeKey key = some f ∧ f.zid = (zid p).chars := by
  obtain ⟨x, hx, rfl⟩ := Option.map_eq_some_iff.mp (hs.declared.value _ _ h)
  exact (hs.numbered p).fields_of_recorded hx

omit [DecidableEq P] [DecidableEq N] [DecidableEq E] in
theorem Kept.mem_advertised (hs : Kept zid s) {f : KeyFields} :
    f ∈ advertised s ↔ ∃ p o key, ((p, o), key) ∈ s.tokens ∧ (s.process p).fields o = some f := by
  constructor
  · intro hf
    obtain ⟨⟨⟨p, o⟩, key⟩, hmem, hread⟩ := List.mem_filterMap.mp hf
    obtain ⟨f', hfields, hread', -⟩ := hs.token hmem
    obtain rfl := Option.some.inj (hread.symm.trans hread')
    exact ⟨p, o, key, hmem, hfields⟩
  · rintro ⟨p, o, key, hmem, hfields⟩
    obtain ⟨f', hfields', hread, -⟩ := hs.token hmem
    obtain rfl := Option.some.inj (hfields.symm.trans hfields')
    exact List.mem_filterMap.mpr ⟨_, hmem, hread⟩

omit [DecidableEq P] [DecidableEq N] [DecidableEq E] in
theorem Kept.zid_eq (hs : Kept zid s) {o : Owner N E} {f : KeyFields} (hf : (s.process p).fields o = some f) :
    f.zid = (zid p).chars := by
  obtain ⟨x, hx, -⟩ := Option.bind_eq_some_iff.mp hf
  obtain ⟨f', hf', -, hzid⟩ := (hs.numbered p).fields_of_recorded hx
  obtain rfl := Option.some.inj (hf.symm.trans hf')
  exact hzid

omit [DecidableEq P] [DecidableEq N] [DecidableEq E] in
theorem Kept.owner_unique (hs : Kept zid s) (hzid : Function.Injective zid) {p' : P} {o o' : Owner N E}
    {f : KeyFields} (h : (s.process p).fields o = some f) (h' : (s.process p').fields o' = some f) :
    (p, o) = (p', o') := by
  obtain rfl : p = p' := hzid (CString.ext_chars ((hs.zid_eq h).symm.trans (hs.zid_eq h')))
  obtain ⟨x, hx, hf⟩ := Option.bind_eq_some_iff.mp h
  obtain ⟨x', hx', hf'⟩ := Option.bind_eq_some_iff.mp h'
  obtain ⟨nodeInfo, hinfo, rfl⟩ := Option.map_eq_some_iff.mp hf
  obtain ⟨nodeInfo', hinfo', hfields⟩ := Option.map_eq_some_iff.mp hf'
  have hentity : x.1.id = x'.1.id := by rw [keyFields_inj hinfo' hinfo hfields]
  rw [(hs.numbered p).apart o o' x x' hx hx' hentity]

omit [DecidableEq P] [DecidableEq N] [DecidableEq E] in
theorem Kept.endpointsAdvertised (hs : Kept zid s) (hzid : Function.Injective zid) : EndpointsAdvertised s where
  readable := by
    rintro ⟨⟨p, o⟩, key⟩ hmem
    obtain ⟨f, -, hread, -⟩ := hs.token hmem
    rw [hread]
    rfl
  distinct := by
    rw [advertised, List.Nodup, List.pairwise_filterMap]
    have hkeys : s.tokens.Pairwise fun a b => a.1 ≠ b.1 := List.pairwise_map.mp hs.declared.nodup
    refine hkeys.imp_of_mem ?_
    rintro ⟨⟨p, o⟩, key⟩ ⟨⟨p', o'⟩, key'⟩ hmem hmem' hne f hf f' hf' rfl
    obtain ⟨g, hfields, hread, -⟩ := hs.token hmem
    obtain ⟨g', hfields', hread', -⟩ := hs.token hmem'
    obtain rfl := Option.some.inj (hf.symm.trans hread)
    obtain rfl := Option.some.inj (hf'.symm.trans hread')
    exact hne (hs.owner_unique hzid hfields hfields')
  endpoints f htopic := by
    rw [hs.mem_advertised]
    constructor
    · rintro ⟨p, o, key, -, hfields⟩
      obtain ⟨e, data, node, rfl, hdata, -⟩ := (hs.numbered p).endpoint_of_fields hfields htopic
      exact ⟨p, e, ((hs.held p).endpoint e).mpr (by rw [hdata]; rfl), hfields⟩
    · rintro ⟨p, e, he, hfields⟩
      obtain ⟨data, hdata⟩ := Option.isSome_iff_exists.mp (((hs.held p).endpoint e).mp he)
      refine ⟨p, .endpoint e, data.livelinessKey, ?_, hfields⟩
      exact hs.declared.entry _ _ ⟨e, rfl⟩ (by simp [State.written, Process.recorded, hdata])
  described p e he := by
    obtain ⟨data, hdata⟩ := Option.isSome_iff_exists.mp (((hs.held p).endpoint e).mp he)
    obtain ⟨node, -, hfields, htopic, -⟩ := (hs.numbered p).fields_endpoint hdata
    exact ⟨_, htopic, hfields⟩
  nodes f hf htopic := by
    obtain ⟨p, o, key, -, hfields⟩ := hs.mem_advertised.mp hf
    obtain ⟨m, node, rfl, -, -⟩ := (hs.numbered p).node_of_fields hfields htopic
    exact ⟨p, m, hfields⟩

omit [DecidableEq P] [DecidableEq N] [DecidableEq E] in
theorem Kept.node_of_inUse (hs : Kept zid s) (hn : InUse (s.process p).refs n) :
    ∃ node, (s.process p).node n = some node := by
  rcases hn with hn | ⟨e, he, rfl⟩
  · exact Option.isSome_iff_exists.mp ((hs.held p).node n hn)
  · obtain ⟨data, hdata⟩ := Option.isSome_iff_exists.mp (((hs.held p).endpoint e).mp he)
    obtain ⟨node, hnode, -⟩ := (hs.numbered p).endpoint e data hdata
    exact ⟨node, hnode⟩

omit [DecidableEq P] [DecidableEq E] in
theorem Counted.mem_advertised (hc : Counted s) (hs : Kept zid s) {f : KeyFields} (htopic : f.topic = none) :
    f ∈ advertised s ↔ ∃ p n, InUse (s.process p).refs n ∧ (s.process p).fields (.node n) = some f := by
  have hwritten : ∀ {p n node}, (s.process p).node n = some node →
      s.written (p, .node n) = some node.livelinessKey := by
    intro p n node hnode
    simp [State.written, Process.recorded, hnode]
  rw [hs.mem_advertised]
  constructor
  · rintro ⟨p, o, key, hmem, hfields⟩
    obtain ⟨m, node, rfl, hnode, -⟩ := (hs.numbered p).node_of_fields hfields htopic
    have hkey := hs.declared.value _ _ hmem
    exact ⟨p, m, inUse_iff.mpr ((hc.node p m key hkey).mp hmem), hfields⟩
  · rintro ⟨p, m, hused, hfields⟩
    obtain ⟨node, hnode⟩ := hs.node_of_inUse hused
    exact ⟨p, .node m, node.livelinessKey,
      (hc.node p m _ (hwritten hnode)).mpr (inUse_iff.mp hused), hfields⟩

omit [DecidableEq P] [DecidableEq E] in
theorem Counted.nodesAdvertised (hc : Counted s) (hs : Kept zid s) (hzid : Function.Injective zid) :
    NodesAdvertised s where
  nodes f htopic := hc.mem_advertised hs htopic
  described p n hn := by
    obtain ⟨node, hnode⟩ := hs.node_of_inUse hn
    obtain ⟨hfields, htopic⟩ := (hs.numbered p).fields_node hnode
    exact ⟨_, htopic, hfields⟩
  attributed f hf htopic := by
    obtain ⟨p, o, key, hmem, hfields⟩ := hs.mem_advertised.mp hf
    obtain ⟨e, data, node, rfl, hdata, hnode, rfl, hnid⟩ := (hs.numbered p).endpoint_of_fields hfields htopic
    have hused : InUse (s.process p).refs e.node :=
      Or.inr ⟨e, ((hs.held p).endpoint e).mpr (by rw [hdata]; rfl), rfl⟩
    obtain ⟨hnodeFields, hnodeTopic⟩ := (hs.numbered p).fields_node hnode
    obtain ⟨hnodeId, -, -, -, -⟩ := (hs.numbered p).node e.node node hnode
    refine ⟨_, (hc.mem_advertised hs hnodeTopic).mpr ⟨p, e.node, hused, hnodeFields⟩, hnodeTopic, ?_, ?_,
      rfl, rfl, rfl, rfl, ?_⟩
    · rw [hs.zid_eq hnodeFields, hs.zid_eq hfields]
    · simp only [keyFields, hnodeId, hnid]
    · intro g hg hgtopic hgzid hgnid
      obtain ⟨p', m, -, hgfields⟩ := (hc.mem_advertised hs hgtopic).mp hg
      obtain rfl : p' = p := by
        apply hzid
        apply CString.ext_chars
        rw [← hs.zid_eq hgfields, hgzid, hs.zid_eq hfields]
      obtain ⟨m', node', heq, hnode', rfl⟩ := (hs.numbered p').node_of_fields hgfields hgtopic
      obtain rfl := Owner.node.inj heq
      have hid : node'.data.id = node.data.id := by
        rw [← ((hs.numbered p').node m node' hnode').1, ← hnid]
        exact hgnid
      obtain rfl := (hs.numbered p').nodesApart m e.node node' node hnode' hnode hid
      obtain rfl := Option.some.inj (hnode.symm.trans hnode')
      rfl

end Graph

section Example

def repeated (c : Char) (h : nul ≠ c) : CString :=
  ⟨List.replicate 32 c, fun hmem => h (List.eq_of_mem_replicate hmem)⟩

def zidOf : Bool → CString
  | false => repeated 'a' (by decide)
  | true => repeated 'b' (by decide)

/-- Two processes have a node each of the same name, one of them at the second
attempt. The other has a publisher, again at the second attempt, and destroys
its node under it. -/
def talkers : List (Label Bool Nat Nat) :=
  [.createNode false NodeRefs.nodeSucceeds 0 0 talkerNode.name talkerNode.ns,
    .createNode true { NodeRefs.nodeSucceeds with declaration := false } 0 0 talkerNode.name talkerNode.ns,
    .createNode true NodeRefs.nodeSucceeds 1 0 talkerNode.name talkerNode.ns,
    .create false { FailedCreation.allSucceed with declaration := false } ⟨0, .publisher, 0⟩
      (EndpointMatching.chatter 0).topicName AdvertisedQos.stringSupport (QosKeyexpr.reliable 10),
    .create false FailedCreation.allSucceed ⟨1, .publisher, 0⟩ (EndpointMatching.chatter 0).topicName
      AdvertisedQos.stringSupport (QosKeyexpr.reliable 10),
    .destroyNode false 0]

end Example

end RmwZenohPico.AdvertisedGraph
