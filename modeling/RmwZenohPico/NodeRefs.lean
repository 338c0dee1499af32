import RmwZenohPico.Lib.LabelledMachine
import RmwZenohPico.FailedCreation
import Mathlib.Data.List.Nodup

namespace RmwZenohPico.NodeRefs

open Lib.LabelledMachine Lib.RefHeap ZenohPicoData Creation FailedCreation

variable {N E : Type} [DecidableEq N] [DecidableEq E]

structure Endpoint (N E : Type) where
  id : E
  kind : Kind
  node : N
  deriving DecidableEq

inductive Op (N E : Type)
  | createNode (env : NodeEnv) (n : N)
  | destroyNode (n : N)
  | create (env : CreateEnv) (p : Endpoint N E)
  | destroy (p : Endpoint N E)

structure State (N E : Type) where
  heap : Heap (Obj N E)
  nodes : List N
  endpoints : List (Endpoint N E)
  created : List N

def initial : State N E := ⟨fun _ => .absent, [], [], []⟩

/-- A call that touches a freed object has no outcome, nor has a creation
that fails. -/
def machine : Machine (State N E) (Op N E)
  | s, .createNode env n => do
      let r ← rmwCreateNode env s.heap n
      let _ ← r.2
      some { s with heap := r.1, nodes := n :: s.nodes, created := n :: s.created }
  | s, .destroyNode n => do
      let h ← zenohPicoDestroyNodeData s.heap (nodeDataOf n)
      some { s with heap := h, nodes := s.nodes.erase n }
  | s, .create env p => do
      let r ← rmwCreate p.kind env s.heap (nodeDataOf p.node) p.id
      let _ ← r.2
      some { s with heap := r.1, endpoints := p :: s.endpoints }
  | s, .destroy p => do
      let h ← destroyData p.kind s.heap (endpointDataOf p.node p.id)
      some { s with heap := h, endpoints := s.endpoints.erase p }

/-- What a caller keeps to: creations succeed and are made through a handle
that was not destroyed, and every object is destroyed at most once. -/
def Allowed (s : State N E) : Op N E → Prop
  | .createNode env n => NodeFresh s.heap n ∧ (machine s (.createNode env n)).isSome
  | .destroyNode n => n ∈ s.nodes
  | .create env p => p.node ∈ s.nodes ∧ EndpointFresh s.heap p.id ∧ (machine s (.create env p)).isSome
  | .destroy p => p ∈ s.endpoints

def attached (s : State N E) (n : N) : Nat := s.endpoints.countP fun p => p.node = n

def users (s : State N E) (n : N) : Nat := (if n ∈ s.nodes then 1 else 0) + attached s n

def Counted (s : State N E) : Prop :=
  ∀ n ∈ s.created, s.heap (.nodeData n) = if users s n = 0 then .freed else .live (users s n)

def Sound : State N E → List (Op N E) → Prop
  | s, [] => Counted s
  | s, op :: ops => Counted s ∧ ∃ t, machine s op = some t ∧ Sound t ops

def createsService : Op N E → Bool
  | .create _ p => p.kind == .service || p.kind == .client
  | _ => false

structure EndpointAlive (h : Heap (Obj N E)) (e : E) : Prop where
  topicInfo : h (.topicInfo e) = .live 1
  entity : h (.entity e) = .live 1
  data : h (.data e) = .live 1

structure Accurate (s : State N E) : Prop where
  alive : ∀ n ∈ s.created, ∀ k, users s n = k + 1 → NodeAlive s.heap n k (attached s n)
  gone : ∀ n ∈ s.created, users s n = 0 → s.heap (.nodeData n) = .freed
  fresh : ∀ n, n ∉ s.created → users s n = 0
  endpoint : ∀ p ∈ s.endpoints, EndpointAlive s.heap p.id
  distinct : (s.endpoints.map Endpoint.id).Nodup
  nodup : s.nodes.Nodup

omit [DecidableEq E] in
theorem Accurate.counted {s : State N E} (hs : Accurate s) : Counted s := by
  intro n hn
  by_cases hu : users s n = 0
  · rw [if_pos hu]
    exact hs.gone n hn hu
  · obtain ⟨k, hk⟩ := Nat.exists_eq_succ_of_ne_zero hu
    rw [if_neg hu, (hs.alive n hn k hk).nodeData, hk]
    simp

omit [DecidableEq E] in
theorem Accurate.isLive_iff {s : State N E} (hs : Accurate s) {n : N} (hn : n ∈ s.created) :
    (s.heap (.nodeData n)).isLive = true ↔ users s n ≠ 0 := by
  rw [hs.counted n hn]
  split
  · simp [Cell.isLive, *]
  · simp [Cell.isLive, *]

omit [DecidableEq E] in
theorem initial_accurate : Accurate (initial : State N E) := by
  constructor
  · intro n hn
    cases hn
  · intro n hn
    cases hn
  · intro n _
    rfl
  · intro p hp
    cases hp
  · exact List.nodup_nil
  · exact List.nodup_nil

section Created

variable {h h' : Heap (Obj N E)} {n : N} {e : E} {k i : Nat}

omit [DecidableEq N] [DecidableEq E] in
theorem finishTopic_created {env : CreateEnv} {d data : EndpointData N E}
    {destroy : Heap (Obj N E) → EndpointData N E → Option (Heap (Obj N E))}
    (hc : finishTopic env destroy h d = some (h', some data)) : h' = h := by
  unfold finishTopic at hc
  split at hc
  · obtain ⟨g, -, hg⟩ := Option.bind_eq_some_iff.mp hc
    cases hg
  · split at hc
    · cases hc
    · split at hc
      · obtain ⟨g, -, hg⟩ := Option.bind_eq_some_iff.mp hc
        cases hg
      · cases hc
        rfl

theorem finishService_created {env : CreateEnv} {d data : EndpointData N E}
    (hc : finishService env h d = some (h', some data)) : h' = h := by
  unfold finishService at hc
  split at hc
  · obtain ⟨g, -, hg⟩ := Option.bind_eq_some_iff.mp hc
    cases hg
  · cases hc
    rfl

/-- A publisher or subscription takes a reference of the node's data and one
of its info. -/
theorem createTopic_created {kind : Kind} {env : CreateEnv} {data : EndpointData N E}
    (hkind : kind = .publisher ∨ kind = .subscription) (hn : NodeAlive h n k i)
    (hc : rmwCreate kind env h (nodeDataOf n) e = some (h', some data)) :
    h' = built (Function.update h (.nodeData n) (.live (k + 1 + 1))) n e i := by
  have hclone : refClone h (nodeDataOf n : NodeData N E).self =
      some (Function.update h (.nodeData n) (.live (k + 1 + 1))) := refClone_live hn.nodeData
  rcases hkind with rfl | rfl
  · rw [rmwCreate, rmwCreatePublisher, hclone, Option.bind_eq_bind, Option.bind_some] at hc
    cases hg : generates env with
    | true =>
        rw [generatePublisherData_built hn.cloned hg] at hc
        exact finishTopic_created hc
    | false =>
        rw [orReturnNull_failed fun g r hr => (generatePublisherData_failed hn.cloned hg hr).1] at hc
        exact absurd (generatePublisherData_failed hn.cloned hg hc).1 (by simp)
  · rw [rmwCreate, rmwCreateSubscription, hclone, Option.bind_eq_bind, Option.bind_some] at hc
    cases hg : generates env with
    | true =>
        rw [generateSubscriptionData_built hn.cloned hg] at hc
        exact finishTopic_created hc
    | false =>
        rw [orReturnNull_failed fun g r hr => (generateSubscriptionData_failed hn.cloned hg hr).1] at hc
        exact absurd (generateSubscriptionData_failed hn.cloned hg hc).1 (by simp)

theorem createService_generates {kind : Kind} {env : CreateEnv} {data : EndpointData N E}
    (hkind : kind = .service ∨ kind = .client)
    (hc : rmwCreate kind env h (nodeDataOf n) e = some (h', some data)) : generates env = true := by
  have hc' : createServiceEndpoint env h (nodeDataOf n) e = some (h', some data) := by
    rcases hkind with rfl | rfl
    · exact hc
    · exact hc
  by_contra hg
  rw [Bool.not_eq_true] at hg
  rw [createServiceEndpoint, orReturnNull_failed fun g r hr => generateServiceData_null hg hr] at hc'
  exact absurd (generateServiceData_null hg hc') (by simp)

theorem createService_created {kind : Kind} {env : CreateEnv} {data : EndpointData N E}
    (hkind : kind = .service ∨ kind = .client) (hn : NodeAlive h n k i)
    (hc : rmwCreate kind env h (nodeDataOf n) e = some (h', some data)) : h' = built h n e i := by
  have hg := createService_generates hkind hc
  have hc' : createServiceEndpoint env h (nodeDataOf n) e = some (h', some data) := by
    rcases hkind with rfl | rfl
    · exact hc
    · exact hc
  rw [createServiceEndpoint] at hc'
  by_cases htype : (env.typeConversion || !env.stale) = true
  · rw [generateServiceData_built hn hg htype] at hc'
    exact finishService_created hc'
  · have hstale : env.typeConversion = false ∧ env.stale = true := by simpa using htype
    simp [orReturnNull, zenohPicoGenerateServiceData, readNodeInfo_alive hn,
      zenohPicoGenerateServiceEntity, hstale] at hc'

theorem nodeErrorLabel_returns_null {env : NodeEnv} {nodeInfo : Local (Obj N E)}
    {entity : Local (Entity N E)} {nodeData : Local (Obj N E)} {r : Option (NodeData N E)}
    (hc : nodeErrorLabel env h nodeInfo entity nodeData = some (h', r)) : r = none := by
  obtain ⟨g₁, -, hc⟩ := Option.bind_eq_some_iff.mp hc
  obtain ⟨g₂, -, hc⟩ := Option.bind_eq_some_iff.mp hc
  obtain ⟨g₃, -, hc⟩ := Option.bind_eq_some_iff.mp hc
  cases hc
  rfl

theorem generateNodeData_created {env : NodeEnv} {data : NodeData N E}
    (hc : zenohPicoGenerateNodeData env h n = some (h', some data)) :
    h' = generate (generate (generate h (.nodeInfo n)) (.nodeEntity n)) (.nodeData n) := by
  unfold zenohPicoGenerateNodeData at hc
  split at hc
  · cases nodeErrorLabel_returns_null hc
  · cases hen : env.entity with
    | false =>
        simp only [zenohPicoGenerateEntity, hen] at hc
        cases nodeErrorLabel_returns_null hc
    | true =>
        simp only [zenohPicoGenerateEntity, hen, if_true] at hc
        split at hc
        · cases nodeErrorLabel_returns_null hc
        · split at hc
          · cases nodeErrorLabel_returns_null hc
          · cases hc
            rfl

theorem createNode_created {env : NodeEnv} {data : NodeData N E}
    (hc : rmwCreateNode env h n = some (h', some data)) :
    h' = generate (generate (generate h (.nodeInfo n)) (.nodeEntity n)) (.nodeData n) := by
  obtain ⟨⟨g, r⟩, hg, hc⟩ := Option.bind_eq_some_iff.mp hc
  cases r with
  | none => cases hc
  | some nodeData =>
      simp only at hc
      split at hc
      · cases hc
      · split at hc
        · obtain ⟨g', -, hc⟩ := Option.bind_eq_some_iff.mp hc
          cases hc
        · cases hc
          exact generateNodeData_created hg

omit [DecidableEq N] [DecidableEq E] in
theorem finishTopic_failed {env : CreateEnv} {d : EndpointData N E}
    {destroy : Heap (Obj N E) → EndpointData N E → Option (Heap (Obj N E))}
    (hc : finishTopic env destroy h d = some (h', none)) : destroy h d = some h' := by
  have herror : rmwError destroy h d = some (h', none) → destroy h d = some h' := by
    intro herror
    obtain ⟨g, hg, he⟩ := Option.bind_eq_some_iff.mp herror
    cases he
    exact hg
  unfold finishTopic at hc
  split at hc
  · exact herror hc
  · split at hc
    · cases hc
    · split at hc
      · exact herror hc
      · cases hc

theorem destroyed_again (hn : NodeAlive h n k i)
    (hd : destroyEndpointData (built (Function.update h (.nodeData n) (.live (k + 1 + 1))) n e i)
      (endpointDataOf n e) = some h') {o : Obj N E} (htopic : o ≠ .topicInfo e) (hentity : o ≠ .entity e)
    (hdata : o ≠ .data e) : h' o = h o := by
  have hdestroyed := destroyEndpointData_shared (k := k + 1 + 1) (i := i + 1 + 1)
    (h := built (Function.update h (.nodeData n) (.live (k + 1 + 1))) n e i) (n := n) (e := e)
    (by simp [built]) (by simp [built]) (by simp [built]) (by simp [built]) (by omega) (by simp [built])
  rw [hdestroyed, Option.some.injEq] at hd
  subst hd
  by_cases hnode : o = .nodeData n
  · subst hnode
    simp [endpointFreed, hn.nodeData]
  · by_cases hinfo : o = .nodeInfo n
    · subst hinfo
      have hrest : dropped ((i : Int) + 1 + 1) = .live (i + 1) := by
        rw [dropped_shared (by omega)]
        simp
      simp [endpointFreed, hrest, hn.nodeInfo]
    · simp [endpointFreed, built, hnode, hinfo, htopic, hentity, hdata]

theorem createTopic_failed {kind : Kind} {env : CreateEnv} (hkind : kind = .publisher ∨ kind = .subscription)
    (hn : NodeAlive h n k i) (hg : generates env = true)
    (hc : rmwCreate kind env h (nodeDataOf n) e = some (h', none)) :
    destroyEndpointData (built (Function.update h (.nodeData n) (.live (k + 1 + 1))) n e i)
      (endpointDataOf n e) = some h' := by
  have hclone : refClone h (nodeDataOf n : NodeData N E).self =
      some (Function.update h (.nodeData n) (.live (k + 1 + 1))) := refClone_live hn.nodeData
  rcases hkind with rfl | rfl
  · rw [rmwCreate, rmwCreatePublisher, hclone, Option.bind_eq_bind, Option.bind_some,
      generatePublisherData_built hn.cloned hg] at hc
    exact finishTopic_failed hc
  · rw [rmwCreate, rmwCreateSubscription, hclone, Option.bind_eq_bind, Option.bind_some,
      generateSubscriptionData_built hn.cloned hg] at hc
    exact finishTopic_failed hc

theorem createService_failed {kind : Kind} {env : CreateEnv} (hkind : kind = .service ∨ kind = .client)
    (hn : NodeAlive h n k i) (htopic : env.topicInfo = false) (hentity : env.entity = false)
    (hc : rmwCreate kind env h (nodeDataOf n) e = some (h', none)) : h' = h := by
  have hc' : createServiceEndpoint env h (nodeDataOf n) e = some (h', none) := by
    rcases hkind with rfl | rfl
    · exact hc
    · exact hc
  have hg : generates env = false := by simp [generates, htopic]
  rw [createServiceEndpoint, orReturnNull_failed fun g r hr => generateServiceData_null hg hr] at hc'
  simp only [zenohPicoGenerateServiceData, readNodeInfo_alive hn, refClone_live hn.nodeInfo,
    Option.bind_eq_bind, Option.bind_some, zenohPicoGenerateServiceEntity, zenohPicoGenerateTopicInfo,
    zenohPicoGenerateEntity, htopic, hentity] at hc'
  split at hc'
  · cases hc'
  · have hlabel : errorLabel env (Function.update h (.nodeInfo n) (.live (i + 1 + 1))) (.nodeInfo n) .null .null =
        some (Function.update (Function.update h (.nodeInfo n) (.live (i + 1 + 1))) (.nodeInfo n)
          (.live (i + 1)), none) := errorLabel_null (by simp)
    simp only [Option.bind_some, Bool.false_eq_true, if_false, hlabel] at hc'
    cases hc'
    funext o
    by_cases ho : o = .nodeInfo n
    · subst ho
      simp [hn.nodeInfo]
    · simp [ho]

def clonesNode : Kind → Bool
  | .publisher | .subscription => true
  | .service | .client => false

/-- The endpoints that are counted, and the failures that restore the counts. -/
def keepsCounts (kind : Kind) (env : CreateEnv) : Bool :=
  restores kind env && (clonesNode kind || !generates env)

theorem clonesNode_of_keepsCounts {kind : Kind} {env : CreateEnv} {data : EndpointData N E}
    (hkeeps : keepsCounts kind env = true)
    (hc : rmwCreate kind env h (nodeDataOf n) e = some (h', some data)) :
    kind = .publisher ∨ kind = .subscription := by
  cases kind with
  | publisher => exact Or.inl rfl
  | subscription => exact Or.inr rfl
  | service | client =>
      have hg := createService_generates (by simp) hc
      simp [keepsCounts, clonesNode, hg] at hkeeps

theorem create_failed {kind : Kind} {env : CreateEnv} (hn : NodeAlive h n k i)
    (hkeeps : keepsCounts kind env = true) (hc : rmwCreate kind env h (nodeDataOf n) e = some (h', none))
    {o : Obj N E} (htopic : o ≠ .topicInfo e) (hentity : o ≠ .entity e) (hdata : o ≠ .data e) : h' o = h o := by
  cases kind with
  | publisher | subscription =>
      have hg : generates env = true := by
        simp only [keepsCounts, restores, Bool.and_eq_true] at hkeeps
        exact hkeeps.1.1
      exact destroyed_again hn (createTopic_failed (by simp) hn hg hc) htopic hentity hdata
  | service | client =>
      have hnone : env.topicInfo = false ∧ env.entity = false := by
        cases hg : generates env with
        | true => simp [keepsCounts, clonesNode, hg] at hkeeps
        | false =>
            simp only [keepsCounts, restores, hg, Bool.and_eq_true, Bool.false_and, Bool.false_or,
              Bool.not_eq_true'] at hkeeps
            exact hkeeps.1.2
      rw [createService_failed (by simp) hn hnone.1 hnone.2 hc]

theorem destroyNodeData_frame {o : Obj N E} (hinfo : o ≠ .nodeInfo n) (hentity : o ≠ .nodeEntity n)
    (hdata : o ≠ .nodeData n) (hd : zenohPicoDestroyNodeData h (nodeDataOf n) = some h') : h' o = h o := by
  apply dropRef_frame hdata _ hd
  intro g g' hg
  exact destroyEntity_frame hentity hinfo (by simp [nodeDataOf, nodeEntityOf]) hg

theorem nodeErrorLabel_frame {env : NodeEnv} {nodeInfo : Local (Obj N E)} {entity : Local (Entity N E)}
    {nodeData : Local (Obj N E)} {r : Option (NodeData N E)} {o : Obj N E}
    (hi : ∀ a, nodeInfo = .pointer a → o ≠ a) (he : ∀ a, entity = .pointer a → a = nodeEntityOf n)
    (hd : ∀ a, nodeData = .pointer a → o ≠ a) (hinfo : o ≠ .nodeInfo n) (hentity : o ≠ .nodeEntity n)
    (hc : nodeErrorLabel env h nodeInfo entity nodeData = some (h', r)) : h' o = h o := by
  obtain ⟨g₁, hg₁, hc⟩ := Option.bind_eq_some_iff.mp hc
  obtain ⟨g₂, hg₂, hc⟩ := Option.bind_eq_some_iff.mp hc
  obtain ⟨g₃, hg₃, hc⟩ := Option.bind_eq_some_iff.mp hc
  cases hc
  have h₁ : g₁ o = h o := by
    apply cleanUp_frame _ hg₁
    intro a f f' ha hf
    apply dropRef_frame (hi a ha) _ hf
    intro f f' hf
    cases hf
    rfl
  have h₂ : g₂ o = g₁ o := by
    apply cleanUp_frame _ hg₂
    intro a f f' ha hf
    rw [he a ha] at hf
    exact destroyEntity_frame hentity hinfo (by simp [nodeEntityOf]) hf
  have h₃ : h' o = g₂ o := by
    apply cleanUp_frame _ hg₃
    intro a f f' ha hf
    exact destroy_frame (hd a ha) hf
  rw [h₃, h₂, h₁]

theorem generateNodeData_frame {env : NodeEnv} {r : Option (NodeData N E)} {o : Obj N E}
    (hinfo : o ≠ .nodeInfo n) (hentity : o ≠ .nodeEntity n) (hdata : o ≠ .nodeData n)
    (hc : zenohPicoGenerateNodeData env h n = some (h', r)) :
    h' o = h o ∧ ∀ nodeData, r = some nodeData → nodeData = nodeDataOf n := by
  unfold zenohPicoGenerateNodeData at hc
  split at hc
  · cases nodeErrorLabel_returns_null hc
    exact ⟨nodeErrorLabel_frame (n := n) (by simp) (by simp) (by simp) hinfo hentity hc, by simp⟩
  · cases hen : env.entity with
    | false =>
        simp only [zenohPicoGenerateEntity, hen] at hc
        cases nodeErrorLabel_returns_null hc
        have hframe := nodeErrorLabel_frame (n := n) (by simpa using hinfo) (by simp) (by simp) hinfo hentity hc
        exact ⟨by simpa [generate, hinfo] using hframe, by simp⟩
    | true =>
        simp only [zenohPicoGenerateEntity, hen, if_true] at hc
        split at hc
        · cases nodeErrorLabel_returns_null hc
          have hframe := nodeErrorLabel_frame (n := n) (by simpa using hinfo) (by simp [nodeEntityOf])
            (by simp) hinfo hentity hc
          exact ⟨by simpa [generate, hinfo, hentity] using hframe, by simp⟩
        · split at hc
          · cases nodeErrorLabel_returns_null hc
            have hframe := nodeErrorLabel_frame (n := n) (by simpa using hinfo) (by simp [nodeEntityOf])
              (by simpa using hdata) hinfo hentity hc
            exact ⟨by simpa [generate, hinfo, hentity, hdata] using hframe, by simp⟩
          · cases hc
            exact ⟨by simp [generate, hinfo, hentity, hdata], by simp [nodeDataOf, nodeEntityOf]⟩

theorem createNode_frame {env : NodeEnv} {o : Obj N E} (hinfo : o ≠ .nodeInfo n)
    (hentity : o ≠ .nodeEntity n) (hdata : o ≠ .nodeData n)
    (hc : rmwCreateNode env h n = some (h', none)) : h' o = h o := by
  obtain ⟨⟨g, r⟩, hg, hc⟩ := Option.bind_eq_some_iff.mp hc
  obtain ⟨hframe, hnode⟩ := generateNodeData_frame hinfo hentity hdata hg
  cases r with
  | none =>
      cases hc
      exact hframe
  | some nodeData =>
      simp only at hc
      split at hc
      · cases hc
      · split at hc
        · obtain ⟨g', hg', hc⟩ := Option.bind_eq_some_iff.mp hc
          cases hc
          rw [hnode nodeData rfl] at hg'
          rw [destroyNodeData_frame hinfo hentity hdata hg', hframe]
        · cases hc

end Created

section Steps

variable {s t : State N E} {n : N} {p : Endpoint N E}

omit [DecidableEq N] [DecidableEq E] in
theorem nodeAlive_congr {h h' : Heap (Obj N E)} {k i : Nat} (hn : NodeAlive h n k i)
    (hd : h' (.nodeData n) = h (.nodeData n)) (he : h' (.nodeEntity n) = h (.nodeEntity n))
    (hi : h' (.nodeInfo n) = h (.nodeInfo n)) : NodeAlive h' n k i :=
  ⟨hd.trans hn.nodeData, he.trans hn.nodeEntity, hi.trans hn.nodeInfo⟩

omit [DecidableEq E] in
theorem Accurate.created_of_users (hs : Accurate s) (hu : users s n ≠ 0) : n ∈ s.created := by
  by_contra hn
  exact hu (hs.fresh n hn)

omit [DecidableEq E] in
theorem users_of_mem (hn : n ∈ s.nodes) : users s n = attached s n + 1 := by
  rw [users, if_pos hn]
  omega

omit [DecidableEq E] in
theorem users_of_endpoint (hp : p ∈ s.endpoints) : ∃ a, attached s p.node = a + 1 := by
  apply Nat.exists_eq_succ_of_ne_zero
  rw [attached, ← Nat.pos_iff_ne_zero, List.countP_pos_iff]
  exact ⟨p, hp, by simp⟩

omit [DecidableEq N] [DecidableEq E] in
theorem creation_cases {α : Type} {x : Option (Heap (Obj N E) × Option α)} {f : Heap (Obj N E) → State N E}
    (ht : (x.bind fun r => r.2.bind fun _ => some (f r.1)) = some t) :
    ∃ h' data, x = some (h', some data) ∧ t = f h' := by
  obtain ⟨⟨h', r⟩, hr, ht⟩ := Option.bind_eq_some_iff.mp ht
  obtain ⟨data, hdata, ht⟩ := Option.bind_eq_some_iff.mp ht
  cases ht
  simp only at hdata
  rw [hdata] at hr
  exact ⟨h', data, hr, rfl⟩

theorem createNode_cases {env : NodeEnv} (ht : machine s (.createNode env n) = some t) :
    ∃ h' data, rmwCreateNode env s.heap n = some (h', some data) ∧
      t = { s with heap := h', nodes := n :: s.nodes, created := n :: s.created } :=
  creation_cases ht

theorem create_cases {env : CreateEnv} (ht : machine s (.create env p) = some t) :
    ∃ h' data, rmwCreate p.kind env s.heap (nodeDataOf p.node) p.id = some (h', some data) ∧
      t = { s with heap := h', endpoints := p :: s.endpoints } :=
  creation_cases ht

theorem destroyNode_cases (ht : machine s (.destroyNode n) = some t) :
    ∃ h', t = { s with heap := h', nodes := s.nodes.erase n } := by
  obtain ⟨h', -, ht⟩ := Option.bind_eq_some_iff.mp ht
  cases ht
  exact ⟨h', rfl⟩

theorem destroy_cases (ht : machine s (.destroy p) = some t) :
    ∃ h', t = { s with heap := h', endpoints := s.endpoints.erase p } := by
  obtain ⟨h', -, ht⟩ := Option.bind_eq_some_iff.mp ht
  cases ht
  exact ⟨h', rfl⟩

structure NodeAccurate (s : State N E) (n : N) : Prop where
  alive : ∀ k, users s n = k + 1 → NodeAlive s.heap n k (attached s n)
  gone : users s n = 0 → s.heap (.nodeData n) = .freed

structure SameNode (s t : State N E) (m : N) : Prop where
  created : m ∈ t.created ↔ m ∈ s.created
  nodes : m ∈ t.nodes ↔ m ∈ s.nodes
  attached : attached t m = attached s m
  data : t.heap (.nodeData m) = s.heap (.nodeData m)
  entity : t.heap (.nodeEntity m) = s.heap (.nodeEntity m)
  info : t.heap (.nodeInfo m) = s.heap (.nodeInfo m)

omit [DecidableEq E] in
theorem SameNode.users {m : N} (h : SameNode s t m) : users t m = users s m := by
  simp only [NodeRefs.users, h.nodes, h.attached]

omit [DecidableEq E] in
/-- Every call is about one node. -/
theorem Accurate.of_node (hs : Accurate s) (hn : n ∈ t.created) (hnode : NodeAccurate t n)
    (hother : ∀ m, m ≠ n → SameNode s t m)
    (hendpoint : ∀ q ∈ t.endpoints, EndpointAlive t.heap q.id)
    (hdistinct : (t.endpoints.map Endpoint.id).Nodup) (hnodup : t.nodes.Nodup) : Accurate t := by
  refine ⟨?_, ?_, ?_, hendpoint, hdistinct, hnodup⟩
  · intro m hm k hk
    by_cases hmn : m = n
    · subst hmn
      exact hnode.alive k hk
    · have hsame := hother m hmn
      rw [hsame.users] at hk
      rw [hsame.attached]
      exact nodeAlive_congr (hs.alive m (hsame.created.mp hm) k hk) hsame.data hsame.entity hsame.info
  · intro m hm hu
    by_cases hmn : m = n
    · subst hmn
      exact hnode.gone hu
    · have hsame := hother m hmn
      rw [hsame.users] at hu
      exact hsame.data.trans (hs.gone m (hsame.created.mp hm) hu)
  · intro m hm
    have hmn : m ≠ n := by
      rintro rfl
      exact hm hn
    have hsame := hother m hmn
    rw [hsame.users]
    exact hs.fresh m fun hms => hm (hsame.created.mpr hms)

omit [DecidableEq N] [DecidableEq E] in
theorem endpointAlive_congr {h h' : Heap (Obj N E)} {e : E} (he : EndpointAlive h e)
    (ht : h' (.topicInfo e) = h (.topicInfo e)) (hn : h' (.entity e) = h (.entity e))
    (hd : h' (.data e) = h (.data e)) : EndpointAlive h' e :=
  ⟨ht.trans he.topicInfo, hn.trans he.entity, hd.trans he.data⟩

omit [DecidableEq E] in
theorem Accurate.notMem_created (hs : Accurate s) (hfresh : NodeFresh s.heap n) : n ∉ s.created := by
  intro hn
  have hcell := hs.counted n hn
  rw [hfresh.nodeData] at hcell
  split at hcell <;> cases hcell

omit [DecidableEq E] in
theorem Accurate.ne_id (hs : Accurate s) {e : E} (hfresh : EndpointFresh s.heap e) {q : Endpoint N E}
    (hq : q ∈ s.endpoints) : q.id ≠ e := by
  rintro rfl
  have hdata := (hs.endpoint q hq).data
  rw [hfresh.data] at hdata
  cases hdata

theorem createNode_accurate (hs : Accurate s) {env : NodeEnv} (hfresh : NodeFresh s.heap n)
    (ht : machine s (.createNode env n) = some t) : Accurate t := by
  have hnew : n ∉ s.created := hs.notMem_created hfresh
  have hnone : n ∉ s.nodes ∧ attached s n = 0 := by
    have hu := hs.fresh n hnew
    by_cases hn : n ∈ s.nodes
    · rw [users_of_mem hn] at hu
      cases hu
    · rw [users, if_neg hn] at hu
      exact ⟨hn, by omega⟩
  obtain ⟨h', data, hr, rfl⟩ := createNode_cases ht
  obtain rfl := createNode_created hr
  apply hs.of_node (n := n)
  · exact List.mem_cons_self
  · have hzero := hnone.2
    simp only [attached] at hzero
    constructor
    · intro k hk
      have hk0 : k = 0 := by
        simp only [users, attached, List.mem_cons, true_or, if_true] at hk
        omega
      subst hk0
      constructor
      · simp [generate]
      · simp [generate]
      · simp only [attached, hzero]
        simp [generate]
    · intro hu
      simp [users] at hu
  · intro m hmn
    constructor
    · simp [hmn]
    · simp [hmn]
    · rfl
    all_goals simp [generate, hmn]
  · intro q hq
    apply endpointAlive_congr (hs.endpoint q hq)
    all_goals simp [generate]
  · exact hs.distinct
  · exact List.nodup_cons.mpr ⟨hnone.1, hs.nodup⟩

theorem create_accurate (hs : Accurate s) {env : CreateEnv}
    (hkind : p.kind = .publisher ∨ p.kind = .subscription) (hn : p.node ∈ s.nodes)
    (hfresh : EndpointFresh s.heap p.id) (ht : machine s (.create env p) = some t) : Accurate t := by
  have hu := users_of_mem hn
  have hmade : p.node ∈ s.created := hs.created_of_users (by omega)
  have halive := hs.alive p.node hmade _ hu
  have hother : ∀ q ∈ s.endpoints, q.id ≠ p.id := fun q hq => hs.ne_id hfresh hq
  obtain ⟨h', data, hr, rfl⟩ := create_cases ht
  obtain rfl := createTopic_created hkind halive hr
  apply hs.of_node (n := p.node)
  · exact hmade
  · constructor
    · intro k hk
      have hk' : k = users s p.node := by
        simp only [users, attached, List.countP_cons, decide_true, if_true] at hk ⊢
        omega
      constructor
      · simp [built, hk', hu]
      · simp [built, halive.nodeEntity]
      · simp [built, attached]
    · intro hum
      simp [users, attached] at hum
  · intro m hmp
    constructor
    · rfl
    · rfl
    · simp [attached, Ne.symm hmp]
    all_goals simp [built, hmp]
  · intro q hq
    rcases List.mem_cons.mp hq with rfl | hq
    · constructor
      all_goals simp [built]
    · have hne := hother q hq
      apply endpointAlive_congr (hs.endpoint q hq)
      all_goals simp [built, hne]
  · rw [List.map_cons, List.nodup_cons]
    refine ⟨?_, hs.distinct⟩
    intro hmem
    obtain ⟨q, hq, heq⟩ := List.mem_map.mp hmem
    exact hother q hq heq
  · exact hs.nodup

theorem destroyNodeData_alive {h : Heap (Obj N E)} {k : Nat} (hn : NodeAlive h n k k) :
    ∃ h', zenohPicoDestroyNodeData h (nodeDataOf n) = some h' ∧
      (k = 0 → h' (.nodeData n) = .freed) ∧
      (∀ j, k = j + 1 → NodeAlive h' n j k) ∧
      ∀ o, o ≠ .nodeData n → o ≠ .nodeEntity n → o ≠ .nodeInfo n → h' o = h o := by
  cases k with
  | zero =>
      refine ⟨_, destroyNodeData_last (by simpa using hn.nodeData) hn.nodeEntity hn.nodeInfo, ?_, ?_, ?_⟩
      · simp
      · intro j hj
        cases hj
      · intro o hd he hi
        simp [hd, he, hi]
  | succ k =>
      refine ⟨_, destroyNodeData_shared hn.nodeData (by omega), ?_, ?_, ?_⟩
      · intro h
        cases h
      · intro j hj
        obtain rfl : k = j := by omega
        constructor
        · simp
        · simpa using hn.nodeEntity
        · simpa using hn.nodeInfo
      · intro o hd he hi
        simp [hd]

theorem destroyNode_accurate (hs : Accurate s) (hn : n ∈ s.nodes) :
    ∃ t, machine s (.destroyNode n) = some t ∧ Accurate t := by
  have hu := users_of_mem hn
  have hmade : n ∈ s.created := hs.created_of_users (by omega)
  have hgone : n ∉ s.nodes.erase n := fun h => (hs.nodup.mem_erase_iff.mp h).1 rfl
  obtain ⟨h', hcall, hlast, hshared, hframe⟩ := destroyNodeData_alive (hs.alive n hmade _ hu)
  have hleft : users ⟨h', s.nodes.erase n, s.endpoints, s.created⟩ n = attached s n := by
    simp [users, hgone, attached]
  refine ⟨⟨h', s.nodes.erase n, s.endpoints, s.created⟩, by simp [machine, hcall], ?_⟩
  apply hs.of_node (n := n)
  · exact hmade
  · constructor
    · intro k hk
      exact hshared k (hleft.symm.trans hk)
    · intro hum
      exact hlast (hleft.symm.trans hum)
  · intro m hmn
    constructor
    · rfl
    · exact List.mem_erase_of_ne hmn
    · rfl
    all_goals exact hframe _ (by simp [hmn]) (by simp [hmn]) (by simp [hmn])
  · intro q hq
    apply endpointAlive_congr (hs.endpoint q hq)
    all_goals exact hframe _ (by simp) (by simp) (by simp)
  · exact hs.distinct
  · exact hs.nodup.erase n

theorem destroyEndpointData_alive {h : Heap (Obj N E)} {e : E} {k a : Nat} (he : EndpointAlive h e)
    (hn : NodeAlive h n k (a + 1)) (hle : a ≤ k) :
    ∃ h', destroyEndpointData h (endpointDataOf n e) = some h' ∧
      (k = 0 → h' (.nodeData n) = .freed) ∧
      (∀ j, k = j + 1 → NodeAlive h' n j a) ∧
      ∀ o, o ≠ .nodeData n → o ≠ .nodeEntity n → o ≠ .nodeInfo n →
        o ≠ .topicInfo e → o ≠ .entity e → o ≠ .data e → h' o = h o := by
  have hinfo : h (.nodeInfo n) = .live (a + 1 + 1) := by simpa using hn.nodeInfo
  cases k with
  | zero =>
      refine ⟨_, destroyEndpointData_last he.data he.entity he.topicInfo
        (by simpa using hn.nodeData) hn.nodeEntity hinfo (by omega), ?_, ?_, ?_⟩
      · simp [endpointFreed]
      · intro j hj
        cases hj
      · intro o hd hne hi ht hen hda
        simp [endpointFreed, hd, hne, hi, ht, hen, hda]
  | succ k =>
      refine ⟨_, destroyEndpointData_shared he.data he.entity he.topicInfo hn.nodeData
        (by omega) hinfo, ?_, ?_, ?_⟩
      · intro h
        cases h
      · intro j hj
        obtain rfl : k = j := by omega
        constructor
        · simp [endpointFreed]
        · simpa [endpointFreed] using hn.nodeEntity
        · rw [dropped_shared (by omega)]
          simp [endpointFreed]
      · intro o hd hne hi ht hen hda
        simp [endpointFreed, hd, hi, ht, hen, hda]

omit [DecidableEq E] in
theorem users_cons_node {m : N} (hmn : m ≠ n) {heap : Heap (Obj N E)} {created : List N} :
    users ⟨heap, n :: s.nodes, s.endpoints, created⟩ m = users s m := by
  simp [users, attached, hmn]

omit [DecidableEq E] in
theorem users_erase_node {m : N} (hmn : m ≠ n) {heap : Heap (Obj N E)} :
    users { s with heap := heap, nodes := s.nodes.erase n } m = users s m := by
  simp [users, attached, List.mem_erase_of_ne hmn]

omit [DecidableEq E] in
theorem users_cons_endpoint {m : N} (hmn : m ≠ p.node) {heap : Heap (Obj N E)} :
    users { s with heap := heap, endpoints := p :: s.endpoints } m = users s m := by
  simp [users, attached, Ne.symm hmn]

theorem users_erase_endpoint {m : N} (hp : p ∈ s.endpoints) (hmn : m ≠ p.node) {heap : Heap (Obj N E)} :
    users { s with heap := heap, endpoints := s.endpoints.erase p } m = users s m := by
  have hcount := (List.perm_cons_erase hp).countP_eq (fun q => decide (q.node = m))
  simp only [users, attached, hcount, List.countP_cons, Ne.symm hmn, decide_false, Bool.false_eq_true,
    if_false, Nat.add_zero]

theorem destroy_accurate (hs : Accurate s) (hp : p ∈ s.endpoints) :
    ∃ t, machine s (.destroy p) = some t ∧ Accurate t := by
  obtain ⟨a, ha⟩ := users_of_endpoint hp
  obtain ⟨k, hk⟩ : ∃ k, users s p.node = k + 1 := Nat.exists_eq_succ_of_ne_zero (by rw [users]; omega)
  have hmade : p.node ∈ s.created := hs.created_of_users (by omega)
  have halive := hs.alive p.node hmade k hk
  rw [ha] at halive
  have hle : a ≤ k := by
    rw [users, ha] at hk
    omega
  obtain ⟨h', hcall, hlast, hshared, hframe⟩ := destroyEndpointData_alive (hs.endpoint p hp) halive hle
  have hdistinct : ∀ q ∈ s.endpoints.erase p, q ∈ s.endpoints ∧ q.id ≠ p.id := by
    intro q hq
    have hnodup : s.endpoints.Nodup := List.Nodup.of_map Endpoint.id hs.distinct
    obtain ⟨hne, hq⟩ := hnodup.mem_erase_iff.mp hq
    exact ⟨hq, fun heq => hne (List.inj_on_of_nodup_map hs.distinct hq hp heq)⟩
  have hcount : ∀ m, attached s m =
      attached ⟨h', s.nodes, s.endpoints.erase p, s.created⟩ m + if p.node = m then 1 else 0 := by
    intro m
    rw [attached, (List.perm_cons_erase hp).countP_eq, List.countP_cons]
    simp only [attached, decide_eq_true_eq]
  have hattached : attached ⟨h', s.nodes, s.endpoints.erase p, s.created⟩ p.node = a := by
    have hcp := hcount p.node
    rw [if_pos rfl] at hcp
    omega
  have hleft : users ⟨h', s.nodes, s.endpoints.erase p, s.created⟩ p.node = k := by
    simp only [users, hattached]
    simp only [users, ha] at hk
    omega
  refine ⟨⟨h', s.nodes, s.endpoints.erase p, s.created⟩, ?_, ?_⟩
  · simp only [machine, destroyData_eq, hcall, Option.bind_eq_bind, Option.bind_some]
  apply hs.of_node (n := p.node)
  · exact hmade
  · constructor
    · intro j hj
      rw [hattached]
      exact hshared j (hleft.symm.trans hj)
    · intro hum
      exact hlast (hleft.symm.trans hum)
  · intro m hmp
    constructor
    · rfl
    · rfl
    · have hcm := hcount m
      rw [if_neg (Ne.symm hmp), Nat.add_zero] at hcm
      exact hcm.symm
    all_goals exact hframe _ (by simp [hmp]) (by simp [hmp]) (by simp [hmp]) (by simp) (by simp) (by simp)
  · intro q hq
    obtain ⟨hq, hne⟩ := hdistinct q hq
    apply endpointAlive_congr (hs.endpoint q hq)
    all_goals exact hframe _ (by simp) (by simp) (by simp) (by simp [hne]) (by simp [hne]) (by simp [hne])
  · exact hs.distinct.sublist (List.erase_sublist.map _)
  · exact hs.nodup

/-- A service or client is one more user that the count does not show. -/
theorem createService_not_counted (hs : Accurate s) {env : CreateEnv}
    (hkind : p.kind = .service ∨ p.kind = .client) (hn : p.node ∈ s.nodes)
    (ht : machine s (.create env p) = some t) : ¬ Counted t := by
  have hu := users_of_mem hn
  have hmade : p.node ∈ s.created := hs.created_of_users (by omega)
  have halive := hs.alive p.node hmade _ hu
  obtain ⟨h', data, hr, rfl⟩ := create_cases ht
  obtain rfl := createService_created hkind halive hr
  intro hcounted
  have hkept : built s.heap p.node p.id (attached s p.node) (.nodeData p.node) =
      .live (attached s p.node + 1) := by simp [built, halive.nodeData]
  have hcell := (hcounted p.node hmade).symm.trans hkept
  split at hcell
  · cases hcell
  · rw [Cell.live.injEq] at hcell
    simp only [users, attached, List.countP_cons, hn, decide_true, if_true] at hcell
    omega

omit [DecidableEq E] in
/-- A call that fails is as good as none where it leaves these objects alone. -/
theorem Accurate.congr_heap (hs : Accurate s) {h' : Heap (Obj N E)}
    (hnode : ∀ m ∈ s.created, h' (.nodeData m) = s.heap (.nodeData m) ∧
      h' (.nodeEntity m) = s.heap (.nodeEntity m) ∧ h' (.nodeInfo m) = s.heap (.nodeInfo m))
    (hendpoint : ∀ q ∈ s.endpoints, EndpointAlive h' q.id) : Accurate { s with heap := h' } := by
  refine ⟨?_, ?_, hs.fresh, hendpoint, hs.distinct, hs.nodup⟩
  · intro m hm k hk
    obtain ⟨hd, he, hi⟩ := hnode m hm
    exact nodeAlive_congr (hs.alive m hm k hk) hd he hi
  · intro m hm hu
    exact (hnode m hm).1.trans (hs.gone m hm hu)

theorem createNode_failed_accurate (hs : Accurate s) {env : NodeEnv} (hfresh : NodeFresh s.heap n)
    {h' : Heap (Obj N E)} (hc : rmwCreateNode env s.heap n = some (h', none)) :
    Accurate { s with heap := h' } := by
  apply hs.congr_heap
  · intro m hm
    have hmn : m ≠ n := by
      rintro rfl
      exact hs.notMem_created hfresh hm
    refine ⟨?_, ?_, ?_⟩
    all_goals exact createNode_frame (by simp [hmn]) (by simp [hmn]) (by simp [hmn]) hc
  · intro q hq
    apply endpointAlive_congr (hs.endpoint q hq)
    all_goals exact createNode_frame (by simp) (by simp) (by simp) hc

theorem create_failed_accurate (hs : Accurate s) {env : CreateEnv} (hn : p.node ∈ s.nodes)
    (hfresh : EndpointFresh s.heap p.id) (hkeeps : keepsCounts p.kind env = true) {h' : Heap (Obj N E)}
    (hc : rmwCreate p.kind env s.heap (nodeDataOf p.node) p.id = some (h', none)) :
    Accurate { s with heap := h' } := by
  have hu := users_of_mem hn
  have halive := hs.alive p.node (hs.created_of_users (by omega)) _ hu
  apply hs.congr_heap
  · intro m _
    refine ⟨?_, ?_, ?_⟩
    all_goals exact create_failed halive hkeeps hc (by simp) (by simp) (by simp)
  · intro q hq
    have hne := hs.ne_id hfresh hq
    apply endpointAlive_congr (hs.endpoint q hq)
    all_goals exact create_failed halive hkeeps hc (by simp [hne]) (by simp [hne]) (by simp [hne])

theorem allowed_accurate (hs : Accurate s) {op : Op N E} (hallowed : Allowed s op)
    (hop : createsService op = false) : ∃ t, machine s op = some t ∧ Accurate t := by
  cases op with
  | createNode env n =>
      obtain ⟨t, ht⟩ := Option.isSome_iff_exists.mp hallowed.2
      exact ⟨t, ht, createNode_accurate hs hallowed.1 ht⟩
  | destroyNode n => exact destroyNode_accurate hs hallowed
  | create env p =>
      obtain ⟨t, ht⟩ := Option.isSome_iff_exists.mp hallowed.2.2
      have hkind : p.kind = .publisher ∨ p.kind = .subscription := by
        cases hk : p.kind <;> simp_all [createsService]
      exact ⟨t, ht, create_accurate hs hkind hallowed.1 hallowed.2.1 ht⟩
  | destroy p => exact destroy_accurate hs hallowed

end Steps

theorem sound_head {s : State N E} {ops : List (Op N E)} (h : Sound s ops) : Counted s := by
  cases ops with
  | nil => exact h
  | cons op ops => exact h.1

theorem sound_iff {s : State N E} (hs : Accurate s) {ops : List (Op N E)}
    (hallowed : Every machine Allowed s ops) :
    Sound s ops ↔ ∀ op ∈ ops, createsService op = false := by
  induction ops generalizing s with
  | nil => simpa [Sound] using hs.counted
  | cons op ops ih =>
      constructor
      · rintro ⟨-, t, ht, hsound⟩
        have hop : createsService op = false := by
          by_contra hservice
          cases op with
          | create env p =>
              have hkind : p.kind = .service ∨ p.kind = .client := by
                cases hk : p.kind <;> simp_all [createsService]
              exact createService_not_counted hs hkind hallowed.1.1 ht (sound_head hsound)
          | createNode | destroyNode | destroy => exact hservice rfl
        obtain ⟨t', ht', haccurate⟩ := allowed_accurate hs hallowed.1 hop
        obtain rfl : t = t' := Option.some.inj (ht.symm.trans ht')
        rw [List.forall_mem_cons]
        exact ⟨hop, (ih haccurate (hallowed.2 t ht)).mp hsound⟩
      · intro hops
        rw [List.forall_mem_cons] at hops
        obtain ⟨t, ht, haccurate⟩ := allowed_accurate hs hallowed.1 hops.1
        exact ⟨hs.counted, t, ht, (ih haccurate (hallowed.2 t ht)).mpr hops.2⟩

/-- In a run without services and clients, and in no other, the count of
every node is the number of its users in every state, and no call touches a
freed object. -/
theorem node_references_counted {ops : List (Op N E)} (hallowed : Every machine Allowed initial ops) :
    Sound initial ops ↔ ∀ op ∈ ops, createsService op = false :=
  sound_iff initial_accurate hallowed

def nodeSucceeds : NodeEnv := ⟨true, true, true, true, true, true, true, false⟩

theorem publisher_counted : Sound (initial : State Nat Nat)
    [.createNode nodeSucceeds 0, .create allSucceed ⟨7, .publisher, 0⟩, .destroyNode 0,
      .destroy ⟨7, .publisher, 0⟩] := by
  refine (node_references_counted ?_).mpr (by decide)
  refine ⟨⟨⟨rfl, rfl, rfl⟩, rfl⟩, ?_⟩
  rintro _ ⟨⟩
  refine ⟨⟨by decide, ⟨rfl, rfl, rfl⟩, rfl⟩, ?_⟩
  rintro _ ⟨⟩
  refine ⟨List.mem_singleton_self 0, ?_⟩
  rintro _ ⟨⟩
  refine ⟨List.mem_singleton_self _, ?_⟩
  rintro _ ⟨⟩
  trivial

/-- Destroying a service frees the data of its node under the node's handle. -/
theorem service_frees_node :
    ((run machine (initial : State Nat Nat) [.createNode nodeSucceeds 0,
      .create allSucceed ⟨7, .service, 0⟩, .destroy ⟨7, .service, 0⟩]).map fun s =>
      (s.nodes, s.heap (.nodeData 0))) = some ([0], .freed) ∧
    ¬ Sound (initial : State Nat Nat) [.createNode nodeSucceeds 0,
      .create allSucceed ⟨7, .service, 0⟩, .destroy ⟨7, .service, 0⟩] := by
  refine ⟨by decide, ?_⟩
  rintro ⟨-, t, ht, -, u, hu, -, v, hv, hcounted⟩
  cases ht
  cases hu
  cases hv
  exact absurd (hcounted 0 (by decide)) (by decide)

end RmwZenohPico.NodeRefs
