import RmwZenohPico.Lib.RefHeap

namespace RmwZenohPico.ZenohPicoData

open Lib.RefHeap

variable {N E : Type} [DecidableEq N] [DecidableEq E]

inductive Obj (N E : Type)
  | nodeInfo (n : N)
  | nodeEntity (n : N)
  | nodeData (n : N)
  | topicInfo (e : E)
  | entity (e : E)
  | data (e : E)
  deriving DecidableEq

/-- An object with its pointer members, which do not change while it lives. -/
structure Entity (N E : Type) where
  self : Obj N E
  nodeInfo : Obj N E
  topicInfo : Option (Obj N E)

structure NodeData (N E : Type) where
  self : Obj N E
  entity : Entity N E

structure EndpointData (N E : Type) where
  self : Obj N E
  node : NodeData N E
  entity : Entity N E

def zenohPicoDestroyNodeInfo (h : Heap (Obj N E)) (node : Obj N E) : Option (Heap (Obj N E)) :=
  dropRef h node some

def zenohPicoDestroyTopicInfo (h : Heap (Obj N E)) (topic : Obj N E) : Option (Heap (Obj N E)) :=
  dropRef h topic some

def zenohPicoDestroyEntity (h : Heap (Obj N E)) (entity : Entity N E) : Option (Heap (Obj N E)) :=
  dropRef h entity.self fun h => do
    let h ← zenohPicoDestroyNodeInfo h entity.nodeInfo
    match entity.topicInfo with
    | some topicInfo => zenohPicoDestroyTopicInfo h topicInfo
    | none => some h

def zenohPicoDestroyNodeData (h : Heap (Obj N E)) (nodeData : NodeData N E) : Option (Heap (Obj N E)) :=
  dropRef h nodeData.self fun h => zenohPicoDestroyEntity h nodeData.entity

/-- The three destructors of endpoint data release the node and the entity
in this order. -/
def destroyEndpointData (h : Heap (Obj N E)) (data : EndpointData N E) : Option (Heap (Obj N E)) :=
  dropRef h data.self fun h => do
    let h ← zenohPicoDestroyNodeData h data.node
    zenohPicoDestroyEntity h data.entity

def zenohPicoDestroyPublisherData (h : Heap (Obj N E)) (pubData : EndpointData N E) :
    Option (Heap (Obj N E)) :=
  destroyEndpointData h pubData

def zenohPicoDestroySubscriptionData (h : Heap (Obj N E)) (subData : EndpointData N E) :
    Option (Heap (Obj N E)) :=
  destroyEndpointData h subData

def zenohPicoDestroyServiceData (h : Heap (Obj N E)) (data : EndpointData N E) :
    Option (Heap (Obj N E)) :=
  destroyEndpointData h data

def nodeEntityOf (n : N) : Entity N E := ⟨.nodeEntity n, .nodeInfo n, none⟩

def nodeDataOf (n : N) : NodeData N E := ⟨.nodeData n, nodeEntityOf n⟩

def entityOf (n : N) (e : E) : Entity N E := ⟨.entity e, .nodeInfo n, some (.topicInfo e)⟩

def endpointDataOf (n : N) (e : E) : EndpointData N E := ⟨.data e, nodeDataOf n, entityOf n e⟩

theorem destroyEntity_topic {h : Heap (Obj N E)} {n : N} {e : E} {i : Int}
    (he : h (.entity e) = .live 1) (hi : h (.nodeInfo n) = .live i) (ht : h (.topicInfo e) = .live 1) :
    zenohPicoDestroyEntity h (entityOf n e) =
      some (Function.update (Function.update (Function.update h (.nodeInfo n) (dropped i))
        (.topicInfo e) .freed) (.entity e) .freed) := by
  let h₀ := Function.update h (.entity e) (.live 0)
  let h₁ := Function.update h₀ (.nodeInfo n) (dropped i)
  have hinfo : dropRef h₀ (.nodeInfo n) some = some h₁ := by
    apply dropRef_leaf
    simpa [h₀] using hi
  have htopic : dropRef h₁ (.topicInfo e) some =
      some (Function.update h₁ (.topicInfo e) (dropped 1)) := by
    apply dropRef_leaf
    simpa [h₀, h₁] using ht
  have hteardown : (zenohPicoDestroyNodeInfo h₀ (.nodeInfo n)).bind
      (fun h => zenohPicoDestroyTopicInfo h (.topicInfo e)) =
      some (Function.update h₁ (.topicInfo e) .freed) := by
    rw [zenohPicoDestroyNodeInfo, hinfo, Option.bind_some]
    exact htopic
  apply (dropRef_last he hteardown (by simp [h₀, h₁])).trans
  congr 1
  funext o
  by_cases ho : o = .entity e
  · simp [ho]
  · simp [h₀, h₁, Function.update_apply, ho]

theorem destroyEntity_frame {h h' : Heap (Obj N E)} {entity : Entity N E} {o : Obj N E}
    (hself : o ≠ entity.self) (hinfo : o ≠ entity.nodeInfo) (htopic : entity.topicInfo ≠ some o)
    (hd : zenohPicoDestroyEntity h entity = some h') : h' o = h o := by
  apply dropRef_frame hself _ hd
  intro g g' hteardown
  obtain ⟨g₁, hg₁, hrest⟩ := Option.bind_eq_some_iff.mp hteardown
  have hframe : g₁ o = g o := by
    apply dropRef_frame hinfo _ hg₁
    intro f f' hf
    cases hf
    rfl
  cases ht : entity.topicInfo with
  | none =>
      rw [ht] at hrest
      cases hrest
      exact hframe
  | some topic =>
      rw [ht] at hrest htopic
      have hne : o ≠ topic := fun heq => htopic (congrArg some heq.symm)
      rw [← hframe]
      apply dropRef_frame hne _ hrest
      intro f f' hf
      cases hf
      rfl

theorem destroyEntity_bare {h : Heap (Obj N E)} {self : Obj N E} {n : N} {i : Int}
    (hne : Obj.nodeInfo n ≠ self) (he : h self = .live 1) (hi : h (.nodeInfo n) = .live i) :
    zenohPicoDestroyEntity h ⟨self, .nodeInfo n, none⟩ =
      some (Function.update (Function.update h (.nodeInfo n) (dropped i)) self .freed) := by
  let h₀ := Function.update h self (.live 0)
  have hteardown : (zenohPicoDestroyNodeInfo h₀ (.nodeInfo n)).bind some =
      some (Function.update h₀ (.nodeInfo n) (dropped i)) := by
    rw [Option.bind_fun_some]
    apply dropRef_leaf
    simpa [h₀, hne] using hi
  apply (dropRef_last he hteardown (by simp [h₀, hne.symm])).trans
  congr 1
  funext o
  by_cases ho : o = self
  · simp [ho]
  · simp [h₀, Function.update_apply, ho]

theorem destroyNodeData_last {h : Heap (Obj N E)} {n : N} {i : Int} (hd : h (.nodeData n) = .live 1)
    (he : h (.nodeEntity n) = .live 1) (hi : h (.nodeInfo n) = .live i) :
    zenohPicoDestroyNodeData h (nodeDataOf n) =
      some (Function.update (Function.update (Function.update h (.nodeInfo n) (dropped i))
        (.nodeEntity n) .freed) (.nodeData n) .freed) := by
  have h₁ : Function.update h (.nodeData n) (.live 0) (.nodeEntity n) = .live 1 := by simpa using he
  have h₂ : Function.update h (.nodeData n) (.live 0) (.nodeInfo n) = .live i := by simpa using hi
  apply (dropRef_last hd (destroyEntity_bare (by simp) h₁ h₂) (by simp)).trans
  congr 1
  funext o
  by_cases ho : o = .nodeData n
  · simp [ho]
  · simp [Function.update_apply, ho]

theorem destroyNodeData_shared {h : Heap (Obj N E)} {n : N} {k : Int} (hd : h (.nodeData n) = .live k)
    (hk : k ≠ 1) :
    zenohPicoDestroyNodeData h (nodeDataOf n) =
      some (Function.update h (.nodeData n) (.live (k - 1))) :=
  dropRef_shared hd hk _

/-- The objects of an endpoint are freed with it, apart from what it shares
with its node. -/
theorem destroyEndpointData_eq {h h' : Heap (Obj N E)} {n : N} {e : E} {i : Int}
    (hd : h (.data e) = .live 1)
    (hn : zenohPicoDestroyNodeData (Function.update h (.data e) (.live 0)) (nodeDataOf n) = some h')
    (hd' : h' (.data e) = .live 0) (he' : h' (.entity e) = .live 1) (hi' : h' (.nodeInfo n) = .live i)
    (ht' : h' (.topicInfo e) = .live 1) :
    destroyEndpointData h (endpointDataOf n e) =
      some (Function.update (Function.update (Function.update (Function.update h' (.nodeInfo n)
        (dropped i)) (.topicInfo e) .freed) (.entity e) .freed) (.data e) .freed) := by
  apply dropRef_last hd
  · simp only [endpointDataOf, hn, Option.bind_eq_bind, Option.bind_some]
    exact destroyEntity_topic he' hi' ht'
  · simpa [endpointDataOf] using hd'

def endpointFreed (h : Heap (Obj N E)) (e : E) : Heap (Obj N E) :=
  Function.update (Function.update (Function.update h (.topicInfo e) .freed) (.entity e) .freed)
    (.data e) .freed

theorem endpointFreed_nodeData (h : Heap (Obj N E)) (n : N) (e : E) :
    endpointFreed h e (.nodeData n) = h (.nodeData n) := by
  simp [endpointFreed]

theorem destroyEndpointData_shared {h : Heap (Obj N E)} {n : N} {e : E} {k i : Int}
    (hd : h (.data e) = .live 1) (he : h (.entity e) = .live 1) (ht : h (.topicInfo e) = .live 1)
    (hn : h (.nodeData n) = .live k) (hk : k ≠ 1) (hi : h (.nodeInfo n) = .live i) :
    destroyEndpointData h (endpointDataOf n e) =
      some (endpointFreed (Function.update (Function.update h (.nodeData n) (.live (k - 1)))
        (.nodeInfo n) (dropped i)) e) := by
  have hn' : Function.update h (.data e) (.live 0) (.nodeData n) = .live k := by simpa using hn
  have hnode := destroyNodeData_shared hn' hk
  rw [destroyEndpointData_eq hd hnode (i := i) (by simp) (by simpa using he) (by simpa using hi)
    (by simpa using ht)]
  congr 1
  funext o
  by_cases ho : o = .data e
  · simp [ho, endpointFreed]
  · simp [endpointFreed, Function.update_apply, ho]

theorem destroyEndpointData_last {h : Heap (Obj N E)} {n : N} {e : E} {i : Int}
    (hd : h (.data e) = .live 1) (he : h (.entity e) = .live 1) (ht : h (.topicInfo e) = .live 1)
    (hn : h (.nodeData n) = .live 1) (hent : h (.nodeEntity n) = .live 1)
    (hi : h (.nodeInfo n) = .live i) (hi1 : i ≠ 1) :
    destroyEndpointData h (endpointDataOf n e) =
      some (endpointFreed (Function.update (Function.update (Function.update h (.nodeEntity n) .freed)
        (.nodeData n) .freed) (.nodeInfo n) (dropped (i - 1))) e) := by
  let h₀ := Function.update h (.data e) (.live 0)
  have hn' : h₀ (.nodeData n) = .live 1 := by simpa [h₀] using hn
  have hent' : h₀ (.nodeEntity n) = .live 1 := by simpa [h₀] using hent
  have hi' : h₀ (.nodeInfo n) = .live i := by simpa [h₀] using hi
  have hnode := destroyNodeData_last hn' hent' hi'
  rw [destroyEndpointData_eq hd hnode (i := i - 1) (by simp [h₀]) (by simpa [h₀] using he)
    (by simp [dropped_shared hi1]) (by simpa [h₀] using ht)]
  congr 1
  funext o
  by_cases ho : o = .data e
  · simp [ho, endpointFreed]
  · by_cases hinfo : o = .nodeInfo n
    · simp [hinfo, endpointFreed]
    · simp [h₀, endpointFreed, Function.update_apply, ho, hinfo]

end RmwZenohPico.ZenohPicoData
