import RmwZenohPico.Creation

namespace RmwZenohPico.FailedCreation

open Lib.RefHeap ZenohPicoData Creation

variable {N E : Type} [DecidableEq N] [DecidableEq E]

structure NodeAlive (h : Heap (Obj N E)) (n : N) (k i : Nat) : Prop where
  nodeData : h (.nodeData n) = .live (k + 1)
  nodeEntity : h (.nodeEntity n) = .live 1
  nodeInfo : h (.nodeInfo n) = .live (i + 1)

structure EndpointFresh (h : Heap (Obj N E)) (e : E) : Prop where
  topicInfo : h (.topicInfo e) = .absent
  entity : h (.entity e) = .absent
  data : h (.data e) = .absent

def Released (c : Cell) : Prop := c = .absent ∨ c = .freed

structure Restored (h h' : Heap (Obj N E)) (n : N) (e : E) : Prop where
  nodeData : h' (.nodeData n) = h (.nodeData n)
  nodeInfo : h' (.nodeInfo n) = h (.nodeInfo n)
  topicInfo : Released (h' (.topicInfo e))
  entity : Released (h' (.entity e))
  data : Released (h' (.data e))

/-- The call touches no freed object and, if it returns NULL, leaves the
counts as they were. -/
def LeavesCounts (h : Heap (Obj N E)) (n : N) (e : E)
    (call : Option (Heap (Obj N E) × Option (EndpointData N E))) : Prop :=
  ∃ h' data, call = some (h', data) ∧ (data = none → Restored h h' n e)

omit [DecidableEq N] [DecidableEq E] in
@[simp] theorem leavesCounts_fault (h : Heap (Obj N E)) (n : N) (e : E) :
    ¬ LeavesCounts h n e none := by
  rintro ⟨h', data, hcall, -⟩
  cases hcall

omit [DecidableEq N] [DecidableEq E] in
@[simp] theorem leavesCounts_created (h h' : Heap (Obj N E)) (n : N) (e : E) (data : EndpointData N E) :
    LeavesCounts h n e (some (h', some data)) := by
  refine ⟨h', some data, rfl, ?_⟩
  intro hnone
  cases hnone

omit [DecidableEq N] [DecidableEq E] in
@[simp] theorem leavesCounts_failed (h h' : Heap (Obj N E)) (n : N) (e : E) :
    LeavesCounts h n e (some (h', none)) ↔ Restored h h' n e := by
  constructor
  · rintro ⟨g, data, hcall, hrestored⟩
    cases hcall
    exact hrestored rfl
  · intro hrestored
    exact ⟨h', none, rfl, fun _ => hrestored⟩

def generates (env : CreateEnv) : Bool :=
  env.topicInfo && env.entity && env.data && env.livelinessKey && env.topicKey

def built (h : Heap (Obj N E)) (n : N) (e : E) (i : Nat) : Heap (Obj N E) :=
  Function.update (Function.update (Function.update (Function.update h (.nodeInfo n) (.live (i + 1 + 1)))
    (.topicInfo e) (.live 1)) (.entity e) (.live 1)) (.data e) (.live 1)

section Generators

variable {env : CreateEnv} {h : Heap (Obj N E)} {n : N} {e : E} {k i : Nat}

omit [DecidableEq N] [DecidableEq E] in
theorem readNodeInfo_alive (hn : NodeAlive h n k i) :
    readNodeInfo h (nodeDataOf n : NodeData N E) = some (.nodeInfo n) := by
  simp [readNodeInfo, nodeDataOf, nodeEntityOf, hn.nodeData, hn.nodeEntity, Cell.isLive]

theorem generatePublisherData_built (hn : NodeAlive h n k i) (hg : generates env = true) :
    zenohPicoGeneratePublisherData env h (nodeDataOf n) e =
      some (built h n e i, some (endpointDataOf n e)) := by
  simp only [generates, Bool.and_eq_true] at hg
  simp [zenohPicoGeneratePublisherData, readNodeInfo_alive hn, refClone_live hn.nodeInfo,
    zenohPicoGeneratePublisherEntity, zenohPicoGenerateTopicEntity, zenohPicoGenerateTopicInfo,
    zenohPicoGenerateEntity, generate, hg, built, endpointDataOf, entityOf]

theorem generateSubscriptionData_built (hn : NodeAlive h n k i) (hg : generates env = true) :
    zenohPicoGenerateSubscriptionData env h (nodeDataOf n) e =
      some (built h n e i, some (endpointDataOf n e)) := by
  simp only [generates, Bool.and_eq_true] at hg
  simp [zenohPicoGenerateSubscriptionData, readNodeInfo_alive hn, refClone_live hn.nodeInfo,
    zenohPicoGenerateSubscriptionEntity, zenohPicoGenerateTopicEntity, zenohPicoGenerateTopicInfo,
    zenohPicoGenerateEntity, generate, hg, built, endpointDataOf, entityOf]

theorem generateServiceData_built (hn : NodeAlive h n k i) (hg : generates env = true)
    (ht : (env.typeConversion || !env.stale) = true) :
    zenohPicoGenerateServiceData env h (nodeDataOf n) e =
      some (built h n e i, some (endpointDataOf n e)) := by
  simp only [generates, Bool.and_eq_true] at hg
  have htype : (!env.typeConversion && env.stale) = false := by
    cases hc : env.typeConversion <;> cases hs : env.stale <;> simp_all
  simp [zenohPicoGenerateServiceData, readNodeInfo_alive hn, refClone_live hn.nodeInfo,
    zenohPicoGenerateServiceEntity, zenohPicoGenerateTopicInfo, zenohPicoGenerateEntity, generate, hg,
    htype, built, endpointDataOf, entityOf]

omit [DecidableEq N] [DecidableEq E] in
theorem cleanUp_frame {α : Type} {stale : Bool} {p : Local α} {h h' : Heap (Obj N E)} {o : Obj N E}
    {destroy : Heap (Obj N E) → α → Option (Heap (Obj N E))}
    (hp : ∀ a g g', p = .pointer a → destroy g a = some g' → g' o = g o)
    (hc : p.cleanUp stale h destroy = some h') : h' o = h o := by
  cases p with
  | uninitialised =>
      cases stale with
      | true => cases hc
      | false =>
          cases hc
          rfl
  | null =>
      cases hc
      rfl
  | pointer a => exact hp a h h' rfl hc

theorem errorLabel_frame {h' : Heap (Obj N E)} {entity : Local (Entity N E)} {data : Local (Obj N E)}
    {r : Option (EndpointData N E)} (hentity : ∀ a, entity = .pointer a → a = entityOf n e)
    (hdata : ∀ a, data = .pointer a → a = .data e)
    (hc : errorLabel env h (.nodeInfo n) entity data = some (h', r)) :
    r = none ∧ h' (.nodeData n) = h (.nodeData n) := by
  obtain ⟨g₁, hg₁, hc⟩ := Option.bind_eq_some_iff.mp hc
  obtain ⟨g₂, hg₂, hc⟩ := Option.bind_eq_some_iff.mp hc
  obtain ⟨g₃, hg₃, hc⟩ := Option.bind_eq_some_iff.mp hc
  cases hc
  refine ⟨rfl, ?_⟩
  have hinfo : g₁ (.nodeData n) = h (.nodeData n) := by
    apply dropRef_frame (by simp) _ hg₁
    intro f f' hf
    cases hf
    rfl
  have hent : g₂ (.nodeData n) = g₁ (.nodeData n) := by
    apply cleanUp_frame _ hg₂
    intro a f f' ha hf
    rw [hentity a ha] at hf
    exact destroyEntity_frame (by simp [entityOf]) (by simp [entityOf]) (by simp [entityOf]) hf
  have hdat : h' (.nodeData n) = g₂ (.nodeData n) := by
    apply cleanUp_frame _ hg₃
    intro a f f' ha hf
    rw [hdata a ha] at hf
    exact destroy_frame (by simp) hf
  rw [hdat, hent, hinfo]

theorem publisherErrorLabel_frame {h' : Heap (Obj N E)} {topicInfo : Local (Obj N E)}
    {entity : Local (Entity N E)} {data : Local (Obj N E)} {r : Option (EndpointData N E)}
    (htopic : ∀ a, topicInfo = .pointer a → a = .topicInfo e)
    (hentity : ∀ a, entity = .pointer a → a = entityOf n e)
    (hdata : ∀ a, data = .pointer a → a = .data e)
    (hc : publisherErrorLabel env h topicInfo (.nodeInfo n) entity data = some (h', r)) :
    r = none ∧ h' (.nodeData n) = h (.nodeData n) := by
  obtain ⟨g, hg, hc⟩ := Option.bind_eq_some_iff.mp hc
  obtain ⟨hr, hframe⟩ := errorLabel_frame hentity hdata hc
  refine ⟨hr, hframe.trans ?_⟩
  apply cleanUp_frame _ hg
  intro a f f' ha hf
  rw [htopic a ha] at hf
  apply dropRef_frame (by simp) _ hf
  intro f f' hf
  cases hf
  rfl

theorem generatePublisherData_failed {h' : Heap (Obj N E)} {r : Option (EndpointData N E)}
    (hn : NodeAlive h n k i) (hg : generates env = false)
    (hc : zenohPicoGeneratePublisherData env h (nodeDataOf n) e = some (h', r)) :
    r = none ∧ h' (.nodeData n) = h (.nodeData n) := by
  simp only [zenohPicoGeneratePublisherData, readNodeInfo_alive hn, refClone_live hn.nodeInfo,
    Option.bind_eq_bind, Option.bind_some, zenohPicoGeneratePublisherEntity,
    zenohPicoGenerateTopicEntity, zenohPicoGenerateTopicInfo, zenohPicoGenerateEntity] at hc
  cases ht : env.topicInfo with
  | false =>
      simp only [ht] at hc
      simpa using publisherErrorLabel_frame (e := e) (by simp) (by simp) (by simp) hc
  | true =>
  cases hen : env.entity with
  | false =>
      simp only [ht, hen] at hc
      simpa [generate] using publisherErrorLabel_frame (e := e) (by simp) (by simp) (by simp) hc
  | true =>
  cases hd : env.data with
  | false =>
      simp only [ht, hen, hd] at hc
      simpa [generate] using publisherErrorLabel_frame (e := e) (by simp) (by simp [entityOf]) (by simp) hc
  | true =>
  cases hl : env.livelinessKey with
  | false =>
      simp only [ht, hen, hd, hl] at hc
      simpa [generate] using publisherErrorLabel_frame (e := e) (by simp) (by simp [entityOf]) (by simp) hc
  | true =>
      have hk : env.topicKey = false := by simpa [generates, ht, hen, hd, hl] using hg
      simp only [ht, hen, hd, hl, hk] at hc
      simpa [generate] using publisherErrorLabel_frame (e := e) (by simp) (by simp [entityOf]) (by simp) hc

theorem generateSubscriptionData_failed {h' : Heap (Obj N E)} {r : Option (EndpointData N E)}
    (hn : NodeAlive h n k i) (hg : generates env = false)
    (hc : zenohPicoGenerateSubscriptionData env h (nodeDataOf n) e = some (h', r)) :
    r = none ∧ h' (.nodeData n) = h (.nodeData n) := by
  simp only [zenohPicoGenerateSubscriptionData, readNodeInfo_alive hn, refClone_live hn.nodeInfo,
    Option.bind_eq_bind, Option.bind_some, zenohPicoGenerateSubscriptionEntity,
    zenohPicoGenerateTopicEntity, zenohPicoGenerateTopicInfo, zenohPicoGenerateEntity] at hc
  cases ht : env.topicInfo with
  | false =>
      simp only [ht] at hc
      simpa using errorLabel_frame (e := e) (by simp) (by simp) hc
  | true =>
  cases hen : env.entity with
  | false =>
      simp only [ht, hen] at hc
      simpa [generate] using errorLabel_frame (e := e) (by simp) (by simp) hc
  | true =>
  cases hd : env.data with
  | false =>
      simp only [ht, hen, hd] at hc
      simpa [generate] using errorLabel_frame (e := e) (by simp [entityOf]) (by simp) hc
  | true =>
  cases hl : env.livelinessKey with
  | false =>
      simp only [ht, hen, hd, hl] at hc
      simpa [generate] using errorLabel_frame (e := e) (by simp [entityOf]) (by simp) hc
  | true =>
      have hk : env.topicKey = false := by simpa [generates, ht, hen, hd, hl] using hg
      simp only [ht, hen, hd, hl, hk] at hc
      simpa [generate] using errorLabel_frame (e := e) (by simp [entityOf]) (by simp) hc

theorem errorLabel_entity (env : CreateEnv) {data : Local (Obj N E)} {topicInfo : Option (Obj N E)}
    (hi : h (.nodeInfo n) = .live (i + 1 + 1)) (he : h (.entity e) = .live 1)
    (ht : ∀ o, topicInfo = some o → o = .topicInfo e ∧ h (.topicInfo e) = .live 1)
    (hdata : data = .null ∨ data = .pointer (.data e) ∧ h (.data e) = .live 1) :
    ∃ h', errorLabel env h (.nodeInfo n) (.pointer ⟨.entity e, .nodeInfo n, topicInfo⟩) data =
      some (h', none) ∧ h' (.nodeInfo n) = dropped (i + 1) := by
  have hinfo : zenohPicoDestroyNodeInfo h (.nodeInfo n) =
      some (Function.update h (.nodeInfo n) (.live (i + 1))) := by
    rw [zenohPicoDestroyNodeInfo, dropRef_shared hi (by omega)]
    simp
  have hentity : ∃ g, zenohPicoDestroyEntity (Function.update h (.nodeInfo n) (.live (i + 1)))
      ⟨.entity e, .nodeInfo n, topicInfo⟩ = some g ∧ g (.nodeInfo n) = dropped (i + 1) ∧
      g (.data e) = h (.data e) := by
    cases topicInfo with
    | none =>
        refine ⟨_, destroyEntity_bare (i := i + 1) (by simp) (by simpa using he) (by simp), ?_, ?_⟩
        · simp
        · simp
    | some o =>
        obtain ⟨rfl, hlive⟩ := ht o rfl
        refine ⟨_, destroyEntity_topic (i := i + 1) (by simpa using he) (by simp)
          (by simpa using hlive), ?_, ?_⟩
        · simp
        · simp
  obtain ⟨g, hg, hgi, hgd⟩ := hentity
  refine ⟨g, ?_, hgi⟩
  rcases hdata with rfl | ⟨rfl, hlive⟩
  · simp [errorLabel, hinfo, Local.cleanUp, hg]
  · rw [hlive] at hgd
    simp [errorLabel, hinfo, Local.cleanUp, hg, destroy_referenced hgd]

theorem errorLabel_null (hi : h (.nodeInfo n) = .live (i + 1 + 1)) :
    errorLabel env h (.nodeInfo n) .null .null =
      some (Function.update h (.nodeInfo n) (.live (i + 1)), none) := by
  have hinfo : zenohPicoDestroyNodeInfo h (.nodeInfo n) =
      some (Function.update h (.nodeInfo n) (.live (i + 1))) := by
    rw [zenohPicoDestroyNodeInfo, dropRef_shared hi (by omega)]
    simp
  simp [errorLabel, hinfo, Local.cleanUp]

theorem errorLabel_not_leavesCounts (env : CreateEnv) (hn : NodeAlive h n k i) (g : Heap (Obj N E))
    (topicInfo : Option (Obj N E)) (data : Local (Obj N E))
    (hi : g (.nodeInfo n) = .live (i + 1 + 1)) (he : g (.entity e) = .live 1)
    (ht : ∀ o, topicInfo = some o → o = .topicInfo e ∧ g (.topicInfo e) = .live 1)
    (hdata : data = .null ∨ data = .pointer (.data e) ∧ g (.data e) = .live 1) :
    ¬ LeavesCounts h n e
      (errorLabel env g (.nodeInfo n) (.pointer ⟨.entity e, .nodeInfo n, topicInfo⟩) data) := by
  obtain ⟨h', hlabel, hinfo⟩ := errorLabel_entity env hi he ht hdata
  rw [hlabel, leavesCounts_failed]
  intro hrestored
  have hkept := hrestored.nodeInfo
  rw [hinfo, hn.nodeInfo] at hkept
  exact dropped_ne _ hkept

theorem generateServiceData_failed (hn : NodeAlive h n k i) (he : EndpointFresh h e)
    (hg : generates env = false) :
    LeavesCounts h n e (zenohPicoGenerateServiceData env h (nodeDataOf n) e) ↔
      (env.typeConversion = true ∨ env.stale = false) ∧ env.topicInfo = false ∧ env.entity = false := by
  by_cases htype : env.typeConversion = true ∨ env.stale = false
  swap
  · have hstale : env.typeConversion = false ∧ env.stale = true := by simpa using htype
    simp [zenohPicoGenerateServiceData, readNodeInfo_alive hn, zenohPicoGenerateServiceEntity, hstale]
  have hconv : (!env.typeConversion && env.stale) = false := by
    rcases htype with h | h <;> simp [h]
  let h₁ := Function.update h (.nodeInfo n) (.live (i + 1 + 1))
  simp only [zenohPicoGenerateServiceData, readNodeInfo_alive hn, refClone_live hn.nodeInfo,
    Option.bind_eq_bind, Option.bind_some, zenohPicoGenerateServiceEntity, hconv,
    zenohPicoGenerateTopicInfo, zenohPicoGenerateEntity, htype, true_and]
  cases ht : env.topicInfo with
  | false =>
      cases hen : env.entity with
      | false =>
          have hlabel : LeavesCounts h n e (errorLabel env h₁ (.nodeInfo n) .null .null) := by
            rw [errorLabel_null (i := i) (by simp [h₁]), leavesCounts_failed]
            constructor
            · simp [h₁]
            · simp [hn.nodeInfo]
            · simp [h₁, Released, he.topicInfo]
            · simp [h₁, Released, he.entity]
            · simp [h₁, Released, he.data]
          simpa [ht, hen] using hlabel
      | true =>
          let h₂ := generate h₁ (.entity e)
          cases hd : env.data with
          | false =>
              have := errorLabel_not_leavesCounts (e := e) env hn h₂ none .null
                (by simp [h₁, h₂, generate]) (by simp [h₂, generate]) (by simp) (by simp)
              simpa [ht, hen, hd] using this
          | true =>
          cases hl : env.livelinessKey with
          | false =>
              have := errorLabel_not_leavesCounts (e := e) env hn (generate h₂ (.data e)) none
                (.pointer (.data e)) (by simp [h₁, h₂, generate]) (by simp [h₂, generate]) (by simp)
                (by simp [generate])
              simpa [ht, hen, hd, hl] using this
          | true => simp
  | true =>
      let h₂ := generate h₁ (.topicInfo e)
      cases hen : env.entity with
      | false =>
          have hlabel : ¬ LeavesCounts h n e (errorLabel env h₂ (.nodeInfo n) .null .null) := by
            rw [errorLabel_null (i := i) (by simp [h₁, h₂, generate]), leavesCounts_failed]
            intro hrestored
            simpa [h₂, generate, Released] using hrestored.topicInfo
          simpa [ht, hen] using hlabel
      | true =>
          let h₃ := generate h₂ (.entity e)
          cases hd : env.data with
          | false =>
              have := errorLabel_not_leavesCounts (e := e) env hn h₃ (some (.topicInfo e)) .null
                (by simp [h₁, h₂, h₃, generate]) (by simp [h₃, generate]) (by simp [h₂, h₃, generate]) (by simp)
              simpa [ht, hen, hd] using this
          | true =>
              have hkeys : env.livelinessKey = false ∨ env.livelinessKey = true ∧ env.topicKey = false := by
                cases hl : env.livelinessKey <;> simp_all [generates]
              have := errorLabel_not_leavesCounts (e := e) env hn (generate h₃ (.data e))
                (some (.topicInfo e)) (.pointer (.data e)) (by simp [h₁, h₂, h₃, generate])
                (by simp [h₃, generate]) (by simp [h₂, h₃, generate]) (by simp [generate])
              rcases hkeys with hl | ⟨hl, hk⟩
              · simpa [ht, hen, hd, hl] using this
              · simpa [ht, hen, hd, hl, hk] using this

theorem errorLabel_returns_null {h' : Heap (Obj N E)} {nodeInfo : Obj N E} {entity : Local (Entity N E)}
    {data : Local (Obj N E)} {r : Option (EndpointData N E)}
    (hc : errorLabel env h nodeInfo entity data = some (h', r)) : r = none := by
  obtain ⟨g₁, hg₁, hc⟩ := Option.bind_eq_some_iff.mp hc
  obtain ⟨g₂, hg₂, hc⟩ := Option.bind_eq_some_iff.mp hc
  obtain ⟨g₃, hg₃, hc⟩ := Option.bind_eq_some_iff.mp hc
  cases hc
  rfl

theorem generateServiceEntity_some {g : Heap (Obj N E)} {nodeInfo topicInfo : Obj N E}
    {entity : Entity N E} (hent : zenohPicoGenerateServiceEntity env h nodeInfo e = some (g, some entity))
    (htopic : entity.topicInfo = some topicInfo) : env.topicInfo = true ∧ env.entity = true := by
  cases htype : !env.typeConversion && env.stale with
  | true => simp [zenohPicoGenerateServiceEntity, htype] at hent
  | false =>
      cases hen : env.entity with
      | false => simp [zenohPicoGenerateServiceEntity, htype, zenohPicoGenerateEntity, hen] at hent
      | true =>
          simp only [zenohPicoGenerateServiceEntity, htype, zenohPicoGenerateEntity, hen] at hent
          cases ht : env.topicInfo with
          | true => exact ⟨rfl, rfl⟩
          | false =>
              simp only [zenohPicoGenerateTopicInfo, ht] at hent
              cases hent
              cases htopic

theorem generateServiceData_null {h' : Heap (Obj N E)} {node : NodeData N E}
    {r : Option (EndpointData N E)} (hg : generates env = false)
    (hc : zenohPicoGenerateServiceData env h node e = some (h', r)) : r = none := by
  obtain ⟨info, -, hc⟩ := Option.bind_eq_some_iff.mp hc
  obtain ⟨g, -, hc⟩ := Option.bind_eq_some_iff.mp hc
  obtain ⟨⟨g', entity⟩, hent, hc⟩ := Option.bind_eq_some_iff.mp hc
  cases entity with
  | none => exact errorLabel_returns_null hc
  | some entity =>
      simp only at hc
      split at hc
      · exact errorLabel_returns_null hc
      · split at hc
        · exact errorLabel_returns_null hc
        · obtain ⟨topicInfo, htopic, hc⟩ := Option.bind_eq_some_iff.mp hc
          split at hc
          · exact errorLabel_returns_null hc
          · have hmade := generateServiceEntity_some hent htopic
            simp_all [generates]

theorem restored_of_destroy (hn : NodeAlive h n k i) :
    Restored h (endpointFreed (Function.update (Function.update
      (built (Function.update h (.nodeData n) (.live (k + 1 + 1))) n e i) (.nodeData n)
      (.live (k + 1 + 1 - 1))) (.nodeInfo n) (dropped (i + 1 + 1))) e) n e := by
  have hinfo : dropped ((i : Int) + 1 + 1) = .live (i + 1) := by
    rw [dropped_shared (by omega)]
    simp
  constructor
  · simp [endpointFreed, hn.nodeData]
  · simp [endpointFreed, hinfo, hn.nodeInfo]
  all_goals simp [endpointFreed, Released]

theorem finishTopic_leavesCounts (hn : NodeAlive h n k i) :
    LeavesCounts h n e (finishTopic env destroyEndpointData
      (built (Function.update h (.nodeData n) (.live (k + 1 + 1))) n e i) (endpointDataOf n e)) ↔
      (env.handle = false ∨ env.name = true) := by
  let g := built (Function.update h (.nodeData n) (.live (k + 1 + 1))) n e i
  have hdestroy : LeavesCounts h n e (rmwError destroyEndpointData g (endpointDataOf n e)) := by
    have hdestroyed := destroyEndpointData_shared (h := g) (n := n) (e := e) (k := k + 1 + 1)
      (i := i + 1 + 1) (by simp [g, built]) (by simp [g, built]) (by simp [g, built])
      (by simp [g, built]) (by omega) (by simp [g, built])
    rw [rmwError, hdestroyed, Option.bind_eq_bind, Option.bind_some, leavesCounts_failed]
    exact restored_of_destroy hn
  cases hh : env.handle with
  | false => simpa [finishTopic, hh] using hdestroy
  | true =>
      cases hname : env.name with
      | false => simp [finishTopic, hh, hname]
      | true =>
          cases hdecl : env.declaration with
          | false => simpa [finishTopic, hh, hname, hdecl] using hdestroy
          | true => simp [finishTopic, hh, hname, hdecl]

/-- Giving a service up takes a reference of the node that was never added. -/
theorem finishService_leavesCounts (hn : NodeAlive h n k i) :
    LeavesCounts h n e (finishService env (built h n e i) (endpointDataOf n e)) ↔
      env.handle = true ∧ env.name = true ∧ env.declaration = true := by
  have hdata : built h n e i (.data e) = .live 1 := by simp [built]
  have hentity : built h n e i (.entity e) = .live 1 := by simp [built]
  have htopic : built h n e i (.topicInfo e) = .live 1 := by simp [built]
  have hinfo : built h n e i (.nodeInfo n) = .live (i + 1 + 1) := by simp [built]
  have hnode : built h n e i (.nodeData n) = .live (k + 1) := by simp [built, hn.nodeData]
  have hent : built h n e i (.nodeEntity n) = .live 1 := by simp [built, hn.nodeEntity]
  have hdestroy : ¬ LeavesCounts h n e
      (rmwError zenohPicoDestroyServiceData (built h n e i) (endpointDataOf n e)) := by
    by_cases hk : k = 0
    · rw [hk] at hnode
      have hdestroyed := destroyEndpointData_last hdata hentity htopic hnode hent hinfo (by omega)
      rw [rmwError, zenohPicoDestroyServiceData, hdestroyed, Option.bind_eq_bind, Option.bind_some,
        leavesCounts_failed]
      intro hrestored
      have hkept := hrestored.nodeData
      rw [endpointFreed_nodeData, Function.update_of_ne (by simp), Function.update_self, hn.nodeData]
        at hkept
      cases hkept
    · have hdestroyed := destroyEndpointData_shared hdata hentity htopic hnode (by omega) hinfo
      rw [rmwError, zenohPicoDestroyServiceData, hdestroyed, Option.bind_eq_bind, Option.bind_some,
        leavesCounts_failed]
      intro hrestored
      have hkept := hrestored.nodeData
      rw [endpointFreed_nodeData, Function.update_of_ne (by simp), Function.update_self, hn.nodeData,
        Cell.live.injEq] at hkept
      omega
  cases hh : env.handle with
  | false => simpa [finishService, hh] using hdestroy
  | true =>
      cases hname : env.name with
      | false => simpa [finishService, hh, hname] using hdestroy
      | true =>
          cases hdecl : env.declaration with
          | false => simpa [finishService, hh, hname, hdecl] using hdestroy
          | true => simp [finishService, hh, hname, hdecl]

theorem NodeAlive.cloned (hn : NodeAlive h n k i) :
    NodeAlive (Function.update h (.nodeData n) (.live (k + 1 + 1))) n (k + 1) i := by
  constructor
  · simp
  · simp [hn.nodeEntity]
  · simp [hn.nodeInfo]

/-- The failure points at which the counts are left as they were. -/
def restores (kind : Kind) (env : CreateEnv) : Bool :=
  match kind with
  | .publisher | .subscription => generates env && (!env.handle || env.name)
  | .service | .client =>
    (env.typeConversion || !env.stale) &&
      (generates env && env.handle && env.name && env.declaration || !env.topicInfo && !env.entity)

omit [DecidableEq N] [DecidableEq E] in
theorem not_leavesCounts_of_kept {call : Option (Heap (Obj N E) × Option (EndpointData N E))}
    (hn : NodeAlive h n k i)
    (hcall : ∀ h' r, call = some (h', r) → r = none ∧ h' (.nodeData n) = .live (k + 1 + 1)) :
    ¬ LeavesCounts h n e call := by
  rintro ⟨h', r, hc, hrestored⟩
  obtain ⟨hr, hkept⟩ := hcall h' r hc
  have hsame := (hrestored hr).nodeData
  rw [hkept, hn.nodeData, Cell.live.injEq] at hsame
  omega

theorem createPublisher_leavesCounts (hn : NodeAlive h n k i) :
    LeavesCounts h n e (rmwCreatePublisher env h (nodeDataOf n) e) ↔
      restores .publisher env = true := by
  have hclone : refClone h (nodeDataOf n : NodeData N E).self =
      some (Function.update h (.nodeData n) (.live (k + 1 + 1))) := refClone_live hn.nodeData
  rw [rmwCreatePublisher, hclone, Option.bind_eq_bind, Option.bind_some]
  cases hg : generates env with
  | true =>
      rw [generatePublisherData_built hn.cloned hg, orReturnNull]
      apply (finishTopic_leavesCounts hn).trans
      simp [restores, hg]
  | false =>
      have hfailed : ∀ h' r, zenohPicoGeneratePublisherData env
          (Function.update h (.nodeData n) (.live (k + 1 + 1))) (nodeDataOf n) e = some (h', r) →
          r = none ∧ h' (.nodeData n) = .live (k + 1 + 1) := by
        intro h' r hc
        simpa using generatePublisherData_failed hn.cloned hg hc
      rw [orReturnNull_failed fun h' r hc => (hfailed h' r hc).1]
      simpa [restores, hg] using not_leavesCounts_of_kept hn hfailed

theorem createSubscription_leavesCounts (hn : NodeAlive h n k i) :
    LeavesCounts h n e (rmwCreateSubscription env h (nodeDataOf n) e) ↔
      restores .subscription env = true := by
  have hclone : refClone h (nodeDataOf n : NodeData N E).self =
      some (Function.update h (.nodeData n) (.live (k + 1 + 1))) := refClone_live hn.nodeData
  rw [rmwCreateSubscription, hclone, Option.bind_eq_bind, Option.bind_some]
  cases hg : generates env with
  | true =>
      rw [generateSubscriptionData_built hn.cloned hg, orReturnNull]
      apply (finishTopic_leavesCounts hn).trans
      simp [restores, hg]
  | false =>
      have hfailed : ∀ h' r, zenohPicoGenerateSubscriptionData env
          (Function.update h (.nodeData n) (.live (k + 1 + 1))) (nodeDataOf n) e = some (h', r) →
          r = none ∧ h' (.nodeData n) = .live (k + 1 + 1) := by
        intro h' r hc
        simpa using generateSubscriptionData_failed hn.cloned hg hc
      rw [orReturnNull_failed fun h' r hc => (hfailed h' r hc).1]
      simpa [restores, hg] using not_leavesCounts_of_kept hn hfailed

theorem createServiceEndpoint_leavesCounts (hn : NodeAlive h n k i) (he : EndpointFresh h e) :
    LeavesCounts h n e (createServiceEndpoint env h (nodeDataOf n) e) ↔ restores .service env = true := by
  rw [createServiceEndpoint]
  cases hg : generates env with
  | true =>
      have hmade : env.topicInfo = true := by
        simp only [generates, Bool.and_eq_true] at hg
        exact hg.1.1.1.1
      by_cases htype : (env.typeConversion || !env.stale) = true
      · rw [generateServiceData_built hn hg htype, orReturnNull]
        apply (finishService_leavesCounts hn).trans
        simp [restores, hg, htype, hmade, and_assoc]
      · have hstale : env.typeConversion = false ∧ env.stale = true := by simpa using htype
        simp [orReturnNull, zenohPicoGenerateServiceData, readNodeInfo_alive hn,
          zenohPicoGenerateServiceEntity, hstale, restores]
  | false =>
      rw [orReturnNull_failed fun h' r hc => generateServiceData_null hg hc]
      apply (generateServiceData_failed hn he hg).trans
      simp [restores, hg]

end Generators

section Nodes

variable {env : NodeEnv} {h : Heap (Obj N E)} {n : N}

structure NodeFresh (h : Heap (Obj N E)) (n : N) : Prop where
  nodeInfo : h (.nodeInfo n) = .absent
  nodeEntity : h (.nodeEntity n) = .absent
  nodeData : h (.nodeData n) = .absent

/-- The call touches no freed object and, if it returns NULL, leaves none of
the node's objects behind. -/
def ReleasesNode (n : N) (call : Option (Heap (Obj N E) × Option (NodeData N E))) : Prop :=
  ∃ h' nodeData, call = some (h', nodeData) ∧ (nodeData = none →
    Released (h' (.nodeInfo n)) ∧ Released (h' (.nodeEntity n)) ∧ Released (h' (.nodeData n)))

omit [DecidableEq N] [DecidableEq E] in
theorem releasesNode_fault (n : N) :
    ¬ ReleasesNode n (none : Option (Heap (Obj N E) × Option (NodeData N E))) := by
  rintro ⟨h', data, hcall, -⟩
  cases hcall

omit [DecidableEq N] [DecidableEq E] in
theorem releasesNode_null {h' : Heap (Obj N E)} (hi : Released (h' (.nodeInfo n)))
    (he : Released (h' (.nodeEntity n))) (hd : Released (h' (.nodeData n))) :
    ReleasesNode n (some (h', none)) := by
  refine ⟨h', none, rfl, ?_⟩
  intro _
  exact ⟨hi, he, hd⟩

def nodeRestores (env : NodeEnv) : Bool :=
  env.nodeInfo && env.entity && env.nodeData && env.livelinessKey ||
    (!env.nodeInfo || !env.entity) && !env.stale

/-- The info is destroyed before the entity, which still refers to it. -/
theorem nodeErrorLabel_entity (env : NodeEnv) (nodeData : Local (Obj N E)) (hi : h (.nodeInfo n) = .live 1)
    (he : h (.nodeEntity n) = .live 1) :
    nodeErrorLabel env h (.pointer (.nodeInfo n)) (.pointer (nodeEntityOf n)) nodeData = none := by
  have hinfo : zenohPicoDestroyNodeInfo h (.nodeInfo n) = some (Function.update h (.nodeInfo n) .freed) :=
    dropRef_leaf hi
  have hentity : zenohPicoDestroyEntity (Function.update h (.nodeInfo n) .freed) (nodeEntityOf n) = none := by
    have hlive : Function.update h (.nodeInfo n) .freed (.nodeEntity n) = .live 1 := by simpa using he
    apply dropRef_fault hlive
    have hdead : (Function.update (Function.update h (.nodeInfo n) .freed) (.nodeEntity n) (.live 0)
        (.nodeInfo n)).isLive = false := by simp [Cell.isLive]
    simp only [nodeEntityOf, zenohPicoDestroyNodeInfo]
    rw [dropRef_dead hdead]
    rfl
  simp [nodeErrorLabel, Local.cleanUp, hinfo, hentity]

theorem generateNodeData_releases (hn : NodeFresh h n) :
    ReleasesNode n (zenohPicoGenerateNodeData env h n) ↔ nodeRestores env = true := by
  cases hi : env.nodeInfo with
  | false =>
      cases hs : env.stale with
      | true => simpa [zenohPicoGenerateNodeData, nodeErrorLabel, Local.cleanUp, nodeRestores, hi, hs]
          using releasesNode_fault n
      | false =>
          have hreleased := releasesNode_null (Or.inl hn.nodeInfo) (Or.inl hn.nodeEntity) (Or.inl hn.nodeData)
          simpa [zenohPicoGenerateNodeData, nodeErrorLabel, Local.cleanUp, nodeRestores, hi, hs]
            using hreleased
  | true =>
  have hfreed : zenohPicoDestroyNodeInfo (generate h (.nodeInfo n)) (.nodeInfo n) =
      some (Function.update h (.nodeInfo n) .freed) := by
    have hlive : generate h (.nodeInfo n) (.nodeInfo n) = .live 1 := by simp [generate]
    rw [zenohPicoDestroyNodeInfo, dropRef_leaf hlive, generate, Function.update_idem]
    rfl
  cases hen : env.entity with
  | false =>
      cases hs : env.stale with
      | true => simpa [zenohPicoGenerateNodeData, zenohPicoGenerateEntity, nodeErrorLabel, Local.cleanUp,
          hfreed, nodeRestores, hi, hen, hs] using releasesNode_fault n
      | false =>
          have hreleased : ReleasesNode n (some (Function.update h (.nodeInfo n) .freed, none)) := by
            apply releasesNode_null
            · simp [Released]
            · simp [Released, hn.nodeEntity]
            · simp [Released, hn.nodeData]
          simpa [zenohPicoGenerateNodeData, zenohPicoGenerateEntity, nodeErrorLabel, Local.cleanUp,
            hfreed, nodeRestores, hi, hen, hs] using hreleased
  | true =>
  let h₁ := generate (generate h (.nodeInfo n)) (.nodeEntity n)
  cases hd : env.nodeData with
  | false =>
      have hlabel := nodeErrorLabel_entity (h := h₁) (n := n) env .null (by simp [h₁, generate])
        (by simp [h₁, generate])
      have hcall : zenohPicoGenerateNodeData env h n = none := by
        simpa [zenohPicoGenerateNodeData, zenohPicoGenerateEntity, nodeEntityOf, h₁, hi, hen, hd] using hlabel
      rw [hcall]
      simpa [nodeRestores, hi, hen, hd] using releasesNode_fault n
  | true =>
  cases hl : env.livelinessKey with
  | false =>
      have hlabel := nodeErrorLabel_entity (h := generate h₁ (.nodeData n)) (n := n) env
        (.pointer (.nodeData n)) (by simp [h₁, generate]) (by simp [h₁, generate])
      have hcall : zenohPicoGenerateNodeData env h n = none := by
        simpa [zenohPicoGenerateNodeData, zenohPicoGenerateEntity, nodeEntityOf, h₁, hi, hen, hd, hl] using hlabel
      rw [hcall]
      simpa [nodeRestores, hi, hen, hd, hl] using releasesNode_fault n
  | true =>
      have hreturns : ReleasesNode n (zenohPicoGenerateNodeData env h n) := by
        refine ⟨generate h₁ (.nodeData n), some (nodeDataOf n), ?_, ?_⟩
        · simp [zenohPicoGenerateNodeData, zenohPicoGenerateEntity, hi, hen, hd, hl, h₁, nodeDataOf,
            nodeEntityOf]
        · intro hnone
          cases hnone
      simpa [nodeRestores, hi, hen, hd, hl] using hreturns

end Nodes

/-- Exactly the failures at which the clean-up labels do what they are for. -/
theorem failed_creation_leaves_counts {h : Heap (Obj N E)} {n m : N} {e : E} {k i : Nat}
    (hn : NodeAlive h n k i) (he : EndpointFresh h e) (hm : NodeFresh h m) :
    (∀ kind env, LeavesCounts h n e (rmwCreate kind env h (nodeDataOf n) e) ↔ restores kind env = true) ∧
    (∀ env, ReleasesNode m (zenohPicoGenerateNodeData env h m) ↔ nodeRestores env = true) := by
  constructor
  · intro kind env
    cases kind with
    | publisher => exact createPublisher_leavesCounts hn
    | subscription => exact createSubscription_leavesCounts hn
    | service => exact createServiceEndpoint_leavesCounts hn he
    | client => exact createServiceEndpoint_leavesCounts hn he
  · intro env
    exact generateNodeData_releases hm

def oneNode : Heap (Obj Nat Nat)
  | .nodeInfo 0 => .live 1
  | .nodeEntity 0 => .live 1
  | .nodeData 0 => .live 1
  | _ => .absent

def allSucceed : CreateEnv := ⟨true, true, true, true, true, true, true, true, true, false⟩

def nodeInfoFails : NodeEnv := ⟨false, true, true, true, true, true, true, false⟩

theorem failed_declaration_leaves_counts :
    LeavesCounts oneNode 0 7 (rmwCreate .publisher { allSucceed with declaration := false } oneNode
      (nodeDataOf 0) 7) ∧
    ReleasesNode 1 (zenohPicoGenerateNodeData nodeInfoFails oneNode 1) := by
  have hn : NodeAlive oneNode 0 0 0 := ⟨rfl, rfl, rfl⟩
  have he : EndpointFresh oneNode 7 := ⟨rfl, rfl, rfl⟩
  have hm : NodeFresh oneNode 1 := ⟨rfl, rfl, rfl⟩
  obtain ⟨hcreate, hnode⟩ := failed_creation_leaves_counts hn he hm
  exact ⟨(hcreate .publisher _).mpr rfl, (hnode _).mpr rfl⟩

/-- Without memory for the publisher's data the node keeps a reference too
many, and its info is freed under it. -/
theorem failed_allocation_miscounts :
    (rmwCreate .publisher { allSucceed with data := false } oneNode (nodeDataOf 0) 7).map
      (fun r => (r.2.isNone, r.1 (.nodeData 0), r.1 (.nodeInfo 0))) = some (true, .live 2, .freed) ∧
    ¬ LeavesCounts oneNode 0 7 (rmwCreate .publisher { allSucceed with data := false } oneNode
      (nodeDataOf 0) 7) := by
  have hcall : (rmwCreate .publisher { allSucceed with data := false } oneNode (nodeDataOf 0) 7).map
      (fun r => (r.2.isNone, r.1 (.nodeData 0), r.1 (.nodeInfo 0))) = some (true, .live 2, .freed) := by
    decide
  refine ⟨hcall, ?_⟩
  rintro ⟨h', r, hr, hrestored⟩
  rw [hr, Option.map_some, Option.some.injEq, Prod.mk.injEq, Prod.mk.injEq, Option.isNone_iff_eq_none]
    at hcall
  have hkept : oneNode (.nodeData 0) = .live 2 := (hrestored hcall.1).nodeData.symm.trans hcall.2.1
  exact absurd hkept (by decide)

end RmwZenohPico.FailedCreation
