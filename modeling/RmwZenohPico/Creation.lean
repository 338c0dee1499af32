import RmwZenohPico.ZenohPicoData

namespace RmwZenohPico.Creation

open Lib.RefHeap ZenohPicoData

variable {N E : Type} [DecidableEq N] [DecidableEq E]

inductive Kind
  | publisher
  | subscription
  | service
  | client
  deriving DecidableEq

/-- How the calls inside a creation end, and whether a local that the source
leaves uninitialised happens to hold a pointer. -/
structure CreateEnv where
  typeConversion : Bool
  topicInfo : Bool
  entity : Bool
  data : Bool
  livelinessKey : Bool
  topicKey : Bool
  handle : Bool
  name : Bool
  declaration : Bool
  stale : Bool

inductive Local (α : Type)
  | uninitialised
  | null
  | pointer (a : α)

/-- if(p != NULL) destroy(p), where p may hold an address of nothing. -/
def Local.cleanUp {α : Type} (stale : Bool) (p : Local α) (h : Heap (Obj N E))
    (destroy : Heap (Obj N E) → α → Option (Heap (Obj N E))) : Option (Heap (Obj N E)) :=
  match p with
  | .uninitialised => if stale then none else some h
  | .null => some h
  | .pointer a => destroy h a

def zenohPicoGenerateTopicInfo (env : CreateEnv) (h : Heap (Obj N E)) (e : E) :
    Heap (Obj N E) × Option (Obj N E) :=
  if env.topicInfo then (generate h (.topicInfo e), some (.topicInfo e)) else (h, none)

def zenohPicoGenerateEntity (allocated : Bool) (h : Heap (Obj N E)) (self nodeInfo : Obj N E)
    (topicInfo : Option (Obj N E)) : Heap (Obj N E) × Option (Entity N E) :=
  if allocated then (generate h self, some ⟨self, nodeInfo, topicInfo⟩) else (h, none)

/-- The results of the two conversions are not looked at, but both always
write their string. -/
def zenohPicoGenerateTopicEntity (env : CreateEnv) (h : Heap (Obj N E)) (nodeInfo : Obj N E) (e : E) :
    Heap (Obj N E) × Option (Entity N E) :=
  match zenohPicoGenerateTopicInfo env h e with
  | (h, none) => (h, none)
  | (h, some topicInfo) => zenohPicoGenerateEntity env.entity h (.entity e) nodeInfo (some topicInfo)

def zenohPicoGeneratePublisherEntity (env : CreateEnv) (h : Heap (Obj N E)) (nodeInfo : Obj N E) (e : E) :
    Heap (Obj N E) × Option (Entity N E) :=
  zenohPicoGenerateTopicEntity env h nodeInfo e

def zenohPicoGenerateSubscriptionEntity (env : CreateEnv) (h : Heap (Obj N E)) (nodeInfo : Obj N E)
    (e : E) : Heap (Obj N E) × Option (Entity N E) :=
  zenohPicoGenerateTopicEntity env h nodeInfo e

def zenohPicoGenerateServiceEntity (env : CreateEnv) (h : Heap (Obj N E)) (nodeInfo : Obj N E) (e : E) :
    Option (Heap (Obj N E) × Option (Entity N E)) :=
  -- a type name without _Request leaves type_name unwritten, and it is dropped
  if !env.typeConversion && env.stale then none
  else
    -- topic_info is not compared with NULL here
    let (h, topicInfo) := zenohPicoGenerateTopicInfo env h e
    some (zenohPicoGenerateEntity env.entity h (.entity e) nodeInfo topicInfo)

def readNodeInfo (h : Heap (Obj N E)) (node : NodeData N E) : Option (Obj N E) :=
  if (h node.self).isLive && (h node.entity.self).isLive then some node.entity.nodeInfo else none

def errorLabel (env : CreateEnv) (h : Heap (Obj N E)) (nodeInfo : Obj N E)
    (entity : Local (Entity N E)) (data : Local (Obj N E)) :
    Option (Heap (Obj N E) × Option (EndpointData N E)) := do
  let h ← zenohPicoDestroyNodeInfo h nodeInfo
  let h ← entity.cleanUp env.stale h zenohPicoDestroyEntity
  let h ← data.cleanUp env.stale h destroy
  some (h, none)

def publisherErrorLabel (env : CreateEnv) (h : Heap (Obj N E)) (topicInfo : Local (Obj N E))
    (nodeInfo : Obj N E) (entity : Local (Entity N E)) (data : Local (Obj N E)) :
    Option (Heap (Obj N E) × Option (EndpointData N E)) := do
  let h ← topicInfo.cleanUp env.stale h zenohPicoDestroyTopicInfo
  errorLabel env h nodeInfo entity data

def zenohPicoGeneratePublisherData (env : CreateEnv) (h : Heap (Obj N E)) (node : NodeData N E) (e : E) :
    Option (Heap (Obj N E) × Option (EndpointData N E)) := do
  let nodeInfo ← readNodeInfo h node
  let h ← refClone h nodeInfo
  match zenohPicoGeneratePublisherEntity env h nodeInfo e with
  | (h, none) => publisherErrorLabel env h .uninitialised nodeInfo .null .null
  | (h, some entity) =>
    if !env.data then publisherErrorLabel env h .uninitialised nodeInfo (.pointer entity) .null
    else
      let h := generate h (.data e)
      if !env.livelinessKey then
        publisherErrorLabel env h .uninitialised nodeInfo (.pointer entity) (.pointer (.data e))
      else
        let topicInfo ← entity.topicInfo
        if !env.topicKey then
          publisherErrorLabel env h (.pointer topicInfo) nodeInfo (.pointer entity) (.pointer (.data e))
        else some (h, some ⟨.data e, node, entity⟩)

def zenohPicoGenerateSubscriptionData (env : CreateEnv) (h : Heap (Obj N E)) (node : NodeData N E) (e : E) :
    Option (Heap (Obj N E) × Option (EndpointData N E)) := do
  let nodeInfo ← readNodeInfo h node
  let h ← refClone h nodeInfo
  match zenohPicoGenerateSubscriptionEntity env h nodeInfo e with
  | (h, none) => errorLabel env h nodeInfo .null .uninitialised
  | (h, some entity) =>
    if !env.data then errorLabel env h nodeInfo (.pointer entity) .null
    else
      let h := generate h (.data e)
      if !env.livelinessKey then errorLabel env h nodeInfo (.pointer entity) (.pointer (.data e))
      else
        let _ ← entity.topicInfo
        if !env.topicKey then errorLabel env h nodeInfo (.pointer entity) (.pointer (.data e))
        else some (h, some ⟨.data e, node, entity⟩)

def zenohPicoGenerateServiceData (env : CreateEnv) (h : Heap (Obj N E)) (node : NodeData N E) (e : E) :
    Option (Heap (Obj N E) × Option (EndpointData N E)) := do
  let nodeInfo ← readNodeInfo h node
  let h ← refClone h nodeInfo
  match ← zenohPicoGenerateServiceEntity env h nodeInfo e with
  | (h, none) => errorLabel env h nodeInfo .null .null
  | (h, some entity) =>
    if !env.data then errorLabel env h nodeInfo (.pointer entity) .null
    else
      let h := generate h (.data e)
      if !env.livelinessKey then errorLabel env h nodeInfo (.pointer entity) (.pointer (.data e))
      else
        -- topic_info->name is read through a NULL topic_info, too
        let _ ← entity.topicInfo
        if !env.topicKey then errorLabel env h nodeInfo (.pointer entity) (.pointer (.data e))
        else some (h, some ⟨.data e, node, entity⟩)

def rmwError (destroyData : Heap (Obj N E) → EndpointData N E → Option (Heap (Obj N E)))
    (h : Heap (Obj N E)) (data : EndpointData N E) :
    Option (Heap (Obj N E) × Option (EndpointData N E)) := do
  let h ← destroyData h data
  some (h, none)

def orReturnNull (generated : Option (Heap (Obj N E) × Option (EndpointData N E)))
    (finish : Heap (Obj N E) → EndpointData N E → Option (Heap (Obj N E) × Option (EndpointData N E))) :
    Option (Heap (Obj N E) × Option (EndpointData N E)) :=
  match generated with
  | none => none
  | some (h, none) => some (h, none)
  | some (h, some data) => finish h data

omit [DecidableEq N] [DecidableEq E] in
theorem orReturnNull_failed {generated : Option (Heap (Obj N E) × Option (EndpointData N E))}
    (hg : ∀ h r, generated = some (h, r) → r = none)
    (finish : Heap (Obj N E) → EndpointData N E → Option (Heap (Obj N E) × Option (EndpointData N E))) :
    orReturnNull generated finish = generated := by
  rcases generated with _ | ⟨h, r⟩
  · rfl
  · cases hg h r rfl
    rfl

/-- The handle of a publisher or a subscription. Its topic name is cloned by
zenoh_pico_string_clone, which writes through a failed allocation. -/
def finishTopic (env : CreateEnv)
    (destroyData : Heap (Obj N E) → EndpointData N E → Option (Heap (Obj N E)))
    (h : Heap (Obj N E)) (data : EndpointData N E) :
    Option (Heap (Obj N E) × Option (EndpointData N E)) :=
  if !env.handle then rmwError destroyData h data
  else if !env.name then none
  else if !env.declaration then rmwError destroyData h data
  else some (h, some data)

def finishService (env : CreateEnv) (h : Heap (Obj N E)) (data : EndpointData N E) :
    Option (Heap (Obj N E) × Option (EndpointData N E)) :=
  if !env.handle || !env.name || !env.declaration then rmwError zenohPicoDestroyServiceData h data
  else some (h, some data)

def rmwCreatePublisher (env : CreateEnv) (h : Heap (Obj N E)) (nodeData : NodeData N E) (e : E) :
    Option (Heap (Obj N E) × Option (EndpointData N E)) := do
  let h ← refClone h nodeData.self
  orReturnNull (zenohPicoGeneratePublisherData env h nodeData e)
    (finishTopic env zenohPicoDestroyPublisherData)

def rmwCreateSubscription (env : CreateEnv) (h : Heap (Obj N E)) (nodeData : NodeData N E) (e : E) :
    Option (Heap (Obj N E) × Option (EndpointData N E)) := do
  let h ← refClone h nodeData.self
  orReturnNull (zenohPicoGenerateSubscriptionData env h nodeData e)
    (finishTopic env zenohPicoDestroySubscriptionData)

/-- Here node_data is passed on without a reference of its own. -/
def createServiceEndpoint (env : CreateEnv) (h : Heap (Obj N E)) (nodeData : NodeData N E) (e : E) :
    Option (Heap (Obj N E) × Option (EndpointData N E)) :=
  orReturnNull (zenohPicoGenerateServiceData env h nodeData e) (finishService env)

def rmwCreateService (env : CreateEnv) (h : Heap (Obj N E)) (nodeData : NodeData N E) (e : E) :
    Option (Heap (Obj N E) × Option (EndpointData N E)) :=
  createServiceEndpoint env h nodeData e

def rmwCreateClient (env : CreateEnv) (h : Heap (Obj N E)) (nodeData : NodeData N E) (e : E) :
    Option (Heap (Obj N E) × Option (EndpointData N E)) :=
  createServiceEndpoint env h nodeData e

def rmwCreate (kind : Kind) (env : CreateEnv) (h : Heap (Obj N E)) (nodeData : NodeData N E) (e : E) :
    Option (Heap (Obj N E) × Option (EndpointData N E)) :=
  match kind with
  | .publisher => rmwCreatePublisher env h nodeData e
  | .subscription => rmwCreateSubscription env h nodeData e
  | .service => rmwCreateService env h nodeData e
  | .client => rmwCreateClient env h nodeData e

def destroyData (kind : Kind) (h : Heap (Obj N E)) (data : EndpointData N E) : Option (Heap (Obj N E)) :=
  match kind with
  | .publisher => zenohPicoDestroyPublisherData h data
  | .subscription => zenohPicoDestroySubscriptionData h data
  | .service | .client => zenohPicoDestroyServiceData h data

theorem destroyData_eq (kind : Kind) (h : Heap (Obj N E)) (data : EndpointData N E) :
    destroyData kind h data = destroyEndpointData h data := by
  cases kind <;> rfl

structure NodeEnv where
  nodeInfo : Bool
  entity : Bool
  nodeData : Bool
  livelinessKey : Bool
  handle : Bool
  name : Bool
  declaration : Bool
  stale : Bool

def nodeErrorLabel (env : NodeEnv) (h : Heap (Obj N E)) (nodeInfo : Local (Obj N E))
    (entity : Local (Entity N E)) (nodeData : Local (Obj N E)) :
    Option (Heap (Obj N E) × Option (NodeData N E)) := do
  let h ← nodeInfo.cleanUp env.stale h zenohPicoDestroyNodeInfo
  let h ← entity.cleanUp env.stale h zenohPicoDestroyEntity
  let h ← nodeData.cleanUp env.stale h destroy
  some (h, none)

def zenohPicoGenerateNodeData (env : NodeEnv) (h : Heap (Obj N E)) (n : N) :
    Option (Heap (Obj N E) × Option (NodeData N E)) :=
  if !env.nodeInfo then nodeErrorLabel env h .null .null .uninitialised
  else
    let h := generate h (.nodeInfo n)
    match zenohPicoGenerateEntity env.entity h (.nodeEntity n) (.nodeInfo n) none with
    | (h, none) => nodeErrorLabel env h (.pointer (.nodeInfo n)) .null .uninitialised
    | (h, some entity) =>
      if !env.nodeData then nodeErrorLabel env h (.pointer (.nodeInfo n)) (.pointer entity) .null
      else
        let h := generate h (.nodeData n)
        if !env.livelinessKey then
          nodeErrorLabel env h (.pointer (.nodeInfo n)) (.pointer entity) (.pointer (.nodeData n))
        else some (h, some ⟨.nodeData n, entity⟩)

def rmwCreateNode (env : NodeEnv) (h : Heap (Obj N E)) (n : N) :
    Option (Heap (Obj N E) × Option (NodeData N E)) := do
  match ← zenohPicoGenerateNodeData env h n with
  | (h, none) => some (h, none)
  | (h, some nodeData) =>
    if env.handle && !env.name then none
    else if !env.handle || !env.declaration then do
      let h ← zenohPicoDestroyNodeData h nodeData
      some (h, none)
    else some (h, some nodeData)

end RmwZenohPico.Creation
