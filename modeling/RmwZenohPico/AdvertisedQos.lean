import RmwZenohPico.Creation
import RmwZenohPico.EndpointMatching
import RmwZenohPico.Liveliness
import RmwZenohPico.QosKeyexpr
import RmwZenohPico.ServiceType

namespace RmwZenohPico.AdvertisedQos

open Lib.CBuffer Lib.Separated RmwTypes TopicKey Liveliness QosKeyexpr
open Creation (Kind)
open ServiceType (convertClientType)

/-- A type support, where that of a service stands for the callbacks of its
request. -/
structure TypeSupport where
  typeHash : RosidlTypeHash
  callbacks : MessageNames

/-- ZenohPicoNodeData, as far as endpoints use it. The id of a session that is
not open is written as an empty string. -/
structure NodeData where
  zid : CString
  id : Nat
  nodeInfo : ZenohPicoNodeInfo

def testQosProfile : RmwQosProfile where
  reliability := 0
  durability := 2
  history := 0
  depth := 10
  deadline := ⟨0, 0⟩
  lifespan := ⟨0, 0⟩
  liveliness := 0
  livelinessLeaseDuration := ⟨0, 0⟩

/-- The profile is not looked at. Here as in all that follows there is memory
for every string. -/
def zenohPicoGenerateTopicInfo (name : CString) (_qos : RmwQosProfile) (type hash : CString) :
    Except Failure ZenohPicoTopicInfo := do
  let qosKey ← qosToKeyexpr true (some testQosProfile)
  .ok ⟨name, type, hash, qosKey⟩

def zenohPicoGenerateEntity (node : NodeData) (id : Nat) (type : ZenohPicoEntityType)
    (topicInfo : ZenohPicoTopicInfo) : ZenohPicoEntity where
  zid := node.zid
  id := id
  nid := node.id
  type := type
  nodeInfo := some node.nodeInfo
  topicInfo := some topicInfo

/-- Nobody looks at the result of a conversion, and after an error the string
is one that was never written. -/
def ignoreResult (converted : Except Failure CString) : Except Failure CString :=
  match converted with
  | .ok value => .ok value
  | .error _ => .error .undefined

def zenohPicoGenerateTopicEntity (node : NodeData) (id : Nat) (topicName : CString)
    (typeSupport : TypeSupport) (qosProfile : RmwQosProfile) (type : ZenohPicoEntityType) :
    Except Failure ZenohPicoEntity := do
  let hashData ← ignoreResult (convertHash true typeSupport.typeHash)
  let typeName ← ignoreResult (convertMessageType true typeSupport.callbacks)
  let topicInfo ← zenohPicoGenerateTopicInfo topicName qosProfile typeName hashData
  .ok (zenohPicoGenerateEntity node id type topicInfo)

def zenohPicoGenerateServiceEntity (node : NodeData) (id : Nat) (topicName : CString)
    (typeSupport : TypeSupport) (qosProfile : RmwQosProfile) (type : ZenohPicoEntityType) :
    Except Failure ZenohPicoEntity := do
  let hashData ← ignoreResult (convertHash true typeSupport.typeHash)
  let typeName ← ignoreResult (convertClientType true typeSupport.callbacks)
  let topicInfo ← zenohPicoGenerateTopicInfo topicName qosProfile typeName hashData
  .ok (zenohPicoGenerateEntity node id type topicInfo)

structure EndpointData where
  entity : ZenohPicoEntity
  livelinessKey : CString
  topicKey : CString
  qosProfile : RmwQosProfile

def generateKeys (node : NodeData) (entity : ZenohPicoEntity) (qosProfile : RmwQosProfile) :
    Except Failure EndpointData := do
  let livelinessKey ← generateLiveliness true entity
  let topicInfo ← defined entity.topicInfo
  let topicKey ← rosTopicNameToZenohKey true node.nodeInfo.domain topicInfo.name topicInfo.type
    topicInfo.hash
  .ok ⟨entity, livelinessKey, topicKey, qosProfile⟩

def zenohPicoGeneratePublisherData (node : NodeData) (id : Nat) (topicName : CString)
    (typeSupport : TypeSupport) (qosProfile : RmwQosProfile) : Except Failure EndpointData := do
  let entity ← zenohPicoGenerateTopicEntity node id topicName typeSupport qosProfile .publisher
  generateKeys node entity qosProfile

def zenohPicoGenerateSubscriptionData (node : NodeData) (id : Nat) (topicName : CString)
    (typeSupport : TypeSupport) (qosProfile : RmwQosProfile) : Except Failure EndpointData := do
  let entity ← zenohPicoGenerateTopicEntity node id topicName typeSupport qosProfile .subscription
  generateKeys node entity qosProfile

def zenohPicoGenerateServiceData (node : NodeData) (id : Nat) (topicName : CString)
    (typeSupport : TypeSupport) (qosProfile : RmwQosProfile) (serviceType : ZenohPicoEntityType) :
    Except Failure EndpointData := do
  let entity ← zenohPicoGenerateServiceEntity node id topicName typeSupport qosProfile serviceType
  generateKeys node entity qosProfile

def generateData : Kind → NodeData → Nat → CString → TypeSupport → RmwQosProfile →
    Except Failure EndpointData
  | .publisher => zenohPicoGeneratePublisherData
  | .subscription => zenohPicoGenerateSubscriptionData
  | .service => fun node id name typeSupport qos =>
      zenohPicoGenerateServiceData node id name typeSupport qos .service
  | .client => fun node id name typeSupport qos =>
      zenohPicoGenerateServiceData node id name typeSupport qos .client

def entityType : Kind → ZenohPicoEntityType
  | .publisher => .publisher
  | .subscription => .subscription
  | .service => .service
  | .client => .client

def convertType (kind : Kind) (callbacks : MessageNames) : Except Failure CString :=
  match kind with
  | .publisher | .subscription => convertMessageType true callbacks
  | .service | .client => convertClientType true callbacks

def endpointValues (kind : Kind) (node : NodeData) (id : Nat) (topicName typeName hashData : CString) : List Value :=
  [.string adminSpace, .loanString node.nodeInfo.domain, .loanString node.zid, .size node.id, .size id,
    .string (convEntityType (entityType kind)), .loanString node.nodeInfo.enclave,
    .loanString node.nodeInfo.ns, .loanString node.nodeInfo.name, .loanString topicName,
    .loanString typeName, .loanString hashData]

def valueLength : Value → Nat
  | .size value => (decimal (intOfSize value)).length
  | .string value | .loanString value => min value.chars.length 127

/-- Every value with the delimiter behind it, and the encoding of the test
profile. -/
def livelinessLength (kind : Kind) (node : NodeData) (id : Nat) (topicName typeName hashData : CString) : Nat :=
  ((endpointValues kind node id topicName typeName hashData).map fun v => valueLength v + 1).sum + 13

def qosComponent (key : CString) : Option (List Char) := (key.chars.splitOn '/')[12]?

def Advertises (data : EndpointData) (qos : RmwQosProfile) : Prop :=
  ∃ text, qosToKeyexpr true (some qos) = .ok text ∧ qosComponent data.livelinessKey = some text.chars

def SameInts (p q : RmwQosProfile) : Prop := (qosNumbers p).map intOfSize = (qosNumbers q).map intOfSize

instance (p q : RmwQosProfile) : Decidable (SameInts p q) :=
  inferInstanceAs (Decidable ((qosNumbers p).map intOfSize = (qosNumbers q).map intOfSize))

theorem valueText_injective : Function.Injective valueText := by
  intro v w h
  have hzero : v = 0 ↔ w = 0 := by rw [valueText_eq_nil, valueText_eq_nil, h]
  by_cases hv : v = 0
  · rw [hv, hzero.mp hv]
  · have hw : w ≠ 0 := fun hw => hv (hzero.mpr hw)
    rw [valueText, valueText, if_neg hv, if_neg hw] at h
    exact decimal_injective h

theorem qosText_inj {p q : RmwQosProfile} : qosText p = qosText q ↔ SameInts p q := by
  constructor
  · intro h
    have hsplit := congrArg (fun text : List Char => ((text.splitOn ':').map (·.splitOn ',')).flatten) h
    simp only [qosText, qosPieces, fieldPieces_split] at hsplit
    exact List.map_injective_iff.mpr valueText_injective hsplit
  · intro h
    simp only [SameInts, qosNumbers, List.map_cons, List.cons.injEq] at h
    obtain ⟨ha, hb, hc, hd, he, hf, hg, hh, hi, hj, hk, -⟩ := h
    rw [qosText, qosText, qosPieces, qosPieces, ha, hb, hc, hd, he, hf, hg, hh, hi, hj, hk]

theorem fieldPieces_comma (a b c d e f g h i j k : Int) :
    ((fieldPieces a b c d e f g h i j k).flatMap Piece.text).count ',' = 5 := by
  have hnone : ∀ v : Int, (valueText v).count ',' = 0 :=
    fun v => List.count_eq_zero.mpr (valueText_notMem (by decide) (by decide) v)
  simp [fieldPieces, Piece.text, hnone]

theorem qosText_comma (qos : RmwQosProfile) : (qosText qos).count ',' = 5 := by
  rw [qosText, qosPieces, fieldPieces_comma]

theorem qosText_test : qosText testQosProfile =
    [':', '2', ':', ',', '1', '0', ':', ',', ':', ',', ':', ',', ','] := by
  decide +kernel

theorem testQosProfile_fits : QosKeyexpr.Fits testQosProfile := by decide +kernel

/-- The last comma is needed, so that no encoding is a part of the one that is
sent. -/
theorem length_of_take {qos : RmwQosProfile} {m : Nat} (h : (qosText testQosProfile).take m = qosText qos) :
    13 ≤ m := by
  by_contra hm
  have hsub : (qosText testQosProfile).take m <+: (qosText testQosProfile).take 12 :=
    List.take_prefix_take_left (by omega)
  have hcount := hsub.sublist.count_le ','
  rw [h, qosText_comma, qosText_test] at hcount
  exact absurd hcount (by decide)

theorem generateTopicInfo_eq (name : CString) (qos : RmwQosProfile) (type hash : CString) :
    ∃ encoding : CString, encoding.chars = qosText testQosProfile ∧
      zenohPicoGenerateTopicInfo name qos type hash = .ok ⟨name, type, hash, encoding⟩ := by
  refine ⟨⟨qosText testQosProfile, nul_notMem_qosText testQosProfile⟩, by dsimp only, ?_⟩
  rw [zenohPicoGenerateTopicInfo, qosToKeyexpr_eq true testQosProfile_fits, if_pos rfl, ok_bind]

theorem ignoreResult_ok {converted : Except Failure CString} {value : CString}
    (h : ignoreResult converted = .ok value) : converted = .ok value := by
  cases converted with
  | error e => cases h
  | ok v => exact h

theorem entity_cases {node : NodeData} {id : Nat} {topicName : CString} {qos : RmwQosProfile}
    {type : ZenohPicoEntityType} {hash name : Except Failure CString} {entity : ZenohPicoEntity}
    (h : (do
      let hashData ← ignoreResult hash
      let typeName ← ignoreResult name
      let topicInfo ← zenohPicoGenerateTopicInfo topicName qos typeName hashData
      .ok (zenohPicoGenerateEntity node id type topicInfo)) = .ok entity) :
    ∃ typeName hashData encoding, name = .ok typeName ∧ hash = .ok hashData ∧
      encoding.chars = qosText testQosProfile ∧
      entity = zenohPicoGenerateEntity node id type ⟨topicName, typeName, hashData, encoding⟩ := by
  obtain ⟨hashData, hhash, h⟩ := bind_ok h
  obtain ⟨typeName, hname, h⟩ := bind_ok h
  obtain ⟨topicInfo, htopic, h⟩ := bind_ok h
  obtain ⟨encoding, hencoding, heq⟩ := generateTopicInfo_eq topicName qos typeName hashData
  rw [heq] at htopic
  cases htopic
  cases h
  exact ⟨typeName, hashData, encoding, ignoreResult_ok hname, ignoreResult_ok hhash, hencoding, rfl⟩

structure Generated (node : NodeData) (qos : RmwQosProfile) (topicInfo : ZenohPicoTopicInfo)
    (data : EndpointData) : Prop where
  nodeInfo_eq : data.entity.nodeInfo = some node.nodeInfo
  topicInfo_eq : data.entity.topicInfo = some topicInfo
  encoding : topicInfo.qos.chars = qosText testQosProfile
  key : generateLiveliness true data.entity = .ok data.livelinessKey
  stored : data.qosProfile = qos

theorem generateKeys_generated {node : NodeData} {qos : RmwQosProfile} {data : EndpointData} {id : Nat}
    {type : ZenohPicoEntityType} {topicInfo : ZenohPicoTopicInfo}
    (hqos : topicInfo.qos.chars = qosText testQosProfile)
    (h : generateKeys node (zenohPicoGenerateEntity node id type topicInfo) qos = .ok data) :
    data.entity = zenohPicoGenerateEntity node id type topicInfo ∧ Generated node qos topicInfo data := by
  obtain ⟨livelinessKey, hkey, h⟩ := bind_ok h
  obtain ⟨info, -, h⟩ := bind_ok h
  obtain ⟨topicKey, -, h⟩ := bind_ok h
  cases h
  exact ⟨rfl, rfl, rfl, hqos, hkey, rfl⟩

theorem generateData_generated {kind : Kind} {node : NodeData} {id : Nat} {topicName : CString}
    {typeSupport : TypeSupport} {qos : RmwQosProfile} {data : EndpointData}
    (h : generateData kind node id topicName typeSupport qos = .ok data) :
    ∃ typeName hashData encoding, convertType kind typeSupport.callbacks = .ok typeName ∧
      convertHash true typeSupport.typeHash = .ok hashData ∧
      data.entity =
        zenohPicoGenerateEntity node id (entityType kind) ⟨topicName, typeName, hashData, encoding⟩ ∧
      Generated node qos ⟨topicName, typeName, hashData, encoding⟩ data := by
  cases kind with
  | publisher | subscription | service | client =>
      obtain ⟨entity, hentity, h⟩ := bind_ok h
      obtain ⟨typeName, hashData, encoding, htype, hhash, hencoding, rfl⟩ := entity_cases hentity
      obtain ⟨hentity, hgen⟩ := generateKeys_generated hencoding h
      exact ⟨typeName, hashData, encoding, htype, hhash, hentity, hgen⟩

theorem generateData_profile {kind : Kind} {node : NodeData} {id : Nat} {topicName : CString}
    {typeSupport : TypeSupport} {qos : RmwQosProfile} {data : EndpointData}
    (h : generateData kind node id topicName typeSupport qos = .ok data) (qos' : RmwQosProfile) :
    generateData kind node id topicName typeSupport qos' = .ok { data with qosProfile := qos' } := by
  have hkeys : ∀ {entity : ZenohPicoEntity}, generateKeys node entity qos = .ok data →
      generateKeys node entity qos' = .ok { data with qosProfile := qos' } := by
    intro entity hdata
    obtain ⟨livelinessKey, hliveliness, hdata⟩ := bind_ok hdata
    obtain ⟨topicInfo, htopic, hdata⟩ := bind_ok hdata
    obtain ⟨topicKey, hros, hdata⟩ := bind_ok hdata
    cases hdata
    rw [generateKeys, hliveliness, ok_bind, htopic, ok_bind, hros, ok_bind]
  have htopic : ∀ type, zenohPicoGenerateTopicEntity node id topicName typeSupport qos' type =
      zenohPicoGenerateTopicEntity node id topicName typeSupport qos type := fun _ => rfl
  have hservice : ∀ type, zenohPicoGenerateServiceEntity node id topicName typeSupport qos' type =
      zenohPicoGenerateServiceEntity node id topicName typeSupport qos type := fun _ => rfl
  cases kind with
  | publisher =>
      obtain ⟨entity, hentity, h⟩ := bind_ok h
      rw [generateData, zenohPicoGeneratePublisherData, htopic, hentity, ok_bind, hkeys h]
  | subscription =>
      obtain ⟨entity, hentity, h⟩ := bind_ok h
      rw [generateData, zenohPicoGenerateSubscriptionData, htopic, hentity, ok_bind, hkeys h]
  | service | client =>
      obtain ⟨entity, hentity, h⟩ := bind_ok h
      rw [generateData]
      dsimp only
      rw [zenohPicoGenerateServiceData, hservice, hentity, ok_bind, hkeys h]

def frontValues (topicInfo : ZenohPicoTopicInfo) : List Value :=
  [.loanString topicInfo.name, .loanString topicInfo.type, .loanString topicInfo.hash]

def frontKey (entity : ZenohPicoEntity) (nodeInfo : ZenohPicoNodeInfo) (topicInfo : ZenohPicoTopicInfo) :
    List Char :=
  (Value.string adminSpace).cut ++ (nodeValues entity nodeInfo ++ frontValues topicInfo).flatMap
    fun v => '/' :: v.cut

theorem cutKey_front {entity : ZenohPicoEntity} (nodeInfo : ZenohPicoNodeInfo)
    {topicInfo : ZenohPicoTopicInfo} (h : entity.topicInfo = some topicInfo) :
    cutKey entity nodeInfo =
      frontKey entity nodeInfo topicInfo ++ '/' :: (Value.loanString topicInfo.qos).cut := by
  rw [cutKey, values, h, List.map_cons, intercalate_cons, Option.map_some, Option.getD_some, topicValues,
    frontKey, frontValues]
  simp

theorem slash_count (parts : List Value) : (parts.flatMap fun v => '/' :: v.cut).count '/' = parts.length := by
  induction parts with
  | nil => rfl
  | cons v parts ih =>
      have hnone : v.cut.count '/' = 0 := List.count_eq_zero.mpr fun h => (cut_chars h).1 rfl
      rw [List.flatMap_cons, List.cons_append, List.count_cons_self, List.count_append, hnone, ih,
        List.length_cons]
      omega

theorem frontKey_count (entity : ZenohPicoEntity) (nodeInfo : ZenohPicoNodeInfo)
    (topicInfo : ZenohPicoTopicInfo) : (frontKey entity nodeInfo topicInfo).count '/' + 1 = 12 := by
  have hadmin : (Value.string adminSpace).cut.count '/' = 0 :=
    List.count_eq_zero.mpr fun h => (cut_chars h).1 rfl
  rw [frontKey, List.count_append, hadmin, slash_count]
  rfl

theorem qos_cut {topicInfo : ZenohPicoTopicInfo} (h : topicInfo.qos.chars = qosText testQosProfile) :
    (Value.loanString topicInfo.qos).cut = qosText testQosProfile := by
  change mangled (topicInfo.qos.chars.take 127) = _
  rw [h, qosText_test]
  rfl

theorem Generated.qosComponent_eq {node : NodeData} {qos : RmwQosProfile} {topicInfo : ZenohPicoTopicInfo}
    {data : EndpointData} (h : Generated node qos topicInfo data) :
    qosComponent data.livelinessKey =
      if 254 ≤ (frontKey data.entity node.nodeInfo topicInfo).length then none
      else some ((qosText testQosProfile).take
        (254 - (frontKey data.entity node.nodeInfo topicInfo).length - 1)) := by
  have hlast : '/' ∉ (Value.loanString topicInfo.qos).cut := fun hm => (cut_chars hm).1 rfl
  obtain ⟨ht, hkey⟩ := generateLiveliness_eq true h.nodeInfo_eq
  rw [h.key, if_pos rfl] at hkey
  rw [Except.ok.inj hkey]
  change (((cutKey data.entity node.nodeInfo).take 254).splitOn '/')[12]? = _
  rw [cutKey_front node.nodeInfo h.topicInfo_eq, ← frontKey_count data.entity node.nodeInfo topicInfo,
    splitOn_take_last hlast, qos_cut h.encoding]

theorem Generated.cutKey_length {node : NodeData} {qos : RmwQosProfile} {topicInfo : ZenohPicoTopicInfo}
    {data : EndpointData} (h : Generated node qos topicInfo data) :
    (cutKey data.entity node.nodeInfo).length =
      (frontKey data.entity node.nodeInfo topicInfo).length + 14 := by
  rw [cutKey_front node.nodeInfo h.topicInfo_eq, List.length_append, List.length_cons, qos_cut h.encoding, qosText_test]
  rfl

theorem Generated.advertises_iff {node : NodeData} {qos : RmwQosProfile} {topicInfo : ZenohPicoTopicInfo}
    {data : EndpointData} (h : Generated node qos topicInfo data) (hfits : QosKeyexpr.Fits qos) :
    Advertises data qos ↔
      SameInts testQosProfile qos ∧ (cutKey data.entity node.nodeInfo).length ≤ 254 := by
  have hcomponent := h.qosComponent_eq
  have hlength := h.cutKey_length
  have hall : (qosText testQosProfile).length = 13 := by rw [qosText_test]; rfl
  have htext : Advertises data qos ↔ qosComponent data.livelinessKey = some (qosText qos) := by
    rw [Advertises, qosToKeyexpr_eq true hfits, if_pos rfl]
    simp
  rw [htext, hcomponent, ← qosText_inj]
  split
  · rename_i hlong
    simp only [reduceCtorEq, false_iff, not_and]
    omega
  · rw [Option.some.injEq]
    constructor
    · intro htake
      have hm := length_of_take htake
      rw [List.take_of_length_le (by omega)] at htake
      exact ⟨htake, by omega⟩
    · rintro ⟨hsame, hshort⟩
      rw [List.take_of_length_le (by omega), hsame]

theorem valueLength_eq (v : Value) : v.cut.length = valueLength v := by
  have hstring : ∀ s : CString, (mangled (s.chars.take 127)).length = min s.chars.length 127 := by
    intro s
    rw [mangled, List.length_map, List.length_take, min_comm]
  cases v with
  | size value => rfl
  | string value => exact hstring value
  | loanString value => exact hstring value

theorem frontKey_length (entity : ZenohPicoEntity) (nodeInfo : ZenohPicoNodeInfo)
    (topicInfo : ZenohPicoTopicInfo) :
    (frontKey entity nodeInfo topicInfo).length + 1 =
      ((.string adminSpace :: (nodeValues entity nodeInfo ++ frontValues topicInfo)).map
        fun v => valueLength v + 1).sum := by
  rw [frontKey, List.length_append, List.length_flatMap, List.map_cons, List.sum_cons, ← valueLength_eq]
  simp only [List.length_cons, valueLength_eq]
  omega

theorem Generated.livelinessLength_eq {kind : Kind} {node : NodeData} {id : Nat} {qos : RmwQosProfile}
    {topicInfo : ZenohPicoTopicInfo} {data : EndpointData} (h : Generated node qos topicInfo data)
    (hentity : data.entity = zenohPicoGenerateEntity node id (entityType kind) topicInfo) :
    (cutKey data.entity node.nodeInfo).length =
      livelinessLength kind node id topicInfo.name topicInfo.type topicInfo.hash := by
  have hvalues : endpointValues kind node id topicInfo.name topicInfo.type topicInfo.hash =
      .string adminSpace :: (nodeValues data.entity node.nodeInfo ++ frontValues topicInfo) := by
    rw [hentity]
    rfl
  rw [h.cutKey_length, livelinessLength, hvalues, ← frontKey_length]

/-- The key of an endpoint shows its profile exactly if that has the values of
the test profile and nothing of the key is cut off. -/
theorem advertised_qos_iff {kind : Kind} {node : NodeData} {id : Nat} {topicName : CString}
    {typeSupport : TypeSupport} {qos : RmwQosProfile} {data : EndpointData}
    (h : generateData kind node id topicName typeSupport qos = .ok data) (hfits : QosKeyexpr.Fits qos) :
    Advertises data qos ↔ SameInts testQosProfile qos ∧
      ∃ typeName hashData, convertType kind typeSupport.callbacks = .ok typeName ∧
        convertHash true typeSupport.typeHash = .ok hashData ∧
        livelinessLength kind node id topicName typeName hashData ≤ 254 := by
  obtain ⟨typeName, hashData, encoding, htype, hhash, hentity, hgen⟩ := generateData_generated h
  rw [hgen.advertises_iff hfits, hgen.livelinessLength_eq hentity]
  refine and_congr_right fun _ => ⟨fun hle => ⟨typeName, hashData, htype, hhash, hle⟩, ?_⟩
  rintro ⟨typeName', hashData', htype', hhash', hle⟩
  obtain rfl := Except.ok.inj (htype.symm.trans htype')
  obtain rfl := Except.ok.inj (hhash.symm.trans hhash')
  exact hle

theorem generateKeys_eq {node : NodeData} (qos : RmwQosProfile) {id : Nat} {type : ZenohPicoEntityType}
    {topicInfo : ZenohPicoTopicInfo} {livelinessKey topicKey : CString}
    (hliveliness : generateLiveliness true (zenohPicoGenerateEntity node id type topicInfo) = .ok livelinessKey)
    (htopic : rosTopicNameToZenohKey true node.nodeInfo.domain topicInfo.name topicInfo.type topicInfo.hash =
      .ok topicKey) :
    generateKeys node (zenohPicoGenerateEntity node id type topicInfo) qos =
      .ok ⟨zenohPicoGenerateEntity node id type topicInfo, livelinessKey, topicKey, qos⟩ := by
  have hinfo : (zenohPicoGenerateEntity node id type topicInfo).topicInfo = some topicInfo := rfl
  rw [generateKeys, hliveliness, ok_bind, hinfo, defined_some, ok_bind, htopic, ok_bind]

theorem publisherData_eq {node : NodeData} {id : Nat} {topicName : CString} {typeSupport : TypeSupport}
    {qos : RmwQosProfile} {entity : ZenohPicoEntity} {data : EndpointData}
    (hentity : zenohPicoGenerateTopicEntity node id topicName typeSupport qos .publisher = .ok entity)
    (hdata : generateKeys node entity qos = .ok data) :
    generateData .publisher node id topicName typeSupport qos = .ok data := by
  rw [generateData, zenohPicoGeneratePublisherData, hentity, ok_bind, hdata]

open EndpointMatching in
theorem publisher_generates {e : Endpoint} (he : Matchable e) {node : NodeData}
    (hdomain : node.nodeInfo.domain.chars = decimal e.domainId) (id : Nat) (qos : RmwQosProfile) :
    ∃ data, generateData .publisher node id e.topicName
        ⟨e.typeHash, ⟨e.messageNamespace, some e.messageName⟩⟩ qos = .ok data ∧
      topicKey e = .ok data.topicKey := by
  obtain ⟨hk, hkey⟩ := topicKey_eq he
  obtain ⟨hh, hhash⟩ := convertHash_eq true e.typeHash
  obtain ⟨ht, htype⟩ := convertMessageType_eq true e.messageNamespace e.messageName he.typeFits
  let typeText : List Char := typeName e.messageNamespace.chars e.messageName.chars
  obtain ⟨encoding, -, htopic⟩ := generateTopicInfo_eq e.topicName qos ⟨typeText, ht⟩ ⟨hashText e.typeHash, hh⟩
  have hnode : (zenohPicoGenerateEntity node id .publisher ⟨e.topicName, ⟨typeText, ht⟩,
      ⟨hashText e.typeHash, hh⟩, encoding⟩).nodeInfo = some node.nodeInfo := rfl
  obtain ⟨hl, hliveliness⟩ := generateLiveliness_eq true hnode
  have hne : e.topicName.chars ≠ [] := by
    intro hnil
    have hhead := he.leadingSlash
    rw [hnil] at hhead
    cases hhead
  have hfits : (TopicKey.wholeKey node.nodeInfo.domain.chars e.topicName.chars typeText
      (hashText e.typeHash)).length ≤ 255 := by
    rw [hdomain]
    exact he.keyFits
  have hros := rosTopicNameToZenohKey_fits true node.nodeInfo.domain ⟨typeText, ht⟩
    ⟨hashText e.typeHash, hh⟩ hne hfits
  rw [if_pos rfl] at hhash htype hliveliness hros
  have hentity : zenohPicoGenerateTopicEntity node id e.topicName
      ⟨e.typeHash, ⟨e.messageNamespace, some e.messageName⟩⟩ qos .publisher =
        .ok (zenohPicoGenerateEntity node id .publisher ⟨e.topicName, ⟨typeText, ht⟩,
          ⟨hashText e.typeHash, hh⟩, encoding⟩) := by
    simp only [zenohPicoGenerateTopicEntity, hhash, htype, ignoreResult, ok_bind]
    rw [htopic, ok_bind]
  refine ⟨_, publisherData_eq hentity (generateKeys_eq qos hliveliness hros), ?_⟩
  rw [hkey]
  apply congrArg Except.ok
  apply CString.ext_chars
  change e.key = TopicKey.wholeKey node.nodeInfo.domain.chars _ _ _
  rw [hdomain]
  rfl

def talkerData : NodeData := ⟨(talker 0).zid, 0, talkerNode⟩

def stringSupport : TypeSupport :=
  ⟨(EndpointMatching.chatter 0).typeHash, ⟨(EndpointMatching.chatter 0).messageNamespace,
    some (EndpointMatching.chatter 0).messageName⟩⟩

theorem chatter_generates (qos : RmwQosProfile) : ∃ data,
    generateData .publisher talkerData 1 (EndpointMatching.chatter 0).topicName stringSupport qos = .ok data := by
  have hdomain : talkerData.nodeInfo.domain.chars = decimal (EndpointMatching.chatter 0).domainId := rfl
  obtain ⟨data, hdata, -⟩ := publisher_generates (EndpointMatching.chatter_matchable 0 (by decide)) hdomain 1 qos
  exact ⟨data, hdata⟩

theorem chatter_advertised_iff : ∃ data,
    generateData .publisher talkerData 1 (EndpointMatching.chatter 0).topicName stringSupport (reliable 10) =
        .ok data ∧
      (Advertises data (reliable 10) ↔ SameInts testQosProfile (reliable 10) ∧
        ∃ typeName hashData, convertType .publisher stringSupport.callbacks = .ok typeName ∧
          convertHash true stringSupport.typeHash = .ok hashData ∧
          livelinessLength .publisher talkerData 1 (EndpointMatching.chatter 0).topicName typeName hashData ≤
            254) := by
  obtain ⟨data, hdata⟩ := chatter_generates (reliable 10)
  exact ⟨data, hdata, advertised_qos_iff hdata reliable_encodable.1.fits⟩

/-- Two publishers with different encodings advertise the same, which is the
encoding of neither. -/
theorem reliable_unadvertised : ∃ ten zero,
    generateData .publisher talkerData 1 (EndpointMatching.chatter 0).topicName stringSupport (reliable 10) =
        .ok ten ∧
      generateData .publisher talkerData 1 (EndpointMatching.chatter 0).topicName stringSupport (reliable 0) =
        .ok zero ∧
      qosText (reliable 10) ≠ qosText (reliable 0) ∧
      qosComponent ten.livelinessKey = qosComponent zero.livelinessKey ∧
      ¬Advertises ten (reliable 10) ∧ ¬Advertises zero (reliable 0) := by
  obtain ⟨ten, hten⟩ := chatter_generates (reliable 10)
  have hzero := generateData_profile hten (reliable 0)
  obtain ⟨_, _, _, -, -, -, hgen⟩ := generateData_generated hten
  obtain ⟨_, _, _, -, -, -, hgen'⟩ := generateData_generated hzero
  refine ⟨ten, _, hten, hzero, ?_, rfl, ?_, ?_⟩
  · rw [ne_eq, qosText_inj]
    decide +kernel
  · rw [hgen.advertises_iff reliable_encodable.1.fits]
    exact fun h => absurd h.1 (by decide +kernel)
  · rw [hgen'.advertises_iff reliable_encodable.2.fits]
    exact fun h => absurd h.1 (by decide +kernel)

end RmwZenohPico.AdvertisedQos
