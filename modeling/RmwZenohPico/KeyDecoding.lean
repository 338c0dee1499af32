import RmwZenohPico.Liveliness

namespace RmwZenohPico.KeyDecoding

open Lib.CBuffer Lib.Separated RmwTypes TopicKey Liveliness

def demangleName : List Char → Nat → List Char
  | buf, 0 => buf
  | [], _ => []
  | c :: buf, size + 1 => (if c = slashReplacement then '/' else c) :: demangleName buf size

structure TopicFields where
  name : List Char
  type : List Char
  hash : List Char
  qos : List Char

structure KeyFields where
  domain : List Char
  zid : List Char
  nid : Nat
  id : Nat
  type : List Char
  enclave : List Char
  ns : List Char
  name : List Char
  topic : Option TopicFields

def keyParts (key : List Char) : List (List Char) :=
  (key.splitOn '/').map fun part => demangleName part part.length

def readParts : List (List Char) → Option KeyFields
  | [_, domain, zid, nid, id, type, enclave, ns, name] =>
      some ⟨domain, zid, readDecimal nid, readDecimal id, type, enclave, ns, name, none⟩
  | [_, domain, zid, nid, id, type, enclave, ns, name, topicName, topicType, hash, qos] =>
      some ⟨domain, zid, readDecimal nid, readDecimal id, type, enclave, ns, name,
        some ⟨topicName, topicType, hash, qos⟩⟩
  | _ => none

def decodeKey (key : CString) : Option KeyFields := readParts (keyParts key.chars)

def topicFields (topicInfo : ZenohPicoTopicInfo) : TopicFields :=
  ⟨topicInfo.name.chars, topicInfo.type.chars, topicInfo.hash.chars, topicInfo.qos.chars⟩

def keyFields (entity : ZenohPicoEntity) (nodeInfo : ZenohPicoNodeInfo) : KeyFields where
  domain := nodeInfo.domain.chars
  zid := entity.zid.chars
  nid := entity.nid
  id := entity.id
  type := (convEntityType entity.type).chars
  enclave := nodeInfo.enclave.chars
  ns := nodeInfo.ns.chars
  name := nodeInfo.name.chars
  topic := entity.topicInfo.map topicFields

def topicStrings (topicInfo : ZenohPicoTopicInfo) : List CString :=
  [topicInfo.name, topicInfo.type, topicInfo.hash, topicInfo.qos]

def entityStrings (entity : ZenohPicoEntity) (nodeInfo : ZenohPicoNodeInfo) : List CString :=
  [nodeInfo.domain, entity.zid, nodeInfo.enclave, nodeInfo.ns, nodeInfo.name] ++
    (entity.topicInfo.map topicStrings).getD []

structure Decodable (entity : ZenohPicoEntity) (nodeInfo : ZenohPicoNodeInfo) : Prop where
  plain : ∀ s ∈ entityStrings entity nodeInfo, slashReplacement ∉ s.chars
  short : ∀ s ∈ entityStrings entity nodeInfo, s.chars.length ≤ 127
  nid : entity.nid < 2 ^ 31
  id : entity.id < 2 ^ 31
  key : (wholeKey entity nodeInfo).length ≤ 254

def valueText : Value → List Char
  | .size value => decimal value
  | .string value => value.chars
  | .loanString value => value.chars

/-- A value that is read back from its part of the key. -/
def PlainValue (v : Value) : Prop := slashReplacement ∉ valueText v ∧ v.Kept

theorem demangle_mangled {text : List Char} (h : slashReplacement ∉ text) :
    demangleName (mangled text) (mangled text).length = text := by
  induction text with
  | nil => rfl
  | cons c text ih =>
      rw [List.mem_cons, not_or] at h
      change (if (if c = '/' then slashReplacement else c) = slashReplacement then '/'
        else if c = '/' then slashReplacement else c) :: demangleName (mangled text) (mangled text).length = _
      rw [ih h.2]
      by_cases hc : c = '/'
      · rw [hc]
        rfl
      · rw [if_neg hc, if_neg (Ne.symm h.1)]

theorem mangled_eq_self {text : List Char} (h : '/' ∉ text) : mangled text = text := by
  have hsame : ∀ c ∈ text, (if c = '/' then slashReplacement else c) = c := by
    intro c hc
    apply if_neg
    rintro rfl
    exact h hc
  rw [mangled, List.map_congr_left hsame, List.map_id']

theorem demangle_whole {v : Value} (h : slashReplacement ∉ valueText v) :
    demangleName v.whole v.whole.length = valueText v := by
  cases v with
  | size value =>
      have hmangled : mangled (decimal value) = decimal value :=
        mangled_eq_self fun hc => (decimal_chars hc).1 rfl
      have hdemangled : demangleName (mangled (decimal value)) (mangled (decimal value)).length =
          decimal value := demangle_mangled h
      rwa [hmangled] at hdemangled
  | string value => exact demangle_mangled h
  | loanString value => exact demangle_mangled h

theorem plain_size {n : Nat} (h : n < 2 ^ 31) : PlainValue (.size n) := by
  refine ⟨?_, h⟩
  intro hc
  exact absurd (natCast_isDigit hc) (by decide)

theorem plain_type (type : ZenohPicoEntityType) : PlainValue (.string (convEntityType type)) := by
  cases type <;> exact ⟨by decide, by decide⟩

theorem Decodable.values_plain {entity : ZenohPicoEntity} {nodeInfo : ZenohPicoNodeInfo}
    (h : Decodable entity nodeInfo) : ∀ v ∈ values entity nodeInfo, PlainValue v := by
  have hstrings : ∀ s ∈ entityStrings entity nodeInfo, PlainValue (.loanString s) :=
    fun s hs => ⟨h.plain s hs, h.short s hs⟩
  have hadmin : PlainValue (.string adminSpace) := ⟨by decide, by decide⟩
  have htopic : (entity.topicInfo.map topicValues).getD [] =
      ((entity.topicInfo.map topicStrings).getD []).map Value.loanString := by
    cases entity.topicInfo <;> rfl
  simp only [entityStrings, List.cons_append, List.nil_append, List.forall_mem_cons] at hstrings
  obtain ⟨hdomain, hzid, henclave, hns, hname, hrest⟩ := hstrings
  simp only [values, nodeValues, htopic, List.cons_append, List.nil_append, List.forall_mem_cons,
    List.forall_mem_map]
  exact ⟨hadmin, hdomain, hzid, plain_size h.nid, plain_size h.id, plain_type entity.type, henclave, hns,
    hname, hrest⟩

theorem Decodable.fits {entity : ZenohPicoEntity} {nodeInfo : ZenohPicoNodeInfo}
    (h : Decodable entity nodeInfo) : Fits entity nodeInfo :=
  ⟨fun v hv => (h.values_plain v hv).2, h.key⟩

theorem keyParts_whole {entity : ZenohPicoEntity} {nodeInfo : ZenohPicoNodeInfo}
    (h : ∀ v ∈ values entity nodeInfo, PlainValue v) :
    keyParts (wholeKey entity nodeInfo) = (values entity nodeInfo).map valueText := by
  have hslash : ∀ part ∈ (values entity nodeInfo).map Value.whole, '/' ∉ part := by
    rw [List.forall_mem_map]
    exact fun v _ => slash_notMem_whole v
  have hsplit : (wholeKey entity nodeInfo).splitOn '/' = (values entity nodeInfo).map Value.whole :=
    List.splitOn_intercalate '/' hslash (by simp [values])
  rw [keyParts, hsplit, List.map_map]
  apply List.map_congr_left
  intro v hv
  exact demangle_whole (h v hv).1

theorem readParts_values (entity : ZenohPicoEntity) (nodeInfo : ZenohPicoNodeInfo) :
    readParts ((values entity nodeInfo).map valueText) = some (keyFields entity nodeInfo) := by
  cases htopic : entity.topicInfo with
  | none =>
      simp [values, nodeValues, htopic, valueText, readParts, keyFields, readDecimal_decimal]
  | some topicInfo =>
      simp [values, nodeValues, topicValues, htopic, valueText, readParts, keyFields, topicFields,
        readDecimal_decimal]

theorem generate_decodes {entity : ZenohPicoEntity} {nodeInfo : ZenohPicoNodeInfo}
    (hnode : entity.nodeInfo = some nodeInfo) (h : Decodable entity nodeInfo) :
    ∃ key, generateLiveliness true entity = .ok key ∧ decodeKey key = some (keyFields entity nodeInfo) := by
  obtain ⟨ht, hkey⟩ := generateLiveliness_eq true hnode
  refine ⟨_, hkey, ?_⟩
  change readParts (keyParts ((cutKey entity nodeInfo).take 254)) = _
  rw [cutKey_eq h.fits.values, List.take_of_length_le h.key, keyParts_whole h.values_plain,
    readParts_values]

theorem convEntityType_injective : Function.Injective convEntityType := by
  intro s t h
  cases s <;> cases t <;> simp [convEntityType] at h ⊢

theorem topicFields_injective : Function.Injective topicFields := by
  intro s t h
  cases s
  cases t
  simp only [topicFields, TopicFields.mk.injEq] at h
  obtain ⟨hname, htype, hhash, hqos⟩ := h
  rw [CString.ext_chars hname, CString.ext_chars htype, CString.ext_chars hhash, CString.ext_chars hqos]

theorem keyFields_inj {a b : ZenohPicoEntity} {na nb : ZenohPicoNodeInfo} (ha : a.nodeInfo = some na)
    (hb : b.nodeInfo = some nb) (h : keyFields a na = keyFields b nb) : a = b := by
  simp only [keyFields, KeyFields.mk.injEq] at h
  obtain ⟨hdomain, hzid, hnid, hid, htype, henclave, hns, hname, htopic⟩ := h
  have hnode : na = nb := by
    cases na
    cases nb
    congr 1
    · exact CString.ext_chars hdomain
    · exact CString.ext_chars henclave
    · exact CString.ext_chars hns
    · exact CString.ext_chars hname
  have htopics : a.topicInfo = b.topicInfo := Option.map_injective topicFields_injective htopic
  have htypes : a.type = b.type := convEntityType_injective (CString.ext_chars htype)
  have hzids : a.zid = b.zid := CString.ext_chars hzid
  have hnodes : a.nodeInfo = b.nodeInfo := by rw [ha, hb, hnode]
  cases a
  cases b
  simp_all

/-- The key of an entity is read back as its fields, so that no other entity
has the same key. -/
theorem key_decodes {a b : ZenohPicoEntity} {na nb : ZenohPicoNodeInfo} (ha : a.nodeInfo = some na)
    (hb : b.nodeInfo = some nb) (hda : Decodable a na) (hdb : Decodable b nb) :
    ∃ keyA keyB, generateLiveliness true a = .ok keyA ∧ generateLiveliness true b = .ok keyB ∧
      decodeKey keyA = some (keyFields a na) ∧ decodeKey keyB = some (keyFields b nb) ∧
      (keyA = keyB → a = b) := by
  obtain ⟨keyA, hkeyA, hfieldsA⟩ := generate_decodes ha hda
  obtain ⟨keyB, hkeyB, hfieldsB⟩ := generate_decodes hb hdb
  refine ⟨keyA, keyB, hkeyA, hkeyB, hfieldsA, hfieldsB, ?_⟩
  rintro rfl
  exact keyFields_inj ha hb (Option.some.inj (hfieldsA.symm.trans hfieldsB))

def talkerOnly : ZenohPicoEntity := { talker 7 with type := .node, topicInfo := none }

theorem talker_decodable : Decodable (talker 7) talkerNode where
  plain := by decide +kernel
  short := by decide +kernel
  nid := by decide
  id := by decide
  key := by decide +kernel

theorem talkerOnly_decodable : Decodable talkerOnly talkerNode where
  plain := by decide +kernel
  short := by decide +kernel
  nid := by decide
  id := by decide
  key := by decide +kernel

theorem talker_keys_decode :
    ∃ keyA keyB, generateLiveliness true (talker 7) = .ok keyA ∧
      generateLiveliness true talkerOnly = .ok keyB ∧
      decodeKey keyA = some (keyFields (talker 7) talkerNode) ∧
      decodeKey keyB = some (keyFields talkerOnly talkerNode) ∧ (keyA = keyB → talker 7 = talkerOnly) :=
  key_decodes rfl rfl talker_decodable talkerOnly_decodable

end RmwZenohPico.KeyDecoding
