import RmwZenohPico.Lib.Separated
import RmwZenohPico.RmwTypes
import RmwZenohPico.TopicKey

namespace RmwZenohPico.Liveliness

open Lib.CBuffer Lib.Separated RmwTypes TopicKey

structure ZenohPicoNodeInfo where
  domain : CString
  enclave : CString
  ns : CString
  name : CString

structure ZenohPicoTopicInfo where
  name : CString
  type : CString
  hash : CString
  qos : CString

structure ZenohPicoEntity where
  zid : CString
  id : Nat
  nid : Nat
  type : ZenohPicoEntityType
  nodeInfo : Option ZenohPicoNodeInfo
  topicInfo : Option ZenohPicoTopicInfo

def adminSpace : CString := ⟨['@', 'r', 'o', 's', '2', '_', 'l', 'v'], by decide⟩

def convEntityType : ZenohPicoEntityType → CString
  | .node => ⟨['N', 'N'], by decide⟩
  | .publisher => ⟨['M', 'P'], by decide⟩
  | .subscription => ⟨['M', 'S'], by decide⟩
  | .service => ⟨['S', 'S'], by decide⟩
  | .client => ⟨['S', 'C'], by decide⟩

def slashReplacement : Char := '%'

def mangleName : List Char → Nat → List Char
  | buf, 0 => buf
  | [], _ => []
  | c :: buf, size + 1 => (if c = '/' then slashReplacement else c) :: mangleName buf size

inductive Value
  | size (value : Nat)
  | string (value : CString)
  | loanString (value : CString)

def addIntValue (value : Nat) (c : Cursor) : Option (Bool × Cursor) :=
  c.append (decimal (intOfSize value))

/-- As strncpy leaves at least the last of the characters cleared, strlen
stays in the array. -/
def addStringValue (value : CString) (c : Cursor) : Option (Bool × Cursor) :=
  if c.left ≤ 0 then some (false, c)
  else do
    let worker ← store (List.replicate 128 nul) 0 (value.chars.take 127)
    let len := (← readString worker).chars.length
    let text ← readString (mangleName worker len)
    c.append text.chars

def addLoanStringValue (value : CString) (c : Cursor) : Option (Bool × Cursor) :=
  if c.left ≤ 0 then some (false, c)
  else do
    let len := min value.chars.length 127
    let worker ← store (List.replicate 128 nul) 0 (value.chars.take len)
    let text ← readString (mangleName worker len)
    c.append text.chars

def addDelimiter (c : Cursor) : Option (Bool × Cursor) := c.append ['/']

def appendValue : Value → Cursor → Option (Bool × Cursor)
  | .size value => addIntValue value
  | .string value => addStringValue value
  | .loanString value => addLoanStringValue value

/-- Each value comes with a delimiter before it. Nobody looks at the results. -/
def appendValues : List Value → Cursor → Option Cursor
  | [], c => some c
  | v :: values, c => do
      let (_, c) ← addDelimiter c
      let (_, c) ← appendValue v c
      appendValues values c

def nodeValues (entity : ZenohPicoEntity) (nodeInfo : ZenohPicoNodeInfo) : List Value :=
  [.loanString nodeInfo.domain, .loanString entity.zid, .size entity.nid, .size entity.id,
    .string (convEntityType entity.type), .loanString nodeInfo.enclave, .loanString nodeInfo.ns,
    .loanString nodeInfo.name]

def topicValues (topicInfo : ZenohPicoTopicInfo) : List Value :=
  [.loanString topicInfo.name, .loanString topicInfo.type, .loanString topicInfo.hash,
    .loanString topicInfo.qos]

def appendEntity (entity : ZenohPicoEntity) (c : Cursor) : Option Cursor :=
  match entity.nodeInfo with
  | none => some c
  | some nodeInfo => do
      let (_, c) ← appendValue (.string adminSpace) c
      let c ← appendValues (nodeValues entity nodeInfo) c
      match entity.topicInfo with
      | none => some c
      | some topicInfo => appendValues (topicValues topicInfo) c

def generateLiveliness (allocated : Bool) (entity : ZenohPicoEntity) : Except Failure CString := do
  let c ← defined (appendEntity entity (Cursor.start 256 255))
  zStringCopyFromStr allocated c.memory

/-- The nine values in the key of a node, or the thirteen in that of an
endpoint. -/
def values (entity : ZenohPicoEntity) (nodeInfo : ZenohPicoNodeInfo) : List Value :=
  .string adminSpace :: (nodeValues entity nodeInfo ++ (entity.topicInfo.map topicValues).getD [])

def mangled (text : List Char) : List Char := text.map fun c => if c = '/' then slashReplacement else c

def Value.whole : Value → List Char
  | .size value => decimal value
  | .string value => mangled value.chars
  | .loanString value => mangled value.chars

def wholeKey (entity : ZenohPicoEntity) (nodeInfo : ZenohPicoNodeInfo) : List Char :=
  ['/'].intercalate ((values entity nodeInfo).map Value.whole)

def Value.cut : Value → List Char
  | .size value => decimal (intOfSize value)
  | .string value => mangled (value.chars.take 127)
  | .loanString value => mangled (value.chars.take 127)

def cutKey (entity : ZenohPicoEntity) (nodeInfo : ZenohPicoNodeInfo) : List Char :=
  ['/'].intercalate ((values entity nodeInfo).map Value.cut)

theorem mangleName_append (text tail : List Char) :
    mangleName (text ++ tail) text.length = mangled text ++ tail := by
  induction text with
  | nil => cases tail <;> rfl
  | cons c text ih =>
      change (if c = '/' then slashReplacement else c) :: mangleName (text ++ tail) text.length = _
      rw [ih]
      rfl

theorem mangled_notMem {text : List Char} {c : Char} (hc : c ∉ text) (hne : c ≠ slashReplacement) :
    c ∉ mangled text := by
  intro h
  obtain ⟨b, hb, heq⟩ := List.mem_map.mp h
  split at heq
  · exact hne heq.symm
  · exact hc (heq ▸ hb)

theorem slash_notMem_mangled (text : List Char) : '/' ∉ mangled text := by
  intro h
  obtain ⟨b, -, heq⟩ := List.mem_map.mp h
  split at heq
  · exact absurd heq (by decide)
  · exact absurd heq (by assumption)

theorem nul_notMem_mangled (s : CString) (n : Nat) : nul ∉ mangled (s.chars.take n) :=
  mangled_notMem (fun h => s.terminated (List.mem_of_mem_take h)) (by decide)

theorem worker_eq (s : CString) :
    ∃ tail, store (List.replicate 128 nul) 0 (s.chars.take 127) = some (s.chars.take 127 ++ nul :: tail) := by
  have hfits : (s.chars.take 127).length ≤ (List.replicate 128 nul).length := by
    rw [List.length_take, List.length_replicate]
    omega
  have hstore := store_append [] hfits
  refine ⟨List.replicate (127 - (s.chars.take 127).length) nul, ?_⟩
  rw [List.drop_replicate] at hstore
  have hsucc : 128 - (s.chars.take 127).length = (127 - (s.chars.take 127).length) + 1 := by
    rw [List.length_take]
    omega
  rw [hsucc, List.replicate_succ] at hstore
  exact hstore

theorem readMangled_eq (s : CString) (tail : List Char) :
    readString (mangleName (s.chars.take 127 ++ nul :: tail) (s.chars.take 127).length) =
      some ⟨mangled (s.chars.take 127), nul_notMem_mangled s 127⟩ := by
  rw [mangleName_append]
  exact readString_written ⟨tail, rfl⟩ _

theorem append_full {c : Cursor} (h : c.left ≤ 0) (text : List Char) : c.append text = some (false, c) :=
  if_pos h

theorem addStringValue_eq (value : CString) (c : Cursor) :
    addStringValue value c = c.append (mangled (value.chars.take 127)) := by
  unfold addStringValue
  split
  · rename_i h
    rw [append_full h]
  · obtain ⟨tail, hworker⟩ := worker_eq value
    have hwritten : Written (value.chars.take 127 ++ nul :: tail) (value.chars.take 127) := ⟨tail, rfl⟩
    have hread := readString_written hwritten
      (fun h => value.terminated (List.mem_of_mem_take h))
    simp only [hworker, hread, readMangled_eq, Option.bind_eq_bind, Option.bind_some]

theorem addLoanStringValue_eq (value : CString) (c : Cursor) :
    addLoanStringValue value c = c.append (mangled (value.chars.take 127)) := by
  unfold addLoanStringValue
  split
  · rename_i h
    rw [append_full h]
  · have htake : value.chars.take (min value.chars.length 127) = value.chars.take 127 := by
      rw [List.take_eq_take_iff]
      omega
    have hlen : min value.chars.length 127 = (value.chars.take 127).length := by
      rw [List.length_take, Nat.min_comm]
    obtain ⟨tail, hworker⟩ := worker_eq value
    simp only [htake, hworker, Option.bind_eq_bind, Option.bind_some]
    rw [hlen, readMangled_eq]
    rfl

theorem appendValue_eq (v : Value) (c : Cursor) : appendValue v c = c.append v.cut := by
  cases v with
  | size value => rfl
  | string value => exact addStringValue_eq value c
  | loanString value => exact addLoanStringValue_eq value c

theorem cut_length (v : Value) : v.cut.length < 2 ^ 31 := by
  have hstring : ∀ s : CString, (mangled (s.chars.take 127)).length < 2 ^ 31 := by
    intro s
    rw [mangled, List.length_map, List.length_take]
    omega
  cases v with
  | size value =>
      have hlen := decimal_length (by decide) (intOfSize_abs value)
      change (decimal (intOfSize value)).length < 2 ^ 31
      omega
  | string value => exact hstring value
  | loanString value => exact hstring value

theorem appendValues_filled {c : Cursor} {text : List Char} (values : List Value) (h : c.Filled 254 text) :
    ∃ c', appendValues values c = some c' ∧
      c'.Filled 254 (text ++ values.flatMap fun v => '/' :: v.cut) := by
  induction values generalizing c text with
  | nil => exact ⟨c, rfl, by simpa using h⟩
  | cons v values ih =>
      have hdelimiter : ['/'].length < 2 ^ 31 := by decide
      obtain ⟨b₁, c₁, hp₁, hc₁⟩ := h.append hdelimiter
      obtain ⟨b₂, c₂, hp₂, hc₂⟩ := hc₁.append (cut_length v)
      obtain ⟨c', hp', hc'⟩ := ih hc₂
      refine ⟨c', ?_, ?_⟩
      · simp only [appendValues, addDelimiter, hp₁, appendValue_eq, hp₂, Option.bind_eq_bind,
          Option.bind_some, hp']
      · simpa using hc'

theorem intercalate_cons (v : List Char) (parts : List Value) :
    ['/'].intercalate (v :: parts.map Value.cut) = v ++ parts.flatMap fun v => '/' :: v.cut := by
  induction parts generalizing v with
  | nil => simp
  | cons w parts ih =>
      rw [List.map_cons, List.intercalate_cons_cons, ih, List.flatMap_cons]
      simp

theorem cut_chars {v : Value} {c : Char} (h : c ∈ v.cut) : c ≠ '/' ∧ c ≠ nul := by
  have hstring : ∀ s : CString, c ∈ mangled (s.chars.take 127) → c ≠ '/' ∧ c ≠ nul := by
    intro s hs
    constructor
    · rintro rfl
      exact slash_notMem_mangled _ hs
    · rintro rfl
      exact nul_notMem_mangled s 127 hs
  cases v with
  | size value => exact decimal_chars h
  | string value => exact hstring value h
  | loanString value => exact hstring value h

theorem slash_notMem_whole (v : Value) : '/' ∉ v.whole := by
  cases v with
  | size value => exact fun h => (decimal_chars h).1 rfl
  | string value => exact slash_notMem_mangled _
  | loanString value => exact slash_notMem_mangled _

theorem nul_notMem_cutKey (entity : ZenohPicoEntity) (nodeInfo : ZenohPicoNodeInfo) :
    nul ∉ cutKey entity nodeInfo := by
  intro h
  rw [cutKey, values, List.map_cons, intercalate_cons] at h
  rcases List.mem_append.mp h with h | h
  · exact (cut_chars h).2 rfl
  · obtain ⟨v, -, hv⟩ := List.mem_flatMap.mp h
    rcases List.mem_cons.mp hv with hv | hv
    · exact absurd hv (by decide)
    · exact (cut_chars hv).2 rfl

theorem appendEntity_filled {entity : ZenohPicoEntity} {nodeInfo : ZenohPicoNodeInfo}
    (h : entity.nodeInfo = some nodeInfo) :
    ∃ c, appendEntity entity (Cursor.start 256 255) = some c ∧ c.Filled 254 (cutKey entity nodeInfo) := by
  have hstart : (Cursor.start 256 255).Filled 254 [] := Cursor.start_filled (by decide) (by decide)
  obtain ⟨b₁, c₁, hp₁, hc₁⟩ := hstart.append (cut_length (.string adminSpace))
  obtain ⟨c₂, hp₂, hc₂⟩ := appendValues_filled (nodeValues entity nodeInfo) hc₁
  rw [List.nil_append] at hc₂
  cases htopic : entity.topicInfo with
  | none =>
      refine ⟨c₂, ?_, ?_⟩
      · simp only [appendEntity, h, appendValue_eq, hp₁, hp₂, htopic, Option.bind_eq_bind, Option.bind_some]
      · rw [cutKey, values, htopic, List.map_cons, intercalate_cons]
        simpa using hc₂
  | some topicInfo =>
      obtain ⟨c₃, hp₃, hc₃⟩ := appendValues_filled (topicValues topicInfo) hc₂
      refine ⟨c₃, ?_, ?_⟩
      · simp only [appendEntity, h, appendValue_eq, hp₁, hp₂, hp₃, htopic, Option.bind_eq_bind,
          Option.bind_some]
      · rw [cutKey, values, htopic, List.map_cons, intercalate_cons, Option.map_some, Option.getD_some,
          List.flatMap_append, ← List.append_assoc]
        exact hc₃

/-- The key is what there is of it after the first 254 characters are taken. -/
theorem generateLiveliness_eq (allocated : Bool) {entity : ZenohPicoEntity} {nodeInfo : ZenohPicoNodeInfo}
    (h : entity.nodeInfo = some nodeInfo) :
    ∃ ht, generateLiveliness allocated entity =
      if allocated then .ok ⟨(cutKey entity nodeInfo).take 254, ht⟩ else .error .error := by
  have ht : nul ∉ (cutKey entity nodeInfo).take 254 :=
    fun hm => nul_notMem_cutKey entity nodeInfo (List.mem_of_mem_take hm)
  obtain ⟨c, hc, hfilled⟩ := appendEntity_filled h
  refine ⟨ht, ?_⟩
  rw [generateLiveliness, hc]
  exact zStringCopyFromStr_written allocated hfilled.written ht

def Value.Kept : Value → Prop
  | .size value => value < 2 ^ 31
  | .string value => value.chars.length ≤ 127
  | .loanString value => value.chars.length ≤ 127

instance (v : Value) : Decidable v.Kept :=
  match v with
  | .size value => inferInstanceAs (Decidable (value < 2 ^ 31))
  | .string value => inferInstanceAs (Decidable (value.chars.length ≤ 127))
  | .loanString value => inferInstanceAs (Decidable (value.chars.length ≤ 127))

theorem Value.Kept.cut_eq {v : Value} (h : v.Kept) : v.cut = v.whole := by
  cases v with
  | size value => exact congrArg decimal (intOfSize_of_lt h)
  | string value => exact congrArg mangled (List.take_of_length_le h)
  | loanString value => exact congrArg mangled (List.take_of_length_le h)

theorem kept_of_prefix {v : Value} (h : v.whole <+: v.cut) : v.Kept := by
  have hstring : ∀ s : CString, mangled s.chars <+: mangled (s.chars.take 127) →
      s.chars.length ≤ 127 := by
    intro s hs
    have hlen := hs.length_le
    simp only [mangled, List.length_map, List.length_take] at hlen
    omega
  cases v with
  | size value => exact lt_of_decimal_prefix h
  | string value => exact hstring value h
  | loanString value => exact hstring value h

structure Fits (entity : ZenohPicoEntity) (nodeInfo : ZenohPicoNodeInfo) : Prop where
  values : ∀ v ∈ values entity nodeInfo, v.Kept
  key : (wholeKey entity nodeInfo).length ≤ 254

/-- An error or the whole key, whether or not there is memory for it. -/
def CompleteOrRefused (entity : ZenohPicoEntity) (nodeInfo : ZenohPicoNodeInfo) : Prop :=
  ∀ allocated, generateLiveliness allocated entity = .error .error ∨
    ∃ key, generateLiveliness allocated entity = .ok key ∧ key.chars = wholeKey entity nodeInfo

theorem cutKey_eq {entity : ZenohPicoEntity} {nodeInfo : ZenohPicoNodeInfo}
    (h : ∀ v ∈ values entity nodeInfo, v.Kept) : cutKey entity nodeInfo = wholeKey entity nodeInfo := by
  have hmap : (values entity nodeInfo).map Value.cut = (values entity nodeInfo).map Value.whole := by
    apply List.map_congr_left
    intro v hv
    exact (h v hv).cut_eq
  rw [cutKey, hmap, wholeKey]

theorem fits_of_take {entity : ZenohPicoEntity} {nodeInfo : ZenohPicoNodeInfo}
    (h : (cutKey entity nodeInfo).take 254 = wholeKey entity nodeInfo) : Fits entity nodeInfo := by
  have hprefix : wholeKey entity nodeInfo <+: cutKey entity nodeInfo := h ▸ List.take_prefix 254 _
  refine ⟨?_, ?_⟩
  · intro v hv
    apply kept_of_prefix
    exact joined_prefix (fun v _ => slash_notMem_whole v) (fun v _ hm => (cut_chars hm).1 rfl) hprefix v hv
  · rw [← h, List.length_take]
    omega

theorem fits_of_complete {entity : ZenohPicoEntity} {nodeInfo : ZenohPicoNodeInfo}
    (h : entity.nodeInfo = some nodeInfo) (hcomplete : CompleteOrRefused entity nodeInfo) :
    Fits entity nodeInfo := by
  obtain ⟨ht, hkey⟩ := generateLiveliness_eq true h
  rcases hcomplete true with herror | ⟨key, hok, hwhole⟩
  · rw [hkey] at herror
    cases herror
  · rw [hkey] at hok
    cases hok
    exact fits_of_take hwhole

theorem Fits.complete {entity : ZenohPicoEntity} {nodeInfo : ZenohPicoNodeInfo}
    (h : entity.nodeInfo = some nodeInfo) (hfits : Fits entity nodeInfo) :
    CompleteOrRefused entity nodeInfo := by
  intro allocated
  obtain ⟨ht, hkey⟩ := generateLiveliness_eq allocated h
  cases allocated with
  | false => exact Or.inl hkey
  | true =>
      refine Or.inr ⟨_, hkey, ?_⟩
      change (cutKey entity nodeInfo).take 254 = _
      rw [cutKey_eq hfits.values, List.take_of_length_le hfits.key]

/-- The key of an entity is complete or refused exactly if all its fields and
the key itself fit. -/
theorem liveliness_complete_or_refused {entity : ZenohPicoEntity} {nodeInfo : ZenohPicoNodeInfo}
    (h : entity.nodeInfo = some nodeInfo) : CompleteOrRefused entity nodeInfo ↔ Fits entity nodeInfo :=
  ⟨fits_of_complete h, Fits.complete h⟩

def talkerNode : ZenohPicoNodeInfo where
  domain := domainZero
  enclave := ⟨['/'], by decide⟩
  ns := ⟨['/'], by decide⟩
  name := ⟨['t', 'a', 'l', 'k', 'e', 'r'], by decide⟩

def talker (n : Nat) : ZenohPicoEntity where
  zid := ⟨List.replicate 32 'a', by decide⟩
  id := 1
  nid := 0
  type := .publisher
  nodeInfo := some talkerNode
  topicInfo := some ⟨nameOfLength n, stringType, zeroHash,
    ⟨[':', ':', ',', '1', '0', ':', ',', ':', ',', ':', ',', ','], by decide⟩⟩

theorem chatter_key_complete : CompleteOrRefused (talker 7) talkerNode :=
  (liveliness_complete_or_refused (show (talker 7).nodeInfo = some talkerNode from rfl)).mpr
    ⟨by decide +kernel, by decide +kernel⟩

/-- The key of a topic of 90 letters is cut at its end, and that of one of 128
also in its middle. -/
theorem long_liveliness_cut :
    ¬CompleteOrRefused (talker 90) talkerNode ∧ ¬CompleteOrRefused (talker 128) talkerNode := by
  have hlong : ∀ n, 254 < (wholeKey (talker n) talkerNode).length →
      ¬CompleteOrRefused (talker n) talkerNode := by
    intro n hn hcomplete
    have hnode : (talker n).nodeInfo = some talkerNode := rfl
    have hfits := fits_of_complete hnode hcomplete
    exact absurd hfits.key (Nat.not_le.mpr hn)
  exact ⟨hlong 90 (by decide +kernel), hlong 128 (by decide +kernel)⟩

end RmwZenohPico.Liveliness
