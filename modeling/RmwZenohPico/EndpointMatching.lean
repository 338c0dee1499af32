import RmwZenohPico.Lib.Separated
import RmwZenohPico.TopicKey

namespace RmwZenohPico.EndpointMatching

open Lib.CBuffer Lib.Separated TopicKey

structure Endpoint where
  domainId : Nat
  topicName : CString
  messageNamespace : CString
  messageName : CString
  typeHash : RosidlTypeHash

def topicKey (e : Endpoint) : Except Failure CString := do
  let domain ← convDomain true e.domainId
  let hash ← convertHash true e.typeHash
  let type ← convertMessageType true ⟨e.messageNamespace, some e.messageName⟩
  rosTopicNameToZenohKey true domain e.topicName type hash

def Endpoint.type (e : Endpoint) : List Char := typeName e.messageNamespace.chars e.messageName.chars

def Endpoint.key (e : Endpoint) : List Char :=
  wholeKey (decimal e.domainId) e.topicName.chars e.type (hashText e.typeHash)

structure Matchable (e : Endpoint) : Prop where
  domainId : e.domainId < 2 ^ 31
  leadingSlash : e.topicName.chars.head? = some '/'
  trailingSlash : e.topicName.chars.getLast? ≠ some '/'
  messageNamespace : '/' ∉ e.messageNamespace.chars
  messageName : ':' ∉ e.messageName.chars ∧ '/' ∉ e.messageName.chars
  typeFits : e.type.length ≤ 127
  keyFits : e.key.length ≤ 255

theorem topicKey_eq {e : Endpoint} (h : Matchable e) : ∃ ht, topicKey e = .ok ⟨e.key, ht⟩ := by
  have hne : e.topicName.chars ≠ [] := by
    intro hnil
    have hhead := h.leadingSlash
    rw [hnil] at hhead
    cases hhead
  obtain ⟨hd, hdomain⟩ := convDomain_eq true h.domainId
  obtain ⟨hh, hhash⟩ := convertHash_eq true e.typeHash
  obtain ⟨ht, htype⟩ := convertMessageType_eq true e.messageNamespace e.messageName h.typeFits
  have hkey := rosTopicNameToZenohKey_fits true ⟨decimal e.domainId, hd⟩
    ⟨typeName e.messageNamespace.chars e.messageName.chars, ht⟩ ⟨hashText e.typeHash, hh⟩ hne h.keyFits
  refine ⟨wholeKey_terminated ⟨decimal e.domainId, hd⟩ e.topicName ⟨e.type, ht⟩ ⟨hashText e.typeHash, hh⟩,
    ?_⟩
  simp only [if_true] at hdomain hhash htype hkey
  rw [topicKey, hdomain, ok_bind, hhash, ok_bind, htype, ok_bind, hkey]
  rfl

theorem slash_notMem_type {e : Endpoint} (h : Matchable e) : '/' ∉ e.type := by
  simp only [Endpoint.type, typeName, List.mem_append, not_or]
  exact ⟨⟨⟨h.messageNamespace, by decide⟩, h.messageName.2⟩, by decide⟩

theorem namePart_eq {e : Endpoint} (h : Matchable e) :
    namePart e.topicName.chars = e.topicName.chars.tail ++ ['/'] := by
  rw [namePart, if_pos h.leadingSlash, if_neg h.trailingSlash]

theorem topicName_inj {a b : Endpoint} (ha : Matchable a) (hb : Matchable b)
    (h : a.topicName.chars.tail = b.topicName.chars.tail) : a.topicName = b.topicName := by
  apply CString.ext_chars
  rw [← List.cons_head?_tail ha.leadingSlash, ← List.cons_head?_tail hb.leadingSlash, h]

theorem typeName_inj {ns ns' name name' : CString} (h : ':' ∉ name.chars) (h' : ':' ∉ name'.chars)
    (heq : typeName ns.chars name.chars = typeName ns'.chars name'.chars) : ns = ns' ∧ name = name' := by
  have hsplit : ∀ ns name : List Char, typeName ns name =
      (ns ++ [':', ':', 'd', 'd', 's', '_', ':']) ++ ':' :: (name ++ ['_']) := by
    intro ns name
    simp [typeName, ddsInfix]
  have hcolon : ∀ {name : CString}, ':' ∉ name.chars → ':' ∉ name.chars ++ ['_'] := by
    intro name hname
    rw [List.mem_append, not_or]
    exact ⟨hname, by decide⟩
  rw [hsplit, hsplit] at heq
  obtain ⟨hns, hname⟩ := last_inj (hcolon h) (hcolon h') heq
  exact ⟨CString.ext_chars (List.append_cancel_right hns),
    CString.ext_chars (List.append_cancel_right hname)⟩

theorem typeHash_inj {g h : RosidlTypeHash} (heq : hashText g = hashText h) : g = h := by
  cases g
  cases h
  have hvalue := hexBytes_injective (List.append_cancel_left heq)
  subst hvalue
  rfl

/-- The key is taken apart at its first slash and at its last two, as the name
is the only part that has slashes of its own. -/
theorem key_inj {a b : Endpoint} (ha : Matchable a) (hb : Matchable b) (h : a.key = b.key) : a = b := by
  have hdigits : ∀ n : Nat, '/' ∉ decimal n := fun n hc => absurd (natCast_isDigit hc) (by decide)
  have hhash : ∀ g : RosidlTypeHash, '/' ∉ hashText g := fun g hc => (hashText_chars hc).1 rfl
  have htail : ∀ {e : Endpoint}, Matchable e → namePart e.topicName.chars ++
      (e.type ++ '/' :: hashText e.typeHash) =
        (e.topicName.chars.tail ++ '/' :: e.type) ++ '/' :: hashText e.typeHash := by
    intro e he
    rw [namePart_eq he]
    simp
  obtain ⟨hdomain, hrest⟩ := first_inj (hdigits _) (hdigits _) h
  rw [htail ha, htail hb] at hrest
  obtain ⟨hrest, hhashes⟩ := last_inj (hhash _) (hhash _) hrest
  obtain ⟨hname, htype⟩ := last_inj (slash_notMem_type ha) (slash_notMem_type hb) hrest
  obtain ⟨hns, hmsg⟩ := typeName_inj ha.messageName.1 hb.messageName.1 htype
  have hid : a.domainId = b.domainId := by
    have hint := decimal_injective hdomain
    omega
  have htopic := topicName_inj ha hb hname
  have hhasheq := typeHash_inj hhashes
  cases a
  cases b
  simp_all

/-- Two endpoints have one key exactly if they are for the same domain, topic,
type and hash. -/
theorem keys_match {a b : Endpoint} (ha : Matchable a) (hb : Matchable b) :
    ∃ keyA keyB, topicKey a = .ok keyA ∧ topicKey b = .ok keyB ∧
      (keyA = keyB ↔ a.domainId = b.domainId ∧ a.topicName = b.topicName ∧
        a.messageNamespace = b.messageNamespace ∧ a.messageName = b.messageName ∧
        a.typeHash.value = b.typeHash.value) := by
  obtain ⟨hta, hka⟩ := topicKey_eq ha
  obtain ⟨htb, hkb⟩ := topicKey_eq hb
  refine ⟨_, _, hka, hkb, ?_⟩
  constructor
  · intro h
    obtain rfl := key_inj ha hb (congrArg CString.chars h)
    exact ⟨rfl, rfl, rfl, rfl, rfl⟩
  · rintro ⟨hdomain, htopic, hns, hname, hhash⟩
    apply CString.ext_chars
    change a.key = b.key
    simp only [Endpoint.key, Endpoint.type, hashText, hdomain, htopic, hns, hname, hhash]

theorem zeros_size : (List.replicate 32 (0 : UInt8)).length = 32 := rfl

def chatter (domainId : Nat) : Endpoint where
  domainId := domainId
  topicName := ⟨['/', 'c', 'h', 'a', 't', 't', 'e', 'r'], by decide⟩
  messageNamespace := ⟨['s', 't', 'd', '_', 'm', 's', 'g', 's', ':', ':', 'm', 's', 'g'], by decide⟩
  messageName := ⟨['S', 't', 'r', 'i', 'n', 'g'], by decide⟩
  typeHash := ⟨List.replicate 32 0, zeros_size⟩

theorem chatter_matchable (domainId : Nat) (h : domainId < 100) : Matchable (chatter domainId) where
  domainId := by
    change domainId < 2 ^ 31
    omega
  leadingSlash := rfl
  trailingSlash := by simp [chatter]
  messageNamespace := by simp [chatter]
  messageName := by simp [chatter]
  typeFits := by simp [chatter, Endpoint.type, typeName, ddsInfix]
  keyFits := by
    have hdomain : (decimal domainId).length ≤ 2 := natCast_length (by decide) h
    have hhash := hashText_length (chatter domainId).typeHash
    have htype : (chatter domainId).type.length = 28 := rfl
    have hname : (namePart (chatter domainId).topicName.chars).length = 8 := rfl
    simp only [Endpoint.key, wholeKey, List.length_append, List.length_cons, hhash, htype, hname]
    change (decimal domainId).length + _ ≤ 255
    omega

theorem chatter_keys_differ : ∃ keyA keyB,
    topicKey (chatter 0) = .ok keyA ∧ topicKey (chatter 1) = .ok keyB ∧ keyA ≠ keyB := by
  obtain ⟨keyA, keyB, hA, hB, hiff⟩ := keys_match (chatter_matchable 0 (by decide))
    (chatter_matchable 1 (by decide))
  refine ⟨keyA, keyB, hA, hB, ?_⟩
  intro h
  exact absurd (hiff.mp h).1 (by decide)

end RmwZenohPico.EndpointMatching
