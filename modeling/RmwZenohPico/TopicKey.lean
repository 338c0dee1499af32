import RmwZenohPico.Lib.CBuffer
import Mathlib.Tactic.NormNum

namespace RmwZenohPico.TopicKey

open Lib.CBuffer

variable {α : Type}

/-- How a call ends that yields no value: by an access outside of the memory
it may use, or with an error code. -/
inductive Failure
  | undefined
  | error
  deriving DecidableEq

def defined (x : Option α) : Except Failure α := x.elim (.error .undefined) .ok

def zStringCopyFromStr (allocated : Bool) (memory : List Char) : Except Failure CString := do
  let str ← defined (readString memory)
  if allocated then .ok str else .error .error

def convDomain (allocated : Bool) (domain : Nat) : Except Failure CString := do
  let memory ← defined (snprintf (List.replicate 16 nul) 0 16 (decimal (intOfSize domain)))
  zStringCopyFromStr allocated memory

/-- rosidl_type_hash_t, of which the version is not looked at. -/
structure RosidlTypeHash where
  value : List UInt8
  size : value.length = 32

def rihs01Prefix : List Char := ['R', 'I', 'H', 'S', '0', '1', '_']

def hexDigit (nibble : UInt8) : Char :=
  if nibble < 0xa then Char.ofNat ('0'.toNat + nibble.toNat)
  else Char.ofNat ('a'.toNat + (nibble - 0xa).toNat)

def convertHashLoop : List Char → Nat → List UInt8 → Option (List Char)
  | memory, _, [] => some memory
  | memory, i, byte :: value => do
      let dest : Nat := rihs01Prefix.length + i * 2
      let memory ← store memory dest [hexDigit ((byte >>> 4) &&& 0x0f)]
      let memory ← store memory (dest + 1) [hexDigit ((byte >>> 0) &&& 0x0f)]
      convertHashLoop memory (i + 1) value

def convertHash (allocated : Bool) (typeHash : RosidlTypeHash) : Except Failure CString := do
  let memory ← defined (store (List.replicate 72 nul) 0 rihs01Prefix)
  let memory ← defined (convertHashLoop memory 0 typeHash.value)
  zStringCopyFromStr allocated memory

structure MessageNames where
  messageNamespace : CString
  messageName : Option CString

def ddsInfix : List Char := [':', ':', 'd', 'd', 's', '_', ':', ':']

/-- The array is not initialised, but snprintf ends what it stores. A name
that is NULL is handed to %s. -/
def convertMessageType (allocated : Bool) (callbacks : MessageNames) : Except Failure CString :=
  match callbacks.messageName with
  | some messageName => do
      let memory ← defined (snprintf (List.replicate 128 nul) 0 128
        (callbacks.messageNamespace.chars ++ ddsInfix ++ messageName.chars ++ ['_']))
      zStringCopyFromStr allocated memory
  | none => .error .undefined

def printName (c : Cursor) (name : CString) : Except Failure Cursor :=
  if name.chars.isEmpty then .ok c
  else do
    let len := intOfSize name.chars.length
    let first ← defined (load name.chars 0)
    let c ← defined (c.print
      (if first ≠ '/' then precise len name.chars else precise (len - 1) (name.chars.drop 1)))
    let last ← defined (load name.chars (len - 1))
    if last ≠ '/' then defined (c.print ['/']) else .ok c

def rosTopicNameToZenohKey (allocated : Bool) (domain name type hash : CString) :
    Except Failure CString := do
  let c ← defined ((Cursor.start 256 256).print (precise (intOfSize domain.chars.length) domain.chars ++ ['/']))
  let c ← printName c name
  let c ← defined (c.print (precise (intOfSize type.chars.length) type.chars ++
    '/' :: precise (intOfSize hash.chars.length) hash.chars))
  zStringCopyFromStr allocated c.memory

/-- The name in a key, without one leading slash and with one at its end. -/
def namePart (name : List Char) : List Char :=
  (if name.head? = some '/' then name.tail else name) ++
    (if name.getLast? = some '/' then [] else ['/'])

def wholeKey (domain name type hash : List Char) : List Char :=
  domain ++ '/' :: (namePart name ++ (type ++ '/' :: hash))

section Lemmas

@[simp] theorem defined_some (a : α) : defined (some a) = .ok a := rfl

@[simp] theorem ok_bind {β : Type} (a : α) (f : α → Except Failure β) : (Except.ok a >>= f) = f a := rfl

theorem defined_ok {x : Option α} {a : α} (h : defined x = .ok a) : x = some a := by
  cases x with
  | none => cases h
  | some b => cases h; rfl

theorem defined_not_error (x : Option α) : defined x ≠ .error .error := by
  cases x <;> simp [defined]

theorem bind_ok {β : Type} {x : Except Failure α} {f : α → Except Failure β} {b : β}
    (h : (x >>= f) = .ok b) : ∃ a, x = .ok a ∧ f a = .ok b := by
  cases x with
  | error e => cases h
  | ok a => exact ⟨a, rfl, h⟩

theorem bind_not_error {β : Type} {x : Except Failure α} {f : α → Except Failure β}
    (hx : x ≠ .error .error) (hf : ∀ a, f a ≠ .error .error) :
    (x >>= f) ≠ .error .error := by
  cases x with
  | error e =>
      rintro ⟨⟩
      exact hx rfl
  | ok a => exact hf a

theorem zStringCopyFromStr_written {memory text : List Char} (allocated : Bool)
    (hw : Written memory text) (ht : nul ∉ text) :
    zStringCopyFromStr allocated memory = if allocated then .ok ⟨text, ht⟩ else .error .error := by
  rw [zStringCopyFromStr, readString_written hw ht]
  rfl

theorem zStringCopyFromStr_length {allocated : Bool} {memory : List Char} {s : CString}
    (h : zStringCopyFromStr allocated memory = .ok s) : s.chars.length < memory.length := by
  obtain ⟨str, hstr, h⟩ := bind_ok h
  split at h
  · cases h
    exact readString_length (defined_ok hstr)
  · cases h

theorem zStringCopyFromStr_not_error (memory : List Char) :
    zStringCopyFromStr true memory ≠ .error .error := by
  apply bind_not_error (defined_not_error _)
  intro str h
  cases h

theorem convDomain_eq (allocated : Bool) {domain : Nat} (h : domain < 2 ^ 31) :
    ∃ ht, convDomain allocated domain =
      if allocated then .ok ⟨decimal domain, ht⟩ else .error .error := by
  have ht : nul ∉ decimal domain := fun hc => absurd (natCast_isDigit hc) (by decide)
  have hlen : (decimal domain).length ≤ 10 := natCast_length (by decide) (by omega)
  have hfits : (decimal domain).length < (List.replicate 16 nul).length := by
    rw [List.length_replicate]
    omega
  obtain ⟨memory, hm, hw⟩ := snprintf_fits hfits
  refine ⟨ht, ?_⟩
  rw [List.length_replicate] at hm
  rw [convDomain, intOfSize_of_lt h, hm]
  exact zStringCopyFromStr_written allocated hw ht

def typeName (messageNamespace messageName : List Char) : List Char :=
  messageNamespace ++ ddsInfix ++ messageName ++ ['_']

theorem typeName_terminated (messageNamespace messageName : CString) :
    nul ∉ typeName messageNamespace.chars messageName.chars := by
  simp only [typeName, List.mem_append, not_or]
  exact ⟨⟨⟨messageNamespace.terminated, by decide⟩, messageName.terminated⟩, by decide⟩

theorem convertMessageType_cut (allocated : Bool) (messageNamespace messageName : CString) :
    ∃ ht, convertMessageType allocated ⟨messageNamespace, some messageName⟩ =
      if allocated then .ok ⟨(typeName messageNamespace.chars messageName.chars).take 127, ht⟩
      else .error .error := by
  have ht : nul ∉ (typeName messageNamespace.chars messageName.chars).take 127 :=
    fun h => typeName_terminated messageNamespace messageName (List.mem_of_mem_take h)
  have hpos : 0 < (List.replicate 128 nul).length := by
    rw [List.length_replicate]
    decide
  obtain ⟨memory, hm, hw⟩ := snprintf_cut hpos (typeName messageNamespace.chars messageName.chars)
  rw [List.length_replicate] at hm hw
  refine ⟨ht, ?_⟩
  rw [convertMessageType]
  change ((defined (snprintf (List.replicate 128 nul) 0 128 (typeName _ _))) >>= _) = _
  rw [hm]
  exact zStringCopyFromStr_written allocated hw ht

theorem convertMessageType_eq (allocated : Bool) (messageNamespace messageName : CString)
    (h : (typeName messageNamespace.chars messageName.chars).length ≤ 127) :
    ∃ ht, convertMessageType allocated ⟨messageNamespace, some messageName⟩ =
      if allocated then .ok ⟨typeName messageNamespace.chars messageName.chars, ht⟩
      else .error .error := by
  obtain ⟨ht, hcut⟩ := convertMessageType_cut allocated messageNamespace messageName
  simp only [List.take_of_length_le h] at hcut
  exact ⟨_, hcut⟩

def hexByte (byte : UInt8) : List Char :=
  [hexDigit ((byte >>> 4) &&& 0x0f), hexDigit ((byte >>> 0) &&& 0x0f)]

theorem convertHashLoop_eq (value : List UInt8) (i : Nat) (pre tail : List Char)
    (hpre : pre.length = rihs01Prefix.length + i * 2) (htail : 2 * value.length ≤ tail.length) :
    convertHashLoop (pre ++ tail) i value =
      some (pre ++ value.flatMap hexByte ++ tail.drop (2 * value.length)) := by
  induction value generalizing i pre tail with
  | nil => simp [convertHashLoop]
  | cons byte value ih =>
      obtain ⟨a, b, tail, rfl⟩ : ∃ a b rest, tail = a :: b :: rest := by
        match tail, htail with
        | a :: b :: rest, _ => exact ⟨a, b, rest, rfl⟩
      have hfirst := store_one pre (b :: tail) (hexDigit ((byte >>> 4) &&& 0x0f)) a
      have hsecond := store_one (pre ++ [hexDigit ((byte >>> 4) &&& 0x0f)]) tail
        (hexDigit ((byte >>> 0) &&& 0x0f)) b
      have hnext := ih (i + 1) (pre ++ hexByte byte) tail
        (by simp only [List.length_append, hexByte, List.length_cons, List.length_nil, hpre]; omega)
        (by simp only [List.length_cons] at htail; omega)
      simp only [List.length_append, List.length_singleton, hpre, List.append_assoc,
        List.singleton_append] at hfirst hsecond
      simp only [hexByte, List.append_assoc, List.cons_append, List.nil_append] at hnext
      simp only [convertHashLoop, hfirst, Option.bind_eq_bind, Option.bind_some]
      push_cast at hsecond ⊢
      rw [hsecond, Option.bind_some, hnext]
      simp [hexByte, Nat.mul_add]

theorem highNibble (byte : UInt8) : ((byte >>> 4) &&& 0x0f).toNat = byte.toNat / 16 := by
  have h := Nat.and_two_pow_sub_one_eq_mod (byte.toNat / 16) 4
  have hb := byte.toNat_lt
  simp only [UInt8.toNat_and, UInt8.toNat_shiftRight]
  change (byte.toNat >>> 4) &&& (2 ^ 4 - 1) = _
  rw [Nat.shiftRight_eq_div_pow]
  norm_num at h ⊢
  omega

theorem lowNibble (byte : UInt8) : ((byte >>> 0) &&& 0x0f).toNat = byte.toNat % 16 := by
  simp only [UInt8.toNat_and, UInt8.toNat_shiftRight]
  exact Nat.and_two_pow_sub_one_eq_mod byte.toNat 4

theorem hexDigit_fin (n : Fin 16) :
    hexDigit (UInt8.ofNat n) = Nat.digitChar n ∧ hexDigit (UInt8.ofNat n) ≠ '/' ∧
      hexDigit (UInt8.ofNat n) ≠ nul := by
  revert n
  decide

theorem digitChar_fin (m n : Fin 16) (h : Nat.digitChar m = Nat.digitChar n) : m = n := by
  revert m n
  decide

theorem hexDigit_of_lt {n : UInt8} (h : n.toNat < 16) :
    hexDigit n = Nat.digitChar n.toNat ∧ hexDigit n ≠ '/' ∧ hexDigit n ≠ nul := by
  have hfin := hexDigit_fin ⟨n.toNat, h⟩
  simpa using hfin

theorem hexDigit_injective {m n : UInt8} (hm : m.toNat < 16) (hn : n.toNat < 16)
    (h : hexDigit m = hexDigit n) : m.toNat = n.toNat := by
  rw [(hexDigit_of_lt hm).1, (hexDigit_of_lt hn).1] at h
  exact Fin.mk.inj (digitChar_fin ⟨_, hm⟩ ⟨_, hn⟩ h)

theorem hexByte_injective {a b : UInt8} (h : hexByte a = hexByte b) : a = b := by
  simp only [hexByte, List.cons.injEq, and_true] at h
  have ha := a.toNat_lt
  have hb := b.toNat_lt
  have hhigh := hexDigit_injective (by rw [highNibble]; omega) (by rw [highNibble]; omega) h.1
  have hlow := hexDigit_injective (by rw [lowNibble]; omega) (by rw [lowNibble]; omega) h.2
  rw [highNibble, highNibble] at hhigh
  rw [lowNibble, lowNibble] at hlow
  apply UInt8.toNat_inj.mp
  omega

theorem hexByte_chars {byte : UInt8} {c : Char} (h : c ∈ hexByte byte) : c ≠ '/' ∧ c ≠ nul := by
  have hb := byte.toNat_lt
  rcases List.mem_cons.mp h with rfl | h
  · exact (hexDigit_of_lt (by rw [highNibble]; omega)).2
  · obtain rfl := List.mem_singleton.mp h
    exact (hexDigit_of_lt (by rw [lowNibble]; omega)).2

theorem hexBytes_injective {value value' : List UInt8}
    (h : value.flatMap hexByte = value'.flatMap hexByte) : value = value' := by
  induction value generalizing value' with
  | nil =>
      cases value' with
      | nil => rfl
      | cons b value' => simp [hexByte] at h
  | cons a value ih =>
      cases value' with
      | nil => simp [hexByte] at h
      | cons b value' =>
          rw [List.flatMap_cons, List.flatMap_cons] at h
          obtain ⟨hbyte, hrest⟩ := List.append_inj h rfl
          rw [hexByte_injective hbyte, ih hrest]

def hashText (typeHash : RosidlTypeHash) : List Char := rihs01Prefix ++ typeHash.value.flatMap hexByte

theorem hashText_length (typeHash : RosidlTypeHash) : (hashText typeHash).length = 71 := by
  have hbytes : ∀ value : List UInt8, (value.flatMap hexByte).length = 2 * value.length := by
    intro value
    induction value with
    | nil => rfl
    | cons b value ih =>
        rw [List.flatMap_cons, List.length_append, ih]
        simp only [hexByte, List.length_cons, List.length_nil]
        omega
  rw [hashText, List.length_append, hbytes, typeHash.size]
  rfl

theorem hashText_chars {typeHash : RosidlTypeHash} {c : Char} (h : c ∈ hashText typeHash) :
    c ≠ '/' ∧ c ≠ nul := by
  rcases List.mem_append.mp h with h | h
  · have hall : ∀ c ∈ rihs01Prefix, c ≠ '/' ∧ c ≠ nul := by simp [rihs01Prefix, nul]
    exact hall c h
  · obtain ⟨b, -, hb⟩ := List.mem_flatMap.mp h
    exact hexByte_chars hb

theorem convertHash_eq (allocated : Bool) (typeHash : RosidlTypeHash) :
    ∃ ht, convertHash allocated typeHash =
      if allocated then .ok ⟨hashText typeHash, ht⟩ else .error .error := by
  have ht : nul ∉ hashText typeHash := fun h => (hashText_chars h).2 rfl
  have hprefix : store (List.replicate 72 nul) 0 rihs01Prefix =
      some (rihs01Prefix ++ List.replicate 65 nul) := rfl
  have hloop := convertHashLoop_eq typeHash.value 0 rihs01Prefix (List.replicate 65 nul) rfl
    (by rw [typeHash.size, List.length_replicate]; omega)
  have hw : Written (rihs01Prefix ++ typeHash.value.flatMap hexByte ++
      (List.replicate 65 nul).drop (2 * typeHash.value.length)) (hashText typeHash) := by
    refine ⟨[], ?_⟩
    rw [typeHash.size]
    rfl
  refine ⟨ht, ?_⟩
  rw [convertHash, hprefix]
  change ((defined (convertHashLoop (rihs01Prefix ++ List.replicate 65 nul) 0 typeHash.value)) >>= _) = _
  rw [hloop]
  exact zStringCopyFromStr_written allocated hw ht

theorem precise_all {s : CString} (h : s.chars.length < 2 ^ 31) :
    precise (intOfSize s.chars.length) s.chars = s.chars := by
  rw [intOfSize_of_lt h, precise_length]

theorem printName_eq {c : Cursor} {name : CString} (hne : name.chars ≠ []) (h : name.chars.length < 2 ^ 31) :
    printName c name = (defined (c.print
      (if name.chars.head? = some '/' then name.chars.tail else name.chars))).bind fun c =>
        if name.chars.getLast? = some '/' then .ok c else defined (c.print ['/']) := by
  have hpos : 0 < name.chars.length := List.length_pos_iff.mpr hne
  obtain ⟨first, rest, hcons⟩ := List.exists_cons_of_ne_nil hne
  obtain ⟨last, hlast⟩ := Option.ne_none_iff_exists'.mp
    (mt List.getLast?_eq_none_iff.mp hne)
  have hload₀ : load name.chars 0 = some first := by simp [load, hcons]
  have hload₁ : load name.chars ((name.chars.length : Int) - 1) = some last := by
    have hcast : (name.chars.length : Int) - 1 = ((name.chars.length - 1 : Nat) : Int) := by omega
    rw [hcast, load_natCast, ← List.getLast?_eq_getElem?, hlast]
  have hhead : name.chars.head? = some first := by rw [hcons]; rfl
  have hrest : precise ((name.chars.length : Int) - 1) (name.chars.drop 1) = name.chars.tail := by
    rw [List.drop_one, hcons, List.tail_cons, List.length_cons, precise, if_neg (by omega)]
    apply List.take_of_length_le
    omega
  have hempty : name.chars.isEmpty = false := by simpa using hne
  simp only [printName, hempty, Bool.false_eq_true, if_false, intOfSize_of_lt h, hload₀, hload₁, defined_some, ok_bind, precise_length, hrest,
    hhead, hlast, Option.some.injEq, ite_not]
  rfl

end Lemmas

theorem wholeKey_terminated (domain name type hash : CString) :
    nul ∉ wholeKey domain.chars name.chars type.chars hash.chars := by
  have hname : nul ∉ namePart name.chars := by
    intro h
    rcases List.mem_append.mp h with h | h
    · split at h
      · exact name.terminated (List.mem_of_mem_tail h)
      · exact name.terminated h
    · split at h
      · cases h
      · exact absurd (List.mem_singleton.mp h) (by decide)
  simp only [wholeKey, List.mem_append, List.mem_cons, not_or]
  exact ⟨domain.terminated, by decide, hname, type.terminated, by decide, hash.terminated⟩

theorem printName_fits {c : Cursor} {text : List Char} {name : CString} (hc : c.Holds text)
    (hne : name.chars ≠ []) (hfits : ((namePart name.chars).length : Int) < c.left) :
    ∃ c', printName c name = .ok c' ∧ c'.Holds (text ++ namePart name.chars) ∧
      c'.left = c.left - (namePart name.chars).length ∧ c'.memory.length = c.memory.length := by
  have hlen : (namePart name.chars).length =
      (if name.chars.head? = some '/' then name.chars.tail else name.chars).length +
        (if name.chars.getLast? = some '/' then [] else ['/']).length := List.length_append
  have hsmall := hc.small
  have hcfits := hc.fits
  have hoff := hc.offset
  have hbody : name.chars.length ≤
      (if name.chars.head? = some '/' then name.chars.tail else name.chars).length + 1 := by
    split
    · rw [List.length_tail]
      omega
    · omega
  have htext : text.length < c.memory.length := by
    obtain ⟨rest, hmem⟩ := hc.written
    rw [hmem, List.length_append, List.length_cons]
    omega
  rw [printName_eq hne (by omega)]
  obtain ⟨c₁, hp₁, hc₁, hleft₁, hmem₁⟩ := hc.print
    (if name.chars.head? = some '/' then name.chars.tail else name.chars) (by omega)
  rw [hp₁]
  by_cases hlast : name.chars.getLast? = some '/'
  · simp only [hlast, if_true, List.length_nil, Nat.add_zero] at hlen
    refine ⟨c₁, by simp [hlast, Except.bind], ?_, ?_, hmem₁⟩
    · simpa [namePart, hlast] using hc₁
    · rw [hleft₁, hlen]
  · simp only [hlast, if_false, List.length_singleton] at hlen
    obtain ⟨c₂, hp₂, hc₂, hleft₂, hmem₂⟩ := hc₁.print ['/']
      (by rw [hleft₁, List.length_singleton]; omega)
    refine ⟨c₂, by simp [hlast, hp₂, Except.bind], ?_, ?_, hmem₂.trans hmem₁⟩
    · simpa [namePart, hlast] using hc₂
    · rw [hleft₂, hleft₁, hlen, List.length_singleton]
      omega

theorem rosTopicNameToZenohKey_fits (allocated : Bool) (domain : CString) {name : CString}
    (type hash : CString) (hne : name.chars ≠ [])
    (hfits : (wholeKey domain.chars name.chars type.chars hash.chars).length ≤ 255) :
    rosTopicNameToZenohKey allocated domain name type hash =
      if allocated then
        .ok ⟨wholeKey domain.chars name.chars type.chars hash.chars,
          wholeKey_terminated domain name type hash⟩
      else .error .error := by
  have hlen : (wholeKey domain.chars name.chars type.chars hash.chars).length =
      domain.chars.length + 1 + (namePart name.chars).length + (type.chars.length + 1 + hash.chars.length) := by
    simp only [wholeKey, List.length_append, List.length_cons]
    omega
  have hstart : (Cursor.start 256 256).Holds [] := Cursor.start_holds (by decide) (by decide) (by decide)
  have hleft : (Cursor.start 256 256).left = 256 := rfl
  obtain ⟨c₁, hp₁, hc₁, hleft₁, -⟩ := hstart.print (domain.chars ++ ['/'])
    (by simp only [List.length_append, List.length_singleton, hleft]; omega)
  simp only [List.length_append, List.length_singleton, hleft] at hleft₁
  obtain ⟨c₂, hp₂, hc₂, hleft₂, -⟩ := printName_fits hc₁ hne (by omega)
  obtain ⟨c₃, hp₃, hc₃, -, -⟩ := hc₂.print (type.chars ++ '/' :: hash.chars)
    (by simp only [List.length_append, List.length_cons]; omega)
  have hkey : [] ++ (domain.chars ++ ['/']) ++ namePart name.chars ++ (type.chars ++ '/' :: hash.chars) =
      wholeKey domain.chars name.chars type.chars hash.chars := by
    simp [wholeKey]
  rw [hkey] at hc₃
  simp only [rosTopicNameToZenohKey, precise_all (s := domain) (by omega),
    precise_all (s := type) (by omega), precise_all (s := hash) (by omega), hp₁, hp₂, hp₃, defined_some,
    ok_bind]
  exact zStringCopyFromStr_written allocated hc₃.written (wholeKey_terminated domain name type hash)

theorem printName_length {c c' : Cursor} {name : CString} (h : printName c name = .ok c') :
    c'.memory.length = c.memory.length := by
  unfold printName at h
  split at h
  · cases h
    rfl
  · obtain ⟨first, -, h⟩ := bind_ok h
    obtain ⟨c₁, hp₁, h⟩ := bind_ok h
    obtain ⟨last, -, h⟩ := bind_ok h
    have hlen := Cursor.print_length (defined_ok hp₁)
    split at h
    · exact (Cursor.print_length (defined_ok h)).trans hlen
    · cases h
      exact hlen

theorem printName_not_error (c : Cursor) (name : CString) : printName c name ≠ .error .error := by
  unfold printName
  split
  · rintro ⟨⟩
  · apply bind_not_error (defined_not_error _)
    intro first
    apply bind_not_error (defined_not_error _)
    intro c
    apply bind_not_error (defined_not_error _)
    intro last
    split
    · exact defined_not_error _
    · rintro ⟨⟩

theorem rosTopicNameToZenohKey_length {allocated : Bool} {domain name type hash key : CString}
    (h : rosTopicNameToZenohKey allocated domain name type hash = .ok key) : key.chars.length ≤ 255 := by
  unfold rosTopicNameToZenohKey at h
  obtain ⟨c₁, hp₁, h⟩ := bind_ok h
  obtain ⟨c₂, hp₂, h⟩ := bind_ok h
  obtain ⟨c₃, hp₃, h⟩ := bind_ok h
  have h₁ := Cursor.print_length (defined_ok hp₁)
  have h₂ := printName_length hp₂
  have h₃ := Cursor.print_length (defined_ok hp₃)
  have hkey := zStringCopyFromStr_length h
  rw [h₃, h₂, h₁, Cursor.start_length] at hkey
  omega

/-- Only the copy returns an error. -/
theorem rosTopicNameToZenohKey_not_error (domain name type hash : CString) :
    rosTopicNameToZenohKey true domain name type hash ≠ .error .error := by
  unfold rosTopicNameToZenohKey
  apply bind_not_error (defined_not_error _)
  intro c
  apply bind_not_error (printName_not_error _ name)
  intro c
  apply bind_not_error (defined_not_error _)
  intro c
  exact zStringCopyFromStr_not_error _

/-- No access outside of the memory, and an error or the whole key, whether or
not there is memory for it. -/
def CompleteOrRefused (domain name type hash : CString) : Prop :=
  ∀ allocated, rosTopicNameToZenohKey allocated domain name type hash = .error .error ∨
    ∃ key, rosTopicNameToZenohKey allocated domain name type hash = .ok key ∧
      key.chars = wholeKey domain.chars name.chars type.chars hash.chars

theorem complete_iff {domain name type hash : CString} (hne : name.chars ≠ []) :
    CompleteOrRefused domain name type hash ↔
      (wholeKey domain.chars name.chars type.chars hash.chars).length ≤ 255 := by
  constructor
  · intro h
    rcases h true with herror | ⟨key, hkey, hwhole⟩
    · exact absurd herror (rosTopicNameToZenohKey_not_error domain name type hash)
    · rw [← hwhole]
      exact rosTopicNameToZenohKey_length hkey
  · intro hfits allocated
    rw [rosTopicNameToZenohKey_fits allocated domain type hash hne hfits]
    cases allocated with
    | false => exact Or.inl rfl
    | true => exact Or.inr ⟨_, rfl, rfl⟩

/-- The checks of a name that rmw_create_publisher, rmw_create_subscription,
rmw_create_service and rmw_create_client share. -/
def nameAccepted (rmwValidateFullTopicName : CString → Bool) (avoidRosNamespaceConventions : Bool)
    (name : CString) : Bool :=
  !name.chars.isEmpty && (avoidRosNamespaceConventions || rmwValidateFullTopicName name)

/-- A key of at most 255 characters, and no other, is complete or refused. -/
theorem key_complete_or_refused {rmwValidateFullTopicName : CString → Bool}
    {avoidRosNamespaceConventions : Bool} {name : CString}
    (hname : nameAccepted rmwValidateFullTopicName avoidRosNamespaceConventions name = true)
    (domain type hash : CString) :
    CompleteOrRefused domain name type hash ↔
      (wholeKey domain.chars name.chars type.chars hash.chars).length ≤ 255 := by
  apply complete_iff
  intro hnil
  simp [nameAccepted, hnil] at hname

def domainZero : CString := ⟨['0'], by decide⟩

def shortType : CString := ⟨['t'], by decide⟩

def shortHash : CString := ⟨['h'], by decide⟩

def nameOfLength (n : Nat) : CString :=
  ⟨'/' :: List.replicate n 'a', by simp [nul]⟩

theorem short_key_complete : CompleteOrRefused domainZero (nameOfLength 7) shortType shortHash := by
  have haccepted : nameAccepted (fun name => decide (name.chars.length ≤ 247)) false (nameOfLength 7) = true := by
    decide
  exact (key_complete_or_refused haccepted domainZero shortType shortHash).mpr (by decide)

def stringType : CString := ⟨typeName ['s', 't', 'd', '_', 'm', 's', 'g', 's', ':', ':', 'm', 's', 'g']
  ['S', 't', 'r', 'i', 'n', 'g'], by decide⟩

def zeroHash : CString := ⟨hashText ⟨List.replicate 32 0, rfl⟩, by decide +kernel⟩

/-- A name of 201 characters is let through, and its key is cut after 255; one
of 301 is let through without the conventions, and leads out of the buffer. -/
theorem long_key_cut :
    nameAccepted (fun name => decide (name.chars.length ≤ 247)) false (nameOfLength 200) = true ∧
      ¬CompleteOrRefused domainZero (nameOfLength 200) stringType zeroHash ∧
      nameAccepted (fun name => decide (name.chars.length ≤ 247)) true (nameOfLength 300) = true ∧
      rosTopicNameToZenohKey true domainZero (nameOfLength 300) stringType zeroHash =
        .error .undefined := by
  refine ⟨by decide +kernel, ?_, by decide +kernel, ?_⟩
  · rw [complete_iff (by simp [nameOfLength])]
    decide +kernel
  · decide +kernel

end RmwZenohPico.TopicKey
