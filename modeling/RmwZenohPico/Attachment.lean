import RmwZenohPico.RmwTypes

namespace RmwZenohPico.Attachment

open RmwTypes

/-- A slice of bytes. The memory can be read past the end of the slice, where
it holds whatever the program has stored there. -/
structure Slice where
  start : Option (Nat → UInt8)
  len : Nat
  null_empty : start = none → len = 0

def Slice.byte (s : Slice) (i : Nat) : UInt8 := (s.start.map fun p => p i).getD 0

def Slice.bytes (s : Slice) : List UInt8 := (List.range s.len).map s.byte

theorem Slice.bytes_length (s : Slice) : s.bytes.length = s.len := by simp [Slice.bytes]

theorem Slice.byte_congr {s t : Slice} (h : s.bytes = t.bytes) {i : Nat} (hi : i < s.len) :
    s.byte i = t.byte i := by
  have hl : s.len = t.len := by rw [← s.bytes_length, ← t.bytes_length, h]
  have hs : s.bytes[i]? = some (s.byte i) := by simp [Slice.bytes, hi]
  have ht : t.bytes[i]? = some (t.byte i) := by simp [Slice.bytes, hl ▸ hi]
  exact Option.some.inj (hs.symm.trans (h ▸ ht))

def zSliceCopyFromBuf (gid : Gid) : Slice :=
  ⟨some fun i => if h : i < 16 then gid ⟨i, h⟩ else 0, 16, fun h => by cases h⟩

def Slice.copyInto (s : Slice) (old : Gid) : Gid :=
  fun i => if i.val < min s.len 16 then s.byte i else old i

def Slice.gid (s : Slice) : Gid := s.copyInto fun _ => 0

theorem Slice.copyInto_of_le {s : Slice} (h : 16 ≤ s.len) (old : Gid) : s.copyInto old = s.gid := by
  funext i
  have hi : i.val < min s.len 16 := by omega
  simp [Slice.gid, Slice.copyInto, hi]

theorem Slice.gid_apply {s : Slice} (h : 16 ≤ s.len) (i : Fin 16) : s.gid i = s.byte i := by
  have hi : i.val < min s.len 16 := by omega
  simp [Slice.gid, Slice.copyInto, hi]

theorem Slice.gid_congr {s t : Slice} (h : s.bytes = t.bytes) : s.gid = t.gid := by
  funext i
  have hl : s.len = t.len := by rw [← s.bytes_length, ← t.bytes_length, h]
  by_cases hi : i.val < min s.len 16
  · have hb := Slice.byte_congr h (i := i) (by omega)
    simp [Slice.gid, Slice.copyInto, hi, ← hl, hb]
  · simp [Slice.gid, Slice.copyInto, hi, ← hl]

theorem copyFromBuf_gid (gid : Gid) : (zSliceCopyFromBuf gid).gid = gid := by
  funext i
  rw [Slice.gid_apply (by rfl)]
  simp [zSliceCopyFromBuf, Slice.byte]

/-- The two halves of an XXH128 hash. The hash function itself is the
vendored xxHash library, a function of the bytes it is given. -/
structure XXH128Hash where
  low64 : UInt64
  high64 : UInt64

def wordByte (x : UInt64) (i : Nat) : UInt8 := (x >>> (8 * i).toUInt64).toUInt8

def zenohPicoGenGid (xxh3 : List Char → XXH128Hash) (key : List Char) : Gid :=
  fun i => if i.val < 8 then wordByte (xxh3 key).low64 i else wordByte (xxh3 key).high64 (i - 8)

theorem wordByte_toNat (x : UInt64) {i : Nat} (h : i < 8) :
    (wordByte x i).toNat = x.toNat / 2 ^ (8 * i) % 256 := by
  have hs : (8 * i).toUInt64.toNat % 64 = 8 * i := by
    simp
    omega
  rw [wordByte, UInt64.toNat_toUInt8, UInt64.toNat_shiftRight, hs, Nat.shiftRight_eq_div_pow]

theorem wordByte_inj {x y : UInt64} (h : ∀ i < 8, wordByte x i = wordByte y i) : x = y := by
  have hmod : ∀ n ≤ 8, x.toNat % 2 ^ (8 * n) = y.toNat % 2 ^ (8 * n) := by
    intro n hn
    induction n with
    | zero => simp [Nat.mod_one]
    | succ n ih =>
        have hbyte := congrArg UInt8.toNat (h n hn)
        rw [wordByte_toNat x hn, wordByte_toNat y hn] at hbyte
        rw [Nat.mul_succ, Nat.pow_add, Nat.mod_mul, Nat.mod_mul, ih (Nat.le_of_succ_le hn)]
        exact congrArg _ (congrArg _ hbyte)
  have hword := hmod 8 (le_refl 8)
  rw [Nat.mod_eq_of_lt x.toNat_lt, Nat.mod_eq_of_lt y.toNat_lt] at hword
  exact UInt64.toNat_inj.mp hword

theorem genGid_inj {xxh3 : List Char → XXH128Hash} {key key' : List Char}
    (h : zenohPicoGenGid xxh3 key = zenohPicoGenGid xxh3 key') : xxh3 key = xxh3 key' := by
  have hlow : (xxh3 key).low64 = (xxh3 key').low64 := by
    apply wordByte_inj
    intro i hi
    have hbyte := congrFun h ⟨i, by omega⟩
    simpa [zenohPicoGenGid, hi] using hbyte
  have hhigh : (xxh3 key).high64 = (xxh3 key').high64 := by
    apply wordByte_inj
    intro i hi
    have hge : ¬i + 8 < 8 := by omega
    have hbyte := congrFun h ⟨i + 8, by omega⟩
    simpa [zenohPicoGenGid, hge] using hbyte
  cases hx : xxh3 key with
  | mk low high =>
      cases hy : xxh3 key' with
      | mk low' high' =>
          rw [hx, hy] at hlow hhigh
          exact congrArg₂ XXH128Hash.mk hlow hhigh

/-- zenoh_pico_attachemt_data. Both numbers are int64_t in the source; they
are exact here, since a counter that overflows is undefined. -/
structure AttachmentData where
  sequenceNum : Int
  timestamp : Int
  gid : Slice

/-- The postfix increment: what it returns is the number before. -/
def attachmentSequenceNumInc (data : AttachmentData) : AttachmentData × Int :=
  ({ data with sequenceNum := data.sequenceNum + 1 }, data.sequenceNum)

/-- The serializer of zenoh-pico. S is a serializer under construction, B
the bytes it yields and D a deserializer reading such bytes. -/
structure ZeSerializer (S B D : Type) where
  empty : S
  serializeInt64 : S → Int → Option S
  serializeSlice : S → Slice → Option S
  finish : S → B
  fromBytes : B → D
  deserializeInt64 : D → Option (Int × D)
  deserializeSlice : D → Option (Slice × D)

variable {S B D : Type}

/-- The attachment is stamped with the current time even when one of the
serialize calls fails; failed stands for any such failure. -/
def attachmentGen (z : ZeSerializer S B D) (data : AttachmentData) (now : Int) (failed : Bool) :
    AttachmentData × Option B :=
  let data := { data with timestamp := now }
  if failed then (data, none)
  else (data, do
    let s ← z.serializeInt64 z.empty data.sequenceNum
    let s ← z.serializeInt64 s data.timestamp
    let s ← z.serializeSlice s data.gid
    return z.finish s)

def attachmentDataGet (z : ZeSerializer S B D) (attachment : B) : Option AttachmentData := do
  let (sequenceNum, d) ← z.deserializeInt64 (z.fromBytes attachment)
  let (timestamp, d) ← z.deserializeInt64 d
  let (gid, _) ← z.deserializeSlice d
  return ⟨sequenceNum, timestamp, gid⟩

structure RoundTrips (z : ZeSerializer S B D) : Prop where
  reads : ∀ x y g s₁ s₂ s₃, z.serializeInt64 z.empty x = some s₁ → z.serializeInt64 s₁ y = some s₂ →
    z.serializeSlice s₂ g = some s₃ →
    ∃ d₁ d₂ d₃ g', z.deserializeInt64 (z.fromBytes (z.finish s₃)) = some (x, d₁) ∧
      z.deserializeInt64 d₁ = some (y, d₂) ∧ z.deserializeSlice d₂ = some (g', d₃) ∧
      g'.bytes = g.bytes

def valueSerializer : ZeSerializer (List (Int ⊕ Slice)) (List (Int ⊕ Slice)) (List (Int ⊕ Slice)) where
  empty := []
  serializeInt64 s x := some (s ++ [.inl x])
  serializeSlice s g := some (s ++ [.inr g])
  finish s := s
  fromBytes b := b
  deserializeInt64
    | .inl x :: d => some (x, d)
    | _ => none
  deserializeSlice
    | .inr g :: d => some (g, d)
    | _ => none

theorem valueSerializer_roundTrips : RoundTrips valueSerializer := by
  constructor
  rintro x y g _ _ _ ⟨⟩ ⟨⟩ ⟨⟩
  exact ⟨_, _, _, _, rfl, rfl, rfl, rfl⟩

@[simp] theorem attachmentGen_fst (z : ZeSerializer S B D) (data : AttachmentData) (now : Int)
    (failed : Bool) : (attachmentGen z data now failed).1 = { data with timestamp := now } := by
  cases failed <;> rfl

theorem attachmentGen_get {z : ZeSerializer S B D} (hz : RoundTrips z) {data : AttachmentData} {now : Int}
    {failed : Bool} {b : B} (h : (attachmentGen z data now failed).2 = some b) :
    ∃ g, attachmentDataGet z b = some ⟨data.sequenceNum, now, g⟩ ∧ g.bytes = data.gid.bytes := by
  cases failed with
  | true => cases h
  | false =>
      simp only [attachmentGen, Bool.false_eq_true, if_false, Option.bind_eq_bind,
        Option.bind_eq_some_iff, Option.pure_def, Option.some.injEq] at h
      obtain ⟨s₁, h₁, s₂, h₂, s₃, h₃, rfl⟩ := h
      obtain ⟨d₁, d₂, d₃, g, e₁, e₂, e₃, hg⟩ := hz.reads _ _ _ s₁ s₂ s₃ h₁ h₂ h₃
      exact ⟨g, by simp [attachmentDataGet, e₁, e₂, e₃], hg⟩

end RmwZenohPico.Attachment
