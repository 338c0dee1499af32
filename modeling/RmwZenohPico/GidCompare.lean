import RmwZenohPico.RosMessage

namespace RmwZenohPico.GidCompare

open RmwTypes Attachment RosMessage

variable {R ω : Type}

structure StoredGid where
  gid : RmwGid
  behind : List UInt8

def StoredGid.memory (g : StoredGid) : List UInt8 := List.ofFn g.gid.data ++ g.behind

/-- Whether memcmp yields zero. A range that is not in memory is undefined. -/
def memcmpEqual (a b : List UInt8) (n : Nat) : Option Bool :=
  if n ≤ a.length ∧ n ≤ b.length then some (a.take n = b.take n) else none

/-- sizeof(rmw_gid_t), where the identifier stands before the data. -/
def sizeofRmwGid (pointerSize : Nat) : Nat := pointerSize + 16

def rmwCompareGidsEqual (pointerSize : Nat) (gid1 gid2 : Option StoredGid) (result : Bool) :
    Option (RmwRet × Bool) :=
  match gid1, gid2 with
  | none, _ => some (.invalidArgument, result)
  | some _, none => some (.invalidArgument, result)
  | some gid1, some gid2 =>
      if !checkTypeIdentifiersMatch gid1.gid.implementationIdentifier then
        some (.incorrectRmwImplementation, result)
      else if !checkTypeIdentifiersMatch gid2.gid.implementationIdentifier then
        some (.incorrectRmwImplementation, result)
      else
        (memcmpEqual gid1.memory gid2.memory (sizeofRmwGid pointerSize)).map fun equal => (.ok, equal)

structure StoredInfo where
  info : RmwMessageInfo
  behind : List UInt8

def StoredInfo.publisherGid (s : StoredInfo) : StoredGid :=
  ⟨s.info.publisherGid, (if s.info.fromIntraProcess then 1 else 0) :: s.behind⟩

/-- A message that is deserialized, with the structure that its info is written
to as it is before that. -/
structure Reception (R ω : Type) where
  msgData : ReceiveMessageData ω
  callbacks : MessageTypeSupportCallbacks R
  rosMessage : R
  stored : StoredInfo
  accepted : Deserializes msgData callbacks rosMessage

def Reception.gid (r : Reception R ω) : Slice := r.msgData.attachment.gid

def Reception.report (r : Reception R ω) : StoredInfo :=
  let after := (rmwZenohPicoDeserializeTopicMsg r.msgData r.callbacks r.rosMessage (some r.stored.info)).2.2
  { r.stored with info := after.getD r.stored.info }

def Reception.Readable (pointerSize : Nat) (r : Reception R ω) : Prop :=
  pointerSize ≤ r.report.publisherGid.behind.length

def GidsCompare (pointerSize : Nat) (g₁ g₂ : Slice) : Prop :=
  ∀ (R₁ R₂ ω₁ ω₂ : Type) (a : Reception R₁ ω₁) (b : Reception R₂ ω₂), a.gid = g₁ → b.gid = g₂ →
    a.Readable pointerSize → b.Readable pointerSize → ∀ result,
      rmwCompareGidsEqual pointerSize (some a.report.publisherGid) (some b.report.publisherGid) result =
        some (.ok, decide (g₁.gid = g₂.gid))

def DifferInCopied (g₁ g₂ : Slice) : Prop := ∃ i < min (min g₁.len g₂.len) 16, g₁.byte i ≠ g₂.byte i

theorem memory_take (g : StoredGid) (pointerSize : Nat) :
    g.memory.take (sizeofRmwGid pointerSize) = List.ofFn g.gid.data ++ g.behind.take pointerSize := by
  have hsize : sizeofRmwGid pointerSize = (List.ofFn g.gid.data).length + pointerSize := by
    rw [List.length_ofFn, sizeofRmwGid, Nat.add_comm]
  rw [StoredGid.memory, hsize, List.take_length_add_append]

theorem memory_take_eq_iff {g h : StoredGid} {pointerSize : Nat} :
    g.memory.take (sizeofRmwGid pointerSize) = h.memory.take (sizeofRmwGid pointerSize) ↔
      g.gid.data = h.gid.data ∧ g.behind.take pointerSize = h.behind.take pointerSize := by
  rw [memory_take, memory_take]
  constructor
  · intro heq
    obtain ⟨hdata, hbehind⟩ := List.append_inj heq (by rw [List.length_ofFn, List.length_ofFn])
    exact ⟨List.ofFn_injective hdata, hbehind⟩
  · rintro ⟨hdata, hbehind⟩
    rw [hdata, hbehind]

theorem compareGids_eq {g h : StoredGid} {pointerSize : Nat}
    (hg : g.gid.implementationIdentifier = some rmwGetImplementationIdentifier)
    (hh : h.gid.implementationIdentifier = some rmwGetImplementationIdentifier)
    (hgfits : pointerSize ≤ g.behind.length) (hhfits : pointerSize ≤ h.behind.length) (result : Bool) :
    rmwCompareGidsEqual pointerSize (some g) (some h) result =
      some (.ok, decide (g.gid.data = h.gid.data ∧ g.behind.take pointerSize = h.behind.take pointerSize)) := by
  have hidentifier : checkTypeIdentifiersMatch (some rmwGetImplementationIdentifier) = true := by
    simp [checkTypeIdentifiersMatch]
  have hfits : sizeofRmwGid pointerSize ≤ g.memory.length ∧ sizeofRmwGid pointerSize ≤ h.memory.length := by
    simp only [StoredGid.memory, List.length_append, List.length_ofFn, sizeofRmwGid]
    omega
  simp only [rmwCompareGidsEqual, hg, hh, hidentifier, Bool.not_true, Bool.false_eq_true, if_false,
    memcmpEqual, if_pos hfits, Option.map_some, memory_take_eq_iff]

theorem report_eq (r : Reception R ω) :
    r.report.publisherGid =
      ⟨⟨some rmwGetImplementationIdentifier, r.gid.copyInto r.stored.info.publisherGid.data⟩,
        0 :: r.stored.behind⟩ := by
  have haccepted : (rmwZenohPicoDeserialize r.msgData.payloadStart r.msgData.payloadSize r.callbacks
      r.rosMessage).1 = true := r.accepted
  simp only [Reception.report, rmwZenohPicoDeserializeTopicMsg, haccepted, if_true, Option.map_some,
    Option.getD_some, StoredInfo.publisherGid, Bool.false_eq_true, if_false, Reception.gid]

theorem compare_reports {R₁ R₂ ω₁ ω₂ : Type} {pointerSize : Nat} {a : Reception R₁ ω₁} {b : Reception R₂ ω₂}
    (ha : a.Readable pointerSize) (hb : b.Readable pointerSize) (result : Bool) :
    rmwCompareGidsEqual pointerSize (some a.report.publisherGid) (some b.report.publisherGid) result =
      some (.ok, decide (a.gid.copyInto a.stored.info.publisherGid.data =
          b.gid.copyInto b.stored.info.publisherGid.data ∧
        (0 :: a.stored.behind).take pointerSize = (0 :: b.stored.behind).take pointerSize)) := by
  rw [Reception.Readable, report_eq] at ha hb
  rw [report_eq, report_eq]
  exact compareGids_eq rfl rfl ha hb result

theorem DifferInCopied.copyInto_ne {g₁ g₂ : Slice} (h : DifferInCopied g₁ g₂) (old₁ old₂ : Gid) :
    g₁.copyInto old₁ ≠ g₂.copyInto old₂ := by
  obtain ⟨i, hi, hne⟩ := h
  intro heq
  have hbyte := congrFun heq ⟨i, by omega⟩
  simp only [Slice.copyInto] at hbyte
  rw [if_pos (by omega), if_pos (by omega)] at hbyte
  exact hne hbyte

theorem gidsCompare_of_differ {pointerSize : Nat} {g₁ g₂ : Slice} (h : DifferInCopied g₁ g₂) :
    GidsCompare pointerSize g₁ g₂ := by
  rintro R₁ R₂ ω₁ ω₂ a b rfl rfl ha hb result
  rw [compare_reports ha hb]
  have hdata := h.copyInto_ne a.stored.info.publisherGid.data b.stored.info.publisherGid.data
  have hgid : a.gid.gid ≠ b.gid.gid := h.copyInto_ne _ _
  rw [decide_eq_false hgid, decide_eq_false fun hboth => hdata hboth.1]

def anyCallbacks : MessageTypeSupportCallbacks Unit where
  getSerializedSize _ := 0
  cdrSerialize _ _ := (true, [])
  cdrDeserialize _ _ := (true, ())

def receptionOf (gid : Slice) (old : Gid) (behind : List UInt8) : Reception Unit Unit where
  msgData := ⟨some [0, 1, 0, 0], 4, 0, 0, ⟨0, 0, gid⟩, .sample, none⟩
  callbacks := anyCallbacks
  rosMessage := ()
  stored := ⟨⟨0, 0, 0, 0, ⟨none, old⟩, false⟩, behind⟩
  accepted := rfl

theorem receptionOf_readable {pointerSize : Nat} {gid : Slice} {old : Gid} {behind : List UInt8}
    (h : pointerSize ≤ behind.length + 1) : (receptionOf gid old behind).Readable pointerSize := by
  rw [Reception.Readable, report_eq]
  exact h

def common (g₁ g₂ : Slice) : Gid := g₁.copyInto (g₂.copyInto fun _ => 0)

theorem copyInto_common {g₁ g₂ : Slice} (h : ¬DifferInCopied g₁ g₂) :
    g₁.copyInto (common g₁ g₂) = common g₁ g₂ ∧ g₂.copyInto (common g₁ g₂) = common g₁ g₂ := by
  constructor
  · funext i
    simp only [common, Slice.copyInto]
    split <;> rfl
  · funext i
    by_cases h₂ : i.val < min g₂.len 16
    · by_cases h₁ : i.val < min g₁.len 16
      · have heq : g₁.byte i = g₂.byte i := by
          by_contra hne
          exact h ⟨i, by omega, hne⟩
        simp only [common, Slice.copyInto, if_pos h₁, if_pos h₂, heq]
      · simp only [common, Slice.copyInto, if_neg h₁, if_pos h₂]
    · simp only [Slice.copyInto, if_neg h₂]

theorem differ_of_gidsCompare {pointerSize : Nat} (hsize : 2 ≤ pointerSize) {g₁ g₂ : Slice}
    (h : GidsCompare pointerSize g₁ g₂) : DifferInCopied g₁ g₂ := by
  by_contra hsame
  obtain ⟨h₁, h₂⟩ := copyInto_common hsame
  obtain ⟨n, rfl⟩ : ∃ n, pointerSize = n + 2 := ⟨pointerSize - 2, by omega⟩
  have hbehind : ∀ byte : UInt8, rmwCompareGidsEqual (n + 2)
      (some (receptionOf g₁ (common g₁ g₂) (List.replicate (n + 1) 0)).report.publisherGid)
      (some (receptionOf g₂ (common g₁ g₂) (byte :: List.replicate n 0)).report.publisherGid) false =
        some (.ok, decide (byte = 0)) := by
    intro byte
    rw [compare_reports (receptionOf_readable (by simp)) (receptionOf_readable (by simp))]
    change some (RmwRet.ok, decide (g₁.copyInto (common g₁ g₂) = g₂.copyInto (common g₁ g₂) ∧
      (0 :: List.replicate (n + 1) 0).take (n + 2) = (0 :: byte :: List.replicate n 0).take (n + 2))) = _
    simp [h₁, h₂, List.replicate_succ, eq_comm]
  have hzero := h Unit Unit Unit Unit (receptionOf g₁ (common g₁ g₂) (List.replicate (n + 1) 0))
    (receptionOf g₂ (common g₁ g₂) (0 :: List.replicate n 0)) rfl rfl (receptionOf_readable (by simp))
    (receptionOf_readable (by simp)) false
  have hone := h Unit Unit Unit Unit (receptionOf g₁ (common g₁ g₂) (List.replicate (n + 1) 0))
    (receptionOf g₂ (common g₁ g₂) (1 :: List.replicate n 0)) rfl rfl (receptionOf_readable (by simp))
    (receptionOf_readable (by simp)) false
  rw [hbehind] at hzero hone
  have hboth : decide ((0 : UInt8) = 0) = decide ((1 : UInt8) = 0) :=
    (Prod.mk.inj (Option.some.inj (hzero.trans hone.symm))).2
  exact absurd hboth (by decide)

/-- Two gids compare as the senders' gids exactly if they differ in a byte that
is copied of both. -/
theorem gids_compare_iff {pointerSize : Nat} (hsize : 2 ≤ pointerSize) (g₁ g₂ : Slice) :
    GidsCompare pointerSize g₁ g₂ ↔ DifferInCopied g₁ g₂ :=
  ⟨differ_of_gidsCompare hsize, gidsCompare_of_differ⟩

def gidOf (byte : UInt8) : Slice := zSliceCopyFromBuf fun _ => byte

theorem distinct_gids_compare : DifferInCopied (gidOf 1) (gidOf 2) ∧ GidsCompare 8 (gidOf 1) (gidOf 2) := by
  have hdiffer : DifferInCopied (gidOf 1) (gidOf 2) := ⟨0, by decide, by decide⟩
  exact ⟨hdiffer, (gids_compare_iff (by decide) (gidOf 1) (gidOf 2)).mpr hdiffer⟩

/-- One gid that was received twice compares as different where the bytes
behind it differ, and an empty slice as the gid that was there before. -/
theorem same_gid_differs :
    ¬GidsCompare 8 (gidOf 1) (gidOf 1) ∧
      rmwCompareGidsEqual 8
        (some (receptionOf (gidOf 1) (fun _ => 0) (List.replicate 8 0)).report.publisherGid)
        (some (receptionOf (gidOf 1) (fun _ => 0) (List.replicate 8 1)).report.publisherGid) true =
          some (.ok, false) ∧
      rmwCompareGidsEqual 8
        (some (receptionOf (gidOf 1) (fun _ => 0) (List.replicate 8 0)).report.publisherGid)
        (some (receptionOf ⟨none, 0, fun _ => rfl⟩ (fun _ => 1) (List.replicate 8 0)).report.publisherGid)
        false = some (.ok, true) := by
  refine ⟨?_, ?_, ?_⟩
  · intro h
    obtain ⟨i, -, hne⟩ := differ_of_gidsCompare (by decide) h
    exact hne rfl
  · decide +kernel
  · decide +kernel

end RmwZenohPico.GidCompare
