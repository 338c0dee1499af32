import RmwZenohPico.Lib.LabelledMachine
import RmwZenohPico.Lib.Separated
import RmwZenohPico.RosMessage
import RmwZenohPico.TopicKey

namespace RmwZenohPico.QosKeyexpr

open Lib.CBuffer Lib.LabelledMachine Lib.Separated TopicKey
open RosMessage (sizeSub)

structure RmwTime where
  sec : Nat
  nsec : Nat
  deriving DecidableEq

/-- The policies are enumerations of C, which may hold any number. -/
structure RmwQosProfile where
  history : Nat
  depth : Nat
  reliability : Nat
  durability : Nat
  deadline : RmwTime
  lifespan : RmwTime
  liveliness : Nat
  livelinessLeaseDuration : RmwTime
  deriving DecidableEq

structure QosCursor where
  memory : List Char
  offset : Int
  left : Nat

def qosAppendValue (value : Int) (c : QosCursor) : Option (Bool × QosCursor) :=
  if c.left = 0 then some (false, c)
  else if value ≠ 0 then do
    let memory ← snprintf c.memory c.offset c.left (decimal value)
    let ret := printed (decimal value)
    some (true, ⟨memory, c.offset + ret, sizeSub c.left (sizeOfInt ret)⟩)
  else some (true, c)

def qosAddDelimiter (delimiter : Char) (c : QosCursor) : Option (Bool × QosCursor) :=
  if c.left = 0 then some (false, c)
  else do
    let memory ← store c.memory c.offset [delimiter]
    some (true, ⟨memory, c.offset + 1, sizeSub c.left 1⟩)

inductive Piece
  | value (v : Int)
  | delimiter (c : Char)

def appendPiece : Piece → QosCursor → Option (Bool × QosCursor)
  | .value v => qosAppendValue v
  | .delimiter c => qosAddDelimiter c

def step : Machine QosCursor Piece := fun c p => (appendPiece p c).map Prod.snd

/-- The appends in the order of the source, with the fields as they are
handed to int parameters. -/
def fieldPieces (reliability durability history depth deadlineSec deadlineNsec lifespanSec lifespanNsec
    liveliness leaseSec leaseNsec : Int) : List Piece :=
  [.value reliability, .delimiter ':',
    .value durability, .delimiter ':',
    .value history, .delimiter ',',
    .value depth, .delimiter ':',
    .value deadlineSec, .delimiter ',',
    .value deadlineNsec, .delimiter ':',
    .value lifespanSec, .delimiter ',',
    .value lifespanNsec, .delimiter ':',
    .value liveliness, .delimiter ',',
    .value leaseSec, .delimiter ',',
    .value leaseNsec]

def qosPieces (qos : RmwQosProfile) : List Piece :=
  fieldPieces (intOfSize qos.reliability) (intOfSize qos.durability) (intOfSize qos.history)
    (intOfSize qos.depth) (intOfSize qos.deadline.sec) (intOfSize qos.deadline.nsec)
    (intOfSize qos.lifespan.sec) (intOfSize qos.lifespan.nsec) (intOfSize qos.liveliness)
    (intOfSize qos.livelinessLeaseDuration.sec) (intOfSize qos.livelinessLeaseDuration.nsec)

def qosStart : QosCursor := ⟨List.replicate 64 nul, 0, 63⟩

def qosToKeyexpr (allocated : Bool) (qos : Option RmwQosProfile) : Except Failure CString := do
  let c ← match qos with
    | some qos => defined (run step qosStart (qosPieces qos))
    | none => .ok qosStart
  zStringCopyFromStr allocated c.memory

def valueText (value : Int) : List Char := if value = 0 then [] else decimal value

def Piece.text : Piece → List Char
  | .value v => valueText v
  | .delimiter c => [c]

def qosText (qos : RmwQosProfile) : List Char := (qosPieces qos).flatMap Piece.text

/-- No write outside of the array, no wrap of the size that is left, and an
error or the whole text, whether or not there is memory for it. -/
structure StaysInBuffer (qos : RmwQosProfile) : Prop where
  inside : (run step qosStart (qosPieces qos)).isSome
  balanced : Always step (fun c => c.offset + c.left = 63) qosStart (qosPieces qos)
  complete : ∀ allocated, qosToKeyexpr allocated (some qos) = .error .error ∨
    ∃ key, qosToKeyexpr allocated (some qos) = .ok key ∧ key.chars = qosText qos

def qosNumbers (qos : RmwQosProfile) : List Nat :=
  [qos.reliability, qos.durability, qos.history, qos.depth, qos.deadline.sec, qos.deadline.nsec,
    qos.lifespan.sec, qos.lifespan.nsec, qos.liveliness, qos.livelinessLeaseDuration.sec,
    qos.livelinessLeaseDuration.nsec]

/-- The digits and signs of the numbers that are not zero as an int. -/
def digits (qos : RmwQosProfile) : Nat :=
  ((qosNumbers qos).map fun n => (valueText (intOfSize n)).length).sum

/-- A delimiter may take the last place before the terminator, a value may
not. -/
def Fits (qos : RmwQosProfile) : Prop :=
  digits qos ≤ 52 ∨ digits qos = 53 ∧ intOfSize qos.livelinessLeaseDuration.nsec = 0

instance (qos : RmwQosProfile) : Decidable (Fits qos) := inferInstanceAs (Decidable (_ ∨ _))

structure QosCursor.Holds (c : QosCursor) (text : List Char) : Prop where
  memory : c.memory = text ++ List.replicate (64 - text.length) nul
  offset : c.offset = text.length
  left : c.left = 63 - text.length
  fits : text.length ≤ 63

def Piece.Room (n : Nat) : Piece → Prop
  | .value v => v = 0 ∨ n + (decimal v).length ≤ 62
  | .delimiter _ => n + 1 ≤ 63

theorem start_holds : qosStart.Holds [] := ⟨rfl, rfl, rfl, by decide⟩

theorem QosCursor.Holds.written {c : QosCursor} {text : List Char} (h : c.Holds text) :
    Written c.memory text := by
  have hfits := h.fits
  refine ⟨List.replicate (63 - text.length) nul, ?_⟩
  have hsucc : 64 - text.length = (63 - text.length) + 1 := by omega
  rw [h.memory, hsucc, List.replicate_succ]

theorem QosCursor.Holds.balanced {c : QosCursor} {text : List Char} (h : c.Holds text) :
    c.offset + c.left = 63 := by
  have hfits := h.fits
  rw [h.offset, h.left]
  omega

theorem QosCursor.Holds.snprintf_cut {c : QosCursor} {text : List Char} (h : c.Holds text)
    (hleft : text.length < 63) (more : List Char) :
    snprintf c.memory c.offset c.left more = some (text ++ more.take (62 - text.length) ++
      List.replicate (64 - (text ++ more.take (62 - text.length)).length) nul) := by
  have hsize : c.left = (62 - text.length) + 1 := by
    rw [h.left]
    omega
  have hput : (more.take (62 - text.length) ++ [nul]).length ≤
      (List.replicate (64 - text.length) nul).length := by
    simp only [List.length_append, List.length_take, List.length_replicate, List.length_singleton]
    omega
  have hrest : [nul] ++ List.replicate (64 - text.length - (more.take (62 - text.length) ++ [nul]).length) nul =
      List.replicate (64 - (text ++ more.take (62 - text.length)).length) nul := by
    have hsucc : 64 - (text ++ more.take (62 - text.length)).length =
        (64 - text.length - (more.take (62 - text.length) ++ [nul]).length) + 1 := by
      simp only [List.length_append, List.length_take, List.length_singleton]
      omega
    rw [hsucc, List.replicate_succ]
    rfl
  rw [hsize, h.memory, h.offset, snprintf, store_append text hput, List.drop_replicate, ← hrest]
  simp only [List.append_assoc]

theorem append_full {c : QosCursor} (h : c.left = 0) (p : Piece) : step c p = some c := by
  cases p with
  | value v =>
      change (qosAppendValue v c).map Prod.snd = some c
      rw [qosAppendValue, if_pos h]
      rfl
  | delimiter d =>
      change (qosAddDelimiter d c).map Prod.snd = some c
      rw [qosAddDelimiter, if_pos h]
      rfl

theorem run_full {c : QosCursor} (h : c.left = 0) (ps : List Piece) : run step c ps = some c := by
  induction ps with
  | nil => rfl
  | cons p ps ih => rw [run, append_full h, Option.bind_some, ih]

theorem step_zero (c : QosCursor) : step c (.value 0) = some c := by
  change (qosAppendValue 0 c).map Prod.snd = some c
  unfold qosAppendValue
  split <;> rfl

/-- What the size that is left becomes is a wrapped difference. -/
theorem step_value {c : QosCursor} {text : List Char} (h : c.Holds text) (hleft : text.length < 63) {v : Int}
    (hv : v ≠ 0) (hshort : (decimal v).length ≤ 11) :
    ∃ memory, step c (.value v) =
        some ⟨memory, c.offset + (decimal v).length, sizeSub c.left (decimal v).length⟩ ∧
      memory = text ++ (decimal v).take (62 - text.length) ++
        List.replicate (64 - (text ++ (decimal v).take (62 - text.length)).length) nul := by
  have hne : c.left ≠ 0 := by
    rw [h.left]
    omega
  have hprinted : printed (decimal v) = (decimal v).length := printed_of_lt (by omega)
  have hsize : sizeOfInt (decimal v).length = (decimal v).length := by
    rw [sizeOfInt_of_nonneg (by omega) (by omega)]
    rfl
  refine ⟨_, ?_, rfl⟩
  change (qosAppendValue v c).map Prod.snd = _
  rw [qosAppendValue, if_neg hne, if_pos hv, h.snprintf_cut hleft]
  simp only [hprinted, hsize, Option.bind_eq_bind, Option.bind_some, Option.map_some]

theorem step_delimiter {c : QosCursor} {text : List Char} (h : c.Holds text) (hleft : text.length < 63)
    (d : Char) : ∃ c', step c (.delimiter d) = some c' ∧ c'.Holds (text ++ [d]) := by
  have hne : c.left ≠ 0 := by
    rw [h.left]
    omega
  have hsucc : 64 - text.length = (64 - (text ++ [d]).length) + 1 := by
    rw [List.length_append, List.length_singleton]
    omega
  have hstore : store c.memory c.offset [d] =
      some (text ++ [d] ++ List.replicate (64 - (text ++ [d]).length) nul) := by
    rw [h.memory, h.offset, hsucc, List.replicate_succ, store_one, List.append_assoc]
    rfl
  refine ⟨⟨_, c.offset + 1, sizeSub c.left 1⟩, ?_, rfl, ?_, ?_, ?_⟩
  · change (qosAddDelimiter d c).map Prod.snd = _
    rw [qosAddDelimiter, if_neg hne, hstore]
    rfl
  · simp only [h.offset, List.length_append, List.length_singleton]
    omega
  · simp only [sizeSub, h.left, List.length_append, List.length_singleton]
    split <;> omega
  · rw [List.length_append, List.length_singleton]
    omega

theorem step_room {c : QosCursor} {text : List Char} (h : c.Holds text) {p : Piece} (hroom : p.Room text.length)
    (hshort : p.text.length ≤ 11) : ∃ c', step c p = some c' ∧ c'.Holds (text ++ p.text) := by
  cases p with
  | delimiter d =>
      apply step_delimiter h
      change text.length + 1 ≤ 63 at hroom
      omega
  | value v =>
      by_cases hv : v = 0
      · subst hv
        exact ⟨c, step_zero c, by simpa [Piece.text, valueText] using h⟩
      · have htext : (Piece.value v).text = decimal v := if_neg hv
        rw [htext] at hshort ⊢
        have hlen : text.length + (decimal v).length ≤ 62 := hroom.resolve_left hv
        obtain ⟨memory, hstep, hmemory⟩ := step_value h (by omega) hv hshort
        rw [List.take_of_length_le (by omega)] at hmemory
        refine ⟨_, hstep, hmemory, ?_, ?_, ?_⟩
        · simp only [h.offset, List.length_append]
          omega
        · simp only [sizeSub, h.left, List.length_append]
          split <;> omega
        · rw [List.length_append]
          omega

theorem step_overrun {c : QosCursor} {text : List Char} (h : c.Holds text) {p : Piece}
    (hroom : ¬p.Room text.length) (hshort : p.text.length ≤ 11) :
    (∃ c', step c p = some c' ∧ c'.offset + c'.left ≠ 63) ∨
      ∃ c' short, step c p = some c' ∧ c'.left = 0 ∧ Written c'.memory short ∧
        short <+: text ++ p.text ∧ short.length < (text ++ p.text).length := by
  have hfits := h.fits
  by_cases hleft : text.length < 63
  · cases p with
    | delimiter d =>
        change ¬text.length + 1 ≤ 63 at hroom
        omega
    | value v =>
        obtain ⟨hv, hlen⟩ := not_or.mp hroom
        have htext : (Piece.value v).text = decimal v := if_neg hv
        rw [htext] at hshort ⊢
        obtain ⟨memory, hstep, hmemory⟩ := step_value h hleft hv hshort
        by_cases hcut : text.length + (decimal v).length = 63
        · right
          refine ⟨_, text ++ (decimal v).take (62 - text.length), hstep, ?_, ?_, ?_, ?_⟩
          · simp only [sizeSub, h.left]
            split <;> omega
          · refine ⟨List.replicate 1 nul, ?_⟩
            have htwo : 64 - (text ++ (decimal v).take (62 - text.length)).length = 2 := by
              simp only [List.length_append, List.length_take]
              omega
            simp only [hmemory, htwo]
            rfl
          · exact List.prefix_append_right_inj text |>.mpr (List.take_prefix _ _)
          · simp only [List.length_append, List.length_take]
            omega
        · left
          refine ⟨_, hstep, ?_⟩
          simp only [sizeSub, h.left, h.offset]
          split <;> omega
  · right
    have hzero : c.left = 0 := by
      rw [h.left]
      omega
    refine ⟨c, text, append_full hzero p, hzero, h.written, List.prefix_append _ _, ?_⟩
    have hpos : 0 < p.text.length := by
      cases p with
      | delimiter d => exact Nat.zero_lt_one
      | value v =>
          obtain ⟨hv, -⟩ := not_or.mp hroom
          have htext : (Piece.value v).text = decimal v := if_neg hv
          rw [htext]
          exact decimal_length_pos v
    rw [List.length_append]
    omega

def Rooms : Nat → List Piece → Prop
  | _, [] => True
  | n, p :: ps => p.Room n ∧ Rooms (n + p.text.length) ps

def Short (ps : List Piece) : Prop := ∀ p ∈ ps, p.text.length ≤ 11

theorem run_rooms {c : QosCursor} {text : List Char} {ps : List Piece} (h : c.Holds text)
    (hrooms : Rooms text.length ps) (hshort : Short ps) :
    (∃ c', run step c ps = some c' ∧ c'.Holds (text ++ ps.flatMap Piece.text)) ∧
      Always step (fun c => c.offset + c.left = 63) c ps := by
  induction ps generalizing c text with
  | nil =>
      refine ⟨⟨c, rfl, by simpa using h⟩, ?_⟩
      intro xs t hp hr
      rw [List.prefix_nil.mp hp] at hr
      cases hr
      exact h.balanced
  | cons p ps ih =>
      obtain ⟨c₁, hstep, h₁⟩ := step_room h hrooms.1 (hshort p List.mem_cons_self)
      have hrooms₁ : Rooms (text ++ p.text).length ps := by
        rw [List.length_append]
        exact hrooms.2
      obtain ⟨⟨c', hrun, hc'⟩, halways⟩ :=
        ih h₁ hrooms₁ fun q hq => hshort q (List.mem_cons_of_mem _ hq)
      refine ⟨⟨c', by rw [run, hstep, Option.bind_some, hrun], ?_⟩, ?_⟩
      · rw [List.flatMap_cons, ← List.append_assoc]
        exact hc'
      · exact always_of_head h.balanced fun t ht => by
          rw [hstep] at ht
          cases ht
          exact halways

/-- The first piece that does not fit spoils the rest. -/
theorem run_overrun {c : QosCursor} {text : List Char} {ps : List Piece} (h : c.Holds text)
    (hrooms : ¬Rooms text.length ps) (hshort : Short ps) :
    ¬Always step (fun c => c.offset + c.left = 63) c ps ∨
      ∃ c' short, run step c ps = some c' ∧ Written c'.memory short ∧
        short <+: text ++ ps.flatMap Piece.text ∧ short.length < (text ++ ps.flatMap Piece.text).length := by
  induction ps generalizing c text with
  | nil => exact absurd trivial hrooms
  | cons p ps ih =>
      rw [List.flatMap_cons, ← List.append_assoc]
      by_cases hroom : p.Room text.length
      · obtain ⟨c₁, hstep, h₁⟩ := step_room h hroom (hshort p List.mem_cons_self)
        have hrooms₁ : ¬Rooms (text ++ p.text).length ps := by
          rw [List.length_append]
          exact fun hrest => hrooms ⟨hroom, hrest⟩
        rcases ih h₁ hrooms₁ fun q hq => hshort q (List.mem_cons_of_mem _ hq) with
          hwrap | ⟨c', short, hrun, hw, hfront, hlen⟩
        · exact Or.inl fun halways => hwrap (always_cons halways hstep)
        · exact Or.inr ⟨c', short, by rw [run, hstep, Option.bind_some, hrun], hw, hfront, hlen⟩
      · rcases step_overrun h hroom (hshort p List.mem_cons_self) with
          ⟨c₁, hstep, hwrap⟩ | ⟨c₁, short, hstep, hzero, hw, hfront, hlen⟩
        · left
          intro halways
          have hrest := always_cons halways hstep
          exact hwrap (hrest [] c₁ List.nil_prefix rfl)
        · refine Or.inr ⟨c₁, short, ?_, hw, hfront.trans (List.prefix_append _ _), ?_⟩
          · rw [run, hstep, Option.bind_some, run_full hzero]
          · rw [List.length_append]
            omega

theorem valueText_length (n : Nat) : (valueText (intOfSize n)).length ≤ 11 := by
  unfold valueText
  split
  · exact Nat.zero_le _
  · exact decimal_length (by decide) (intOfSize_abs n)

theorem valueText_eq_nil {v : Int} : v = 0 ↔ (valueText v).length = 0 := by
  by_cases hv : v = 0
  · simp [valueText, hv]
  · have hpos := decimal_length_pos v
    simp only [valueText, hv, if_false, false_iff]
    omega

theorem room_value {n : Nat} {v : Int} :
    (Piece.value v).Room n ↔ (valueText v).length = 0 ∨ n + (valueText v).length ≤ 62 := by
  by_cases hv : v = 0
  · simp [Piece.Room, valueText, hv]
  · have hpos := decimal_length_pos v
    simp only [Piece.Room, valueText, hv, if_false, false_or]
    omega

theorem room_delimiter {n : Nat} {d : Char} : (Piece.delimiter d).Room n ↔ n + 1 ≤ 63 := Iff.rfl

section Fields

variable (a b c d e f g h i j k : Int)

def fieldDigits : Nat := (([a, b, c, d, e, f, g, h, i, j, k].map fun v => (valueText v).length)).sum

theorem fieldPieces_rooms : Rooms 0 (fieldPieces a b c d e f g h i j k) ↔
    fieldDigits a b c d e f g h i j k ≤ 52 ∨ fieldDigits a b c d e f g h i j k = 53 ∧ k = 0 := by
  simp only [Rooms, fieldPieces, fieldDigits, room_value, room_delimiter, Piece.text, List.length_singleton,
    List.map_cons, List.map_nil, List.sum_cons, List.sum_nil, and_true]
  rw [valueText_eq_nil]
  omega

theorem fieldPieces_length : ((fieldPieces a b c d e f g h i j k).flatMap Piece.text).length =
    fieldDigits a b c d e f g h i j k + 10 := by
  simp only [fieldPieces, fieldDigits, List.flatMap_cons, List.flatMap_nil, Piece.text, List.length_append,
    List.length_singleton, List.length_nil, List.map_cons, List.map_nil, List.sum_cons, List.sum_nil]
  omega

end Fields

theorem qosPieces_short (qos : RmwQosProfile) : Short (qosPieces qos) := by
  simp only [Short, qosPieces, fieldPieces, List.forall_mem_cons, Piece.text, List.length_singleton,
    valueText_length, true_and]
  simp

theorem rooms_iff (qos : RmwQosProfile) : Rooms 0 (qosPieces qos) ↔ Fits qos := by
  rw [qosPieces, fieldPieces_rooms]
  rfl

theorem qosText_length (qos : RmwQosProfile) : (qosText qos).length = digits qos + 10 := by
  rw [qosText, qosPieces, fieldPieces_length]
  rfl

theorem valueText_notMem {c : Char} (hminus : c ≠ '-') (hdigit : ¬c.isDigit) (v : Int) :
    c ∉ valueText v := by
  unfold valueText
  split
  · exact List.not_mem_nil
  · exact decimal_notMem hminus hdigit v

theorem nul_notMem_valueText (v : Int) : nul ∉ valueText v := valueText_notMem (by decide) (by decide) v

theorem nul_notMem_qosText (qos : RmwQosProfile) : nul ∉ qosText qos := by
  have hpieces : ∀ p ∈ qosPieces qos, nul ∉ p.text := by
    simp only [qosPieces, fieldPieces, List.forall_mem_cons, Piece.text, nul_notMem_valueText,
      not_false_eq_true, true_and]
    decide
  intro h
  obtain ⟨p, hp, hnul⟩ := List.mem_flatMap.mp h
  exact hpieces p hp hnul

theorem Fits.run {qos : RmwQosProfile} (h : Fits qos) :
    (∃ c, run step qosStart (qosPieces qos) = some c ∧ c.Holds (qosText qos)) ∧
      Always step (fun c => c.offset + c.left = 63) qosStart (qosPieces qos) := by
  have hrooms : Rooms ([] : List Char).length (qosPieces qos) := (rooms_iff qos).mpr h
  have hrun := run_rooms start_holds hrooms (qosPieces_short qos)
  rwa [List.nil_append] at hrun

theorem qosToKeyexpr_eq (allocated : Bool) {qos : RmwQosProfile} (h : Fits qos) :
    qosToKeyexpr allocated (some qos) =
      if allocated then .ok ⟨qosText qos, nul_notMem_qosText qos⟩ else .error .error := by
  obtain ⟨⟨c, hrun, hc⟩, -⟩ := h.run
  simp only [qosToKeyexpr, hrun, defined_some, ok_bind]
  exact zStringCopyFromStr_written allocated hc.written (nul_notMem_qosText qos)

theorem fits_of_staysInBuffer {qos : RmwQosProfile} (h : StaysInBuffer qos) : Fits qos := by
  rw [← rooms_iff]
  by_contra hrooms
  rcases run_overrun start_holds hrooms (qosPieces_short qos) with
    hwrap | ⟨c, short, hrun, hw, hfront, hlen⟩
  · exact hwrap h.balanced
  · rw [List.nil_append] at hfront hlen
    have hnul : nul ∉ short := fun hm => nul_notMem_qosText qos (hfront.subset hm)
    have hkey : qosToKeyexpr true (some qos) = .ok ⟨short, hnul⟩ := by
      simp only [qosToKeyexpr, hrun, defined_some, ok_bind]
      exact zStringCopyFromStr_written true hw hnul
    rcases h.complete true with herror | ⟨key, hok, hwhole⟩
    · rw [hkey] at herror
      cases herror
    · rw [hkey] at hok
      cases hok
      rw [qosText] at hwhole
      rw [← hwhole] at hlen
      exact absurd hlen (Nat.lt_irrefl _)

theorem Fits.staysInBuffer {qos : RmwQosProfile} (h : Fits qos) : StaysInBuffer qos := by
  obtain ⟨⟨c, hrun, -⟩, halways⟩ := h.run
  refine ⟨by rw [hrun]; rfl, halways, ?_⟩
  intro allocated
  rw [qosToKeyexpr_eq allocated h]
  cases allocated with
  | false => exact Or.inl (if_neg Bool.false_ne_true)
  | true =>
      refine Or.inr ⟨⟨qosText qos, nul_notMem_qosText qos⟩, if_pos rfl, ?_⟩
      dsimp only

/-- The encoding of a profile stays in its buffer exactly if its digits leave
room for the delimiters. -/
theorem staysInBuffer_iff (qos : RmwQosProfile) : StaysInBuffer qos ↔ Fits qos :=
  ⟨fits_of_staysInBuffer, Fits.staysInBuffer⟩

def infinite : RmwTime := ⟨9223372036, 854775807⟩

def endless (depth : Nat) : RmwQosProfile := ⟨1, depth, 1, 1, infinite, infinite, 1, infinite⟩

/-- Three infinite durations wrap the size that is left, and with a large
depth the array is left as well. -/
theorem endless_leaves : ¬StaysInBuffer (endless 10) ∧ ¬StaysInBuffer (endless (2 ^ 31 - 1)) ∧
    run step qosStart (qosPieces (endless (2 ^ 31 - 1))) = none := by
  refine ⟨?_, ?_, by decide +kernel⟩
  · intro h
    exact absurd (fits_of_staysInBuffer h) (by decide +kernel)
  · intro h
    exact absurd (fits_of_staysInBuffer h) (by decide +kernel)

def parseQos (text : List Char) : Option RmwQosProfile :=
  match (text.splitOn ':').map (·.splitOn ',') with
  | [[reliability], [durability], [history, depth], [deadlineSec, deadlineNsec],
      [lifespanSec, lifespanNsec], [liveliness, leaseSec, leaseNsec]] =>
        some {
          history := readDecimal history
          depth := readDecimal depth
          reliability := readDecimal reliability
          durability := readDecimal durability
          deadline := ⟨readDecimal deadlineSec, readDecimal deadlineNsec⟩
          lifespan := ⟨readDecimal lifespanSec, readDecimal lifespanNsec⟩
          liveliness := readDecimal liveliness
          livelinessLeaseDuration := ⟨readDecimal leaseSec, readDecimal leaseNsec⟩ }
  | _ => none

theorem readDecimal_valueText (n : Nat) : readDecimal (valueText n) = n := by
  unfold valueText
  split
  · rename_i hzero
    rw [Int.natCast_eq_zero.mp hzero]
    rfl
  · exact readDecimal_decimal n

theorem fieldPieces_groups (a b c d e f g h i j k : Int) :
    (fieldPieces a b c d e f g h i j k).flatMap Piece.text =
      [':'].intercalate ([[valueText a], [valueText b], [valueText c, valueText d],
        [valueText e, valueText f], [valueText g, valueText h],
        [valueText i, valueText j, valueText k]].map [','].intercalate) := by
  simp [fieldPieces, Piece.text, List.intercalate_cons_cons]

theorem fieldPieces_split (a b c d e f g h i j k : Int) :
    (((fieldPieces a b c d e f g h i j k).flatMap Piece.text).splitOn ':').map (·.splitOn ',') =
      [[valueText a], [valueText b], [valueText c, valueText d], [valueText e, valueText f],
        [valueText g, valueText h], [valueText i, valueText j, valueText k]] := by
  have hplain : ∀ v : Int, ':' ∉ valueText v ∧ ',' ∉ valueText v :=
    fun v => ⟨valueText_notMem (by decide) (by decide) v, valueText_notMem (by decide) (by decide) v⟩
  rw [fieldPieces_groups, splitOn_groups (by simp) (by simp) (by simp [hplain]) (by decide)]

theorem parse_fields (a b c d e f g h i j k : Nat) :
    parseQos ((fieldPieces a b c d e f g h i j k).flatMap Piece.text) =
      some ⟨c, d, a, b, ⟨e, f⟩, ⟨g, h⟩, i, ⟨j, k⟩⟩ := by
  rw [parseQos, fieldPieces_split]
  simp only [readDecimal_valueText]

structure Encodable (qos : RmwQosProfile) : Prop where
  numbers : ∀ n ∈ qosNumbers qos, n < 2 ^ 31
  length : (qosText qos).length ≤ 62

theorem Encodable.fits {qos : RmwQosProfile} (h : Encodable qos) : Fits qos := by
  have hlength := h.length
  rw [qosText_length] at hlength
  exact Or.inl (by omega)

theorem parse_qosText {qos : RmwQosProfile} (h : ∀ n ∈ qosNumbers qos, n < 2 ^ 31) :
    parseQos (qosText qos) = some qos := by
  simp only [qosNumbers, List.forall_mem_cons] at h
  obtain ⟨ha, hb, hc, hd, he, hf, hg, hh, hi, hj, hk, -⟩ := h
  rw [qosText, qosPieces, intOfSize_of_lt ha, intOfSize_of_lt hb, intOfSize_of_lt hc, intOfSize_of_lt hd,
    intOfSize_of_lt he, intOfSize_of_lt hf, intOfSize_of_lt hg, intOfSize_of_lt hh, intOfSize_of_lt hi,
    intOfSize_of_lt hj, intOfSize_of_lt hk, parse_fields]

/-- What is printed of a profile is parsed as the profile, so that no other
one is printed alike. -/
theorem qos_round_trips {p q : RmwQosProfile} (hp : Encodable p) (hq : Encodable q) :
    ∃ keyP keyQ, qosToKeyexpr true (some p) = .ok keyP ∧ qosToKeyexpr true (some q) = .ok keyQ ∧
      parseQos keyP.chars = some p ∧ parseQos keyQ.chars = some q ∧ (keyP = keyQ → p = q) := by
  have hkey : ∀ {qos : RmwQosProfile}, Encodable qos →
      ∃ key, qosToKeyexpr true (some qos) = .ok key ∧ parseQos key.chars = some qos := by
    intro qos h
    refine ⟨_, (qosToKeyexpr_eq true h.fits).trans (if_pos rfl), ?_⟩
    dsimp only
    exact parse_qosText h.numbers
  obtain ⟨keyP, hkeyP, hparseP⟩ := hkey hp
  obtain ⟨keyQ, hkeyQ, hparseQ⟩ := hkey hq
  refine ⟨keyP, keyQ, hkeyP, hkeyQ, hparseP, hparseQ, ?_⟩
  rintro rfl
  exact Option.some.inj (hparseP.symm.trans hparseQ)

def reliable (depth : Nat) : RmwQosProfile := ⟨1, depth, 1, 2, ⟨0, 0⟩, ⟨0, 0⟩, 1, ⟨0, 0⟩⟩

theorem reliable_encodable : Encodable (reliable 10) ∧ Encodable (reliable 0) := by
  refine ⟨⟨by decide, by decide +kernel⟩, ⟨by decide, by decide +kernel⟩⟩

theorem reliable_round_trips :
    ∃ keyP keyQ, qosToKeyexpr true (some (reliable 10)) = .ok keyP ∧
      qosToKeyexpr true (some (reliable 0)) = .ok keyQ ∧ parseQos keyP.chars = some (reliable 10) ∧
      parseQos keyQ.chars = some (reliable 0) ∧ (keyP = keyQ → reliable 10 = reliable 0) :=
  qos_round_trips reliable_encodable.1 reliable_encodable.2

end RmwZenohPico.QosKeyexpr
