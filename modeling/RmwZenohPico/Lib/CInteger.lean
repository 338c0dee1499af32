import Mathlib.Algebra.Ring.Int.Defs

namespace RmwZenohPico.Lib.CInteger

structure IntType where
  signed : Bool
  bits : Nat

def long : IntType := ⟨true, 63⟩

def uint64 : IntType := ⟨false, 64⟩

def IntType.low (t : IntType) : Int := if t.signed then -2 ^ t.bits else 0

def IntType.high (t : IntType) : Int := 2 ^ t.bits

def IntType.InRange (t : IntType) (x : Int) : Prop := t.low ≤ x ∧ x < t.high

instance (t : IntType) (x : Int) : Decidable (t.InRange x) :=
  inferInstanceAs (Decidable (t.low ≤ x ∧ x < t.high))

/-- The only number in the range that differs from x by a multiple of its
size. -/
def IntType.wrap (t : IntType) (x : Int) : Int := (x - t.low) % (t.high - t.low) + t.low

theorem high_pos (t : IntType) : 0 < t.high := Int.pow_pos (by decide)

theorem low_nonpos (t : IntType) : t.low ≤ 0 := by
  unfold IntType.low
  split
  · exact Int.neg_nonpos_of_nonneg (Int.le_of_lt (high_pos t))
  · exact Int.le_refl 0

theorem wrap_inRange (t : IntType) (x : Int) : t.InRange (t.wrap x) := by
  have hlow := low_nonpos t
  have hhigh := high_pos t
  have hnonneg := Int.emod_nonneg (x - t.low) (show t.high - t.low ≠ 0 by omega)
  have hlt := Int.emod_lt_of_pos (x - t.low) (show 0 < t.high - t.low by omega)
  unfold IntType.wrap
  constructor
  · omega
  · omega

theorem wrap_of_inRange {t : IntType} {x : Int} (h : t.InRange x) : t.wrap x = x := by
  have hsub : (x - t.low) % (t.high - t.low) = x - t.low := by
    apply Int.emod_eq_of_lt
    · exact Int.sub_nonneg.mpr h.1
    · exact Int.sub_lt_sub_right h.2 _
  rw [IntType.wrap, hsub, Int.sub_add_cancel]

theorem inRange_of_nonneg {t : IntType} {x : Int} (h : 0 ≤ x) (hlt : x < t.high) : t.InRange x :=
  ⟨Int.le_trans (low_nonpos t) h, hlt⟩

structure CInt (t : IntType) where
  val : Int
  inRange : t.InRange val

variable {t u : IntType}

def CInt.ofInt (t : IntType) (x : Int) : CInt t := ⟨t.wrap x, wrap_inRange t x⟩

/-- The conversion to another type, which wraps if that is signed, too. -/
def CInt.cast (u : IntType) (a : CInt t) : CInt u := .ofInt u a.val

/-- The result of an operation. Out of the range it wraps if the type is
unsigned, and is undefined if it is signed. -/
def checked (t : IntType) (x : Int) : Option (CInt t) :=
  if h : t.InRange x then some ⟨x, h⟩ else if t.signed then none else some (.ofInt t x)

def CInt.add (a b : CInt t) : Option (CInt t) := checked t (a.val + b.val)

/-- The quotient is rounded towards zero. -/
def CInt.div (a b : CInt t) : Option (CInt t) :=
  if b.val = 0 then none else checked t (a.val.tdiv b.val)

def CInt.mod (a b : CInt t) : Option (CInt t) :=
  (a.div b).bind fun _ => checked t (a.val.tmod b.val)

theorem ofInt_val {x : Int} (h : t.InRange x) : (CInt.ofInt t x).val = x := wrap_of_inRange h

theorem cast_val {a : CInt t} (h : u.InRange a.val) : (a.cast u).val = a.val := wrap_of_inRange h

theorem checked_val {x : Int} (h : t.InRange x) : ∃ c, checked t x = some c ∧ c.val = x :=
  ⟨⟨x, h⟩, dif_pos h, rfl⟩

theorem add_val {a b : CInt t} (h : t.InRange (a.val + b.val)) :
    ∃ c, a.add b = some c ∧ c.val = a.val + b.val :=
  checked_val h

theorem div_val {a b : CInt t} (ha : 0 ≤ a.val) (hb : 0 < b.val) :
    ∃ c, a.div b = some c ∧ c.val = a.val / b.val := by
  have hle : a.val / b.val ≤ a.val := Int.ediv_le_self _ ha
  have hrange : t.InRange (a.val / b.val) :=
    inRange_of_nonneg (Int.ediv_nonneg ha (Int.le_of_lt hb)) (Int.lt_of_le_of_lt hle a.inRange.2)
  obtain ⟨c, hc, hval⟩ := checked_val hrange
  refine ⟨c, ?_, hval⟩
  rw [CInt.div, if_neg (Int.ne_of_gt hb), Int.tdiv_eq_ediv_of_nonneg ha, hc]

theorem mod_val {a b : CInt t} (ha : 0 ≤ a.val) (hb : 0 < b.val) :
    ∃ c, a.mod b = some c ∧ c.val = a.val % b.val := by
  obtain ⟨q, hq, -⟩ := div_val ha hb
  have hlt : a.val % b.val < b.val := Int.emod_lt_of_pos _ hb
  have hrange : t.InRange (a.val % b.val) :=
    inRange_of_nonneg (Int.emod_nonneg _ (Int.ne_of_gt hb)) (Int.lt_trans hlt b.inRange.2)
  obtain ⟨c, hc, hval⟩ := checked_val hrange
  refine ⟨c, ?_, hval⟩
  rw [CInt.mod, hq, Option.bind_some, Int.tmod_eq_emod_of_nonneg ha, hc]

end RmwZenohPico.Lib.CInteger
