import RmwZenohPico.Lib.CInteger
import RmwZenohPico.Wait
import Mathlib.Data.Int.Order.Basic
import Mathlib.Data.Prod.Lex

namespace RmwZenohPico.WaitDeadline

open Lib.CInteger Wait

structure Timespec where
  tvSec : CInt long
  tvNsec : CInt long

/-- The absolute time that is handed to _z_condvar_wait_until, or none if an
addition of signed numbers overflows. Where a sum mixes the two kinds, it is
one of unsigned numbers. -/
def zCondvarTimewait (now waitTimeout : Timespec) : Option Timespec := do
  let sum ← now.tvNsec.add waitTimeout.tvNsec
  let nsecTime := sum.cast uint64
  let carry ← nsecTime.div (.ofInt uint64 1000000000)
  let seconds ← (waitTimeout.tvSec.cast uint64).add carry
  let tvSec ← (now.tvSec.cast uint64).add seconds
  let tvNsec ← nsecTime.mod (.ofInt uint64 1000000000)
  some ⟨tvSec.cast long, tvNsec.cast long⟩

def timespecOf (waitTimeout : RmwTime) : Timespec :=
  ⟨.ofInt long waitTimeout.sec, .ofInt long waitTimeout.nsec⟩

inductive Waiting
  | condvarWait
  | condvarTimewait (abstime : Timespec)
  | noWait

def rmwWaitSection (now : Timespec) : Option RmwTime → Option Waiting
  | none => some .condvarWait
  | some waitTimeout =>
      if waitTimeout.sec ≠ 0 ∨ waitTimeout.nsec ≠ 0 then
        (zCondvarTimewait now (timespecOf waitTimeout)).map .condvarTimewait
      else some .noWait

/-- The state in which each way of waiting begins. The deadline itself is left
to the waking thread. -/
def entered {ι M T : Type} (s : State ι M T) (c : Call ι) : Waiting → State ι M T
  | .condvarWait => s.wake c
  | .condvarTimewait _ => { s with waiter := .asleep c false }
  | .noWait => s.leave c

def Timespec.nanoseconds (t : Timespec) : Int := t.tvSec.val * 10 ^ 9 + t.tvNsec.val

def nanoseconds (t : RmwTime) : Int := t.sec * 10 ^ 9 + t.nsec

def Timespec.Normalised (t : Timespec) : Prop := 0 ≤ t.tvNsec.val ∧ t.tvNsec.val < 10 ^ 9

def Timespec.order (t : Timespec) : Int ×ₗ Int := toLex (t.tvSec.val, t.tvNsec.val)

structure CurrentTime (now : Timespec) : Prop where
  normalised : now.Normalised
  nonneg : 0 ≤ now.tvSec.val
  sec : now.tvSec.val < 2 ^ 61

structure Timeout (t : RmwTime) : Prop where
  sec : t.sec < 2 ^ 61
  nsec : t.nsec < 2 ^ 61

structure Deadline (now : Timespec) (timeout : RmwTime) (abstime : Timespec) : Prop where
  computed : zCondvarTimewait now (timespecOf timeout) = some abstime
  normalised : abstime.Normalised
  exact : abstime.nanoseconds = now.nanoseconds + nanoseconds timeout

theorem order_le_iff {s t : Timespec} (hs : s.Normalised) (ht : t.Normalised) :
    s.order ≤ t.order ↔ s.nanoseconds ≤ t.nanoseconds := by
  obtain ⟨hs, hs'⟩ := hs
  obtain ⟨ht, ht'⟩ := ht
  rw [Timespec.order, Timespec.order, Prod.Lex.toLex_le_toLex]
  unfold Timespec.nanoseconds
  dsimp only
  omega

theorem long_inRange {x : Int} (h : 0 ≤ x) (hlt : x < 2 ^ 63) : long.InRange x := inRange_of_nonneg h hlt

theorem uint64_inRange {x : Int} (h : 0 ≤ x) (hlt : x < 2 ^ 64) : uint64.InRange x := inRange_of_nonneg h hlt

theorem billion_val : (CInt.ofInt uint64 1000000000).val = 10 ^ 9 :=
  ofInt_val (uint64_inRange (by decide) (by decide))

/-- The nanoseconds are carried to the seconds, and no sum leaves its type. -/
theorem timewait_carries {now : Timespec} (hnow : CurrentTime now) (waitTimeout : Timespec)
    (hsec : 0 ≤ waitTimeout.tvSec.val) (hsec' : waitTimeout.tvSec.val < 2 ^ 61)
    (hnsec : 0 ≤ waitTimeout.tvNsec.val) (hnsec' : waitTimeout.tvNsec.val < 2 ^ 61) :
    ∃ abstime, zCondvarTimewait now waitTimeout = some abstime ∧
      abstime.tvSec.val = now.tvSec.val +
        (waitTimeout.tvSec.val + (now.tvNsec.val + waitTimeout.tvNsec.val) / 10 ^ 9) ∧
      abstime.tvNsec.val = (now.tvNsec.val + waitTimeout.tvNsec.val) % 10 ^ 9 := by
  obtain ⟨⟨hnow₀, hnow₁⟩, hnow₂, hnow₃⟩ := hnow
  obtain ⟨sum, hsum, hsumVal⟩ := add_val (long_inRange (x := now.tvNsec.val + waitTimeout.tvNsec.val)
    (by omega) (by omega))
  have hnsecTime : (sum.cast uint64).val = sum.val := cast_val (uint64_inRange (by omega) (by omega))
  have hbillion : 0 < (CInt.ofInt uint64 1000000000).val := by
    rw [billion_val]
    decide
  obtain ⟨carry, hcarry, hcarryVal⟩ := div_val (a := sum.cast uint64) (by omega) hbillion
  rw [billion_val, hnsecTime, hsumVal] at hcarryVal
  have htimeout : (waitTimeout.tvSec.cast uint64).val = waitTimeout.tvSec.val :=
    cast_val (uint64_inRange hsec (by omega))
  obtain ⟨seconds, hseconds, hsecondsVal⟩ := add_val (a := waitTimeout.tvSec.cast uint64) (b := carry)
    (uint64_inRange (by omega) (by omega))
  have hnowSec : (now.tvSec.cast uint64).val = now.tvSec.val := cast_val (uint64_inRange hnow₂ (by omega))
  obtain ⟨tvSec, htvSec, htvSecVal⟩ := add_val (a := now.tvSec.cast uint64) (b := seconds)
    (uint64_inRange (by omega) (by omega))
  obtain ⟨tvNsec, htvNsec, htvNsecVal⟩ := mod_val (a := sum.cast uint64) (by omega) hbillion
  rw [billion_val, hnsecTime, hsumVal] at htvNsecVal
  refine ⟨⟨tvSec.cast long, tvNsec.cast long⟩, ?_, ?_, ?_⟩
  · simp only [zCondvarTimewait, hsum, hcarry, hseconds, htvSec, htvNsec, Option.bind_eq_bind, Option.bind_some]
  · rw [cast_val (long_inRange (by omega) (by omega))]
    omega
  · rw [cast_val (long_inRange (by omega) (by omega)), htvNsecVal]

theorem timespecOf_val {t : RmwTime} (h : Timeout t) :
    (timespecOf t).tvSec.val = t.sec ∧ (timespecOf t).tvNsec.val = t.nsec := by
  obtain ⟨hsec, hnsec⟩ := h
  exact ⟨ofInt_val (long_inRange (by omega) (by omega)), ofInt_val (long_inRange (by omega) (by omega))⟩

theorem exists_deadline {now : Timespec} {timeout : RmwTime} (hnow : CurrentTime now) (h : Timeout timeout) :
    ∃ abstime, Deadline now timeout abstime := by
  obtain ⟨hsec, hnsec⟩ := timespecOf_val h
  obtain ⟨hlt, hlt'⟩ := h
  obtain ⟨abstime, hcomputed, hcarried, hrest⟩ := timewait_carries hnow (timespecOf timeout) (by omega)
    (by omega) (by omega) (by omega)
  refine ⟨abstime, hcomputed, ?_, ?_⟩
  · rw [Timespec.Normalised, hrest]
    omega
  · rw [hsec, hnsec] at hcarried
    rw [hnsec] at hrest
    rw [Timespec.nanoseconds, Timespec.nanoseconds, nanoseconds, hcarried, hrest]
    omega

theorem Deadline.order_le {now : Timespec} {t t' : RmwTime} {abstime abstime' : Timespec}
    (h : Deadline now t abstime) (h' : Deadline now t' abstime') (hle : nanoseconds t ≤ nanoseconds t') :
    abstime.order ≤ abstime'.order := by
  rw [order_le_iff h.normalised h'.normalised, h.exact, h'.exact]
  omega

theorem Deadline.now_le {now : Timespec} {t : RmwTime} {abstime : Timespec} (hnow : CurrentTime now)
    (h : Deadline now t abstime) : now.order ≤ abstime.order := by
  rw [order_le_iff hnow.normalised h.normalised, h.exact, nanoseconds]
  omega

theorem enterSection_waits {ι M T : Type} (s : State ι M T) (c : Call ι) {now : Timespec} {w : Waiting}
    (h : rmwWaitSection now c.waitTimeout = some w) : s.enterSection c = entered s c w := by
  cases ht : c.waitTimeout with
  | none =>
      rw [ht] at h
      cases h
      simp only [State.enterSection, ht, entered]
  | some timeout =>
      rw [ht, rmwWaitSection] at h
      by_cases hzero : timeout.sec = 0 ∧ timeout.nsec = 0
      · simp only [hzero.1, hzero.2, ne_eq, not_true, or_self, if_false, Option.some.injEq] at h
        subst h
        simp only [State.enterSection, ht, hzero, and_self, if_true, entered]
      · rw [if_pos (by omega)] at h
        obtain ⟨abstime, -, rfl⟩ := Option.map_eq_some_iff.mp h
        simp only [State.enterSection, ht, hzero, if_false, entered]

theorem Deadline.waited {now : Timespec} {timeout : RmwTime} {abstime : Timespec}
    (h : Deadline now timeout abstime) :
    rmwWaitSection now (some timeout) = some (if timeout = ⟨0, 0⟩ then .noWait else .condvarTimewait abstime) := by
  by_cases hzero : timeout = ⟨0, 0⟩
  · rw [if_pos hzero, hzero]
    rfl
  · have hne : timeout.sec ≠ 0 ∨ timeout.nsec ≠ 0 := by
      by_contra hboth
      simp only [not_or, not_not] at hboth
      apply hzero
      cases timeout
      obtain ⟨rfl, rfl⟩ := hboth
      rfl
    rw [if_neg hzero, rmwWaitSection, if_pos hne, h.computed]
    rfl

/-- The deadline of a wait is the timeout after the current time, so that it is
not before that, and not before the deadline of a shorter timeout. -/
theorem wait_deadline {now : Timespec} {timeout : RmwTime} (hnow : CurrentTime now) (h : Timeout timeout) :
    ∃ abstime, Deadline now timeout abstime ∧
      rmwWaitSection now (some timeout) =
        some (if timeout = ⟨0, 0⟩ then .noWait else .condvarTimewait abstime) ∧
      now.order ≤ abstime.order ∧
      ∀ timeout', Timeout timeout' → nanoseconds timeout ≤ nanoseconds timeout' →
        ∃ abstime', Deadline now timeout' abstime' ∧ abstime.order ≤ abstime'.order := by
  obtain ⟨abstime, hdeadline⟩ := exists_deadline hnow h
  refine ⟨abstime, hdeadline, hdeadline.waited, hdeadline.now_le hnow, ?_⟩
  intro timeout' h' hle
  obtain ⟨abstime', hdeadline'⟩ := exists_deadline hnow h'
  exact ⟨abstime', hdeadline', hdeadline.order_le hdeadline' hle⟩

def lateNow : Timespec := ⟨.ofInt long 1700000000, .ofInt long 999999999⟩

def rmwDurationInfinite : RmwTime := ⟨9223372036, 854775807⟩

theorem infinite_deadline : ∃ abstime, Deadline lateNow rmwDurationInfinite abstime ∧
    rmwWaitSection lateNow (some rmwDurationInfinite) =
      some (if rmwDurationInfinite = ⟨0, 0⟩ then .noWait else .condvarTimewait abstime) ∧
    lateNow.order ≤ abstime.order ∧
    ∀ timeout', Timeout timeout' → nanoseconds rmwDurationInfinite ≤ nanoseconds timeout' →
      ∃ abstime', Deadline lateNow timeout' abstime' ∧ abstime.order ≤ abstime'.order :=
  wait_deadline ⟨⟨by decide, by decide⟩, by decide, by decide⟩ ⟨by decide, by decide⟩

example : zCondvarTimewait lateNow (timespecOf ⟨0, 2 ^ 63 - 1⟩) = none := rfl

end RmwZenohPico.WaitDeadline
