import RmwZenohPico.Lib.LabelledMachine
import RmwZenohPico.Lib.RefHeap
import Mathlib.Data.Fintype.Card

namespace RmwZenohPico.LastRelease

open Lib.LabelledMachine Lib.RefHeap

variable {H : Type}

inductive Pc
  | holding
  | decremented
  | returned (last : Bool)
  deriving DecidableEq

structure Object (H : Type) where
  ref : Int
  pc : H → Pc

inductive Label (H : Type)
  | decrement (h : H)
  | read (h : H)

section Steps

variable [DecidableEq H]

/-- RefDec reads the count for its result after it left the lock. -/
def step : Machine (Object H) (Label H)
  | s, .decrement h =>
      if s.pc h = .holding then some ⟨s.ref - 1, Function.update s.pc h .decremented⟩ else none
  | s, .read h =>
      if s.pc h = .decremented then
        some ⟨s.ref, Function.update s.pc h (.returned (s.ref == 0))⟩
      else none

theorem decrement_cases {s t : Object H} {h : H} (hs : step s (.decrement h) = some t) :
    s.pc h = .holding ∧ t = ⟨s.ref - 1, Function.update s.pc h .decremented⟩ := by
  simp only [step, Option.ite_none_right_eq_some, Option.some.injEq] at hs
  exact ⟨hs.1, hs.2.symm⟩

theorem read_cases {s t : Object H} {h : H} (hs : step s (.read h) = some t) :
    s.pc h = .decremented ∧ t = ⟨s.ref, Function.update s.pc h (.returned (s.ref == 0))⟩ := by
  simp only [step, Option.ite_none_right_eq_some, Option.some.injEq] at hs
  exact ⟨hs.1, hs.2.symm⟩

theorem run_uninterrupted {s : Object H} {h : H} (hpc : s.pc h = .holding) :
    ∃ t last, run step s [.decrement h, .read h] = some t ∧ t.pc h = .returned last ∧
      release (fun _ : Unit => .live s.ref) () = some (fun _ => .live t.ref, last) := by
  refine ⟨⟨s.ref - 1, Function.update s.pc h (.returned (s.ref - 1 == 0))⟩, s.ref - 1 == 0, ?_, ?_, ?_⟩
  · simp [run, step, hpc]
  · exact Function.update_self ..
  · simp only [release, refDec, Option.map_some, Option.some.injEq, Prod.mk.injEq, and_true]
    funext a
    rfl

end Steps

def initial (H : Type) [Fintype H] : Object H := ⟨Fintype.card H, fun _ => .holding⟩

def Complete (s : Object H) : Prop := ∀ h, ∃ last, s.pc h = .returned last

def OneLast (s : Object H) : Prop := ∃! h, s.pc h = .returned true

/-- The count is brought to zero when all the other calls have returned. -/
def Alone (s : Object H) : Label H → Prop
  | .decrement h => s.ref = 1 → ∀ h', h' ≠ h → ∃ last, s.pc h' = .returned last
  | .read _ => True

def Pc.Last (pc : Pc) : Prop := pc = .decremented ∨ pc = .returned true

theorem Complete.last_iff {s : Object H} (hc : Complete s) (h : H) :
    (s.pc h).Last ↔ s.pc h = .returned true := by
  obtain ⟨last, hlast⟩ := hc h
  simp [Pc.Last, hlast]

section Counts

variable [Fintype H]

def holders (s : Object H) : Finset H := Finset.univ.filter fun h => s.pc h = .holding

def Counted (s : Object H) : Prop := s.ref = (holders s).card

structure Referenced (s : Object H) : Prop where
  counted : Counted s
  positive : 0 < s.ref
  early : ∀ h, s.pc h ≠ .returned true

structure Released (s : Object H) : Prop where
  counted : Counted s
  zero : s.ref = 0

theorem mem_holders {s : Object H} {h : H} : h ∈ holders s ↔ s.pc h = .holding := by
  simp [holders]

theorem Counted.zero_of_complete {s : Object H} (hs : Counted s) (hc : Complete s) : s.ref = 0 := by
  have hempty : holders s = ∅ := by
    rw [Finset.eq_empty_iff_forall_notMem]
    intro h hh
    obtain ⟨last, hlast⟩ := hc h
    rw [mem_holders, hlast] at hh
    cases hh
  rw [hs, hempty]
  rfl

theorem Released.not_holding {s : Object H} (hs : Released s) (h : H) : s.pc h ≠ .holding := by
  intro hh
  have hpos := Finset.card_pos.mpr ⟨h, mem_holders.mpr hh⟩
  have hcount := hs.counted
  rw [Counted, hs.zero] at hcount
  omega

theorem Counted.only {s : Object H} (hs : Counted s) (hone : s.ref = 1) {h h' : H}
    (hpc : s.pc h = .holding) (hpc' : s.pc h' = .holding) : h' = h := by
  have hcard : (holders s).card = 1 := by
    rw [Counted, hone] at hs
    omega
  exact Finset.card_le_one.mp hcard.le h' (mem_holders.mpr hpc') h (mem_holders.mpr hpc)

theorem initial_referenced [Nonempty H] : Referenced (initial H) where
  counted := by simp [Counted, holders, initial]
  positive := by
    have hpos := Fintype.card_pos (α := H)
    change (0 : Int) < Fintype.card H
    omega
  early h := by simp [initial]

variable [DecidableEq H]

theorem step_counted {s t : Object H} {l : Label H} (hc : Counted s) (hs : step s l = some t) :
    Counted t := by
  cases l with
  | decrement h =>
      obtain ⟨hpc, rfl⟩ := decrement_cases hs
      have herase : holders (⟨s.ref - 1, Function.update s.pc h .decremented⟩ : Object H) =
          (holders s).erase h := by
        ext h'
        rw [Finset.mem_erase, mem_holders, mem_holders]
        by_cases hh : h' = h
        · simp [hh]
        · simp [hh]
      have hcard := Finset.card_erase_add_one (mem_holders.mpr hpc)
      rw [Counted, herase]
      change s.ref - 1 = _
      rw [hc]
      omega
  | read h =>
      obtain ⟨hpc, rfl⟩ := read_cases hs
      have hsame : holders (⟨s.ref, Function.update s.pc h (.returned (s.ref == 0))⟩ : Object H) =
          holders s := by
        ext h'
        rw [mem_holders, mem_holders]
        by_cases hh : h' = h
        · simp [hh, hpc]
        · simp [hh]
      rw [Counted, hsame]
      exact hc

theorem Released.step {s t : Object H} {l : Label H} (hr : Released s) (hs : step s l = some t) :
    Released t ∧ ∀ h, (t.pc h).Last ↔ (s.pc h).Last := by
  have hcounted := step_counted hr.counted hs
  cases l with
  | decrement h => exact absurd (decrement_cases hs).1 (hr.not_holding h)
  | read h =>
      obtain ⟨hpc, rfl⟩ := read_cases hs
      refine ⟨⟨hcounted, hr.zero⟩, ?_⟩
      intro h'
      by_cases hh : h' = h
      · simp [hh, hpc, hr.zero, Pc.Last]
      · simp [hh]

theorem Released.run {s t : Object H} {ls : List (Label H)} (hr : Released s)
    (hrun : run LastRelease.step s ls = some t) : ∀ h, (t.pc h).Last ↔ (s.pc h).Last := by
  induction ls generalizing s with
  | nil =>
      cases hrun
      exact fun _ => Iff.rfl
  | cons l ls ih =>
      obtain ⟨u, hu, hrun⟩ := run_cons_some hrun
      obtain ⟨hru, hlast⟩ := hr.step hu
      exact fun h => (ih hru hrun h).trans (hlast h)

theorem Released.alone {s : Object H} (hr : Released s) (ls : List (Label H)) :
    Every LastRelease.step Alone s ls := by
  refine every_of_invariant (fun s l t hs _ ht => (hs.step ht).1) ?_ hr (every_true LastRelease.step s ls)
  intro s l hs _
  cases l with
  | decrement h =>
      intro hone
      rw [hs.zero] at hone
      cases hone
  | read h => trivial

/-- The decrement to zero leaves its own call and those that have not read the
count yet. -/
theorem Referenced.last_iff_alone {s t : Object H} {h : H} (hr : Referenced s) (hone : s.ref = 1)
    (hs : step s (.decrement h) = some t) :
    (∃! h', (t.pc h').Last) ↔ ∀ h', h' ≠ h → ∃ last, s.pc h' = .returned last := by
  obtain ⟨hpc, rfl⟩ := decrement_cases hs
  have hown : (Function.update s.pc h .decremented h).Last := by
    rw [Function.update_self]
    exact .inl rfl
  have hother : ∀ h', h' ≠ h → ((Function.update s.pc h .decremented h').Last ↔
      ¬∃ last, s.pc h' = .returned last) := by
    intro h' hne
    rw [Function.update_of_ne hne]
    cases hh : s.pc h' with
    | holding => exact absurd (hr.counted.only hone hpc hh) hne
    | decremented => simp [Pc.Last]
    | returned last =>
        have hearly := hr.early h'
        rw [hh] at hearly
        simpa [Pc.Last] using hearly
  constructor
  · rintro ⟨h₀, -, hunique⟩ h' hne
    by_contra hnot
    have hh' := hunique h' ((hother h' hne).mpr hnot)
    have hh := hunique h hown
    exact hne (hh'.trans hh.symm)
  · intro hall
    refine ⟨h, hown, ?_⟩
    intro h' hlast
    by_contra hne
    exact (hother h' hne).mp hlast (hall h' hne)

theorem Referenced.decrement {s t : Object H} {h : H} (hr : Referenced s) (hone : s.ref ≠ 1)
    (hs : LastRelease.step s (.decrement h) = some t) : Referenced t := by
  have hcounted := step_counted hr.counted hs
  have hpositive := hr.positive
  obtain ⟨hpc, rfl⟩ := decrement_cases hs
  refine ⟨hcounted, ?_, ?_⟩
  · change 0 < s.ref - 1
    omega
  · refine (Function.forall_update_iff s.pc fun _ pc => pc ≠ .returned true).mpr ⟨by simp, ?_⟩
    exact fun h' _ => hr.early h'

theorem Referenced.read {s t : Object H} {h : H} (hr : Referenced s)
    (hs : LastRelease.step s (.read h) = some t) : Referenced t := by
  have hcounted := step_counted hr.counted hs
  have hpositive := hr.positive
  obtain ⟨hpc, rfl⟩ := read_cases hs
  refine ⟨hcounted, hpositive, ?_⟩
  refine (Function.forall_update_iff s.pc fun _ pc => pc ≠ .returned true).mpr ⟨?_, ?_⟩
  · simp only [ne_eq, Pc.returned.injEq, beq_iff_eq]
    omega
  · exact fun h' _ => hr.early h'

/-- The induction is on the run. Up to the decrement to zero no step matters,
and after it none does. -/
theorem Referenced.run_iff {s t : Object H} {ls : List (Label H)} (hr : Referenced s)
    (hrun : run LastRelease.step s ls = some t) (hc : Complete t) :
    OneLast t ↔ Every LastRelease.step Alone s ls := by
  induction ls generalizing s with
  | nil =>
      cases hrun
      have hpositive := hr.positive
      rw [hr.counted.zero_of_complete hc] at hpositive
      cases hpositive
  | cons l ls ih =>
      obtain ⟨u, hu, hrest⟩ := run_cons_some hrun
      have hevery : Every LastRelease.step Alone s (l :: ls) ↔
          Alone s l ∧ Every LastRelease.step Alone u ls := by
        simp only [Every, hu, Option.some.injEq, forall_eq']
      rw [hevery]
      cases l with
      | read h => rw [ih (hr.read hu) hrest, Alone, true_and]
      | decrement h =>
          by_cases hone : s.ref = 1
          · have hreleased : Released u := by
              refine ⟨step_counted hr.counted hu, ?_⟩
              rw [(decrement_cases hu).2]
              change s.ref - 1 = 0
              omega
            have hlast : OneLast t ↔ ∃! h', (u.pc h').Last := by
              have hiff : ∀ h', t.pc h' = .returned true ↔ (u.pc h').Last :=
                fun h' => (hc.last_iff h').symm.trans (hreleased.run hrest h')
              simp only [OneLast, hiff]
            rw [hlast, hr.last_iff_alone hone hu, Alone]
            simp [hone, hreleased.alone ls]
          · rw [ih (hr.decrement hone hu) hrest, Alone]
            simp [hone]

end Counts

/-- Exactly one of the calls evaluates to true exactly if the count is brought
to zero when all the others have returned. -/
theorem one_last_release_iff [DecidableEq H] [Fintype H] [Nonempty H] {ls : List (Label H)} {s : Object H}
    (hrun : run step (initial H) ls = some s) (hc : Complete s) :
    OneLast s ↔ Every step Alone (initial H) ls :=
  initial_referenced.run_iff hrun hc

def inTurn : List (Label (Fin 2)) := [.decrement 0, .read 0, .decrement 1, .read 1]

def interleaved : List (Label (Fin 2)) := [.decrement 0, .decrement 1, .read 0, .read 1]

theorem inTurn_one_last : ∃ s, run step (initial (Fin 2)) inTurn = some s ∧ Complete s ∧
    (OneLast s ↔ Every step Alone (initial (Fin 2)) inTurn) := by
  obtain ⟨s, hrun, hpc⟩ : ∃ s, run step (initial (Fin 2)) inTurn = some s ∧
      ∀ h, s.pc h = .returned (h == 1) := ⟨_, rfl, by decide⟩
  have hc : Complete s := fun h => ⟨_, hpc h⟩
  exact ⟨s, hrun, hc, one_last_release_iff hrun hc⟩

theorem interleaved_two_last : ∃ s, run step (initial (Fin 2)) interleaved = some s ∧ Complete s ∧
    ¬OneLast s := by
  obtain ⟨s, hrun, hpc⟩ : ∃ s, run step (initial (Fin 2)) interleaved = some s ∧
      ∀ h, s.pc h = .returned true := ⟨_, rfl, by decide⟩
  refine ⟨s, hrun, fun h => ⟨true, hpc h⟩, ?_⟩
  rintro ⟨h, -, hunique⟩
  have hzero := hunique 0 (hpc 0)
  have hone := hunique 1 (hpc 1)
  exact absurd (hzero.trans hone.symm) (by decide)

end RmwZenohPico.LastRelease
