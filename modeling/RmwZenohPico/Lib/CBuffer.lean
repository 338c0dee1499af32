import Mathlib.Data.List.Basic
import Mathlib.Data.List.TakeWhile
import Mathlib.Algebra.Order.Group.Int
import Mathlib.Algebra.Ring.Nat

namespace RmwZenohPico.Lib.CBuffer

def nul : Char := '\x00'

/-- A C string without its terminator. Characters stand for bytes. -/
structure CString where
  chars : List Char
  terminated : nul ∉ chars
  deriving DecidableEq

theorem CString.ext_chars {s t : CString} (h : s.chars = t.chars) : s = t := by
  cases s
  cases t
  cases h
  rfl

def intOfSize (n : Nat) : Int := Int.bmod n (2 ^ 32)

def sizeOfInt (n : Int) : Nat := (n % 2 ^ 64).toNat

def decimal (n : Int) : List Char :=
  if n < 0 then '-' :: Nat.toDigits 10 n.natAbs else Nat.toDigits 10 n.natAbs

def readDecimal (digits : List Char) : Nat := Nat.ofDigitChars 10 digits 0

/-- The conversion %.*s, for which a negative precision counts as none. -/
def precise (precision : Int) (text : List Char) : List Char :=
  if precision < 0 then text else text.take precision.toNat

def store (memory : List Char) (offset : Int) (text : List Char) : Option (List Char) :=
  if 0 ≤ offset ∧ offset.toNat + text.length ≤ memory.length then
    some (memory.take offset.toNat ++ text ++ memory.drop (offset.toNat + text.length))
  else none

def load (memory : List Char) (offset : Int) : Option Char :=
  if 0 ≤ offset then memory[offset.toNat]? else none

/-- What snprintf returns: the length of the whole text, if that is an int. -/
def printed (text : List Char) : Int := if text.length < 2 ^ 31 then text.length else -1

/-- What snprintf stores: as much of the text as fits before a terminator. -/
def snprintf (memory : List Char) (offset : Int) (size : Nat) (text : List Char) :
    Option (List Char) :=
  match size with
  | 0 => some memory
  | size + 1 => store memory offset (text.take size ++ [nul])

structure Cursor where
  memory : List Char
  offset : Int
  left : Int

def Cursor.start (n : Nat) (left : Int) : Cursor := ⟨List.replicate n nul, 0, left⟩

def Cursor.print (c : Cursor) (text : List Char) : Option Cursor :=
  (snprintf c.memory c.offset (sizeOfInt c.left) text).map fun memory =>
    ⟨memory, c.offset + printed text, c.left - printed text⟩

def strstr : List Char → List Char → Option Nat
  | [], needle => if needle = [] then some 0 else none
  | c :: text, needle =>
      if needle.isPrefixOf (c :: text) then some 0 else (strstr text needle).map (· + 1)

/-- The string that starts at a buffer. Without a terminator it is undefined. -/
def readString (memory : List Char) : Option CString :=
  if nul ∈ memory then
    some ⟨memory.takeWhile (· ≠ nul), fun h => by simpa using List.mem_takeWhile_imp h⟩
  else none

theorem intOfSize_of_lt {n : Nat} (h : n < 2 ^ 31) : intOfSize n = n := by
  unfold intOfSize
  apply Int.bmod_eq_of_le <;> omega

theorem sizeOfInt_of_nonneg {n : Int} (h : 0 ≤ n) (hlt : n < 2 ^ 64) : sizeOfInt n = n.toNat := by
  rw [sizeOfInt, Int.emod_eq_of_lt h hlt]

theorem printed_of_lt {text : List Char} (h : text.length < 2 ^ 31) : printed text = text.length :=
  if_pos h

theorem decimal_natCast (n : Nat) : decimal n = Nat.toDigits 10 n := by
  simp [decimal]

theorem readDecimal_decimal (n : Nat) : readDecimal (decimal n) = n := by
  rw [decimal_natCast]
  exact Nat.ofDigitChars_ten_toDigits

theorem natCast_length {n k : Nat} (hk : 0 < k) (h : n < 10 ^ k) : (decimal n).length ≤ k := by
  rw [decimal_natCast]
  exact (Nat.length_toDigits_le_iff (by decide) hk).mpr h

theorem intOfSize_abs (n : Nat) : (intOfSize n).natAbs < 10 ^ 10 := by
  have hle := Int.le_bmod (x := n) (m := 2 ^ 32) (by decide)
  have hlt := Int.bmod_lt (x := n) (m := 2 ^ 32) (by decide)
  unfold intOfSize
  omega

theorem decimal_length {n : Int} {k : Nat} (hk : 0 < k) (h : n.natAbs < 10 ^ k) :
    (decimal n).length ≤ k + 1 := by
  have hdigits := (Nat.length_toDigits_le_iff (b := 10) (by decide) hk).mpr h
  unfold decimal
  split
  · rw [List.length_cons]
    omega
  · omega

theorem decimal_length_pos (n : Int) : 0 < (decimal n).length := by
  unfold decimal
  split
  · exact Nat.zero_lt_succ _
  · exact Nat.length_toDigits_pos

theorem natCast_isDigit {n : Nat} {c : Char} (h : c ∈ decimal n) : c.isDigit := by
  rw [decimal_natCast] at h
  exact Nat.isDigit_of_mem_toDigits (by decide) (by decide) h

theorem toDigits_injective {m n : Nat} (h : Nat.toDigits 10 m = Nat.toDigits 10 n) : m = n := by
  rw [← Nat.ofDigitChars_ten_toDigits (n := m), h, Nat.ofDigitChars_ten_toDigits]

theorem decimal_injective {m n : Int} (h : decimal m = decimal n) : m = n := by
  have hsign : ∀ k : Nat, '-' ∉ Nat.toDigits 10 k := by
    intro k hk
    exact absurd (Nat.isDigit_of_mem_toDigits (by decide) (by decide) hk) (by decide)
  unfold decimal at h
  by_cases hm : m < 0 <;> by_cases hn : n < 0
  · rw [if_pos hm, if_pos hn, List.cons.injEq] at h
    have habs := toDigits_injective h.2
    omega
  · rw [if_pos hm, if_neg hn] at h
    exact absurd (h ▸ List.mem_cons_self) (hsign _)
  · rw [if_neg hm, if_pos hn] at h
    exact absurd (h ▸ List.mem_cons_self) (hsign _)
  · rw [if_neg hm, if_neg hn] at h
    have habs := toDigits_injective h
    omega

theorem decimal_isDigit {n : Int} {c : Char} (h : c ∈ decimal n) : c = '-' ∨ c.isDigit := by
  have hdigits : c ∈ Nat.toDigits 10 n.natAbs → c.isDigit :=
    fun hc => Nat.isDigit_of_mem_toDigits (by decide) (by decide) hc
  unfold decimal at h
  split at h
  · rcases List.mem_cons.mp h with rfl | h
    · exact Or.inl rfl
    · exact Or.inr (hdigits h)
  · exact Or.inr (hdigits h)

theorem decimal_notMem {c : Char} (hminus : c ≠ '-') (hdigit : ¬c.isDigit) (n : Int) : c ∉ decimal n := by
  intro h
  rcases decimal_isDigit h with hc | hc
  · exact hminus hc
  · exact hdigit hc

theorem decimal_chars {n : Int} {c : Char} (h : c ∈ decimal n) : c ≠ '/' ∧ c ≠ nul := by
  constructor
  · rintro rfl
    exact decimal_notMem (by decide) (by decide) n h
  · rintro rfl
    exact decimal_notMem (by decide) (by decide) n h

theorem lt_of_decimal_prefix {n : Nat} (h : decimal n <+: decimal (intOfSize n)) : n < 2 ^ 31 := by
  have hle := Int.le_bmod (x := n) (m := 2 ^ 32) (by decide)
  have hlt := Int.bmod_lt (x := n) (m := 2 ^ 32) (by decide)
  change _ ≤ intOfSize n at hle
  change intOfSize n < _ at hlt
  have hpos : 0 < (decimal n).length := decimal_length_pos n
  by_contra hn
  by_cases hneg : intOfSize n < 0
  · obtain ⟨digit, rest, hdigits⟩ := List.exists_cons_of_length_pos hpos
    rw [hdigits, decimal, if_pos hneg, List.cons_prefix_cons] at h
    have hdigit : digit ∈ decimal n := hdigits ▸ List.mem_cons_self
    rw [h.1] at hdigit
    exact absurd (natCast_isDigit hdigit) (by decide)
  · obtain ⟨m, hm⟩ := Int.eq_ofNat_of_zero_le (Int.not_lt.mp hneg)
    rw [hm, decimal_natCast, decimal_natCast] at h
    rw [decimal_natCast] at hpos
    have hbound := (Nat.length_toDigits_le_iff (b := 10) (n := n) (by decide) hpos).mp le_rfl
    have hlen := (Nat.length_toDigits_le_iff (b := 10) (n := m) (by decide) hpos).mpr (by omega)
    have heq := toDigits_injective (h.eq_of_length_le hlen)
    omega

theorem precise_length (text : List Char) : precise text.length text = text := by
  simp [precise]

theorem load_natCast (memory : List Char) (i : Nat) : load memory i = memory[i]? := by
  simp [load]

theorem store_append (pre : List Char) {tail text : List Char} (h : text.length ≤ tail.length) :
    store (pre ++ tail) pre.length text = some (pre ++ text ++ tail.drop text.length) := by
  have hfits : (0 : Int) ≤ pre.length ∧ (pre.length : Int).toNat + text.length ≤ (pre ++ tail).length := by
    rw [List.length_append]
    omega
  rw [store, if_pos hfits]
  simp

theorem store_one (pre tail : List Char) (c d : Char) :
    store (pre ++ d :: tail) pre.length [c] = some (pre ++ c :: tail) := by
  have hfits : [c].length ≤ (d :: tail).length := by simp
  have hstore := store_append pre hfits
  simpa using hstore

theorem store_length {memory memory' text : List Char} {offset : Int}
    (h : store memory offset text = some memory') : memory'.length = memory.length := by
  unfold store at h
  split at h
  · cases h
    simp only [List.length_append, List.length_take, List.length_drop]
    omega
  · cases h

theorem snprintf_length {memory memory' text : List Char} {offset : Int} {size : Nat}
    (h : snprintf memory offset size text = some memory') : memory'.length = memory.length := by
  cases size with
  | zero =>
      cases h
      rfl
  | succ size => exact store_length h

theorem Cursor.print_length {c c' : Cursor} {text : List Char} (h : c.print text = some c') :
    c'.memory.length = c.memory.length := by
  obtain ⟨memory, hm, rfl⟩ := Option.map_eq_some_iff.mp h
  exact snprintf_length hm

def Written (memory text : List Char) : Prop := ∃ rest, memory = text ++ nul :: rest

theorem written_fresh {n : Nat} (h : 0 < n) : Written (List.replicate n nul) [] := by
  obtain ⟨n, rfl⟩ : ∃ m, n = m + 1 := ⟨n - 1, by omega⟩
  exact ⟨List.replicate n nul, rfl⟩

theorem snprintf_cut {memory : List Char} (h : 0 < memory.length) (text : List Char) :
    ∃ m, snprintf memory 0 memory.length text = some m ∧ Written m (text.take (memory.length - 1)) := by
  obtain ⟨n, hn⟩ : ∃ n, memory.length = n + 1 := ⟨memory.length - 1, by omega⟩
  have hput : (text.take n ++ [nul]).length ≤ memory.length := by
    rw [List.length_append, List.length_singleton, List.length_take]
    omega
  have hstore := store_append [] hput
  refine ⟨text.take n ++ [nul] ++ memory.drop (text.take n ++ [nul]).length, ?_,
    memory.drop (text.take n ++ [nul]).length, ?_⟩
  · rw [hn, snprintf]
    exact hstore
  · rw [hn, Nat.add_sub_cancel, List.append_assoc]
    rfl

theorem snprintf_fits {memory text : List Char} (h : text.length < memory.length) :
    ∃ m, snprintf memory 0 memory.length text = some m ∧ Written m text := by
  obtain ⟨m, hm, hw⟩ := snprintf_cut (Nat.zero_lt_of_lt h) text
  rw [List.take_of_length_le (by omega)] at hw
  exact ⟨m, hm, hw⟩

theorem readString_written {memory text : List Char} (hw : Written memory text) (ht : nul ∉ text) :
    readString memory = some ⟨text, ht⟩ := by
  obtain ⟨rest, rfl⟩ := hw
  have htake : (text ++ nul :: rest).takeWhile (· ≠ nul) = text := by
    rw [List.takeWhile_append_of_pos]
    · simp
    · intro c hc
      have hne : c ≠ nul := fun heq => ht (heq ▸ hc)
      simpa using hne
  rw [readString, if_pos (by simp)]
  simp only [htake]

theorem readString_length {memory : List Char} {s : CString} (h : readString memory = some s) :
    s.chars.length < memory.length := by
  unfold readString at h
  split at h
  · rename_i hn
    cases h
    have hw := List.takeWhile_append_dropWhile (p := (· ≠ nul)) (l := memory)
    have hd : memory.dropWhile (· ≠ nul) ≠ [] := by
      intro hnil
      rw [List.dropWhile_eq_nil_iff] at hnil
      simpa using hnil nul hn
    have hlen := congrArg List.length hw
    rw [List.length_append] at hlen
    have hpos := List.length_pos_iff.mpr hd
    change (memory.takeWhile (· ≠ nul)).length < memory.length
    omega
  · cases h

theorem strstr_prefix {text needle : List Char} {k : Nat} (h : strstr text needle = some k) :
    needle <+: text.drop k := by
  induction text generalizing k with
  | nil =>
      simp only [strstr] at h
      split at h
      · rename_i hnil
        rw [hnil]
        exact List.nil_prefix
      · cases h
  | cons c text ih =>
      simp only [strstr] at h
      split at h
      · rename_i hfound
        cases h
        exact List.isPrefixOf_iff_prefix.mp hfound
      · obtain ⟨j, hj, rfl⟩ := Option.map_eq_some_iff.mp h
        exact ih hj

theorem strstr_le {text needle : List Char} {n : Nat} (h : needle <+: text.drop n) :
    ∃ k ≤ n, strstr text needle = some k := by
  induction text generalizing n with
  | nil =>
      rw [List.drop_nil, List.prefix_nil] at h
      exact ⟨0, Nat.zero_le n, if_pos h⟩
  | cons c text ih =>
      simp only [strstr]
      split
      · exact ⟨0, Nat.zero_le n, rfl⟩
      · rename_i hfound
        cases n with
        | zero => exact absurd (List.isPrefixOf_iff_prefix.mpr h) hfound
        | succ n =>
            obtain ⟨k, hk, hstr⟩ := ih h
            exact ⟨k + 1, Nat.succ_le_succ hk, by rw [hstr]; rfl⟩

/-- A text whose first character comes only once does not overlap itself. -/
theorem prefix_of_append {c : Char} {rest text : List Char} (hc : c ∉ rest) (hne : text ≠ [])
    (h : c :: rest <+: text ++ c :: rest) : c :: rest <+: text := by
  rcases List.prefix_or_prefix_of_prefix h (List.prefix_append text _) with hin | hover
  · exact hin
  · obtain ⟨tail, htail⟩ := hover
    obtain ⟨first, front, rfl⟩ := List.exists_cons_of_ne_nil hne
    obtain ⟨rfl, hrest⟩ := List.cons.inj htail
    cases tail with
    | nil =>
        have hwhole : front = rest := by simpa using hrest
        exact hwhole ▸ List.prefix_rfl
    | cons next tail =>
        have hback : next :: tail <+: first :: rest :=
          (List.prefix_append_right_inj (first :: front)).mp (htail ▸ h)
        obtain ⟨rfl, -⟩ := List.cons_prefix_cons.mp hback
        exact absurd (hrest ▸ List.mem_append_right front List.mem_cons_self) hc

theorem strstr_append {c : Char} {rest : List Char} (hc : c ∉ rest) (text : List Char) :
    ∃ k ≤ text.length, strstr (text ++ c :: rest) (c :: rest) = some k ∧
      (k = text.length ↔ ¬c :: rest <:+: text) := by
  have hdrop : (text ++ c :: rest).drop text.length = c :: rest := List.drop_left
  have hend : c :: rest <+: (text ++ c :: rest).drop text.length := hdrop.symm ▸ List.prefix_rfl
  obtain ⟨k, hk, hstr⟩ := strstr_le hend
  refine ⟨k, hk, hstr, ?_⟩
  constructor
  · rintro rfl ⟨front, back, hsplit⟩
    have hfront : c :: rest <+: (text ++ c :: rest).drop front.length := by
      rw [← hsplit, List.append_assoc, List.append_assoc, List.drop_left]
      exact List.prefix_append _ _
    obtain ⟨j, hj, hfound⟩ := strstr_le hfront
    rw [hstr] at hfound
    cases hfound
    have hlen := congrArg List.length hsplit
    simp only [List.length_append, List.length_cons] at hlen
    omega
  · intro hnot
    by_contra hne
    have hbefore := strstr_prefix hstr
    rw [List.drop_append_of_le_length hk] at hbefore
    have hrest : text.drop k ≠ [] := by
      rw [ne_eq, List.drop_eq_nil_iff]
      omega
    have hin := prefix_of_append hc hrest hbefore
    exact hnot (hin.isInfix.trans (List.drop_suffix k text).isInfix)

/-- The cursor stands at the end of the text that was printed so far, and the
size it believes is left is there. -/
structure Cursor.Holds (c : Cursor) (text : List Char) : Prop where
  written : Written c.memory text
  offset : c.offset = text.length
  fits : c.offset + c.left ≤ c.memory.length
  small : c.memory.length < 2 ^ 31

theorem Cursor.start_length (n : Nat) (left : Int) : (Cursor.start n left).memory.length = n :=
  List.length_replicate

theorem Cursor.start_holds {n : Nat} {left : Int} (hpos : 0 < n) (hleft : left ≤ n) (hsmall : n < 2 ^ 31) :
    (Cursor.start n left).Holds [] := by
  refine ⟨written_fresh hpos, rfl, ?_, ?_⟩
  · rw [Cursor.start_length]
    change 0 + left ≤ n
    omega
  · rw [Cursor.start_length]
    exact hsmall

theorem Cursor.Holds.print_cut {c : Cursor} {text : List Char} (h : c.Holds text) (hl : 0 < c.left)
    {more : List Char} (hm : more.length < 2 ^ 31) :
    ∃ memory, c.print more = some ⟨memory, c.offset + more.length, c.left - more.length⟩ ∧
      memory.length = c.memory.length ∧ Written memory (text ++ more.take (c.left.toNat - 1)) := by
  obtain ⟨rest, hmem⟩ := h.written
  have hfits := h.fits
  have hsmall := h.small
  have hlen : c.memory.length = text.length + (rest.length + 1) := by
    rw [hmem, List.length_append, List.length_cons]
  have hoff := h.offset
  obtain ⟨size, hsize⟩ : ∃ n, c.left.toNat = n + 1 := ⟨c.left.toNat - 1, by omega⟩
  have hput : (more.take size ++ [nul]).length ≤ (nul :: rest).length := by
    simp only [List.length_append, List.length_take, List.length_cons, List.length_nil]
    omega
  have hstore := store_append text hput
  refine ⟨text ++ (more.take size ++ [nul]) ++ (nul :: rest).drop (more.take size ++ [nul]).length,
    ?_, ?_, (nul :: rest).drop (more.take size ++ [nul]).length, ?_⟩
  · rw [Cursor.print, sizeOfInt_of_nonneg (by omega) (by omega), hsize, snprintf, hmem, hoff, hstore,
      printed_of_lt hm]
    rfl
  · rw [hlen]
    simp only [List.length_append, List.length_take, List.length_drop, List.length_cons,
      List.length_nil]
    omega
  · rw [hsize]
    simp

theorem Cursor.Holds.print {c : Cursor} {text : List Char} (h : c.Holds text) (more : List Char)
    (hm : (more.length : Int) < c.left) :
    ∃ c', c.print more = some c' ∧ c'.Holds (text ++ more) ∧ c'.left = c.left - more.length ∧
      c'.memory.length = c.memory.length := by
  have hfits := h.fits
  have hsmall := h.small
  have hoff := h.offset
  have hsize : more.length < 2 ^ 31 := by omega
  obtain ⟨memory, hp, hlen, hw⟩ := h.print_cut (by omega) hsize
  rw [List.take_of_length_le (by omega)] at hw
  refine ⟨_, hp, ⟨hw, ?_, ?_, ?_⟩, rfl, hlen⟩
  · simp only [hoff, List.length_append]
    omega
  · simp only [hlen]
    omega
  · simp only [hlen]
    exact hsmall

/-- Printing that stops without a sign of it once nothing is left. -/
def Cursor.append (c : Cursor) (text : List Char) : Option (Bool × Cursor) :=
  if c.left ≤ 0 then some (false, c) else (c.print text).map fun c => (true, c)

/-- The cursor has gone over a text of which the first n characters are there. -/
structure Cursor.Filled (c : Cursor) (n : Nat) (text : List Char) : Prop where
  written : Written c.memory (text.take n)
  room : 0 < c.left → c.Holds text ∧ c.left = n + 1 - text.length
  full : c.left ≤ 0 → n < text.length

theorem Cursor.start_filled {n m : Nat} (hnm : n < m) (hsmall : m < 2 ^ 31) :
    (Cursor.start m (n + 1)).Filled n [] where
  written := by
    rw [List.take_nil]
    exact written_fresh (by omega)
  room _ := ⟨Cursor.start_holds (by omega) (by omega) hsmall, by simp [Cursor.start]⟩
  full h := by
    change (n : Int) + 1 ≤ 0 at h
    omega

theorem Cursor.Filled.append {c : Cursor} {n : Nat} {text more : List Char} (h : c.Filled n text)
    (hm : more.length < 2 ^ 31) :
    ∃ appended c', c.append more = some (appended, c') ∧ c'.Filled n (text ++ more) := by
  by_cases hleft : c.left ≤ 0
  · have hfull := h.full hleft
    refine ⟨false, c, if_pos hleft, ?_, ?_, ?_⟩
    · rw [List.take_append_of_le_length (by omega)]
      exact h.written
    · intro hpos
      omega
    · intro _
      rw [List.length_append]
      omega
  · obtain ⟨hholds, hn⟩ := h.room (by omega)
    obtain ⟨memory, hp, hlen, hw⟩ := hholds.print_cut (by omega) hm
    refine ⟨true, _, by rw [Cursor.append, if_neg hleft, hp]; rfl, ?_, ?_, ?_⟩
    · have htake : (text ++ more).take n = text ++ more.take (c.left.toNat - 1) := by
        rw [List.take_append, List.take_of_length_le (by omega)]
        congr 2
        omega
      rw [htake]
      exact hw
    · intro hpos
      have hmore : (more.length : Int) < c.left := by
        change 0 < c.left - more.length at hpos
        omega
      obtain ⟨c', hp', hc', hleft', -⟩ := hholds.print more hmore
      rw [hp] at hp'
      obtain rfl := Option.some.inj hp'
      refine ⟨hc', ?_⟩
      rw [hleft', hn, List.length_append]
      omega
    · intro hneg
      change c.left - more.length ≤ 0 at hneg
      rw [List.length_append]
      omega

end RmwZenohPico.Lib.CBuffer
