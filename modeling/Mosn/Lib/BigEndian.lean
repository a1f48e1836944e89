/-
  Mosn.Lib.BigEndian
  **BYTE STRINGS: SLICES AND BIG-ENDIAN NUMBERS.**

  Nothing here knows about a wire format.  `slice l i j` is the half-open
  window `l[i:j]`; `put n v` writes the `n` low-order bytes of `v`, most
  significant first, and `get` reads a byte string back.  The two round
  trips (`get_put`, `put_get`) hold at every width, so a codec that mixes
  16-bit and 32-bit fields uses one pair of lemmas.
-/
import Mathlib.Algebra.Ring.Int.Defs
import Mathlib.Algebra.Ring.Nat
import Mathlib.Data.List.GetD
import Mathlib.Data.List.Induction

namespace Mosn.Lib

/-! ## §1. Windows of a list. -/

/-- The window `l[i:j]`. -/
def slice {α : Type} (l : List α) (i j : Nat) : List α :=
  (l.drop i).take (j - i)

section Slice

variable {α : Type} (l : List α)

theorem length_slice (i j : Nat) (hj : j ≤ l.length) : (slice l i j).length = j - i := by
  simp only [slice, List.length_take, List.length_drop]
  omega

@[simp] theorem slice_self (i : Nat) : slice l i i = [] := by
  simp [slice]

theorem slice_zero_length : slice l 0 l.length = l := by
  simp [slice]

theorem slice_append_slice (i j k : Nat) (hij : i ≤ j) (hjk : j ≤ k) :
    slice l i j ++ slice l j k = slice l i k := by
  have hk : k - i = (j - i) + (k - j) := by omega
  unfold slice
  rw [hk, List.take_add, List.drop_drop, show i + (j - i) = j from by omega]

variable (m : List α)

theorem slice_append_left (i j : Nat) (hj : j ≤ l.length) : slice (l ++ m) i j = slice l i j := by
  unfold slice
  by_cases hi : i ≤ l.length
  · rw [List.drop_append_of_le_length hi, List.take_append_of_le_length]
    simp only [List.length_drop]
    omega
  · rw [show j - i = 0 from by omega]
    simp

theorem slice_append_right (j : Nat) : slice (l ++ m) l.length (l.length + j) = m.take j := by
  simp [slice]

/-! A window at a known offset of a concatenation: skip the parts before it,
then take the part it is. -/

@[simp] theorem slice_append_skip (i j : Nat) (h : l.length ≤ i) :
    slice (l ++ m) i j = slice m (i - l.length) (j - l.length) := by
  unfold slice
  rw [List.drop_append, List.drop_eq_nil_of_le h, List.nil_append,
    show j - l.length - (i - l.length) = j - i from by omega]

@[simp] theorem slice_append_here (j : Nat) (h : l.length = j) :
    slice (l ++ m) 0 j = l := by
  subst h
  simp [slice]

@[simp] theorem slice_cons_succ (x : α) (i j : Nat) :
    slice (x :: l) (i + 1) (j + 1) = slice l i j := by
  simp [slice]

theorem slice_one (d : α) (i : Nat) (h : i < l.length) : slice l i (i + 1) = [l.getD i d] := by
  rw [List.getD_eq_getElem l d h]
  unfold slice
  rw [show i + 1 - i = 1 from by omega, List.drop_eq_getElem_cons h]
  rfl

end Slice

/-! ## §2. Big-endian numbers of any width. -/

namespace BigEndian

/-- The `n` low-order bytes of `v`, most significant first. -/
def put : Nat → Nat → List UInt8
  | 0, _ => []
  | n + 1, v => put n (v / 256) ++ [UInt8.ofNat v]

/-- The number a byte string denotes, most significant byte first. -/
def get (b : List UInt8) : Nat :=
  b.foldl (fun acc x => acc * 256 + x.toNat) 0

@[simp] theorem length_put : ∀ (n v : Nat), (put n v).length = n
  | 0, _ => rfl
  | n + 1, v => by simp [put, length_put n (v / 256)]

@[simp] theorem get_nil : get [] = 0 := rfl

variable (b : List UInt8)

theorem get_concat (x : UInt8) : get (b ++ [x]) = get b * 256 + x.toNat := by
  simp [get]

/-- **Reading undoes writing**, modulo the width written. -/
theorem get_put (n : Nat) : ∀ v : Nat, get (put n v) = v % 256 ^ n := by
  induction n with
  | zero => intro v; simp [put, Nat.mod_one]
  | succ n ih =>
    intro v
    have hlow : (UInt8.ofNat v).toNat = v % 256 := UInt8.toNat_ofNat'
    have hsplit : v % 256 ^ (n + 1) = v % 256 + 256 * (v / 256 % 256 ^ n) := by
      rw [show 256 ^ (n + 1) = 256 * 256 ^ n from Nat.pow_succ', Nat.mod_mul]
    rw [put, get_concat, ih, hlow, hsplit]
    omega

theorem get_put_of_lt {n v : Nat} (h : v < 256 ^ n) : get (put n v) = v := by
  rw [get_put, Nat.mod_eq_of_lt h]

theorem get_lt : get b < 256 ^ b.length := by
  induction b using List.reverseRecOn with
  | nil => simp
  | append_singleton b x ih =>
    rw [get_concat, List.length_append, List.length_singleton, Nat.pow_succ]
    have hx : x.toNat < 256 := UInt8.toNat_lt x
    omega

/-- **Writing undoes reading** at the width read. -/
theorem put_get : put b.length (get b) = b := by
  induction b using List.reverseRecOn with
  | nil => rfl
  | append_singleton b x ih =>
    have hx : x.toNat < 256 := UInt8.toNat_lt x
    rw [List.length_append, List.length_singleton, put, get_concat,
      show (get b * 256 + x.toNat) / 256 = get b from by omega, ih]
    congr 2
    apply UInt8.toNat_inj.mp
    rw [show (UInt8.ofNat (get b * 256 + x.toNat)).toNat
          = (get b * 256 + x.toNat) % 256 from UInt8.toNat_ofNat']
    omega

theorem put_get_slice (i n : Nat) (h : i + n ≤ b.length) :
    put n (get (slice b i (i + n))) = slice b i (i + n) := by
  have hlen : (slice b i (i + n)).length = n := by
    rw [length_slice b i (i + n) h]
    omega
  calc put n (get (slice b i (i + n)))
      = put (slice b i (i + n)).length (get (slice b i (i + n))) := by rw [hlen]
    _ = slice b i (i + n) := put_get _

end BigEndian

/-! ## §3. Fields of 16 and 32 bits. -/

/-- `binary.BigEndian.Uint16`. -/
def uint16 (b : List UInt8) : UInt16 := UInt16.ofNat (BigEndian.get b)

/-- `binary.BigEndian.Uint32`. -/
def uint32 (b : List UInt8) : UInt32 := UInt32.ofNat (BigEndian.get b)

/-- `binary.BigEndian.PutUint16`. -/
def putUint16 (v : UInt16) : List UInt8 := BigEndian.put 2 v.toNat

/-- `binary.BigEndian.PutUint32`. -/
def putUint32 (v : UInt32) : List UInt8 := BigEndian.put 4 v.toNat

/-- `uint32(x)` of a signed number. -/
def intToUint32 (x : Int) : UInt32 := UInt32.ofInt x

-- not by `rfl`: a rewriting step must not unfold the writer
variable (v : UInt16) (b : List UInt8) (i : Nat)

@[simp] theorem length_putUint16 : (putUint16 v).length = 2 :=
  BigEndian.length_put _ _

@[simp] theorem length_putUint32 (v : UInt32) : (putUint32 v).length = 4 :=
  BigEndian.length_put _ _

theorem uint16_slice : (uint16 (slice b i (i + 2))).toNat = BigEndian.get (slice b i (i + 2)) := by
  have hlen : (slice b i (i + 2)).length ≤ 2 := by
    unfold slice
    exact Nat.le_trans (List.length_take_le _ _) (by omega)
  have hlt := BigEndian.get_lt (slice b i (i + 2))
  have hle : 256 ^ (slice b i (i + 2)).length ≤ 256 ^ 2 := Nat.pow_le_pow_right (by decide) hlen
  exact UInt16.toNat_ofNat_of_lt' (Nat.lt_of_lt_of_le hlt hle)

theorem uint32_slice : (uint32 (slice b i (i + 4))).toNat = BigEndian.get (slice b i (i + 4)) := by
  have hlen : (slice b i (i + 4)).length ≤ 4 := by
    unfold slice
    exact Nat.le_trans (List.length_take_le _ _) (by omega)
  have hlt := BigEndian.get_lt (slice b i (i + 4))
  have hle : 256 ^ (slice b i (i + 4)).length ≤ 256 ^ 4 := Nat.pow_le_pow_right (by decide) hlen
  exact UInt32.toNat_ofNat_of_lt' (Nat.lt_of_lt_of_le hlt hle)

@[simp] theorem get_putUint16 : BigEndian.get (putUint16 v) = v.toNat :=
  BigEndian.get_put_of_lt (show v.toNat < 256 ^ 2 from v.toNat_lt)

@[simp] theorem get_putUint32 (v : UInt32) : BigEndian.get (putUint32 v) = v.toNat :=
  BigEndian.get_put_of_lt (show v.toNat < 256 ^ 4 from v.toNat_lt)

@[simp] theorem uint16_putUint16 : uint16 (putUint16 v) = v := by
  rw [uint16, get_putUint16, UInt16.ofNat_toNat]

@[simp] theorem uint32_putUint32 (v : UInt32) : uint32 (putUint32 v) = v := by
  rw [uint32, get_putUint32, UInt32.ofNat_toNat]

theorem putUint16_uint16 (h : i + 2 ≤ b.length) :
    putUint16 (uint16 (slice b i (i + 2))) = slice b i (i + 2) := by
  rw [putUint16, uint16_slice, BigEndian.put_get_slice b i 2 h]

theorem putUint32_uint32 (h : i + 4 ≤ b.length) :
    putUint32 (uint32 (slice b i (i + 4))) = slice b i (i + 4) := by
  rw [putUint32, uint32_slice, BigEndian.put_get_slice b i 4 h]

theorem intToUint32_toNat (x : Int) : ((intToUint32 x).toNat : Int) = x % 2 ^ 32 := by
  have hnonneg := Int.emod_nonneg x (show (2 : Int) ^ 32 ≠ 0 by decide)
  have hlt := Int.emod_lt_of_pos x (show (0 : Int) < 2 ^ 32 by decide)
  unfold intToUint32 UInt32.ofInt
  rw [UInt32.toNat_ofNat']
  omega

@[simp] theorem intToUint32_ofNat_toNat (n : UInt32) : intToUint32 n.toNat = n := by
  have hx := intToUint32_toNat n.toNat
  have hlt := n.toNat_lt
  apply UInt32.toNat_inj.mp
  omega

theorem toInt_toInt16 (a : UInt16) :
    a.toInt16.toInt = if a.toNat < 2 ^ 15 then (a.toNat : Int) else a.toNat - 2 ^ 16 := by
  have hcond := BitVec.toInt_eq_toNat_cond a.toBitVec
  have hint : a.toInt16.toInt = a.toBitVec.toInt := rfl
  have hnat : a.toBitVec.toNat = a.toNat := rfl
  rw [hint, hcond, hnat]
  split <;> split <;> omega

end Mosn.Lib
