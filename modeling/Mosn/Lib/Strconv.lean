/-
  Mosn.Lib.Strconv
  **DECIMAL STRINGS AND FIXED-WIDTH NUMBERS.**

  Strings are byte strings.  `formatUint` prints a number in base 10;
  `parseUint`, `parseInt` and `atoi` read one back into a given width and
  report what they do with text that is no number (value `0`) or a number
  that does not fit (value CLAMPED to the end of the range).  Callers that
  drop the error keep the value, so the value on failure matters.

    • `parseUint_formatUint`, `parseInt_formatUint` — the round trips, each
      for the range in which it holds,
    • `formatUint_injective` — distinct numbers print distinct strings.
-/
import Mathlib.Algebra.Ring.Int.Defs
import Mathlib.Algebra.Ring.Nat
import Mathlib.Data.List.Basic

namespace Mosn.Lib

/-- A string: any bytes, not necessarily text. -/
abbrev GoString : Type := List UInt8

instance : LawfulBEq GoString := inferInstance

/-- The bytes of an ASCII literal. -/
def str (s : String) : GoString :=
  s.toList.map (fun c => c.toNat.toUInt8)

namespace Strconv

/-- Why a text is no number of the requested width. -/
inductive NumError where
  | badSyntax
  | outOfRange
  deriving Repr, DecidableEq

/-! ## §1. Printing. -/

/-- The digit `d < 10`. -/
def digit (d : Nat) : UInt8 := UInt8.ofNat (48 + d)

/-- Digits of `n`, at most `fuel` of them. -/
def digits : Nat → Nat → GoString
  | 0, _ => []
  | fuel + 1, n =>
    if n < 10 then [digit n] else digits fuel (n / 10) ++ [digit (n % 10)]

/-- Base-10 text of an unsigned number. -/
def formatUint (n : Nat) : GoString := digits (n + 1) n

/-- Base-10 text of a signed number. -/
def itoa (i : Int) : GoString :=
  if i < 0 then 45 :: formatUint i.natAbs else formatUint i.natAbs

theorem digits_fuel : ∀ (f n : Nat), n < f → digits f n = formatUint n := by
  have key : ∀ (f g n : Nat), n < f → n < g → digits f n = digits g n := by
    intro f
    induction f with
    | zero => intro g n hf; omega
    | succ f ih =>
      intro g n hf hg
      cases g with
      | zero => omega
      | succ g =>
        show (if n < 10 then _ else digits f (n / 10) ++ _)
            = (if n < 10 then _ else digits g (n / 10) ++ _)
        by_cases hn : n < 10
        · rw [if_pos hn, if_pos hn]
        · rw [if_neg hn, if_neg hn, ih g (n / 10) (by omega) (by omega)]
  intro f n h
  exact key f (n + 1) n h (Nat.lt_succ_self n)

theorem formatUint_eq (n : Nat) :
    formatUint n
      = if n < 10 then [digit n] else formatUint (n / 10) ++ [digit (n % 10)] := by
  show (if n < 10 then _ else digits n (n / 10) ++ _) = _
  by_cases hn : n < 10
  · rw [if_pos hn, if_pos hn]
  · rw [if_neg hn, if_neg hn, digits_fuel n (n / 10) (by omega)]

theorem formatUint_ne_nil (n : Nat) : formatUint n ≠ [] := by
  rw [formatUint_eq]
  by_cases hn : n < 10
  · rw [if_pos hn]
    exact List.cons_ne_nil _ _
  · rw [if_neg hn]
    exact List.append_ne_nil_of_right_ne_nil _ (List.cons_ne_nil _ _)

theorem digit_toNat (d : Nat) (h : d < 10) : (digit d).toNat = 48 + d := by
  show (UInt8.ofNat (48 + d)).toNat = _
  rw [show (UInt8.ofNat (48 + d)).toNat = (48 + d) % 256 from UInt8.toNat_ofNat']
  omega

theorem formatUint_head (n : Nat) :
    ∃ d s, d < 10 ∧ formatUint n = digit d :: s := by
  induction n using Nat.strongRecOn with
  | _ n ih =>
    rw [formatUint_eq]
    by_cases hn : n < 10
    · exact ⟨n, [], hn, if_pos hn⟩
    · obtain ⟨d, s, hd, hs⟩ := ih (n / 10) (by omega)
      exact ⟨d, s ++ [digit (n % 10)], hd, by rw [if_neg hn, hs]; rfl⟩

/-! ## §2. Parsing. -/

/-- The digit loop of `parseUint`, `n` being the value read so far.  The
64-bit overflow tests of the original (`n ≥ cutoff`, wrapped sum) are both
the test `maxVal < n * 10 + d` on unbounded numbers. -/
def parseDigits (maxVal : Nat) : Nat → GoString → Nat × Option NumError
  | n, [] => (n, none)
  | n, c :: s =>
    if 48 ≤ c.toNat ∧ c.toNat ≤ 57 then
      let n1 := n * 10 + (c.toNat - 48)
      if maxVal < n1 then (maxVal, some .outOfRange) else parseDigits maxVal n1 s
    else (0, some .badSyntax)

/-- Read an unsigned number of `bitSize` bits. -/
def parseUint (s : GoString) (bitSize : Nat) : Nat × Option NumError :=
  if s = [] then (0, some .badSyntax) else parseDigits (2 ^ bitSize - 1) 0 s

/-- Split off a leading sign. -/
def splitSign : GoString → Bool × GoString
  | [] => (false, [])
  | c :: s => if c = 43 then (false, s) else if c = 45 then (true, s) else (false, c :: s)

/-- Read a signed number of `bitSize` bits (`0 < bitSize`). -/
def parseInt (s : GoString) (bitSize : Nat) : Int × Option NumError :=
  if s = [] then (0, some .badSyntax)
  else
    let (neg, s) := splitSign s
    let (un, err) := parseUint s bitSize
    let cutoff := 2 ^ (bitSize - 1)
    if err = some .badSyntax then (0, some .badSyntax)
    else if !neg && decide (cutoff ≤ un) then ((cutoff : Int) - 1, some .outOfRange)
    else if neg && decide (cutoff < un) then (-(cutoff : Int), some .outOfRange)
    else (if neg then -(un : Int) else (un : Int), none)

/-- Read a machine integer: `parseInt` at 64 bits. -/
def atoi (s : GoString) : Int × Option NumError := parseInt s 64

/-! ## §3. The round trips. -/

theorem parseDigits_append (maxVal : Nat) (t : GoString) : ∀ (s : GoString) (n : Nat),
    parseDigits maxVal n (s ++ t)
      = match parseDigits maxVal n s with
        | (m, none) => parseDigits maxVal m t
        | (m, some e) => (m, some e)
  | [], _ => rfl
  | c :: s, n => by
      show parseDigits maxVal n (c :: (s ++ t)) = _
      simp only [parseDigits]
      by_cases hc : 48 ≤ c.toNat ∧ c.toNat ≤ 57
      · rw [if_pos hc, if_pos hc]
        by_cases hm : maxVal < n * 10 + (c.toNat - 48)
        · rw [if_pos hm, if_pos hm]
        · rw [if_neg hm, if_neg hm]
          exact parseDigits_append maxVal t s _
      · rw [if_neg hc, if_neg hc]

theorem parseDigits_digit (maxVal n d : Nat) (hd : d < 10) :
    parseDigits maxVal n [digit d]
      = if maxVal < n * 10 + d then (maxVal, some .outOfRange) else (n * 10 + d, none) := by
  have hc : 48 ≤ (digit d).toNat ∧ (digit d).toNat ≤ 57 := by
    rw [digit_toNat d hd]
    omega
  simp only [parseDigits]
  rw [if_pos hc, digit_toNat d hd, Nat.add_sub_cancel_left]

theorem parseDigits_formatUint (maxVal v : Nat) :
    parseDigits maxVal 0 (formatUint v)
      = if maxVal < v then (maxVal, some .outOfRange) else (v, none) := by
  induction v using Nat.strongRecOn with
  | _ v ih =>
    rw [formatUint_eq]
    by_cases hv : v < 10
    · rw [if_pos hv, parseDigits_digit maxVal 0 v hv]
      simp only [Nat.zero_mul, Nat.zero_add]
    · rw [if_neg hv, parseDigits_append, ih (v / 10) (by omega)]
      by_cases hm : maxVal < v / 10
      · rw [if_pos hm, if_pos (by omega : maxVal < v)]
      · rw [if_neg hm]
        show parseDigits maxVal (v / 10) [digit (v % 10)] = _
        rw [parseDigits_digit maxVal (v / 10) (v % 10) (by omega),
          show v / 10 * 10 + v % 10 = v from by omega]

/-- **Unsigned round trip.** -/
theorem parseUint_formatUint (v bits : Nat) (h : v < 2 ^ bits) :
    parseUint (formatUint v) bits = (v, none) := by
  unfold parseUint
  rw [if_neg (formatUint_ne_nil v), parseDigits_formatUint, if_neg (by omega)]

theorem splitSign_formatUint (v : Nat) : splitSign (formatUint v) = (false, formatUint v) := by
  obtain ⟨d, s, hd, hs⟩ := formatUint_head v
  have hne : ∀ c : UInt8, c.toNat < 48 → digit d ≠ c := by
    intro c hc h
    have := digit_toNat d hd
    rw [h] at this
    omega
  rw [hs]
  show (if digit d = 43 then _ else if digit d = 45 then _ else _) = _
  rw [if_neg (hne 43 (by decide)), if_neg (hne 45 (by decide))]

/-- **Signed round trip**, on the non-negative half of the range. -/
theorem parseInt_formatUint (v bits : Nat) (h : v < 2 ^ (bits - 1)) :
    parseInt (formatUint v) bits = ((v : Int), none) := by
  have hle : 2 ^ (bits - 1) ≤ 2 ^ bits := Nat.pow_le_pow_right (by omega) (by omega)
  unfold parseInt
  rw [if_neg (formatUint_ne_nil v), splitSign_formatUint]
  simp only [parseUint_formatUint v bits (by omega)]
  simp
  omega

theorem parseInt_formatUint_ge (v bits : Nat) (hbits : 0 < bits) (h : 2 ^ (bits - 1) ≤ v) :
    parseInt (formatUint v) bits = (((2 ^ (bits - 1) : Nat) : Int) - 1, some .outOfRange) := by
  have hpow : 2 ^ (bits - 1) ≤ 2 ^ bits - 1 := by
    have := Nat.pow_lt_pow_right (by omega : 1 < 2) (by omega : bits - 1 < bits)
    omega
  unfold parseInt parseUint
  rw [if_neg (formatUint_ne_nil v), splitSign_formatUint]
  simp only [if_neg (formatUint_ne_nil v), parseDigits_formatUint]
  -- what was read, the number or the largest one, reaches the cutoff
  by_cases hmax : 2 ^ bits - 1 < v
  · rw [if_pos hmax]
    simp [hpow]
  · rw [if_neg hmax]
    simp [h]

theorem formatUint_injective : Function.Injective formatUint := by
  intro a b h
  -- read both back at a width that holds either
  have hpow : a + b < 2 ^ (a + b) := Nat.lt_two_pow_self
  have ha := parseUint_formatUint a (a + b) (by omega)
  have hb := parseUint_formatUint b (a + b) (by omega)
  rw [h, hb] at ha
  exact (congrArg Prod.fst ha).symm

theorem atoi_formatUint (v : Nat) (h : v < 2 ^ 63) : atoi (formatUint v) = ((v : Int), none) :=
  parseInt_formatUint v 64 h

/-! ## §4. Readings of one text at different widths. -/

theorem parseDigits_fst_le (maxVal : Nat) : ∀ (s : GoString) (n : Nat), n ≤ maxVal →
    (parseDigits maxVal n s).1 ≤ maxVal
  | [], _, hn => hn
  | c :: s, n, _ => by
      unfold parseDigits
      by_cases hc : 48 ≤ c.toNat ∧ c.toNat ≤ 57
      · rw [if_pos hc]
        by_cases hm : maxVal < n * 10 + (c.toNat - 48)
        · simp only [hm, ↓reduceIte, Nat.le_refl]
        · rw [if_neg hm]
          exact parseDigits_fst_le maxVal s _ (by omega)
      · rw [if_neg hc]
        exact Nat.zero_le _

theorem parseDigits_error (maxVal : Nat) : ∀ (s : GoString) (n : Nat),
    (parseDigits maxVal n s).2 ≠ none →
      (parseDigits maxVal n s).1 = 0 ∨ (parseDigits maxVal n s).1 = maxVal
  | [], _, h => absurd rfl h
  | c :: s, n, h => by
      unfold parseDigits at h ⊢
      by_cases hc : 48 ≤ c.toNat ∧ c.toNat ≤ 57
      · rw [if_pos hc] at h ⊢
        by_cases hm : maxVal < n * 10 + (c.toNat - 48)
        · rw [if_pos hm]
          exact Or.inr rfl
        · rw [if_neg hm] at h ⊢
          exact parseDigits_error maxVal s _ h
      · rw [if_neg hc]
        exact Or.inl rfl

theorem parseDigits_wider {maxVal maxVal' : Nat} (hle : maxVal ≤ maxVal') :
    ∀ (s : GoString) (n v : Nat), parseDigits maxVal n s = (v, none) →
      parseDigits maxVal' n s = (v, none)
  | [], _, _, h => h
  | c :: s, n, v, h => by
      unfold parseDigits at h ⊢
      by_cases hc : 48 ≤ c.toNat ∧ c.toNat ≤ 57
      · rw [if_pos hc] at h ⊢
        by_cases hm : maxVal < n * 10 + (c.toNat - 48)
        · rw [if_pos hm] at h
          cases h
        · rw [if_neg hm] at h
          rw [if_neg (by omega)]
          exact parseDigits_wider hle s _ v h
      · rw [if_neg hc] at h
        cases h

theorem splitSign_of_parseUint {s : GoString} {bits v : Nat}
    (h : parseUint s bits = (v, none)) : splitSign s = (false, s) := by
  cases s with
  | nil => rfl
  | cons c s =>
    unfold parseUint at h
    rw [if_neg (List.cons_ne_nil _ _)] at h
    unfold parseDigits at h
    by_cases hc : 48 ≤ c.toNat ∧ c.toNat ≤ 57
    · have hne : ∀ d : UInt8, d.toNat < 48 → c ≠ d := by
        intro d hd heq
        rw [heq] at hc
        omega
      show (if c = 43 then _ else if c = 45 then _ else _) = _
      rw [if_neg (hne 43 (by decide)), if_neg (hne 45 (by decide))]
    · rw [if_neg hc] at h
      cases h

/-- **A text that reads as an unsigned number reads as the same machine
integer.** -/
theorem atoi_of_parseUint {s : GoString} {bits v : Nat} (hbits : bits ≤ 63)
    (h : parseUint s bits = (v, none)) : atoi s = ((v : Int), none) := by
  have hne : s ≠ [] := by
    intro hs
    rw [hs] at h
    cases h
  have hpow : 2 ^ bits ≤ 2 ^ 63 := Nat.pow_le_pow_right (by omega) hbits
  have hsign := splitSign_of_parseUint h
  unfold parseUint at h
  rw [if_neg hne] at h
  have hle := parseDigits_fst_le (2 ^ bits - 1) s 0 (Nat.zero_le _)
  rw [h] at hle
  have hwide : parseUint s 64 = (v, none) := by
    unfold parseUint
    rw [if_neg hne]
    exact parseDigits_wider (by omega) s 0 v h
  have hlt : ¬ 2 ^ 63 ≤ v := by
    have hpos : 0 < 2 ^ bits := Nat.two_pow_pos bits
    omega
  unfold atoi parseInt
  rw [if_neg hne, hsign]
  simp only [hwide]
  simp
  omega

end Strconv

end Mosn.Lib
