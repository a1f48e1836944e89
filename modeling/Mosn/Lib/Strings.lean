/-
  Mosn.Lib.Strings
  **STRING FUNCTIONS ON BYTES.**

  Lower case, comparison without case, trimming and splitting of byte strings.
  On ASCII they are computed; where they would need the Unicode tables, and for
  regular expressions, they are a parameter (`TextLib`).
-/
import Mosn.Lib.Strconv

namespace Mosn.Lib

/-- What the byte functions do not define: the functions on strings with bytes
of 128 and more, and regular expressions, as tests of a string. -/
structure TextLib where
  unicodeToLower : GoString → GoString
  unicodeEqualFold : GoString → GoString → Bool
  unicodeTrimSpace : GoString → GoString
  compile : GoString → Option (GoString → Bool)

namespace Strings

def isAscii (s : GoString) : Bool := s.all (· < 128)

def lowerByte (b : UInt8) : UInt8 := if 65 ≤ b ∧ b ≤ 90 then b + 32 else b

/-- Tab, line feed, vertical tab, form feed, carriage return, blank. -/
def isSpace (b : UInt8) : Bool := (9 ≤ b && b ≤ 13) || b == 32

def toLower (lib : TextLib) (s : GoString) : GoString :=
  if isAscii s then s.map lowerByte else lib.unicodeToLower s

def equalFold (lib : TextLib) (s t : GoString) : Bool :=
  if isAscii s && isAscii t then s.map lowerByte == t.map lowerByte else lib.unicodeEqualFold s t

def trimSpace (lib : TextLib) (s : GoString) : GoString :=
  if isAscii s then ((s.dropWhile isSpace).reverse.dropWhile isSpace).reverse
  else lib.unicodeTrimSpace s

/-- `Split` with a separator of one byte. -/
def split (s : GoString) (sep : UInt8) : List GoString := s.splitOn sep

def hasPrefix (s start : GoString) : Bool := start.isPrefixOf s

theorem head?_split (s : GoString) (sep : UInt8) :
    (split s sep).head? = some (s.takeWhile (· ≠ sep)) := by
  unfold split List.splitOn
  induction s with
  | nil => rfl
  | cons b s ih =>
    rw [List.splitOnP_cons_eq_if_modifyHead]
    by_cases hb : b = sep
    · rw [if_pos (by simpa using hb), List.takeWhile_cons_of_neg (by simpa using hb)]
      rfl
    · rw [if_neg (by simpa using hb), List.takeWhile_cons_of_pos (by simpa using hb),
        List.head?_modifyHead, ih]
      rfl

theorem length_split (s : GoString) (sep : UInt8) : (split s sep).length = s.count sep + 1 := by
  unfold split List.splitOn
  induction s with
  | nil => rfl
  | cons b s ih =>
    rw [List.splitOnP_cons_eq_if_modifyHead, List.count_cons]
    by_cases hb : (b == sep) = true
    · rw [if_pos hb, if_pos hb, List.length_cons, ih]
    · rw [if_neg hb, if_neg hb, List.length_modifyHead, ih]

end Strings

end Mosn.Lib
