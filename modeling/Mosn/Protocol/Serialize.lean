/-
  Mosn.Protocol.Serialize
  **THE SIMPLE SERIALIZATION** (`pkg/protocol/serialize/simple.go`).

  A header map is a concatenation of keys and values, each preceded by its
  length in four bytes.  `decodeMap` indexes before it checks, so its model
  keeps the language's rule for slices: `b[i:j]` reaches up to the CAPACITY
  of `b`, not its length.  `spare` is the part of the backing array between
  the two; a length field that points past the section reads from it before
  anything panics.

  `decodeMap_encodeMap`: a section written in any iteration order decodes to
  the map, whatever lies behind it.
-/
import Mosn.Lib.BigEndian
import Mosn.Lib.Loop
import Mosn.Types.Exception
import Mathlib.Algebra.Order.BigOperators.Group.List
import Mathlib.Algebra.Order.Group.Nat

namespace Mosn.Protocol.Serialize

open Mosn.Lib Mosn.Types

/-! ## §1. Encoding. -/

/-- One length-prefixed string. -/
def encodeEntryPart (s : GoString) : List UInt8 :=
  BigEndian.put 4 s.length ++ s

/-- `encodeMap`: the entries in the order of the range loop. -/
def encodeMap : List (GoString × GoString) → List UInt8
  | [] => []
  | (key, value) :: rest => encodeEntryPart key ++ encodeEntryPart value ++ encodeMap rest

/-- `Serialize`.  A value of any other type than the three listed in the
source leaves the buffer empty. -/
def serialize (order : HeaderOrder) : GoValue → List UInt8
  | .nil => [0]
  | .string s => s
  | .stringMap m => encodeMap (order m).entries
  | .bytes b => 3 :: (BigEndian.put 4 b.length ++ b)
  | _ => []

/-! ## §2. Decoding. -/

/-- `readInt32`. -/
def readInt32 (b : List UInt8) : Except GoError Nat :=
  if b.length < 4 then .error ⟨"no enough bytes"⟩
  else .ok (BigEndian.get (slice b 0 4))

/-- The slice `b[i:j]` of a slice of length `total` with backing array `mem`
from its start on: `i ≤ j ≤ cap(b)`. -/
def sliceMem (mem : List UInt8) (i j : Nat) : Except Panic (List UInt8) :=
  if j < i ∨ mem.length < j then .error .sliceBounds else .ok (slice mem i j)

/-- The loop of `decodeMap` at `index`; `result` is the map being filled, so
entries read before an error stay in it. -/
def decodeMapFrom (mem : List UInt8) (totalLen : Nat) (index : Nat) (result : HeaderMap) :
    Except Panic (HeaderMap × Option GoError) :=
  if index < totalLen then
    match sliceMem mem index totalLen with
    | .error p => .error p
    | .ok b =>
      match readInt32 b with
      | .error err => .ok (result, some err)
      | .ok keyLen =>
        match sliceMem mem (index + 4) (index + 4 + keyLen) with
        | .error p => .error p
        | .ok key =>
          match sliceMem mem (index + 4 + keyLen) totalLen with
          | .error p => .error p
          | .ok b =>
            match readInt32 b with
            | .error err => .ok (result, some err)
            | .ok valueLen =>
              match sliceMem mem (index + 8 + keyLen) (index + 8 + keyLen + valueLen) with
              | .error p => .error p
              | .ok value =>
                decodeMapFrom mem totalLen (index + 8 + keyLen + valueLen)
                  (result.insert key value)
  else .ok (result, none)
termination_by totalLen - index
decreasing_by omega

/-- `decodeMap` on the slice `b`, `spare` being the rest of its capacity. -/
def decodeMap (spare b : List UInt8) (result : HeaderMap) :
    Except Panic (HeaderMap × Option GoError) :=
  decodeMapFrom (b ++ spare) b.length 0 result

/-- `DeSerialize` into a map.  Both callers drop the returned error. -/
def deSerializeMap (spare b : List UInt8) (result : HeaderMap) : Except Panic HeaderMap :=
  if b.length = 0 then .ok result
  else
    match decodeMap spare b result with
    | .error p => .error p
    | .ok (m, _) => .ok m

/-- `DeSerialize` into a string that is empty beforehand. -/
def deSerializeString (b : List UInt8) : GoString :=
  if b.length = 0 then [] else b

@[simp] theorem deSerializeString_eq (b : List UInt8) : deSerializeString b = b := by
  unfold deSerializeString
  split
  next h => exact (List.eq_nil_of_length_eq_zero h).symm
  next => rfl

/-! ## §3. Round trip. -/

/-- Lengths fit their four bytes. -/
@[local grind]
def Encodable (entries : List (GoString × GoString)) : Prop :=
  ∀ e ∈ entries, e.1.length < 2 ^ 32 ∧ e.2.length < 2 ^ 32

theorem length_encodeEntryPart (s : GoString) : (encodeEntryPart s).length = 4 + s.length := by
  simp [encodeEntryPart]

/-- The bytes of a section with these entries. -/
def sectionSize (entries : List (GoString × GoString)) : Nat :=
  (entries.map fun e => 8 + e.1.length + e.2.length).sum

theorem length_encodeMap : ∀ entries, (encodeMap entries).length = sectionSize entries
  | [] => rfl
  | (key, value) :: rest => by
      simp only [encodeMap, List.length_append, length_encodeEntryPart, length_encodeMap rest,
        sectionSize, List.map_cons, List.sum_cons]
      omega

theorem encodable_of_length (entries : List (GoString × GoString))
    (h : (encodeMap entries).length < 2 ^ 32) : Encodable entries := by
  intro e he
  have hle : 8 + e.1.length + e.2.length ≤ sectionSize entries :=
    List.single_le_sum (fun _ _ => Nat.zero_le _) _ (List.mem_map_of_mem he)
  rw [length_encodeMap] at h
  omega

theorem readInt32_put {n : Nat} (hn : n < 2 ^ 32) (tail : List UInt8) :
    readInt32 (BigEndian.put 4 n ++ tail) = .ok n := by
  have hlen : ¬ (BigEndian.put 4 n ++ tail).length < 4 := by
    rw [List.length_append, BigEndian.length_put]
    omega
  have hslice : slice (BigEndian.put 4 n ++ tail) 0 4 = BigEndian.put 4 n := by
    grind [BigEndian.put, BigEndian.length_put, slice_append_left, slice_zero_length]
  unfold readInt32
  rw [if_neg hlen, hslice, BigEndian.get_put_of_lt (by omega)]

theorem readInt32_part (s : GoString) (rest : List UInt8) (h : s.length < 2 ^ 32) :
    readInt32 (encodeEntryPart s ++ rest) = .ok s.length := by
  rw [encodeEntryPart, List.append_assoc]
  exact readInt32_put h (s ++ rest)

variable {mem front s tail spare b key : List UInt8} {l l' : List (GoString × GoString)}
  {m m' : HeaderMap}

theorem sliceMem_left (a b : List UInt8) : sliceMem (a ++ b) 0 a.length = .ok a := by
  simp [sliceMem, slice]

theorem sliceMem_shift (front mem : List UInt8) (i j : Nat) :
    sliceMem (front ++ mem) (front.length + i) (front.length + j) = sliceMem mem i j := by
  unfold sliceMem
  rw [slice_append_skip _ _ _ _ (Nat.le_add_right _ _)]
  simp only [List.length_append, Nat.add_lt_add_iff_left, Nat.add_sub_cancel_left]

theorem sliceMem_part (s tail spare : List UInt8) :
    sliceMem (encodeEntryPart s ++ tail ++ spare) 4 (4 + s.length) = .ok s := by
  have h := sliceMem_shift (BigEndian.put 4 s.length) (s ++ (tail ++ spare)) 0 s.length
  rw [sliceMem_left, BigEndian.length_put] at h
  simpa [encodeEntryPart] using h

theorem decodeMapFrom_shift (front mem : List UInt8) (total index : Nat) (m : HeaderMap) :
    decodeMapFrom (front ++ mem) (front.length + total) (front.length + index) m
      = decodeMapFrom mem total index m := by
  fun_induction decodeMapFrom mem total index m <;> rw [decodeMapFrom] <;>
    simp_all only [Nat.add_lt_add_iff_left, Nat.add_assoc, sliceMem_shift, ↓reduceIte]

/-- **One iteration of the loop**: behind a key only the rest of the section
counts. -/
theorem decodeMap_key (m : HeaderMap) (hk : key.length < 2 ^ 32) (tail : List UInt8) :
    decodeMap spare (encodeEntryPart key ++ tail) m
      = match readInt32 tail with
        | .error err => .ok (m, some err)
        | .ok valueLen =>
          match sliceMem (tail ++ spare) 4 (4 + valueLen) with
          | .error p => .error p
          | .ok value =>
            decodeMapFrom (tail ++ spare) tail.length (4 + valueLen) (m.insert key value) := by
  have hlen := length_encodeEntryPart key
  have hlength : sliceMem (encodeEntryPart key ++ tail ++ spare) 0
      (encodeEntryPart key ++ tail).length = .ok (encodeEntryPart key ++ tail) := sliceMem_left _ _
  have hshift := sliceMem_shift (encodeEntryPart key) (tail ++ spare)
  have hloop := decodeMapFrom_shift (encodeEntryPart key) (tail ++ spare) tail.length
  have htail := hshift 0 tail.length
  rw [sliceMem_left] at htail
  simp only [hlen, ← List.append_assoc] at hshift hloop htail
  unfold decodeMap
  rw [decodeMapFrom, if_pos (by rw [List.length_append]; omega)]
  simp only [hlength, readInt32_part key tail hk, sliceMem_part, Nat.zero_add]
  rw [List.length_append, hlen]
  simp only [Nat.add_zero] at htail
  simp only [htail]
  cases readInt32 tail with
  | error err => rfl
  | ok n =>
    have hindex : 8 + key.length = 4 + key.length + 4 := by omega
    simp only [hindex, Nat.add_assoc (4 + key.length), hshift, hloop]

theorem decodeMap_entry {value : List UInt8} (m : HeaderMap) (hk : key.length < 2 ^ 32)
    (hv : value.length < 2 ^ 32) (rest : List UInt8) :
    decodeMap spare (encodeEntryPart key ++ (encodeEntryPart value ++ rest)) m
      = decodeMap spare rest (m.insert key value) := by
  have hloop := decodeMapFrom_shift (encodeEntryPart value) (rest ++ spare) rest.length 0
    (m.insert key value)
  rw [length_encodeEntryPart, ← List.append_assoc] at hloop
  rw [decodeMap_key m hk, readInt32_part value rest hv]
  simp only [sliceMem_part, List.length_append, length_encodeEntryPart]
  exact hloop

theorem decodeMap_nil (spare : List UInt8) (m : HeaderMap) :
    decodeMap spare [] m = .ok (m, none) := by
  rw [decodeMap, decodeMapFrom, if_neg (by simp)]

/-- **An encoded map decodes to itself**, in every iteration order and with
anything behind the section. -/
theorem decodeMap_encodeMap (spare : List UInt8) (entries : List (GoString × GoString))
    (m : HeaderMap) (h : Encodable entries) :
    decodeMap spare (encodeMap entries) m = .ok (GoMap.insertAll m entries, none) := by
  induction entries generalizing m with
  | nil => exact decodeMap_nil spare m
  | cons e rest ih =>
    obtain ⟨hk, hv⟩ := h e List.mem_cons_self
    rw [encodeMap, List.append_assoc, decodeMap_entry m hk hv]
    exact ih _ fun e he => h e (List.mem_cons_of_mem _ he)

theorem length_encodeMap_perm (h : l.Perm l') : (encodeMap l).length = (encodeMap l').length := by
  rw [length_encodeMap, length_encodeMap]
  exact (h.map _).sum_eq

theorem length_encodeMap_subset (hnodup : l'.Nodup)
    (hsub : l' ⊆ l) : (encodeMap l').length ≤ (encodeMap l).length := by
  obtain ⟨l'', hperm, hsublist⟩ := hnodup.subperm hsub
  rw [← length_encodeMap_perm hperm, length_encodeMap, length_encodeMap]
  exact (hsublist.map _).sum_le_sum fun _ _ => Nat.zero_le _

theorem length_encodeMap_le (l : GoMap.Listing m) (l' : GoMap.Listing m')
    (h : ∀ k v, m'.lookup k = some v → m.lookup k = some v) :
    (encodeMap l'.entries).length ≤ (encodeMap l.entries).length := by
  refine length_encodeMap_subset (List.Nodup.of_map _ l'.nodup) ?_
  rintro ⟨k, v⟩ hkv
  exact (l.mem_iff k v).mpr (h k v ((l'.mem_iff k v).mp hkv))

theorem length_encodeMap_insert {key value : GoString} (l : GoMap.Listing m)
    (l' : GoMap.Listing (m.insert key value)) : (encodeMap l'.entries).length
      ≤ 8 + key.length + value.length + (encodeMap l.entries).length := by
  have hle : (encodeMap l'.entries).length ≤ (encodeMap ((key, value) :: l.entries)).length := by
    refine length_encodeMap_subset (List.Nodup.of_map _ l'.nodup) ?_
    rintro ⟨k, v⟩ hkv
    have hlookup := (l'.mem_iff k v).mp hkv
    by_cases hk : k = key
    · subst hk
      rw [Finmap.lookup_insert] at hlookup
      cases hlookup
      exact List.mem_cons_self
    · rw [Finmap.lookup_insert_of_ne _ hk] at hlookup
      exact List.mem_cons_of_mem _ ((l.mem_iff k v).mpr hlookup)
  simp only [encodeMap, List.length_append, length_encodeEntryPart] at hle
  omega

theorem sliceMem_ok {i j : Nat} (h : sliceMem mem i j = .ok s) :
    s.length = j - i ∧ j ≤ mem.length := by
  unfold sliceMem at h
  grind [length_slice]

theorem length_decodeMapFrom (order : HeaderOrder)
    {index : Nat} {err : Option GoError}
    (h : decodeMapFrom mem mem.length index m = .ok (m', err)) :
    (encodeMap (order m').entries).length
      ≤ (encodeMap (order m).entries).length + (mem.length - index) := by
  induction hn : mem.length - index using Nat.strong_induction_on generalizing index m with
  | _ n ih =>
    rw [decodeMapFrom] at h
    split at h
    next hlt =>
      split at h
      · cases h
      split at h
      · cases h
        omega
      next keyLen _ =>
      split at h
      · cases h
      next key hkey =>
      split at h
      · cases h
      split at h
      · cases h
        omega
      next valueLen _ =>
      split at h
      · cases h
      next value hvalue =>
      -- both strings lie inside the memory, behind the index
      obtain ⟨hk, -⟩ := sliceMem_ok hkey
      obtain ⟨hv, hend⟩ := sliceMem_ok hvalue
      have hnext := ih _ (by omega) h rfl
      have hinsert := length_encodeMap_insert (order m) (order (m.insert key value))
      omega
    next =>
      cases h
      omega

theorem deSerializeMap_encodeMap (spare : List UInt8) (m : HeaderMap) (l : GoMap.Listing m)
    (h : (encodeMap l.entries).length < 2 ^ 32) :
    deSerializeMap spare (encodeMap l.entries) ∅ = .ok m := by
  have hmap : GoMap.insertAll ∅ l.entries = m := by
    rw [GoMap.insertAll_listing, Finmap.union_empty]
  unfold deSerializeMap
  split
  next hlen =>
      -- an empty section: the listing has no entry
      have hnil : l.entries = [] := by
        cases he : l.entries with
        | nil => rfl
        | cons e rest =>
          rw [he] at hlen
          simp only [encodeMap, List.length_append, length_encodeEntryPart] at hlen
          omega
      rw [← hmap, hnil]
      rfl
  next =>
      rw [decodeMap_encodeMap spare l.entries ∅ (encodable_of_length l.entries h), hmap]

/-- **Header maps round-trip**, in every order of the range loop. -/
theorem headerMap_round_trip (spare : List UInt8) (m : HeaderMap) (l : GoMap.Listing m)
    (hlen : ∀ k v, m.lookup k = some v → k.length < 2 ^ 32 ∧ v.length < 2 ^ 32) :
    decodeMap spare (encodeMap l.entries) ∅ = .ok (m, none) := by
  have hencodable : Encodable l.entries := fun e he => hlen e.1 e.2 ((l.mem_iff e.1 e.2).mp he)
  rw [decodeMap_encodeMap spare l.entries ∅ hencodable, GoMap.insertAll_listing, Finmap.union_empty]

/-- An empty key with a value that is no text, and a key with an empty value. -/
def twoHeaders : List (GoString × GoString) := [([], [0, 255]), ([97], [])]

theorem headerMap_round_trip_two : decodeMap [] (encodeMap twoHeaders) ∅
      = .ok (GoMap.insertAll ∅ twoHeaders, none) := by
  refine headerMap_round_trip [] _ (GoMap.listingOf twoHeaders (by decide)) ?_
  intro k v hkv
  have hentry : (k, v) ∈ twoHeaders :=
    ((GoMap.listingOf twoHeaders (by decide)).mem_iff k v).mpr hkv
  have hshort : ∀ e ∈ twoHeaders, e.1.length < 2 ^ 32 ∧ e.2.length < 2 ^ 32 := by decide
  exact hshort (k, v) hentry

/-- **No section is shorter than its map written anew.** -/
theorem length_deSerializeMap (order : HeaderOrder)
    (h : deSerializeMap [] b ∅ = .ok m) : (encodeMap (order m).entries).length ≤ b.length := by
  have hempty : (encodeMap (order ∅).entries).length = 0 := by
    rw [GoMap.Listing.entries_empty]
    rfl
  unfold deSerializeMap at h
  split at h
  next hlen =>
      cases h
      omega
  next =>
      split at h
      · cases h
      next m' err hdecode =>
          cases h
          unfold decodeMap at hdecode
          rw [List.append_nil] at hdecode
          have hle := length_decodeMapFrom order hdecode
          omega

/-! ## §4. Hostile sections. -/

/-- What is left of a section is too short for a length, announces a string
longer than itself, or starts with a string behind its length. -/
theorem part_cases (r : List UInt8) : r.length < 4
      ∨ (∃ n tail, n < 2 ^ 32 ∧ r = BigEndian.put 4 n ++ tail ∧ tail.length < n)
      ∨ ∃ s tail, s.length < 2 ^ 32 ∧ r = encodeEntryPart s ++ tail := by
  by_cases hshort : r.length < 4
  · exact Or.inl hshort
  · right
    have hlen : (r.take 4).length = 4 := by
      rw [List.length_take]
      omega
    have hput : BigEndian.put 4 (BigEndian.get (r.take 4)) = r.take 4 := by
      have h := BigEndian.put_get (r.take 4)
      rwa [hlen] at h
    have hlt : BigEndian.get (r.take 4) < 2 ^ 32 := by
      have h := BigEndian.get_lt (r.take 4)
      rw [hlen] at h
      omega
    obtain ⟨n, hn⟩ : ∃ n, n = BigEndian.get (r.take 4) := ⟨_, rfl⟩
    rw [← hn] at hput hlt
    by_cases hin : n ≤ (r.drop 4).length
    · -- the announced bytes are there
      have hkey : ((r.drop 4).take n).length = n := by
        rw [List.length_take]
        omega
      refine Or.inr ⟨(r.drop 4).take n, (r.drop 4).drop n, by omega, ?_⟩
      rw [encodeEntryPart, hkey, hput, List.append_assoc, List.take_append_drop,
        List.take_append_drop]
    · refine Or.inl ⟨n, r.drop 4, hlt, ?_, by omega⟩
      rw [hput, List.take_append_drop]

theorem encodeEntryPart_append_inj {s' t t' : List UInt8} (hs : s.length < 2 ^ 32)
    (hs' : s'.length < 2 ^ 32) (h : encodeEntryPart s ++ t = encodeEntryPart s' ++ t') :
    s = s' ∧ t = t' := by
  simp only [encodeEntryPart, List.append_assoc] at h
  obtain ⟨hput, hrest⟩ := List.append_inj h (by simp)
  grind [BigEndian.get, BigEndian.get_put_of_lt, List.append_inj]

/-- The section is a concatenation of entries. -/
def WellFormed (b : List UInt8) : Prop := ∃ entries, Encodable entries ∧ encodeMap entries = b

theorem wellFormed_nil : WellFormed [] := ⟨[], fun _ he => absurd he List.not_mem_nil, rfl⟩

theorem WellFormed.head (h : WellFormed b) (hne : b ≠ []) :
    ∃ key value rest, key.length < 2 ^ 32 ∧ value.length < 2 ^ 32 ∧ WellFormed rest
      ∧ b = encodeEntryPart key ++ (encodeEntryPart value ++ rest) := by
  obtain ⟨entries, henc, rfl⟩ := h
  cases entries with
  | nil => exact absurd rfl hne
  | cons e rest =>
    obtain ⟨hk, hv⟩ := henc e List.mem_cons_self
    exact ⟨e.1, e.2, encodeMap rest, hk, hv,
      ⟨rest, fun e' he' => henc e' (List.mem_cons_of_mem _ he'), rfl⟩, List.append_assoc _ _ _⟩

theorem wellFormed_entry_iff {key value rest : List UInt8} (hk : key.length < 2 ^ 32)
    (hv : value.length < 2 ^ 32) :
    WellFormed (encodeEntryPart key ++ (encodeEntryPart value ++ rest)) ↔ WellFormed rest := by
  constructor
  · intro h
    obtain ⟨key', value', rest', hk', hv', hrest, heq⟩ := h.head (by simp [encodeEntryPart,
      BigEndian.put])
    grind [encodeEntryPart_append_inj]
  · rintro ⟨entries, henc, rfl⟩
    refine ⟨(key, value) :: entries, fun e he => ?_, List.append_assoc _ _ _⟩
    grind

/-- Every length in the section is followed by that many bytes of it; a last
length may be cut off. -/
inductive LengthsInside : List UInt8 → Prop where
  | short {tail : List UInt8} : tail.length < 4 → LengthsInside tail
  | key {key tail : List UInt8} : key.length < 2 ^ 32 → tail.length < 4 →
      LengthsInside (encodeEntryPart key ++ tail)
  | entry {key value rest : List UInt8} : key.length < 2 ^ 32 → value.length < 2 ^ 32 →
      LengthsInside rest →
      LengthsInside (encodeEntryPart key ++ (encodeEntryPart value ++ rest))

section Hostile

variable (m : HeaderMap) {n : Nat}

theorem decodeMap_short (hne : tail ≠ []) (hshort : tail.length < 4) :
    decodeMap spare tail m = .ok (m, some ⟨"no enough bytes"⟩) := by
  rw [decodeMap, decodeMapFrom, if_pos (List.length_pos_iff.mpr hne)]
  simp only [sliceMem_left, readInt32, if_pos hshort]

theorem decodeMap_key_short (hk : key.length < 2 ^ 32) (hshort : tail.length < 4) :
    decodeMap spare (encodeEntryPart key ++ tail) m = .ok (m, some ⟨"no enough bytes"⟩) := by
  rw [decodeMap_key m hk, readInt32, if_pos hshort]

/-- **A key longer than the rest of the section**: a slice out of range,
whether or not there is memory behind the section. -/
theorem decodeMap_key_overrun (hn : n < 2 ^ 32) (hover : tail.length < n) :
    decodeMap spare (BigEndian.put 4 n ++ tail) m = .error .sliceBounds := by
  have htotal : (BigEndian.put 4 n ++ tail).length = 4 + tail.length := by
    rw [List.length_append, BigEndian.length_put]
  have hrest : sliceMem (BigEndian.put 4 n ++ tail ++ spare) (4 + n)
      (BigEndian.put 4 n ++ tail).length = .error .sliceBounds := by
    rw [sliceMem, if_pos (Or.inl (by omega))]
  rw [decodeMap, decodeMapFrom, if_pos (by omega)]
  simp only [sliceMem_left, readInt32_put hn, Nat.zero_add, hrest]
  cases hkey : sliceMem (BigEndian.put 4 n ++ tail ++ spare) 4 (4 + n) with
  | error p =>
    unfold sliceMem at hkey
    grind
  | ok key => rfl

/-- **A value longer than the rest of the section**: a slice out of range, or,
when there is memory behind the section, the value is read from there and the
loop ends without an error. -/
theorem decodeMap_value_overrun (hk : key.length < 2 ^ 32) (hn : n < 2 ^ 32)
    (hover : tail.length < n) :
    decodeMap spare (encodeEntryPart key ++ (BigEndian.put 4 n ++ tail)) m = .error .sliceBounds
      ∨ ∃ result, decodeMap spare (encodeEntryPart key ++ (BigEndian.put 4 n ++ tail)) m
        = .ok (result, none) := by
  rw [decodeMap_key m hk, readInt32_put hn]
  simp only
  cases hval : sliceMem (BigEndian.put 4 n ++ tail ++ spare) 4 (4 + n) with
  | error p =>
    unfold sliceMem at hval
    grind
  | ok value =>
    -- the index has left the section, so this was the last iteration
    refine Or.inr ⟨m.insert key value, ?_⟩
    simp only
    rw [decodeMapFrom, if_neg (by rw [List.length_append, BigEndian.length_put]; omega)]

end Hostile

variable {r : List UInt8}

/-- `decodeMap` is safe and exact on `b`: it returns, without an error exactly
when `b` is a concatenation of entries, and then with these entries in the
map, later ones over earlier ones. -/
def DecodesExactly (spare b : List UInt8) (m : HeaderMap) : Prop :=
  ∃ result err, decodeMap spare b m = .ok (result, err)
    ∧ (err = none ↔ WellFormed b)
    ∧ ∀ entries, Encodable entries → encodeMap entries = b → result = GoMap.insertAll m entries

theorem decodesExactly_entry_iff {value rest : List UInt8}
    (hk : key.length < 2 ^ 32) (hv : value.length < 2 ^ 32) :
    DecodesExactly spare (encodeEntryPart key ++ (encodeEntryPart value ++ rest)) m
      ↔ DecodesExactly spare rest (m.insert key value) := by
  have hentries : ∀ result : HeaderMap,
      (∀ entries, Encodable entries →
        encodeMap entries = encodeEntryPart key ++ (encodeEntryPart value ++ rest) →
        result = GoMap.insertAll m entries)
      ↔ ∀ entries, Encodable entries → encodeMap entries = rest →
        result = GoMap.insertAll (m.insert key value) entries := by
    intro result
    constructor
    · intro h entries henc heq
      refine h ((key, value) :: entries) (fun e he => ?_) ?_
      · grind
      · rw [← heq]
        exact List.append_assoc _ _ _
    · intro h entries henc heq
      cases entries with
      | nil => simp [encodeMap, encodeEntryPart, BigEndian.put] at heq
      | cons e tail =>
        obtain ⟨hk', hv'⟩ := henc e List.mem_cons_self
        have heq' := (List.append_assoc _ _ _).symm.trans heq
        obtain ⟨hkey, heq'⟩ := encodeEntryPart_append_inj hk' hk heq'
        obtain ⟨hvalue, hrest⟩ := encodeEntryPart_append_inj hv' hv heq'
        rw [← hkey, ← hvalue] at h
        exact h tail (fun e' he' => henc e' (List.mem_cons_of_mem _ he')) hrest
  unfold DecodesExactly
  simp only [decodeMap_entry m hk hv, wellFormed_entry_iff hk hv, hentries]

theorem not_wellFormed_short (hne : tail ≠ []) (hshort : tail.length < 4) : ¬ WellFormed tail := by
  intro h
  obtain ⟨key, value, rest, -, -, -, rfl⟩ := h.head hne
  rw [List.length_append, length_encodeEntryPart] at hshort
  omega

theorem decodesExactly_of_error {result : HeaderMap} {err : GoError}
    (hloop : decodeMap spare r m = .ok (result, some err)) (hbad : ¬ WellFormed r) :
    DecodesExactly spare r m :=
  ⟨result, some err, hloop, iff_of_false (Option.some_ne_none err) hbad,
    fun entries henc heq => absurd ⟨entries, henc, heq⟩ hbad⟩

theorem not_wellFormed_key (hk : key.length < 2 ^ 32)
    (hbad : ∀ value rest, value.length < 2 ^ 32 → tail ≠ encodeEntryPart value ++ rest) :
    ¬ WellFormed (encodeEntryPart key ++ tail) := by
  intro h
  obtain ⟨key', value, rest, hk', hv, -, heq⟩ := h.head (by simp [encodeEntryPart, BigEndian.put])
  exact hbad value rest hv (encodeEntryPart_append_inj hk hk' heq).2

theorem put_append_ne_part {n : Nat} (hn : n < 2 ^ 32)
    (hover : tail.length < n) (s rest : List UInt8) (hs : s.length < 2 ^ 32) :
    BigEndian.put 4 n ++ tail ≠ encodeEntryPart s ++ rest := by
  intro h
  rw [encodeEntryPart, List.append_assoc] at h
  obtain ⟨hput, rfl⟩ := List.append_inj h (by simp)
  grind [BigEndian.get, BigEndian.get_put_of_lt, List.length_append]

theorem decodesExactly_of_lengthsInside (spare : List UInt8)
    (h : LengthsInside r) : ∀ m, DecodesExactly spare r m := by
  induction h with
  | @short tail hshort =>
    intro m
    by_cases hne : tail = []
    · subst hne
      refine ⟨m, none, decodeMap_nil spare m, iff_of_true rfl wellFormed_nil,
        fun entries henc heq => ?_⟩
      cases entries with
      | nil => rfl
      | cons e rest => simp [encodeMap, encodeEntryPart, BigEndian.put] at heq
    · exact decodesExactly_of_error (decodeMap_short m hne hshort)
        (not_wellFormed_short hne hshort)
  | @key key tail hk hshort =>
    intro m
    refine decodesExactly_of_error (decodeMap_key_short m hk hshort) (not_wellFormed_key hk ?_)
    rintro value rest - rfl
    rw [List.length_append, length_encodeEntryPart] at hshort
    omega
  | @entry key value rest hk hv _ ih =>
    intro m
    exact (decodesExactly_entry_iff hk hv).mpr (ih _)

/-- Where it is safe and exact, the lengths are inside: an announced length
that is not ends in a slice out of range or goes unnoticed. -/
theorem lengthsInside_of_decodesExactly (spare : List UInt8) :
    ∀ (size : Nat) (r : List UInt8) (m : HeaderMap), r.length ≤ size →
      DecodesExactly spare r m → LengthsInside r := by
  intro size
  induction size with
  | zero =>
    intro r m hsize _
    exact .short (by omega)
  | succ size ih =>
    intro r m hsize h
    have hexact := h
    obtain ⟨result, err, hloop, hnone, -⟩ := hexact
    rcases part_cases r with hshort | ⟨n, tail, hn, rfl, hover⟩ | ⟨key, tail, hk, rfl⟩
    · exact .short hshort
    · rw [decodeMap_key_overrun m hn hover] at hloop
      cases hloop
    · rcases part_cases tail with hshort | ⟨n, tail, hn, rfl, hover⟩ | ⟨value, rest, hv, rfl⟩
      · exact .key hk hshort
      · -- the loop does not notice that the value is not all there
        exfalso
        rcases decodeMap_value_overrun m hk hn hover with hpanic | ⟨result', hok⟩
        · rw [hpanic] at hloop
          cases hloop
        · grind [not_wellFormed_key, put_append_ne_part]
      · refine .entry hk hv (ih rest _ ?_ ((decodesExactly_entry_iff hk hv).mp h))
        simp only [List.length_append, length_encodeEntryPart] at hsize
        omega

/-- **When `decodeMap` is safe and exact**: exactly when every length in the
section is followed by that many bytes of it, whatever is in the map and in
the memory behind the section. -/
theorem decodeMap_exact_iff (spare b : List UInt8) (m : HeaderMap) :
    DecodesExactly spare b m ↔ LengthsInside b :=
  ⟨lengthsInside_of_decodesExactly spare b.length b m (Nat.le_refl _),
    fun h => decodesExactly_of_lengthsInside spare h m⟩

/-- **A slice out of range**: a section of four bytes that announces a key of
five. -/
theorem decodeMap_key_out_of_range : decodeMap [] [0, 0, 0, 5] ∅ = .error .sliceBounds :=
  decodeMap_key_overrun ∅ (by decide : 5 < 2 ^ 32) (by decide : ([] : List UInt8).length < 5)

end Mosn.Protocol.Serialize
