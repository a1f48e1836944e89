/-
  Mosn.Protocol.Http.Query
  **READING A QUERY STRING** (`ParseQueryString` in
  `pkg/protocol/http/httputility.go`).

      a=1&b=2&junk&a=3        a ↦ 3, b ↦ 2

  The query is split at `&` and every segment at `=`.  A segment that does not
  have two parts is skipped, so the inverse of writing pairs down is kept when
  such segments stand between them.

    • `parseQueryString_join` — the map of the pairs, with or without junk.
-/
import Mosn.Lib.Strings
import Mosn.Lib.GoMap

namespace Mosn.Protocol.Http

open Mosn.Lib

/-- `types.QueryParams`. -/
abbrev QueryParams : Type := GoMap GoString GoString

variable (lib : TextLib)

/-- One turn of the loop, for the segment `qm`. -/
def readSegment (params : QueryParams) (qm : GoString) : QueryParams :=
  match Strings.split qm 61 with
  | [k, v] => params.insert (Strings.trimSpace lib k) (Strings.trimSpace lib v)
  | _ => params

/-- `ParseQueryString`. -/
def parseQueryString (query : GoString) : QueryParams :=
  if query = [] then ∅ else (Strings.split query 38).foldl (readSegment lib) ∅

/-- A text without separators and without white space around it. -/
structure Plain (text : GoString) : Prop where
  ampersand : 38 ∉ text
  equals : 61 ∉ text
  trimmed : Strings.trimSpace lib text = text

/-- A key and a value that can be written down. -/
structure Pair where
  key : GoString
  value : GoString
  key_plain : Plain lib key
  value_plain : Plain lib value

variable {lib}

/-- The form `k=v`. -/
def Pair.text (p : Pair lib) : GoString := List.intercalate [61] [p.key, p.value]

theorem Pair.split_text (p : Pair lib) : Strings.split p.text 61 = [p.key, p.value] := by
  apply List.splitOn_intercalate 61 _ (List.cons_ne_nil _ _)
  simp [p.key_plain.equals, p.value_plain.equals]

theorem Pair.count_text (p : Pair lib) : p.text.count 61 = 1 := by
  have hlength := Strings.length_split p.text 61
  rw [p.split_text] at hlength
  exact (Nat.succ.inj hlength).symm

theorem Pair.notMem_text (p : Pair lib) : 38 ∉ p.text := by
  simp [Pair.text, List.intercalate, p.key_plain.ampersand, p.value_plain.ampersand]

theorem readSegment_pair (params : QueryParams) (p : Pair lib) :
    readSegment lib params p.text = params.insert p.key p.value := by
  unfold readSegment
  simp only [p.split_text, p.key_plain.trimmed, p.value_plain.trimmed]

theorem readSegment_malformed (params : QueryParams) {qm : GoString} (h : qm.count 61 ≠ 1) :
    readSegment lib params qm = params := by
  unfold readSegment
  split
  next k v hsplit =>
      have hlength := Strings.length_split qm 61
      rw [hsplit] at hlength
      exact absurd (Nat.succ.inj hlength).symm h
  next => rfl

theorem foldl_readSegment (segments : List GoString) : ∀ (pairs : List (Pair lib)) params,
    segments.filter (·.count 61 = 1) = pairs.map Pair.text →
    segments.foldl (readSegment lib) params
      = GoMap.insertAll params (pairs.map fun p => (p.key, p.value)) := by
  induction segments with
  | nil =>
    intro pairs params h
    rw [List.map_eq_nil_iff.mp h.symm]
    rfl
  | cons qm segments ih =>
    intro pairs params h
    by_cases hqm : qm.count 61 = 1
    · rw [List.filter_cons_of_pos (by simpa using hqm)] at h
      obtain ⟨p, rest, rfl, rfl, hrest⟩ := List.map_eq_cons_iff.mp h.symm
      rw [List.foldl_cons, readSegment_pair, ih rest _ hrest.symm]
      rfl
    · rw [List.filter_cons_of_neg (by simpa using hqm)] at h
      rw [List.foldl_cons, readSegment_malformed params hqm, ih pairs _ h]

theorem parseQueryString_segments (segments : List GoString) (hamp : ∀ s ∈ segments, 38 ∉ s)
    (pairs : List (Pair lib)) (h : segments.filter (·.count 61 = 1) = pairs.map Pair.text) :
    parseQueryString lib (List.intercalate [38] segments)
      = GoMap.insertAll ∅ (pairs.map fun p => (p.key, p.value)) := by
  rw [← foldl_readSegment segments pairs ∅ h]
  unfold parseQueryString
  split
  next hempty =>
      -- nothing was joined, or one empty segment
      match segments with
      | [] => rfl
      | [qm] =>
          have hqm : qm = [] := by simpa using hempty
          rw [hqm]
          rfl
      | qm :: qm' :: rest => simp [List.intercalate] at hempty
  next hne =>
      have hsegments : segments ≠ [] := fun hnil => hne (by rw [hnil]; rfl)
      rw [Strings.split, List.splitOn_intercalate 38 hamp hsegments]

/-- **Query strings parse to their parameters**, whatever malformed segments
stand between them. -/
theorem parseQueryString_join (lib : TextLib) (pairs : List (Pair lib)) :
    parseQueryString lib (List.intercalate [38] (pairs.map Pair.text))
        = GoMap.insertAll ∅ (pairs.map fun p => (p.key, p.value))
      ∧ ∀ segments : List GoString, (∀ s ∈ segments, 38 ∉ s) →
        segments.filter (·.count 61 = 1) = pairs.map Pair.text →
        parseQueryString lib (List.intercalate [38] segments)
          = parseQueryString lib (List.intercalate [38] (pairs.map Pair.text)) := by
  have hjoin : parseQueryString lib (List.intercalate [38] (pairs.map Pair.text))
      = GoMap.insertAll ∅ (pairs.map fun p => (p.key, p.value)) := by
    apply parseQueryString_segments
    · intro s hs
      obtain ⟨p, -, rfl⟩ := List.mem_map.mp hs
      exact p.notMem_text
    · apply List.filter_eq_self.mpr
      intro s hs
      obtain ⟨p, -, rfl⟩ := List.mem_map.mp hs
      simp [p.count_text]
  refine ⟨hjoin, fun segments hamp h => ?_⟩
  rw [hjoin]
  exact parseQueryString_segments segments hamp pairs h

/-- Texts of ASCII. -/
def asciiText : TextLib := ⟨id, fun _ _ => false, id, fun _ => none⟩

/-- The pair `a=1`. -/
def oneParam : Pair asciiText where
  key := str "a"
  value := str "1"
  key_plain := ⟨by decide +kernel, by decide +kernel, by decide +kernel⟩
  value_plain := ⟨by decide +kernel, by decide +kernel, by decide +kernel⟩

/-- The query `x&a=1&b=c=d`. -/
theorem parseQueryString_junk :
    parseQueryString asciiText (List.intercalate [38] [str "x", str "a=1", str "b=c=d"])
      = parseQueryString asciiText (List.intercalate [38] [oneParam.text]) :=
  (parseQueryString_join asciiText [oneParam]).2 _ (by decide +kernel) (by decide +kernel)

end Mosn.Protocol.Http
