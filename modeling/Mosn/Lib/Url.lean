/-
  Mosn.Lib.Url
  **THE PATH OF A PARSED URL.**

  A URL is parsed into an UNESCAPED path; the escaped form is rebuilt when the
  URL is sent.  The text that was parsed is kept beside it only where escaping
  would not give it back (`rawPath`), and used only if every byte of it may
  stand in a path.  So a path can come out in another form, be cut at a `#`, or
  be taken for a part of the host:

    • `validEncoded_escapedPath` — whatever comes out may stand in a path,
    • `escapedPath_parseHttp_iff` — which paths come out as they went in.

  Escapes are read as in a path.  Which authorities are accepted is a parameter.
-/
import Mathlib.Data.List.TakeWhile
import Mosn.Lib.Strconv

namespace Mosn.Lib.Url

/-! ## §1. Escapes. -/

/-- A hexadecimal digit. -/
def isHex (b : UInt8) : Bool :=
  (48 ≤ b && b ≤ 57) || (97 ≤ b && b ≤ 102) || (65 ≤ b && b ≤ 70)

/-- Its value. -/
def unhex (b : UInt8) : UInt8 :=
  if 48 ≤ b && b ≤ 57 then b - 48 else if 97 ≤ b && b ≤ 102 then b - 87 else b - 55

/-- The digit of a value below 16. -/
def upperHex (n : Nat) : UInt8 := UInt8.ofNat (if n < 10 then 48 + n else 55 + n)

/-- Every `%` is followed by two digits, and stands for the byte they give. -/
def unescape : GoString → Option GoString
  | [] => some []
  | b :: rest =>
    if b = 37 then
      match rest with
      | hi :: lo :: rest =>
        if isHex hi && isHex lo then (unescape rest).map ((unhex hi * 16 + unhex lo) :: ·)
        else none
      | _ => none
    else (unescape rest).map (b :: ·)

/-- Letters, digits, `-_.~` and `$&+,/:;=@` need no escape in a path. -/
def shouldEscape (b : UInt8) : Bool :=
  !((48 ≤ b && b ≤ 57) || (97 ≤ b && b ≤ 122) || (65 ≤ b && b ≤ 90)
    || [45, 95, 46, 126, 36, 38, 43, 44, 47, 58, 59, 61, 64].contains b)

def escape (s : GoString) : GoString :=
  s.flatMap fun b =>
    if shouldEscape b then [37, upperHex (b.toNat / 16), upperHex (b.toNat % 16)] else [b]

/-- The bytes that may stand in an escaped path: those that need no escape, and
`!'()*[]%`. -/
def pathByte (b : UInt8) : Bool := [33, 39, 40, 41, 42, 91, 93, 37].contains b || !shouldEscape b

def validEncoded (s : GoString) : Bool := s.all pathByte

theorem pathByte_upperHex {n : Nat} (h : n < 16) : pathByte (upperHex n) = true := by
  have hall : ∀ n : Fin 16, pathByte (upperHex n) = true := by decide
  exact hall ⟨n, h⟩

/-- **What is escaped may stand in a path.** -/
theorem validEncoded_escape (s : GoString) : validEncoded (escape s) = true := by
  unfold validEncoded escape
  rw [List.all_eq_true]
  intro x hx
  obtain ⟨b, -, hb⟩ := List.mem_flatMap.mp hx
  by_cases hesc : shouldEscape b = true
  · have hlt := b.toNat_lt
    rw [if_pos hesc] at hb
    rcases List.mem_cons.mp hb with rfl | hb
    · rfl
    · rcases List.mem_cons.mp hb with rfl | hb
      · exact pathByte_upperHex (by omega)
      · rw [List.mem_singleton.mp hb]
        exact pathByte_upperHex (by omega)
  · rw [if_neg hesc] at hb
    rw [List.mem_singleton.mp hb]
    unfold pathByte
    rw [Bool.eq_false_iff.mpr hesc]
    exact Bool.or_true _

variable {p s addr rest : GoString} {accepts : GoString → Bool}

theorem unescape_slash {path : GoString} (h : unescape (47 :: p) = some path) :
    ∃ rest, unescape p = some rest ∧ path = 47 :: rest := by
  unfold unescape at h
  rw [if_neg (by decide)] at h
  obtain ⟨rest, hrest, rfl⟩ := Option.map_eq_some_iff.mp h
  exact ⟨rest, hrest, rfl⟩

/-! ## §2. Parsing. -/

structure URL where
  host : GoString
  path : GoString
  rawPath : GoString
  rawQuery : GoString
  fragment : GoString
  deriving DecidableEq, Repr

/-- The path in the form in which it is sent. -/
def URL.escapedPath (u : URL) : GoString :=
  if u.rawPath ≠ [] ∧ validEncoded u.rawPath = true ∧ unescape u.rawPath = some u.path then
    u.rawPath
  else if u.path = [42] then [42]
  else escape u.path

/-- The text up to the first `sep`, and the text behind it. -/
def cut (sep : UInt8) (s : GoString) : GoString × GoString :=
  (s.takeWhile (· ≠ sep), (s.dropWhile (· ≠ sep)).drop 1)

/-- Parse what follows `http://`. -/
def parseHttp (accepts : GoString → Bool) (s : GoString) : Option URL :=
  let withFragment := cut 35 s
  let withQuery := cut 63 withFragment.1
  let authority := withQuery.1.takeWhile (· ≠ 47)
  let rest := withQuery.1.dropWhile (· ≠ 47)
  if accepts authority then do
    let path ← unescape rest
    let fragment ← unescape withFragment.2
    return ⟨authority, path, if escape path = rest then [] else rest, withQuery.2, fragment⟩
  else none

theorem validEncoded_escapedPath (u : URL) : validEncoded u.escapedPath = true := by
  unfold URL.escapedPath
  split
  next h => exact h.2.1
  next =>
    split
    · decide
    · exact validEncoded_escape u.path

theorem cut_of_notMem {sep : UInt8} (h : sep ∉ s) : cut sep s = (s, []) := by
  have hall : ∀ b ∈ s, decide (b ≠ sep) = true := by
    intro b hb
    exact decide_eq_true fun heq => h (heq ▸ hb)
  unfold cut
  rw [List.takeWhile_eq_self_iff.mpr hall, List.dropWhile_eq_nil_iff.mpr hall]
  rfl

theorem split_authority (haddr : 47 ∉ addr) (hp : p = [] ∨ p.head? = some 47) :
    (addr ++ p).takeWhile (· ≠ 47) = addr ∧ (addr ++ p).dropWhile (· ≠ 47) = p := by
  have hall : ∀ b ∈ addr, decide (b ≠ 47) = true := by
    intro b hb
    exact decide_eq_true fun heq => haddr (heq ▸ hb)
  rw [List.takeWhile_append_of_pos hall, List.dropWhile_append_of_pos hall]
  rcases hp with rfl | hp
  · exact ⟨List.append_nil addr, rfl⟩
  · obtain ⟨rest, rfl⟩ : ∃ rest, p = 47 :: rest := by
      cases p with
      | nil => cases hp
      | cons b rest =>
        cases hp
        exact ⟨rest, rfl⟩
    exact ⟨List.append_nil addr, rfl⟩

/-- The path of a URL, from the text it was parsed from. -/
structure PathOf (rest : GoString) (u : URL) : Prop where
  path : unescape rest = some u.path
  rawPath : u.rawPath = if escape u.path = rest then [] else rest

/-- **A path that begins with a slash** comes out as it went in exactly when
all its bytes may stand in a path. -/
theorem PathOf.escapedPath_eq_iff (h : PathOf rest u) (hrest : rest = [] ∨ rest.head? = some 47) :
    u.escapedPath = rest ↔ validEncoded rest = true := by
  have hstar : u.path ≠ [42] := by
    intro hpath
    have hun := h.path
    rw [hpath] at hun
    rcases hrest with rfl | hhead
    · cases hun
    · cases rest with
      | nil => cases hhead
      | cons b rest =>
        cases hhead
        obtain ⟨rest', -, hcons⟩ := unescape_slash hun
        exact absurd (List.cons.inj hcons).1 (by decide)
  constructor
  · intro heq
    rw [← heq]
    exact validEncoded_escapedPath u
  · intro hvalid
    unfold URL.escapedPath
    by_cases hesc : escape u.path = rest
    · rw [h.rawPath, if_pos hesc, if_neg (fun hraw => hraw.1 rfl), if_neg hstar, hesc]
    · rw [h.rawPath, if_neg hesc]
      have hne : rest ≠ [] := by
        rintro rfl
        have hempty : u.path = [] := (Option.some.inj h.path).symm
        rw [hempty] at hesc
        exact hesc rfl
      rw [if_pos ⟨hne, hvalid, h.path⟩]

theorem PathOf.escapedPath_head (h : PathOf rest u) (hrest : rest = [] ∨ rest.head? = some 47) :
    u.escapedPath = [] ∨ u.escapedPath.head? = some 47 := by
  by_cases hvalid : validEncoded rest = true
  · rw [(h.escapedPath_eq_iff hrest).mpr hvalid]
    exact hrest
  · -- then it is escaped anew
    rcases hrest with rfl | hhead
    · exact absurd rfl hvalid
    · cases rest with
      | nil => cases hhead
      | cons b rest =>
        cases hhead
        obtain ⟨rest', -, hpath⟩ := unescape_slash h.path
        have hraw : ¬ (u.rawPath ≠ [] ∧ validEncoded u.rawPath = true
            ∧ unescape u.rawPath = some u.path) := by
          rintro ⟨hne, hv, -⟩
          rw [h.rawPath] at hne hv
          split at hv
          next hesc => exact hne (if_pos hesc)
          next => exact hvalid hv
        right
        unfold URL.escapedPath
        rw [if_neg hraw, hpath, if_neg (by simp)]
        rfl

theorem parseHttp_eq_some (h : parseHttp accepts s = some u) :
    accepts ((cut 63 (cut 35 s).1).1.takeWhile (· ≠ 47)) = true
      ∧ PathOf ((cut 63 (cut 35 s).1).1.dropWhile (· ≠ 47)) u
      ∧ u.rawQuery = (cut 63 (cut 35 s).1).2 := by
  unfold parseHttp at h
  simp only at h
  split at h
  next haccepts =>
    obtain ⟨path, hpath, h⟩ := Option.bind_eq_some_iff.mp h
    obtain ⟨fragment, -, h⟩ := Option.bind_eq_some_iff.mp h
    cases h
    exact ⟨haccepts, ⟨hpath, rfl⟩, rfl⟩
  next => cases h

theorem dropWhile_head (s : GoString) :
    s.dropWhile (· ≠ 47) = [] ∨ (s.dropWhile (· ≠ 47)).head? = some 47 := by
  cases hdrop : s.dropWhile (· ≠ 47) with
  | nil => exact .inl rfl
  | cons b rest =>
    right
    have hfirst := List.head?_dropWhile_not (· ≠ (47 : UInt8)) s
    rw [hdrop] at hfirst
    simpa using hfirst

/-- **Which paths come out as they went in**, behind an address without
`/`, `?` and `#`. -/
theorem escapedPath_parseHttp_iff (haddr : ∀ b ∈ addr, b ≠ 47 ∧ b ≠ 63 ∧ b ≠ 35) (hquery : 63 ∉ p) :
    (parseHttp accepts (addr ++ p)).map URL.escapedPath = some p
      ↔ accepts addr = true ∧ (p = [] ∨ p.head? = some 47) ∧ validEncoded p = true
        ∧ (unescape p).isSome = true := by
  have haddr47 : (47 : UInt8) ∉ addr := fun h => (haddr 47 h).1 rfl
  have hq : ∀ p' : GoString, (63 : UInt8) ∉ p' → (63 : UInt8) ∉ addr ++ p' := by
    intro p' hp' h
    rcases List.mem_append.mp h with h | h
    · exact (haddr 63 h).2.1 rfl
    · exact hp' h
  -- a path that may stand in a URL has no fragment
  have hcut : validEncoded p = true → (cut 63 (cut 35 (addr ++ p)).1).1 = addr ++ p
      ∧ (cut 35 (addr ++ p)).2 = [] := by
    intro hvalid
    have hnot : (35 : UInt8) ∉ addr ++ p := by
      intro h
      rcases List.mem_append.mp h with h | h
      · exact (haddr 35 h).2.2 rfl
      · exact absurd (List.all_eq_true.mp hvalid 35 h) (by decide)
    rw [cut_of_notMem hnot]
    exact ⟨congrArg Prod.fst (cut_of_notMem (hq p hquery)), rfl⟩
  constructor
  · intro h
    obtain ⟨u, hu, hpath⟩ := Option.map_eq_some_iff.mp h
    have hvalid : validEncoded p = true := hpath ▸ validEncoded_escapedPath u
    obtain ⟨haccepts, hof, -⟩ := parseHttp_eq_some hu
    rw [(hcut hvalid).1] at haccepts hof
    have hhead : p = [] ∨ p.head? = some 47 :=
      hpath ▸ hof.escapedPath_head (dropWhile_head _)
    obtain ⟨hauth, hrest⟩ := split_authority haddr47 hhead
    rw [hauth] at haccepts
    rw [hrest] at hof
    exact ⟨haccepts, hhead, hvalid, Option.isSome_iff_exists.mpr ⟨_, hof.path⟩⟩
  · rintro ⟨haccepts, hhead, hvalid, hescapes⟩
    obtain ⟨path, hpath⟩ := Option.isSome_iff_exists.mp hescapes
    obtain ⟨hauth, hrest⟩ := split_authority haddr47 hhead
    obtain ⟨hsame, hfragment⟩ := hcut hvalid
    have hu : parseHttp accepts (addr ++ p) = some ⟨addr, path,
        if escape path = p then [] else p, (cut 63 (cut 35 (addr ++ p)).1).2, []⟩ := by
      unfold parseHttp
      simp only [hsame, hauth, hrest, haccepts, hpath, hfragment, if_true]
      exact Option.bind_eq_some_iff.mpr ⟨path, rfl,
        Option.bind_eq_some_iff.mpr ⟨[], by unfold unescape; rfl, rfl⟩⟩
    rw [hu]
    have hof : PathOf p ⟨addr, path, if escape path = p then [] else p,
        (cut 63 (cut 35 (addr ++ p)).1).2, []⟩ := ⟨hpath, rfl⟩
    exact congrArg some ((hof.escapedPath_eq_iff hhead).mpr hvalid)

theorem rawQuery_parseHttp (hs : 63 ∉ s) (h : parseHttp accepts s = some u) : u.rawQuery = [] := by
  obtain ⟨-, -, hquery⟩ := parseHttp_eq_some h
  have hnot : (63 : UInt8) ∉ (cut 35 s).1 := by
    intro hmem
    exact hs ((List.takeWhile_sublist _).subset hmem)
  rw [hquery, cut_of_notMem hnot]

end Mosn.Lib.Url
