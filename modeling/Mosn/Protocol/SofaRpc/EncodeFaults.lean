/-
  Mosn.Protocol.SofaRpc.EncodeFaults
  **THE HEADER MAPS THAT ENCODING PANICS ON.**

  `mapToCmd` asserts the type of every property it has fetched, and a property
  that is missing is nil.  A heartbeat is built as a response, whatever its
  type says: the map of a heartbeat *request* has no response status, and the
  goroutine that encodes it dies.  The other panic is the buffer's: its size
  is the sum of the lengths, one of which the map may make negative.
-/
import Mosn.Protocol.SofaRpc.DecodeLoop
import Mosn.Protocol.SofaRpc.EncodeHeaders

namespace Mosn.Protocol.SofaRpc

open Mosn.Lib Mosn.Types Mosn.Network Mosn.Protocol.Serialize

/-! ## §1. The assertions. -/

theorem exists_bind_ok {ε α β : Type} {x : Except ε α} {f : α → Except ε β} :
    (∃ r, (x >>= f) = .ok r) ↔ ∃ a, x = .ok a ∧ ∃ r, f a = .ok r := by
  simp only [bind_eq_ok]
  exact exists_comm.trans (exists_congr fun a => exists_and_left)

namespace BoltV1Codec

variable (order : HeaderOrder) {m : HeaderMap}

theorem assert_property {α : Type} {assert : GoValue → Except Panic α} {k : GoString}
    (hnil : assert .nil = .error .typeAssertion)
    (hsome : ∀ v, ∃ x, assert (convertPropertyValue v (kindOf boltV1PropertyHeaders k)) = .ok x) :
    (∃ x, assert (valueOf m k) = .ok x) ↔ k ∈ m := by
  unfold valueOf propertyValue
  cases hk : m.lookup k with
  | none =>
    refine iff_of_false ?_ (Finmap.lookup_eq_none.mp hk)
    rintro ⟨x, hx⟩
    cases hnil.symm.trans hx
  | some v => exact iff_of_true (hsome v) (Finmap.mem_of_lookup_eq_some hk)

theorem assertUint8_property {k : GoString} (hk : kindOf boltV1PropertyHeaders k = .uint8) :
    (∃ x, assertUint8 (valueOf m k) = .ok x) ↔ k ∈ m :=
  assert_property rfl fun v => ⟨_, by rw [hk]; rfl⟩

theorem assertUint32_property {k : GoString} (hk : kindOf boltV1PropertyHeaders k = .uint32) :
    (∃ x, assertUint32 (valueOf m k) = .ok x) ↔ k ∈ m :=
  assert_property rfl fun v => ⟨_, by rw [hk]; rfl⟩

theorem assertInt16_property {k : GoString} (hk : kindOf boltV1PropertyHeaders k = .int16) :
    (∃ x, assertInt16 (valueOf m k) = .ok x) ↔ k ∈ m :=
  assert_property rfl fun v => ⟨_, by rw [hk]; rfl⟩

theorem assertInt_property {k : GoString} (hk : kindOf boltV1PropertyHeaders k = .int) :
    (∃ x, assertInt (valueOf m k) = .ok x) ↔ k ∈ m :=
  assert_property rfl fun v => ⟨_, by rw [hk]; rfl⟩

theorem assertInt64_property {k : GoString} (hk : kindOf boltV1PropertyHeaders k = .int64) :
    (∃ x, assertInt64 (valueOf m k) = .ok x) ↔ k ∈ m :=
  assert_property rfl fun v => ⟨_, by rw [hk]; rfl⟩

/-- What a command code asks for: the properties that are fetched, and the
size of the frame without its sections. -/
def fetchedFor (code : GoValue) : Option (List GoString × Int) :=
  if code = .int16 rpcRequest then some (requestProperties, 22)
  else if code = .int16 rpcResponse ∨ code = .int16 heartbeat then some (responseProperties, 20)
  else none

/-- No property of the command is missing but the class name. -/
def Complete (m : HeaderMap) : Prop :=
  ∀ p ∈ fetchedFor (valueOf m headerCmdCode),
    ∀ k ∈ p.1, k = headerClassName ∨ k ∈ m

theorem mapToCmd_returns_iff (hlen : 10 ≤ m.len) :
    (∃ r, mapToCmd order m = .ok r) ↔ Complete m := by
  have hge : ¬ m.len < 10 := by omega
  have hne := boltProperties_ne
  simp only [boltProperties, List.pairwise_cons, List.forall_mem_cons] at hne
  simp only [mapToCmd, hge, ↓reduceIte, getPropertyValue_eq, propertyValue_erase_ne, hne,
    not_false_eq_true]
  clear hne
  have hpure : ∀ {α : Type} {a : α}, (∃ r, (pure a : Except Panic α) = .ok r) ↔ True :=
    iff_of_true ⟨_, rfl⟩ trivial
  have hclass : ∀ {k}, ¬ k = headerClassName → ((k = headerClassName ∨ k ∈ m) ↔ k ∈ m) :=
    or_iff_right
  unfold Complete fetchedFor
  split
  next hcode =>
    simp only [exists_bind_ok, hpure, exists_and_right, and_true]
    simp (disch := decide +kernel) only [assertUint8_property, assertUint32_property,
      assertInt16_property, assertInt_property]
    simp only [Option.mem_some_iff, forall_eq', requestProperties, List.forall_mem_cons]
    simp (disch := decide +kernel) only [hclass]
    grind
  next hnreq =>
    split
    next hcode =>
      simp only [exists_bind_ok, hpure, exists_and_right, and_true]
      simp (disch := decide +kernel) only [assertUint8_property, assertUint32_property,
        assertInt16_property, assertInt_property, assertInt64_property]
      simp only [Option.mem_some_iff, forall_eq', responseProperties, List.forall_mem_cons]
      simp (disch := decide +kernel) only [hclass]
      grind
    next hnresp => exact iff_of_true ⟨_, rfl⟩ fun p hp => absurd hp (Option.not_mem_none p)

/-! ## §2. The buffer. -/

theorem getBuffer_returns_iff {size : Int} {write : IoBuffer → IoBuffer} :
    (∀ pool, ∃ r, ((do let b ← getBuffer pool size; return write b : Except Panic IoBuffer).map
      (Except.ok (ε := GoError))) = .ok r) ↔ 0 ≤ size := by
  constructor
  · intro h
    by_contra hneg
    obtain ⟨r, hr⟩ := h none
    rw [getBuffer, IoBuffer.newIoBuffer, if_pos (by omega)] at hr
    cases hr
  · intro h pool
    obtain ⟨b, hb⟩ := getBuffer_ok pool size h
    rw [hb]
    exact ⟨_, rfl⟩

/-- The class length that the map announces leaves the buffer a size. -/
def Roomy (order : HeaderOrder) (m : HeaderMap) : Prop :=
  ∀ p ∈ fetchedFor (valueOf m headerCmdCode), ∀ n,
    valueOf m headerClassLen = .int16 n →
      0 ≤ p.2 + n.toInt + sectionSize (order (GoMap.deleteAll m p.1)).entries

theorem encodeHeaders_returns_iff :
    (∀ pool, ∃ r, encodeHeaders order pool (.map m) = .ok r)
      ↔ (10 ≤ m.len → Complete m ∧ Roomy order m) := by
  have hmap : ∀ pool, (∃ r, encodeHeaders order pool (.map m) = .ok r)
      ↔ ∃ p, mapToCmd order m = .ok p ∧ ∃ r, encodeHeadersCmd pool p.1 = .ok r := by
    intro pool
    simp only [encodeHeaders, exists_bind_ok]
    exact exists_congr fun p => and_congr_right fun _ =>
      exists_congr fun r => and_iff_left ⟨_, rfl⟩
  simp only [hmap]
  by_cases hlen : 10 ≤ m.len
  · simp only [hlen, true_imp_iff]
    by_cases hcomplete : Complete m
    · obtain ⟨⟨cmd, rest⟩, hcmd⟩ := (mapToCmd_returns_iff order hlen).mpr hcomplete
      simp only [hcmd, Except.ok.injEq, exists_eq_left', hcomplete, true_and, Roomy, fetchedFor]
      rcases mapToCmd_cases hcmd
        with ⟨hlt, -⟩ | ⟨-, c, rfl, hc⟩ | ⟨-, c, rfl, hc⟩ | ⟨-, rfl, -, hnreq, hnresp⟩
      · omega
      · refine getBuffer_returns_iff.trans ?_
        simp only [hc.classLen, hc.cmdCode, hc.isRequest, GoValue.int16.injEq, ↓reduceIte,
          Option.mem_some_iff, forall_eq', hc.headerMap, serialize, length_encodeMap]
        rw [← hc.rest_eq]
      · have hne : ¬ c.cmdCode = rpcRequest := by
          rcases hc.isResponse with h | h <;> rw [h] <;> decide
        refine getBuffer_returns_iff.trans ?_
        simp only [hc.classLen, hc.cmdCode, hne, hc.isResponse, GoValue.int16.injEq, ↓reduceIte,
          Option.mem_some_iff, forall_eq', hc.headerMap, serialize, length_encodeMap]
        rw [← hc.rest_eq]
      · rw [if_neg hnreq, if_neg hnresp]
        exact iff_of_true (fun pool => ⟨_, rfl⟩) fun p hp => absurd hp (Option.not_mem_none p)
    · refine iff_of_false (fun h => ?_) fun h => hcomplete h.1
      obtain ⟨p, hp, -⟩ := h none
      exact hcomplete ((mapToCmd_returns_iff order hlen).mp ⟨p, hp⟩)
  · refine iff_of_true (fun pool => ⟨(none, m), ?_, _, rfl⟩) fun h => absurd h hlen
    rw [mapToCmd, if_pos (by omega)]

end BoltV1Codec

theorem BoltV2Codec.encodeHeaders_returns_iff (order : HeaderOrder)
    (pool : Option SlabPool) (m : HeaderMap) :
    (∃ r, encodeHeaders order pool (.map m) = .ok r)
      ↔ (12 ≤ m.len → BoltV1Codec.Complete m) := by
  by_cases hlen : 12 ≤ m.len
  · have hge : ¬ m.len < 12 := by omega
    rw [← BoltV1Codec.mapToCmd_returns_iff order (by omega)]
    simp only [encodeHeaders, mapToCmd, hge, ↓reduceIte, hlen, true_imp_iff]
    cases BoltV1Codec.mapToCmd order m with
    | error e =>
      refine iff_of_false ?_ ?_
      all_goals
        rintro ⟨r, hr⟩
        cases hr
    | ok p => exact iff_of_true ⟨_, rfl⟩ ⟨_, rfl⟩
  · have hlt : m.len < 12 := by omega
    simp only [encodeHeaders, mapToCmd, hlt, ↓reduceIte]
    exact iff_of_true ⟨_, rfl⟩ fun h => absurd h hlen

/-! ## §3. The registry. -/

/-- A map that encoding does not panic on. -/
def EncodesSafely (order : HeaderOrder) (m : HeaderMap) : Prop :=
  ∀ v, m.lookup headerProtocolCode = some v →
    (convertPropertyValue v .uint8 = .uint8 protocolCodeV1 → 10 ≤ m.len →
      BoltV1Codec.Complete m ∧ BoltV1Codec.Roomy order m)
    ∧ (convertPropertyValue v .uint8 = .uint8 protocolCodeV2 → 12 ≤ m.len →
      BoltV1Codec.Complete m)

section Registry

variable {τ : Type} (h₁ h₂ : BoltCommandHandler τ)
  (order : HeaderOrder) (m : HeaderMap)

/-- **Encoding a map returns a buffer or an error just when** the command it
stands for lacks no property and its lengths do not make the buffer's size
negative.  With a slab pool a negative size is the pool's affair; without one
it panics. -/
theorem encodeHeaders_returns_iff_safely :
    (∀ pool, ∃ r, (defaultProtocols h₁ h₂).encodeHeaders order pool (.map m) = .ok r)
      ↔ EncodesSafely order m := by
  unfold EncodesSafely
  cases hlookup : m.lookup headerProtocolCode with
  | none =>
    simp only [Protocols.encodeHeaders, sofaPropertyHeader, hlookup]
    exact iff_of_true (fun _ => ⟨_, rfl⟩) fun v hv => absurd hv.symm (Option.some_ne_none v)
  | some v =>
    have hcode : convertPropertyValue v .uint8 = .uint8 (UInt8.ofNat (Strconv.parseUint v 8).1) :=
      rfl
    generalize UInt8.ofNat (Strconv.parseUint v 8).1 = code at hcode
    simp only [Protocols.encodeHeaders, sofaPropertyHeader, hlookup, hcode, assertUint8,
      Option.some.injEq, forall_eq', defaultProtocols, GoValue.uint8.injEq, bind, Except.bind]
    by_cases hv1 : code = protocolCodeV1
    · have hne : ¬ protocolCodeV1 = protocolCodeV2 := by decide
      simp only [hv1, hne, ↓reduceIte, true_imp_iff, false_imp_iff, and_true]
      exact BoltV1Codec.encodeHeaders_returns_iff order
    · by_cases hv2 : code = protocolCodeV2
      · have hne : ¬ protocolCodeV2 = protocolCodeV1 := by decide
        simp only [hv2, hne, ↓reduceIte, true_imp_iff, false_imp_iff, true_and]
        exact (forall_congr' fun pool => BoltV2Codec.encodeHeaders_returns_iff order pool m).trans
          (forall_const _)
      · simp only [hv1, hv2, ↓reduceIte, false_imp_iff, and_true]
        exact iff_of_true (fun _ => ⟨_, rfl⟩) trivial

end Registry

/-- The map of a heartbeat that a peer sent. -/
def heartbeatMap : HeaderMap :=
  ∅ ∪ GoMap.insertAll ∅ (requestFields (requestCommandV1 emptyHeartbeatV1))

/-- **A heartbeat request that is passed on kills the goroutine that encodes
it.** -/
theorem encodeHeaders_heartbeatMap_panics :
    ¬ ∃ r, (defaultProtocols idleHandler idleHandler).encodeHeaders GoMap.someOrder none
      (.map heartbeatMap) = .ok r := by
  have hnd := requestFields_nodup (requestCommandV1 emptyHeartbeatV1)
  have hvalue : ∀ {k v}, (k, v) ∈ requestFields (requestCommandV1 emptyHeartbeatV1) →
      heartbeatMap.lookup k = some v :=
    lookup_fields ∅ _ _ _ Finmap.notMem_empty hnd
  have hlen : 10 ≤ heartbeatMap.len := ten_le_len_fields ∅ _ hnd (by decide)
  have hcode : BoltV1Codec.valueOf heartbeatMap headerCmdCode
      = .int16 heartbeat :=
    (propertyValue_some _ _ _ _ (hvalue (List.mem_of_getElem? (i := 2) rfl))).trans
      (convertPropertyValue_int16 heartbeat (by decide))
  have hstatus : headerRespStatus ∉ heartbeatMap := by
    rw [heartbeatMap, Finmap.empty_union, ← Finmap.lookup_eq_none,
      GoMap.lookup_insertAll_of_notMem _ _ _ (by decide +kernel)]
    rfl
  rw [encodeHeaders_map_v1 _ _ _ _ _ (formatUint64 1) (hvalue List.mem_cons_self)
    (convertPropertyValue_uint8 1)]
  rintro ⟨⟨r, left⟩, hr⟩
  obtain ⟨cmd, rest, hcmd, -⟩ := BoltV1Codec.encodeHeaders_map hr
  have hcomplete := (BoltV1Codec.mapToCmd_returns_iff _ hlen).mp ⟨_, hcmd⟩
  rcases hcomplete _ (by rw [hcode]; rfl) headerRespStatus (by decide +kernel) with h | h
  · exact absurd h (by decide)
  · exact hstatus h

end Mosn.Protocol.SofaRpc
