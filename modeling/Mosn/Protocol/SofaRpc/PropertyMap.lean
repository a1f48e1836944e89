/-
  Mosn.Protocol.SofaRpc.PropertyMap
  **A COMMAND AS STRINGS, AND BACK.**

  Between the codecs a command is a string map: `m ∪ insertAll ∅ fields`,
  the user's headers `m` over the formatted properties.  This module says
  what each end does with such a map.
-/
import Mosn.Protocol.SofaRpc.Handler

namespace Mosn.Protocol.SofaRpc

open Mosn.Lib Mosn.Types Mosn.Protocol.Serialize

/-! ## §1. Format and parse. -/

theorem formatUint64_natCast (n : Nat) (h : n < 2 ^ 64) :
    formatUint64 n = Strconv.formatUint n := by
  unfold formatUint64
  congr 1
  rw [UInt64.ofInt, UInt64.toNat_ofNat']
  omega

theorem convertPropertyValue_uint8 (v : UInt8) :
    convertPropertyValue (formatUint64 v.toNat) .uint8 = .uint8 v := by
  have hlt := v.toNat_lt
  rw [formatUint64_natCast _ (by omega)]
  simp only [convertPropertyValue, Strconv.parseUint_formatUint v.toNat 8 hlt, UInt8.ofNat_toNat]

theorem convertPropertyValue_uint32 (v : UInt32) :
    convertPropertyValue (formatUint64 v.toNat) .uint32 = .uint32 v := by
  have hlt := v.toNat_lt
  rw [formatUint64_natCast _ (by omega)]
  simp only [convertPropertyValue, Strconv.parseUint_formatUint v.toNat 32 hlt,
    UInt32.ofNat_toNat]

theorem convertPropertyValue_int16 (v : Int16) (h : 0 ≤ v.toInt) :
    convertPropertyValue (formatUint64 v.toInt) .int16 = .int16 v := by
  have hlt := v.toInt_lt
  obtain ⟨n, hn⟩ := Int.eq_ofNat_of_zero_le h
  have hv : Int16.ofInt n = v := by
    rw [← hn]
    exact Int16.ofInt_toInt v
  rw [hn, formatUint64_natCast _ (by omega)]
  simp only [convertPropertyValue, Strconv.parseInt_formatUint n 16 (by omega), hv]

theorem convertPropertyValue_int (n : Nat) (h : n < 2 ^ 31) :
    convertPropertyValue (formatUint64 n) .int = .int n := by
  rw [formatUint64_natCast _ (by omega)]
  simp only [convertPropertyValue, Strconv.parseInt_formatUint n 32 h]

theorem toInt_toInt16_of_lt {v : UInt16} (h : v.toNat < 2 ^ 15) : v.toInt16.toInt = v.toNat := by
  rw [toInt_toInt16, if_pos h]

theorem toInt_toInt16_nonneg {v : UInt16} (h : v.toNat < 2 ^ 15) : 0 ≤ v.toInt16.toInt := by
  rw [toInt_toInt16_of_lt h]
  omega

/-! ## §2. From a command to a map. -/

/-- The properties of a V1 request: what `mapToCmd` deletes. -/
def requestProperties : List GoString :=
  [headerProtocolCode, headerCmdType, headerCmdCode, headerVersion, headerReqID, headerCodec,
    headerClassLen, headerHeaderLen, headerContentLen, headerClassName, headerTimeout]

/-- The properties of a V1 response or heartbeat. -/
def responseProperties : List GoString :=
  [headerProtocolCode, headerCmdType, headerCmdCode, headerVersion, headerReqID, headerCodec,
    headerClassLen, headerHeaderLen, headerContentLen, headerClassName, headerRespStatus,
    headerRespTimeMills]

/-- All property names of Bolt. -/
def boltProperties : List GoString :=
  [headerProtocolCode, headerCmdType, headerCmdCode, headerVersion, headerReqID, headerCodec,
    headerClassLen, headerHeaderLen, headerContentLen, headerClassName, headerTimeout,
    headerRespStatus, headerRespTimeMills, headerVersion1, headerSwitchCode]

theorem boltProperties_ne : boltProperties.Pairwise (fun a b => ¬ a = b) := by
  decide +kernel

theorem property_not_internal : ∀ k ∈ boltProperties, k ∉ internalHeaders := by
  decide +kernel

/-- User headers none of whose keys has a meaning of its own to the proxy. -/
def PlainHeaders (m : HeaderMap) : Prop := ∀ k ∈ boltProperties ++ internalHeaders, k ∉ m

variable {m : HeaderMap} {spare : List UInt8}

theorem PlainHeaders.lookup (h : PlainHeaders m) {k : GoString}
    (hk : k ∈ boltProperties ++ internalHeaders) : m.lookup k = none :=
  Finmap.lookup_eq_none.mpr (h k hk)

variable (order : HeaderOrder)

theorem allFields_eq (b : List UInt8) (fields : List (GoString × GoString)) :
    allFields order spare b fields
      = (deSerializeMap spare b ∅).map (· ∪ GoMap.insertAll ∅ fields) := by
  unfold allFields
  cases deSerializeMap spare b ∅ with
  | error p => rfl
  | ok m =>
    show Except.ok (GoMap.insertAll _ (order m).entries) = _
    rw [GoMap.insertAll_listing]
    rfl

theorem allFields_ok {b : List UInt8}
    (fields : List (GoString × GoString)) (h : deSerializeMap spare b ∅ = .ok m) :
    allFields order spare b fields = .ok (m ∪ GoMap.insertAll ∅ fields) := by
  rw [allFields_eq, h]
  rfl

theorem deserializeRequestAllFields_ok
    {c : BoltRequestCommand} (h : deSerializeMap spare c.headerMap ∅ = .ok m) :
    deserializeRequestAllFields order spare c
      = .ok { c with requestHeader := some (m ∪ GoMap.insertAll ∅ (requestFields c)) } := by
  unfold deserializeRequestAllFields
  rw [allFields_ok order _ h]
  rfl

theorem deserializeResponseAllFields_ok
    {c : BoltResponseCommand} (h : deSerializeMap spare c.headerMap ∅ = .ok m) :
    deserializeResponseAllFields order spare c
      = .ok { c with responseHeader := some (m ∪ GoMap.insertAll ∅ (responseFields c)) } := by
  unfold deserializeResponseAllFields
  rw [allFields_ok order _ h]
  rfl

theorem lookup_fields (m : HeaderMap) (fields : List (GoString × GoString)) (k v : GoString)
    (hk : k ∉ m) (hnd : (fields.map Prod.fst).Nodup) (hmem : (k, v) ∈ fields) :
    (m ∪ GoMap.insertAll ∅ fields).lookup k = some v := by
  rw [Finmap.lookup_union_right hk]
  exact GoMap.lookup_insertAll_of_mem k v fields ∅ hnd hmem

/-! ## §3. From a map to a command. -/

namespace BoltV1Codec

/-- The value of a property, as `mapToCmd` finds it. -/
abbrev valueOf (headers : HeaderMap) (name : GoString) : GoValue :=
  propertyValue boltV1PropertyHeaders headers name

section MapToCmd

variable (order : HeaderOrder) {headers : HeaderMap}

/-- The properties that make a map a request. -/
def requestValues (c : BoltRequestCommand) : List (GoString × GoValue) :=
  [(headerProtocolCode, .uint8 c.protocol), (headerCmdType, .uint8 c.cmdType),
    (headerCmdCode, .int16 rpcRequest), (headerVersion, .uint8 c.version),
    (headerReqID, .uint32 c.reqID), (headerCodec, .uint8 c.codecPro),
    (headerClassLen, .int16 c.classLen), (headerHeaderLen, .int16 c.headerLen),
    (headerContentLen, .int c.contentLen), (headerClassName, .string c.className),
    (headerTimeout, .int c.timeout)]

/-- The properties that make it a response. -/
def responseValues (c : BoltResponseCommand) (millis : Int64) : List (GoString × GoValue) :=
  [(headerProtocolCode, .uint8 c.protocol), (headerCmdType, .uint8 c.cmdType),
    (headerCmdCode, .int16 rpcResponse), (headerVersion, .uint8 c.version),
    (headerReqID, .uint32 c.reqID), (headerCodec, .uint8 c.codecPro),
    (headerClassLen, .int16 c.classLen), (headerHeaderLen, .int16 c.headerLen),
    (headerContentLen, .int c.contentLen), (headerClassName, .string c.className),
    (headerRespStatus, .int16 c.responseStatus), (headerRespTimeMills, .int64 millis)]

/-- **`mapToCmd` on the map of a request**: it needs ten keys and all eleven
properties of the right kind, and takes the properties out. -/
theorem mapToCmd_request (c : BoltRequestCommand) (hlen : 10 ≤ headers.len)
    (h : ∀ e ∈ requestValues c, valueOf headers e.1 = e.2) :
    mapToCmd order headers
      = .ok (some (.boltRequest
          { c with
            cmdCode := rpcRequest
            headerMap := encodeMap (order (GoMap.deleteAll headers requestProperties)).entries
            content := []
            requestHeader := none }), GoMap.deleteAll headers requestProperties) := by
  have hge : ¬ headers.len < 10 := by omega
  -- each property is read from a map without the earlier ones, and is none of them
  have hne := boltProperties_ne
  simp only [boltProperties, List.pairwise_cons, List.forall_mem_cons] at hne
  simp only [requestValues, List.forall_mem_cons] at h
  simp only [mapToCmd, hge, ↓reduceIte, getPropertyValue_eq,
    propertyValue_erase_ne, hne, not_false_eq_true, h]
  rfl

/-- **`mapToCmd` on the map of a response.** -/
theorem mapToCmd_response (c : BoltResponseCommand) (millis : Int64) (hlen : 10 ≤ headers.len)
    (h : ∀ e ∈ responseValues c millis, valueOf headers e.1 = e.2) :
    mapToCmd order headers
      = .ok (some (.boltResponse
          { c with
            cmdCode := rpcResponse
            headerMap := encodeMap (order (GoMap.deleteAll headers responseProperties)).entries
            content := []
            responseTimeMillis := millis.toInt
            responseHeader := none }), GoMap.deleteAll headers responseProperties) := by
  have hge : ¬ headers.len < 10 := by omega
  have hne := boltProperties_ne
  simp only [boltProperties, List.pairwise_cons, List.forall_mem_cons] at hne
  simp only [responseValues, List.forall_mem_cons] at h
  simp only [mapToCmd, hge, ↓reduceIte, getPropertyValue_eq,
    propertyValue_erase_ne, hne, not_false_eq_true, h]
  rfl

end MapToCmd

end BoltV1Codec

/-! ## §4. There and back. -/

theorem propertyValue_fields (ph : List (GoString × Kind)) (m : HeaderMap)
    (fields : List (GoString × GoString)) (hnd : (fields.map Prod.fst).Nodup)
    (hm : ∀ e ∈ fields, e.1 ∉ m) : ∀ e ∈ fields, propertyValue ph (m ∪ GoMap.insertAll ∅ fields) e.1
      = convertPropertyValue e.2 (kindOf ph e.1) := by
  intro e he
  exact propertyValue_some ph _ e.1 e.2 (lookup_fields m fields e.1 e.2 (hm e he) hnd he)

theorem ten_le_len_fields (m : HeaderMap) (fields : List (GoString × GoString))
    (hnd : (fields.map Prod.fst).Nodup) (hlen : 10 ≤ fields.length) :
    10 ≤ (m ∪ GoMap.insertAll ∅ fields).len := by
  have hle := GoMap.length_le_len (m ∪ GoMap.insertAll ∅ fields) (fields.map Prod.fst) hnd
    (by
      intro k hk
      obtain ⟨e, he, rfl⟩ := List.mem_map.mp hk
      have hlookup := GoMap.lookup_insertAll_of_mem e.1 e.2 fields ∅ hnd he
      exact Finmap.mem_union.mpr (Or.inr (Finmap.mem_iff.mpr ⟨_, hlookup⟩)))
  rw [List.length_map] at hle
  omega

theorem requestFields_nodup (c : BoltRequestCommand) : ((requestFields c).map Prod.fst).Nodup := by
  show [headerProtocolCode, headerCmdType, headerCmdCode, headerVersion, headerReqID,
    headerCodec, headerTimeout, headerClassLen, headerHeaderLen, headerContentLen,
    headerClassName].Nodup
  decide +kernel

theorem responseFields_nodup (c : BoltResponseCommand) :
    ((responseFields c).map Prod.fst).Nodup := by
  show [headerProtocolCode, headerCmdType, headerCmdCode, headerVersion, headerReqID,
    headerCodec, headerClassLen, headerHeaderLen, headerContentLen, headerRespStatus,
    headerRespTimeMills, headerClassName].Nodup
  decide +kernel

theorem requestFields_keys (c : BoltRequestCommand) :
    ∀ e ∈ requestFields c, e.1 ∈ boltProperties := by
  simp [requestFields, boltProperties, sofaPropertyHeader]

theorem responseFields_keys (c : BoltResponseCommand) :
    ∀ e ∈ responseFields c, e.1 ∈ boltProperties := by
  simp [responseFields, boltProperties, sofaPropertyHeader]

section ThereAndBack

open BoltV1Codec

variable (order : HeaderOrder) (m : HeaderMap)

/-- **A flattened request is read back**, its header section written anew. -/
theorem mapToCmd_requestFields (c : BoltRequestCommand) (hm : ∀ k ∈ requestProperties, k ∉ m)
    (hcode : c.cmdCode = rpcRequest) (hclass : 0 ≤ c.classLen.toInt)
    (hheader : 0 ≤ c.headerLen.toInt) (htimeout : ∃ n : Nat, c.timeout = n ∧ n < 2 ^ 31)
    (hcontent : ∃ n : Nat, c.contentLen = n ∧ n < 2 ^ 31) :
    mapToCmd order (m ∪ GoMap.insertAll ∅ (requestFields c))
      = .ok (some (.boltRequest
          { c with
            headerMap := encodeMap (order m).entries
            content := []
            requestHeader := none }), m) := by
  have hnd := requestFields_nodup c
  have hkeys : ∀ e ∈ requestFields c, e.1 ∈ requestProperties := by
    simp [requestFields, requestProperties, sofaPropertyHeader]
  have hget := propertyValue_fields boltV1PropertyHeaders m (requestFields c) hnd
    (fun e he => hm e.1 (hkeys e he))
  have hrest := GoMap.deleteAll_union m (requestFields c) requestProperties hkeys hm
  have hlen := ten_le_len_fields m _ hnd (by simp [requestFields])
  generalize m ∪ GoMap.insertAll ∅ (requestFields c) = headers at hget hrest hlen ⊢
  -- the values one by one, each parsed back by its kind
  simp only [requestFields, List.forall_mem_cons, deSerializeString_eq] at hget
  obtain ⟨h1, h2, h3, h4, h5, h6, h7, h8, h9, h10, h11, -⟩ := hget
  obtain ⟨t, ht, htlt⟩ := htimeout
  obtain ⟨n, hn, hnlt⟩ := hcontent
  have hvalues : ∀ e ∈ requestValues c, valueOf headers e.1 = e.2 := by
    simp only [requestValues, List.forall_mem_cons]
    exact ⟨h1.trans (convertPropertyValue_uint8 _), h2.trans (convertPropertyValue_uint8 _),
      h3.trans (by rw [hcode]; exact convertPropertyValue_int16 rpcRequest (by decide)),
      h4.trans (convertPropertyValue_uint8 _), h5.trans (convertPropertyValue_uint32 _),
      h6.trans (convertPropertyValue_uint8 _), h8.trans (convertPropertyValue_int16 _ hclass),
      h9.trans (convertPropertyValue_int16 _ hheader),
      h10.trans (by rw [hn]; exact convertPropertyValue_int n hnlt), h11,
      h7.trans (by rw [ht]; exact convertPropertyValue_int t htlt), List.forall_mem_nil _⟩
  rw [mapToCmd_request order c hlen hvalues, hrest, ← hcode]

/-- **A flattened response is read back.**  Its time stamp is not on the wire
and may have any value. -/
theorem mapToCmd_responseFields (c : BoltResponseCommand)
    (hm : ∀ k ∈ responseProperties, k ∉ m) (hcode : c.cmdCode = rpcResponse)
    (hclass : 0 ≤ c.classLen.toInt) (hheader : 0 ≤ c.headerLen.toInt)
    (hstatus : 0 ≤ c.responseStatus.toInt) (hcontent : ∃ n : Nat, c.contentLen = n ∧ n < 2 ^ 31) :
    ∃ millis : Int, mapToCmd order (m ∪ GoMap.insertAll ∅ (responseFields c))
      = .ok (some (.boltResponse
          { c with
            headerMap := encodeMap (order m).entries
            content := []
            responseTimeMillis := millis
            responseHeader := none }), m) := by
  have hnd := responseFields_nodup c
  have hkeys : ∀ e ∈ responseFields c, e.1 ∈ responseProperties := by
    simp [responseFields, responseProperties, sofaPropertyHeader]
  have hget := propertyValue_fields boltV1PropertyHeaders m (responseFields c) hnd
    (fun e he => hm e.1 (hkeys e he))
  have hrest := GoMap.deleteAll_union m (responseFields c) responseProperties hkeys hm
  have hlen := ten_le_len_fields m _ hnd (by simp [responseFields])
  generalize m ∪ GoMap.insertAll ∅ (responseFields c) = headers at hget hrest hlen ⊢
  simp only [responseFields, List.forall_mem_cons, deSerializeString_eq] at hget
  obtain ⟨h1, h2, h3, h4, h5, h6, h7, h8, h9, h10, h11, h12, -⟩ := hget
  obtain ⟨n, hn, hnlt⟩ := hcontent
  obtain ⟨millis, hvalues⟩ : ∃ millis, ∀ e ∈ responseValues c millis,
      valueOf headers e.1 = e.2 := by
    simp only [responseValues, List.forall_mem_cons]
    exact ⟨_, h1.trans (convertPropertyValue_uint8 _), h2.trans (convertPropertyValue_uint8 _),
      h3.trans (by rw [hcode]; exact convertPropertyValue_int16 rpcResponse (by decide)),
      h4.trans (convertPropertyValue_uint8 _), h5.trans (convertPropertyValue_uint32 _),
      h6.trans (convertPropertyValue_uint8 _), h7.trans (convertPropertyValue_int16 _ hclass),
      h8.trans (convertPropertyValue_int16 _ hheader),
      h9.trans (by rw [hn]; exact convertPropertyValue_int n hnlt), h12,
      h10.trans (convertPropertyValue_int16 _ hstatus), h11, List.forall_mem_nil _⟩
  have hread := mapToCmd_response order c millis hlen hvalues
  rw [hrest, ← hcode] at hread
  exact ⟨_, hread⟩

end ThereAndBack


end Mosn.Protocol.SofaRpc
