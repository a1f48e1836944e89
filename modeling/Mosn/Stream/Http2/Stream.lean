/-
  Mosn.Stream.Http2.Stream
  **FORWARDING AN HTTP/2 REQUEST** (`serverStream.handleRequest` and the
  `Append` methods of `clientStream`, in `pkg/stream/http2/stream.go`).

  The server side takes a request apart into a header map, a buffer and
  trailers; the client side builds a request from these.  Path and query travel
  as header entries.  The METHOD does not travel at all:

      received             delivered                    sent
      GET /a?x=1           path /a, querystring x=1     POST /a
      body                 buffer                       body

  `AppendData` sets the method to POST, and it is called for every request,
  with an empty buffer if there is no body.  `AppendHeaders` deletes the query.

    • `forwarded_faithful_iff` — the request is kept exactly when it is a POST
      without a query and its path passes through `url.Parse` unchanged.
-/
import Mosn.Lib.Strings
import Mosn.Lib.GoMap
import Mosn.Lib.Url
import Mosn.Network.IoBuffer

namespace Mosn.Stream.Http2

open Mosn.Lib Mosn.Network

/-! ## §1. Requests. -/

/-- `http.Header`. -/
abbrev Header : Type := GoMap GoString (List GoString)

/-- The header map inside the proxy. -/
abbrev HeaderMap : Type := GoMap GoString GoString

/-- A request as the server receives it. -/
structure Request where
  method : GoString
  requestURI : GoString
  host : GoString
  header : Header
  /-- The content of the body, and how it is handed out. -/
  body : List UInt8
  source : Source
  trailer : Header

/-- A request as the client sends it. -/
structure UpstreamRequest where
  method : GoString
  url : Option Url.URL
  host : GoString
  header : Header
  body : Option IoBuffer
  trailer : Header

/-- What is used of the libraries: texts, the order of range loops, and the
authorities that `url.Parse` accepts. -/
structure HttpLib where
  text : TextLib
  headerOrder : GoMap.RangeOrder GoString (List GoString)
  mapOrder : GoMap.RangeOrder GoString GoString
  acceptsAuthority : GoString → Bool

/-- `protocol.MosnHeaderHostKey`. -/
def hostKey : GoString := str "host"

/-- `protocol.MosnHeaderPathKey`. -/
def pathKey : GoString := str "path"

/-- `protocol.MosnHeaderQueryStringKey`. -/
def queryStringKey : GoString := str "querystring"

/-- `protocol.MosnHeaderMethod`. -/
def methodKey : GoString := str "method"

/-- The names that the proxy uses itself. -/
def internalNames : List GoString := [hostKey, pathKey, queryStringKey, methodKey]

/-- `decodeHeader`. -/
def decodeHeader (lib : HttpLib) (header : Header) : HeaderMap :=
  GoMap.insertAll ∅ ((lib.headerOrder header).entries.map fun e =>
    (Strings.toLower lib.text e.1, List.intercalate [44] e.2))

/-- `encodeHeader`. -/
def encodeHeader (lib : HttpLib) (headers : HeaderMap) : Header :=
  GoMap.insertAll ∅ ((lib.mapOrder headers).entries.map fun e => (e.1, Strings.split e.2 44))

/-! ## §2. Receiving. -/

/-- `parsePathFromURI`.  What follows a second `?` is dropped. -/
def parsePathFromURI (requestURI : GoString) : GoString × GoString :=
  if requestURI = [] then ([], [])
  else
    match Strings.split requestURI 63 with
    | path :: queryString :: _ => (path, queryString)
    | [path] => (path, [])
    | [] => ([], [])

/-- Set a header if it is not found. -/
def setDefault (header : HeaderMap) (k v : GoString) : HeaderMap :=
  if k ∈ header then header else header.insert k v

/-- What the stream receiver is called with, in this order. -/
structure Delivered where
  headers : HeaderMap
  data : IoBuffer
  trailers : HeaderMap

/-- `serverStream.handleRequest`. -/
def handleRequest (lib : HttpLib) (request : Request) : Delivered where
  headers :=
    let header := setDefault (decodeHeader lib request.header) hostKey request.host
    let header := setDefault header pathKey (parsePathFromURI request.requestURI).1
    setDefault header queryStringKey (parsePathFromURI request.requestURI).2
  data := IoBuffer.zero.readFrom request.source request.body
  trailers := decodeHeader lib request.trailer

/-! ## §3. Sending. -/

/-- `new(http.Request)`. -/
def newRequest : UpstreamRequest := ⟨[], none, [], ∅, none, ∅⟩

/-- `url.Parse("http://" + addr + path)`, nil if that fails. -/
def parseURL (lib : HttpLib) (addr path : GoString) : Option Url.URL :=
  Url.parseHttp lib.acceptsAuthority (addr ++ path)

/-- `clientStream.AppendHeaders`, to the peer `addr`. -/
def appendHeaders (lib : HttpLib) (addr : GoString) (request : Option UpstreamRequest)
    (headers : HeaderMap) : UpstreamRequest :=
  let request := request.getD
    { newRequest with method := str "GET", url := parseURL lib addr (str "/") }
  let request := match headers.lookup pathKey with
    | some path => { request with url := parseURL lib addr path }
    | none => request
  let headers := headers.erase pathKey
  let request := if str "Host" ∈ headers then { request with host := addr } else request
  let headers := if str "Host" ∈ headers then headers.insert (str "Host") addr else headers
  let headers := GoMap.deleteAll headers [queryStringKey, methodKey, hostKey]
  { request with header := encodeHeader lib headers }

/-- `clientStream.AppendData`. -/
def appendData (request : Option UpstreamRequest) (data : IoBuffer) : UpstreamRequest :=
  { request.getD newRequest with method := str "POST", body := some data }

/-- `clientStream.AppendTrailers`. -/
def appendTrailers (lib : HttpLib) (request : UpstreamRequest) (trailers : HeaderMap) :
    UpstreamRequest :=
  { request with trailer := encodeHeader lib trailers }

/-- The request that is sent upstream, if the proxy passes on what it is given. -/
def forward (lib : HttpLib) (addr : GoString) (request : Request) : UpstreamRequest :=
  let d := handleRequest lib request
  appendTrailers lib (appendData (some (appendHeaders lib addr none d.headers)) d.data) d.trailers

/-! ## §4. What is kept. -/

/-- The path of a request: its URI up to the first `?`. -/
def Request.path (request : Request) : GoString := (Url.cut 63 request.requestURI).1

/-- The query string of a request: its URI behind the first `?`. -/
def Request.queryString (request : Request) : GoString := (Url.cut 63 request.requestURI).2

/-- The two requests have the same method, path, query string and body. -/
structure Faithful (request : Request) (sent : UpstreamRequest) : Prop where
  method : sent.method = request.method
  path : sent.url.map Url.URL.escapedPath = some request.path
  queryString : sent.url.map Url.URL.rawQuery = some request.queryString
  body : sent.body.map IoBuffer.bytes = some request.body

/-- **The body is kept.** -/
theorem body_forwarded (lib : HttpLib) (addr : GoString) (request : Request) :
    (forward lib addr request).body.map IoBuffer.bytes = some request.body := by
  change some (IoBuffer.zero.readFrom request.source request.body).bytes = some request.body
  rw [IoBuffer.bytes_readFrom]
  rfl

theorem parsePathFromURI_fst (request : Request) :
    (parsePathFromURI request.requestURI).1 = request.path := by
  unfold parsePathFromURI Request.path Url.cut
  by_cases hempty : request.requestURI = []
  · rw [if_pos hempty, hempty]
    rfl
  · grind [Strings.head?_split, Strings.split, Option.some.inj]

theorem lookup_setDefault (header : HeaderMap) (k k' v : GoString) :
    (setDefault header k v).lookup k'
      = if k' = k ∧ k ∉ header then some v else header.lookup k' := by
  unfold setDefault
  grind [GoMap.lookup_insert_ite]

/-- No header of the request has a name that the proxy uses itself. -/
def PlainHeaders (lib : HttpLib) (request : Request) : Prop :=
  ∀ k ∈ request.header, Strings.toLower lib.text k ∉ internalNames

variable {lib : HttpLib} {request : Request}

theorem notMem_decodeHeader (h : PlainHeaders lib request)
    {k : GoString} (hk : k ∈ internalNames) : k ∉ decodeHeader lib request.header := by
  apply Finmap.lookup_eq_none.mp
  unfold decodeHeader
  rw [GoMap.lookup_insertAll_of_notMem, Finmap.lookup_empty]
  intro hmem
  obtain ⟨e, he, rfl⟩ := List.mem_map.mp hmem
  obtain ⟨e', he', rfl⟩ := List.mem_map.mp he
  have hkey : e'.1 ∈ request.header :=
    ((lib.headerOrder request.header).mem_keys e'.1).mp (List.mem_map_of_mem he')
  exact h e'.1 hkey hk

/-- **The path is delivered** under its key. -/
theorem lookup_path (h : PlainHeaders lib request) :
    (handleRequest lib request).headers.lookup pathKey = some request.path := by
  have hnone : pathKey ∉ setDefault (decodeHeader lib request.header) hostKey request.host := by
    apply Finmap.lookup_eq_none.mp
    rw [lookup_setDefault, if_neg (fun h => absurd h.1 (by decide))]
    exact Finmap.lookup_eq_none.mpr (notMem_decodeHeader h (by decide))
  change (setDefault (setDefault (setDefault (decodeHeader lib request.header) hostKey
    request.host) pathKey _) queryStringKey _).lookup pathKey = _
  rw [lookup_setDefault, if_neg (fun h => absurd h.1 (by decide)), lookup_setDefault,
    if_pos ⟨rfl, hnone⟩, parsePathFromURI_fst]

theorem url_forwarded {addr : GoString} (h : PlainHeaders lib request) :
    (forward lib addr request).url = parseURL lib addr request.path := by
  have hurl : ∀ headers : HeaderMap, headers.lookup pathKey = some request.path →
      (appendHeaders lib addr none headers).url = parseURL lib addr request.path := by
    intro headers hpath
    unfold appendHeaders
    simp only [hpath]
    split <;> rfl
  exact hurl _ (lookup_path h)

theorem notMem_path (request : Request) : (63 : UInt8) ∉ request.path := by
  intro hmem
  have hne := List.mem_takeWhile_imp hmem
  simp at hne

/-- The path passes through `url.Parse` unchanged: it is empty or begins with a
slash, all its bytes may stand in a path, and its escapes can be read. -/
structure PathKept (lib : HttpLib) (addr path : GoString) : Prop where
  authority : lib.acceptsAuthority addr = true
  slash : path = [] ∨ path.head? = some 47
  valid : Url.validEncoded path = true
  escapes : (Url.unescape path).isSome = true

/-- **Which requests are forwarded faithfully.** -/
theorem forwarded_faithful_iff (lib : HttpLib) (addr : GoString) (request : Request)
    (hheaders : PlainHeaders lib request) (haddr : ∀ b ∈ addr, b ≠ 47 ∧ b ≠ 63 ∧ b ≠ 35) :
    Faithful request (forward lib addr request)
      ↔ request.method = str "POST" ∧ request.queryString = []
        ∧ PathKept lib addr request.path := by
  have hkept : (parseURL lib addr request.path).map Url.URL.escapedPath = some request.path
      ↔ PathKept lib addr request.path := by
    refine (Url.escapedPath_parseHttp_iff haddr (notMem_path request)).trans ?_
    exact ⟨fun h => ⟨h.1, h.2.1, h.2.2.1, h.2.2.2⟩,
      fun h => ⟨h.authority, h.slash, h.valid, h.escapes⟩⟩
  have hquery : ∀ u, parseURL lib addr request.path = some u → u.rawQuery = [] := by
    intro u hu
    refine Url.rawQuery_parseHttp ?_ hu
    grind [notMem_path]
  constructor
  · intro h
    have hpath := h.path
    have hsent := h.queryString
    rw [url_forwarded hheaders] at hpath hsent
    obtain ⟨u, hu, -⟩ := Option.map_eq_some_iff.mp hpath
    rw [hu, Option.map_some, hquery u hu] at hsent
    exact ⟨h.method.symm, (Option.some.inj hsent).symm, hkept.mp hpath⟩
  · rintro ⟨hmethod, hempty, hpath⟩
    have hsent := hkept.mpr hpath
    obtain ⟨u, hu, -⟩ := Option.map_eq_some_iff.mp hsent
    refine ⟨hmethod.symm, ?_, ?_, body_forwarded lib addr request⟩
    · rw [url_forwarded hheaders]
      exact hsent
    · rw [url_forwarded hheaders, hu, Option.map_some, hquery u hu, hempty]

/-! ## §5. Two requests. -/

/-- A source that hands out as much as it can. -/
def wholeSource : Source where
  count := min
  eof _ := false
  count_pos hleft hroom := Nat.lt_min.mpr ⟨hleft, hroom⟩
  count_le_left := Nat.min_le_left
  count_le_room := Nat.min_le_right

/-- Texts of ASCII, any order of range loops, any authority. -/
noncomputable def plainLib : HttpLib :=
  ⟨⟨id, fun _ _ => false, id, fun _ => none⟩, GoMap.someOrder, GoMap.someOrder, fun _ => true⟩

/-- A request without headers. -/
def bareRequest (method uri : String) (body : List UInt8) : Request :=
  ⟨str method, str uri, str "a.com", ∅, body, wholeSource, ∅⟩

theorem plainHeaders_bare (method uri : String) (body : List UInt8) :
    PlainHeaders plainLib (bareRequest method uri body) := by
  intro k hk
  exact absurd hk (Finmap.notMem_empty)

/-- A POST to a plain path. -/
theorem forwarded_faithful_at :
    Faithful (bareRequest "POST" "/a/b" [1, 2])
      (forward plainLib (str "10.0.0.1:80") (bareRequest "POST" "/a/b" [1, 2])) :=
  (forwarded_faithful_iff plainLib _ _ (plainHeaders_bare _ _ _) (by decide +kernel)).mpr
    ⟨rfl, by decide +kernel, rfl, by decide +kernel, by decide +kernel, by decide +kernel⟩

/-- **A GET with a query** is sent as a POST without one. -/
theorem get_not_faithful :
    (forward plainLib (str "10.0.0.1:80") (bareRequest "GET" "/a?x=1" [])).method = str "POST"
      ∧ (forward plainLib (str "10.0.0.1:80") (bareRequest "GET" "/a?x=1" [])).url
        = some ⟨str "10.0.0.1:80", str "/a", [], [], []⟩
      ∧ ¬ Faithful (bareRequest "GET" "/a?x=1" [])
          (forward plainLib (str "10.0.0.1:80") (bareRequest "GET" "/a?x=1" [])) := by
  refine ⟨rfl, ?_, ?_⟩
  · rw [url_forwarded (plainHeaders_bare _ _ _)]
    rfl
  · intro h
    exact absurd h.method (by decide)

/-! ## §6. Header conversion. -/

theorem lookup_encodeHeader (lib : HttpLib) (m : HeaderMap) (k : GoString) :
    (encodeHeader lib m).lookup k = (m.lookup k).map (Strings.split · 44) :=
  (lib.mapOrder m).lookup_convert (Strings.split · 44) k

theorem lookup_decodeHeader (lib : HttpLib) {header : Header}
    (hlower : ∀ k ∈ header, Strings.toLower lib.text k = k) (k : GoString) :
    (decodeHeader lib header).lookup k = (header.lookup k).map (List.intercalate [44]) := by
  have hentries : (lib.headerOrder header).entries.map
        (fun e => (Strings.toLower lib.text e.1, List.intercalate [44] e.2))
      = (lib.headerOrder header).entries.map (fun e => (e.1, List.intercalate [44] e.2)) := by
    apply List.map_congr_left
    intro e he
    rw [hlower e.1 (((lib.headerOrder header).mem_keys e.1).mp (List.mem_map_of_mem he))]
  unfold decodeHeader
  rw [hentries]
  exact (lib.headerOrder header).lookup_convert _ k

/-- **Header conversion is lossless** on names in lower case. -/
theorem decode_encodeHeader (lib : HttpLib) (m : HeaderMap)
    (hlower : ∀ k ∈ m, Strings.toLower lib.text k = k) :
    decodeHeader lib (encodeHeader lib m) = m := by
  have hkeys : ∀ k ∈ encodeHeader lib m, Strings.toLower lib.text k = k := by
    intro k hk
    obtain ⟨vs, hvs⟩ := Finmap.mem_iff.mp hk
    rw [lookup_encodeHeader] at hvs
    obtain ⟨v, hv, -⟩ := Option.map_eq_some_iff.mp hvs
    exact hlower k (Finmap.mem_of_lookup_eq_some hv)
  apply Finmap.ext_lookup
  intro k
  rw [lookup_decodeHeader lib hkeys, lookup_encodeHeader, Option.map_map]
  -- joining at the comma undoes splitting at it, whatever the value is
  have hvalue : List.intercalate [44] ∘ (Strings.split · 44) = id :=
    funext fun v => List.intercalate_splitOn 44
  rw [hvalue, Option.map_id_fun, id]

/-- Commas at both ends and in a row, and an empty value. -/
theorem decode_encodeHeader_commas :
    decodeHeader plainLib (encodeHeader plainLib
        (GoMap.insertAll ∅ [(str "accept", str ",a,,b,"), (str "via", [])]))
      = GoMap.insertAll ∅ [(str "accept", str ",a,,b,"), (str "via", [])] :=
  decode_encodeHeader plainLib _ (by
    intro k hk
    have hk : k = str "via" ∨ k = str "accept" := by
      simpa [GoMap.insertAll, Finmap.notMem_empty] using hk
    rcases hk with rfl | rfl <;> decide +kernel)

end Mosn.Stream.Http2
