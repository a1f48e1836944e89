/-
  Mosn.Tls.ContextManager
  **CHOOSING THE SERVER CERTIFICATE** (`NewTLSServerContextManager`,
  `buildContextMap` and `GetConfigForClient` of `pkg/tls/tls.go`).

  Every filter chain with TLS has a context, and a map that leads from each
  name on its certificates, each of its ALPN protocols and its server name to
  that context.  A client is served by the FIRST chain whose map has any of
  what the client asks for:

      chain 1   a.com, h2          hello  b.com, h2      chain 1 by its ALPN
      chain 2   b.com                                    chain 2 lists the name

  The documented precedence is over all chains: a listed name, then the
  wildcards from the most specific on, then an ALPN protocol, then the first
  chain.

    • `precedence_respected_iff` — the precedence is kept exactly when no
      context that has only a lesser text stands in front.

  Names and protocols share one map, so a server name `h2` finds the chains
  with this protocol.
-/
import Mosn.Lib.FirstMatch
import Mosn.Lib.GoMap
import Mosn.Lib.Loop
import Mosn.Lib.Strings

namespace Mosn.Tls

open Mosn.Lib

/-! ## §1. Contexts. -/

/-- What `x509.ParseCertificate` finds. -/
structure X509 where
  commonName : GoString
  dnsNames : List GoString
  deriving DecidableEq

/-- `v2.TLSConfig`. -/
structure TLSConfig where
  status : Bool
  serverName : GoString
  caCert : GoString
  certChain : GoString
  privateKey : GoString
  verifyClient : Bool
  verifyServer : Bool
  cipherSuites : GoString
  ecdhCurves : GoString
  minVersion : GoString
  maxVersion : GoString
  alpn : GoString

/-- `context`.  A certificate that cannot be parsed is `none`. -/
structure Context where
  serverName : GoString
  minVersion : UInt16
  maxVersion : UInt16
  alpn : List GoString
  caCert : Option GoString
  cipherSuites : List UInt16
  ecdhCurves : List UInt16
  certificates : List (Option X509)
  verifyClient : Bool
  verifyServer : Bool
  deriving DecidableEq

/-- What is used of the libraries: the key pair and the pool of a text that is
PEM or names a file, or the error. -/
structure TlsLib where
  text : TextLib
  keyPair : GoString → GoString → Except GoString (Option X509)
  certPool : GoString → Except GoString GoString

/-- `version`. -/
def version : List (GoString × UInt16) :=
  [(str "tls_auto", 0), (str "tlsv1_0", 0x0301), (str "tlsv1_1", 0x0302), (str "tlsv1_2", 0x0303)]

/-- `allCurves`. -/
def allCurves : List (GoString × UInt16) :=
  [(str "x25519", 29), (str "p256", 23), (str "p384", 24), (str "p521", 25)]

/-- `ciphersMap`. -/
def ciphersMap : List (GoString × UInt16) :=
  [(str "ECDHE-ECDSA-AES256-GCM-SHA384", 0xc02c), (str "ECDHE-RSA-AES256-GCM-SHA384", 0xc030),
    (str "ECDHE-ECDSA-AES128-GCM-SHA256", 0xc02b), (str "ECDHE-RSA-AES128-GCM-SHA256", 0xc02f),
    (str "ECDHE-ECDSA-WITH-CHACHA20-POLY1305", 0xcca9),
    (str "ECDHE-RSA-WITH-CHACHA20-POLY1305", 0xcca8),
    (str "ECDHE-RSA-AES256-CBC-SHA", 0xc014), (str "ECDHE-RSA-AES128-CBC-SHA", 0xc013),
    (str "ECDHE-ECDSA-AES256-CBC-SHA", 0xc00a), (str "ECDHE-ECDSA-AES128-CBC-SHA", 0xc009),
    (str "RSA-AES256-CBC-SHA", 0x0035), (str "RSA-AES128-CBC-SHA", 0x002f),
    (str "ECDHE-RSA-3DES-EDE-CBC-SHA", 0xc012), (str "RSA-3DES-EDE-CBC-SHA", 0x000a)]

/-- `alpn`: the supported protocols. -/
def supportedALPN : List GoString := [str "h2", str "http/1.1", str "sofa"]

/-- Names between separators, each found in a table.  The empty text has none. -/
def parseNames (table : List (GoString × UInt16)) (key : GoString → GoString) (sep : UInt8)
    (message : String) (text : GoString) : Except GoString (List UInt16) :=
  if text = [] then .ok []
  else (Strings.split text sep).mapM fun s =>
    match table.lookup (key s) with
    | some value => .ok value
    | none => .error (str message)

/-- A protocol version; the empty text and `tls_auto` stand for `default`. -/
def parseVersion (lib : TextLib) (default : UInt16) (text : GoString) : Except GoString UInt16 :=
  if text = [] then .ok default
  else
    match version.lookup (Strings.toLower lib text) with
    | some protocol => .ok (if protocol = 0 then default else protocol)
    | none => .error (str "error tls protocols name or protocol not supported")

/-- The protocols of a context.  They are checked in lower case and kept as
they are written. -/
def parseALPN (lib : TextLib) (text : GoString) : Except GoString (List GoString) :=
  if text = [] then .ok []
  else if (Strings.split text 44).all fun p => Strings.toLower lib p ∈ supportedALPN then
    .ok (Strings.split text 44)
  else .error (str "error ALPN or ALPN not supported")

/-- The certificates of a server context. -/
def loadCertificates (lib : TlsLib) (c : TLSConfig) : Except GoString (List (Option X509)) :=
  if c.certChain ≠ [] ∧ c.privateKey ≠ [] then
    match lib.keyPair c.certChain c.privateKey with
    | .ok cert => .ok [cert]
    | .error err => .error (str "load [certchain] or [privatekey] error: " ++ err)
  else .error (str "[certchain] and [privatekey] are required in TLS config")

/-- `newTLSContext`, of a server. -/
def newTLSContext (lib : TlsLib) (c : TLSConfig) : Except GoString (Option Context) :=
  if c.status = false then .ok none
  else do
    let cipherSuites ← parseNames ciphersMap id 58
      "error cipher name or cipher not supported" c.cipherSuites
    let ecdhCurves ← parseNames allCurves (Strings.toLower lib.text) 44
      "error curve name or curve not supported" c.ecdhCurves
    let maxVersion ← parseVersion lib.text 0x0303 c.maxVersion
    let minVersion ← parseVersion lib.text 0x0301 c.minVersion
    let alpn ← parseALPN lib.text c.alpn
    let certificates ← loadCertificates lib c
    let caCert ← if c.caCert = [] then pure none else (lib.certPool c.caCert).map some
    return some ⟨c.serverName, minVersion, maxVersion, alpn, caCert, cipherSuites, ecdhCurves,
      certificates, c.verifyClient, c.verifyServer⟩

/-- The map of a chain. -/
abbrev ContextMap : Type := GoMap GoString Context

/-- The names of a certificate lead to the context. -/
def insertNames (ctx : Context) (m : ContextMap) : Option X509 → ContextMap
  | none => m
  | some x509Cert =>
    let m := if 0 < x509Cert.commonName.length then m.insert x509Cert.commonName ctx else m
    x509Cert.dnsNames.foldl (fun m san => m.insert san ctx) m

/-- The map that `buildContextMap` makes. -/
def contextMapOf (ctx : Context) : ContextMap :=
  let m := ctx.certificates.foldl (insertNames ctx) ∅
  let m := ctx.alpn.foldl (fun m protocol => m.insert protocol ctx) m
  m.insert ctx.serverName ctx

/-- `buildContextMap`.  A chain without TLS has the nil map. -/
def buildContextMap (contextMap : List (Option ContextMap)) (tlscontext : Option Context)
    (index : Nat) : List (Option ContextMap) :=
  if contextMap.length ≤ index then contextMap ++ [tlscontext.map contextMapOf]
  else contextMap.set index (tlscontext.map contextMapOf)

/-- `contextManager`, of a server. -/
structure ContextManager where
  contextMap : List (Option ContextMap)
  tlscontext : Option Context

/-- The loop of `NewTLSServerContextManager` from chain `i` on. -/
def addChains (lib : TlsLib) : Nat → ContextManager → List TLSConfig →
    Except GoString ContextManager
  | _, cm, [] => .ok cm
  | i, cm, c :: config => do
      let tlscontext ← newTLSContext lib c
      addChains lib (i + 1)
        ⟨buildContextMap cm.contextMap tlscontext i, cm.tlscontext.or tlscontext⟩ config

/-- `NewTLSServerContextManager`. -/
def newTLSServerContextManager (lib : TlsLib) (config : List TLSConfig) :
    Except GoString ContextManager :=
  addChains lib 0 ⟨[], none⟩ config

/-! ## §2. `GetConfigForClient`. -/

/-- `tls.ClientHelloInfo`. -/
structure ClientHelloInfo where
  serverName : GoString
  supportedProtos : List GoString

/-- The name that is looked for: in lower case, without dots at its end. -/
def requestedName (lib : TextLib) (info : ClientHelloInfo) : GoString :=
  ((Strings.toLower lib info.serverName).reverse.dropWhile (· = 46)).reverse

/-- `strings.Join` with dots. -/
def joinDots (labels : List GoString) : GoString := List.intercalate [46] labels

/-- The candidates of the wildcard loop, from the most specific on. -/
def wildcards : List GoString → List GoString
  | [] | [_] => []
  | _ :: label :: labels =>
    joinDots (str "*" :: label :: labels) :: wildcards (label :: labels)

/-- The search for the server name in one map. -/
def searchName (maps : ContextMap) (name : GoString) : Option Context :=
  (maps.lookup name).or ((wildcards (Strings.split name 46)).findSome? fun candidate =>
    maps.lookup candidate)

/-- The search in one map. -/
def searchMap (lib : TextLib) (info : ClientHelloInfo) (maps : ContextMap) : Option Context :=
  (if info.serverName ≠ [] then searchName maps (requestedName lib info) else none).or
    (info.supportedProtos.findSome? fun protocol => maps.lookup (Strings.toLower lib protocol))

/-- Run-time panics. -/
inductive Fault where
  | nilDereference
  deriving DecidableEq, Repr

/-- The configuration of a context that may be nil. -/
def tlsConfig (tlscontext : Option Context) : Except Fault Context :=
  match tlscontext with
  | some tlscontext => .ok tlscontext
  | none => .error .nilDereference

/-- `GetConfigForClient`.  A configuration is named by its context. -/
def ContextManager.getConfigForClient (lib : TextLib) (cm : ContextManager)
    (info : ClientHelloInfo) : Except Fault Context :=
  if cm.contextMap.length = 1 then tlsConfig cm.tlscontext
  else
    match cm.contextMap.findSome? fun maps => maps.bind (searchMap lib info) with
    | some tlscontext => .ok tlscontext
    -- last, the first certificate
    | none => tlsConfig cm.tlscontext

/-! ## §3. The first context that has a searched text. -/

/-- The names of a certificate. -/
def namesOf : Option X509 → List GoString
  | none => []
  | some x509Cert =>
    (if 0 < x509Cert.commonName.length then [x509Cert.commonName] else []) ++ x509Cert.dnsNames

namespace Context

/-- The names on the certificates of a context. -/
def names (ctx : Context) : List GoString := ctx.certificates.flatMap namesOf

/-- Everything that leads to a context. -/
def keys (ctx : Context) : List GoString := ctx.names ++ ctx.alpn ++ [ctx.serverName]

end Context

theorem namesOf_some (x509Cert : X509) : namesOf (some x509Cert)
      = (if 0 < x509Cert.commonName.length then [x509Cert.commonName] else [])
        ++ x509Cert.dnsNames := rfl

theorem lookup_insertNames (ctx : Context) (m : ContextMap) (cert : Option X509) (k : GoString) :
    (insertNames ctx m cert).lookup k = if k ∈ namesOf cert then some ctx else m.lookup k := by
  cases cert with
  | none => exact (if_neg List.not_mem_nil).symm
  | some x509Cert =>
    unfold insertNames
    rw [GoMap.lookup_foldl_insert, namesOf_some]
    by_cases hsan : k ∈ x509Cert.dnsNames
    · rw [if_pos hsan, if_pos (List.mem_append_right _ hsan)]
    · grind [GoMap.lookup_insert_ite, List.mem_singleton]

theorem lookup_foldl_insertNames (ctx : Context) (k : GoString) (certs : List (Option X509)) :
    ∀ m : ContextMap, (certs.foldl (insertNames ctx) m).lookup k
      = if k ∈ certs.flatMap namesOf then some ctx else m.lookup k := by
  induction certs with
  | nil =>
    intro m
    rw [List.flatMap_nil, if_neg List.not_mem_nil]
    rfl
  | cons cert certs ih =>
    intro m
    rw [List.foldl_cons, ih, lookup_insertNames, List.flatMap_cons]
    by_cases hrest : k ∈ certs.flatMap namesOf
    · rw [if_pos hrest, if_pos (List.mem_append_right _ hrest)]
    · rw [if_neg hrest]
      simp only [List.mem_append, hrest, or_false]

/-- **The map of a chain** leads from its keys to its context, and nowhere else. -/
theorem lookup_contextMapOf (ctx : Context) (k : GoString) :
    (contextMapOf ctx).lookup k = if k ∈ ctx.keys then some ctx else none := by
  unfold contextMapOf Context.keys
  rw [GoMap.lookup_insert_ite, GoMap.lookup_foldl_insert, lookup_foldl_insertNames,
    Finmap.lookup_empty]
  by_cases hserver : k = ctx.serverName
  · rw [if_pos hserver, if_pos (List.mem_append_right _ (List.mem_singleton.mpr hserver))]
  · rw [if_neg hserver]
    by_cases halpn : k ∈ ctx.alpn
    · rw [if_pos halpn, if_pos (List.mem_append_left _ (List.mem_append_right _ halpn))]
    · rw [if_neg halpn]
      simp only [List.mem_append, List.mem_singleton, hserver, halpn, or_false]
      rfl

/-- The texts that are looked for in every map, in their order. -/
def searched (lib : TextLib) (info : ClientHelloInfo) : List GoString :=
  (if info.serverName ≠ [] then
      requestedName lib info :: wildcards (Strings.split (requestedName lib info) 46) else [])
    ++ info.supportedProtos.map (Strings.toLower lib)

/-- One of the searched texts leads to the context. -/
def Context.hit (lib : TextLib) (info : ClientHelloInfo) (ctx : Context) : Bool :=
  (searched lib info).any fun k => k ∈ ctx.keys

theorem findSome?_lookup (ctx : Context) (ks : List GoString) :
    (ks.findSome? fun k => (contextMapOf ctx).lookup k)
      = if ks.any (fun k => k ∈ ctx.keys) then some ctx else none := by
  induction ks with
  | nil => rfl
  | cons k ks ih =>
    rw [List.findSome?_cons, lookup_contextMapOf, List.any_cons]
    grind

/-- **The search in the map of a chain.** -/
theorem searchMap_contextMapOf (lib : TextLib) (info : ClientHelloInfo) (ctx : Context) :
    searchMap lib info (contextMapOf ctx) = if ctx.hit lib info then some ctx else none := by
  have hprotos : (info.supportedProtos.findSome? fun protocol =>
      (contextMapOf ctx).lookup (Strings.toLower lib protocol))
        = (info.supportedProtos.map (Strings.toLower lib)).findSome? fun k =>
          (contextMapOf ctx).lookup k := by
    rw [List.findSome?_map]
    rfl
  have hname : (if info.serverName ≠ [] then
      searchName (contextMapOf ctx) (requestedName lib info) else none)
        = (if info.serverName ≠ [] then requestedName lib info
            :: wildcards (Strings.split (requestedName lib info) 46) else []).findSome? fun k =>
          (contextMapOf ctx).lookup k := by
    by_cases hempty : info.serverName ≠ []
    · rw [if_pos hempty, if_pos hempty, List.findSome?_cons]
      unfold searchName
      cases (contextMapOf ctx).lookup (requestedName lib info) with
      | none => rfl
      | some found => rfl
    · rw [if_neg hempty, if_neg hempty]
      rfl
  unfold searchMap
  rw [hname, hprotos, ← List.findSome?_append, findSome?_lookup]
  rfl

/-! ## §4. The manager of a list of chains. -/

/-- The contexts of the chains with TLS, in their order. -/
def contexts (lib : TlsLib) (config : List TLSConfig) : List Context :=
  config.filterMap fun c => (newTLSContext lib c).toOption.join

theorem addChains_eq {lib : TlsLib} (config : List TLSConfig) :
    ∀ {i : Nat} {done : List (Option Context)} {cm cm' : ContextManager},
      cm = ⟨done.map (Option.map contextMapOf), done.findSome? id⟩ → i = done.length →
      addChains lib i cm config = .ok cm' →
      ∃ all : List (Option Context), cm' = ⟨all.map (Option.map contextMapOf), all.findSome? id⟩
        ∧ all.length = done.length + config.length
        ∧ all.filterMap id = done.filterMap id ++ contexts lib config := by
  induction config with
  | nil =>
    intro i done cm cm' hcm _ h
    cases h
    exact ⟨done, hcm, rfl, (List.append_nil _).symm⟩
  | cons c config ih =>
    intro i done cm cm' hcm hi h
    obtain ⟨tlscontext, hctx, hrest⟩ := bind_eq_ok.mp h
    have hnext : (⟨buildContextMap cm.contextMap tlscontext i, cm.tlscontext.or tlscontext⟩
        : ContextManager) = ⟨(done ++ [tlscontext]).map (Option.map contextMapOf),
          (done ++ [tlscontext]).findSome? id⟩ := by
      have hlen : cm.contextMap.length ≤ i := by
        rw [hcm, hi]
        exact Nat.le_of_eq (List.length_map _)
      unfold buildContextMap
      grind
    obtain ⟨all, hall, hlen, hfilter⟩ := ih hnext (by rw [hi, List.length_append]; rfl) hrest
    refine ⟨all, hall, ?_, ?_⟩
    · rw [hlen, List.length_append, List.length_singleton, List.length_cons]
      omega
    · have hhead : contexts lib (c :: config) = [tlscontext].filterMap id
          ++ contexts lib config := by
        unfold contexts
        rw [List.filterMap_cons, hctx]
        cases tlscontext with
        | none => rfl
        | some ctx => rfl
      rw [hfilter, hhead, List.filterMap_append, List.append_assoc]

theorem findSome?_maps (lib : TextLib) (info : ClientHelloInfo) (all : List (Option Context)) :
    ((all.map (Option.map contextMapOf)).findSome? fun maps => maps.bind (searchMap lib info))
      = (all.filterMap id).find? fun ctx => ctx.hit lib info := by
  induction all with
  | nil => rfl
  | cons tlscontext all ih =>
    cases tlscontext with
    | none => exact ih
    | some ctx =>
      have hhead : (Option.map contextMapOf (some ctx)).bind (searchMap lib info)
          = if ctx.hit lib info then some ctx else none := searchMap_contextMapOf lib info ctx
      have htail : (some ctx :: all).filterMap id = ctx :: all.filterMap id := rfl
      rw [List.map_cons, List.findSome?_cons, hhead, htail, List.find?_cons]
      cases ctx.hit lib info with
      | true => rfl
      | false => exact ih

/-- **The context that serves a client**: the first one that has a searched
text, and else the first one. -/
theorem getConfigForClient_eq {lib : TlsLib} {config : List TLSConfig} {cm : ContextManager}
    (hcm : newTLSServerContextManager lib config = .ok cm)
    (hlen : 2 ≤ (contexts lib config).length) (info : ClientHelloInfo) :
    cm.getConfigForClient lib.text info
      = tlsConfig (((contexts lib config).find? fun ctx => ctx.hit lib.text info).or
          (contexts lib config).head?) := by
  obtain ⟨all, rfl, hall, hfilter⟩ := @addChains_eq lib config 0 [] _ _ rfl rfl hcm
  have hcontexts : contexts lib config = all.filterMap id := hfilter.symm
  have hchains : (all.map (Option.map contextMapOf)).length ≠ 1 := by grind
  have hfirst : all.findSome? id = (contexts lib config).head? := by
    rw [hcontexts, List.head?_filterMap]
  unfold ContextManager.getConfigForClient
  rw [if_neg hchains]
  simp only [findSome?_maps, hfirst, ← hcontexts]
  cases (contexts lib config).find? fun ctx => ctx.hit lib.text info with
  | none => rfl
  | some ctx => rfl

/-! ## §5. The documented precedence. -/

/-- The context lists a server name: on a certificate, or as its own. -/
def Context.listsName (name : GoString) (ctx : Context) : Bool :=
  name ∈ ctx.names ++ [ctx.serverName]

/-- The context lists a protocol that the client offers. -/
def Context.listsProtocol (lib : TextLib) (info : ClientHelloInfo) (ctx : Context) : Bool :=
  info.supportedProtos.any fun protocol => Strings.toLower lib protocol ∈ ctx.alpn

/-- What a client prefers, in this order: the requested name, the wildcards from
the most specific on, an offered protocol.  A name of dots only is none. -/
def preferences (lib : TextLib) (info : ClientHelloInfo) : List (Context → Bool) :=
  (if requestedName lib info ≠ [] then
      (requestedName lib info :: wildcards (Strings.split (requestedName lib info) 46)).map
        Context.listsName
    else []) ++ [Context.listsProtocol lib info]

theorem serverName_ne_nil {lib : TextLib} {info : ClientHelloInfo}
    (h : requestedName lib info ≠ []) : info.serverName ≠ [] := by
  intro hempty
  apply h
  unfold requestedName
  rw [hempty]
  rfl

theorem hit_of_preference {lib : TextLib} {info : ClientHelloInfo} {tier : Context → Bool}
    (htier : tier ∈ preferences lib info) {ctx : Context} (h : tier ctx = true) :
    ctx.hit lib info = true := by
  unfold Context.hit
  rw [List.any_eq_true]
  rcases List.mem_append.mp htier with hname | hproto
  · by_cases hempty : requestedName lib info ≠ []
    · rw [if_pos hempty] at hname
      obtain ⟨k, hk, rfl⟩ := List.mem_map.mp hname
      have hlisted : k ∈ ctx.names ++ [ctx.serverName] := of_decide_eq_true h
      refine ⟨k, ?_, decide_eq_true ?_⟩
      · unfold searched
        rw [if_pos (serverName_ne_nil hempty)]
        exact List.mem_append_left _ hk
      · unfold Context.keys
        simp only [List.mem_append, List.mem_singleton] at hlisted ⊢
        tauto
    · rw [if_neg hempty] at hname
      exact absurd hname List.not_mem_nil
  · rw [List.mem_singleton.mp hproto] at h
    obtain ⟨protocol, hmem, hlisted⟩ := List.any_eq_true.mp h
    have halpn : Strings.toLower lib protocol ∈ ctx.alpn := of_decide_eq_true hlisted
    refine ⟨Strings.toLower lib protocol, ?_, decide_eq_true ?_⟩
    · exact List.mem_append_right _ (List.mem_map_of_mem hmem)
    · exact List.mem_append_left _ (List.mem_append_right _ halpn)

/-- **The documented precedence over all filter chains.**  With at least two
chains with TLS a client is served, by one of their contexts, and that context
is one it prefers exactly when no context that is found by a lesser text stands
in front of the first preferred one. -/
theorem precedence_respected_iff (lib : TlsLib) (config : List TLSConfig) (cm : ContextManager)
    (hcm : newTLSServerContextManager lib config = .ok cm)
    (hlen : 2 ≤ (contexts lib config).length) (info : ClientHelloInfo) :
    ∃ ctx ∈ contexts lib config, cm.getConfigForClient lib.text info = .ok ctx
      ∧ (Preferred (contexts lib config) (preferences lib.text info) ctx
        ↔ Unobscured (fun ctx => ctx.hit lib.text info) (contexts lib config)
          (preferences lib.text info)) := by
  have hget := getConfigForClient_eq hcm hlen info
  cases hchoice : ((contexts lib config).find? fun ctx => ctx.hit lib.text info).or
      (contexts lib config).head? with
  | none => grind [List.head?_eq_none_iff, Option.or_eq_none_iff]
  | some ctx =>
    rw [hchoice] at hget
    refine ⟨ctx, ?_, hget, ?_⟩
    · grind [Option.or_eq_some_iff, List.mem_of_find?_eq_some, List.mem_of_mem_head?]
    · exact preferred_iff _ (fun tier htier ctx h => hit_of_preference htier h) hchoice

/-! ## §6. Two chains. -/

/-- Certificates named by their file, and no text beyond ASCII. -/
def fileLib : TlsLib where
  text := ⟨id, fun _ _ => false, id, fun _ => none⟩
  keyPair certChain _ := .ok (some ⟨certChain, []⟩)
  certPool text := .ok text

/-- A chain with a certificate for one name, and the protocols `alpn`. -/
def chainFor (name alpn : String) : TLSConfig where
  status := true
  serverName := []
  caCert := []
  certChain := str name
  privateKey := str "key"
  verifyClient := false
  verifyServer := false
  cipherSuites := []
  ecdhCurves := []
  minVersion := []
  maxVersion := []
  alpn := str alpn

/-- The context of such a chain. -/
def contextFor (name : String) (alpn : List GoString) : Context :=
  ⟨[], 0x0301, 0x0303, alpn, none, [], [], [some ⟨str name, []⟩], false, false⟩

/-- A client that asks for a name that the second chain lists, and offers `h2`. -/
def helloB : ClientHelloInfo := ⟨str "b.com", [str "h2"]⟩

theorem manager_two (alpn : String) (protocols : List GoString)
    (halpn : parseALPN fileLib.text (str alpn) = .ok protocols) :
    ∃ cm, newTLSServerContextManager fileLib [chainFor "a.com" alpn, chainFor "b.com" ""] = .ok cm
      ∧ contexts fileLib [chainFor "a.com" alpn, chainFor "b.com" ""]
        = [contextFor "a.com" protocols, contextFor "b.com" []] := by
  have hfirst : newTLSContext fileLib (chainFor "a.com" alpn)
      = .ok (some (contextFor "a.com" protocols)) := by
    refine bind_eq_ok.mpr ⟨_, rfl, bind_eq_ok.mpr ⟨_, rfl, bind_eq_ok.mpr ⟨_, rfl, ?_⟩⟩⟩
    refine bind_eq_ok.mpr ⟨_, rfl, bind_eq_ok.mpr ⟨_, halpn, ?_⟩⟩
    rfl
  have hsecond : newTLSContext fileLib (chainFor "b.com" "")
      = .ok (some (contextFor "b.com" [])) := rfl
  refine ⟨_, bind_eq_ok.mpr ⟨_, hfirst, bind_eq_ok.mpr ⟨_, hsecond, rfl⟩⟩, ?_⟩
  unfold contexts
  rw [List.filterMap_cons, List.filterMap_cons, hfirst, hsecond]
  rfl

/-- Without a protocol in front, the chain with the name is chosen. -/
theorem precedence_respected_at :
    ∃ cm, newTLSServerContextManager fileLib [chainFor "a.com" "", chainFor "b.com" ""] = .ok cm
      ∧ ∃ ctx ∈ contexts fileLib [chainFor "a.com" "", chainFor "b.com" ""],
        cm.getConfigForClient fileLib.text helloB = .ok ctx
        ∧ Preferred (contexts fileLib [chainFor "a.com" "", chainFor "b.com" ""])
          (preferences fileLib.text helloB) ctx := by
  obtain ⟨cm, hcm, hcontexts⟩ := manager_two "" [] rfl
  obtain ⟨ctx, hmem, hchosen, hiff⟩ :=
    precedence_respected_iff fileLib _ cm hcm (by rw [hcontexts]; decide) helloB
  refine ⟨cm, hcm, ctx, hmem, hchosen, hiff.mpr ?_⟩
  -- the second chain lists the name, and nothing is found in the first
  rw [hcontexts]
  intro earlier x later hall _ hmiss y hy
  have hy' : y ∈ [contextFor "a.com" [], contextFor "b.com" []] := by
    rw [hall]
    exact List.mem_append_left _ hy
  rcases List.mem_cons.mp hy' with rfl | hy'
  · decide
  · rw [List.mem_singleton.mp hy'] at hy
    exact absurd (hmiss _ hy) (by decide)

/-- **The first chain is chosen by its protocol**, although the second one lists
the requested name. -/
theorem alpn_before_name :
    ∃ cm ctx, newTLSServerContextManager fileLib [chainFor "a.com" "h2", chainFor "b.com" ""]
        = .ok cm
      ∧ cm.getConfigForClient fileLib.text helloB = .ok ctx
      ∧ ctx = contextFor "a.com" [str "h2"]
      ∧ (contextFor "b.com" []).listsName (str "b.com") = true
      ∧ ¬ Preferred (contexts fileLib [chainFor "a.com" "h2", chainFor "b.com" ""])
          (preferences fileLib.text helloB) ctx := by
  obtain ⟨cm, hcm, hcontexts⟩ := manager_two "h2" [str "h2"] rfl
  refine ⟨cm, contextFor "a.com" [str "h2"], hcm, ?_, rfl, by decide, ?_⟩
  · rw [getConfigForClient_eq hcm (by rw [hcontexts]; decide), hcontexts]
    rfl
  · rw [hcontexts]
    decide

end Mosn.Tls
