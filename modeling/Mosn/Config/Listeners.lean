/-
  Mosn.Config.Listeners
  **LISTENERS INHERITED FROM THE OLD PROCESS** (`ParseListenerConfig` of
  `pkg/config/parser.go`, called for every listener by `NewMosn`).

  After a hot upgrade the new process has the old listening sockets, and each
  configured listener looks for its own among them.  The loop compares
  `net.ParseIP(addr.String())` on both sides.  `addr.String()` is `IP:port`,
  which is no IP address, so `ParseIP` returns nil on BOTH sides, and nil
  equals nil:

      inherited   10.0.0.1:80   10.0.0.1:443
      config      10.0.0.1:443           takes the socket of 10.0.0.1:80

    • `inherits_own_iff` — every listener gets its own socket exactly when
      all of them have the address of the first inherited one.
-/
import Mathlib.Data.List.Nodup
import Mosn.Lib.Loop
import Mosn.Lib.Strconv

namespace Mosn.Config

open Mosn.Lib

/-! ## §1. Addresses. -/

/-- `net.TCPAddr`.  An IP is its bytes, and the nil IP has none. -/
structure TCPAddr where
  ip : List UInt8
  port : Nat
  zone : GoString
  deriving DecidableEq, Repr

/-- The first bytes of an IPv4 address in its 16-byte form. -/
def v4InV6 : List UInt8 := List.replicate 10 0 ++ [255, 255]

/-- `IP.Equal`: an IPv4 address and its 16-byte form are equal. -/
def ipEqual (ip x : List UInt8) : Bool :=
  if ip.length = x.length then ip == x
  else if ip.length = 4 ∧ x.length = 16 then x.take 12 == v4InV6 && ip == x.drop 12
  else if ip.length = 16 ∧ x.length = 4 then ip.take 12 == v4InV6 && ip.drop 12 == x
  else false

/-- `net.JoinHostPort`. -/
def joinHostPort (host port : GoString) : GoString :=
  if host.contains 58 || host.contains 37 then str "[" ++ host ++ str "]:" ++ port
  else host ++ str ":" ++ port

/-- What is used of the package `net`. -/
structure NetLib where
  /-- `net.ResolveTCPAddr("tcp", ·)`. -/
  resolveTCPAddr : GoString → Option TCPAddr
  /-- `IP.String`. -/
  ipString : List UInt8 → GoString
  /-- `net.ParseIP`. -/
  parseIP : GoString → List UInt8
  /-- A host with a port is not a bare IP address. -/
  parseIP_hostPort : ∀ host port, parseIP (joinHostPort host (Strconv.formatUint port)) = []

/-- `TCPAddr.String`. -/
def TCPAddr.string (lib : NetLib) (addr : TCPAddr) : GoString :=
  let ip := if addr.ip = [] then [] else lib.ipString addr.ip
  if addr.zone ≠ [] then joinHostPort (ip ++ str "%" ++ addr.zone) (Strconv.formatUint addr.port)
  else joinHostPort ip (Strconv.formatUint addr.port)

/-- The same IP and the same port. -/
def TCPAddr.same (a b : TCPAddr) : Bool := ipEqual a.ip b.ip && a.port == b.port

/-! ## §2. `ParseListenerConfig`. -/

/-- What ends the process. -/
inductive Halt where
  /-- `log.StartLogger.Fatalln`. -/
  | fatal (message : GoString)
  | nilDereference
  deriving DecidableEq, Repr

/-- `log.Level`. -/
inductive LogLevel where
  | fatal | error | warn | info | debug | trace
  deriving DecidableEq, Repr

/-- `logLevelMap`. -/
def logLevelMap (level : GoString) : Option LogLevel :=
  if level = str "TRACE" then some .trace
  else if level = str "DEBUG" then some .debug
  else if level = str "FATAL" then some .fatal
  else if level = str "ERROR" then some .error
  else if level = str "WARN" then some .warn
  else if level = str "INFO" then some .info
  else none

/-- `parseLogLevel`. -/
def parseLogLevel (level : GoString) : Except Halt LogLevel :=
  if level ≠ [] then
    match logLevelMap level with
    | some logLevel => .ok logLevel
    | none => .error (.fatal (str "unsupported log level:  " ++ level))
  else .ok .info

/-- The `ListenerConfig` of the configuration file. -/
structure ListenerSource where
  name : GoString
  address : GoString
  bindToPort : Bool
  logPath : GoString
  logLevel : GoString
  handOffRestoredDestinationConnections : Bool
  /-- The path and the format of each access log. -/
  accessLogs : List (GoString × GoString)

/-- `v2.ListenerConfig`.  A `*net.TCPListener` is the number of its object. -/
structure ListenerConfig where
  name : GoString
  addr : TCPAddr
  bindToPort : Bool
  inheritListener : Option Nat
  perConnBufferLimitBytes : Nat
  logPath : GoString
  logLevel : LogLevel
  accessLogs : List (GoString × GoString)
  handOffRestoredDestinationConnections : Bool
  deriving DecidableEq

/-- What `getInheritListeners` fills in of a `v2.ListenerConfig`. -/
structure InheritedListener where
  addr : TCPAddr
  inheritListener : Nat
  remain : Bool
  deriving DecidableEq, Repr

/-- The loop over the inherited listeners.  A descriptor that could not be
recovered is a nil pointer. -/
def tryInherit (lib : NetLib) (currentIP : List UInt8) : List (Option InheritedListener) →
    Except Halt (Option Nat × List (Option InheritedListener))
  | [] => .ok (none, [])
  | none :: _ => .error .nilDereference
  | some il :: rest =>
    if ipEqual (lib.parseIP (il.addr.string lib)) currentIP then
      .ok (some il.inheritListener, some { il with remain := true } :: rest)
    else (tryInherit lib currentIP rest).map fun r => (r.1, some il :: r.2)

/-- `ParseListenerConfig`, with the inherited listeners as it leaves them. -/
def parseListenerConfig (lib : NetLib) (c : ListenerSource)
    (inheritListeners : List (Option InheritedListener)) :
    Except Halt (ListenerConfig × List (Option InheritedListener)) :=
  if c.name = [] then .error (.fatal (str "[name] is required in listener config"))
  else if c.address = [] then .error (.fatal (str "[Address] is required in listener config"))
  else
    match lib.resolveTCPAddr c.address with
    | none => .error (.fatal (str "[Address] not valid:" ++ c.address))
    | some addr => do
        let old ← tryInherit lib (lib.parseIP (addr.string lib)) inheritListeners
        let logLevel ← parseLogLevel c.logLevel
        return (⟨c.name, addr, c.bindToPort, old.1, 2 ^ 15, c.logPath, logLevel, c.accessLogs,
          c.handOffRestoredDestinationConnections⟩, old.2)

/-- The calls that `NewMosn` makes, one after the other. -/
def parseAll (lib : NetLib) : List ListenerSource → List (Option InheritedListener) →
    Except Halt (List ListenerConfig × List (Option InheritedListener))
  | [], inheritListeners => .ok ([], inheritListeners)
  | c :: cs, inheritListeners => do
      let first ← parseListenerConfig lib c inheritListeners
      let rest ← parseAll lib cs first.2
      return (first.1 :: rest.1, rest.2)

/-! ## §3. Equal addresses. -/

/-- The 16-byte form. -/
def to16 (ip : List UInt8) : List UInt8 := if ip.length = 4 then v4InV6 ++ ip else ip

variable {ip x : List UInt8} {b : TCPAddr} {lib : NetLib} {cs : List ListenerSource}
  {lcs : List ListenerConfig} {inherited : List InheritedListener}

theorem eq_v4InV6_append : (x.take 12 == v4InV6 && ip == x.drop 12) = true ↔ v4InV6 ++ ip = x := by
  rw [Bool.and_eq_true, beq_iff_eq, beq_iff_eq]
  constructor
  · rintro ⟨hfront, hback⟩
    rw [← hfront, hback, List.take_append_drop]
  · rintro rfl
    exact ⟨rfl, rfl⟩

/-- **Equal IPs** are those with the same 16-byte form. -/
theorem ipEqual_iff : ipEqual ip x = true ↔ to16 ip = to16 x := by
  have hprefixed : ∀ a : List UInt8, (v4InV6 ++ a).length = 12 + a.length := fun a => by
    rw [List.length_append]
    rfl
  unfold ipEqual to16
  by_cases hlen : ip.length = x.length
  · grind [List.append_cancel_left_eq]
  · rw [if_neg hlen]
    by_cases h4 : ip.length = 4
    · have hx : x.length ≠ 4 := fun h => hlen (h4.trans h.symm)
      rw [if_pos h4, if_neg hx]
      by_cases h16 : x.length = 16
      · rw [if_pos ⟨h4, h16⟩]
        exact eq_v4InV6_append
      · grind
    · rw [if_neg (fun h => h4 h.1), if_neg h4]
      by_cases hx : x.length = 4
      · rw [if_pos hx]
        by_cases h16 : ip.length = 16
        · rw [if_pos ⟨h16, hx⟩, Bool.beq_comm (a := ip.drop 12)]
          exact eq_v4InV6_append.trans eq_comm
        · grind
      · grind

theorem TCPAddr.same_iff {a : TCPAddr} :
    a.same b = true ↔ to16 a.ip = to16 b.ip ∧ a.port = b.port := by
  unfold same
  rw [Bool.and_eq_true, ipEqual_iff, beq_iff_eq]

theorem TCPAddr.same_of_both {a c : TCPAddr} (ha : a.same c = true) (hb : b.same c = true) :
    a.same b = true := by
  obtain ⟨hip, hport⟩ := same_iff.mp ha
  grind [same_iff]

/-! ## §4. What is inherited. -/

theorem parseIP_string (lib : NetLib) (addr : TCPAddr) : lib.parseIP (addr.string lib) = [] := by
  unfold TCPAddr.string
  simp only
  split
  · exact lib.parseIP_hostPort _ _
  · exact lib.parseIP_hostPort _ _

/-- The inherited listeners once the first one is taken. -/
def firstTaken : List InheritedListener → List InheritedListener
  | [] => []
  | il :: rest => { il with remain := true } :: rest

/-- **The first inherited listener is taken**, whatever the addresses are. -/
theorem tryInherit_eq_head (lib : NetLib) (addr : TCPAddr) (inherited : List InheritedListener) :
    tryInherit lib (lib.parseIP (addr.string lib)) (inherited.map some)
      = .ok (inherited.head?.map (·.inheritListener), (firstTaken inherited).map some) := by
  cases inherited with
  | nil => rfl
  | cons il rest =>
    change (if ipEqual (lib.parseIP (il.addr.string lib)) (lib.parseIP (addr.string lib)) then _
      else _) = _
    rw [parseIP_string, parseIP_string, if_pos (show ipEqual [] [] = true from rfl)]
    rfl

/-- A configuration that can be parsed. -/
structure ListenerSource.Valid (lib : NetLib) (c : ListenerSource) : Prop where
  name : c.name ≠ []
  address : c.address ≠ []
  resolves : (lib.resolveTCPAddr c.address).isSome = true
  logLevel : c.logLevel = [] ∨ (logLevelMap c.logLevel).isSome = true

theorem ListenerSource.Valid.parseLogLevel {c : ListenerSource} (h : c.Valid lib) :
    ∃ logLevel, Config.parseLogLevel c.logLevel = .ok logLevel := by
  unfold Config.parseLogLevel
  by_cases hempty : c.logLevel = []
  · exact ⟨.info, if_neg (not_not.mpr hempty)⟩
  · obtain ⟨logLevel, hsome⟩ := Option.isSome_iff_exists.mp (h.logLevel.resolve_left hempty)
    rw [if_pos hempty, hsome]
    exact ⟨logLevel, rfl⟩

/-- **One call.** -/
theorem parseListenerConfig_eq {c : ListenerSource} (h : c.Valid lib)
    (inherited : List InheritedListener) : ∃ lc, parseListenerConfig lib c (inherited.map some)
        = .ok (lc, (firstTaken inherited).map some)
      ∧ some lc.addr = lib.resolveTCPAddr c.address
      ∧ lc.inheritListener = inherited.head?.map (·.inheritListener) := by
  obtain ⟨addr, haddr⟩ := Option.isSome_iff_exists.mp h.resolves
  obtain ⟨logLevel, hlevel⟩ := h.parseLogLevel
  unfold parseListenerConfig
  rw [if_neg h.name, if_neg h.address, haddr]
  refine ⟨⟨c.name, addr, c.bindToPort, inherited.head?.map (·.inheritListener), 2 ^ 15, c.logPath,
    logLevel, c.accessLogs, c.handOffRestoredDestinationConnections⟩, ?_, rfl, rfl⟩
  refine bind_eq_ok.mpr ⟨_, tryInherit_eq_head lib addr inherited, ?_⟩
  exact bind_eq_ok.mpr ⟨_, hlevel, rfl⟩

theorem head?_firstTaken (inherited : List InheritedListener) :
    (firstTaken inherited).head?.map (·.inheritListener)
      = inherited.head?.map (·.inheritListener) := by
  cases inherited with
  | nil => rfl
  | cons il rest => rfl

theorem firstTaken_firstTaken (inherited : List InheritedListener) :
    firstTaken (firstTaken inherited) = firstTaken inherited := by
  cases inherited with
  | nil => rfl
  | cons il rest => rfl

/-- The inherited listeners after the calls for `cs`. -/
def leftBy (cs : List ListenerSource) (inherited : List InheritedListener) :
    List InheritedListener :=
  if cs = [] then inherited else firstTaken inherited

/-- **All calls**, by induction on the configurations: each of them takes the
first inherited listener again. -/
theorem parseAll_eq (cs : List ListenerSource) :
    ∀ (inherited : List InheritedListener), (∀ c ∈ cs, c.Valid lib) →
    ∃ lcs, parseAll lib cs (inherited.map some) = .ok (lcs, (leftBy cs inherited).map some)
      ∧ lcs.map (fun lc => some lc.addr) = cs.map (fun c => lib.resolveTCPAddr c.address)
      ∧ ∀ lc ∈ lcs, lc.inheritListener = inherited.head?.map (·.inheritListener) := by
  induction cs with
  | nil =>
    intro inherited _
    exact ⟨[], rfl, rfl, fun _ h => absurd h List.not_mem_nil⟩
  | cons c cs ih =>
    intro inherited hvalid
    obtain ⟨lc, hfirst, haddr, hold⟩ :=
      parseListenerConfig_eq (hvalid c List.mem_cons_self) inherited
    obtain ⟨lcs, hrest, haddrs, holds⟩ := ih (firstTaken inherited)
      fun c' hc' => hvalid c' (List.mem_cons_of_mem c hc')
    have hleft : leftBy cs (firstTaken inherited) = leftBy (c :: cs) inherited := by
      unfold leftBy
      rw [firstTaken_firstTaken, ite_self, if_neg (List.cons_ne_nil c cs)]
    refine ⟨lc :: lcs, ?_, ?_, ?_⟩
    · rw [hleft] at hrest
      exact bind_eq_ok.mpr ⟨_, hfirst, bind_eq_ok.mpr ⟨_, hrest, rfl⟩⟩
    · rw [List.map_cons, List.map_cons, haddr, haddrs]
    · grind [head?_firstTaken]

/-! ## §5. Whose socket it is. -/

/-- Each listener has the inherited socket of its own address, if there is one;
no two have the same; and a socket remains exactly when it was taken. -/
@[local grind cases]
structure InheritsOwn (inherited : List InheritedListener) (lcs : List ListenerConfig)
    (after : List (Option InheritedListener)) : Prop where
  own : ∀ lc ∈ lcs, lc.inheritListener
    = (inherited.find? fun il => lc.addr.same il.addr).map (·.inheritListener)
  unshared : lcs.Pairwise fun a b => a.inheritListener = none
    ∨ a.inheritListener ≠ b.inheritListener
  remain : ∀ il, some il ∈ after →
    (il.remain = true ↔ ∃ lc ∈ lcs, lc.inheritListener = some il.inheritListener)

/-- All configurations have the address of the first inherited listener. -/
def AllFirst (lib : NetLib) (inherited : List InheritedListener) (cs : List ListenerSource) :
    Prop :=
  ∀ first ∈ inherited.head?, ∀ c ∈ cs, ∀ addr ∈ lib.resolveTCPAddr c.address,
    addr.same first.addr = true

theorem mem_some_map {α : Type} {l : List α} {a : α} : some a ∈ l.map some ↔ a ∈ l := by
  rw [List.mem_map]
  grind

theorem length_le_one_of_allFirst {first : InheritedListener} {rest : List InheritedListener}
    (haddrs : lcs.map (fun lc => some lc.addr) = cs.map (fun c => lib.resolveTCPAddr c.address))
    (hdistinct : lcs.Pairwise fun a b => ¬ a.addr.same b.addr = true)
    (h : AllFirst lib (first :: rest) cs) :
    (∀ lc ∈ lcs, lc.addr.same first.addr = true) ∧ lcs.length ≤ 1 := by
  have hall : ∀ lc ∈ lcs, lc.addr.same first.addr = true := by
    intro lc hlc
    have hmem : some lc.addr ∈ cs.map (fun c => lib.resolveTCPAddr c.address) := by
      rw [← haddrs]
      exact List.mem_map_of_mem hlc
    obtain ⟨c, hc, hres⟩ := List.mem_map.mp hmem
    exact h first rfl c hc lc.addr hres
  refine ⟨hall, ?_⟩
  cases lcs with
  | nil => exact Nat.zero_le 1
  | cons a lcs =>
    cases lcs with
    | nil => exact Nat.le_refl 1
    | cons b lcs =>
      grind [TCPAddr.same_of_both, List.mem_cons_self, List.mem_cons_of_mem, List.pairwise_cons]

/-- **The condition is enough.** -/
theorem inheritsOwn_of_allFirst
    (hobjects : inherited.Pairwise (·.inheritListener ≠ ·.inheritListener))
    (hfresh : ∀ il ∈ inherited, il.remain = false)
    (haddrs : lcs.map (fun lc => some lc.addr) = cs.map (fun c => lib.resolveTCPAddr c.address))
    (hold : ∀ lc ∈ lcs, lc.inheritListener = inherited.head?.map (·.inheritListener))
    (hdistinct : lcs.Pairwise fun a b => ¬ a.addr.same b.addr = true)
    (h : AllFirst lib inherited cs) :
    InheritsOwn inherited lcs ((leftBy cs inherited).map some) := by
  cases inherited with
  | nil =>
    refine ⟨hold, ?_, ?_⟩
    · exact List.Pairwise.imp_of_mem (fun ha _ _ => .inl (hold _ ha)) hdistinct
    · intro il hil
      have hmem := mem_some_map.mp hil
      unfold leftBy at hmem
      rw [show firstTaken [] = [] from rfl, ite_self] at hmem
      exact absurd hmem List.not_mem_nil
  | cons first rest =>
    obtain ⟨hall, hone⟩ := length_le_one_of_allFirst haddrs hdistinct h
    refine ⟨?_, ?_, ?_⟩
    · grind
    · cases lcs with
      | nil => exact .nil
      | cons lc lcs => grind
    · intro il hil
      have hmem := mem_some_map.mp hil
      have hempty : cs = [] ↔ lcs = [] := by
        grind [List.length, List.length_map, List.length_eq_zero_iff]
      unfold leftBy at hmem
      by_cases hcs : cs = []
      · rw [if_pos hcs] at hmem
        rw [hfresh il hmem, hempty.mp hcs]
        simp
      · rw [if_neg hcs] at hmem
        have hlcs : lcs ≠ [] := fun hnil => hcs (hempty.mpr hnil)
        obtain ⟨lc, hlc⟩ := List.exists_mem_of_ne_nil lcs hlcs
        rcases List.mem_cons.mp hmem with rfl | hrest
        · exact iff_of_true rfl ⟨lc, hlc, hold lc hlc⟩
        · rw [hfresh il (List.mem_cons_of_mem first hrest)]
          refine iff_of_false Bool.false_ne_true ?_
          grind [List.pairwise_cons, Option.some.inj]

/-- **The condition is needed**: every listener has the first socket. -/
theorem allFirst_of_inheritsOwn {after : List (Option InheritedListener)}
    (hobjects : inherited.Pairwise (·.inheritListener ≠ ·.inheritListener))
    (haddrs : lcs.map (fun lc => some lc.addr) = cs.map (fun c => lib.resolveTCPAddr c.address))
    (hold : ∀ lc ∈ lcs, lc.inheritListener = inherited.head?.map (·.inheritListener))
    (h : InheritsOwn inherited lcs after) : AllFirst lib inherited cs := by
  intro first hfirst c hc addr haddr
  have hmem : some addr ∈ lcs.map (fun lc => some lc.addr) := by
    rw [haddrs, ← Option.mem_def.mp haddr]
    exact List.mem_map_of_mem hc
  obtain ⟨lc, hlc, hsame⟩ := List.mem_map.mp hmem
  have hown := h.own lc hlc
  rw [hold lc hlc, Option.mem_def.mp hfirst] at hown
  obtain ⟨il, hil, hobject⟩ := Option.map_eq_some_iff.mp hown.symm
  -- the listener that is found is the first one, since it is the same object
  have hhead : first ∈ inherited := List.mem_of_mem_head? hfirst
  have hnodup : (inherited.map (·.inheritListener)).Nodup := List.pairwise_map.mpr hobjects
  grind [List.inj_on_of_nodup_map, List.mem_of_find?_eq_some, Option.some.inj]

/-- **Whose socket a configured listener inherits.**  For any inherited sockets
and any configurations that can be parsed and have distinct addresses, all
calls return, and every listener has its own socket exactly when there is no
inherited one or all of them have the address of the first. -/
theorem inherits_own_iff (lib : NetLib) (inherited : List InheritedListener)
    (cs : List ListenerSource)
    (hobjects : inherited.Pairwise (·.inheritListener ≠ ·.inheritListener))
    (hfresh : ∀ il ∈ inherited, il.remain = false) (hvalid : ∀ c ∈ cs, c.Valid lib)
    (hdistinct : (cs.filterMap fun c => lib.resolveTCPAddr c.address).Pairwise
      fun a b => ¬ a.same b = true) :
    ∃ lcs after, parseAll lib cs (inherited.map some) = .ok (lcs, after)
      ∧ (InheritsOwn inherited lcs after ↔ AllFirst lib inherited cs) := by
  obtain ⟨lcs, hrun, haddrs, hold⟩ := parseAll_eq cs inherited hvalid
  have hlcs : lcs.Pairwise fun a b => ¬ a.addr.same b.addr = true := by
    have haddr : cs.filterMap (fun c => lib.resolveTCPAddr c.address) = lcs.map (·.addr) := by
      have hmap : cs.filterMap (fun c => lib.resolveTCPAddr c.address)
          = (cs.map fun c => lib.resolveTCPAddr c.address).filterMap id := by
        rw [List.filterMap_map]
        rfl
      rw [hmap, ← haddrs, List.filterMap_map]
      exact congrFun List.filterMap_eq_map lcs
    rw [haddr] at hdistinct
    exact List.pairwise_map.mp hdistinct
  exact ⟨lcs, _, hrun, allFirst_of_inheritsOwn hobjects haddrs hold,
    inheritsOwn_of_allFirst hobjects hfresh haddrs hold hlcs⟩

/-! ## §6. Two listeners. -/

/-- `net.ParseIP` for IPv4 addresses. -/
def parseIPv4 (s : GoString) : List UInt8 :=
  let parts := s.splitOn 46
  if s.contains 58 = false ∧ parts.length = 4 ∧ ∀ p ∈ parts, (Strconv.parseUint p 8).2 = none then
    v4InV6 ++ parts.map fun p => UInt8.ofNat (Strconv.parseUint p 8).1
  else []

theorem contains_joinHostPort (host port : GoString) :
    (joinHostPort host port).contains 58 = true := by
  unfold joinHostPort
  split <;> simp [str]

/-- The package `net`, for IPv4 addresses. -/
def ipv4Net : NetLib where
  resolveTCPAddr s :=
    match s.splitOn 58 with
    | [host, port] =>
      if parseIPv4 host = [] then none
      else if (Strconv.parseUint port 16).2 = none then
        some ⟨parseIPv4 host, (Strconv.parseUint port 16).1, []⟩
      else none
    | _ => none
  ipString ip := List.intercalate [46] ((ip.drop (ip.length - 4)).map fun b =>
    Strconv.formatUint b.toNat)
  parseIP := parseIPv4
  parseIP_hostPort := by
    intro host port
    unfold parseIPv4
    rw [contains_joinHostPort]
    exact if_neg (fun h => Bool.false_ne_true h.1.symm)

/-- A listener on an address, with all other settings left at their defaults. -/
def listenerAt (name address : String) : ListenerSource :=
  ⟨str name, str address, true, [], [], false, []⟩

/-- One listener, and its own socket among the inherited ones. -/
theorem inherits_own_iff_at : ∃ lcs after, parseAll ipv4Net [listenerAt "a" "10.0.0.1:80"]
        ([⟨⟨[10, 0, 0, 1], 80, []⟩, 3, false⟩, ⟨⟨[10, 0, 0, 1], 443, []⟩, 4, false⟩].map some)
          = .ok (lcs, after)
      ∧ InheritsOwn [⟨⟨[10, 0, 0, 1], 80, []⟩, 3, false⟩, ⟨⟨[10, 0, 0, 1], 443, []⟩, 4, false⟩]
          lcs after := by
  have hconfig : ∀ c ∈ [listenerAt "a" "10.0.0.1:80"], c = listenerAt "a" "10.0.0.1:80" := by simp
  obtain ⟨lcs, after, hparse, hiff⟩ := inherits_own_iff ipv4Net
    [⟨⟨[10, 0, 0, 1], 80, []⟩, 3, false⟩, ⟨⟨[10, 0, 0, 1], 443, []⟩, 4, false⟩]
    [listenerAt "a" "10.0.0.1:80"] (by decide) (by decide) (by
      intro c hc
      rw [hconfig c hc]
      exact ⟨by decide, by decide, by decide, .inl rfl⟩) (by decide)
  refine ⟨lcs, after, hparse, hiff.mpr ?_⟩
  intro first hfirst c hc addr haddr
  rw [hconfig c hc] at haddr
  cases hfirst
  cases haddr
  decide

/-- Two inherited sockets, and two listeners with these addresses: the second
one gets the socket of the first, and its own does not remain. -/
theorem not_inheritsOwn_two :
    ∃ lcs after, parseAll ipv4Net [listenerAt "a" "10.0.0.1:80", listenerAt "b" "10.0.0.1:443"]
        ([⟨⟨[10, 0, 0, 1], 80, []⟩, 3, false⟩, ⟨⟨[10, 0, 0, 1], 443, []⟩, 4, false⟩].map some)
          = .ok (lcs, after)
      ∧ lcs.map (·.inheritListener) = [some 3, some 3]
      ∧ after = [some ⟨⟨[10, 0, 0, 1], 80, []⟩, 3, true⟩, some ⟨⟨[10, 0, 0, 1], 443, []⟩, 4, false⟩]
      ∧ ¬ InheritsOwn [⟨⟨[10, 0, 0, 1], 80, []⟩, 3, false⟩, ⟨⟨[10, 0, 0, 1], 443, []⟩, 4, false⟩]
          lcs after := by
  have hvalid : ∀ c ∈ [listenerAt "a" "10.0.0.1:80", listenerAt "b" "10.0.0.1:443"],
      c.Valid ipv4Net := by
    intro c hc
    rcases List.mem_cons.mp hc with rfl | hc
    · exact ⟨by decide, by decide, by decide, .inl rfl⟩
    · rw [List.mem_singleton.mp hc]
      exact ⟨by decide, by decide, by decide, .inl rfl⟩
  obtain ⟨lcs, hrun, haddrs, hold⟩ := @parseAll_eq ipv4Net _
    [⟨⟨[10, 0, 0, 1], 80, []⟩, 3, false⟩, ⟨⟨[10, 0, 0, 1], 443, []⟩, 4, false⟩] hvalid
  have hlen : lcs.length = 2 := by
    have := congrArg List.length haddrs
    rwa [List.length_map, List.length_map] at this
  obtain ⟨a, b, rfl⟩ := List.length_eq_two.mp hlen
  refine ⟨[a, b], _, hrun, ?_, rfl, ?_⟩ <;> grind

end Mosn.Config
