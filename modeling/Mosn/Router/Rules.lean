/-
  Mosn.Router.Rules
  **ROUTE RULES AND VIRTUAL HOSTS** (`pkg/router/routeruleimpl.go`,
  `virtualhostimpl.go`, `configutility.go`).

  A configured route becomes a rule of one of four kinds: by the prefix of the
  path, the path, a regular expression for the path, or the service in the
  headers.  A route of the last kind becomes one rule for EACH of its service
  matchers, and one with an expression that does not compile becomes none.

  `NewRouteRuleImplBase` copies the match block into the rule, and `matchRoute`
  reads OTHER fields, which nothing sets:

      copied          routerMatch.Headers, routerMatch.CaseSensitive
      read            configHeaders (nil), configQueryParameters (nil),
                      caseSensitive (false)
-/
import Mosn.Lib.Loop
import Mosn.Protocol.Http.Query

namespace Mosn.Router

open Mosn.Lib
open Mosn.Protocol.Http (QueryParams parseQueryString)

/-! ## §1. Configuration. -/

/-- `v2.HeaderMatcher`. -/
structure HeaderMatcher where
  name : GoString
  value : GoString
  regex : Bool
  deriving DecidableEq

/-- `v2.RouterMatch`. -/
structure RouterMatch where
  pathPrefix : GoString
  path : GoString
  regex : GoString
  caseSensitive : Bool
  headers : List HeaderMatcher
  deriving DecidableEq

/-- A value of `v2.Metadata`. -/
inductive Value where
  | string (s : GoString)
  | object (fields : List (GoString × Value))
  | other

/-- `v2.RouteAction`, as far as rules are built from it. -/
structure RouteAction where
  clusterName : GoString
  metadataMatch : List (GoString × Value)

/-- `v2.Router`. -/
structure V2Router where
  routerMatch : RouterMatch
  route : RouteAction

/-- `v2.VirtualHost`.  `object` tells objects with equal data apart. -/
structure VirtualHost where
  object : Nat
  name : GoString
  domains : List GoString
  routers : List V2Router

/-- Why a constructor does not return an object: an error, a panic, or the end
of the process by `Fatal`. -/
inductive Stop where
  | error (text : GoString)
  | panic
  | exit
  deriving DecidableEq

/-! ## §2. Rules. -/

abbrev HeaderMap := GoMap GoString GoString

/-- `protocol.MosnHeaderPathKey`. -/
def pathKey : GoString := str "path"

/-- `protocol.MosnHeaderQueryStringKey`. -/
def queryStringKey : GoString := str "querystring"

/-- `types.SofaRouteMatchKey`. -/
def sofaRouteMatchKey : GoString := str "service"

/-- `types.HeaderData`, and `queryParameterMatcher`, which has the same fields. -/
structure ValueMatcher where
  name : GoString
  value : GoString
  isRegex : Bool
  regexPattern : GoString → Bool

/-- `RouteRuleImplBase`, as far as matching reads it; `index` is the place of
the route in the configuration. -/
structure RouteRuleImplBase where
  index : Nat
  routerMatch : RouterMatch
  routerAction : RouteAction
  caseSensitive : Bool
  configHeaders : List ValueMatcher
  configQueryParameters : List ValueMatcher

/-- The value under `filter_metadata`, `mosn.lb` of the metadata, if it is an
object. -/
def mosnLb (metadataMatch : List (GoString × Value)) : Option (List (GoString × Value)) :=
  match metadataMatch.lookup (str "filter_metadata") with
  | some (.object fields) =>
    match fields.lookup (str "mosn.lb") with
    | some (.object entries) => some entries
    | _ => none
  | _ => none

def Value.isString : Value → Bool
  | .string _ => true
  | _ => false

/-- `NewRouteRuleImplBase`.  `GetClusterMosnLBMetaDataMap` ends the process on a
value that is not a string. -/
def newRouteRuleImplBase (index : Nat) (route : V2Router) : Except Stop RouteRuleImplBase :=
  if ((mosnLb route.route.metadataMatch).getD []).all fun entry => entry.2.isString then
    .ok {
      index := index
      routerMatch := route.routerMatch
      routerAction := route.route
      caseSensitive := false
      configHeaders := []
      configQueryParameters := [] }
  else .error .exit

/-- `MatchHeaders`.  A header that is not there is not looked at. -/
def matchHeaders (requestHeaders : HeaderMap) (configHeaders : List ValueMatcher) : Bool :=
  configHeaders.all fun cfg =>
    match requestHeaders.lookup cfg.name with
    | none => true
    | some value => if cfg.isRegex then cfg.regexPattern value else cfg.value == value

/-- `Matches` of a query parameter matcher. -/
def ValueMatcher.matchesQuery (qpm : ValueMatcher) (params : QueryParams) : Bool :=
  match params.lookup qpm.name with
  | none => false
  | some requestValue =>
    if qpm.isRegex then qpm.regexPattern requestValue
    else if qpm.value = [] then true
    else qpm.value == requestValue

/-- `matchRoute`. -/
def RouteRuleImplBase.matchRoute (lib : TextLib) (base : RouteRuleImplBase) (headers : HeaderMap) :
    Bool :=
  if matchHeaders headers base.configHeaders then
    let queryParams := ((headers.lookup queryStringKey).map (parseQueryString lib)).getD ∅
    if queryParams.len = 0 then true
    else base.configQueryParameters.all (·.matchesQuery queryParams)
  else false

/-- `PrefixRouteRuleImpl`, `PathRouteRuleImpl`, `RegexRouteRuleImpl`,
`SofaRouteRuleImpl`. -/
inductive RouteRule where
  | pathPrefix (base : RouteRuleImplBase) (start : GoString)
  | path (base : RouteRuleImplBase) (whole : GoString)
  | regex (base : RouteRuleImplBase) (regexStr : GoString) (regexPattern : GoString → Bool)
  | service (base : RouteRuleImplBase) (matchValue : GoString)

namespace RouteRule

def base : RouteRule → RouteRuleImplBase
  | .pathPrefix base _ => base
  | .path base _ => base
  | .regex base _ _ => base
  | .service base _ => base

/-- A test of a header that has to be there. -/
def withHeader (headers : HeaderMap) (key : GoString) (test : GoString → Bool) : Bool :=
  match headers.lookup key with
  | none => false
  | some value => test value

/-- `Match` returns the rule itself or nil. -/
def isMatch (lib : TextLib) (headers : HeaderMap) : RouteRule → Bool
  | .pathPrefix base start =>
    base.matchRoute lib headers &&
      withHeader headers (Strings.toLower lib pathKey) fun value => Strings.hasPrefix value start
  | .path base whole =>
    base.matchRoute lib headers &&
      withHeader headers (Strings.toLower lib pathKey) fun value =>
        if base.caseSensitive then value == whole else Strings.equalFold lib value whole
  | .regex base _ regexPattern =>
    base.matchRoute lib headers &&
      withHeader headers (Strings.toLower lib pathKey) fun value => regexPattern value
  | .service _ matchValue =>
    withHeader headers sofaRouteMatchKey fun value => value == matchValue || matchValue == str ".*"

end RouteRule

/-! ## §3. Virtual hosts. -/

/-- `VirtualHostImpl`, as far as routing reads it. -/
structure VirtualHostImpl where
  object : Nat
  virtualHostName : GoString
  routes : List RouteRule

/-- The loop over the header matchers of a route with none of prefix, path and
regex: one rule for EACH service matcher. -/
def serviceRules (index : Nat) (route : V2Router) :
    List HeaderMatcher → Except Stop (List RouteRule)
  | [] => .ok []
  | header :: headers =>
    if header.name = sofaRouteMatchKey then do
      let base ← newRouteRuleImplBase index route
      let rest ← serviceRules index route headers
      return .service base header.value :: rest
    else serviceRules index route headers

/-- The rules of one route. -/
def routeRules (lib : TextLib) (index : Nat) (route : V2Router) : Except Stop (List RouteRule) :=
  if route.routerMatch.pathPrefix ≠ [] then do
    let base ← newRouteRuleImplBase index route
    return [.pathPrefix base route.routerMatch.pathPrefix]
  else if route.routerMatch.path ≠ [] then do
    let base ← newRouteRuleImplBase index route
    return [.path base route.routerMatch.path]
  else if route.routerMatch.regex ≠ [] then
    match lib.compile route.routerMatch.regex with
    | some regPattern => do
      let base ← newRouteRuleImplBase index route
      return [.regex base route.routerMatch.regex regPattern]
    | none => .ok []
  else serviceRules index route route.routerMatch.headers

/-- The loop over the routes, from the given place on. -/
def buildRoutes (lib : TextLib) : Nat → List V2Router → Except Stop (List RouteRule)
  | _, [] => .ok []
  | index, route :: routers => do
    let rules ← routeRules lib index route
    let rest ← buildRoutes lib (index + 1) routers
    return rules ++ rest

/-- `NewVirtualHostImpl`. -/
def newVirtualHostImpl (lib : TextLib) (virtualHost : VirtualHost) :
    Except Stop VirtualHostImpl := do
  let routes ← buildRoutes lib 0 virtualHost.routers
  if routes.isEmpty then
    .error (.error (str "routes must specify one of prefix/path/regex/header"))
  else .ok ⟨virtualHost.object, virtualHost.name, routes⟩

/-- `GetRouteFromEntries`. -/
def VirtualHostImpl.getRouteFromEntries (lib : TextLib) (vh : VirtualHostImpl)
    (headers : HeaderMap) : Option RouteRule :=
  vh.routes.find? (·.isMatch lib headers)

/-! ## §4. What a rule tests. -/

/-- The test of a service rule. -/
def serviceValueHolds (headers : HeaderMap) (matchValue : GoString) : Bool :=
  RouteRule.withHeader headers sofaRouteMatchKey fun value =>
    value == matchValue || matchValue == str ".*"

/-- A test of the path in the headers. -/
def pathHolds (lib : TextLib) (headers : HeaderMap) (test : GoString → Bool) : Bool :=
  RouteRule.withHeader headers (Strings.toLower lib pathKey) test

/-- A test by an expression; one that does not compile matches nothing. -/
def regexHolds (lib : TextLib) (regex value : GoString) : Bool :=
  match lib.compile regex with
  | some pattern => pattern value
  | none => false

/-- What the rules of a route test of its match block. -/
def ruleHolds (lib : TextLib) (headers : HeaderMap) (m : RouterMatch) : Bool :=
  if m.pathPrefix ≠ [] then pathHolds lib headers fun value => Strings.hasPrefix value m.pathPrefix
  else if m.path ≠ [] then pathHolds lib headers fun value => Strings.equalFold lib value m.path
  else if m.regex ≠ [] then pathHolds lib headers (regexHolds lib m.regex)
  else m.headers.any fun header =>
    header.name = sofaRouteMatchKey && serviceValueHolds headers header.value

/-- A base that `NewRouteRuleImplBase` made for the route at `index`: none of
the fields that `matchRoute` reads is set. -/
structure RouteRuleImplBase.Bare (base : RouteRuleImplBase) (index : Nat) : Prop where
  index_eq : base.index = index
  caseSensitive_eq : base.caseSensitive = false
  configHeaders_eq : base.configHeaders = []
  configQueryParameters_eq : base.configQueryParameters = []

variable {index : Nat} {route : V2Router} {base : RouteRuleImplBase} {lib : TextLib}
  {headers : HeaderMap} {rules : List RouteRule} {test : Bool}

theorem bare_newRouteRuleImplBase
    (h : newRouteRuleImplBase index route = .ok base) : base.Bare index := by
  unfold newRouteRuleImplBase at h
  split at h
  · cases h
    exact ⟨rfl, rfl, rfl, rfl⟩
  · cases h

theorem RouteRuleImplBase.Bare.matchRoute
    (h : base.Bare index) (lib : TextLib) (headers : HeaderMap) :
    base.matchRoute lib headers = true := by
  simp [RouteRuleImplBase.matchRoute, matchHeaders, h.configHeaders_eq, h.configQueryParameters_eq]

/-- The rules of one route: they know its place, and one of them accepts
exactly if `test`. -/
@[local grind cases]
structure RulesOf (lib : TextLib) (headers : HeaderMap) (index : Nat) (rules : List RouteRule)
    (test : Bool) : Prop where
  index_eq : ∀ rule ∈ rules, rule.base.index = index
  any_eq : (rules.any fun rule => rule.isMatch lib headers) = test

theorem RulesOf.ofBase {rule : RouteRuleImplBase → RouteRule}
    (h : (newRouteRuleImplBase index route >>= fun base => pure [rule base]) = .ok rules)
    (hbase : ∀ base, (rule base).base = base)
    (htest : ∀ base, base.Bare index → (rule base).isMatch lib headers = test) :
    RulesOf lib headers index rules test := by
  simp only [bind_eq_ok, pure, Except.pure, Except.ok.injEq] at h
  obtain ⟨base, hnew, rfl⟩ := h
  have hbare := bare_newRouteRuleImplBase hnew
  constructor
  · intro r hr
    rw [List.mem_singleton.mp hr, hbase]
    exact hbare.index_eq
  · simp [htest base hbare]

theorem rulesOf_serviceRules (lib : TextLib) (headers : HeaderMap) (index : Nat)
    (route : V2Router) : ∀ (matchers : List HeaderMatcher) (rules : List RouteRule),
    serviceRules index route matchers = .ok rules →
    RulesOf lib headers index rules (matchers.any fun header =>
      header.name = sofaRouteMatchKey && serviceValueHolds headers header.value) := by
  intro matchers
  induction matchers with
  | nil =>
    intro rules h
    cases h
    exact ⟨by simp, rfl⟩
  | cons header matchers ih =>
    intro rules h
    unfold serviceRules at h
    by_cases hname : header.name = sofaRouteMatchKey
    · simp only [if_pos hname, bind_eq_ok, pure, Except.pure, Except.ok.injEq] at h
      obtain ⟨base, hbase, rest, hrest, rfl⟩ := h
      have hrules := ih rest hrest
      constructor
      · intro rule hrule
        rcases List.mem_cons.mp hrule with rfl | hrule
        · exact (bare_newRouteRuleImplBase hbase).index_eq
        · exact hrules.index_eq rule hrule
      · simp only [List.any_cons, hrules.any_eq, hname, decide_true, Bool.true_and]
        rfl
    · grind

theorem rulesOf_routeRules (lib : TextLib) (headers : HeaderMap)
    (h : routeRules lib index route = .ok rules) :
    RulesOf lib headers index rules (ruleHolds lib headers route.routerMatch) := by
  unfold routeRules at h
  unfold ruleHolds
  by_cases hstart : route.routerMatch.pathPrefix ≠ []
  · rw [if_pos hstart] at h ⊢
    apply RulesOf.ofBase h fun _ => rfl
    intro base hbare
    simp [RouteRule.isMatch, hbare.matchRoute, pathHolds]
  rw [if_neg hstart] at h ⊢
  by_cases hpath : route.routerMatch.path ≠ []
  · rw [if_pos hpath] at h ⊢
    apply RulesOf.ofBase h fun _ => rfl
    intro base hbare
    -- the case of the path is a field of the match block, not of the base
    simp [RouteRule.isMatch, hbare.matchRoute, hbare.caseSensitive_eq, pathHolds]
  rw [if_neg hpath] at h ⊢
  by_cases hregex : route.routerMatch.regex ≠ []
  · rw [if_pos hregex] at h ⊢
    cases hcompile : lib.compile route.routerMatch.regex with
    | none =>
      simp only [hcompile] at h
      cases h
      refine ⟨by simp, ?_⟩
      unfold pathHolds RouteRule.withHeader regexHolds
      cases headers.lookup (Strings.toLower lib pathKey) <;> simp [hcompile]
    | some regPattern =>
      simp only [hcompile] at h
      apply RulesOf.ofBase h fun _ => rfl
      intro base hbare
      have hpattern : regexHolds lib route.routerMatch.regex = regPattern := by
        funext value
        simp [regexHolds, hcompile]
      simp [RouteRule.isMatch, hbare.matchRoute, pathHolds, hpattern]
  rw [if_neg hregex] at h ⊢
  exact rulesOf_serviceRules lib headers index route _ rules h

theorem RulesOf.find?_append (h : RulesOf lib headers index rules test) (rest : List RouteRule) :
    ((rules ++ rest).find? (·.isMatch lib headers)).map (·.base.index) =
      if test then some index else (rest.find? (·.isMatch lib headers)).map (·.base.index) := by
  rw [List.find?_append]
  cases hfind : rules.find? (·.isMatch lib headers) with
  | none => grind
  | some rule => grind

theorem buildRoutes_index (lib : TextLib) (headers : HeaderMap) :
    ∀ (routers : List V2Router) (index : Nat) (routes : List RouteRule),
    buildRoutes lib index routers = .ok routes →
    (routes.find? (·.isMatch lib headers)).map (·.base.index) =
      (routers.findIdx? fun route => ruleHolds lib headers route.routerMatch).map (· + index) := by
  intro routers
  induction routers with
  | nil =>
    intro index routes h
    cases h
    rfl
  | cons route routers ih =>
    intro index routes h
    simp only [buildRoutes, bind_eq_ok, pure, Except.pure, Except.ok.injEq] at h
    obtain ⟨rules, hrules, rest, hrest, rfl⟩ := h
    rw [(rulesOf_routeRules lib headers hrules).find?_append rest, List.findIdx?_cons,
      ih (index + 1) rest hrest]
    split
    · simp
    · rw [Option.map_map]
      congr 1
      funext i
      show i + (index + 1) = i + 1 + index
      omega

/-- **The first route with `ruleHolds` is chosen.** -/
theorem getRouteFromEntries_index {virtualHost : VirtualHost}
    {vh : VirtualHostImpl} (h : newVirtualHostImpl lib virtualHost = .ok vh) (headers : HeaderMap) :
    (vh.getRouteFromEntries lib headers).map (·.base.index) =
      virtualHost.routers.findIdx? fun route => ruleHolds lib headers route.routerMatch := by
  simp only [newVirtualHostImpl, bind_eq_ok] at h
  obtain ⟨routes, hroutes, h⟩ := h
  split at h
  · cases h
  · cases h
    have hindex := buildRoutes_index lib headers virtualHost.routers 0 routes hroutes
    simpa [VirtualHostImpl.getRouteFromEntries] using hindex

end Mosn.Router
