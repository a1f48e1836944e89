/-
  Mosn.Router.RouteChoice
  **THE MATCH BLOCK OF A ROUTE AND WHAT IS TESTED OF IT.**

  A match block is a target (the prefix of a path, a path, an expression, or a
  service) together with header matchers, ALL of which have to hold.  The rules
  test only the target, and a path without its case (`ruleHolds`), so they agree
  with the block (`matchBlock`) only on some requests:

      block                          request          ruleHolds   matchBlock
      prefix /, header x = 1         /a               true        false
      path /A, case sensitive        /a               true        false
      service .* and header x = 1    service = s      true        false
      service foo.* as expression    service = foo1   false       true

    • `ruleHolds_eq_matchBlock_iff` — where the two agree, by the target,
    • `chosenRoute_iff` — the chosen route is the first whose block holds
      exactly if they agree at every route up to the first match of a rule.
-/
import Mosn.Lib.FirstMatch
import Mosn.Router.Rules

namespace Mosn.Router

open Mosn.Lib

/-! ## §1. The meaning of a match block. -/

/-- A header matcher: the header is there, and its value is the configured one,
or matches it as an expression, or none is configured. -/
def HeaderMatcher.holds (lib : TextLib) (headers : HeaderMap) (matcher : HeaderMatcher) : Bool :=
  RouteRule.withHeader headers matcher.name fun value =>
    if matcher.value = [] then true
    else if matcher.regex then regexHolds lib matcher.value value
    else value == matcher.value

/-- A matcher of a service route.  The service `.*` stands for every service. -/
def HeaderMatcher.holdsForService (lib : TextLib) (headers : HeaderMap)
    (matcher : HeaderMatcher) : Bool :=
  matcher.holds lib headers ||
    (matcher.name = sofaRouteMatchKey && matcher.value == str ".*" &&
      (headers.lookup sofaRouteMatchKey).isSome)

/-- **The whole match block holds**: the target, the path with the configured
case sensitivity, and every header matcher. -/
def matchBlock (lib : TextLib) (headers : HeaderMap) (m : RouterMatch) : Bool :=
  if m.pathPrefix ≠ [] then
    pathHolds lib headers (fun value => Strings.hasPrefix value m.pathPrefix) &&
      m.headers.all (·.holds lib headers)
  else if m.path ≠ [] then
    pathHolds lib headers (fun value =>
      if m.caseSensitive then value == m.path else Strings.equalFold lib value m.path) &&
      m.headers.all (·.holds lib headers)
  else if m.regex ≠ [] then
    pathHolds lib headers (regexHolds lib m.regex) && m.headers.all (·.holds lib headers)
  else
    m.headers.any (·.name = sofaRouteMatchKey) && m.headers.all (·.holdsForService lib headers)

/-- Every header matcher of the block holds. -/
def AllHeaders (lib : TextLib) (headers : HeaderMap) (m : RouterMatch) : Prop :=
  ∀ matcher ∈ m.headers, matcher.holds lib headers = true

/-- **The rules test what the block says**, by the target of the block: a
request with the target passes the header matchers, and has a case-sensitive
path as it is configured; of a service block, one service matcher holds exactly
if all the matchers do. -/
def TestedInFull (lib : TextLib) (headers : HeaderMap) (m : RouterMatch) : Prop :=
  if m.pathPrefix ≠ [] then
    pathHolds lib headers (fun value => Strings.hasPrefix value m.pathPrefix) = true →
      AllHeaders lib headers m
  else if m.path ≠ [] then
    if m.caseSensitive then
      (pathHolds lib headers (fun value => Strings.equalFold lib value m.path) = true ↔
        pathHolds lib headers (fun value => value == m.path) = true ∧ AllHeaders lib headers m)
    else
      pathHolds lib headers (fun value => Strings.equalFold lib value m.path) = true →
        AllHeaders lib headers m
  else if m.regex ≠ [] then
    pathHolds lib headers (regexHolds lib m.regex) = true → AllHeaders lib headers m
  else
    (∃ matcher ∈ m.headers, matcher.name = sofaRouteMatchKey ∧
        serviceValueHolds headers matcher.value = true) ↔
      (∃ matcher ∈ m.headers, matcher.name = sofaRouteMatchKey) ∧
        ∀ matcher ∈ m.headers, matcher.holdsForService lib headers = true

theorem all_holds_iff (lib : TextLib) (headers : HeaderMap) (m : RouterMatch) :
    m.headers.all (·.holds lib headers) = true ↔ AllHeaders lib headers m :=
  List.all_eq_true

theorem eq_and_iff (test more : Bool) : test = (test && more) ↔ (test = true → more = true) := by
  cases test <;> simp [eq_comm]

theorem ruleHolds_eq_matchBlock_iff (lib : TextLib) (headers : HeaderMap) (m : RouterMatch) :
    ruleHolds lib headers m = matchBlock lib headers m ↔ TestedInFull lib headers m := by
  unfold ruleHolds matchBlock TestedInFull
  by_cases hstart : m.pathPrefix ≠ []
  · rw [if_pos hstart, if_pos hstart, if_pos hstart, eq_and_iff, all_holds_iff]
  rw [if_neg hstart, if_neg hstart, if_neg hstart]
  by_cases hpath : m.path ≠ []
  · rw [if_pos hpath, if_pos hpath, if_pos hpath]
    cases m.caseSensitive with
    | true =>
      rw [if_pos rfl, Bool.eq_iff_iff, Bool.and_eq_true, all_holds_iff]
      rfl
    | false => simp only [Bool.false_eq_true, if_false, eq_and_iff, all_holds_iff]
  rw [if_neg hpath, if_neg hpath, if_neg hpath]
  by_cases hregex : m.regex ≠ []
  · rw [if_pos hregex, if_pos hregex, if_pos hregex, eq_and_iff, all_holds_iff]
  rw [if_neg hregex, if_neg hregex, if_neg hregex, Bool.eq_iff_iff]
  simp only [List.any_eq_true, List.all_eq_true, Bool.and_eq_true, decide_eq_true_eq]

theorem testedInFull_of_target (lib : TextLib) (headers : HeaderMap) {m : RouterMatch}
    (hheaders : m.headers = []) (hcase : m.caseSensitive = false) :
    TestedInFull lib headers m := by
  simp [TestedInFull, AllHeaders, hheaders, hcase]

/-! ## §2. The chosen route. -/

/-- **The chosen route is the first one whose match block holds, and none is
chosen if there is no such route**, exactly if at every route that the search
comes to (no rule of an earlier one accepts) the block is tested in full. -/
theorem chosenRoute_iff (lib : TextLib) (virtualHost : VirtualHost) (vh : VirtualHostImpl)
    (hvh : newVirtualHostImpl lib virtualHost = .ok vh) (headers : HeaderMap) :
    (vh.getRouteFromEntries lib headers).map (·.base.index) =
        (virtualHost.routers.findIdx? fun route => matchBlock lib headers route.routerMatch) ↔
      ∀ earlier route later, virtualHost.routers = earlier ++ route :: later →
        (∀ r ∈ earlier, ruleHolds lib headers r.routerMatch = false) →
        TestedInFull lib headers route.routerMatch := by
  rw [getRouteFromEntries_index hvh headers, findIdx?_eq_findIdx?_iff]
  simp only [ruleHolds_eq_matchBlock_iff]

/-- ASCII only, and no regular expressions. -/
def asciiText : TextLib := ⟨id, fun s t => s == t, id, fun _ => none⟩

def pathRequest (path : String) : HeaderMap := (∅ : HeaderMap).insert pathKey (str path)

def targetRoute (m : RouterMatch) : V2Router := ⟨m, ⟨str "cluster", []⟩⟩

/-- A prefix, then a path without case. -/
def plainHost : VirtualHost :=
  ⟨0, str "plain", [str "*"],
    [targetRoute ⟨str "/a", [], [], false, []⟩, targetRoute ⟨[], str "/B", [], false, []⟩]⟩

theorem chosenRoute_plainHost : ∃ vh, newVirtualHostImpl asciiText plainHost = .ok vh ∧
    (vh.getRouteFromEntries asciiText (pathRequest "/b")).map (·.base.index) =
      plainHost.routers.findIdx? fun route =>
        matchBlock asciiText (pathRequest "/b") route.routerMatch := by
  refine ⟨_, rfl, ?_⟩
  apply (chosenRoute_iff asciiText plainHost _ rfl (pathRequest "/b")).mpr
  intro earlier route later hsplit _
  have hmem : route ∈ plainHost.routers := by
    rw [hsplit]
    simp
  have hbare : ∀ r ∈ plainHost.routers,
      r.routerMatch.headers = [] ∧ r.routerMatch.caseSensitive = false := by decide
  exact testedInFull_of_target asciiText _ (hbare route hmem).1 (hbare route hmem).2

/-- A prefix that is for requests with `x: 1` only, then one for all. -/
def headerHost : VirtualHost :=
  ⟨0, str "header", [str "*"],
    [targetRoute ⟨str "/", [], [], false, [⟨str "x", str "1", false⟩]⟩,
      targetRoute ⟨str "/", [], [], false, []⟩]⟩

/-- A request WITHOUT the header gets the first route; its block does not hold,
the block of the second does. -/
theorem headerMatcher_ignored : ∃ vh, newVirtualHostImpl asciiText headerHost = .ok vh ∧
    (vh.getRouteFromEntries asciiText (pathRequest "/b")).map (·.base.index) = some 0 ∧
    (headerHost.routers.findIdx? fun route =>
      matchBlock asciiText (pathRequest "/b") route.routerMatch) = some 1 := by
  refine ⟨_, rfl, ?_, ?_⟩
  · decide
  · decide

end Mosn.Router
