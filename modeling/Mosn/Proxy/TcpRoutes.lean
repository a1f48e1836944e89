/-
  Mosn.Proxy.TcpRoutes
  **ROUTES OF THE TCP PROXY** (`pkg/filter/network/tcpproxy/proxy.go`,
  `Addresses.Contains` of `pkg/types/network.go`).

  A route may be bound to source and to destination addresses.  The loop skips
  a route if its sources do NOT contain the remote address, and if its
  destinations DO contain the local one: the second test is the wrong way round.

    • `getRouteFromEntries_eq` — the loop takes the first route that passes both
      tests,
    • `route_intended` — that is the intended route exactly if no route for the
      source, up to the intended one, lists destinations.
-/
import Mosn.Lib.FirstMatch

namespace Mosn.TcpProxy

open Mosn.Lib

/-- `route`.  Addresses are given by their texts, which `Contains` compares. -/
structure Route where
  sourceAddrs : List String
  destinationAddrs : List String
  clusterName : String

/-- `GetRouteFromEntries`: a route is passed over if its destination addresses
contain the local address. -/
def getRouteFromEntries (remoteAddr localAddr : String) : List Route → String
  | [] => ""
  | r :: routes =>
    if !r.sourceAddrs.isEmpty && !r.sourceAddrs.contains remoteAddr then
      getRouteFromEntries remoteAddr localAddr routes
    else if !r.destinationAddrs.isEmpty && r.destinationAddrs.contains localAddr then
      getRouteFromEntries remoteAddr localAddr routes
    else r.clusterName

namespace Route

def ofSource (remoteAddr : String) (r : Route) : Bool :=
  r.sourceAddrs.isEmpty || r.sourceAddrs.contains remoteAddr

/-- A route for both addresses of a connection. -/
def Intended (remoteAddr localAddr : String) (r : Route) : Bool :=
  r.ofSource remoteAddr && (r.destinationAddrs.isEmpty || r.destinationAddrs.contains localAddr)

/-- A route that passes both tests of the loop. -/
def Taken (remoteAddr localAddr : String) (r : Route) : Bool :=
  r.ofSource remoteAddr && (r.destinationAddrs.isEmpty || !r.destinationAddrs.contains localAddr)

theorem intended_eq_taken_iff (remoteAddr localAddr : String) (r : Route) :
    Intended remoteAddr localAddr r = Taken remoteAddr localAddr r ↔
      (r.ofSource remoteAddr = true → r.destinationAddrs = []) := by
  unfold Intended Taken
  cases r.ofSource remoteAddr <;> cases r.destinationAddrs.contains localAddr <;> simp

end Route

/-- The cluster of the first route that passes a test. -/
def clusterOf (test : Route → Bool) (routes : List Route) : String :=
  ((routes.find? test).map Route.clusterName).getD ""

/-- The cluster of the first route for both addresses. -/
def intendedCluster (remoteAddr localAddr : String) (routes : List Route) : String :=
  clusterOf (Route.Intended remoteAddr localAddr) routes

/-- No route for the source that comes before the intended one, or is it, lists
destinations. -/
def Unbound (remoteAddr localAddr : String) (routes : List Route) : Prop :=
  ∀ earlier r later, routes = earlier ++ r :: later →
    (∀ y ∈ earlier, Route.Intended remoteAddr localAddr y = false) →
    r.ofSource remoteAddr = true → r.destinationAddrs = []

variable (remoteAddr localAddr : String) (routes : List Route)

theorem getRouteFromEntries_eq : getRouteFromEntries remoteAddr localAddr routes
      = clusterOf (Route.Taken remoteAddr localAddr) routes := by
  unfold clusterOf
  induction routes with
  | nil => rfl
  | cons r rest ih =>
    rw [getRouteFromEntries, ih, List.find?_cons, Route.Taken, Route.ofSource]
    cases r.sourceAddrs.isEmpty <;> cases r.sourceAddrs.contains remoteAddr <;>
      cases r.destinationAddrs.isEmpty <;> cases r.destinationAddrs.contains localAddr <;> rfl

/-- **The route for a connection.**  The route that is taken is the intended
one exactly if no route for the source that comes before it, or is it, lists
destinations; the connection then gets the intended cluster. -/
theorem route_intended :
    getRouteFromEntries remoteAddr localAddr routes
        = clusterOf (Route.Taken remoteAddr localAddr) routes
      ∧ (routes.findIdx? (Route.Intended remoteAddr localAddr)
          = routes.findIdx? (Route.Taken remoteAddr localAddr)
        ↔ Unbound remoteAddr localAddr routes)
      ∧ (Unbound remoteAddr localAddr routes → getRouteFromEntries remoteAddr localAddr routes
        = intendedCluster remoteAddr localAddr routes) := by
  have hiff : routes.findIdx? (Route.Intended remoteAddr localAddr)
      = routes.findIdx? (Route.Taken remoteAddr localAddr)
      ↔ Unbound remoteAddr localAddr routes := by
    rw [findIdx?_eq_findIdx?_iff]
    simp only [Route.intended_eq_taken_iff, Unbound]
  refine ⟨getRouteFromEntries_eq .., hiff, ?_⟩
  intro hunbound
  rw [getRouteFromEntries_eq, intendedCluster, clusterOf, clusterOf,
    List.find?_eq_bind_findIdx?_getElem?, List.find?_eq_bind_findIdx?_getElem?,
    hiff.mpr hunbound]

/-- Two sources, no destinations. -/
theorem route_intended_second : getRouteFromEntries "10.0.0.2:1" "10.0.0.9:80"
      [⟨["10.0.0.1:1"], [], "a"⟩, ⟨["10.0.0.2:1"], [], "b"⟩] = "b" := by
  refine ((route_intended _ _ _).2.2 ?_).trans (by decide)
  intro earlier r later hroutes _ _
  have hr : r ∈ earlier ++ r :: later := List.mem_append_right _ List.mem_cons_self
  rw [← hroutes] at hr
  grind

/-- **A route with the address as destination is passed over.** -/
theorem destination_passed_over :
    getRouteFromEntries "10.0.0.2:1" "10.0.0.9:80" [⟨[], ["10.0.0.9:80"], "a"⟩] = ""
      ∧ intendedCluster "10.0.0.2:1" "10.0.0.9:80" [⟨[], ["10.0.0.9:80"], "a"⟩] = "a" := by
  decide

end Mosn.TcpProxy
