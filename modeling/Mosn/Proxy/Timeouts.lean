/-
  Mosn.Proxy.Timeouts
  **THE TIMERS OF A REQUEST** (`pkg/proxy/util.go`, `pkg/proxy/downstream.go`).

  The route, or a header of the request, gives a global timeout and one for a
  single try; a try timeout that is not below the global one is dropped.  Both
  are durations.  The response timer gets the global one as it is, the per-try
  timer gets its own times `time.Second`, with 64 bits:

      TryTimeout 3000 (ns)      per-try timer 3000 s
      TryTimeout 2^55 (ns)      per-try timer 0

    • `perTry_sane_iff` — the per-try timer is never right: it is as it should
      be exactly if it is not started.
-/
import Mosn.Protocol.SofaRpc.Types
import Mosn.Types.Exception

namespace Mosn.Proxy

open Mosn.Lib Mosn.Types Mosn.Protocol.SofaRpc

/-- A `Timeout` of the proxy, and what a route gives. -/
structure Timeout where
  globalTimeout : Int64
  tryTimeout : Int64

/-- A timeout from the header `key`, if it is a number of 64 bits. -/
def headerTimeout (headers : HeaderMap) (key : GoString) (timeout : Int64) : Int64 :=
  match headers.lookup key with
  | some text =>
    let parsed := Strconv.parseInt text 64
    if parsed.2 = none then Int64.ofInt parsed.1 else timeout
  | none => timeout

/-- `parseProxyTimeout`. -/
def parseProxyTimeout (route : Timeout) (headers : HeaderMap) : Timeout :=
  let tryTimeout := headerTimeout headers headerTryTimeout route.tryTimeout
  let globalTimeout := headerTimeout headers headerGlobalTimeout route.globalTimeout
  if globalTimeout ≤ tryTimeout then ⟨globalTimeout, 0⟩ else ⟨globalTimeout, tryTimeout⟩

/-- What is done with the timers of a stream. -/
inductive TimerCall where
  | stopPerRetry
  | startPerRetry (interval : Int64)
  | stopResponse
  | startResponse (interval : Int64)
  deriving DecidableEq

/-- The timers that a stream has. -/
structure HasTimers where
  perRetryTimer : Bool
  responseTimer : Bool

/-- `setupPerReqTimeout`. -/
def setupPerReqTimeout (has : HasTimers) (timeout : Timeout) : List TimerCall :=
  if 0 < timeout.tryTimeout then
    (if has.perRetryTimer then [.stopPerRetry] else [])
      ++ [.startPerRetry (timeout.tryTimeout * 1000000000)]
  else []

/-- `onUpstreamRequestSent`. -/
def onUpstreamRequestSent (upstreamRequest : Bool) (has : HasTimers) (timeout : Timeout) :
    List TimerCall :=
  if upstreamRequest then
    setupPerReqTimeout has timeout
      ++ if 0 < timeout.globalTimeout then
        (if has.responseTimer then [.stopResponse] else [])
          ++ [.startResponse timeout.globalTimeout]
      else []
  else []

/-- A per-try timer runs for the try timeout, which is positive and below the
interval of the response timer that is started with it. -/
def Sane (timeout : Timeout) (calls : List TimerCall) : Prop :=
  ∀ interval, TimerCall.startPerRetry interval ∈ calls →
    0 < interval ∧ interval = timeout.tryTimeout
      ∧ ∃ g, TimerCall.startResponse g ∈ calls ∧ interval < g

theorem mem_startPerRetry {upstreamRequest : Bool} {has : HasTimers} {timeout : Timeout}
    {interval : Int64} :
    TimerCall.startPerRetry interval ∈ onUpstreamRequestSent upstreamRequest has timeout ↔
      upstreamRequest = true ∧ 0 < timeout.tryTimeout
        ∧ interval = timeout.tryTimeout * 1000000000 := by
  unfold onUpstreamRequestSent setupPerReqTimeout
  grind

/-- Scaling changes every duration but zero: the factor less one is odd, so it
has an inverse. -/
theorem scaled_ne {d : Int64} (hd : 0 < d) : d * 1000000000 ≠ d := by
  intro h
  have hzero : d = d * 1000000000 * (-9106126717344205313) - d * (-9106126717344205313) := by grind
  rw [h, Int64.sub_self] at hzero
  rw [hzero] at hd
  exact absurd hd (by decide)

/-- **Per-try timers**: what a request arms is as it should be exactly if no
per-try timer is armed, because there is no upstream request, or no positive
try timeout below the global one. -/
theorem perTry_sane_iff (route : Timeout) (headers : HeaderMap) (upstreamRequest : Bool)
    (has : HasTimers) : Sane (parseProxyTimeout route headers)
        (onUpstreamRequestSent upstreamRequest has (parseProxyTimeout route headers))
      ↔ upstreamRequest = false ∨ headerTimeout headers headerTryTimeout route.tryTimeout ≤ 0
        ∨ headerTimeout headers headerGlobalTimeout route.globalTimeout
          ≤ headerTimeout headers headerTryTimeout route.tryTimeout := by
  have hnot : Sane (parseProxyTimeout route headers)
        (onUpstreamRequestSent upstreamRequest has (parseProxyTimeout route headers))
      ↔ ¬ (upstreamRequest = true ∧ 0 < (parseProxyTimeout route headers).tryTimeout) := by
    constructor
    · rintro hsane ⟨hupstream, hpos⟩
      obtain ⟨-, hequal, -⟩ := hsane _ (mem_startPerRetry.mpr ⟨hupstream, hpos, rfl⟩)
      exact scaled_ne hpos hequal
    · intro hnone interval hmem
      obtain ⟨hupstream, hpos, -⟩ := mem_startPerRetry.mp hmem
      exact absurd ⟨hupstream, hpos⟩ hnone
  rw [hnot]
  unfold parseProxyTimeout
  by_cases hle : headerTimeout headers headerGlobalTimeout route.globalTimeout
      ≤ headerTimeout headers headerTryTimeout route.tryTimeout
  · simp [hle]
  · simp [hle, Int64.not_lt]
    grind

/-- **A request with a timeout of 3000 in its header**, on a route with one
minute: the single try gets 3000 seconds. -/
theorem perTry_scaled : onUpstreamRequestSent true ⟨false, false⟩
        (parseProxyTimeout ⟨60000000000, 0⟩ ((∅ : HeaderMap).insert headerTryTimeout (str "3000")))
      = [.startPerRetry 3000000000000, .startResponse 60000000000] := by
  decide +kernel

end Mosn.Proxy
