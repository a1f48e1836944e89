/-
  Mosn.Server.HandOff
  **REDIRECTED CONNECTIONS** (`pkg/server/handler.go`).

  A connection that was redirected is handed to the listener with its original
  destination, or else to the one on all addresses with that port.  One loop
  looks for both and stops at the first exact match; what it met of the other
  kind by then gets the connection AS WELL:

      listeners 10.0.0.1:80, 0.0.0.0:80    owner 10.0.0.1:80
      listeners 0.0.0.0:80, 10.0.0.1:80    owners 10.0.0.1:80 and 0.0.0.0:80

    • `one_owner_iff` — one owner, the right one, unless the listener on all
      addresses comes before the exact one.
-/
import Mathlib.Data.List.TakeWhile
import Mosn.Lib.Strings

namespace Mosn.Server

open Mosn.Lib

/-- An `activeListener`, by the address that it listens on. -/
structure ActiveListener where
  listenIP : GoString
  listenPort : Int
  deriving DecidableEq

/-- `newActiveListener`: the text before the first colon and after the last. -/
def newActiveListener (localAddr : GoString) : ActiveListener :=
  let temps := Strings.split localAddr 58
  ⟨temps.headD [], (Strconv.atoi (temps.getLastD [])).1⟩

/-- The loop: the variables `listener` and `localListener`. -/
def search (originalDstIP : GoString) (originalDstPort : Int)
    (localListener : Option ActiveListener) :
    List ActiveListener → Option ActiveListener × Option ActiveListener
  | [] => (none, localListener)
  | lst :: rest =>
    if lst.listenIP = originalDstIP ∧ lst.listenPort = originalDstPort then
      (some lst, localListener)
    else
      search originalDstIP originalDstPort
        (if lst.listenPort = originalDstPort ∧ lst.listenIP = str "0.0.0.0" then some lst
          else localListener) rest

/-- `HandOffRestoredDestinationConnectionsHandler`: the listeners whose
`OnAccept` gets the connection. -/
def handOff (originalDstIP : GoString) (originalDstPort : Int) (listeners : List ActiveListener) :
    List ActiveListener :=
  let found := search originalDstIP originalDstPort none listeners
  found.1.toList ++ found.2.toList

/-- The owner that a connection should have. -/
def owner (originalDstIP : GoString) (originalDstPort : Int) (listeners : List ActiveListener) :
    List ActiveListener :=
  if ⟨originalDstIP, originalDstPort⟩ ∈ listeners then [⟨originalDstIP, originalDstPort⟩]
  else if ⟨str "0.0.0.0", originalDstPort⟩ ∈ listeners then [⟨str "0.0.0.0", originalDstPort⟩]
  else []

theorem search_eq (ip : GoString) (port : Int) (listeners : List ActiveListener) :
    ∀ localListener, search ip port localListener listeners
      = (if ⟨ip, port⟩ ∈ listeners then some ⟨ip, port⟩ else none,
        if ⟨str "0.0.0.0", port⟩ ∈ listeners.takeWhile (· ≠ ⟨ip, port⟩)
          then some ⟨str "0.0.0.0", port⟩ else localListener) := by
  induction listeners with
  | nil => simp [search]
  | cons lst rest ih =>
    intro localListener
    rw [search, ih, List.takeWhile_cons]
    obtain ⟨lip, lport⟩ := lst
    by_cases hexact : lip = ip ∧ lport = port
    · simp [hexact]
    · have hne : (⟨lip, lport⟩ : ActiveListener) ≠ ⟨ip, port⟩ := by simpa using hexact
      rw [if_neg hexact, if_pos (decide_eq_true hne)]
      grind

/-- **One owner**: the connection goes to its owner alone exactly if no
listener on all addresses with its port comes before the exact one.  Listeners
with distinct addresses are known by them. -/
theorem one_owner_iff (originalDstIP : GoString) (originalDstPort : Int) (addrs : List GoString) :
    handOff originalDstIP originalDstPort (addrs.map newActiveListener)
        = owner originalDstIP originalDstPort (addrs.map newActiveListener)
      ↔ ¬ (⟨originalDstIP, originalDstPort⟩ ∈ addrs.map newActiveListener
        ∧ ⟨str "0.0.0.0", originalDstPort⟩ ∈
          (addrs.map newActiveListener).takeWhile (· ≠ ⟨originalDstIP, originalDstPort⟩)) := by
  generalize addrs.map newActiveListener = listeners
  unfold handOff owner
  rw [search_eq]
  by_cases hexact : ⟨originalDstIP, originalDstPort⟩ ∈ listeners
  · by_cases hbefore : ⟨str "0.0.0.0", originalDstPort⟩ ∈
        listeners.takeWhile (· ≠ ⟨originalDstIP, originalDstPort⟩)
    · simp only [hexact, hbefore, if_true]
      simp
    · simp only [hexact, hbefore, if_true, if_false]
      simp
  · -- the loop goes through all listeners
    have hall : listeners.takeWhile (· ≠ ⟨originalDstIP, originalDstPort⟩) = listeners := by
      rw [List.takeWhile_eq_self_iff]
      intro lst hlst
      exact decide_eq_true (ne_of_mem_of_not_mem hlst hexact)
    rw [hall]
    by_cases hlocal : ⟨str "0.0.0.0", originalDstPort⟩ ∈ listeners <;> simp [hexact, hlocal]

/-- **Two owners.** -/
theorem two_owners :
    handOff (str "10.0.0.1") 80 ([str "0.0.0.0:80", str "10.0.0.1:80"].map newActiveListener)
      = [⟨str "10.0.0.1", 80⟩, ⟨str "0.0.0.0", 80⟩] := by
  decide +kernel

end Mosn.Server
