/-
  Mosn.Router.Domains
  **WHICH VIRTUAL HOST A REQUEST GETS.**

  The rule, for the host that the request names: the virtual host that lists
  this very domain; else the one with the longest wildcard suffix that is
  shorter than the host; else the one that lists `*`; else none (`Precedence`).

  `findVirtualHost` does the three steps in this order, but before them it asks
  whether `virtualHosts` is EMPTY, and then returns the default without a look
  at the suffixes:

      A  domains *             B  domains *.foo.com
      host a.foo.com           the rule gives B, the matcher A

  The answer depends on the tables only, and the tables hold a set of pairs.  So
  the order of the configuration does not matter, and neither does the order in
  which a map is run through.

    • `precedence_iff` — the rule is kept except for the shortcut,
    • `reordered_same` — a permutation of virtual hosts and of domains is
      accepted alike and gives every request the same route.
-/
import Mosn.Lib.FirstMatch
import Mosn.Router.Matcher
import Mosn.Router.RouteChoice

namespace Mosn.Router

open Mosn.Lib

/-! ## §1. The rule. -/

/-- A listed wildcard with a suffix of the host that is shorter than the host. -/
structure WildcardMatch (entries : List Entry) (host suffix : GoString) (vh : VirtualHostImpl) :
    Prop where
  nonempty : suffix ≠ []
  listed : (42 :: suffix, vh) ∈ entries
  isSuffix : suffix <:+ host
  shorter : suffix.length < host.length

/-- The longest of them. -/
@[local grind cases]
structure Longest (entries : List Entry) (host suffix : GoString) (vh : VirtualHostImpl) : Prop
    extends WildcardMatch entries host suffix vh where
  longest : ∀ s v, WildcardMatch entries host s v → s.length ≤ suffix.length

/-- **The virtual host that a host is due**, by the listed domains. -/
inductive Precedence (entries : List Entry) (host : GoString) : Option VirtualHostImpl → Prop where
  | exact {vh : VirtualHostImpl} (listed : (host, vh) ∈ entries) :
      Precedence entries host (some vh)
  | wildcard {suffix : GoString} {vh : VirtualHostImpl} (unlisted : ∀ v, (host, v) ∉ entries)
      (longest : Longest entries host suffix vh) : Precedence entries host (some vh)
  | default {vh : VirtualHostImpl} (unlisted : ∀ v, (host, v) ∉ entries)
      (unmatched : ∀ s v, ¬ WildcardMatch entries host s v) (listed : (star, vh) ∈ entries) :
      Precedence entries host (some vh)
  | nil (unlisted : ∀ v, (host, v) ∉ entries)
      (unmatched : ∀ s v, ¬ WildcardMatch entries host s v)
      (noDefault : ∀ v, (star, v) ∉ entries) : Precedence entries host none

variable {entries entries' : List Entry}

theorem wildcardMatch_congr
    (hsame : ∀ e, e ∈ entries ↔ e ∈ entries') (host s : GoString) (v : VirtualHostImpl) :
    WildcardMatch entries host s v ↔ WildcardMatch entries' host s v := by
  constructor
  · intro h
    exact ⟨h.nonempty, (hsame _).mp h.listed, h.isSuffix, h.shorter⟩
  · intro h
    exact ⟨h.nonempty, (hsame _).mpr h.listed, h.isSuffix, h.shorter⟩

theorem longest_congr (hsame : ∀ e, e ∈ entries ↔ e ∈ entries')
    (host s : GoString) (v : VirtualHostImpl) :
    Longest entries host s v ↔ Longest entries' host s v := by
  constructor
  · intro h
    refine ⟨(wildcardMatch_congr hsame host s v).mp h.toWildcardMatch, ?_⟩
    intro t w ht
    exact h.longest t w ((wildcardMatch_congr hsame host t w).mpr ht)
  · intro h
    refine ⟨(wildcardMatch_congr hsame host s v).mpr h.toWildcardMatch, ?_⟩
    intro t w ht
    exact h.longest t w ((wildcardMatch_congr hsame host t w).mp ht)

theorem longest_of_listed {suffix : GoString} {vh : VirtualHostImpl}
    (hne : suffix ≠ []) (h : (42 :: suffix, vh) ∈ entries) :
    Longest entries (42 :: suffix) suffix vh where
  nonempty := hne
  listed := h
  isSuffix := List.suffix_cons 42 suffix
  shorter := by simp
  longest := by
    intro s v hs
    have hlt := hs.shorter
    rw [List.length_cons] at hlt
    omega

theorem not_wildcardMatch_star (s : GoString) (v : VirtualHostImpl) :
    ¬ WildcardMatch entries star s v := by
  intro h
  have hlt := h.shorter
  have hpos := List.length_pos_iff.mpr h.nonempty
  have hone : star.length = 1 := by decide
  omega

theorem eq_star_of_not_isExact {domain : GoString} (hexact : ¬ IsExact domain)
    (hwild : ¬ IsWildcard domain) : domain = star := by
  by_contra hne
  exact hexact ⟨hne, hwild⟩

/-! ## §2. The three steps. -/

/-- One length: the suffix of the host of this length, if it is listed. -/
def suffixHost (rm : RouteMatcher) (host : GoString) (wildcardLen : Nat) : Option VirtualHostImpl :=
  if host.length ≤ wildcardLen then none
  else (rm.suffixes wildcardLen).lookup (host.drop (host.length - wildcardLen))

theorem findWildcardVirtualHost_eq (rm : RouteMatcher)
    (order : GoMap.RangeOrder GoString VirtualHostImpl) (host : GoString) :
    rm.findWildcardVirtualHost order host =
      rm.greaterSortedWildcardVirtualHostSuffixes.findSome? (suffixHost rm host) := by
  unfold RouteMatcher.findWildcardVirtualHost suffixHost
  simp only [GoMap.Listing.find?_key]

namespace Serves

variable {rm : RouteMatcher} {entries : List Entry}

variable {v w : VirtualHostImpl} {host : GoString}

theorem functional (h : Serves rm entries) {domain : GoString}
    (hv : (domain, v) ∈ entries) (hw : (domain, w) ∈ entries) : v = w := by
  have hpair := List.inj_on_of_nodup_map h.distinct hv hw rfl
  exact (Prod.mk.inj hpair).2

theorem virtualHosts_len_eq_zero_iff (h : Serves rm entries) :
    rm.virtualHosts.len = 0 ↔ ∀ e ∈ entries, ¬ IsExact e.1 := by
  rw [GoMap.len_eq_zero_iff]
  constructor
  · intro hempty e he hexact
    exact hempty e.1 (Finmap.mem_iff.mpr ⟨e.2, (h.exact_iff e.1 e.2).mpr ⟨hexact, he⟩⟩)
  · intro hnone domain hmem
    obtain ⟨vh, hvh⟩ := Finmap.mem_iff.mp hmem
    obtain ⟨hexact, hlisted⟩ := (h.exact_iff domain vh).mp hvh
    exact hnone (domain, vh) hlisted hexact

theorem suffixHost_eq_some_iff (h : Serves rm entries) (host : GoString) (wildcardLen : Nat)
    (vh : VirtualHostImpl) : suffixHost rm host wildcardLen = some vh ↔
      ∃ suffix, suffix.length = wildcardLen ∧ WildcardMatch entries host suffix vh := by
  unfold suffixHost
  constructor
  · intro hsome
    split at hsome
    next => cases hsome
    next hlen =>
      obtain ⟨hlength, hne, hlisted⟩ := (h.suffix_iff _ _ vh).mp hsome
      exact ⟨_, hlength, hne, hlisted, List.drop_suffix _ _, by omega⟩
  · intro ⟨suffix, hlength, hmatch⟩
    have hlt := hmatch.shorter
    have hdrop := List.suffix_iff_eq_drop.mp hmatch.isSuffix
    subst hlength
    rw [if_neg (by omega), ← hdrop]
    exact (h.suffix_iff _ _ vh).mpr ⟨rfl, hmatch.nonempty, hmatch.listed⟩

theorem mem_lengths_of_suffixHost (h : Serves rm entries) {wildcardLen : Nat}
    (hsome : (suffixHost rm host wildcardLen).isSome) :
    wildcardLen ∈ rm.greaterSortedWildcardVirtualHostSuffixes := by
  rw [h.mem_lengths]
  by_contra hnot
  have hempty : rm.suffixes wildcardLen = ∅ := by
    unfold RouteMatcher.suffixes
    rw [Finmap.lookup_eq_none.mpr hnot]
    rfl
  unfold suffixHost at hsome
  rw [hempty, Finmap.lookup_empty, ite_self] at hsome
  cases hsome

/-- **The second step finds the longest suffix.** -/
theorem findWildcardVirtualHost_eq_some_iff (h : Serves rm entries)
    (order : GoMap.RangeOrder GoString VirtualHostImpl) (host : GoString) (vh : VirtualHostImpl) :
    rm.findWildcardVirtualHost order host = some vh ↔
      ∃ suffix, Longest entries host suffix vh := by
  rw [findWildcardVirtualHost_eq, findSome?_eq_some_iff_of_descending _ h.descending]
  constructor
  · intro ⟨wildcardLen, _, hsome, hgreatest⟩
    obtain ⟨suffix, hlength, hmatch⟩ := (h.suffixHost_eq_some_iff host _ vh).mp hsome
    refine ⟨suffix, hmatch, ?_⟩
    intro s v hs
    have hs' : suffixHost rm host s.length = some v :=
      (h.suffixHost_eq_some_iff host _ v).mpr ⟨s, rfl, hs⟩
    have hisSome : (suffixHost rm host s.length).isSome := by rw [hs']; rfl
    rw [hlength]
    exact hgreatest _ (h.mem_lengths_of_suffixHost hisSome) hisSome
  · intro ⟨suffix, hlongest⟩
    have hsome : suffixHost rm host suffix.length = some vh :=
      (h.suffixHost_eq_some_iff host _ vh).mpr ⟨suffix, rfl, hlongest.toWildcardMatch⟩
    refine ⟨suffix.length, h.mem_lengths_of_suffixHost (by rw [hsome]; rfl), hsome, ?_⟩
    intro m _ hm
    obtain ⟨v, hv⟩ := Option.isSome_iff_exists.mp hm
    obtain ⟨s, rfl, hs⟩ := (h.suffixHost_eq_some_iff host m v).mp hv
    exact hlongest.longest s v hs

theorem findWildcardVirtualHost_eq_none_iff (h : Serves rm entries)
    (order : GoMap.RangeOrder GoString VirtualHostImpl) (host : GoString) :
    rm.findWildcardVirtualHost order host = none ↔ ∀ s v, ¬ WildcardMatch entries host s v := by
  rw [findWildcardVirtualHost_eq, List.findSome?_eq_none_iff]
  constructor
  · intro hnone s v hs
    have hsome := (h.suffixHost_eq_some_iff host _ v).mpr ⟨s, rfl, hs⟩
    rw [hnone s.length (h.mem_lengths_of_suffixHost (by rw [hsome]; rfl))] at hsome
    cases hsome
  · intro hno wildcardLen _
    apply Option.eq_none_iff_forall_ne_some.mpr
    intro v hv
    obtain ⟨s, _, hs⟩ := (h.suffixHost_eq_some_iff host wildcardLen v).mp hv
    exact hno s v hs

theorem findVirtualHost_eq (h : Serves rm entries) (lib : TextLib)
    (order : GoMap.RangeOrder GoString VirtualHostImpl) (headers : HeaderMap) :
    rm.findVirtualHost lib order headers =
      if rm.virtualHosts.len = 0 ∧ rm.defaultVirtualHost.isSome then rm.defaultVirtualHost
      else (rm.virtualHosts.lookup (RouteMatcher.requestHost lib headers)).or
        ((rm.findWildcardVirtualHost order (RouteMatcher.requestHost lib headers)).or
          rm.defaultVirtualHost) := by
  have hlengths : ¬ 0 < rm.wildcardVirtualHostSuffixes.len →
      rm.findWildcardVirtualHost order (RouteMatcher.requestHost lib headers) = none := by
    intro hlen
    have hempty := (GoMap.len_eq_zero_iff _).mp (by omega : rm.wildcardVirtualHostSuffixes.len = 0)
    have hnil : rm.greaterSortedWildcardVirtualHostSuffixes = [] := by
      apply List.eq_nil_iff_forall_not_mem.mpr
      intro n hn
      exact hempty n ((h.mem_lengths n).mp hn)
    rw [findWildcardVirtualHost_eq, hnil]
    rfl
  unfold RouteMatcher.findVirtualHost
  split
  · rfl
  · grind

theorem longest_unique (h : Serves rm entries) {s t : GoString}
    (hv : Longest entries host s v) (hw : Longest entries host t w) : v = w := by
  have hfind := (h.findWildcardVirtualHost_eq_some_iff GoMap.someOrder host v).mpr ⟨s, hv⟩
  rw [(h.findWildcardVirtualHost_eq_some_iff GoMap.someOrder host w).mpr ⟨t, hw⟩] at hfind
  exact (Option.some.inj hfind).symm

theorem lookup_eq_none (h : Serves rm entries)
    (hnone : ∀ v, (host, v) ∈ entries → ¬ IsExact host) : rm.virtualHosts.lookup host = none := by
  apply Option.eq_none_iff_forall_ne_some.mpr
  intro w hw
  obtain ⟨hexact, hlisted⟩ := (h.exact_iff host w).mp hw
  exact hnone w hlisted hexact

theorem steps_of_listed (h : Serves rm entries) (order : GoMap.RangeOrder GoString VirtualHostImpl)
    (hv : (host, v) ∈ entries) : (rm.virtualHosts.lookup host).or
      ((rm.findWildcardVirtualHost order host).or rm.defaultVirtualHost) = some v := by
  by_cases hexact : IsExact host
  · rw [(h.exact_iff host v).mpr ⟨hexact, hv⟩, Option.some_or]
  rw [h.lookup_eq_none fun _ _ => hexact, Option.none_or]
  by_cases hwild : IsWildcard host
  · obtain ⟨suffix, hne, rfl⟩ := (isWildcard_iff host).mp hwild
    rw [(h.findWildcardVirtualHost_eq_some_iff order _ v).mpr
      ⟨suffix, longest_of_listed hne hv⟩, Option.some_or]
  · obtain rfl := eq_star_of_not_isExact hexact hwild
    rw [(h.findWildcardVirtualHost_eq_none_iff order star).mpr not_wildcardMatch_star,
      Option.none_or]
    exact (h.default_iff v).mpr hv

theorem precedence_steps (h : Serves rm entries)
    (order : GoMap.RangeOrder GoString VirtualHostImpl) (host : GoString) :
    Precedence entries host ((rm.virtualHosts.lookup host).or
      ((rm.findWildcardVirtualHost order host).or rm.defaultVirtualHost)) := by
  by_cases hlisted : ∃ v, (host, v) ∈ entries
  · obtain ⟨v, hv⟩ := hlisted
    rw [h.steps_of_listed order hv]
    exact .exact hv
  · have hunlisted : ∀ v, (host, v) ∉ entries := fun v hv => hlisted ⟨v, hv⟩
    rw [h.lookup_eq_none fun v hv => absurd hv (hunlisted v), Option.none_or]
    cases hfind : rm.findWildcardVirtualHost order host with
    | some v =>
      obtain ⟨suffix, hlongest⟩ := (h.findWildcardVirtualHost_eq_some_iff order host v).mp hfind
      exact .wildcard hunlisted hlongest
    | none =>
      have hunmatched := (h.findWildcardVirtualHost_eq_none_iff order host).mp hfind
      rw [Option.none_or]
      cases hdefault : rm.defaultVirtualHost with
      | some v => exact .default hunlisted hunmatched ((h.default_iff v).mp hdefault)
      | none =>
        apply Precedence.nil hunlisted hunmatched
        intro v hv
        rw [(h.default_iff v).mpr hv] at hdefault
        cases hdefault

theorem precedence_default_iff (h : Serves rm entries) {d : VirtualHostImpl}
    (hd : (star, d) ∈ entries) (hnone : ∀ e ∈ entries, ¬ IsExact e.1) (host : GoString) :
    Precedence entries host (some d) ↔ ∀ suffix v, Longest entries host suffix v → v = d := by
  constructor
  · intro hprec suffix v hlongest
    cases hprec with
    | exact hlisted =>
      -- a listed host is not exact, and `*` has no shorter suffix
      by_cases hwild : IsWildcard host
      · obtain ⟨s, hne, rfl⟩ := (isWildcard_iff host).mp hwild
        exact h.longest_unique hlongest (longest_of_listed hne hlisted)
      · grind [eq_star_of_not_isExact, not_wildcardMatch_star]
    | wildcard _ hlongest' => exact h.longest_unique hlongest hlongest'
    | default _ hunmatched _ => exact absurd hlongest.toWildcardMatch (hunmatched suffix v)
  · intro hall
    -- what the steps give is due; it is the default in each of them
    have hsteps := h.precedence_steps GoMap.someOrder host
    rw [h.lookup_eq_none fun v hv => hnone (host, v) hv, Option.none_or,
      (h.default_iff d).mpr hd] at hsteps
    cases hfind : rm.findWildcardVirtualHost GoMap.someOrder host with
    | none =>
      rw [hfind] at hsteps
      exact hsteps
    | some v =>
      obtain ⟨suffix, hlongest⟩ :=
        (h.findWildcardVirtualHost_eq_some_iff GoMap.someOrder host v).mp hfind
      rw [hfind, hall suffix v hlongest] at hsteps
      exact hsteps

end Serves

/-! ## §3. Precedence. -/

/-- **`findVirtualHost` follows the rule** for a configuration that is accepted
and a request, exactly if the shortcut does no harm: there is a domain without a
wildcard, or no default, or the default is the longest match too, or nothing
else matches. -/
theorem precedence_iff (lib : TextLib)
    (order : GoMap.RangeOrder Nat (GoMap GoString VirtualHostImpl))
    (virtualHosts : List (Option VirtualHost)) (rm : RouteMatcher)
    (hrm : newRouteMatcher lib order (.proxy virtualHosts) = .ok rm)
    (order' : GoMap.RangeOrder GoString VirtualHostImpl) (headers : HeaderMap) :
    Precedence (domainEntries lib virtualHosts) (RouteMatcher.requestHost lib headers)
        (rm.findVirtualHost lib order' headers) ↔
      ((∀ e ∈ domainEntries lib virtualHosts, ¬ IsExact e.1) →
        ∀ d, (star, d) ∈ domainEntries lib virtualHosts → ∀ suffix v,
          Longest (domainEntries lib virtualHosts) (RouteMatcher.requestHost lib headers) suffix v →
            v = d) := by
  have h := serves_newRouteMatcher hrm
  rw [h.findVirtualHost_eq]
  by_cases hshort : rm.virtualHosts.len = 0 ∧ rm.defaultVirtualHost.isSome
  · rw [if_pos hshort]
    obtain ⟨hempty, hsome⟩ := hshort
    have hnone := h.virtualHosts_len_eq_zero_iff.mp hempty
    obtain ⟨d, hd⟩ := Option.isSome_iff_exists.mp hsome
    have hlisted := (h.default_iff d).mp hd
    rw [hd, h.precedence_default_iff hlisted hnone]
    constructor
    · intro hall _ d' hd' suffix v hlongest
      rw [hall suffix v hlongest, h.functional hlisted hd']
    · intro hall
      exact hall hnone d hlisted
  · rw [if_neg hshort]
    constructor
    · intro _ hnone d hd
      -- then the shortcut would have been taken
      refine absurd ⟨h.virtualHosts_len_eq_zero_iff.mpr hnone, ?_⟩ hshort
      rw [(h.default_iff d).mpr hd]
      rfl
    · intro _
      exact h.precedence_steps order' _

def hostRequest (host : String) : HeaderMap := (∅ : HeaderMap).insert hostKey (str host)

/-- A virtual host with one route for every path. -/
def domainHost (object : Nat) (domains : List String) : VirtualHost :=
  ⟨object, str "host", domains.map str, [targetRoute ⟨str "/", [], [], false, []⟩]⟩

/-- What `NewVirtualHostImpl` makes of it. -/
def domainImpl (object : Nat) : VirtualHostImpl :=
  ⟨object, str "host",
    [.pathPrefix ⟨0, ⟨str "/", [], [], false, []⟩, ⟨str "cluster", []⟩, false, [], []⟩ (str "/")]⟩

theorem builds_domainHost (object : Nat) (domains : List String) :
    Builds asciiText (some (domainHost object domains)) (domainImpl object) := ⟨_, rfl, rfl⟩

theorem accepted_domainHosts (order : GoMap.RangeOrder Nat (GoMap GoString VirtualHostImpl))
    (hosts : List (Nat × List String))
    (h : Distinct (domainEntries asciiText (hosts.map fun p => some (domainHost p.1 p.2)))) :
    ∃ rm, newRouteMatcher asciiText order
      (.proxy (hosts.map fun p => some (domainHost p.1 p.2))) = .ok rm := by
  apply (accepted_iff asciiText order _).mpr
  grind [builds_domainHost]

/-- A domain of each form. -/
def threeHosts : List (Option VirtualHost) :=
  [some (domainHost 0 ["foo.com"]), some (domainHost 1 ["*.foo.com"]), some (domainHost 2 ["*"])]

theorem precedence_threeHosts :
    ∃ rm, newRouteMatcher asciiText GoMap.someOrder (.proxy threeHosts) = .ok rm ∧
      Precedence (domainEntries asciiText threeHosts)
        (RouteMatcher.requestHost asciiText (hostRequest "a.foo.com"))
        (rm.findVirtualHost asciiText GoMap.someOrder (hostRequest "a.foo.com")) := by
  have hdistinct : ([str "foo.com", str "*.foo.com", str "*"]).Nodup := by decide
  obtain ⟨rm, hrm⟩ := accepted_domainHosts GoMap.someOrder
    [(0, ["foo.com"]), (1, ["*.foo.com"]), (2, ["*"])] hdistinct
  refine ⟨rm, hrm, ?_⟩
  apply (precedence_iff asciiText GoMap.someOrder threeHosts rm hrm GoMap.someOrder
    (hostRequest "a.foo.com")).mpr
  intro hnone
  have hexact : IsExact (str "foo.com") := ⟨by decide, by decide⟩
  exact absurd hexact (hnone (str "foo.com", domainImpl 0) List.mem_cons_self)

/-- The default and a wildcard, and no domain without one. -/
def shadowingHosts : List (Option VirtualHost) :=
  [some (domainHost 0 ["*"]), some (domainHost 1 ["*.foo.com"])]

/-- The default takes a request that the wildcard matches. -/
theorem wildcard_shadowed :
    ∃ rm, newRouteMatcher asciiText GoMap.someOrder (.proxy shadowingHosts) = .ok rm ∧
      (rm.findVirtualHost asciiText GoMap.someOrder (hostRequest "a.foo.com")).map (·.object) =
        some 0 ∧
      ¬ Precedence (domainEntries asciiText shadowingHosts)
        (RouteMatcher.requestHost asciiText (hostRequest "a.foo.com"))
        (rm.findVirtualHost asciiText GoMap.someOrder (hostRequest "a.foo.com")) := by
  have hentries : domainEntries asciiText shadowingHosts =
      [(star, domainImpl 0), (str "*.foo.com", domainImpl 1)] := rfl
  have hhost : RouteMatcher.requestHost asciiText (hostRequest "a.foo.com") = str "a.foo.com" := by
    decide
  have hmatch : WildcardMatch (domainEntries asciiText shadowingHosts) (str "a.foo.com")
      (str ".foo.com") (domainImpl 1) :=
    ⟨by decide, by rw [hentries]; exact List.mem_cons_of_mem _ List.mem_cons_self,
      ⟨str "a", by decide⟩, by decide⟩
  refine ⟨_, rfl, rfl, ?_⟩
  rw [hhost]
  show ¬ Precedence (domainEntries asciiText shadowingHosts) (str "a.foo.com")
    (some (domainImpl 0))
  intro hprec
  cases hprec with
  | exact hlisted =>
    rw [hentries] at hlisted
    have hfst := List.mem_map_of_mem (f := Prod.fst) hlisted
    revert hfst
    decide
  | wildcard _ hlongest =>
    have hlisted := hlongest.listed
    rw [hentries] at hlisted
    rcases List.mem_cons.mp hlisted with heq | hlisted
    · exact hlongest.nonempty (List.cons.inj (Prod.mk.inj heq).1).2
    · have hobject : (0 : Nat) = 1 := congrArg (fun e : Entry => e.2.object)
        (List.mem_singleton.mp hlisted)
      cases hobject
  | default _ hunmatched _ => exact hunmatched _ _ hmatch

/-! ## §4. The order of the configuration. -/

/-- One virtual host with its domains in some order. -/
structure SameButOrder (virtualHost virtualHost' : VirtualHost) : Prop where
  object_eq : virtualHost.object = virtualHost'.object
  name_eq : virtualHost.name = virtualHost'.name
  routers_eq : virtualHost.routers = virtualHost'.routers
  domains_perm : virtualHost.domains.Perm virtualHost'.domains

/-- A permutation of the virtual hosts, and of the domains inside each. -/
def Reordered (virtualHosts virtualHosts' : List (Option VirtualHost)) : Prop :=
  ∃ between, List.Forall₂ (Option.Rel SameButOrder) virtualHosts between ∧
    between.Perm virtualHosts'

theorem SameButOrder.newVirtualHostImpl_eq {virtualHost virtualHost' : VirtualHost}
    (h : SameButOrder virtualHost virtualHost') (lib : TextLib) :
    newVirtualHostImpl lib virtualHost = newVirtualHostImpl lib virtualHost' := by
  simp only [newVirtualHostImpl, h.object_eq, h.name_eq, h.routers_eq]

variable {v v' : Option VirtualHost} {virtualHosts virtualHosts' : List (Option VirtualHost)}

theorem builds_congr (h : Option.Rel SameButOrder v v')
    (lib : TextLib) (vh : VirtualHostImpl) : Builds lib v vh ↔ Builds lib v' vh := by
  cases h with
  | none => exact Iff.rfl
  | some hsame =>
    simp only [Builds, Option.some.injEq, exists_eq_left', hsame.newVirtualHostImpl_eq lib]

theorem entriesOf_perm (h : Option.Rel SameButOrder v v')
    (lib : TextLib) : (entriesOf lib v).Perm (entriesOf lib v') := by
  cases h with
  | none => exact List.Perm.refl _
  | some hsame =>
    unfold entriesOf
    simp only [hsame.newVirtualHostImpl_eq lib]
    split
    · exact List.Perm.refl _
    · exact hsame.domains_perm.map _

theorem Reordered.builds_iff (h : Reordered virtualHosts virtualHosts') (lib : TextLib) :
    (∀ v ∈ virtualHosts, ∃ vh, Builds lib v vh) ↔ ∀ v ∈ virtualHosts', ∃ vh, Builds lib v vh := by
  obtain ⟨between, hsame, hperm⟩ := h
  have hbetween : (∀ v ∈ between, ∃ vh, Builds lib v vh) ↔
      ∀ v ∈ virtualHosts', ∃ vh, Builds lib v vh := by
    grind
  rw [← hbetween]
  clear hperm hbetween
  induction hsame with
  | nil => exact Iff.rfl
  | cons hhead _ ih =>
    simp only [List.forall_mem_cons, ih, builds_congr hhead lib]

theorem Reordered.domainEntries_perm (h : Reordered virtualHosts virtualHosts') (lib : TextLib) :
    (domainEntries lib virtualHosts).Perm (domainEntries lib virtualHosts') := by
  obtain ⟨between, hsame, hperm⟩ := h
  refine List.Perm.trans ?_ (hperm.flatMap_right (entriesOf lib))
  clear hperm
  induction hsame with
  | nil => exact List.Perm.refl _
  | cons hhead _ ih => exact (entriesOf_perm hhead lib).append ih

theorem Serves.findVirtualHost_congr {rm rm' : RouteMatcher} {entries entries' : List Entry}
    (h : Serves rm entries) (h' : Serves rm' entries') (hsame : ∀ e, e ∈ entries ↔ e ∈ entries')
    (lib : TextLib) (order order' : GoMap.RangeOrder GoString VirtualHostImpl)
    (headers : HeaderMap) :
    rm.findVirtualHost lib order headers = rm'.findVirtualHost lib order' headers := by
  have hdefault : rm.defaultVirtualHost = rm'.defaultVirtualHost := by
    apply Option.ext
    intro vh
    rw [h.default_iff, h'.default_iff, hsame]
  have hexact : ∀ host, rm.virtualHosts.lookup host = rm'.virtualHosts.lookup host := by
    intro host
    apply Option.ext
    intro vh
    rw [h.exact_iff, h'.exact_iff, hsame]
  have hwildcard : ∀ host, rm.findWildcardVirtualHost order host =
      rm'.findWildcardVirtualHost order' host := by
    intro host
    apply Option.ext
    intro vh
    simp only [h.findWildcardVirtualHost_eq_some_iff, h'.findWildcardVirtualHost_eq_some_iff,
      longest_congr hsame]
  have hlen : rm.virtualHosts.len = 0 ↔ rm'.virtualHosts.len = 0 := by
    rw [h.virtualHosts_len_eq_zero_iff, h'.virtualHosts_len_eq_zero_iff]
    simp only [hsame]
  rw [h.findVirtualHost_eq, h'.findVirtualHost_eq, hdefault, hexact, hwildcard]
  simp only [hlen]

/-- **The order of the configuration is irrelevant**: a permutation is accepted
exactly if the configuration is, and every request gets the same virtual host
and the same route of it, whatever the orders in which the maps are run
through. -/
theorem reordered_same (lib : TextLib) (virtualHosts virtualHosts' : List (Option VirtualHost))
    (h : Reordered virtualHosts virtualHosts')
    (order order' : GoMap.RangeOrder Nat (GoMap GoString VirtualHostImpl)) :
    ((∃ rm, newRouteMatcher lib order (.proxy virtualHosts) = .ok rm) ↔
      ∃ rm', newRouteMatcher lib order' (.proxy virtualHosts') = .ok rm') ∧
    ∀ rm rm', newRouteMatcher lib order (.proxy virtualHosts) = .ok rm →
      newRouteMatcher lib order' (.proxy virtualHosts') = .ok rm' →
      ∀ (o o' : GoMap.RangeOrder GoString VirtualHostImpl) (headers : HeaderMap),
        rm.findVirtualHost lib o headers = rm'.findVirtualHost lib o' headers ∧
        rm.route lib o headers = rm'.route lib o' headers := by
  have hperm := h.domainEntries_perm lib
  constructor
  · rw [accepted_iff, accepted_iff, h.builds_iff lib]
    unfold Distinct
    rw [(hperm.map Prod.fst).nodup_iff]
  · intro rm rm' hrm hrm' o o' headers
    have hhost := (serves_newRouteMatcher hrm).findVirtualHost_congr
      (serves_newRouteMatcher hrm') (fun _ => hperm.mem_iff) lib o o' headers
    refine ⟨hhost, ?_⟩
    unfold RouteMatcher.route
    rw [hhost]

def twoHosts : List (Option VirtualHost) :=
  [some (domainHost 0 ["a.com", "*.a.com"]), some (domainHost 1 ["*"])]

def twoHostsSwapped : List (Option VirtualHost) :=
  [some (domainHost 1 ["*"]), some (domainHost 0 ["*.a.com", "a.com"])]

theorem reordered_twoHosts : Reordered twoHosts twoHostsSwapped := by
  refine ⟨[some (domainHost 0 ["*.a.com", "a.com"]), some (domainHost 1 ["*"])], ?_, ?_⟩
  · refine .cons (.some ⟨rfl, rfl, rfl, ?_⟩) (.cons (.some ⟨rfl, rfl, rfl, .refl _⟩) .nil)
    exact List.Perm.swap _ _ _
  · exact List.Perm.swap _ _ _

theorem reordered_same_twoHosts :
    ∃ rm rm', newRouteMatcher asciiText GoMap.someOrder (.proxy twoHosts) = .ok rm ∧
      newRouteMatcher asciiText GoMap.someOrder (.proxy twoHostsSwapped) = .ok rm' ∧
      rm.route asciiText GoMap.someOrder (hostRequest "b.a.com") =
        rm'.route asciiText GoMap.someOrder (hostRequest "b.a.com") := by
  have hsame := reordered_same asciiText twoHosts twoHostsSwapped reordered_twoHosts
    GoMap.someOrder GoMap.someOrder
  have hdistinct : ([str "a.com", str "*.a.com", str "*"]).Nodup := by decide
  obtain ⟨rm, hrm⟩ := accepted_domainHosts GoMap.someOrder
    [(0, ["a.com", "*.a.com"]), (1, ["*"])] hdistinct
  obtain ⟨rm', hrm'⟩ := hsame.1.mp ⟨rm, hrm⟩
  exact ⟨rm, rm', hrm, hrm', (hsame.2 rm rm' hrm hrm' _ _ _).2⟩

end Mosn.Router
