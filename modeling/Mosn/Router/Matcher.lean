/-
  Mosn.Router.Matcher
  **THE TABLES OF THE ROUTE MATCHER** (`pkg/router/routematcher.go`).

  `NewRouteMatcher` files every domain of every virtual host, in lower case, in
  one of three tables:

      "*"            defaultVirtualHost
      "*.foo.com"    wildcardVirtualHostSuffixes[8][".foo.com"]
      anything else  virtualHosts

  and refuses a domain that is there already.  What the tables hold is therefore
  a function from domains to virtual hosts, and `Stores rm entries` says that it
  is the one that the list `entries` gives.
-/
import Mosn.Router.Rules
import Mathlib.Data.List.Nodup

namespace Mosn.Router

open Mosn.Lib

/-! ## §1. The code. -/

/-- The argument of `NewRouteMatcher`: a `*v2.Proxy`, nil or not, with pointers
to virtual hosts; or something else. -/
inductive MatcherConfig where
  | proxy (virtualHosts : List (Option VirtualHost))
  | nilProxy
  | other

/-- `protocol.MosnHeaderHostKey`. -/
def hostKey : GoString := str "host"

/-- `routeMatcher`. -/
structure RouteMatcher where
  virtualHosts : GoMap GoString VirtualHostImpl
  defaultVirtualHost : Option VirtualHostImpl
  wildcardVirtualHostSuffixes : GoMap Nat (GoMap GoString VirtualHostImpl)
  greaterSortedWildcardVirtualHostSuffixes : List Nat

/-- The domain that stands for every host. -/
def star : GoString := str "*"

/-- A domain such as `*.foo.com`. -/
def IsWildcard (domain : GoString) : Prop := 1 < domain.length ∧ domain.take 1 = star

instance (domain : GoString) : Decidable (IsWildcard domain) :=
  inferInstanceAs (Decidable (_ ∧ _))

def duplicateDomain (domain : GoString) : Stop :=
  .error (str "Only unique values for domains are permitted, get duplicate domain = " ++ domain)

namespace RouteMatcher

def empty : RouteMatcher := ⟨∅, none, ∅, []⟩

/-- The virtual hosts under the suffixes of one length; nil if there are none. -/
def suffixes (rm : RouteMatcher) (wildcardLen : Nat) : GoMap GoString VirtualHostImpl :=
  (rm.wildcardVirtualHostSuffixes.lookup wildcardLen).getD ∅

/-- The body of the loop over the domains, for a domain in lower case. -/
def addDomain (vh : VirtualHostImpl) (rm : RouteMatcher) (domain : GoString) :
    Except Stop RouteMatcher :=
  if domain = star then
    if rm.defaultVirtualHost.isSome then
      .error (.error (str "Only a single wildcard domain permitted"))
    else .ok { rm with defaultVirtualHost := some vh }
  else if IsWildcard domain then
    let m := rm.suffixes (domain.length - 1)
    if domain.drop 1 ∈ m then .error (duplicateDomain domain)
    else .ok { rm with
      wildcardVirtualHostSuffixes :=
        rm.wildcardVirtualHostSuffixes.insert (domain.length - 1) (m.insert (domain.drop 1) vh) }
  else if domain ∈ rm.virtualHosts then .error (duplicateDomain domain)
  else .ok { rm with virtualHosts := rm.virtualHosts.insert domain vh }

/-- The loop over the domains of a virtual host. -/
def addDomains (lib : TextLib) (vh : VirtualHostImpl) (rm : RouteMatcher)
    (domains : List GoString) : Except Stop RouteMatcher :=
  domains.foldlM (fun rm domain => rm.addDomain vh (Strings.toLower lib domain)) rm

/-- The loop over the virtual hosts.  A nil pointer panics in
`NewVirtualHostImpl`. -/
def addVirtualHosts (lib : TextLib) : RouteMatcher → List (Option VirtualHost) →
    Except Stop RouteMatcher
  | rm, [] => .ok rm
  | _, none :: _ => .error .panic
  | rm, some virtualHost :: virtualHosts => do
    let vh ← newVirtualHostImpl lib virtualHost
    let rm ← rm.addDomains lib vh virtualHost.domains
    addVirtualHosts lib rm virtualHosts

/-- `findWildcardVirtualHost`, from the longest suffixes down. -/
def findWildcardVirtualHost (rm : RouteMatcher) (order : GoMap.RangeOrder GoString VirtualHostImpl)
    (host : GoString) : Option VirtualHostImpl :=
  rm.greaterSortedWildcardVirtualHostSuffixes.findSome? fun wildcardLen =>
    if host.length ≤ wildcardLen then none
    else ((order (rm.suffixes wildcardLen)).entries.find? fun entry =>
      entry.1 = host.drop (host.length - wildcardLen)).map Prod.snd

/-- The host that a request asks for. -/
def requestHost (lib : TextLib) (headers : HeaderMap) : GoString :=
  Strings.toLower lib ((headers.lookup (Strings.toLower lib hostKey)).getD [])

/-- `findVirtualHost`. -/
def findVirtualHost (lib : TextLib) (rm : RouteMatcher)
    (order : GoMap.RangeOrder GoString VirtualHostImpl) (headers : HeaderMap) :
    Option VirtualHostImpl :=
  if rm.virtualHosts.len = 0 ∧ rm.defaultVirtualHost.isSome then rm.defaultVirtualHost
  else
    match rm.virtualHosts.lookup (requestHost lib headers) with
    | some virtualHost => some virtualHost
    | none =>
      if 0 < rm.wildcardVirtualHostSuffixes.len then
        match rm.findWildcardVirtualHost order (requestHost lib headers) with
        | some vhost => some vhost
        | none => rm.defaultVirtualHost
      else rm.defaultVirtualHost

/-- `Route`. -/
def route (lib : TextLib) (rm : RouteMatcher) (order : GoMap.RangeOrder GoString VirtualHostImpl)
    (headers : HeaderMap) : Option RouteRule :=
  (rm.findVirtualHost lib order headers).bind (·.getRouteFromEntries lib headers)

end RouteMatcher

/-- `NewRouteMatcher`.  The lengths are collected by a range loop and sorted. -/
def newRouteMatcher (lib : TextLib)
    (order : GoMap.RangeOrder Nat (GoMap GoString VirtualHostImpl)) :
    MatcherConfig → Except Stop RouteMatcher
  | .other => .error (.error (str "NewRouteMatcher failure: config is not in type of *v2.Proxy"))
  | .nilProxy => .error .panic
  | .proxy virtualHosts => do
    let rm ← RouteMatcher.empty.addVirtualHosts lib virtualHosts
    return { rm with
      greaterSortedWildcardVirtualHostSuffixes :=
        ((order rm.wildcardVirtualHostSuffixes).entries.map Prod.fst).mergeSort
          fun a b => decide (b ≤ a) }

/-! ## §2. The three forms of a domain. -/

theorem isWildcard_iff (domain : GoString) :
    IsWildcard domain ↔ ∃ suffix, suffix ≠ [] ∧ domain = 42 :: suffix := by
  have hstar : star = [42] := by decide
  unfold IsWildcard
  rw [hstar]
  constructor
  · intro ⟨hlen, htake⟩
    cases domain with
    | nil => simp at hlen
    | cons b suffix => grind
  · grind [List.length_pos_iff]

/-- A domain that only equality matches. -/
@[local grind]
def IsExact (domain : GoString) : Prop := domain ≠ star ∧ ¬ IsWildcard domain

theorem not_isWildcard_star : ¬ IsWildcard star := by decide

/-! ## §3. What the tables hold. -/

abbrev Entry := GoString × VirtualHostImpl

/-- The tables hold the listed domains, each in the table of its form. -/
@[local grind cases]
structure Stores (rm : RouteMatcher) (entries : List Entry) : Prop where
  default_iff : ∀ vh, rm.defaultVirtualHost = some vh ↔ (star, vh) ∈ entries
  exact_iff : ∀ domain vh, rm.virtualHosts.lookup domain = some vh ↔
    IsExact domain ∧ (domain, vh) ∈ entries
  suffix_iff : ∀ wildcardLen suffix vh, (rm.suffixes wildcardLen).lookup suffix = some vh ↔
    suffix.length = wildcardLen ∧ suffix ≠ [] ∧ (42 :: suffix, vh) ∈ entries

theorem stores_empty : Stores RouteMatcher.empty [] := by
  constructor <;> simp [RouteMatcher.empty, RouteMatcher.suffixes]

theorem mem_snoc_iff (entries : List Entry) (domain domain' : GoString) (vh vh' : VirtualHostImpl) :
    (domain', vh') ∈ entries ++ [(domain, vh)] ↔
      (domain', vh') ∈ entries ∨ (domain' = domain ∧ vh' = vh) := by
  simp

namespace Stores

variable {rm : RouteMatcher} {entries : List Entry}

theorem setDefault (h : Stores rm entries) (vh : VirtualHostImpl)
    (hnew : ∀ v, (star, v) ∉ entries) :
    Stores { rm with defaultVirtualHost := some vh } (entries ++ [(star, vh)]) where
  default_iff := by grind
  exact_iff := by
    intro domain v
    rw [mem_snoc_iff]
    show rm.virtualHosts.lookup domain = some v ↔ _
    rw [h.exact_iff]
    have hform : IsExact domain → domain ≠ star := And.left
    tauto
  suffix_iff := by
    intro wildcardLen suffix v
    rw [mem_snoc_iff]
    show (rm.suffixes wildcardLen).lookup suffix = some v ↔ _
    grind [not_isWildcard_star, isWildcard_iff]

theorem insertSuffix (h : Stores rm entries) (vh : VirtualHostImpl) {suffix : GoString}
    (hne : suffix ≠ []) (hnew : ∀ v, (42 :: suffix, v) ∉ entries) : Stores { rm with
      wildcardVirtualHostSuffixes := rm.wildcardVirtualHostSuffixes.insert suffix.length
        ((rm.suffixes suffix.length).insert suffix vh) } (entries ++ [(42 :: suffix, vh)]) where
  default_iff := by grind [mem_snoc_iff, not_isWildcard_star, isWildcard_iff]
  exact_iff := by
    intro domain v
    rw [mem_snoc_iff]
    show rm.virtualHosts.lookup domain = some v ↔ _
    rw [h.exact_iff]
    have hform : IsExact domain → domain ≠ 42 :: suffix := by
      intro hexact heq
      exact hexact.2 ((isWildcard_iff _).mpr ⟨suffix, hne, heq⟩)
    tauto
  suffix_iff := by
    intro wildcardLen t v
    rw [mem_snoc_iff]
    have hold := h.suffix_iff wildcardLen t v
    unfold RouteMatcher.suffixes at hold ⊢
    rw [GoMap.lookup_insert_ite]
    by_cases hlen : wildcardLen = suffix.length
    · grind [GoMap.lookup_insert_ite, Option.some.injEq]
    · rw [if_neg hlen]
      grind

variable {domain : GoString}

theorem insertExact (h : Stores rm entries) (vh : VirtualHostImpl)
    (hexact : IsExact domain) (hnew : ∀ v, (domain, v) ∉ entries) :
    Stores { rm with virtualHosts := rm.virtualHosts.insert domain vh }
      (entries ++ [(domain, vh)]) where
  default_iff := by grind
  exact_iff := by
    intro d v
    rw [mem_snoc_iff]
    show (rm.virtualHosts.insert domain vh).lookup d = some v ↔ _
    rw [GoMap.lookup_insert_ite]
    by_cases hd : d = domain
    · subst hd
      have hnone := hnew v
      rw [if_pos rfl, Option.some.injEq]
      grind
    · rw [if_neg hd, h.exact_iff]
      tauto
  suffix_iff := by
    intro wildcardLen suffix v
    rw [mem_snoc_iff]
    show (rm.suffixes wildcardLen).lookup suffix = some v ↔ _
    grind [isWildcard_iff]

theorem addDomain_of_new (h : Stores rm entries) (vh : VirtualHostImpl)
    (hnew : ∀ v, (domain, v) ∉ entries) :
    ∃ rm', rm.addDomain vh domain = .ok rm' ∧ Stores rm' (entries ++ [(domain, vh)]) := by
  unfold RouteMatcher.addDomain
  by_cases hstar : domain = star
  · subst hstar
    have hnone : rm.defaultVirtualHost.isSome = false := by
      cases hd : rm.defaultVirtualHost with
      | none => rfl
      | some v => exact absurd ((h.default_iff v).mp hd) (hnew v)
    rw [if_pos rfl, hnone]
    exact ⟨_, rfl, h.setDefault vh hnew⟩
  rw [if_neg hstar]
  by_cases hwild : IsWildcard domain
  · obtain ⟨suffix, hne, rfl⟩ := (isWildcard_iff domain).mp hwild
    have hnone : suffix ∉ rm.suffixes suffix.length := by
      intro hmem
      obtain ⟨v, hv⟩ := Finmap.mem_iff.mp hmem
      exact hnew v ((h.suffix_iff _ _ v).mp hv).2.2
    rw [if_pos hwild]
    refine ⟨_, if_neg hnone, ?_⟩
    exact h.insertSuffix vh hne hnew
  · have hexact : IsExact domain := ⟨hstar, hwild⟩
    have hnone : domain ∉ rm.virtualHosts := by
      intro hmem
      obtain ⟨v, hv⟩ := Finmap.mem_iff.mp hmem
      exact hnew v ((h.exact_iff _ v).mp hv).2
    rw [if_neg hwild, if_neg hnone]
    exact ⟨_, rfl, h.insertExact vh hexact hnew⟩

theorem addDomain_of_listed (h : Stores rm entries) (vh : VirtualHostImpl)
    {v : VirtualHostImpl} (hold : (domain, v) ∈ entries) :
    ∃ stop, rm.addDomain vh domain = .error stop := by
  unfold RouteMatcher.addDomain
  by_cases hstar : domain = star
  · subst hstar
    rw [if_pos rfl, (h.default_iff v).mpr hold]
    exact ⟨_, rfl⟩
  rw [if_neg hstar]
  by_cases hwild : IsWildcard domain
  · obtain ⟨suffix, hne, rfl⟩ := (isWildcard_iff domain).mp hwild
    have hmem : suffix ∈ rm.suffixes suffix.length :=
      Finmap.mem_iff.mpr ⟨v, (h.suffix_iff _ _ v).mpr ⟨rfl, hne, hold⟩⟩
    rw [if_pos hwild]
    exact ⟨_, if_pos hmem⟩
  · have hmem : domain ∈ rm.virtualHosts :=
      Finmap.mem_iff.mpr ⟨v, (h.exact_iff _ v).mpr ⟨⟨hstar, hwild⟩, hold⟩⟩
    rw [if_neg hwild, if_pos hmem]
    exact ⟨_, rfl⟩

end Stores

/-! ## §4. The loops. -/

/-- The domains are listed once. -/
@[local grind]
def Distinct (entries : List Entry) : Prop := (entries.map Prod.fst).Nodup

variable {entries : List Entry} {domain : GoString}

theorem Distinct.snoc (h : Distinct entries)
    (hnew : ∀ v, (domain, v) ∉ entries) (vh : VirtualHostImpl) :
    Distinct (entries ++ [(domain, vh)]) := by
  unfold Distinct at h ⊢
  grind

theorem not_distinct_of_listed {v : VirtualHostImpl}
    (hv : (domain, v) ∈ entries) (vh : VirtualHostImpl) (added : List Entry) :
    ¬ Distinct (entries ++ (domain, vh) :: added) := by
  intro hnodup
  grind

/-- Both loops as one, over pairs of a domain and its virtual host. -/
def RouteMatcher.addEntries (rm : RouteMatcher) (entries : List Entry) : Except Stop RouteMatcher :=
  entries.foldlM (fun rm entry => rm.addDomain entry.2 entry.1) rm

/-- **The loop over the domains** returns exactly if they are distinct, and then
the tables hold them all. -/
theorem Stores.addEntries (added : List Entry) : ∀ (rm : RouteMatcher) (entries : List Entry),
    Stores rm entries → Distinct entries →
    (∃ rm', rm.addEntries added = .ok rm' ∧ Stores rm' (entries ++ added) ∧
      Distinct (entries ++ added)) ∨
    ((∃ stop, rm.addEntries added = .error stop) ∧ ¬ Distinct (entries ++ added)) := by
  induction added with
  | nil =>
    intro rm entries h hdistinct
    exact Or.inl ⟨rm, rfl, by simpa using h, by simpa using hdistinct⟩
  | cons entry added ih =>
    intro rm entries h hdistinct
    obtain ⟨domain, vh⟩ := entry
    have hsnoc : entries ++ (domain, vh) :: added = entries ++ [(domain, vh)] ++ added := by simp
    by_cases hold : ∃ v, (domain, v) ∈ entries
    · obtain ⟨v, hv⟩ := hold
      obtain ⟨stop, hstop⟩ := h.addDomain_of_listed vh hv
      refine Or.inr ⟨⟨stop, ?_⟩, not_distinct_of_listed hv vh added⟩
      show (rm.addDomain vh domain >>= fun rm => rm.addEntries added) = _
      rw [hstop]
      rfl
    · have hnew : ∀ v, (domain, v) ∉ entries := fun v hv => hold ⟨v, hv⟩
      obtain ⟨rm', hadd, hstores⟩ := h.addDomain_of_new vh hnew
      have hstep : rm.addEntries ((domain, vh) :: added) = rm'.addEntries added := by
        show (rm.addDomain vh domain >>= fun rm => rm.addEntries added) = _
        rw [hadd]
        rfl
      rw [hstep, hsnoc]
      exact ih rm' _ hstores (hdistinct.snoc hnew vh)

/-- The pointer leads to a virtual host that `NewVirtualHostImpl` accepts. -/
@[local grind]
def Builds (lib : TextLib) (virtualHost : Option VirtualHost) (vh : VirtualHostImpl) : Prop :=
  ∃ config, virtualHost = some config ∧ newVirtualHostImpl lib config = .ok vh

/-- The domains that a virtual host lists, in lower case. -/
def entriesOf (lib : TextLib) : Option VirtualHost → List Entry
  | none => []
  | some config =>
    match newVirtualHostImpl lib config with
    | .error _ => []
    | .ok vh => config.domains.map fun domain => (Strings.toLower lib domain, vh)

/-- The domains that a configuration lists. -/
def domainEntries (lib : TextLib) (virtualHosts : List (Option VirtualHost)) : List Entry :=
  virtualHosts.flatMap (entriesOf lib)

theorem RouteMatcher.addDomains_eq (lib : TextLib) (vh : VirtualHostImpl) (rm : RouteMatcher)
    (domains : List GoString) : rm.addDomains lib vh domains =
      rm.addEntries (domains.map fun domain => (Strings.toLower lib domain, vh)) := by
  unfold RouteMatcher.addDomains RouteMatcher.addEntries
  rw [List.foldlM_map]

theorem RouteMatcher.addVirtualHosts_eq_ok_iff (lib : TextLib) {rm' : RouteMatcher} :
    ∀ (virtualHosts : List (Option VirtualHost)) (rm : RouteMatcher),
    rm.addVirtualHosts lib virtualHosts = .ok rm' ↔
      (∀ v ∈ virtualHosts, ∃ vh, Builds lib v vh) ∧
        rm.addEntries (domainEntries lib virtualHosts) = .ok rm' := by
  intro virtualHosts
  induction virtualHosts with
  | nil =>
    intro rm
    simp [addVirtualHosts, addEntries, domainEntries, pure, Except.pure]
  | cons v virtualHosts ih =>
    intro rm
    cases v with
    | none =>
      constructor
      · intro h
        cases h
      · grind [List.mem_cons_self]
    | some config =>
      cases hbuild : newVirtualHostImpl lib config with
      | error stop =>
        constructor
        · intro h
          rw [addVirtualHosts, hbuild] at h
          cases h
        · grind [List.mem_cons_self]
      | ok vh =>
        have hentries : domainEntries lib (some config :: virtualHosts) =
            (config.domains.map fun domain => (Strings.toLower lib domain, vh)) ++
              domainEntries lib virtualHosts := by
          simp [domainEntries, entriesOf, hbuild]
        have hhead : ∃ vh, Builds lib (some config) vh := ⟨vh, config, rfl, hbuild⟩
        rw [hentries, addEntries, List.foldlM_append]
        simp only [addVirtualHosts, hbuild, addDomains_eq, List.forall_mem_cons,
          and_iff_right hhead]
        show (rm.addEntries _ >>= fun rm => rm.addVirtualHosts lib virtualHosts) = .ok rm' ↔
          _ ∧ (rm.addEntries _ >>= fun rm => rm.addEntries _) = .ok rm'
        simp only [bind_eq_ok, ih]
        tauto

/-! ## §5. Accepted configurations. -/

/-- The tables of a matcher, and the lengths of the suffixes in them. -/
structure Serves (rm : RouteMatcher) (entries : List Entry) : Prop extends Stores rm entries where
  distinct : Distinct entries
  descending : rm.greaterSortedWildcardVirtualHostSuffixes.Pairwise fun a b => b < a
  mem_lengths : ∀ wildcardLen, wildcardLen ∈ rm.greaterSortedWildcardVirtualHostSuffixes ↔
    wildcardLen ∈ rm.wildcardVirtualHostSuffixes

theorem accepted_iff (lib : TextLib) (order : GoMap.RangeOrder Nat (GoMap GoString VirtualHostImpl))
    (virtualHosts : List (Option VirtualHost)) :
    (∃ rm, newRouteMatcher lib order (.proxy virtualHosts) = .ok rm) ↔
      (∀ v ∈ virtualHosts, ∃ vh, Builds lib v vh) ∧ Distinct (domainEntries lib virtualHosts) := by
  have hloop := stores_empty.addEntries (domainEntries lib virtualHosts) _ _ List.nodup_nil
  rw [List.nil_append] at hloop
  constructor
  · intro ⟨rm, h⟩
    simp only [newRouteMatcher, bind_eq_ok] at h
    obtain ⟨rm', hrm', _⟩ := h
    grind [RouteMatcher.addVirtualHosts_eq_ok_iff]
  · intro ⟨hall, hdistinct⟩
    rcases hloop with ⟨rm', hadd, _, _⟩ | ⟨_, hnot⟩
    · have hrm' := (RouteMatcher.addVirtualHosts_eq_ok_iff lib _ _).mpr ⟨hall, hadd⟩
      simp only [newRouteMatcher, hrm']
      exact ⟨_, rfl⟩
    · exact absurd hdistinct hnot

theorem descending_sort (m : GoMap Nat (GoMap GoString VirtualHostImpl)) (l : GoMap.Listing m) :
    ((l.entries.map Prod.fst).mergeSort fun a b => decide (b ≤ a)).Pairwise fun a b => b < a := by
  have hsorted : ((l.entries.map Prod.fst).mergeSort fun a b => decide (b ≤ a)).Pairwise
      fun a b => decide (b ≤ a) = true := by
    apply List.pairwise_mergeSort
    · intro a b c hab hbc
      simp only [decide_eq_true_eq] at hab hbc ⊢
      omega
    · intro a b
      simp only [Bool.or_eq_true, decide_eq_true_eq]
      omega
  have hnodup : ((l.entries.map Prod.fst).mergeSort fun a b => decide (b ≤ a)).Nodup :=
    (List.mergeSort_perm _ _).nodup_iff.mpr l.nodup
  apply (hsorted.and hnodup).imp
  intro a b ⟨hle, hne⟩
  simp only [decide_eq_true_eq] at hle
  omega

theorem serves_newRouteMatcher {lib : TextLib}
    {order : GoMap.RangeOrder Nat (GoMap GoString VirtualHostImpl)}
    {virtualHosts : List (Option VirtualHost)} {rm : RouteMatcher}
    (h : newRouteMatcher lib order (.proxy virtualHosts) = .ok rm) :
    Serves rm (domainEntries lib virtualHosts) := by
  have hdistinct := ((accepted_iff lib order virtualHosts).mp ⟨rm, h⟩).2
  simp only [newRouteMatcher, bind_eq_ok, pure, Except.pure, Except.ok.injEq] at h
  obtain ⟨rm', hrm', rfl⟩ := h
  obtain ⟨_, hadd⟩ := (RouteMatcher.addVirtualHosts_eq_ok_iff lib _ _).mp hrm'
  have hstores : Stores rm' (domainEntries lib virtualHosts) := by
    rcases stores_empty.addEntries (domainEntries lib virtualHosts) _ _ List.nodup_nil with
      ⟨rm'', hadd', hstores, _⟩ | ⟨_, hnot⟩
    · rw [hadd] at hadd'
      cases hadd'
      exact hstores
    · exact absurd hdistinct hnot
  constructor
  · exact ⟨hstores.default_iff, hstores.exact_iff, hstores.suffix_iff⟩
  · exact hdistinct
  · exact descending_sort _ _
  · intro wildcardLen
    rw [(List.mergeSort_perm _ _).mem_iff]
    exact (order rm'.wildcardVirtualHostSuffixes).mem_keys wildcardLen

end Mosn.Router
