/-
  Mosn.Router.HeaderMatch
  **MATCHING REQUEST HEADERS** (`pkg/router/configutility.go`,
  `pkg/types/route.go`).

  A configured header asks for one of the request: it must be there, and its
  value must match the pattern or, without a pattern, be the configured one; an
  empty value asks for presence alone.  `MatchHeaders` tests values only INSIDE
  the test for presence, and it compares an empty value like any other:

      request              header missing    header not empty, configured ""
      documented           no match          match
      `MatchHeaders`       match             no match

    • `matchHeaders_documented_iff` — when the two come to the same answer.
-/
import Mosn.Router.Rules

namespace Mosn.Router

open Mosn.Lib

variable (requestHeaders : HeaderMap)

/-- What the documentation of `HeaderData` asks for. -/
def Documented (cfg : ValueMatcher) : Prop :=
  ∃ value, requestHeaders.lookup cfg.name = some value
    ∧ if cfg.isRegex then cfg.regexPattern value = true else cfg.value = [] ∨ cfg.value = value

/-- The request lacks the header. -/
def Missing (cfg : ValueMatcher) : Prop := requestHeaders.lookup cfg.name = none

/-- Only presence is asked for, and the header has a value. -/
def Valued (cfg : ValueMatcher) : Prop :=
  cfg.isRegex = false ∧ cfg.value = [] ∧ ∃ value, requestHeaders.lookup cfg.name = some value
    ∧ value ≠ []

/-- The header has a value that nobody would accept. -/
def Refused (cfg : ValueMatcher) : Prop :=
  ∃ value, requestHeaders.lookup cfg.name = some value
    ∧ if cfg.isRegex then cfg.regexPattern value = false else cfg.value ≠ [] ∧ cfg.value ≠ value

theorem documented_iff (cfg : ValueMatcher) :
    Documented requestHeaders cfg
      ↔ ¬ Refused requestHeaders cfg ∧ ¬ Missing requestHeaders cfg := by
  unfold Documented Refused Missing
  cases requestHeaders.lookup cfg.name <;> grind

theorem matchHeaders_iff (cfgs : List ValueMatcher) : matchHeaders requestHeaders cfgs = true
      ↔ ∀ cfg ∈ cfgs, ¬ Refused requestHeaders cfg ∧ ¬ Valued requestHeaders cfg := by
  rw [matchHeaders, List.all_eq_true]
  refine forall₂_congr fun cfg _ => ?_
  unfold Refused Valued
  cases requestHeaders.lookup cfg.name <;> grind

/-- **`MatchHeaders` against its documentation**: they agree exactly if some
header has a value that both refuse, or headers are missing just in case others
are asked for by presence alone and have a value. -/
theorem matchHeaders_documented_iff (cfgs : List ValueMatcher) :
    (matchHeaders requestHeaders cfgs = true ↔ ∀ cfg ∈ cfgs, Documented requestHeaders cfg)
      ↔ (∃ cfg ∈ cfgs, Refused requestHeaders cfg)
        ∨ ((∃ cfg ∈ cfgs, Missing requestHeaders cfg)
          ↔ ∃ cfg ∈ cfgs, Valued requestHeaders cfg) := by
  rw [matchHeaders_iff]
  simp only [documented_iff]
  by_cases hrefused : ∃ cfg ∈ cfgs, Refused requestHeaders cfg
  · -- both answers are no
    obtain ⟨cfg, hcfg, hrefused⟩ := hrefused
    have hno : ∀ P : ValueMatcher → Prop,
        ¬ ∀ cfg ∈ cfgs, ¬ Refused requestHeaders cfg ∧ ¬ P cfg :=
      fun P hall => (hall cfg hcfg).1 hrefused
    exact iff_of_true (iff_of_false (hno _) (hno _)) (Or.inl ⟨cfg, hcfg, hrefused⟩)
  · have hleft : ∀ P : ValueMatcher → Prop,
        (∀ cfg ∈ cfgs, ¬ Refused requestHeaders cfg ∧ ¬ P cfg) ↔ ¬ ∃ cfg ∈ cfgs, P cfg := by
      intro P
      grind
    rw [hleft, hleft, not_iff_not, or_iff_right hrefused]
    exact iff_comm

/-- **A missing header matches**: a route that asks for `env: test` takes a
request without any header. -/
theorem missing_header_matches :
    matchHeaders ∅ [⟨str "env", str "test", false, fun _ => false⟩] = true
      ∧ ¬ ∀ cfg ∈ [ValueMatcher.mk (str "env") (str "test") false fun _ => false],
        Documented ∅ cfg := by
  refine ⟨rfl, fun hall => ?_⟩
  obtain ⟨value, hvalue, -⟩ := hall _ List.mem_cons_self
  cases hvalue

end Mosn.Router
