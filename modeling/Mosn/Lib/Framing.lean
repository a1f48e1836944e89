/-
  Mosn.Lib.Framing
  **INCREMENTAL FRAMING: CUTTING A STREAM DOES NOT CHANGE ITS FRAMES.**

  A `Framer` looks at the unread bytes and says `wait` (nothing complete
  yet), `emit f n` (the first `n` bytes are the frame `f`) or `fail`.  It is
  a structure, so that a framer comes with the two facts segmentation rests
  on: a frame is not empty and lies inside the buffer, and a verdict other
  than `wait` is STABLE, that is, unchanged by more bytes behind.

  `Drains` is the loop that consumes everything complete, `Feeds` the same
  loop run after each of a list of chunks.  The main result is
  `feeds_of_drains`: what one run over the whole stream emits and leaves is
  what the chunked run emits and leaves, for every way of cutting.
-/
import Mathlib.Data.List.Basic

namespace Mosn.Lib

/-- A verdict on the unread bytes. -/
inductive Verdict (φ ε : Type) where
  | wait
  | emit (frame : φ) (n : Nat)
  | fail (e : ε)

/-- A framer with its stability laws.  `reject` is the consumer's answer to
a frame: it stops the stream after taking the frame. -/
structure Framer (α φ ε : Type) where
  next : List α → Verdict φ ε
  reject : φ → Option ε
  wait_nil : next [] = .wait
  emit_pos : ∀ b f n, next b = .emit f n → 0 < n ∧ n ≤ b.length
  emit_stable : ∀ b t f n, next b = .emit f n → next (b ++ t) = .emit f n
  fail_stable : ∀ b t e, next b = .fail e → next (b ++ t) = .fail e

namespace Framer

variable {α φ ε : Type} (fr : Framer α φ ε)

/-- `Drains b fs r o`: from the unread bytes `b` the loop takes the frames
`fs`, leaves `r`, and stops for the reason `o` (`none`: nothing complete). -/
inductive Drains : List α → List φ → List α → Option ε → Prop where
  | wait {b : List α} : fr.next b = .wait → Drains b [] b none
  | fail {b : List α} {e : ε} : fr.next b = .fail e → Drains b [] b (some e)
  | reject {b : List α} {f : φ} {n : Nat} {e : ε} :
      fr.next b = .emit f n → fr.reject f = some e → Drains b [f] (b.drop n) (some e)
  | emit {b : List α} {f : φ} {n : Nat} {fs : List φ} {r : List α} {o : Option ε} :
      fr.next b = .emit f n → fr.reject f = none → Drains (b.drop n) fs r o →
      Drains b (f :: fs) r o

/-- The loop run after each chunk, on what the previous run left. -/
inductive Feeds : List α → List (List α) → List φ → List α → Prop where
  | nil (b : List α) : Feeds b [] [] b
  | cons {b c : List α} {cs : List (List α)} {fs gs : List φ} {r r' : List α} :
      fr.Drains (b ++ c) fs r none → Feeds r cs gs r' → Feeds b (c :: cs) (fs ++ gs) r'

variable {fr}

variable {b r : List α} {fs : List φ} {o : Option ε}

theorem Drains.next_rest (h : fr.Drains b fs r o) : o = none → fr.next r = .wait := by
  induction h with
  | wait hb => exact fun _ => hb
  | fail | reject => exact fun ho => absurd ho (by simp)
  | emit hb hr _ ih => exact ih

/-- **One cut.**  A run over `b ++ t` without failure is a run over `b`
followed by a run over what that left, with `t` behind it. -/
theorem drains_append : ∀ (b t : List α) (fs : List φ) (r : List α),
    fr.Drains (b ++ t) fs r none →
    ∃ fs₁ r₁ fs₂, fr.Drains b fs₁ r₁ none ∧ fr.Drains (r₁ ++ t) fs₂ r none
      ∧ fs = fs₁ ++ fs₂ := by
  intro b
  induction hlen : b.length using Nat.strongRecOn generalizing b with
  | _ k ih =>
    intro t fs r h
    cases hb : fr.next b with
    | wait => exact ⟨[], b, fs, .wait hb, h, rfl⟩
    | fail e =>
      -- a failure on `b` is a failure on `b ++ t`
      have hbt := fr.fail_stable b t e hb
      cases h with
      | wait h' => rw [hbt] at h'; cases h'
      | emit h' => rw [hbt] at h'; cases h'
    | emit f n =>
      have hbt := fr.emit_stable b t f n hb
      obtain ⟨hpos, hle⟩ := fr.emit_pos b f n hb
      cases h with
      | wait h' => rw [hbt] at h'; cases h'
      | @emit _ f' n' fs' _ _ h' hr hrest =>
        rw [hbt] at h'
        injection h' with hf hn
        subst hf hn
        rw [List.drop_append_of_le_length hle] at hrest
        have hdrop : (b.drop n).length < k := by
          rw [List.length_drop]
          omega
        obtain ⟨fs₁, r₁, fs₂, h₁, h₂, hfs⟩ :=
          ih _ hdrop (b.drop n) rfl t fs' r hrest
        exact ⟨f :: fs₁, r₁, fs₂, .emit hb hr h₁, h₂, by rw [hfs]; rfl⟩

theorem Drains.of_wait
    (hb : fr.next b = .wait) (h : fr.Drains b fs r o) : fs = [] ∧ r = b ∧ o = none := by
  cases h with
  | wait _ => exact ⟨rfl, rfl, rfl⟩
  | fail h' => rw [hb] at h'; cases h'
  | reject h' => rw [hb] at h'; cases h'
  | emit h' => rw [hb] at h'; cases h'

/-- **Segmentation does not matter.**  From a buffer in which nothing is
complete, the frames and the rest of one run over the whole stream are those
of the run that drains after every chunk. -/
theorem feeds_of_drains : ∀ (cs : List (List α)) (b : List α) (fs : List φ) (r : List α),
    fr.next b = .wait → fr.Drains (b ++ cs.flatten) fs r none → fr.Feeds b cs fs r := by
  intro cs
  induction cs with
  | nil =>
    intro b fs r hb h
    rw [List.flatten_nil, List.append_nil] at h
    obtain ⟨rfl, rfl, _⟩ := h.of_wait hb
    exact .nil _
  | cons c cs ih =>
    intro b fs r hb h
    rw [List.flatten_cons, ← List.append_assoc] at h
    obtain ⟨fs₁, r₁, fs₂, h₁, h₂, hfs⟩ := drains_append (b ++ c) _ fs r h
    rw [hfs]
    exact .cons h₁ (ih r₁ fs₂ r (h₁.next_rest rfl) h₂)

end Framer

end Mosn.Lib
