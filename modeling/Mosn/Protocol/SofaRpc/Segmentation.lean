/-
  Mosn.Protocol.SofaRpc.Segmentation
  **FRAMING DOES NOT DEPEND ON HOW THE STREAM IS CUT** (Bolt V1).

  `streamConnection.Dispatch` runs the decode loop each time bytes have been
  appended to the read buffer.  The V1 decoder is a `Framer`: it takes a
  frame only when all of it is there, and more bytes behind never change its
  verdict.  The loop refines the framer's draining loop in both directions
  (`drains_of_returns`, `returns_of_drains`), so segmentation independence is
  inherited from `Framer.feeds_of_drains`.

  A response is stamped with the local time of its decoding, which no
  property of the bytes can fix: with unequal clocks the commands agree up
  to the stamp, with equal clocks they are the same.
-/
import Mosn.Lib.Framing
import Mosn.Protocol.SofaRpc.DecodeLoop

namespace Mosn.Protocol.SofaRpc

open Mosn.Lib Mosn.Types Mosn.Network

attribute [local grind] FrameKind.At

/-! ## §1. The V1 decoder as a framer. -/

/-- What the loop with only Bolt V1 makes of the unread bytes. -/
def verdictV1 (b : List UInt8) : Verdict Command GoError :=
  if 1 < b.length then
    if b.getD 0 0 = protocolCodeV1 then
      if lessLenV1 ≤ b.length then
        match FrameKind.ahead b with
        | some k =>
          if k.layout.Complete b then .emit (k.command 0 b) (k.layout.frameLen b) else .wait
        | none => .fail (BoltV1Codec.unknownTypeError (b.getD 1 0))
      else .wait
    else .fail ⟨unSupportedProCode⟩
  else .wait

theorem verdictV1_emit {b : List UInt8} {c : Command} {n : Nat} (h : verdictV1 b = .emit c n) :
    ∃ k : FrameKind, k.At b ∧ n = k.layout.frameLen b := by
  unfold verdictV1 at h
  split at h
  · grind
  · cases h

/-- **A verdict is final**: bytes behind do not change it. -/
theorem verdictV1_append (b t : List UInt8) (h : verdictV1 b ≠ .wait) :
    verdictV1 (b ++ t) = verdictV1 b := by
  by_cases hlen : 1 < b.length
  · have hlen' : 1 < (b ++ t).length := by
      rw [List.length_append]
      omega
    have hcode : (b ++ t).getD 0 0 = b.getD 0 0 := List.getD_append _ _ _ _ (by omega)
    have htype : (b ++ t).getD 1 0 = b.getD 1 0 := List.getD_append _ _ _ _ (by omega)
    by_cases hv : b.getD 0 0 = protocolCodeV1
    · by_cases hless : lessLenV1 ≤ b.length
      · have hless' : lessLenV1 ≤ (b ++ t).length := by
          rw [List.length_append]
          omega
        have hahead := FrameKind.ahead_append b t (Nat.le_trans (by decide) hless)
        simp only [verdictV1, hlen, hlen', hcode, hv, hless, hless', ↓reduceIte, hahead, htype]
          at h ⊢
        cases ha : FrameKind.ahead b with
        | none => rfl
        | some k =>
          simp only [ha] at h
          by_cases hc : k.layout.Complete b
          · simp only [hc, hc.append t, ↓reduceIte, k.command_append 0 b t hc,
              Layout.frameLen_append t hc.fixed_le]
          · simp only [hc, ↓reduceIte] at h
            exact absurd rfl h
      · simp only [verdictV1, hlen, hv, hless, ↓reduceIte] at h
        exact absurd rfl h
    · simp only [verdictV1, hlen, hlen', hcode, hv, ↓reduceIte]
  · simp only [verdictV1, hlen, ↓reduceIte] at h
    exact absurd rfl h

/-- The framer of the V1 loop; a command without processor ends the loop. -/
def framerV1 {τ : Type} (h : BoltCommandHandler τ) : Framer UInt8 Command GoError where
  next := verdictV1
  reject := fun c =>
    match h.processors c.getCmdCode with
    | some _ => none
    | none => some ⟨unKnownCmdcode⟩
  wait_nil := rfl
  emit_pos := by
    intro b c n hb
    obtain ⟨k, hk, rfl⟩ := verdictV1_emit hb
    exact ⟨k.frameLen_pos b, hk.2⟩
  emit_stable := by
    intro b t c n hb
    rw [verdictV1_append b t (by rw [hb]; simp), hb]
  fail_stable := by
    intro b t e hb
    rw [verdictV1_append b t (by rw [hb]; simp), hb]

namespace Protocols

variable {τ : Type} {h : BoltCommandHandler τ} {onDecodeError : GoError → τ → Except Panic τ}
  {clock : Nat → Int}

/-- **One pass is one verdict.** -/
theorem decodeBody_verdictV1 (h : BoltCommandHandler τ)
    (onDecodeError : GoError → τ → Except Panic τ) (clock : Nat → Int) (s : LoopState τ) :
    decodeBody (boltV1Only h) onDecodeError clock s =
      match verdictV1 s.data.bytes with
      | .wait => .ok (.done s)
      | .fail e => reportError onDecodeError e s
      | .emit c n => handOver (boltV1 h) onDecodeError (c.stamp (clock s.handed.length))
          { s with data := s.data.drain n } := by
  have hbytes := s.data.length_bytes
  by_cases hlen : 1 < s.data.len
  · by_cases hv : s.data.bytes.getD 0 0 = protocolCodeV1
    · rw [decodeBody_boltV1 onDecodeError clock s rfl hlen hv]
      simp only [passAhead, verdictV1, hbytes, hlen, hv, ↓reduceIte]
      by_cases hless : lessLenV1 ≤ s.data.len
      · simp only [hless, ↓reduceIte]
        cases ha : FrameKind.ahead s.data.bytes with
        | none => rfl
        | some k =>
          by_cases hc : k.layout.Complete s.data.bytes
          · -- only the V2 response leaves its bytes in the buffer
            have hne : k ≠ .responseV2 := by
              rintro rfl
              have hcode := FrameKind.At.code_eq ⟨ha, hc⟩
              rw [hv] at hcode
              exact absurd hcode (by decide)
            simp only [hc, ↓reduceIte, FrameKind.stamp_command,
              FrameKind.advance_eq_drain hne]
          · simp only [hc, ↓reduceIte]
      · simp only [hless, ↓reduceIte]
    · have hnone : boltV1Only h (s.data.bytes.getD 0 0) = none := by
        rw [boltV1Only, if_neg hv]
      simp only [decodeBody, verdictV1, hbytes, hlen, hv, ↓reduceIte, hnone]
  · simp only [decodeBody, verdictV1, hbytes, hlen, ↓reduceIte]

/-! ## §2. The loop refines the framer. -/

/-- The commands as they are handed over, the `i`-th of the stream first. -/
def stampAll (clock : Nat → Int) : Nat → List Command → List Command
  | _, [] => []
  | i, c :: cs => c.stamp (clock i) :: stampAll clock (i + 1) cs

/-- The handler over a list of commands, the `i`-th of the stream first. -/
def handleAll (h : BoltCommandHandler τ) (clock : Nat → Int) :
    Nat → List Command → τ → Except Panic τ
  | _, [], t => .ok t
  | i, c :: cs, t => do
      let (_, t) ← h.handleCommand (c.stamp (clock i)) t
      handleAll h clock (i + 1) cs t

@[simp] theorem length_stampAll (i : Nat) (cs : List Command) :
    (stampAll clock i cs).length = cs.length := by
  induction cs generalizing i with
  | nil => rfl
  | cons c cs ih => simp [stampAll, ih]

theorem stampAll_append (i : Nat) (cs ds : List Command) :
    stampAll clock i (cs ++ ds) = stampAll clock i cs ++ stampAll clock (i + cs.length) ds := by
  induction cs generalizing i with
  | nil => rfl
  | cons c cs ih =>
    have hidx : i + 1 + cs.length = i + (c :: cs).length := by
      rw [List.length_cons]
      omega
    rw [List.cons_append, stampAll, ih, hidx]
    rfl

theorem map_stamp_stampAll (now : Int) (i : Nat) (cs : List Command) :
    (stampAll clock i cs).map (Command.stamp now) = cs.map (Command.stamp now) := by
  induction cs generalizing i with
  | nil => rfl
  | cons c cs ih => simp [stampAll, ih]

theorem handleAll_append (i : Nat) (cs ds : List Command) (t : τ) :
    handleAll h clock i (cs ++ ds) t =
      (handleAll h clock i cs t).bind fun t' => handleAll h clock (i + cs.length) ds t' := by
  induction cs generalizing i t with
  | nil => rfl
  | cons c cs ih =>
    have hidx : i + 1 + cs.length = i + (c :: cs).length := by
      rw [List.length_cons]
      omega
    simp only [List.cons_append, handleAll]
    cases h.handleCommand (c.stamp (clock i)) t with
    | error e => rfl
    | ok r =>
      show handleAll h clock (i + 1) (cs ++ ds) r.2 = _
      rw [ih, hidx]
      rfl

variable {c : Command} {t t' : τ} {e : GoError} {s s' s₁ : LoopState τ} {n : Nat}
  {fs ds : List Command} {b r : List UInt8}

theorem handleCommand_of_accepted {now : Int} {err : Option GoError}
    (hacc : (framerV1 h).reject c = none)
    (hc : h.handleCommand (c.stamp now) t = .ok (err, t')) : err = none := by
  have hcode := Command.getCmdCode_stamp now c
  cases hp : h.processors c.getCmdCode with
  | none =>
    simp only [framerV1, hp] at hacc
    cases hacc
  | some process =>
    simp only [BoltCommandHandler.handleCommand, hcode, hp] at hc
    cases hpr : process (c.stamp now) t with
    | error e => simp [hpr, bind, Except.bind] at hc
    | ok t₁ =>
      rw [hpr] at hc
      cases hc
      rfl

theorem handleCommand_of_rejected (now : Int) (t : τ) (hrej : (framerV1 h).reject c = some e) :
    h.handleCommand (c.stamp now) t = .ok (some e, t) := by
  have hcode := Command.getCmdCode_stamp now c
  cases hp : h.processors c.getCmdCode with
  | none =>
    simp only [framerV1, hp, Option.some.injEq] at hrej
    rw [← hrej]
    simp only [BoltCommandHandler.handleCommand, hcode, hp]
  | some process =>
    simp only [framerV1, hp] at hrej
    cases hrej

/-- What a loop that came from `s` without a new error has done: drained the
frames `fs` and handed them over. -/
@[local grind cases]
structure Ran (h : BoltCommandHandler τ) (clock : Nat → Int) (s s' : LoopState τ)
    (fs : List Command) : Prop where
  handled : handleAll h clock s.handed.length fs s.env = .ok s'.env
  handed : s'.handed = s.handed ++ stampAll clock s.handed.length fs
  errors : s'.errors = s.errors

/-- The loop state after the frame `c` of `n` bytes has been handled. -/
def LoopState.past (s : LoopState τ) (clock : Nat → Int) (c : Command) (n : Nat) (t : τ) :
    LoopState τ where
  data := s.data.drain n
  env := t
  handed := s.handed ++ [c.stamp (clock s.handed.length)]
  errors := s.errors

theorem LoopState.length_past (s : LoopState τ) (c : Command) (n : Nat) (t : τ) :
    (s.past clock c n t).handed.length = s.handed.length + 1 := by
  simp [LoopState.past]

/-- **What one pass can do**, in terms of the framer. -/
theorem decodeBody_cases (h : BoltCommandHandler τ)
    (onDecodeError : GoError → τ → Except Panic τ) (clock : Nat → Int) (s : LoopState τ) :
    ((framerV1 h).next s.data.bytes = .wait
        ∧ decodeBody (boltV1Only h) onDecodeError clock s = .ok (.done s))
      ∨ (∃ e s₁, s₁.errors = s.errors
        ∧ decodeBody (boltV1Only h) onDecodeError clock s = reportError onDecodeError e s₁)
      ∨ ∃ c n, (framerV1 h).next s.data.bytes = .emit c n ∧ (framerV1 h).reject c = none
        ∧ ((∃ p, h.handleCommand (c.stamp (clock s.handed.length)) s.env = .error p
            ∧ decodeBody (boltV1Only h) onDecodeError clock s = .error p)
          ∨ ∃ t, h.handleCommand (c.stamp (clock s.handed.length)) s.env = .ok (none, t)
            ∧ decodeBody (boltV1Only h) onDecodeError clock s
              = .ok (.again (s.past clock c n t))) := by
  have hbody := decodeBody_verdictV1 h onDecodeError clock s
  cases hv : verdictV1 s.data.bytes with
  | wait =>
    simp only [hv] at hbody
    exact Or.inl ⟨hv, hbody⟩
  | fail e =>
    simp only [hv] at hbody
    exact Or.inr (Or.inl ⟨e, s, rfl, hbody⟩)
  | emit c n =>
    simp only [hv] at hbody
    cases hrej : (framerV1 h).reject c with
    | some e =>
      have herr := handleCommand_of_rejected (clock s.handed.length) s.env hrej
      refine Or.inr (Or.inl ⟨e, _, ?_, hbody.trans (handOver_some onDecodeError _ herr)⟩)
      rfl
    | none =>
      refine Or.inr (Or.inr ⟨c, n, hv, hrej, ?_⟩)
      cases hc : h.handleCommand (c.stamp (clock s.handed.length)) s.env with
      | error p =>
        refine Or.inl ⟨p, rfl, hbody.trans ?_⟩
        rw [handOver, show (boltV1 h).handleCommand = h.handleCommand from rfl, hc]
        rfl
      | ok r =>
        obtain ⟨err, t⟩ := r
        obtain rfl := handleCommand_of_accepted hrej hc
        exact Or.inr ⟨t, rfl, hbody.trans (handOver_none onDecodeError _ hc)⟩

theorem reportError_ok
    (hr : reportError onDecodeError e s = .ok (.done s')) : s'.errors = s.errors ++ [e] := by
  unfold reportError at hr
  cases ho : onDecodeError e s.env with
  | error p => simp [ho, bind, Except.bind] at hr
  | ok t =>
    rw [ho] at hr
    cases hr
    rfl

theorem Ran.nil (s : LoopState τ) : Ran h clock s s [] :=
  ⟨rfl, (List.append_nil _).symm, rfl⟩

theorem Ran.cons (hc : h.handleCommand (c.stamp (clock s.handed.length)) s.env = .ok (none, t))
    (hrest : Ran h clock (s.past clock c n t) s' fs) : Ran h clock s s' (c :: fs) := by
  have hlen : (s.past clock c n t).handed.length = _ := s.length_past c n t
  refine ⟨?_, ?_, hrest.errors⟩
  · have hh := hrest.handled
    rw [hlen] at hh
    simp only [handleAll, hc]
    exact hh
  · have hh := hrest.handed
    rw [hlen] at hh
    rw [hh]
    simp [LoopState.past, stampAll]

theorem emit_le (hn : (framerV1 h).next s.data.bytes = .emit c n) : n ≤ s.data.len := by
  rw [← IoBuffer.length_bytes]
  exact ((framerV1 h).emit_pos _ _ _ hn).2

theorem drains_of_returns (hr : DecodeReturns (boltV1Only h) onDecodeError clock s (.ok s'))
    (herr : s'.errors = s.errors) :
    ∃ fs, (framerV1 h).Drains s.data.bytes fs s'.data.bytes none ∧ Ran h clock s s' fs := by
  -- induction on the run: the last pass first, then a pass in front of it
  refine Loop.Returns.induction
    (P := fun s r => ∀ s', r = .ok s' → s'.errors = s.errors →
      ∃ fs, (framerV1 h).Drains s.data.bytes fs s'.data.bytes none ∧ Ran h clock s s' fs)
    ?_ ?_ ?_ hr s' rfl herr
  · intro s e _ s' h'
    cases h'
  · intro s s₁ hb s' h' herr
    cases h'
    rcases decodeBody_cases h onDecodeError clock s with
      ⟨hw, hbody⟩ | ⟨e, s₂, hs₂, hbody⟩ | ⟨c, n, _, _, ⟨p, _, hbody⟩ | ⟨t, _, hbody⟩⟩
    · rw [hbody] at hb
      cases hb
      exact ⟨[], .wait hw, Ran.nil _⟩
    · -- the pass reported an error, and errors are never taken back
      rw [hbody] at hb
      rw [reportError_ok hb, hs₂] at herr
      exact absurd herr (by simp)
    · rw [hbody] at hb
      cases hb
    · rw [hbody] at hb
      cases hb
  · intro s s₁ r hb ih s' h' herr
    rcases decodeBody_cases h onDecodeError clock s with
      ⟨_, hbody⟩ | ⟨e, s₂, _, hbody⟩ | ⟨c, n, hn, hacc, ⟨p, _, hbody⟩ | ⟨t, ht, hbody⟩⟩
    · rw [hbody] at hb
      cases hb
    · rw [hbody] at hb
      exact absurd hb (reportError_ne_again onDecodeError _ _ _)
    · rw [hbody] at hb
      cases hb
    · rw [hbody] at hb
      cases hb
      obtain ⟨fs, hd, hran⟩ := ih s' h' herr
      refine ⟨c :: fs, .emit hn hacc ?_, Ran.cons ht hran⟩
      rw [← IoBuffer.bytes_drain _ _ (emit_le hn)]
      exact hd

theorem returns_of_drains (onDecodeError : GoError → τ → Except Panic τ) {o : Option GoError}
    (hd : (framerV1 h).Drains b fs r o) : o = none →
    ∀ (s : LoopState τ) (t : τ), s.data.bytes = b →
      handleAll h clock s.handed.length fs s.env = .ok t →
      ∃ s', DecodeReturns (boltV1Only h) onDecodeError clock s (.ok s')
        ∧ s'.data.bytes = r ∧ s'.env = t ∧ Ran h clock s s' fs := by
  induction hd with
  | wait hw =>
    rintro - s t rfl ht
    cases ht
    refine ⟨s, Loop.Returns.of_done ?_, rfl, rfl, Ran.nil s⟩
    simp only [decodeBody_verdictV1, show verdictV1 s.data.bytes = .wait from hw]
  | fail | reject => exact fun ho => nomatch ho
  | @emit b c n fs r o hn hacc _ ih =>
    rintro ho s t rfl ht
    cases hc : h.handleCommand (c.stamp (clock s.handed.length)) s.env with
    | error p =>
      simp only [handleAll, hc] at ht
      cases ht
    | ok res =>
      obtain ⟨err, t₁⟩ := res
      obtain rfl := handleCommand_of_accepted hacc hc
      have hbody : decodeBody (boltV1Only h) onDecodeError clock s
          = .ok (.again (s.past clock c n t₁)) := by
        simp only [decodeBody_verdictV1, show verdictV1 s.data.bytes = .emit c n from hn]
        exact handOver_none onDecodeError { s with data := s.data.drain n } hc
      have hrest : handleAll h clock (s.past clock c n t₁).handed.length fs t₁ = .ok t := by
        simp only [handleAll, hc] at ht
        rw [LoopState.length_past]
        exact ht
      obtain ⟨s', hret, hbytes, henv, hran⟩ :=
        ih ho (s.past clock c n t₁) t (IoBuffer.bytes_drain _ _ (emit_le hn)) hrest
      exact ⟨s', hret.of_again hbody, hbytes, henv, Ran.cons hc hran⟩

/-! ## §3. Segmentation. -/

/-- `Dispatch` after each chunk that is appended to the read buffer. -/
inductive FeedReturns (p : Protocols τ) (onDecodeError : GoError → τ → Except Panic τ)
    (clock : Nat → Int) : LoopState τ → List (List UInt8) → LoopState τ → Prop where
  | nil (s : LoopState τ) : FeedReturns p onDecodeError clock s [] s
  | cons {s s₁ s' : LoopState τ} {c : List UInt8} {cs : List (List UInt8)} :
      DecodeReturns p onDecodeError clock { s with data := s.data.append c } (.ok s₁) →
      FeedReturns p onDecodeError clock s₁ cs s' →
      FeedReturns p onDecodeError clock s (c :: cs) s'

theorem FeedReturns.unique {p : Protocols τ} {s₂ : LoopState τ} {cs : List (List UInt8)}
    (h₁ : FeedReturns p onDecodeError clock s cs s₁)
    (h₂ : FeedReturns p onDecodeError clock s cs s₂) : s₁ = s₂ := by
  induction h₁ with
  | nil s => cases h₂; rfl
  | cons hd _ ih =>
    cases h₂ with
    | cons hd' hf' =>
      have := Except.ok.inj (hd.unique hd')
      subst this
      exact ih hf'

theorem handleAll_append_ok {i : Nat} {cs : List Command}
    (hall : handleAll h clock i (cs ++ ds) t = .ok t') : ∃ t₁, handleAll h clock i cs t = .ok t₁
      ∧ handleAll h clock (i + cs.length) ds t₁ = .ok t' := by
  rw [handleAll_append] at hall
  cases hcs : handleAll h clock i cs t with
  | error e =>
    rw [hcs] at hall
    cases hall
  | ok t₁ =>
    rw [hcs] at hall
    exact ⟨t₁, rfl, hall⟩

theorem Ran.trans {cs : List Command}
    (h₁ : Ran h clock s s₁ cs) (h₂ : Ran h clock s₁ s' ds) : Ran h clock s s' (cs ++ ds) := by
  have hlen : s₁.handed.length = s.handed.length + cs.length := by
    rw [h₁.handed, List.length_append, length_stampAll]
  refine ⟨?_, ?_, h₂.errors.trans h₁.errors⟩
  · rw [handleAll_append, h₁.handled, ← hlen]
    exact h₂.handled
  · rw [h₂.handed, h₁.handed, stampAll_append, ← hlen, List.append_assoc, h₁.handed]

theorem feedReturns_of_feeds (onDecodeError : GoError → τ → Except Panic τ) {cs : List (List UInt8)}
    (hf : (framerV1 h).Feeds b cs fs r) : ∀ (s : LoopState τ) (t : τ), s.data.bytes = b →
      handleAll h clock s.handed.length fs s.env = .ok t →
      ∃ s', FeedReturns (boltV1Only h) onDecodeError clock s cs s'
        ∧ s'.data.bytes = r ∧ s'.env = t ∧ Ran h clock s s' fs := by
  induction hf with
  | nil b =>
    rintro s t rfl ht
    cases ht
    exact ⟨s, .nil s, rfl, rfl, Ran.nil s⟩
  | @cons b c cs fs gs r r' hd _ ih =>
    rintro s t rfl ht
    obtain ⟨t₁, ht₁, ht₂⟩ := handleAll_append_ok ht
    obtain ⟨s₁, hret, hbytes₁, henv₁, hran₁⟩ :=
      returns_of_drains onDecodeError hd rfl
        { s with data := s.data.append c } t₁ (IoBuffer.bytes_append _ _) ht₁
    -- appending the chunk changed the data only
    have hran₁' : Ran h clock s s₁ fs := ⟨hran₁.handled, hran₁.handed, hran₁.errors⟩
    have hlen : s₁.handed.length = s.handed.length + fs.length := by
      rw [hran₁'.handed, List.length_append, length_stampAll]
    rw [← hlen, ← henv₁] at ht₂
    obtain ⟨s', hfeed, hbytes, henv, hran⟩ := ih s₁ t hbytes₁ ht₂
    exact ⟨s', .cons hret hfeed, hbytes, henv, hran₁'.trans hran⟩

theorem handleAll_of_total (hh : h.Total) (clock : Nat → Int) (i : Nat) (fs : List Command)
    (t : τ) : ∃ t', handleAll h clock i fs t = .ok t' := by
  induction fs generalizing i t with
  | nil => exact ⟨t, rfl⟩
  | cons c fs ih =>
    cases hp : h.processors (c.stamp (clock i)).getCmdCode with
    | none =>
      obtain ⟨t', ht'⟩ := ih (i + 1) t
      refine ⟨t', ?_⟩
      simp only [handleAll, BoltCommandHandler.handleCommand, hp]
      exact ht'
    | some process =>
      obtain ⟨t₁, ht₁⟩ := hh.process hp (c.stamp (clock i)) t
      obtain ⟨t', ht'⟩ := ih (i + 1) t₁
      refine ⟨t', ?_⟩
      simp only [handleAll, BoltCommandHandler.handleCommand, hp, ht₁]
      exact ht'

/-- **Segmentation.**  Let one `Decode` call over a buffer that holds the
whole stream return without an error.  However the stream is cut, decoding
after every chunk hands over the same commands and leaves the same bytes.
The two runs may read different clocks if the processors return whatever the
time is; the commands then agree up to the time of their decoding. -/
theorem decode_segmentation (h : BoltCommandHandler τ)
    (onDecodeError : GoError → τ → Except Panic τ) (clock clock' : Nat → Int)
    (hclock : clock' = clock ∨ h.Total) (data data' : IoBuffer) (t : τ) (fin : LoopState τ)
    (hret : DecodeReturns (boltV1Only h) onDecodeError clock ⟨data, t, [], []⟩ (.ok fin))
    (herr : fin.errors = []) (chunks : List (List UInt8)) (hempty : data'.bytes = [])
    (hchunks : chunks.flatten = data.bytes) :
    ∃ fin', FeedReturns (boltV1Only h) onDecodeError clock' ⟨data', t, [], []⟩ chunks fin'
      ∧ (∀ g, FeedReturns (boltV1Only h) onDecodeError clock' ⟨data', t, [], []⟩ chunks g →
        g = fin')
      ∧ fin'.errors = []
      ∧ fin'.data.bytes = fin.data.bytes
      ∧ fin'.handed.map (Command.stamp 0) = fin.handed.map (Command.stamp 0)
      ∧ (clock' = clock → fin'.handed = fin.handed ∧ fin'.env = fin.env) := by
  -- down to the framer, which does not care about the cuts, and back up
  obtain ⟨fs, hd, hran⟩ := drains_of_returns hret herr
  have hfeeds : (framerV1 h).Feeds [] chunks fs fin.data.bytes := by
    refine Framer.feeds_of_drains chunks [] fs _ (framerV1 h).wait_nil ?_
    rw [List.nil_append, hchunks]
    exact hd
  have hhandled : ∃ t', handleAll h clock' 0 fs t = .ok t' := by
    rcases hclock with rfl | hh
    · exact ⟨_, hran.handled⟩
    · exact handleAll_of_total hh clock' 0 fs t
  obtain ⟨t', ht'⟩ := hhandled
  obtain ⟨fin', hfeed, hbytes, henv, hran'⟩ :=
    feedReturns_of_feeds onDecodeError hfeeds ⟨data', t, [], []⟩ t' hempty ht'
  refine ⟨fin', hfeed, fun g hg => hg.unique hfeed, hran'.errors, hbytes, ?_, ?_⟩
  · rw [hran'.handed, hran.handed]
    simp only [List.nil_append, map_stamp_stampAll]
  · grind

end Protocols

/-- A heartbeat that arrives in three pieces. -/
theorem decode_segmentation_heartbeat : ∃ fin',
    Protocols.FeedReturns (boltV1Only idleHandler) (fun _ t => .ok t) (fun _ => 0)
      (loopOver []) [[1], emptyHeartbeatV1.drop 1 |>.take 10, emptyHeartbeatV1.drop 11] fin'
      ∧ fin'.errors = [] ∧ fin'.data.bytes = []
      ∧ fin'.handed.map (Command.stamp 0)
        = [.boltRequest (requestCommandV1 emptyHeartbeatV1)] := by
  obtain ⟨fin', hfeed, _, herr, hbytes, hhanded, _⟩ :=
    Protocols.decode_segmentation idleHandler (fun _ t => .ok t) (fun _ => 0) (fun _ => 0)
      (Or.inl rfl) (.newIoBufferBytes emptyHeartbeatV1) (.newIoBufferBytes []) () _
      ⟨2, rfl⟩ rfl [[1], emptyHeartbeatV1.drop 1 |>.take 10, emptyHeartbeatV1.drop 11] rfl rfl
  exact ⟨fin', hfeed, herr, hbytes, hhanded⟩

end Mosn.Protocol.SofaRpc
