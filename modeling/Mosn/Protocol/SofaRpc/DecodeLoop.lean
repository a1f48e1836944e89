/-
  Mosn.Protocol.SofaRpc.DecodeLoop
  **WHEN THE DECODE LOOP ENDS, AND WHAT IT CONSUMES.**

  `Protocols.decode` relies on the codecs to move the buffer forward.  Three
  of the four frame kinds do; a complete V2 response stays where it is, is
  handed over again on the next pass, and the loop never ends.

    • `decodes_in_full_iff` — the loop ends with every decoded frame drained
      to its announced length, exactly when no complete V2 response frame is
      reached,
    • `decode_spins_on_responseV2` — such a frame of 22 bytes.
-/
import Mosn.Protocol.SofaRpc.Codec.Frame
import Mosn.Protocol.SofaRpc.Protocols

namespace Mosn.Protocol.SofaRpc

open Mosn.Lib Mosn.Types Mosn.Network

/-! ## §1. Command codes. -/

namespace FrameKind

/-- Where the command code is. -/
def cmdCodeAt : FrameKind → Nat
  | requestV1 | responseV1 => 2
  | requestV2 | responseV2 => 3

/-- The command code of the frame at the head of `b`. -/
def cmdCode (k : FrameKind) (b : List UInt8) : Nat :=
  BigEndian.get (slice b k.cmdCodeAt (k.cmdCodeAt + 2))

/-- A processor is registered for the frame's command code: heartbeat,
request or response. -/
def Handled (k : FrameKind) (b : List UInt8) : Prop :=
  k.cmdCode b = 0 ∨ k.cmdCode b = 1 ∨ k.cmdCode b = 2

theorem getCmdCode_command (now : Int) (b : List UInt8) (k : FrameKind) :
    (k.command now b).getCmdCode
      = (uint16 (slice b k.cmdCodeAt (k.cmdCodeAt + 2))).toInt16 := by
  cases k <;> rfl

theorem cmdCode_eq_iff (k : FrameKind) (now : Int) (b : List UInt8) (c : UInt16) :
    (k.command now b).getCmdCode = c.toInt16 ↔ k.cmdCode b = c.toNat := by
  rw [getCmdCode_command, cmdCode, ← uint16_slice, UInt16.toNat_inj]
  constructor
  · intro h
    rw [← UInt16.toUInt16_toInt16 (uint16 _), h, UInt16.toUInt16_toInt16]
  · exact congrArg _

section Handled

variable {k : FrameKind} {b : List UInt8}

theorem handled_request
    (h : (uint16 (slice b k.cmdCodeAt (k.cmdCodeAt + 2))).toInt16 = rpcRequest) : k.Handled b :=
  Or.inr (Or.inl ((k.cmdCode_eq_iff 0 b 1).mp ((getCmdCode_command 0 b k).trans h)))

theorem handled_response
    (h : (uint16 (slice b k.cmdCodeAt (k.cmdCodeAt + 2))).toInt16 = rpcResponse) : k.Handled b :=
  Or.inr (Or.inr ((k.cmdCode_eq_iff 0 b 2).mp ((getCmdCode_command 0 b k).trans h)))

theorem handled_heartbeat
    (h : (uint16 (slice b k.cmdCodeAt (k.cmdCodeAt + 2))).toInt16 = SofaRpc.heartbeat) :
    k.Handled b :=
  Or.inl ((k.cmdCode_eq_iff 0 b 0).mp ((getCmdCode_command 0 b k).trans h))

end Handled

end FrameKind

namespace BoltCommandHandler

variable {τ : Type}

theorem processors_eq_none_iff (h : BoltCommandHandler τ) (now : Int) (b : List UInt8)
    (k : FrameKind) : h.processors (k.command now b).getCmdCode = none ↔ ¬ k.Handled b := by
  have h0 : _ = SofaRpc.heartbeat ↔ _ := k.cmdCode_eq_iff now b 0
  have h1 : _ = rpcRequest ↔ _ := k.cmdCode_eq_iff now b 1
  have h2 : _ = rpcResponse ↔ _ := k.cmdCode_eq_iff now b 2
  simp only [processors, FrameKind.Handled, h0, h1, h2]
  grind

theorem handleCommand_unhandled (h : BoltCommandHandler τ) (now : Int) {b : List UInt8}
    {k : FrameKind} (hcmd : ¬ k.Handled b) (t : τ) :
    h.handleCommand (k.command now b) t = .ok (some ⟨unKnownCmdcode⟩, t) := by
  have hnone := (h.processors_eq_none_iff now b k).mpr hcmd
  simp only [BoltCommandHandler.handleCommand, hnone]

theorem processors_cases {h : BoltCommandHandler τ} {code : Int16} {process : Processor τ}
    (hp : h.processors code = some process) :
    (code = rpcRequest ∧ process = h.request) ∨ (code = rpcResponse ∧ process = h.response)
      ∨ (code = SofaRpc.heartbeat ∧ process = h.heartbeat) := by
  unfold processors at hp
  grind

theorem Total.process {h : BoltCommandHandler τ} (hh : h.Total) {code : Int16}
    {process : Processor τ} (hp : h.processors code = some process) (c : Command) (t : τ) :
    ∃ t', process c t = .ok t' := by
  rcases processors_cases hp with ⟨-, rfl⟩ | ⟨-, rfl⟩ | ⟨-, rfl⟩
  · exact hh.request c t
  · exact hh.response c t
  · exact hh.heartbeat c t

theorem Total.handleCommand {h : BoltCommandHandler τ} (hh : h.Total) (now : Int)
    (b : List UInt8) (k : FrameKind) (t : τ) :
    (k.Handled b ∧ ∃ t', h.handleCommand (k.command now b) t = .ok (none, t'))
      ∨ (¬ k.Handled b
        ∧ h.handleCommand (k.command now b) t = .ok (some ⟨unKnownCmdcode⟩, t)) := by
  have hnone := processors_eq_none_iff h now b k
  cases hp : h.processors (k.command now b).getCmdCode with
  | none => exact Or.inr ⟨hnone.mp hp, h.handleCommand_unhandled now (hnone.mp hp) t⟩
  | some process =>
    obtain ⟨t', ht'⟩ := hh.process hp (k.command now b) t
    refine Or.inl ⟨by_contra fun hc => ?_, t', ?_⟩
    · rw [hnone.mpr hc] at hp
      cases hp
    · simp only [BoltCommandHandler.handleCommand, hp, ht']
      rfl

end BoltCommandHandler

/-! ## §2. One pass of the loop. -/

namespace Protocols

variable {τ : Type} {p : Protocols τ} (onDecodeError : GoError → τ → Except Panic τ)
  (clock : Nat → Int) (s : LoopState τ)

variable {h : BoltCommandHandler τ} {proto : BoltProtocol τ} {cmd : Command} {t' : τ}

/-- A pass with a decoder that only looks at the frame ahead. -/
def passAhead (proto : BoltProtocol τ) (least : Nat) (unknown : GoError) :
    Except Panic (Next (LoopState τ)) :=
  if least ≤ s.data.len then
    match FrameKind.ahead s.data.bytes with
    | some k =>
      if k.layout.Complete s.data.bytes then
        handOver proto onDecodeError
          (k.command (clock s.handed.length) s.data.bytes) { s with data := k.advance s.data }
      else .ok (.done s)
    | none => reportError onDecodeError unknown s
  else .ok (.done s)

theorem decodeBody_passAhead {least : Nat} {unknown : GoError}
    (hp : p (s.data.bytes.getD 0 0) = some proto) (hlen : 1 < s.data.len)
    (hdec : proto.decode (clock s.handed.length) s.data
      = decodeAhead (clock s.handed.length) least unknown s.data) :
    decodeBody p onDecodeError clock s = passAhead onDecodeError clock s proto least unknown := by
  rw [decodeBody, if_pos hlen]
  simp only [hp, hdec, decodeAhead, passAhead]
  by_cases hless : least ≤ s.data.len
  · simp only [hless, ↓reduceIte]
    cases FrameKind.ahead s.data.bytes with
    | none => rfl
    | some k =>
      by_cases hc : k.layout.Complete s.data.bytes
      · simp only [hc, ↓reduceIte]
      · simp only [hc, ↓reduceIte]
  · simp only [hless, ↓reduceIte]

theorem decodeBody_boltV1 (hp : p protocolCodeV1 = some (boltV1 h))
    (hlen : 1 < s.data.len) (hcode : s.data.bytes.getD 0 0 = protocolCodeV1) :
    decodeBody p onDecodeError clock s = passAhead onDecodeError clock s (boltV1 h) lessLenV1
      (BoltV1Codec.unknownTypeError (s.data.bytes.getD 1 0)) :=
  decodeBody_passAhead onDecodeError clock s (hcode ▸ hp) hlen (BoltV1Codec.decode_eq _ _ hcode)

theorem decodeBody_boltV2 (hp : p protocolCodeV2 = some (boltV2 h))
    (hlen : 1 < s.data.len) (hcode : s.data.bytes.getD 0 0 = protocolCodeV2) :
    decodeBody p onDecodeError clock s = passAhead onDecodeError clock s (boltV2 h) lessLenV2
      (BoltV1Codec.unknownTypeError (s.data.bytes.getD 2 0)) :=
  decodeBody_passAhead onDecodeError clock s (hcode ▸ hp) hlen (BoltV2Codec.decode_eq _ _ hcode)

theorem handOver_none (h : proto.handleCommand cmd s.env = .ok (none, t')) :
    handOver proto onDecodeError cmd s
      = .ok (.again { s with env := t', handed := s.handed ++ [cmd] }) := by
  rw [handOver, h]
  rfl

theorem handOver_some {e : GoError} (h : proto.handleCommand cmd s.env = .ok (some e, t')) :
    handOver proto onDecodeError cmd s
      = reportError onDecodeError e { s with env := t', handed := s.handed ++ [cmd] } := by
  rw [handOver, h]
  rfl

/-! ## §3. Both protocols registered. -/

section Default

variable (h₁ h₂ : BoltCommandHandler τ)

/-- The handler that gets the frames of a kind. -/
def handlerOf : FrameKind → BoltCommandHandler τ
  | .requestV1 | .responseV1 => h₁
  | .requestV2 | .responseV2 => h₂

theorem decodeBody_at {k : FrameKind} (hk : k.At s.data.bytes) :
    ∃ proto : BoltProtocol τ, proto.handleCommand = (handlerOf h₁ h₂ k).handleCommand
      ∧ decodeBody (defaultProtocols h₁ h₂) onDecodeError clock s =
        handOver proto onDecodeError (k.command (clock s.handed.length) s.data.bytes)
          { s with data := k.advance s.data } := by
  have hlen : 1 < s.data.len := by
    rw [← IoBuffer.length_bytes]
    exact Nat.lt_of_lt_of_le (by decide) hk.three_le
  have hfix := hk.2.fixed_le
  rw [IoBuffer.length_bytes] at hfix
  have hkind : (k.code = protocolCodeV1 ∧ handlerOf h₁ h₂ k = h₁ ∧ lessLenV1 ≤ k.layout.fixed)
      ∨ (k.code = protocolCodeV2 ∧ handlerOf h₁ h₂ k = h₂ ∧ lessLenV2 ≤ k.layout.fixed) := by
    cases k with
    | requestV1 | responseV1 => exact Or.inl ⟨rfl, rfl, by decide⟩
    | requestV2 | responseV2 => exact Or.inr ⟨rfl, rfl, by decide⟩
  rcases hkind with ⟨hcode, hh, hless⟩ | ⟨hcode, hh, hless⟩
  · refine ⟨boltV1 h₁, by rw [hh]; rfl, ?_⟩
    rw [decodeBody_boltV1 onDecodeError clock s rfl hlen (hk.code_eq.trans hcode), passAhead,
      if_pos (Nat.le_trans hless hfix), hk.1]
    exact if_pos hk.2
  · refine ⟨boltV2 h₂, by rw [hh]; rfl, ?_⟩
    rw [decodeBody_boltV2 onDecodeError clock s rfl hlen (hk.code_eq.trans hcode), passAhead,
      if_pos (Nat.le_trans hless hfix), hk.1]
    exact if_pos hk.2

theorem decodeBody_process {k : FrameKind} {process : Processor τ} (hk : k.At s.data.bytes)
    (hp : (handlerOf h₁ h₂ k).processors
      (k.command (clock s.handed.length) s.data.bytes).getCmdCode = some process) :
    decodeBody (defaultProtocols h₁ h₂) onDecodeError clock s
      = (process (k.command (clock s.handed.length) s.data.bytes) s.env).map fun t' => .again
          { data := k.advance s.data
            env := t'
            handed := s.handed ++ [k.command (clock s.handed.length) s.data.bytes]
            errors := s.errors } := by
  obtain ⟨proto, hproto, hbody⟩ := decodeBody_at onDecodeError clock s h₁ h₂ hk
  refine hbody.trans ?_
  unfold handOver
  rw [hproto]
  simp only [BoltCommandHandler.handleCommand, hp]
  cases process (k.command (clock s.handed.length) s.data.bytes) s.env with
  | error p => rfl
  | ok t' => rfl

theorem decodeBody_of_unhandled {k : FrameKind} (hk : k.At s.data.bytes)
    (hcmd : ¬ k.Handled s.data.bytes) : ∃ s' : LoopState τ, s'.env = s.env ∧ s'.errors = s.errors
      ∧ decodeBody (defaultProtocols h₁ h₂) onDecodeError clock s
        = reportError onDecodeError ⟨unKnownCmdcode⟩ s' := by
  obtain ⟨proto, hproto, hbody⟩ := decodeBody_at onDecodeError clock s h₁ h₂ hk
  have herr := (handlerOf h₁ h₂ k).handleCommand_unhandled (clock s.handed.length) hcmd s.env
  rw [← hproto] at herr
  refine ⟨_, ?_, ?_, hbody.trans (handOver_some onDecodeError
    { s with data := k.advance s.data } herr)⟩
  · rfl
  · rfl

theorem reportError_ne_again (e : GoError) (s' : LoopState τ) :
    reportError onDecodeError e s ≠ .ok (.again s') := by
  unfold reportError
  cases onDecodeError e s.env <;> simp [bind, Except.bind, pure, Except.pure]

theorem decodeBody_no_frame (hno : ∀ k : FrameKind, ¬ k.At s.data.bytes) :
    decodeBody (defaultProtocols h₁ h₂) onDecodeError clock s = .ok (.done s)
      ∨ ∃ e, decodeBody (defaultProtocols h₁ h₂) onDecodeError clock s
        = reportError onDecodeError e s := by
  -- the part of the pass that the two protocols share
  have hrest : ∀ (proto : BoltProtocol τ) (least : Nat) (e : GoError)
      (x : Except Panic (Next (LoopState τ))), x = passAhead onDecodeError clock s proto least e →
      x = .ok (.done s) ∨ ∃ e, x = reportError onDecodeError e s := by
    intro proto least e x hx
    unfold passAhead at hx
    split at hx
    · cases ha : FrameKind.ahead s.data.bytes with
      | none =>
        rw [ha] at hx
        exact Or.inr ⟨e, hx⟩
      | some k =>
        have hc : ¬ k.layout.Complete s.data.bytes := fun hc => hno k ⟨ha, hc⟩
        simp only [ha, hc, ↓reduceIte] at hx
        exact Or.inl hx
    · exact Or.inl hx
  by_cases hlen : 1 < s.data.len
  · by_cases hv1 : s.data.bytes.getD 0 0 = protocolCodeV1
    · exact hrest _ _ _ _ (decodeBody_boltV1 (h := h₁) onDecodeError clock s rfl hlen hv1)
    · by_cases hv2 : s.data.bytes.getD 0 0 = protocolCodeV2
      · exact hrest _ _ _ _ (decodeBody_boltV2 (h := h₂) onDecodeError clock s rfl hlen hv2)
      · have hnone : defaultProtocols h₁ h₂ (s.data.bytes.getD 0 0) = none := by
          rw [defaultProtocols, if_neg hv1, if_neg hv2]
        right
        refine ⟨⟨unSupportedProCode⟩, ?_⟩
        simp only [decodeBody, hlen, ↓reduceIte, hnone]
  · left
    simp only [decodeBody, hlen, ↓reduceIte]

theorem decodeBody_ne_again (hno : ∀ k : FrameKind, ¬ k.At s.data.bytes) (s' : LoopState τ) :
    decodeBody (defaultProtocols h₁ h₂) onDecodeError clock s ≠ .ok (.again s') := by
  rcases decodeBody_no_frame onDecodeError clock s h₁ h₂ hno with h | ⟨e, h⟩
  · rw [h]
    intro heq
    cases heq
  · rw [h]
    exact reportError_ne_again onDecodeError s e s'

variable {h₁ h₂} (hh₁ : h₁.Total) (hh₂ : h₂.Total)
include hh₁ hh₂

theorem handlerOf_total (k : FrameKind) : (handlerOf h₁ h₂ k).Total := by
  cases k <;> assumption

theorem decodeBody_of_handled {k : FrameKind} (hk : k.At s.data.bytes)
    (hcmd : k.Handled s.data.bytes) :
    ∃ s', decodeBody (defaultProtocols h₁ h₂) onDecodeError clock s = .ok (.again s')
      ∧ s'.data = k.advance s.data := by
  obtain ⟨proto, hproto, hbody⟩ := decodeBody_at onDecodeError clock s h₁ h₂ hk
  rcases (handlerOf_total hh₁ hh₂ k).handleCommand (clock s.handed.length) s.data.bytes k s.env
    with ⟨_, t', ht'⟩ | ⟨hno, _⟩
  · rw [← hproto] at ht'
    exact ⟨_, hbody.trans (handOver_none onDecodeError _ ht'), rfl⟩
  · exact absurd hcmd hno

/-- **What another pass means**: a complete frame with a known command code
was at the head, and the buffer is what its decoder left. -/
theorem decodeBody_again {s' : LoopState τ}
    (h : decodeBody (defaultProtocols h₁ h₂) onDecodeError clock s = .ok (.again s')) :
    ∃ k : FrameKind, k.At s.data.bytes ∧ k.Handled s.data.bytes
      ∧ s'.data = k.advance s.data := by
  by_cases hno : ∀ k : FrameKind, ¬ k.At s.data.bytes
  · exact absurd h (decodeBody_ne_again onDecodeError clock s h₁ h₂ hno s')
  · push Not at hno
    obtain ⟨k, hk⟩ := hno
    obtain ⟨proto, hproto, hbody⟩ := decodeBody_at onDecodeError clock s h₁ h₂ hk
    rcases (handlerOf_total hh₁ hh₂ k).handleCommand (clock s.handed.length) s.data.bytes k s.env
      with ⟨hcmd, t', ht'⟩ | ⟨_, herr⟩
    · obtain ⟨s₁, hs₁, hdata⟩ := decodeBody_of_handled onDecodeError clock s hh₁ hh₂ hk hcmd
      rw [hs₁] at h
      cases h
      exact ⟨k, hk, hcmd, hdata⟩
    · rw [← hproto] at herr
      rw [hbody, handOver_some onDecodeError { s with data := k.advance s.data } herr] at h
      exact absurd h (reportError_ne_again onDecodeError _ _ s')

end Default

/-! ## §4. Termination. -/

/-- The loop entered in `s` ends, every command it decodes has been drained
to the announced length of its frame, and every pass that continues has
shortened the buffer. -/
structure DecodesInFull (p : Protocols τ) (onDecodeError : GoError → τ → Except Panic τ)
    (clock : Nat → Int) (s : LoopState τ) : Prop where
  returns : ∃ r, DecodeReturns p onDecodeError clock s r
  drains : ∀ t, Loop.Reaches (decodeBody p onDecodeError clock) s t → 1 < t.data.len →
    ∀ proto cmd data, p (t.data.bytes.getD 0 0) = some proto →
      proto.decode (clock t.handed.length) t.data = (.ok (some cmd), data) →
      ∃ k, FrameKind.ahead t.data.bytes = some k
        ∧ data.len + k.layout.frameLen t.data.bytes = t.data.len
  shrinks : ∀ t t', Loop.Reaches (decodeBody p onDecodeError clock) s t →
    decodeBody p onDecodeError clock t = .ok (.again t') → t'.data.len < t.data.len

/-- A complete V2 response frame stands at the head of `b`, or behind
complete frames of the other kinds that the loop gets past. -/
inductive ResponseV2Ahead : List UInt8 → Prop where
  | here {b : List UInt8} : FrameKind.responseV2.At b → ResponseV2Ahead b
  | behind {b : List UInt8} {k : FrameKind} : k ≠ .responseV2 → k.At b → k.Handled b →
      ResponseV2Ahead (b.drop (k.layout.frameLen b)) → ResponseV2Ahead b

end Protocols

variable {k : FrameKind} {data : IoBuffer}

theorem FrameKind.advance_eq_drain (h : k ≠ .responseV2) (data : IoBuffer) :
    k.advance data = data.drain (k.layout.frameLen data.bytes) := by
  cases k with
  | responseV2 => exact absurd rfl h
  | _ => rfl

theorem FrameKind.At.len_advance (hk : k.At data.bytes) (h : k ≠ .responseV2) :
    (k.advance data).len + k.layout.frameLen data.bytes = data.len := by
  have hle : k.layout.frameLen data.bytes ≤ data.len := by
    rw [← IoBuffer.length_bytes]
    exact hk.2
  rw [advance_eq_drain h, IoBuffer.len_drain _ _ hle]
  omega

theorem FrameKind.At.bytes_advance (hk : k.At data.bytes) (h : k ≠ .responseV2) :
    (k.advance data).bytes = data.bytes.drop (k.layout.frameLen data.bytes) := by
  have hle : k.layout.frameLen data.bytes ≤ data.len := by
    rw [← IoBuffer.length_bytes]
    exact hk.2
  rw [advance_eq_drain h, IoBuffer.bytes_drain _ _ hle]

theorem FrameKind.frameLen_pos (k : FrameKind) (b : List UInt8) : 0 < k.layout.frameLen b := by
  have := k.three_le_fixed
  unfold Layout.frameLen
  omega

namespace Protocols

variable {τ : Type} {h₁ h₂ : BoltCommandHandler τ} (hh₁ : h₁.Total) (hh₂ : h₂.Total)
  (onDecodeError : GoError → τ → Except Panic τ) (clock : Nat → Int)

theorem decode_some_at {data data' : IoBuffer} {proto : BoltProtocol τ} {now : Int} {cmd : Command}
    (hp : defaultProtocols h₁ h₂ (data.bytes.getD 0 0) = some proto)
    (hdec : proto.decode now data = (.ok (some cmd), data')) :
    ∃ k : FrameKind, k.At data.bytes ∧ data' = k.advance data := by
  -- both codecs come down to this, with their own least length and error
  have hkey : ∀ (least : Nat) (e : GoError),
      decodeAhead now least e data = (.ok (some cmd), data') →
      ∃ k : FrameKind, k.At data.bytes ∧ data' = k.advance data := by
    intro least e h
    unfold decodeAhead at h
    split at h
    · split at h
      next k ha =>
          split at h
          next hc =>
              simp only [Prod.mk.injEq] at h
              exact ⟨k, ⟨ha, hc⟩, h.2.symm⟩
          next => simp at h
      next => simp at h
    · simp at h
  unfold defaultProtocols at hp
  split at hp
  next hv =>
      cases hp
      exact hkey _ _ ((BoltV1Codec.decode_eq now data hv).symm.trans hdec)
  next =>
      split at hp
      next hv =>
          cases hp
          exact hkey _ _ ((BoltV2Codec.decode_eq now data hv).symm.trans hdec)
      next => cases hp

include hh₁ hh₂

theorem decodeBody_keeps {s s' : LoopState τ} (hs : ¬ ResponseV2Ahead s.data.bytes)
    (h : decodeBody (defaultProtocols h₁ h₂) onDecodeError clock s = .ok (.again s')) :
    ¬ ResponseV2Ahead s'.data.bytes ∧ s'.data.len < s.data.len := by
  obtain ⟨k, hk, hcmd, hdata⟩ := decodeBody_again onDecodeError clock s hh₁ hh₂ h
  have hne : k ≠ .responseV2 := by
    rintro rfl
    exact hs (.here hk)
  constructor
  · rw [hdata, hk.bytes_advance hne]
    exact fun ha => hs (.behind hne hk hcmd ha)
  · have hlen := hk.len_advance hne
    have hpos := k.frameLen_pos s.data.bytes
    rw [hdata]
    omega

theorem DecodesInFull.of_not_ahead {s : LoopState τ} (hs : ¬ ResponseV2Ahead s.data.bytes) :
    DecodesInFull (defaultProtocols h₁ h₂) onDecodeError clock s := by
  have hinv : ∀ t, Loop.Reaches (decodeBody (defaultProtocols h₁ h₂) onDecodeError clock) s t →
      ¬ ResponseV2Ahead t.data.bytes := fun t ht =>
    ht.invariant (fun t => ¬ ResponseV2Ahead t.data.bytes)
      (fun _ _ ha hb => (decodeBody_keeps hh₁ hh₂ onDecodeError clock ha hb).1) hs
  refine ⟨?_, ?_, ?_⟩
  · exact Loop.returns_of_measure (fun t => ¬ ResponseV2Ahead t.data.bytes) (fun t => t.data.len)
      (fun _ _ => decodeBody_keeps hh₁ hh₂ onDecodeError clock) s hs
  · intro t ht _ proto cmd data hp hdec
    obtain ⟨k, hk, rfl⟩ := decode_some_at hp hdec
    have hne : k ≠ .responseV2 := by
      rintro rfl
      exact hinv t ht (.here hk)
    exact ⟨k, hk.1, hk.len_advance hne⟩
  · intro t t' ht hb
    exact (decodeBody_keeps hh₁ hh₂ onDecodeError clock (hinv t ht) hb).2

omit hh₁ hh₂ in
theorem DecodesInFull.next {p : Protocols τ} {s s' : LoopState τ}
    (h : DecodesInFull p onDecodeError clock s)
    (hb : decodeBody p onDecodeError clock s = .ok (.again s')) :
    DecodesInFull p onDecodeError clock s' := by
  refine ⟨?_, fun t ht => h.drains t (.next hb ht), fun t t' ht => h.shrinks t t' (.next hb ht)⟩
  obtain ⟨r, hr⟩ := h.returns
  rcases hr.cases with ⟨e, he, _⟩ | ⟨s₁, hs₁, _⟩ | ⟨s₁, hs₁, hr₁⟩
  · rw [hb] at he
    cases he
  · rw [hb] at hs₁
    cases hs₁
  · rw [hb] at hs₁
    cases hs₁
    exact ⟨r, hr₁⟩

theorem not_decodesInFull_of_ahead {b : List UInt8} (ha : ResponseV2Ahead b) :
    ∀ s : LoopState τ, s.data.bytes = b →
      ¬ DecodesInFull (defaultProtocols h₁ h₂) onDecodeError clock s := by
  induction ha with
  | here hk =>
    rintro s rfl h
    have hcode : s.data.bytes.getD 0 0 = protocolCodeV2 := hk.code_eq
    have hlen : 1 < s.data.len := by
      rw [← IoBuffer.length_bytes]
      exact Nat.lt_of_lt_of_le (by decide) hk.three_le
    have hp : defaultProtocols h₁ h₂ (s.data.bytes.getD 0 0) = some (boltV2 h₂) := by
      rw [hcode]
      rfl
    obtain ⟨k, _, hk'⟩ := h.drains s (.here s) hlen _ _ _ hp
      (BoltV2Codec.decode_at (clock s.handed.length) hk rfl)
    have hsame : (FrameKind.responseV2.advance s.data).len = s.data.len := rfl
    have hpos := k.frameLen_pos s.data.bytes
    omega
  | behind hne hk hcmd _ ih =>
    rintro s rfl h
    obtain ⟨s', hb, hdata⟩ :=
      decodeBody_of_handled onDecodeError clock s hh₁ hh₂ hk hcmd
    refine ih s' ?_ (h.next onDecodeError clock hb)
    rw [hdata, hk.bytes_advance hne]

/-- **The decode loop, both protocols registered.**  With handlers that
return, the loop ends and drains every frame to its announced length exactly
when it does not come to a complete V2 response frame. -/
theorem decodes_in_full_iff (s : LoopState τ) :
    DecodesInFull (defaultProtocols h₁ h₂) onDecodeError clock s
      ↔ ¬ ResponseV2Ahead s.data.bytes :=
  ⟨fun h ha => not_decodesInFull_of_ahead hh₁ hh₂ onDecodeError clock ha s rfl h,
    DecodesInFull.of_not_ahead hh₁ hh₂ onDecodeError clock⟩

end Protocols

/-! ## §5. A frame that is never taken off. -/

/-- A handler that does nothing. -/
def idleHandler : BoltCommandHandler Unit where
  request := fun _ t => .ok t
  response := fun _ t => .ok t
  heartbeat := fun _ t => .ok t

theorem idleHandler_total : idleHandler.Total :=
  ⟨fun _ t => ⟨t, rfl⟩, fun _ t => ⟨t, rfl⟩, fun _ t => ⟨t, rfl⟩⟩

/-- The loop state over a buffer that holds `b`. -/
def loopOver (b : List UInt8) : Protocols.LoopState Unit where
  data := .newIoBufferBytes b
  env := ()
  handed := []
  errors := []

/-- A V1 heartbeat request with empty class, header and content. -/
def emptyHeartbeatV1 : List UInt8 :=
  [1, 1, 0, 0, 1, 0, 0, 0, 7, 1, 0, 0, 0, 100, 0, 0, 0, 0, 0, 0, 0, 0]

theorem decodes_in_full_heartbeatV1 :
    Protocols.DecodesInFull (defaultProtocols idleHandler idleHandler) (fun _ t => .ok t)
      (fun _ => 0) (loopOver emptyHeartbeatV1) := by
  refine (Protocols.decodes_in_full_iff idleHandler_total idleHandler_total _ _ _).mpr ?_
  have hnil : ¬ Protocols.ResponseV2Ahead [] := by
    intro h
    cases h with
    | here hk => exact absurd hk.three_le (by decide)
    | behind _ hk _ _ => exact absurd hk.three_le (by decide)
  rw [show (loopOver emptyHeartbeatV1).data.bytes = emptyHeartbeatV1 from rfl]
  intro h
  cases h with
  | here hk => exact absurd hk (by decide)
  | @behind _ k _ hk _ hrest =>
    cases k with
    | requestV1 => exact hnil hrest
    | _ => exact absurd hk (by decide)

/-- A V2 response with empty class, header and content. -/
def emptyResponseV2 : List UInt8 :=
  [2, 1, 0, 0, 2, 1, 0, 0, 0, 1, 1, 0, 0, 0, 0, 0, 0, 0, 0, 0, 0, 0]

/-- **A divergence.**  No bound on the number of passes is enough for a
buffer that holds one V2 response. -/
theorem decode_spins_on_responseV2 : FrameKind.responseV2.At emptyResponseV2 ∧ ∀ fuel,
    Protocols.decode (defaultProtocols idleHandler idleHandler) (fun _ t => .ok t) (fun _ => 0)
      fuel (loopOver emptyResponseV2) = none := by
  have hstep : ∀ s : Protocols.LoopState Unit, s.data.bytes = emptyResponseV2 → ∃ s',
      Protocols.decodeBody (defaultProtocols idleHandler idleHandler) (fun _ t => .ok t)
        (fun _ => 0) s = .ok (.again s') ∧ s'.data.bytes = emptyResponseV2 := by
    intro s hs
    have hk : FrameKind.responseV2.At s.data.bytes := by rw [hs]; decide
    have hcmd : FrameKind.responseV2.Handled s.data.bytes := by
      rw [hs]
      exact Or.inr (Or.inr (by decide))
    obtain ⟨s', hb, hdata⟩ := Protocols.decodeBody_of_handled (fun _ t => .ok t) (fun _ => 0) s
      idleHandler_total idleHandler_total hk hcmd
    exact ⟨s', hb, by rw [hdata]; exact hs⟩
  refine ⟨by decide, fun fuel => ?_⟩
  have hno := Loop.not_returns_of_invariant _ hstep (loopOver emptyResponseV2)
    (IoBuffer.bytes_newIoBufferBytes _)
  cases hr : Protocols.decode _ _ _ fuel (loopOver emptyResponseV2) with
  | none => rfl
  | some r => exact absurd ⟨fuel, hr⟩ (hno r)

end Mosn.Protocol.SofaRpc
