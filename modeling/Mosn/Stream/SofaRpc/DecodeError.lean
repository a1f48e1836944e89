/-
  Mosn.Stream.SofaRpc.DecodeError
  **FRAMES THAT CANNOT BE DECODED.**

  Three things can be wrong with the next frame of a connection: its protocol
  code is not registered, its type byte is none of the three, or no processor
  is registered for its command code.  The loop reports each of them, and
  `OnDecodeError` decides by the TEXT of the error whether to close the
  connection.  The text for an unknown type is not one of those it compares
  with, so that connection stays open, with the frame still in the buffer.
-/
import Mosn.Protocol.SofaRpc.DecodeLoop
import Mosn.Stream.SofaRpc.Stream

namespace Mosn.Stream.SofaRpc

open Mosn.Lib Mosn.Types Mosn.Network Mosn.Protocol Mosn.Protocol.SofaRpc

/-! ## §1. Faulty frames. -/

/-- What can be wrong with a frame. -/
inductive Fault where
  | protocolCode
  | cmdType
  | cmdCode
  deriving Repr, DecidableEq

namespace Fault

/-- The next frame of `b` has this fault.  The type byte counts once the codec
looks at it, the command code once the frame is complete. -/
def At (b : List UInt8) : Fault → Prop
  | protocolCode => b ≠ [] ∧ b.getD 0 0 ≠ protocolCodeV1 ∧ b.getD 0 0 ≠ protocolCodeV2
  | cmdType =>
    (b.getD 0 0 = protocolCodeV1 ∧ lessLenV1 ≤ b.length
      ∨ b.getD 0 0 = protocolCodeV2 ∧ lessLenV2 ≤ b.length) ∧ FrameKind.ahead b = none
  | cmdCode => ∃ k : FrameKind, k.At b ∧ ¬ k.Handled b

/-- The error that is reported for it. -/
def error (b : List UInt8) : Fault → GoError
  | protocolCode => ⟨unSupportedProCode⟩
  | cmdType => BoltV1Codec.unknownTypeError (b.getD (FrameKind.typeAt (b.getD 0 0)) 0)
  | cmdCode => ⟨unKnownCmdcode⟩

end Fault

/-! ## §2. The loop reports them. -/

section Loop

variable {τ : Type} (h₁ h₂ : BoltCommandHandler τ) (onDecodeError : GoError → τ → Except Panic τ)
  (clock : Nat → Int) (s : Protocols.LoopState τ)

/-- **A pass over a faulty frame reports its error** and does nothing else to
what is behind the filter. -/
theorem decodeBody_fault (f : Fault) (hf : f.At s.data.bytes) (hlen : 1 < s.data.len) :
    ∃ s' : Protocols.LoopState τ, s'.env = s.env ∧ s'.errors = s.errors
      ∧ Protocols.decodeBody (defaultProtocols h₁ h₂) onDecodeError clock s
        = Protocols.reportError onDecodeError (f.error s.data.bytes) s' := by
  cases f with
  | protocolCode =>
    obtain ⟨-, hv1, hv2⟩ := hf
    have hnone : defaultProtocols h₁ h₂ (s.data.bytes.getD 0 0) = none := by
      rw [defaultProtocols, if_neg hv1, if_neg hv2]
    refine ⟨s, rfl, rfl, ?_⟩
    simp only [Protocols.decodeBody, hlen, ↓reduceIte, hnone]
    rfl
  | cmdType =>
    obtain ⟨hcode, hahead⟩ := hf
    refine ⟨s, rfl, rfl, ?_⟩
    rw [IoBuffer.length_bytes] at hcode
    rcases hcode with ⟨hv1, hless⟩ | ⟨hv2, hless⟩
    · rw [Protocols.decodeBody_boltV1 (h := h₁) onDecodeError clock s rfl hlen hv1,
        Protocols.passAhead, if_pos hless, hahead]
      simp only [Fault.error, hv1]
      rfl
    · rw [Protocols.decodeBody_boltV2 (h := h₂) onDecodeError clock s rfl hlen hv2,
        Protocols.passAhead, if_pos hless, hahead]
      simp only [Fault.error, hv2]
      rfl
  | cmdCode =>
    obtain ⟨k, hk, hcmd⟩ := hf
    exact Protocols.decodeBody_of_unhandled onDecodeError clock s h₁ h₂ hk hcmd

end Loop

/-! ## §3. The connection. -/

theorem head_append {s t : String} {c : Char} (h : s.toList.head? = some c) :
    (s ++ t).toList.head? = some c := by
  rw [String.toList_append, List.head?_append, h]
  rfl

theorem head_unknownTypeError (dataType : UInt8) :
    (BoltV1Codec.unknownTypeError dataType).text.toList.head? = some 'D' := by
  refine head_append (head_append (head_append ?_))
  decide

namespace StreamConnection

variable {ρ : Type}

/-- **An unknown type is ignored.** -/
theorem onDecodeError_unknownType (conn : StreamConnection ρ) (dataType : UInt8) :
    conn.onDecodeError (BoltV1Codec.unknownTypeError dataType) none = .ok conn := by
  have hne : ∀ text : String, text.toList.head? ≠ some 'D' →
      (BoltV1Codec.unknownTypeError dataType).text ≠ text := by
    intro text htext heq
    exact htext (heq ▸ head_unknownTypeError dataType)
  rw [onDecodeError, if_neg, if_neg (hne _ (by decide))]
  rintro (h | h | h)
  · exact hne _ (by decide) h
  · exact hne _ (by decide) h
  · exact hne _ (by decide) h

theorem onDecodeError_fault (conn : StreamConnection ρ) (f : Fault) (b : List UInt8) :
    conn.onDecodeError (f.error b) none
      = .ok { conn with closed := conn.closed || decide (f ≠ .cmdType) } := by
  cases f with
  | protocolCode =>
    have htext : (Fault.error b .protocolCode).text = unSupportedProCode := rfl
    rw [onDecodeError, if_pos (Or.inl htext)]
    simp
  | cmdType =>
    rw [Fault.error, onDecodeError_unknownType]
    simp
  | cmdCode =>
    have htext : (Fault.error b .cmdCode).text = unKnownCmdcode := rfl
    rw [onDecodeError, if_pos (Or.inr (Or.inl htext))]
    simp

variable (order : HeaderOrder) (spare : List UInt8) (clock : Nat → Int)

/-- The loop reports one error and leaves the connection closed. -/
def ReportsAndCloses (s : ConnLoop ρ) : Prop :=
  ∃ s' e, (protocols order spare).DecodeReturns reportDecodeError clock s (.ok s')
    ∧ s'.errors = s.errors ++ [e] ∧ s'.env.filter.closed = true

/-- **Which faulty frames close the connection.**  With a faulty frame at the
head of the buffer of an open connection, the loop reports an error and closes
the connection if and only if the fault is not the frame's type, and more than
one byte has arrived. -/
theorem fault_closes_iff (s : ConnLoop ρ) (f : Fault)
    (hf : f.At s.data.bytes) (hopen : s.env.filter.closed = false) :
    ReportsAndCloses order spare clock s ↔ f ≠ .cmdType ∧ 1 < s.data.len := by
  by_cases hlen : 1 < s.data.len
  · obtain ⟨s', henv, herrors, hbody⟩ := decodeBody_fault
      (newBoltCommandHandler filter order spare) (newBoltCommandHandlerV2 filter order spare)
      reportDecodeError clock s f hf hlen
    have hreturns : (protocols order spare).DecodeReturns reportDecodeError clock s
        (.ok { s' with
          env := { s'.env with
            filter := { s'.env.filter with
              closed := s'.env.filter.closed || decide (f ≠ .cmdType) } }
          errors := s'.errors ++ [f.error s.data.bytes] }) := by
      apply Loop.Returns.of_done
      refine hbody.trans ?_
      rw [Protocols.reportError, reportDecodeError, onDecodeError_fault]
      rfl
    constructor
    · rintro ⟨t, e, ht, -, hclosed⟩
      cases Loop.Returns.unique ht hreturns
      refine ⟨?_, hlen⟩
      rintro rfl
      rw [henv, hopen] at hclosed
      cases hclosed
    · rintro ⟨hne, -⟩
      refine ⟨_, _, hreturns, by rw [herrors], ?_⟩
      simp [hne]
  · have hreturns : (protocols order spare).DecodeReturns reportDecodeError clock s (.ok s) := by
      apply Loop.Returns.of_done
      simp only [Protocols.decodeBody, hlen, ↓reduceIte]
    constructor
    · rintro ⟨t, e, ht, herrors, -⟩
      cases Loop.Returns.unique ht hreturns
      simp at herrors
    · rintro ⟨-, h⟩
      exact absurd h hlen

/-- The loop over `b`, on a new client connection. -/
def loopOnClient (b : List UInt8) : ConnLoop Unit where
  data := .newIoBufferBytes b
  env := ⟨⟨0⟩, newStreamConnection none⟩
  handed := []
  errors := []

theorem fault_closes_unregistered :
    ReportsAndCloses GoMap.someOrder [] (fun _ => 0) (loopOnClient [7, 0]) :=
  (fault_closes_iff GoMap.someOrder [] (fun _ => 0) (loopOnClient [7, 0]) .protocolCode
    ⟨by decide, by decide, by decide⟩ rfl).mpr ⟨by decide, by decide⟩

/-- The shortest V1 header, with the type byte 7. -/
def unknownTypeFrame : List UInt8 := [1, 7] ++ List.replicate 18 0

/-- **The connection stays open**, with every byte of the frame still in its
buffer. -/
theorem unknown_type_stays_open : Fault.cmdType.At unknownTypeFrame
      ∧ dispatch GoMap.someOrder [] (fun _ => 0) 1 (loopOnClient unknownTypeFrame).env
          (loopOnClient unknownTypeFrame).data
        = some (.ok { loopOnClient unknownTypeFrame with
            errors := [⟨"Decode Error, type = Unknown request type, value = 7"⟩] }) :=
  ⟨⟨Or.inl ⟨rfl, by decide⟩, rfl⟩, rfl⟩

end StreamConnection

end Mosn.Stream.SofaRpc
