/-
  Mosn.Network.TransferOrder
  **THE ORDER OF HANDED-OVER PAYLOADS** (`pkg/network/transfer.go`, the
  transfer part of `startWriteLoop` in `pkg/network/connection.go`).

  Every `transferWrite` has a unix connection of its own, and does not wait for
  an answer; in the new process every unix connection has a goroutine of its
  own.  So the handler of a later payload may come first
  (`payloads_swapped`), or before the new connection can be written to
  (`payload_lost`).  If none does, the bytes are in order:

    • `payloads_in_order` — then the write buffer of the new connection has the
      payloads in the order of the calls.
-/
import Mosn.Network.TransferIsolation

namespace Mosn.Network.Transfer

open Mosn.Lib

/-! ## §1. Order. -/

/-- The `transferWrite` calls for a connection that handed their message over
in full, in their order. -/
def State.calls (s : State) (r : Nat) : List WriteCall :=
  s.writes.filter fun call => decide (call.read = r) && call.complete

/-- The write buffer of every new connection has the payloads of the first
calls, and those of all calls when their handlers have ended. -/
def InOrder (s : State) : Prop :=
  ∀ (o : Nat) (obj : Object), s.objects[o]? = some obj →
    s.writeBuffer o <+: ((s.calls obj.read).map WriteCall.payload).flatten
      ∧ ((∀ call ∈ s.calls obj.read, call.handling.ended = true) →
        s.writeBuffer o = ((s.calls obj.read).map WriteCall.payload).flatten)

/-- A payload has less than 2^32 bytes, and it is written when the object can be
written to and the earlier ones for the same connection are written. -/
def Sequential (s : State) : Event → Prop
  | .write _ payload _ => payload.length < 2 ^ 32
  | .append w => ∀ call ∈ s.writes[w]?, (∀ o ∈ call.handling.target, s.filterManager o = true)
      ∧ ∀ earlier ∈ s.writes.take w, earlier.read = call.read →
        earlier.complete = true → earlier.handling = .finished true
  | _ => True

instance (s : State) : (e : Event) → Decidable (Sequential s e)
  | .write _ payload _ => inferInstanceAs (Decidable (payload.length < 2 ^ 32))
  | .append w =>
    inferInstanceAs (Decidable (∀ call ∈ s.writes[w]?,
      (∀ o ∈ call.handling.target, s.filterManager o = true) ∧ ∀ earlier ∈ s.writes.take w,
        earlier.read = call.read → earlier.complete = true → earlier.handling = .finished true))
  | .read _ | .other | .request .. | .create _ | .hand _ | .finish _ | .timeout _ | .store _
  | .receive _ | .load _ | .reply .. | .result .. => isTrue trivial

theorem Sequential.prepared {s : State} {e : Event} (h : Sequential s e) : Prepared s e := by
  cases e with
  | append w => exact fun call hcall => (h call hcall).1
  | read | other | request | create | hand | finish | timeout | store | receive | load | reply
  | result | write => trivial

variable {s t : State} {r w o id : Nat} {x : Read} {call : WriteCall} {obj : Object} {e : Event}

/-! ## §2. Messages that came through. -/

/-- The handler has made something of the message. -/
def Writing.reached : Writing → Bool
  | .receiving => false
  | .loading id _ => decide (id ≠ 0)
  | .found _ _ => true
  | .finished written => written
  | .panicked => false

variable {buf payload : List UInt8}

theorem length_of_transferRecvData {stream : List UInt8}
    (h : transferRecvData stream = some (id, buf)) : 8 + buf.length ≤ stream.length := by
  obtain ⟨⟨⟨size, id'⟩, rest⟩, hhead, hdata⟩ := Option.bind_eq_some_iff.mp h
  obtain ⟨⟨buf', rest'⟩, hbuf, hparts⟩ := Option.map_eq_some_iff.mp hdata
  obtain ⟨⟨head, rest''⟩, hmsg, hparts'⟩ := Option.map_eq_some_iff.mp hhead
  cases hparts
  cases hparts'
  obtain ⟨hsize, hbuf⟩ := Option.ite_none_right_eq_some.mp hbuf
  obtain ⟨height, hmsg⟩ := Option.ite_none_right_eq_some.mp hmsg
  cases hbuf
  cases hmsg
  rw [List.length_drop] at hsize
  rw [List.length_take]
  omega

theorem complete_of_receive (hwire : ∃ cut, call.wire
      = (transferWriteMsg call.id call.payload).take cut) (hsize : call.payload.length < 2 ^ 32)
    (hreached : call.receive.reached = true) : call.complete = true := by
  obtain ⟨cut, hwire⟩ := hwire
  have hlength : (transferWriteMsg call.id call.payload).length = 9 + call.payload.length := by
    simp only [transferWriteMsg, transferSendData, transferBuildHead, List.length_cons,
      List.length_append, length_putUint32]
    omega
  by_cases hcut : (transferWriteMsg call.id call.payload).length ≤ cut
  · rw [List.take_of_length_le hcut] at hwire
    exact decide_eq_true hwire
  -- otherwise there are too few bytes for the header and the payload
  · exfalso
    unfold WriteCall.receive at hreached
    cases hbytes : call.wire with
    | nil =>
      rw [hbytes] at hreached
      cases hreached
    | cons b stream =>
      rw [hbytes] at hreached
      cases hdata : transferRecvData stream with
      | none =>
        have hzero : (Writing.loading ((transferRecvData stream).getD (0, [])).1
            ((transferRecvData stream).getD (0, [])).2).reached = true := hreached
        rw [hdata] at hzero
        cases hzero
      | some data =>
        cases cut with
        | zero => exact absurd (hbytes.symm.trans hwire) (List.cons_ne_nil _ _)
        | succ n =>
          have hstream : stream = (transferWriteMsg call.id call.payload).tail.take n :=
            (List.cons.inj (hbytes.symm.trans hwire)).2
          have hle := length_of_transferRecvData hdata
          rw [hstream] at hdata
          have hsame := (transferRecvData_msg call.id call.payload).symm.trans
            (transferRecvData_of_take hdata)
          cases hsame
          rw [hstream, List.length_take, List.length_take,
            Nat.mod_eq_of_lt hsize] at hle
          omega

/-! ## §3. The invariant. -/

/-- Of each call that handed its message over in full: is it written, and the
payload. -/
def handedOf (calls : List WriteCall) (r : Nat) : List (Bool × List UInt8) :=
  (calls.filter fun call => decide (call.read = r) && call.complete).map fun call =>
    (decide (call.handling = .finished true), call.payload)

def State.handed (s : State) (r : Nat) : List (Bool × List UInt8) := handedOf s.writes r

theorem handedOf_append (l l' : List WriteCall) (r : Nat) :
    handedOf (l ++ l') r = handedOf l r ++ handedOf l' r := by
  unfold handedOf
  rw [List.filter_append, List.map_append]

theorem handedOf_singleton (hcomplete : call.complete = true) (r : Nat) :
    handedOf [call] r
      = if call.read = r then [(decide (call.handling = .finished true), call.payload)]
        else [] := by
  simp only [handedOf, List.filter_cons, hcomplete, Bool.and_true, decide_eq_true_eq]
  split <;> rfl

theorem handedOf_modify (hcall : s.writes[w]? = some call) (stage : Writing) (r : Nat) :
    ∃ after, s.handed r = handedOf (s.writes.take w) r ++ (handedOf [call] r ++ after)
      ∧ handedOf (s.writes.modify w (WriteCall.setHandling stage)) r
        = handedOf (s.writes.take w) r ++ (handedOf [call.setHandling stage] r ++ after) := by
  obtain ⟨before, after, hwrites, hlength, hmodify⟩ := modify_split hcall
  have htake : s.writes.take w = before := by rw [hwrites, List.take_left' hlength]
  refine ⟨handedOf after r, ?_, ?_⟩
  · rw [htake, State.handed, hwrites, handedOf_append, ← List.singleton_append, handedOf_append]
  · rw [htake, hmodify, handedOf_append, ← List.singleton_append, handedOf_append]

/-- The calls whose payloads are written come before the others, and the write
buffer has theirs. -/
structure Ordered (s : State) : Prop where
  sizes : ∀ (w : Nat) (call : WriteCall), s.writes[w]? = some call →
    call.payload.length < 2 ^ 32
  sent : ∀ (w : Nat) (call : WriteCall), s.writes[w]? = some call →
    call.handling.reached = true → call.complete = true
  done : ∀ (o : Nat) (obj : Object), s.objects[o]? = some obj →
    ∃ done rest : List (List UInt8),
      s.handed obj.read = done.map (fun payload => (true, payload))
          ++ rest.map (fun payload => (false, payload))
        ∧ s.writeBuffer o = done.flatten

theorem map_snd_handed (s : State) (r : Nat) :
    (s.handed r).map Prod.snd = (s.calls r).map WriteCall.payload := by
  unfold State.handed handedOf
  rw [List.map_map]
  rfl

theorem Inv.written_of_ended (hinv : Inv s) (hnone : NonePanicked s) (hmem : call ∈ s.writes)
    (hcomplete : call.complete = true) (hended : call.handling.ended = true) :
    call.handling = .finished true := by
  obtain ⟨w, hw⟩ := List.mem_iff_getElem?.mp hmem
  have hfull := hinv.isolated.full w call hw hcomplete
  have hpanicked := hnone call hmem
  cases hstage : call.handling with
  | finished written =>
    cases written with
    | true => rfl
    | false => exact absurd hstage hfull
  | panicked => exact absurd hstage hpanicked
  | receiving | loading | found =>
    rw [hstage] at hended
    cases hended

theorem Ordered.inOrder (h : Ordered s) (hinv : Inv s) (hnone : NonePanicked s) : InOrder s := by
  intro o obj hobj
  obtain ⟨done, rest, hhanded, hbuffer⟩ := h.done o obj hobj
  have hpayloads : (s.calls obj.read).map WriteCall.payload = done ++ rest := by
    rw [← map_snd_handed, hhanded, List.map_append, List.map_map, List.map_map]
    exact congrArg₂ (· ++ ·) (List.map_id _) (List.map_id _)
  rw [hpayloads, hbuffer, List.flatten_append]
  refine ⟨List.prefix_append _ _, fun hall => ?_⟩
  have hrest : rest = [] := by
    rw [List.eq_nil_iff_forall_not_mem]
    intro payload hmem
    have hfalse : (false, payload) ∈ s.handed obj.read := by
      rw [hhanded]
      exact List.mem_append_right _ (List.mem_map_of_mem hmem)
    obtain ⟨call, hcall, hpair⟩ := List.mem_map.mp hfalse
    rw [decide_eq_true (hinv.written_of_ended hnone (List.mem_filter.mp hcall).1
      (Bool.and_eq_true_iff.mp (List.mem_filter.mp hcall).2).2 (hall call hcall))] at hpair
    cases hpair
  rw [hrest, List.flatten_nil, List.append_nil]

theorem Ordered.congr (h : Ordered s) (hobjects : t.objects = s.objects)
    (hwritten : t.written = s.written) (hwrites : t.writes = s.writes) : Ordered t := by
  have hhanded : ∀ r, t.handed r = s.handed r := by
    intro r
    rw [State.handed, hwrites]
    rfl
  have hbuffer : ∀ o, t.writeBuffer o = s.writeBuffer o := by
    intro o
    unfold State.writeBuffer
    rw [hwritten]
  refine ⟨?_, ?_, ?_⟩
  · rw [hwrites]
    exact h.sizes
  · rw [hwrites]
    exact h.sent
  · intro o obj hobj
    rw [hobjects] at hobj
    rw [hhanded, hbuffer]
    exact h.done o obj hobj

theorem Ordered.setWriting (h : Ordered s) (hcall : s.writes[w]? = some call)
    {f : WriteCall → WriteCall} {stage : Writing} (hf : f call = call.setHandling stage)
    (hbefore : call.handling ≠ .finished true) (hafter : stage ≠ .finished true)
    (hsent : stage.reached = true → call.complete = true) : Ordered (s.modifyWrite w f) := by
  have hhanded : ∀ r, (s.modifyWrite w f).handed r = s.handed r := by
    intro r
    refine map_filter_modify hcall ?_ ?_
    · rw [hf]
      rfl
    · rw [hf, decide_eq_false hbefore]
      exact congrArg (·, call.payload) (decide_eq_false hafter)
  refine ⟨?_, ?_, ?_⟩
  · intro i y hy
    obtain ⟨z, hz, rfl⟩ := getElem?_modified hy
    split
    next heq =>
      subst heq
      cases hcall.symm.trans hz
      rw [hf]
      exact h.sizes w call hcall
    next => exact h.sizes i z hz
  · intro i y hy hreached
    obtain ⟨z, hz, rfl⟩ := getElem?_modified hy
    by_cases hw : w = i
    · subst hw
      cases hcall.symm.trans hz
      rw [if_pos rfl, hf] at hreached ⊢
      exact hsent hreached
    · rw [if_neg hw] at hreached ⊢
      exact h.sent i z hz hreached
  · intro o obj hobj
    rw [hhanded]
    exact h.done o obj hobj

theorem Ordered.create (h : Ordered s) (hinv : Inv s) (hx : s.reads[r]? = some x)
    (hrunning : x.accepting = .running) :
    Ordered { s.modifyRead r (Read.setAccepting (.sending s.objects.length)) with
      idCounter := s.idCounter + 1
      objects := s.objects ++ [⟨s.idCounter + 1, r, x.data⟩] } := by
  refine ⟨h.sizes, h.sent, ?_⟩
  intro o obj hobj
  rcases getElem?_added hobj with hold | ⟨rfl, rfl⟩
  · exact h.done o obj hold
  · -- no call has been made for the new object, and nothing is written to it
    have hcalls : s.calls r = [] := by
      rw [State.calls, List.filter_eq_nil_iff]
      intro call hmem hcall
      obtain ⟨w, hw⟩ := List.mem_iff_getElem?.mp hmem
      obtain ⟨o, obj, -, hobj, hread, -⟩ := (hinv.writes w call hw).registered
      have hsame : call.read = r := of_decide_eq_true (Bool.and_eq_true_iff.mp hcall).1
      exact hinv.no_object hx hrunning o obj hobj (hread.trans hsame)
    have hbuffer : s.writeBuffer s.objects.length = [] := by
      have hnone : (s.written.filter fun y => decide (y.object = s.objects.length)) = [] := by
        rw [List.filter_eq_nil_iff]
        intro y hy hnew
        obtain ⟨-, obj, -, hobj, -⟩ := hinv.own y hy
        rw [of_decide_eq_true hnew, List.getElem?_length] at hobj
        cases hobj
      rw [State.writeBuffer, hnone]
      rfl
    refine ⟨[], [], ?_, hbuffer⟩
    show (s.calls r).map _ = []
    rw [hcalls]
    rfl

theorem Ordered.write (h : Ordered s) (hsize : payload.length < 2 ^ 32)
    (r id : Nat) (wire : List UInt8) :
    Ordered { s with writes := s.writes ++ [⟨r, id, payload, wire, .receiving⟩] } := by
  refine ⟨?_, ?_, ?_⟩
  · intro w call hcall
    rcases getElem?_added hcall with hold | ⟨-, rfl⟩
    · exact h.sizes w call hold
    · exact hsize
  · intro w call hcall hreached
    rcases getElem?_added hcall with hold | ⟨-, rfl⟩
    · exact h.sent w call hold hreached
    · cases hreached
  · intro o obj hobj
    obtain ⟨done, rest, hhanded, hbuffer⟩ := h.done o obj hobj
    rw [State.handed, handedOf_append]
    rw [State.handed] at hhanded
    rw [hhanded, List.append_assoc]
    unfold handedOf
    rw [List.filter_cons, List.filter_nil]
    -- the call counts when it is for this connection and came in full
    split
    · refine ⟨done, rest ++ [payload], ?_, hbuffer⟩
      rw [List.map_append]
      rfl
    · exact ⟨done, rest, congrArg _ (List.append_nil _), hbuffer⟩

theorem split_at_first {A B : List (Bool × List UInt8)}
    {done rest : List (List UInt8)} (hA : ∀ y ∈ A, y.1 = true)
    (h : A ++ (false, payload) :: B = done.map (fun payload => (true, payload))
      ++ rest.map (fun payload => (false, payload))) :
    ∃ rest', A = done.map (fun payload => (true, payload)) ∧ rest = payload :: rest'
      ∧ B = rest'.map (fun payload => (false, payload)) := by
  induction A generalizing done with
  | nil =>
    cases done with
    | nil =>
      cases rest with
      | nil => cases h
      | cons p rest' =>
        cases h
        exact ⟨rest', rfl, rfl, rfl⟩
    | cons d done => cases h
  | cons y A ih =>
    cases done with
    | nil => grind [List.cons.inj, List.mem_cons_self]
    | cons d done => grind

theorem writeBuffer_append (hwritten : t.written = s.written ++ [⟨o, w, buf⟩])
    (o' : Nat) : t.writeBuffer o' = s.writeBuffer o' ++ if o = o' then buf else [] := by
  unfold State.writeBuffer
  rw [hwritten, List.filter_append, List.map_append, List.flatten_append, List.filter_cons,
    List.filter_nil]
  grind

theorem Ordered.append (h : Ordered s) (hinv : Inv s) (hseq : Sequential s (.append w))
    (hcall : s.writes[w]? = some call) (hfound : call.handling = .found o buf) :
    Ordered { s.modifyWrite w (WriteCall.setHandling (.finished true)) with
      written := s.written ++ [⟨o, w, buf⟩] } := by
  have hcomplete : call.complete = true := h.sent w call hcall (by rw [hfound]; rfl)
  have hstage := (hinv.writes w call hcall).stage
  rw [hfound] at hstage
  obtain ⟨⟨obj, hobj, hread⟩, hbytes⟩ := hstage
  have hbuf : buf = call.payload := by
    rw [hbytes, WriteCall.bytes, Nat.mod_eq_of_lt (h.sizes w call hcall), List.take_length]
  refine ⟨?_, ?_, ?_⟩
  · intro i y hy
    obtain ⟨z, hz, rfl⟩ := getElem?_modified hy
    split
    · exact h.sizes i z hz
    · exact h.sizes i z hz
  · intro i y hy hreached
    obtain ⟨z, hz, rfl⟩ := getElem?_modified hy
    by_cases hw : w = i
    · subst hw
      cases hcall.symm.trans hz
      rw [if_pos rfl]
      exact hcomplete
    · rw [if_neg hw] at hreached ⊢
      exact h.sent i z hz hreached
  · intro o' obj' hobj'
    obtain ⟨done, rest, hhanded, hbuffer⟩ := h.done o' obj' hobj'
    obtain ⟨after, hbefore, hafter⟩ := handedOf_modify hcall (.finished true) obj'.read
    rw [handedOf_singleton hcomplete] at hbefore
    have hcomplete' : (call.setHandling (.finished true)).complete = true := hcomplete
    have hwritten : handedOf [call.setHandling (.finished true)] obj'.read
        = if call.read = obj'.read then [(true, call.payload)] else [] :=
      handedOf_singleton hcomplete' _
    rw [hwritten] at hafter
    rw [writeBuffer_append rfl, hbuffer]
    show ∃ done rest : List (List UInt8), handedOf (s.writes.modify w _) obj'.read = _ ∧ _
    rw [hafter]
    by_cases hsame : call.read = obj'.read
    · -- the connection of the call
      have ho : o = o' := hinv.single o o' obj obj' hobj hobj' (hread.trans hsame)
      rw [if_pos hsame, hhanded, decide_eq_false (by rw [hfound]; intro hw; cases hw)] at hbefore
      have hearlier : ∀ y ∈ handedOf (s.writes.take w) obj'.read, y.1 = true := by
        intro y hy
        obtain ⟨z, hz, rfl⟩ := List.mem_map.mp hy
        obtain ⟨hmem, hz⟩ := List.mem_filter.mp hz
        obtain ⟨hzread, hzcomplete⟩ := Bool.and_eq_true_iff.mp hz
        exact decide_eq_true ((hseq call hcall).2 z hmem
          ((of_decide_eq_true hzread).trans hsame.symm) hzcomplete)
      obtain ⟨rest', hdone, hrest, hlater⟩ := split_at_first hearlier hbefore.symm
      refine ⟨done ++ [call.payload], rest', ?_, ?_⟩
      · rw [if_pos hsame, hdone, List.map_append, List.append_assoc, ← hlater]
        rfl
      · rw [if_pos ho, List.flatten_append, List.flatten_singleton, hbuf]
    · -- another connection
      have ho : o ≠ o' := by
        intro ho
        subst ho
        cases hobj.symm.trans hobj'
        exact hsame hread.symm
      rw [if_neg hsame] at hbefore
      rw [if_neg hsame, if_neg ho]
      exact ⟨done, rest, hbefore.symm.trans hhanded, List.append_nil _⟩

/-! ## §4. All steps. -/

theorem Ordered.step (h : Ordered s) (hinv : Inv s) (hlt : s.idCounter < 2 ^ 32)
    (hseq : Sequential s e) (hstep : Step s e t) : Ordered t := by
  cases e with
  | read | request | hand | finish | timeout | store | reply | result | other =>
    obtain ⟨hwrites, hwritten, hobjects⟩ := step_elsewhere hstep rfl
    exact h.congr (hobjects fun r hcreate => by cases hcreate) hwritten hwrites
  | create r =>
    obtain ⟨x, hx, hrunning, rfl⟩ := step_create hstep
    exact h.create hinv hx hrunning
  | write r payload cut =>
    obtain ⟨-, id, -, -, -, rfl⟩ := step_write hstep
    exact h.write hseq r id _
  | receive w =>
    obtain ⟨call, hcall, hreceiving, rfl⟩ := step_receive hstep
    refine h.setWriting hcall rfl (by rw [hreceiving]; decide) (hinv.receive hlt hcall).2 ?_
    exact complete_of_receive (hinv.writes w call hcall).wire (h.sizes w call hcall)
  | load w =>
    obtain ⟨call, id, buf, hcall, hloading, hload⟩ := step_load hstep
    have hbefore : call.handling ≠ .finished true := by
      rw [hloading]
      exact nofun
    rcases hload with ⟨o, hid, rfl⟩ | ⟨-, rfl⟩
    · refine h.setWriting hcall rfl hbefore nofun fun _ => ?_
      -- a message that was cut off has the id 0, which no object has
      obtain ⟨obj, hobj, hobjId⟩ := hinv.map id o hid
      have htwo := (hinv.ids o obj hobj).1
      refine h.sent w call hcall ?_
      rw [hloading]
      exact decide_eq_true (by omega)
    · exact h.setWriting hcall rfl hbefore (by decide) nofun
  | append w =>
    obtain ⟨call, o, buf, hcall, hfound, ⟨-, rfl⟩ | ⟨hnot, -⟩⟩ := step_append hstep
    · exact h.append hinv hseq hcall hfound
    · have hset := (hseq call hcall).1 o (by rw [hfound]; rfl)
      cases hset.symm.trans hnot

theorem Ordered.init : Ordered State.init where
  sizes := fun w call hcall => by cases hcall
  sent := fun w call hcall => by cases hcall
  done := fun o obj hobj => by cases hobj

/-- **Payloads are in order** when the handlers come in the order of the calls,
and not before the connection can be written to. -/
theorem payloads_in_order {es : List Event} (h : EveryStep Step Sequential State.init es) :
    EveryState Step (fun s => s.idCounter < 2 ^ 32 → InOrder s) State.init es := by
  have hordered : EveryState Step
      (fun s => s.idCounter < 2 ^ 32 → Inv s ∧ NonePanicked s ∧ Ordered s) State.init es := by
    refine h.everyState _ ?_ fun _ => ⟨Inv.init, fun _ hcall => (by cases hcall), Ordered.init⟩
    intro s e t hs hseq hstep hlt
    have hlt : s.idCounter < 2 ^ 32 := Nat.lt_of_le_of_lt (idCounter_le hstep) hlt
    obtain ⟨hinv, hnone, hord⟩ := hs hlt
    exact ⟨hinv.step hlt hstep, hnone.step hseq.prepared hstep, hord.step hinv hlt hseq hstep⟩
  intro before after s hes hrun hlt
  obtain ⟨hinv, hnone, hord⟩ := hordered before after s hes hrun hlt
  exact hord.inOrder hinv hnone

/-- Two hand-overs for one connection, one handler after the other. -/
theorem payloads_in_order_two :
    EveryState Step (fun s => s.idCounter < 2 ^ 32 → InOrder s) State.init
      [.read [], .request 0 true true true, .create 0, .hand 0, .store 0, .reply 0 4,
        .finish 0, .result 0 true, .write 0 [1] 100, .write 0 [2] 100, .receive 1, .load 1,
        .receive 0, .load 0, .append 0, .append 1] :=
  payloads_in_order (everyStep_of_checkSteps (f := step)
    (p := fun s e => decide (Sequential s e)) (fun _ _ => of_decide_eq_true) (by decide +kernel))

/-- Two hand-overs for one connection; the handler of the second comes
first. -/
theorem payloads_swapped : ∃ s, Run Step State.init
        [.read [], .request 0 true true true, .create 0, .hand 0, .finish 0, .store 0, .reply 0 4,
          .result 0 true, .write 0 [1] 100, .write 0 [2] 100, .receive 1, .load 1, .append 1,
          .receive 0, .load 0, .append 0] s
      ∧ ((s.calls 0).map WriteCall.payload).flatten = [1, 2]
      ∧ (∀ call ∈ s.calls 0, call.handling = .finished true)
      ∧ s.writeBuffer 0 = [2, 1] := by
  refine ⟨_, run_of_runSteps (f := step) rfl, ?_, ?_, ?_⟩
  · decide +kernel
  · decide +kernel
  · decide +kernel

end Mosn.Network.Transfer
