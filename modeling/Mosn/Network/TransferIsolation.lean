/-
  Mosn.Network.TransferIsolation
  **HANDED-OVER CONNECTIONS ARE KEPT APART** (`pkg/network/transfer.go`).

  The identity of a connection goes from `NewServerConnection` through a
  channel, `transferMap`, a 32-bit answer, the write loop of the old process
  and a 32-bit header back to the map.  `Inv` says, for every place on this
  way, that what is there leads to the object of the same `transferRead`:

    • `connections_isolated` — after any interleaving, as long as the ids fit
      into 32 bits.
-/
import Mosn.Network.Transfer

namespace Mosn.Network.Transfer

open Mosn.Lib

variable {s t : State} {r w o id : Nat} {x : Read} {call : WriteCall} {obj : Object} {e : Event}

/-! ## §1. The steps, read off. -/

theorem step_request {typeOk dataOk listener : Bool}
    (h : Step s (.request r typeOk dataOk listener) t) :
    ∃ x, s.reads[r]? = some x ∧ x.handling = .receiving
      ∧ t = s.modifyRead r (Read.request typeOk dataOk listener) := by
  obtain ⟨x, hx, h⟩ := Option.bind_eq_some_iff.mp h
  obtain ⟨hstage, h⟩ := Option.ite_none_right_eq_some.mp h
  exact ⟨x, hx, hstage, (Option.some.inj h).symm⟩

theorem step_create (h : Step s (.create r) t) : ∃ x, s.reads[r]? = some x ∧ x.accepting = .running
      ∧ t = { s.modifyRead r (Read.setAccepting (.sending s.objects.length)) with
        idCounter := s.idCounter + 1
        objects := s.objects ++ [⟨s.idCounter + 1, r, x.data⟩] } := by
  obtain ⟨x, hx, h⟩ := Option.bind_eq_some_iff.mp h
  obtain ⟨hstage, h⟩ := Option.ite_none_right_eq_some.mp h
  exact ⟨x, hx, hstage, (Option.some.inj h).symm⟩

theorem step_hand (h : Step s (.hand r) t) : ∃ x o, s.reads[r]? = some x ∧ x.accepting = .sending o
      ∧ t = s.modifyRead r fun x => (x.setAccepting .sent).setHandling (.received o) := by
  obtain ⟨x, hx, h⟩ := Option.bind_eq_some_iff.mp h
  split at h
  case h_1 o _ haccepting => exact ⟨x, o, hx, haccepting, (Option.some.inj h).symm⟩
  case h_2 => cases h

theorem step_finish (h : Step s (.finish r) t) :
    ∃ x, s.reads[r]? = some x ∧ x.accepting = .sent
      ∧ t = s.modifyRead r (Read.setAccepting .done) := by
  obtain ⟨x, hx, h⟩ := Option.bind_eq_some_iff.mp h
  obtain ⟨hstage, h⟩ := Option.ite_none_right_eq_some.mp h
  exact ⟨x, hx, hstage, (Option.some.inj h).symm⟩

theorem step_timeout (h : Step s (.timeout r) t) :
    ∃ x, s.reads[r]? = some x ∧ t = s.modifyRead r (Read.setHandling .failing) := by
  obtain ⟨x, hx, h⟩ := Option.bind_eq_some_iff.mp h
  obtain ⟨-, h⟩ := Option.ite_none_right_eq_some.mp h
  exact ⟨x, hx, (Option.some.inj h).symm⟩

theorem step_store (h : Step s (.store r) t) :
    ∃ x o obj, s.reads[r]? = some x ∧ x.handling = .received o ∧ s.objects[o]? = some obj
      ∧ t = { s.modifyRead r (Read.setHandling (.stored o)) with
        transferMap := Function.update s.transferMap obj.id (some o) } := by
  obtain ⟨x, hx, h⟩ := Option.bind_eq_some_iff.mp h
  split at h
  case h_1 o hstage =>
    obtain ⟨obj, hobj, h⟩ := Option.bind_eq_some_iff.mp h
    exact ⟨x, o, obj, hx, hstage, hobj, (Option.some.inj h).symm⟩
  case h_2 => cases h

variable {cut : Nat} {stage : Writing} {buf : List UInt8}

theorem step_reply (h : Step s (.reply r cut) t) : ∃ x reply, s.reads[r]? = some x
      ∧ ((∃ o obj, x.handling = .stored o ∧ s.objects[o]? = some obj
          ∧ reply = (transferSendID obj.id).take cut)
        ∨ reply = (transferSendID transferErr).take cut)
      ∧ t = s.modifyRead r (Read.setHandling (.finished reply)) := by
  obtain ⟨x, hx, h⟩ := Option.bind_eq_some_iff.mp h
  split at h
  case h_1 o hstage =>
    obtain ⟨obj, hobj, h⟩ := Option.bind_eq_some_iff.mp h
    exact ⟨x, _, hx, Or.inl ⟨o, obj, hstage, hobj, rfl⟩, (Option.some.inj h).symm⟩
  case h_2 => exact ⟨x, _, hx, Or.inr rfl, (Option.some.inj h).symm⟩
  case h_3 => cases h

theorem step_result {ok : Bool} (h : Step s (.result r ok) t) : ∃ x id, s.reads[r]? = some x
      ∧ ((∃ reply, x.handling = .finished reply ∧ id = transferRecvID reply) ∨ id = transferErr)
      ∧ t = s.modifyRead r (Read.setResult id) := by
  obtain ⟨x, hx, h⟩ := Option.bind_eq_some_iff.mp h
  obtain ⟨-, h⟩ := Option.ite_none_right_eq_some.mp h
  split at h
  case h_1 reply hstage _ _ =>
    exact ⟨x, _, hx, Or.inl ⟨reply, hstage, rfl⟩, (Option.some.inj h).symm⟩
  case h_2 => exact ⟨x, _, hx, Or.inr rfl, (Option.some.inj h).symm⟩
  case h_3 => cases h

theorem step_write {payload : List UInt8} (h : Step s (.write r payload cut) t) :
    ∃ x id, s.reads[r]? = some x ∧ x.result = some id ∧ id ≠ transferErr
      ∧ t = { s with writes := s.writes
        ++ [⟨r, id, payload, (transferWriteMsg id payload).take cut, .receiving⟩] } := by
  obtain ⟨x, hx, h⟩ := Option.bind_eq_some_iff.mp h
  obtain ⟨id, hid, h⟩ := Option.bind_eq_some_iff.mp h
  obtain ⟨htaken, h⟩ := Option.ite_none_right_eq_some.mp h
  exact ⟨x, id, hx, hid, htaken, (Option.some.inj h).symm⟩

theorem step_receive (h : Step s (.receive w) t) :
    ∃ call, s.writes[w]? = some call ∧ call.handling = .receiving
      ∧ t = s.modifyWrite w fun call => call.setHandling call.receive := by
  obtain ⟨call, hcall, h⟩ := Option.bind_eq_some_iff.mp h
  obtain ⟨hstage, h⟩ := Option.ite_none_right_eq_some.mp h
  exact ⟨call, hcall, hstage, (Option.some.inj h).symm⟩

theorem step_load (h : Step s (.load w) t) :
    ∃ call id buf, s.writes[w]? = some call ∧ call.handling = .loading id buf
      ∧ ((∃ o, s.transferMap id = some o
          ∧ t = s.modifyWrite w (WriteCall.setHandling (.found o buf)))
        ∨ (s.transferMap id = none
          ∧ t = s.modifyWrite w (WriteCall.setHandling (.finished false)))) := by
  obtain ⟨call, hcall, h⟩ := Option.bind_eq_some_iff.mp h
  split at h
  case h_1 id buf hstage =>
    refine ⟨call, id, buf, hcall, hstage, ?_⟩
    split at h
    case h_1 o hfound => exact Or.inl ⟨o, hfound, (Option.some.inj h).symm⟩
    case h_2 hmissing => exact Or.inr ⟨hmissing, (Option.some.inj h).symm⟩
  case h_2 => cases h

theorem step_append (h : Step s (.append w) t) :
    ∃ call o buf, s.writes[w]? = some call ∧ call.handling = .found o buf
      ∧ ((s.filterManager o = true
          ∧ t = { s.modifyWrite w (WriteCall.setHandling (.finished true)) with
            written := s.written ++ [⟨o, w, buf⟩] })
        ∨ (s.filterManager o = false
          ∧ t = s.modifyWrite w (WriteCall.setHandling .panicked))) := by
  obtain ⟨call, hcall, h⟩ := Option.bind_eq_some_iff.mp h
  split at h
  case h_1 o buf hstage =>
    refine ⟨call, o, buf, hcall, hstage, ?_⟩
    split at h
    case isTrue hset => exact Or.inl ⟨hset, (Option.some.inj h).symm⟩
    case isFalse hnil => exact Or.inr ⟨by simpa using hnil, (Option.some.inj h).symm⟩
  case h_2 => cases h

/-- The events of the handlers of `transferWrite`. -/
def Event.writing : Event → Bool
  | .write .. | .receive _ | .load _ | .append _ => true
  | .read _ | .request .. | .create _ | .hand _ | .finish _ | .timeout _ | .store _ | .reply ..
  | .result .. | .other => false

theorem step_elsewhere (h : Step s e t) (he : e.writing = false) :
    t.writes = s.writes ∧ t.written = s.written
      ∧ ((∀ r, e ≠ .create r) → t.objects = s.objects) := by
  cases e <;> simp only [Step, step, Option.bind_eq_bind, Option.bind_eq_some_iff] at h <;>
    grind [State.modifyRead, Event.writing]

/-! ## §2. The places on the way. -/

/-- The object `o` was made for `r`. -/
def Made (s : State) (r o : Nat) : Prop := ∃ obj, s.objects[o]? = some obj ∧ obj.read = r

/-- What a `transferRead` may take for an answer. -/
def Answer (s : State) (r id : Nat) : Prop := id = transferErr ∨ Registered s r id

/-- What `OnAccept` may have in its hands. -/
def AcceptOk (s : State) (r : Nat) : Accepting → Prop
  | .sending o => Made s r o
  | .idle | .running | .sent | .done => True

/-- How far the handler of a `transferRead` can be. -/
def HandleOk (s : State) (r : Nat) : Handling → Prop
  | .received o => Made s r o
  | .stored o => ∃ obj, s.objects[o]? = some obj ∧ obj.read = r ∧ s.transferMap obj.id = some o
  | .finished reply => Answer s r (transferRecvID reply)
  | .receiving | .waiting | .failing => True

/-- The objects that a `transferRead` and its goroutines know are its own. -/
structure ReadOk (s : State) (r : Nat) (x : Read) : Prop where
  idle : x.handling = .receiving → x.accepting = .idle
  accepting : AcceptOk s r x.accepting
  handling : HandleOk s r x.handling
  result : ∀ id, x.result = some id → Answer s r id

/-- How far the handler of a `transferWrite` can be. -/
def StageOk (s : State) (call : WriteCall) : Writing → Prop
  | .receiving | .panicked => True
  | .loading id buf =>
    (id = 0 ∧ call.complete = false) ∨ (id = call.id ∧ buf = call.bytes)
  | .found o buf => Made s call.read o ∧ buf = call.bytes
  | .finished written => written = false → call.complete = false

/-- The id of a `transferWrite` is registered for its `transferRead`. -/
structure CallOk (s : State) (call : WriteCall) : Prop where
  registered : Registered s call.read call.id
  wire : ∃ cut, call.wire = (transferWriteMsg call.id call.payload).take cut
  stage : StageOk s call call.handling

/-- The objects, the entries of the map and the calls stay. -/
structure Extends (s t : State) : Prop where
  objects : ∀ (o : Nat) (obj : Object), s.objects[o]? = some obj → t.objects[o]? = some obj
  map : ∀ (id o : Nat), s.transferMap id = some o → t.transferMap id = some o
  calls : ∀ (w : Nat) (call : WriteCall), s.writes[w]? = some call →
    ∃ call', t.writes[w]? = some call' ∧ call'.read = call.read ∧ call'.bytes = call.bytes

theorem Extends.of_eq (hobjects : t.objects = s.objects) (hmap : t.transferMap = s.transferMap)
    (hwrites : t.writes = s.writes) : Extends s t := by
  refine ⟨?_, ?_, ?_⟩
  · rw [hobjects]
    exact fun _ _ hobj => hobj
  · rw [hmap]
    exact fun _ _ hid => hid
  · rw [hwrites]
    exact fun _ call hcall => ⟨call, hcall, rfl, rfl⟩

theorem Extends.modifyWrite {f : WriteCall → WriteCall}
    (hf : ∀ call, (f call).read = call.read ∧ (f call).payload = call.payload) :
    Extends s (s.modifyWrite w f) := by
  refine ⟨fun _ _ hobj => hobj, fun _ _ hid => hid, fun i call hcall => ?_⟩
  refine ⟨_, getElem?_modify_of hcall w f, ?_⟩
  split
  · exact ⟨(hf call).1, by rw [WriteCall.bytes, (hf call).2]; rfl⟩
  · exact ⟨rfl, rfl⟩

theorem Made.mono (h : Made s r o) (hext : Extends s t) : Made t r o :=
  h.imp fun obj hobj => ⟨hext.objects o obj hobj.1, hobj.2⟩

theorem Registered.mono (h : Registered s r id) (hext : Extends s t) : Registered t r id := by
  obtain ⟨o, obj, hmap, hobj, hown⟩ := h
  exact ⟨o, obj, hext.map id o hmap, hext.objects o obj hobj, hown⟩

theorem Answer.mono (h : Answer s r id) (hext : Extends s t) : Answer t r id :=
  h.imp_right fun hregistered => hregistered.mono hext

theorem Owned.mono {y : Written} (h : Owned s y) (hext : Extends s t) : Owned t y := by
  obtain ⟨call, obj, hcall, hobj, hread, hbuf⟩ := h
  obtain ⟨call', hcall', hread', hbuf'⟩ := hext.calls _ call hcall
  exact ⟨call', obj, hcall', hext.objects _ obj hobj, hread.trans hread'.symm,
    hbuf.trans hbuf'.symm⟩

theorem ReadOk.mono (h : ReadOk s r x) (hext : Extends s t) : ReadOk t r x := by
  obtain ⟨hidle, haccepting, hhandling, hresult⟩ := h
  refine ⟨hidle, ?_, ?_, fun id hid => (hresult id hid).mono hext⟩
  · cases hstage : x.accepting with
    | sending o =>
      rw [hstage] at haccepting
      exact Made.mono haccepting hext
    | idle | running | sent | done => trivial
  · cases hstage : x.handling with
    | received o =>
      rw [hstage] at hhandling
      exact Made.mono hhandling hext
    | stored o =>
      rw [hstage] at hhandling
      obtain ⟨obj, hobj, hread, hid⟩ := hhandling
      exact ⟨obj, hext.objects o obj hobj, hread, hext.map _ o hid⟩
    | finished reply =>
      rw [hstage] at hhandling
      exact Answer.mono hhandling hext
    | receiving | waiting | failing => trivial

theorem CallOk.mono (h : CallOk s call) (hext : Extends s t) : CallOk t call := by
  obtain ⟨hregistered, hwire, hok⟩ := h
  refine ⟨hregistered.mono hext, hwire, ?_⟩
  cases hstage : call.handling with
  | found o buf =>
    rw [hstage] at hok
    exact ⟨Made.mono hok.1 hext, hok.2⟩
  | receiving | loading | finished | panicked =>
    rw [hstage] at hok
    exact hok

theorem CallOk.setHandling (h : CallOk s call) (hok : StageOk s call stage) :
    CallOk s (call.setHandling stage) :=
  ⟨h.registered, h.wire, by cases stage <;> exact hok⟩

/-! ## §3. The invariant. -/

structure Inv (s : State) : Prop where
  ids : ∀ (o : Nat) (obj : Object), s.objects[o]? = some obj → 2 ≤ obj.id ∧ obj.id ≤ s.idCounter
  counter : 1 ≤ s.idCounter
  distinct : KeyIndex Object.id s.objects
  single : KeyIndex Object.read s.objects
  made : ∀ (o : Nat) (obj : Object), s.objects[o]? = some obj →
    ∃ x, s.reads[obj.read]? = some x ∧ x.accepting.made = true
  map : ∀ (id o : Nat), s.transferMap id = some o → ∃ obj, s.objects[o]? = some obj ∧ obj.id = id
  reads : ∀ (r : Nat) (x : Read), s.reads[r]? = some x → ReadOk s r x
  writes : ∀ (w : Nat) (call : WriteCall), s.writes[w]? = some call → CallOk s call
  own : ∀ y ∈ s.written, Owned s y
  once : ∀ (w : Nat) (call : WriteCall), s.writes[w]? = some call →
    (s.written.countP fun y => decide (y.call = w))
      = if call.handling = .finished true then 1 else 0

theorem handler_goes_on (hcall : s.writes[w]? = some call) : call.handling.ended = true
      ∨ ∃ t, Step s (.receive w) t ∨ Step s (.load w) t ∨ Step s (.append w) t := by
  cases hhandling : call.handling with
  | finished | panicked => exact Or.inl rfl
  | receiving =>
    refine Or.inr ⟨s.modifyWrite w fun call => call.setHandling call.receive, Or.inl ?_⟩
    simp [Step, step, hcall, hhandling]
  | loading id buf =>
    simp only [Step, step, hcall, hhandling, Option.bind_eq_bind, Option.bind_some]
    cases s.transferMap id with
    | none => exact Or.inr ⟨_, Or.inr (Or.inl rfl)⟩
    | some o => exact Or.inr ⟨_, Or.inr (Or.inl rfl)⟩
  | found o buf =>
    simp only [Step, step, hcall, hhandling, Option.bind_eq_bind, Option.bind_some]
    cases s.filterManager o with
    | false => exact Or.inr ⟨_, Or.inr (Or.inr rfl)⟩
    | true => exact Or.inr ⟨_, Or.inr (Or.inr rfl)⟩

theorem Inv.isolated (h : Inv s) : Isolated s where
  own := h.own
  once := h.once
  full := by
    intro w call hcall hcomplete hfinished
    have hstage := (h.writes w call hcall).stage
    rw [hfinished] at hstage
    exact absurd (hcomplete.symm.trans (hstage rfl)) (by decide)
  goesOn := fun _ _ hcall => handler_goes_on hcall
  single := h.single
  lookup := fun r id x hx hid hne => ((h.reads r x hx).result id hid).resolve_left hne

theorem Inv.made_modify (h : Inv s) (hx : s.reads[r]? = some x) {f : Read → Read}
    (hmade : x.accepting.made = true → (f x).accepting.made = true) (o : Nat) (obj : Object)
    (hobj : s.objects[o]? = some obj) :
    ∃ y, (s.reads.modify r f)[obj.read]? = some y ∧ y.accepting.made = true := by
  obtain ⟨y, hy, hymade⟩ := h.made o obj hobj
  refine ⟨_, getElem?_modify_of hy r f, ?_⟩
  split
  next heq =>
    rw [← heq, hx] at hy
    cases hy
    exact hmade hymade
  next => exact hymade

theorem Inv.reads_modify (h : Inv s) (hx : s.reads[r]? = some x) {f : Read → Read}
    (hext : Extends s t) (hok : ReadOk t r (f x)) (i : Nat) (y : Read)
    (hy : (s.reads.modify r f)[i]? = some y) : ReadOk t i y := by
  obtain ⟨z, hz, rfl⟩ := getElem?_modified hy
  split
  next heq =>
    subst heq
    cases hx.symm.trans hz
    exact hok
  next => exact (h.reads i z hz).mono hext

theorem Inv.writes_modify (h : Inv s) (hcall : s.writes[w]? = some call)
    {f : WriteCall → WriteCall} (hf : f call = call.setHandling stage) (hext : Extends s t)
    (hok : StageOk s call stage) (i : Nat) (y : WriteCall)
    (hy : (s.writes.modify w f)[i]? = some y) : CallOk t y := by
  obtain ⟨z, hz, rfl⟩ := getElem?_modified hy
  refine CallOk.mono ?_ hext
  split
  next heq =>
    subst heq
    cases hcall.symm.trans hz
    rw [hf]
    exact (h.writes w call hcall).setHandling hok
  next => exact h.writes i z hz

theorem Inv.modifyRead (h : Inv s) (hx : s.reads[r]? = some x) {f : Read → Read}
    (hmade : x.accepting.made = true → (f x).accepting.made = true) (hok : ReadOk s r (f x)) :
    Inv (s.modifyRead r f) := by
  have hext : Extends s (s.modifyRead r f) := .of_eq rfl rfl rfl
  exact ⟨h.ids, h.counter, h.distinct, h.single, h.made_modify hx hmade, h.map,
    h.reads_modify hx hext (hok.mono hext), fun i y hy => (h.writes i y hy).mono hext,
    fun y hy => (h.own y hy).mono hext, h.once⟩

theorem Inv.setWriting (h : Inv s) (hcall : s.writes[w]? = some call) {f : WriteCall → WriteCall}
    (hf : ∀ call, ∃ stage, f call = call.setHandling stage)
    (hcallf : f call = call.setHandling stage)
    (hbefore : call.handling ≠ .finished true) (hafter : stage ≠ .finished true)
    (hok : StageOk s call stage) : Inv (s.modifyWrite w f) := by
  have hext : Extends s (s.modifyWrite w f) := by
    refine Extends.modifyWrite fun call => ?_
    obtain ⟨stage, hstage⟩ := hf call
    rw [hstage]
    exact ⟨rfl, rfl⟩
  refine ⟨h.ids, h.counter, h.distinct, h.single, h.made, h.map,
    fun i y hy => (h.reads i y hy).mono hext, h.writes_modify hcall hcallf hext hok,
    fun y hy => (h.own y hy).mono hext, ?_⟩
  intro i y hy
  obtain ⟨z, hz, rfl⟩ := getElem?_modified hy
  refine (h.once i z hz).trans ?_
  by_cases heq : w = i
  · subst heq
    cases hcall.symm.trans hz
    rw [if_neg hbefore, if_pos rfl, hcallf]
    exact (if_neg hafter).symm
  · rw [if_neg heq]

theorem Inv.no_object (h : Inv s) (hx : s.reads[r]? = some x) (hrunning : x.accepting = .running)
    (o : Nat) (obj : Object) (hobj : s.objects[o]? = some obj) : obj.read ≠ r := by
  rintro rfl
  obtain ⟨y, hy, hmade⟩ := h.made o obj hobj
  cases hx.symm.trans hy
  rw [hrunning] at hmade
  cases hmade

theorem Inv.create (h : Inv s) (hx : s.reads[r]? = some x) (hrunning : x.accepting = .running) :
    Inv { s.modifyRead r (Read.setAccepting (.sending s.objects.length)) with
      idCounter := s.idCounter + 1
      objects := s.objects ++ [⟨s.idCounter + 1, r, x.data⟩] } := by
  have hext : Extends s { s.modifyRead r (Read.setAccepting (.sending s.objects.length)) with
      idCounter := s.idCounter + 1
      objects := s.objects ++ [⟨s.idCounter + 1, r, x.data⟩] } :=
    ⟨fun o obj hobj => getElem?_kept hobj, fun id o hid => hid,
      fun w call hcall => ⟨call, hcall, rfl, rfl⟩⟩
  have hnew : (s.objects ++ [⟨s.idCounter + 1, r, x.data⟩])[s.objects.length]?
    = some ⟨s.idCounter + 1, r, x.data⟩ := List.getElem?_concat_length
  refine ⟨?_, Nat.le_add_left .., ?_, ?_, ?_,
    fun id o hid => (h.map id o hid).imp fun obj hobj => ⟨getElem?_kept hobj.1, hobj.2⟩, ?_,
    fun i y hy => (h.writes i y hy).mono hext, fun y hy => (h.own y hy).mono hext, h.once⟩
  · intro o obj hobj
    rcases getElem?_added hobj with hold | ⟨-, rfl⟩
    · exact ⟨(h.ids o obj hold).1, Nat.le_succ_of_le (h.ids o obj hold).2⟩
    · exact ⟨Nat.succ_le_succ h.counter, Nat.le_refl _⟩
  -- the counter has passed the ids of all earlier objects
  · exact h.distinct.append fun o obj hobj => Nat.ne_of_lt (Nat.lt_succ_of_le (h.ids o obj hobj).2)
  · exact h.single.append (h.no_object hx hrunning)
  · intro o obj hobj
    rcases getElem?_added hobj with hold | ⟨-, rfl⟩
    · exact h.made_modify hx (fun _ => rfl) o obj hold
    · exact ⟨_, getElem?_modify_of hx r _, by rw [if_pos rfl]; rfl⟩
  · have hok := (h.reads r x hx).mono hext
    refine h.reads_modify hx hext ⟨fun hreceiving => ?_, ⟨_, hnew, rfl⟩, hok.handling, hok.result⟩
    exact absurd ((h.reads r x hx).idle hreceiving) (by rw [hrunning]; decide)

theorem Inv.store (h : Inv s) (hx : s.reads[r]? = some x) (hreceived : x.handling = .received o)
    (hobj : s.objects[o]? = some obj) : Inv { s.modifyRead r (Read.setHandling (.stored o)) with
      transferMap := Function.update s.transferMap obj.id (some o) } := by
  have hok := h.reads r x hx
  have hread : obj.read = r := by
    have hmade := hok.handling
    rw [hreceived] at hmade
    obtain ⟨obj', hobj', hread⟩ := hmade
    cases hobj.symm.trans hobj'
    exact hread
  have hext : Extends s { s.modifyRead r (Read.setHandling (.stored o)) with
      transferMap := Function.update s.transferMap obj.id (some o) } := by
    refine ⟨fun _ _ hobj => hobj, fun id o' hid => ?_, fun _ call hcall => ⟨call, hcall, rfl, rfl⟩⟩
    by_cases heq : id = obj.id
    · -- an entry under the same id leads to the same object
      obtain ⟨obj', hobj', hid'⟩ := h.map id o' hid
      cases h.distinct o o' obj obj' hobj hobj' (heq.symm.trans hid'.symm)
      rw [heq]
      exact Function.update_self ..
    · exact (Function.update_of_ne heq ..).trans hid
  refine ⟨h.ids, h.counter, h.distinct, h.single, h.made_modify hx (fun hmade => hmade), ?_, ?_,
    fun i y hy => (h.writes i y hy).mono hext, fun y hy => (h.own y hy).mono hext, h.once⟩
  · intro id o' hid
    by_cases heq : id = obj.id
    · rw [heq] at hid ⊢
      cases (Function.update_self obj.id (some o) s.transferMap).symm.trans hid
      exact ⟨obj, hobj, rfl⟩
    · exact h.map id o' ((Function.update_of_ne heq ..).symm.trans hid)
  · have hok := hok.mono hext
    refine h.reads_modify hx hext
      ⟨nofun, hok.accepting, ⟨obj, hobj, hread, ?_⟩, hok.result⟩
    exact Function.update_self ..

theorem Inv.append (h : Inv s) (hcall : s.writes[w]? = some call)
    (hfound : call.handling = .found o buf) :
    Inv { s.modifyWrite w (WriteCall.setHandling (.finished true)) with
      written := s.written ++ [⟨o, w, buf⟩] } := by
  have hext : Extends s { s.modifyWrite w (WriteCall.setHandling (.finished true)) with
      written := s.written ++ [⟨o, w, buf⟩] } := by
    have hmodify : Extends s (s.modifyWrite w (WriteCall.setHandling (.finished true))) :=
      .modifyWrite fun _ => ⟨rfl, rfl⟩
    exact ⟨hmodify.objects, hmodify.map, hmodify.calls⟩
  have hstage := (h.writes w call hcall).stage
  rw [hfound] at hstage
  obtain ⟨⟨obj, hobj, hread⟩, hbytes⟩ := hstage
  refine ⟨h.ids, h.counter, h.distinct, h.single, h.made, h.map,
    fun i y hy => (h.reads i y hy).mono hext,
    h.writes_modify hcall rfl hext nofun, ?_, ?_⟩
  · intro y hy
    rcases List.mem_append.mp hy with hold | hnew
    · exact (h.own y hold).mono hext
    · cases List.mem_singleton.mp hnew
      have howned : Owned s ⟨o, w, buf⟩ := ⟨call, obj, hcall, hobj, hread, hbytes⟩
      exact howned.mono hext
  · intro i y hy
    obtain ⟨z, hz, rfl⟩ := getElem?_modified hy
    show List.countP _ (s.written ++ [⟨o, w, buf⟩]) = _
    rw [List.countP_append, List.countP_singleton, h.once i z hz]
    by_cases heq : w = i
    · -- the call that is written now was not before
      subst heq
      cases hcall.symm.trans hz
      rw [if_pos rfl, hfound, if_neg nofun,
        if_pos (decide_eq_true rfl)]
      rfl
    · simp [heq]

theorem Inv.read (h : Inv s) (buf : List UInt8) :
    Inv { s with reads := s.reads ++ [⟨buf, [], .idle, .receiving, none⟩] } := by
  have hext : Extends s { s with reads := s.reads ++ [⟨buf, [], .idle, .receiving, none⟩] } :=
    .of_eq rfl rfl rfl
  refine ⟨h.ids, h.counter, h.distinct, h.single,
    fun o obj hobj => (h.made o obj hobj).imp fun x hx => ⟨getElem?_kept hx.1, hx.2⟩, h.map, ?_,
    fun i y hy => (h.writes i y hy).mono hext, fun y hy => (h.own y hy).mono hext, h.once⟩
  intro i y hy
  rcases getElem?_added hy with hold | ⟨-, rfl⟩
  · exact (h.reads i y hold).mono hext
  · exact ⟨fun _ => rfl, trivial, trivial, fun id hid => by cases hid⟩

theorem Inv.other (h : Inv s) : Inv { s with idCounter := s.idCounter + 1 } := by
  have hext : Extends s { s with idCounter := s.idCounter + 1 } := .of_eq rfl rfl rfl
  exact ⟨fun o obj hobj => ⟨(h.ids o obj hobj).1, Nat.le_succ_of_le (h.ids o obj hobj).2⟩,
    Nat.le_succ_of_le h.counter, h.distinct, h.single, h.made, h.map,
    fun i y hy => (h.reads i y hy).mono hext, fun i y hy => (h.writes i y hy).mono hext,
    fun y hy => (h.own y hy).mono hext, h.once⟩

theorem Inv.write (h : Inv s) (hx : s.reads[r]? = some x) (hresult : x.result = some id)
    (hid : id ≠ transferErr) (payload : List UInt8) (cut : Nat) : Inv { s with writes := s.writes
      ++ [⟨r, id, payload, (transferWriteMsg id payload).take cut, .receiving⟩] } := by
  have hext : Extends s { s with writes := s.writes
      ++ [⟨r, id, payload, (transferWriteMsg id payload).take cut, .receiving⟩] } :=
    ⟨fun _ _ hobj => hobj, fun _ _ hid => hid,
      fun _ call hcall => ⟨call, getElem?_kept hcall, rfl, rfl⟩⟩
  refine ⟨h.ids, h.counter, h.distinct, h.single, h.made, h.map,
    fun i y hy => (h.reads i y hy).mono hext, ?_, fun y hy => (h.own y hy).mono hext, ?_⟩
  · intro i y hy
    refine CallOk.mono (s := s) ?_ hext
    rcases getElem?_added hy with hold | ⟨-, rfl⟩
    · exact h.writes i y hold
    · exact ⟨((h.reads r x hx).result id hresult).resolve_left hid, ⟨cut, rfl⟩, trivial⟩
  · intro i y hy
    rcases getElem?_added hy with hold | ⟨rfl, rfl⟩
    · exact h.once i y hold
    · -- what is written belongs to the earlier calls
      rw [if_neg nofun, List.countP_eq_zero]
      intro z hz hlast
      obtain ⟨call, -, hcall, -⟩ := h.own z hz
      rw [of_decide_eq_true hlast, List.getElem?_length] at hcall
      cases hcall

theorem Inv.answer (h : Inv s) (hlt : s.idCounter < 2 ^ 32) (hx : s.reads[r]? = some x)
    (hstored : x.handling = .stored o) (hobj : s.objects[o]? = some obj) (cut : Nat) :
    Answer s r (transferRecvID ((transferSendID obj.id).take cut)) := by
  have hok := (h.reads r x hx).handling
  rw [hstored] at hok
  obtain ⟨obj', hobj', hread, hid⟩ := hok
  cases hobj.symm.trans hobj'
  rcases transferRecvID_take obj.id cut with herr | hsame
  · exact Or.inl herr
  · rw [hsame, transferRecvID_sendID (Nat.lt_of_le_of_lt (h.ids o obj hobj).2 hlt)]
    exact Or.inr ⟨o, obj, hid, hobj, hread, rfl⟩

/-- What the handler makes of the message: nothing, or the id and the payload
that were sent. -/
theorem Inv.receive (h : Inv s) (hlt : s.idCounter < 2 ^ 32) (hcall : s.writes[w]? = some call) :
    StageOk s call call.receive ∧ call.receive ≠ .finished true := by
  obtain ⟨hregistered, ⟨cut, hwire⟩, -⟩ := h.writes w call hcall
  obtain ⟨o, obj, -, hobj, -, hid⟩ := hregistered
  have hidlt : call.id < 2 ^ 32 := by
    rw [← hid]
    exact Nat.lt_of_le_of_lt (h.ids o obj hobj).2 hlt
  unfold WriteCall.receive
  cases hbytes : call.wire with
  | nil =>
    -- not even the type byte came
    refine ⟨fun _ => ?_, by decide⟩
    unfold WriteCall.complete
    rw [hbytes]
    exact decide_eq_false (List.cons_ne_nil _ _).symm
  | cons b stream =>
    have hstream : ∃ n, stream = (transferWriteMsg call.id call.payload).tail.take n := by
      cases cut with
      | zero => exact absurd (hbytes.symm.trans hwire) (List.cons_ne_nil _ _)
      | succ n => exact ⟨n, (List.cons.inj (hbytes.symm.trans hwire)).2⟩
    obtain ⟨n, hstream⟩ := hstream
    refine ⟨?_, nofun⟩
    show StageOk s call (.loading ((transferRecvData stream).getD (0, [])).1
      ((transferRecvData stream).getD (0, [])).2)
    cases hdata : transferRecvData stream with
    | none =>
      -- the source goes on with the id 0 and no bytes
      refine Or.inl ⟨rfl, ?_⟩
      by_contra hcomplete
      have hmsg : call.wire = transferWriteMsg call.id call.payload :=
        by simpa [WriteCall.complete] using hcomplete
      have htail : stream = (transferWriteMsg call.id call.payload).tail := by
        rw [← hmsg, hbytes, List.tail_cons]
      rw [htail, transferRecvData_msg] at hdata
      cases hdata
    | some data =>
      rw [hstream] at hdata
      have hsame := (transferRecvData_msg call.id call.payload).symm.trans
        (transferRecvData_of_take hdata)
      cases hsame
      exact Or.inr ⟨Nat.mod_eq_of_lt hidlt, rfl⟩

theorem Inv.load (h : Inv s) (hcall : s.writes[w]? = some call)
    (hloading : call.handling = .loading id buf) :
    (∀ o, s.transferMap id = some o → StageOk s call (.found o buf))
      ∧ (s.transferMap id = none → StageOk s call (.finished false)) := by
  obtain ⟨⟨o', obj', hmap, hobj', hread, hid'⟩, -, hstage⟩ := h.writes w call hcall
  rw [hloading] at hstage
  rcases hstage with ⟨rfl, hcut⟩ | ⟨rfl, hbytes⟩
  · -- no object has the id 0
    refine ⟨fun o hzero => ?_, fun _ _ => hcut⟩
    obtain ⟨obj, hobj, hid⟩ := h.map 0 o hzero
    have htwo := (h.ids o obj hobj).1
    omega
  · refine ⟨fun o hid => ?_, fun hnone => ?_⟩
    · cases hmap.symm.trans hid
      exact ⟨⟨obj', hobj', hread⟩, hbytes⟩
    · cases hmap.symm.trans hnone

/-- **Every step keeps the invariant**, as long as the ids have 32 bits. -/
theorem Inv.step (h : Inv s) (hlt : s.idCounter < 2 ^ 32) (hstep : Step s e t) : Inv t := by
  cases e with
  | read buf =>
    cases hstep
    exact h.read buf
  | request r typeOk dataOk listener =>
    obtain ⟨x, hx, hreceiving, rfl⟩ := step_request hstep
    obtain ⟨hidle, haccepting, -, hresult⟩ := h.reads r x hx
    unfold Read.request
    cases typeOk with
    | false =>
      exact h.modifyRead hx (fun hmade => hmade)
        ⟨nofun, haccepting, Or.inl rfl, hresult⟩
    | true =>
      cases listener with
      | false =>
        exact h.modifyRead hx (fun hmade => hmade)
          ⟨nofun, haccepting, trivial, hresult⟩
      | true =>
        -- `OnAccept` starts only now, and no object has been made
        refine h.modifyRead hx (fun hmade => ?_)
          ⟨nofun, trivial, trivial, hresult⟩
        rw [hidle hreceiving] at hmade
        cases hmade
  | create r =>
    obtain ⟨x, hx, hrunning, rfl⟩ := step_create hstep
    exact h.create hx hrunning
  | hand r =>
    obtain ⟨x, o, hx, hsending, rfl⟩ := step_hand hstep
    obtain ⟨-, hmade, -, hresult⟩ := h.reads r x hx
    rw [hsending] at hmade
    exact h.modifyRead hx (fun _ => rfl) ⟨nofun, trivial, hmade, hresult⟩
  | finish r =>
    obtain ⟨x, hx, hsent, rfl⟩ := step_finish hstep
    obtain ⟨hidle, -, hhandling, hresult⟩ := h.reads r x hx
    refine h.modifyRead hx (fun _ => rfl) ⟨fun hreceiving => ?_, trivial, hhandling, hresult⟩
    exact absurd (hidle hreceiving) (by rw [hsent]; decide)
  | timeout r =>
    obtain ⟨x, hx, rfl⟩ := step_timeout hstep
    obtain ⟨-, haccepting, -, hresult⟩ := h.reads r x hx
    exact h.modifyRead hx (fun hmade => hmade)
      ⟨nofun, haccepting, trivial, hresult⟩
  | store r =>
    obtain ⟨x, o, obj, hx, hreceived, hobj, rfl⟩ := step_store hstep
    exact h.store hx hreceived hobj
  | reply r cut =>
    obtain ⟨x, reply, hx, hreply, rfl⟩ := step_reply hstep
    obtain ⟨-, haccepting, -, hresult⟩ := h.reads r x hx
    refine h.modifyRead hx (fun hmade => hmade)
      ⟨nofun, haccepting, ?_, hresult⟩
    rcases hreply with ⟨o, obj, hstored, hobj, rfl⟩ | rfl
    · exact h.answer hlt hx hstored hobj cut
    · -- a failure is answered by `transferErr`, whole or cut off
      refine Or.inl ((transferRecvID_take transferErr cut).elim id fun hsame => ?_)
      rw [hsame, transferRecvID_sendID (by decide)]
  | result r ok =>
    obtain ⟨x, id, hx, hid, rfl⟩ := step_result hstep
    obtain ⟨hidle, haccepting, hhandling, -⟩ := h.reads r x hx
    refine h.modifyRead hx (fun hmade => hmade) ⟨hidle, haccepting, hhandling, fun id' hid' => ?_⟩
    cases hid'
    rcases hid with ⟨reply, hfinished, rfl⟩ | rfl
    · rwa [hfinished] at hhandling
    · exact Or.inl rfl
  | other =>
    cases hstep
    exact h.other
  | write r payload cut =>
    obtain ⟨x, id, hx, hresult, hid, rfl⟩ := step_write hstep
    exact h.write hx hresult hid payload cut
  | receive w =>
    obtain ⟨call, hcall, hreceiving, rfl⟩ := step_receive hstep
    obtain ⟨hstage, hafter⟩ := h.receive hlt hcall
    exact h.setWriting hcall (fun _ => ⟨_, rfl⟩) rfl (by rw [hreceiving]; decide) hafter hstage
  | load w =>
    obtain ⟨call, id, buf, hcall, hloading, hload⟩ := step_load hstep
    have hbefore : call.handling ≠ .finished true := by
      rw [hloading]
      exact nofun
    rcases hload with ⟨o, hid, rfl⟩ | ⟨hid, rfl⟩
    · exact h.setWriting hcall (fun _ => ⟨_, rfl⟩) rfl hbefore nofun
        ((h.load hcall hloading).1 o hid)
    · exact h.setWriting hcall (fun _ => ⟨_, rfl⟩) rfl hbefore (by decide)
        ((h.load hcall hloading).2 hid)
  | append w =>
    obtain ⟨call, o, buf, hcall, hfound, happend⟩ := step_append hstep
    rcases happend with ⟨-, rfl⟩ | ⟨-, rfl⟩
    · exact h.append hcall hfound
    · refine h.setWriting hcall (fun _ => ⟨_, rfl⟩) rfl ?_ (by decide) trivial
      rw [hfound]
      exact nofun

theorem Inv.init : Inv State.init where
  ids := nofun
  counter := Nat.le_refl _
  distinct := nofun
  single := nofun
  made := nofun
  map := nofun
  reads := nofun
  writes := nofun
  own := nofun
  once := nofun

/-! ## §4. Isolation. -/

theorem idCounter_le (hstep : Step s e t) : s.idCounter ≤ t.idCounter := by
  cases e <;> simp only [Step, step, Option.bind_eq_bind, Option.bind_eq_some_iff] at hstep <;>
    grind [State.modifyRead, State.modifyWrite]

theorem inv_of_run {es : List Event} (hrun : Run Step State.init es s)
    (hlt : s.idCounter < 2 ^ 32) : Inv s := by
  refine hrun.invariant (fun s => s.idCounter < 2 ^ 32 → Inv s) ?_ (fun _ => Inv.init) hlt
  intro s e t h hstep hlt
  have hlt : s.idCounter < 2 ^ 32 := Nat.lt_of_le_of_lt (idCounter_le hstep) hlt
  exact (h hlt).step hlt hstep

theorem NonePanicked.step (h : NonePanicked s) (hprepared : Prepared s e) (hstep : Step s e t) :
    NonePanicked t := by
  have hmodify {w : Nat} {f : WriteCall → WriteCall} {call : WriteCall}
      (hcall : s.writes[w]? = some call) (hf : (f call).handling ≠ .panicked) :
      NonePanicked (s.modifyWrite w f) := by
    intro y hy
    obtain ⟨i, hi⟩ := List.mem_iff_getElem?.mp hy
    obtain ⟨z, hz, rfl⟩ := getElem?_modified hi
    split
    next heq =>
      subst heq
      cases hcall.symm.trans hz
      exact hf
    next => exact h z (List.mem_of_getElem? hz)
  cases e with
  | read | request | create | hand | finish | timeout | store | reply | result | other =>
    intro y hy
    rw [(step_elsewhere hstep rfl).1] at hy
    exact h y hy
  | write =>
    obtain ⟨-, -, -, -, -, rfl⟩ := step_write hstep
    intro y hy
    rcases List.mem_append.mp hy with hold | hnew
    · exact h y hold
    · cases List.mem_singleton.mp hnew
      exact nofun
  | receive =>
    obtain ⟨call, hcall, -, rfl⟩ := step_receive hstep
    refine hmodify hcall fun hpanicked => ?_
    have hpanicked : call.receive = .panicked := hpanicked
    unfold WriteCall.receive at hpanicked
    split at hpanicked <;> cases hpanicked
  | load =>
    obtain ⟨call, -, -, hcall, -, ⟨o, -, rfl⟩ | ⟨-, rfl⟩⟩ := step_load hstep
    · exact hmodify hcall nofun
    · exact hmodify hcall nofun
  | append =>
    obtain ⟨call, o, buf, hcall, hfound, ⟨-, rfl⟩ | ⟨hnot, rfl⟩⟩ := step_append hstep
    · exact hmodify hcall nofun
    · -- the condition rules out the write that panics
      have hset := hprepared call hcall o (by rw [hfound]; rfl)
      cases hset.symm.trans hnot

/-- **Handed-over connections are kept apart**: after any interleaving of any
number of hand-overs, as long as the ids of the new process are below 2^32.  A
payload that came in full is lost exactly when its handler writes before
`NewServerConnection` has set the `filterManager`. -/
theorem connections_isolated (es : List Event) :
    EveryState Step (fun s => s.idCounter < 2 ^ 32 → Isolated s) State.init es
      ∧ (EveryState Step NonePanicked State.init es ↔ EveryStep Step Prepared State.init es) := by
  constructor
  · intro before after s _ hrun hlt
    exact (inv_of_run hrun hlt).isolated
  · refine everyState_iff (fun _ => True) (fun _ _ _ _ _ => trivial) trivial
      nofun (fun _ _ _ _ h hprepared hstep => h.step hprepared hstep) ?_
    intro s e _ _ hnot
    cases e with
    | append w =>
      obtain ⟨call, hcall, o, ho, hset⟩ : ∃ call, s.writes[w]? = some call
          ∧ ∃ o, call.handling.target = some o ∧ ¬ s.filterManager o = true := by
        by_contra hall
        refine hnot fun call hcall o ho => ?_
        by_contra hset
        exact hall ⟨call, hcall, o, ho, hset⟩
      cases hfound : call.handling with
      | found o' buf =>
        rw [hfound] at ho
        cases ho
        refine ⟨s.modifyWrite w (WriteCall.setHandling .panicked), ?_, fun hnone => ?_⟩
        · simp [Step, step, hcall, hfound, hset]
        · refine hnone _ (List.mem_of_getElem? (getElem?_modify_of hcall w _)) ?_
          rw [if_pos rfl]
          rfl
      | receiving | loading | finished | panicked =>
        rw [hfound] at ho
        cases ho
    | read | request | create | hand | finish | timeout | store | reply | result | other | write
    | receive | load => exact absurd trivial hnot

/-- The handler of the first payload writes while `NewServerConnection` is still
at its send. -/
theorem payload_lost : ∃ s, Run Step State.init
        [.read [], .request 0 true true true, .create 0, .hand 0, .store 0, .reply 0 4,
          .result 0 true, .write 0 [1] 100, .receive 0, .load 0, .append 0, .finish 0] s
      ∧ s.writes.map WriteCall.complete = [true]
      ∧ s.writes.map WriteCall.handling = [.panicked] ∧ s.written = [] :=
  ⟨_, run_of_runSteps (f := step) rfl, by decide +kernel, by decide +kernel, by decide +kernel⟩

end Mosn.Network.Transfer
