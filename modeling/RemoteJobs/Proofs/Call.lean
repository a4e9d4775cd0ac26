import RemoteJobs.Client.Call
import RemoteJobs.Proofs.Slots

/-!
# A call and its steps

`Call.issue` takes four steps at once. There are four ways in which they can
go: the client has been disconnected, the id gets no slot, the request is not
sent, or it is sent. In the first three the call is over and the slots are what
they were; only in the last one the call holds a slot.

A call that is over has the result of one of its steps. Before it looks at its
slot that is a failure of this side; when it looks, it is the reply in the slot
or a timeout. What can be said of the failures depends on the link. Both links
fail plainly, and so with no error of the server's; a socket does so even where a
write has failed.
-/

namespace RemoteJobs

/-! ## Failures of this side -/

/-- Whether the failure is one with which this side ends a call. -/
def Failure.isPlain : Failure → Bool
  | connection _ => true
  | connectionClosed => true
  | protocol _ => true
  | remote _ => false
  | config _ => false
  | connectionTimeout _ => false
  | malformedFrame _ => false
  | invalidCallback _ => false
  | requestTimeout _ _ => false
  | io _ => false
  | json _ => false

theorem Failure.isRemote_of_isPlain {e : Failure} (h : e.isPlain = true) : e.isRemote = false := by
  cases e with
  | remote _ => cases h
  | _ => rfl

theorem Slots.Refusal.failure_isPlain (e : Slots.Refusal) : e.failure.isPlain = true := by
  cases e with
  | closed => rfl
  | full _ _ _ => rfl
  | taken _ => rfl

/-- A link that sends a frame or fails plainly. -/
class Link.Plain (L : Type) [Link L] : Prop where
  send_error : ∀ {k : L} {frame : Bytes} {e : Failure}, Link.send k frame = .error e →
    e.isPlain = true

instance {κ : Type} : Link.Plain (Channel κ) where
  send_error := by
    intro k frame e h
    simp only [Link.send, Channel.send] at h
    split at h
    · cases h; rfl
    · split at h
      · cases h; rfl
      · cases h

namespace Socket

variable {k k' : Socket} {frame : Bytes} {e : Failure}

theorem write_eq_ok (h : k.write frame = .ok k') : k' = { k with sent := k.sent ++ [frame] } := by
  rw [write] at h
  split at h
  · cases h
  · cases h
  · cases h
    rfl

/-- A frame is not written where it has no header, or the server takes no more
bytes. -/
theorem write_eq_error (h : k.write frame = .error e) :
    Frame.header frame.length = .error e ∨
      ∃ trouble, k.broken = some trouble ∧ e = .io trouble := by
  rw [write] at h
  cases hheader : Frame.header frame.length with
  | error e' =>
      rw [hheader] at h
      cases h
      exact .inl rfl
  | ok header =>
      rw [hheader] at h
      cases hbroken : k.broken with
      | some trouble =>
          rw [hbroken] at h
          cases h
          exact .inr ⟨trouble, rfl, rfl⟩
      | none =>
          rw [hbroken] at h
          cases h

/-- A frame is refused while the thread hands one on, comes too late after it has
stopped, and else is written. -/
theorem send_cases (k : Socket) (frame : Bytes) :
    k.handling = true ∧
        Link.send k frame =
          .error (.protocol "Blocking sends are not allowed from the I/O thread") ∨
      k.running = false ∧ Link.send k frame = .error .connectionClosed ∨
      Link.send k frame = (k.write frame).mapError unsent := by
  simp only [Link.send, send]
  split
  · next hhandling => exact .inl ⟨hhandling, rfl⟩
  · split
    · next hrunning => exact .inr (.inl ⟨by simpa using hrunning, rfl⟩)
    · exact .inr (.inr rfl)

theorem write_of_send (h : Link.send k frame = .ok k') : k.write frame = .ok k' := by
  rcases send_cases k frame with ⟨-, hsend⟩ | ⟨-, hsend⟩ | hsend
  · rw [hsend] at h
    cases h
  · rw [hsend] at h
    cases h
  · rw [hsend] at h
    cases hwrite : k.write frame with
    | error reason =>
        rw [hwrite] at h
        cases h
    | ok k'' =>
        rw [hwrite] at h
        cases h
        rfl

/-- What is wrong with the stream, or with the frame, is said in the message
only. -/
theorem send_eq_error (h : Link.send k frame = .error e) :
    e = .protocol "Blocking sends are not allowed from the I/O thread" ∨
      e = .connectionClosed ∨
      ∃ reason, e = unsent reason ∧ (Frame.header frame.length = .error reason ∨
        ∃ trouble, k.broken = some trouble ∧ reason = .io trouble) := by
  rcases send_cases k frame with ⟨-, hsend⟩ | ⟨-, hsend⟩ | hsend
  · rw [hsend] at h
    cases h
    exact .inl rfl
  · rw [hsend] at h
    cases h
    exact .inr (.inl rfl)
  · rw [hsend] at h
    cases hwrite : k.write frame with
    | error reason =>
        rw [hwrite] at h
        cases h
        exact .inr (.inr ⟨reason, rfl, write_eq_error hwrite⟩)
    | ok k' =>
        rw [hwrite] at h
        cases h

end Socket

instance : Link.Plain Socket where
  send_error := by
    intro k frame e h
    rcases Socket.send_eq_error h with rfl | rfl | ⟨reason, rfl, -⟩
    · rfl
    · rfl
    · rfl

/-- A link that fails with no error of the server's. -/
class Link.Honest (L : Type) [Link L] : Prop where
  send_error : ∀ {k : L} {frame : Bytes} {e : Failure}, Link.send k frame = .error e →
    e.isRemote = false

instance {L : Type} [Link L] [Link.Plain L] : Link.Honest L where
  send_error h := Failure.isRemote_of_isPlain (Link.Plain.send_error h)

/-- All failures of this side with which a call can end have the property `P`:
the client has been disconnected, the id gets no slot, or the request is not
sent. -/
structure Link.FailsOnly (L : Type) [Link L] (P : Failure → Prop) : Prop where
  disconnected : P .connectionClosed
  refused : ∀ e : Slots.Refusal, P e.failure
  unsent : ∀ {k : L} {frame : Bytes} {e : Failure}, Link.send k frame = .error e → P e

theorem Link.Plain.failsOnly {L : Type} [Link L] [Link.Plain L] :
    Link.FailsOnly L fun e => e.isPlain = true :=
  ⟨rfl, Slots.Refusal.failure_isPlain, send_error⟩

theorem Link.Honest.failsOnly {L : Type} [Link L] [Link.Honest L] :
    Link.FailsOnly L fun e => e.isRemote = false :=
  ⟨rfl, fun e => Failure.isRemote_of_isPlain e.failure_isPlain, send_error⟩

/-! ## Replies as results -/

/-- What a call returns when this is its reply. -/
def Reply.outcome (r : Reply) : Except Failure (Outcome Json) := r.result.map .completed

namespace Reply

variable {r : Reply}

theorem outcome_eq_completed {v : Json} (h : r.outcome = .ok (.completed v)) :
    r = ⟨r.id, .ok v⟩ := by
  obtain ⟨id, answer⟩ := r
  cases answer with
  | ok w =>
      injection h with h
      injection h with h
      rw [h]
  | error e => cases h

theorem outcome_eq_remote {e : RemoteError} (h : r.outcome = .error (.remote e)) :
    r = ⟨r.id, .error e⟩ := by
  obtain ⟨id, answer⟩ := r
  cases answer with
  | ok w => cases h
  | error e' =>
      injection h with h
      injection h with h
      rw [h]

end Reply

namespace Call

/-! ## Up to the request -/

section

variable {L N : Type} [Link L] {d : Desk (Session L N)} {method : String} {params : Json}

/-- The desk after the next id has been drawn. -/
def drawn (d : Desk (Session L N)) : Desk (Session L N) :=
  { d with memory := { d.memory with ids := d.memory.ids.draw.2 } }

theorem issue_disconnected (h : d.memory.connected = false) :
    issue method params d = (ended (.error .connectionClosed), d, []) := by
  simp [issue, advanceBy, advance, h]

theorem issue_refused {e : Slots.Refusal} (h : d.memory.connected = true)
    (hr : d.slots.register d.memory.ids.upcoming = .error e) :
    issue method params d = (ended (.error e.failure), drawn d, e.notices) := by
  simp [issue, advanceBy, advance, h, IdSupply.draw, hr, drawn]

theorem issue_unsent {s : Slots} {e : Failure} (h : d.memory.connected = true)
    (hr : d.slots.register d.memory.ids.upcoming = .ok s)
    (hs : Link.send d.memory.link
      (Request.call d.memory.ids.upcoming method params).bytes = .error e) :
    issue method params d =
      (ended (.error e), drawn d, [.sendFailed d.memory.ids.upcoming method e]) := by
  simp [issue, advanceBy, advance, h, IdSupply.draw, hr, hs, drawn, Slots.remove,
    Slots.erase_register hr]

theorem issue_sent {s : Slots} {k : L} (h : d.memory.connected = true)
    (hr : d.slots.register d.memory.ids.upcoming = .ok s)
    (hs : Link.send d.memory.link
      (Request.call d.memory.ids.upcoming method params).bytes = .ok k) :
    issue method params d =
      (sent d.memory.ids.upcoming,
        { slots := s, memory := { (drawn d).memory with link := k } }, []) := by
  simp [issue, advanceBy, advance, h, IdSupply.draw, hr, hs, drawn]

/-- A call of a connected client is over once it has drawn its id, for whatever
reason, or has sent its request. -/
theorem issue_of_connected (h : d.memory.connected = true) (method : String) (params : Json) :
    (∃ e told, (∀ P, Link.FailsOnly L P → P e) ∧
        issue method params d = (ended (.error e), drawn d, told)) ∨
      ∃ s k, d.slots.register d.memory.ids.upcoming = .ok s ∧
        Link.send d.memory.link
          (Request.call d.memory.ids.upcoming method params).bytes = .ok k ∧
        issue method params d =
          (sent d.memory.ids.upcoming,
            { slots := s, memory := { (drawn d).memory with link := k } }, []) := by
  cases hr : d.slots.register d.memory.ids.upcoming with
  | error e => exact .inl ⟨_, _, fun _ hP => hP.refused e, issue_refused h hr⟩
  | ok s =>
      cases hs : Link.send d.memory.link
          (Request.call d.memory.ids.upcoming method params).bytes with
      | error e => exact .inl ⟨e, _, fun _ hP => hP.unsent hs, issue_unsent h hr hs⟩
      | ok k => exact .inr ⟨s, k, rfl, rfl, issue_sent h hr hs⟩

end

/-! ## How a call ends -/

variable {L N : Type}

/-- If the call's request was not sent, that is for a reason with the property
`P`. -/
def RefusedOnly (P : Failure → Prop) (call : Call) : Prop :=
  ∀ id method reason, call = .refused id method reason → P reason

/-- If the call's request was not sent, that is no error of the server's. -/
def Honest (call : Call) : Prop :=
  ∀ id method reason, call = .refused id method reason → reason.isRemote = false

section

variable {P : Failure → Prop} {call : Call} {d : Desk (Session L N)}

theorem refusedOnly_advance [Link L] (hP : Link.FailsOnly L P) (call : Call)
    (d : Desk (Session L N)) : (call.advance d).1.RefusedOnly P := by
  intro i m reason h
  cases call with
  | begun method params =>
      rw [advance] at h
      split at h
      · cases h
      · cases h
  | numbered id method params =>
      rw [advance] at h
      split at h
      · cases h
      · cases h
  | registered id method params =>
      rw [advance] at h
      split at h
      · cases h
      · next he =>
          cases h
          exact hP.unsent he
  | refused id method reason => cases h
  | sent id => cases h
  | ended result => cases h

theorem RefusedOnly.look (hc : call.RefusedOnly P) (expired : Bool) (d : Desk (Session L N)) :
    (call.look expired d).1.RefusedOnly P := by
  cases call with
  | sent id =>
      intro i m reason h
      rw [Call.look] at h
      split at h
      · cases h
      · cases h
      · cases h
  | begun _ _ => exact hc
  | numbered _ _ _ => exact hc
  | registered _ _ _ => exact hc
  | refused _ _ _ => exact hc
  | ended _ => exact hc

theorem honest_advance [Link L] [Link.Honest L] (call : Call) (d : Desk (Session L N)) :
    (call.advance d).1.Honest := refusedOnly_advance Link.Honest.failsOnly call d

theorem honest_look (hc : call.Honest) (expired : Bool) (d : Desk (Session L N)) :
    (call.look expired d).1.Honest := RefusedOnly.look hc expired d

/-- A call that ends before it looks at its slot has failed on this side. -/
theorem result_advance [Link L] (hP : Link.FailsOnly L P) (hc : call.RefusedOnly P)
    {result : Except Failure (Outcome Json)} (hr : call.result? = none)
    (h : (call.advance d).1 = .ended result) : ∃ e : Failure, result = .error e ∧ P e := by
  cases call with
  | begun method params =>
      rw [advance] at h
      split at h
      · cases h
      · cases h
        exact ⟨_, rfl, hP.disconnected⟩
  | numbered id method params =>
      rw [advance] at h
      split at h
      · cases h
      · cases h
        exact ⟨_, rfl, hP.refused _⟩
  | registered id method params =>
      rw [advance] at h
      split at h
      · cases h
      · cases h
  | refused id method reason =>
      cases h
      exact ⟨_, rfl, hc id method reason rfl⟩
  | sent id => cases h
  | ended result' => cases hr

end

/-- A call that ends when it looks at its slot comes to the reply in it, or
runs out of time. -/
theorem result_look {call : Call} {expired : Bool} {d : Desk (Session L N)}
    {result : Except Failure (Outcome Json)} (hr : call.result? = none)
    (h : (call.look expired d).1 = .ended result) :
    result = .ok .timedOut ∨
      ∃ id r, call = .sent id ∧ d.slots.find? id = some (some r) ∧ result = r.outcome := by
  cases call with
  | sent id =>
      rw [look] at h
      split at h
      · next r s hl =>
          cases h
          refine .inr ⟨id, r, rfl, ?_, rfl⟩
          exact Slots.find?_of_look_reply (by rw [hl])
      · cases h
        exact .inl rfl
      · cases h
  | begun _ _ => cases h
  | numbered _ _ _ => cases h
  | registered _ _ _ => cases h
  | refused _ _ _ => cases h
  | ended _ => cases hr

end Call

end RemoteJobs
