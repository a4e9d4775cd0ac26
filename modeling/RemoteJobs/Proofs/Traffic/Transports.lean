import RemoteJobs.Client.Memory
import RemoteJobs.Proofs.Stream
import RemoteJobs.Proofs.Traffic

/-!
# What comes in over a transport

The server of a channel in memory hands frames to the client and hangs up. On a
socket it writes bytes, which are cut into frames, its stream may end anywhere,
and it may take no more bytes of the client's. What comes of it is in both cases
a row of events: frames, changes of the link, and in the end the closing of the
slots. Only the notices of a reader that has stopped are not told by events, and
nobody in a run reads them; so the traffics are `Even`.

A `Transport` carries this with it. What is proved of all runs of events then
holds of its runs, in which what comes in stands between the steps of the
calls.
-/

namespace RemoteJobs.Traffic

variable {L N : Type}

/-- The frame that an event hands to the client. -/
def Event.frame? : Event L N → Option Bytes
  | .frame bytes => some bytes
  | _ => none

/-- The traffics differ in their notices at most. -/
structure Even (s s' : Traffic L N) : Prop where
  callers : s.callers = s'.callers
  state : s.client.state = s'.client.state
  observers : s.client.observers = s'.client.observers

namespace Even

variable {s s' s'' : Traffic L N}

theorem refl (s : Traffic L N) : Even s s := ⟨rfl, rfl, rfl⟩

theorem trans (h : Even s s') (h' : Even s' s'') : Even s s'' :=
  ⟨h.callers.trans h'.callers, h.state.trans h'.state, h.observers.trans h'.observers⟩

theorem call? (h : Even s s') (k : Nat) : s.call? k = s'.call? k := by
  rw [Traffic.call?, Traffic.call?, h.callers]

variable [Link L]

/-- A frame is handled without regard to the notices. -/
theorem frame (h : Even s s') (bytes : Bytes) :
    Even (s.step (.frame bytes)) (s'.step (.frame bytes)) := by
  refine ⟨h.callers, ?_, ?_⟩
  · show (Inbox.handle s.client bytes).state = (Inbox.handle s'.client bytes).state
    cases hd : Inbound.decode bytes with
    | error m =>
        rw [Inbox.state_handle_malformed hd, Inbox.state_handle_malformed hd, h.state]
    | ok i =>
        cases i with
        | reply r => rw [Inbox.state_handle_reply hd, Inbox.state_handle_reply hd, h.state]
        | notification n =>
            rw [Inbox.state_handle_notification hd, Inbox.state_handle_notification hd, h.state,
              h.observers]
  · show (Inbox.handle s.client bytes).observers = (Inbox.handle s'.client bytes).observers
    cases hd : Inbound.decode bytes with
    | error m =>
        rw [Inbox.observers_handle_malformed hd, Inbox.observers_handle_malformed hd, h.observers]
    | ok i =>
        cases i with
        | reply r =>
            rw [Inbox.observers_handle_reply hd, Inbox.observers_handle_reply hd, h.observers]
        | notification n =>
            rw [Inbox.observers_handle_notification hd, Inbox.observers_handle_notification hd,
              h.state, h.observers]

theorem step (h : Even s s') (e : Event L N) : Even (s.step e) (s'.step e) := by
  have hframe := h.frame
  obtain ⟨⟨d, os, ns⟩, cs⟩ := s
  obtain ⟨⟨d', os', ns'⟩, cs'⟩ := s'
  obtain ⟨rfl, rfl, rfl⟩ := h
  cases e with
  | frame bytes => exact hframe bytes
  | advance k =>
      simp only [Traffic.step]
      split
      · exact ⟨rfl, rfl, rfl⟩
      · exact ⟨rfl, rfl, rfl⟩
  | look k expired =>
      simp only [Traffic.step]
      split
      · exact ⟨rfl, rfl, rfl⟩
      · exact ⟨rfl, rfl, rfl⟩
  | call method params => exact ⟨rfl, rfl, rfl⟩
  | observe o => exact ⟨rfl, rfl, rfl⟩
  | link f => exact ⟨rfl, rfl, rfl⟩
  | leave => exact ⟨rfl, rfl, rfl⟩
  | close => exact ⟨rfl, rfl, rfl⟩

theorem run (h : Even s s') (es : List (Event L N)) : Even (s.run es) (s'.run es) := by
  induction es generalizing s s' with
  | nil => exact h
  | cons e es ih => exact ih (h.step e)

end Even

/-! ## Transports -/

/-- The traffic is what a row of events makes of `s`, but for the notices;
these events bring in no disorderly observer, and `frames` are theirs. -/
def Follows [Link L] (s : Traffic L N) (frames : List Bytes) (s' : Traffic L N) : Prop :=
  ∃ es, (∀ e ∈ es, e.Orderly) ∧ es.filterMap Event.frame? = frames ∧ Even (s.run es) s'

namespace Follows

variable [Link L] {s s' s'' : Traffic L N} {fs fs' : List Bytes}

theorem refl (s : Traffic L N) : Follows s [] s := ⟨[], fun _ h => (by cases h), rfl, .refl s⟩

theorem event {e : Event L N} (h : e.Orderly) : Follows s e.frame?.toList (s.step e) := by
  refine ⟨[e], fun e' he' => ?_, ?_, .refl _⟩
  · rw [List.mem_singleton.mp he']
    exact h
  · rw [List.filterMap_cons, List.filterMap_nil]
    cases e.frame? with
    | none => rfl
    | some f => rfl

theorem trans (h : Follows s fs s') (h' : Follows s' fs' s'') : Follows s (fs ++ fs') s'' := by
  obtain ⟨es, ho, rfl, heven⟩ := h
  obtain ⟨es', ho', rfl, heven'⟩ := h'
  refine ⟨es ++ es', fun e he => ?_, List.filterMap_append, ?_⟩
  · exact (List.mem_append.mp he).elim (ho e) (ho' e)
  · rw [Traffic.run, List.foldl_append]
    exact (heven.run es').trans heven'

/-- Notices make no difference. -/
theorem even (h : Follows s fs s') (heven : Even s' s'') : Follows s fs s'' := by
  obtain ⟨es, ho, hfs, h⟩ := h
  exact ⟨es, ho, hfs, h.trans heven⟩

end Follows

/-- What can come in on a link of the type `L`. -/
structure Transport (L N : Type) [Link L] where
  Act : Type
  handle : Client L N → Act → Client L N
  /-- The frames that reach the client. -/
  frames : Client L N → Act → List Bytes
  follows : ∀ (s : Traffic L N) (a : Act),
    Follows s (frames s.client a) { s with client := handle s.client a }

/-- What the server of a channel in memory does. -/
inductive ChannelAct where
  | inject (frame : Bytes)
  | hangUp

theorem follows_inject (s : Traffic (Channel Unit) N) (frame : Bytes) :
    Follows s (if (s.client.inject frame).1 then [frame] else [])
      { s with client := (s.client.inject frame).2 } := by
  rw [Client.inject]
  split
  · exact .event (e := .frame frame) trivial
  · exact .refl s

theorem follows_hangUp (s : Traffic (Channel Unit) N) :
    Follows s [] { s with client := s.client.hangUpMemory } := by
  have hlink := Follows.event (s := s) (e := .link fun k => k.shut.2) trivial
  simp only [Client.hangUpMemory]
  split
  · exact hlink.trans (.event (e := .close) trivial)
  · exact hlink

def channel (N : Type) : Transport (Channel Unit) N where
  Act := ChannelAct
  handle c
    | .inject frame => (c.inject frame).2
    | .hangUp => c.hangUpMemory
  frames c
    | .inject frame => if (c.inject frame).1 then [frame] else []
    | .hangUp => []
  follows s
    | .inject frame => follows_inject s frame
    | .hangUp => follows_hangUp s

/-- What comes in on a socket, and what may become of its stream. -/
inductive SocketAct where
  | byte (b : UInt8)
  | finish
  /-- The server takes no more bytes. -/
  | breaks (trouble : String)

/-- The step that the thread takes. -/
def SocketAct.step : SocketAct → Socket → Option Socket.Report × Socket
  | .byte b => (·.take b)
  | .finish => Socket.finish
  | .breaks trouble => fun k => (none, { k with broken := some trouble })

/-- The payload that is reported. -/
def payload? : Socket.Report → Option Bytes
  | .frame payload => some payload
  | .closed _ => none

theorem follows_handOn (s : Traffic Socket N) (p : Bytes) :
    Follows s [p] { s with client := s.client.handOn p } := by
  have hlink := Follows.event (s := s) (e := .link fun k => { k with handling := true }) trivial
  have hframe := hlink.trans (.event (e := .frame p) trivial)
  exact hframe.trans
    (Follows.event (L := Socket) (e := .link fun k => { k with handling := false }) trivial)

theorem follows_hear (s : Traffic Socket N) (report : Socket.Report) :
    Follows s (payload? report).toList { s with client := s.client.hear report } := by
  cases report with
  | frame payload => exact follows_handOn s payload
  | closed reason =>
      have hclose := Follows.event (s := s) (e := .close) trivial
      exact hclose.even ⟨rfl, rfl, rfl⟩

/-- A step of the thread is a change of the link, and what is reported in it is
heard of behind that. -/
theorem follows_follow (s : Traffic Socket N) (step : Socket → Option Socket.Report × Socket) :
    Follows s ((step s.client.session.link).1.bind payload?).toList
      { s with client := s.client.follow step } := by
  have hlink := Follows.event (s := s) (e := .link fun _ => (step s.client.session.link).2) trivial
  rw [Client.follow]
  cases hstep : step s.client.session.link with
  | mk report k =>
      rw [hstep] at hlink
      cases report with
      | none => exact hlink
      | some report => exact hlink.trans (follows_hear _ report)

def socket (N : Type) : Transport Socket N where
  Act := SocketAct
  handle c a := c.follow a.step
  frames c a := ((a.step c.session.link).1.bind payload?).toList
  follows s a := follows_follow s a.step

/-! ## Runs -/

/-- Something that happens on the client's side, or that comes in. -/
inductive Happening [Link L] (T : Transport L N) where
  | event (e : Event L N)
  | act (a : T.Act)

/-- No observer that is not orderly is brought in. -/
def Happening.Orderly [Link L] {T : Transport L N} : Happening T → Prop
  | .event e => e.Orderly
  | .act _ => True

namespace Transport

variable [Link L] (T : Transport L N)

def step (s : Traffic L N) : Happening T → Traffic L N
  | .event e => s.step e
  | .act a => { s with client := T.handle s.client a }

def run (s : Traffic L N) (xs : List (Happening T)) : Traffic L N := xs.foldl T.step s

/-- The frames that the client hears of in one step. -/
def framesOf (s : Traffic L N) : Happening T → List Bytes
  | .event e => e.frame?.toList
  | .act a => T.frames s.client a

/-- The frames that the client hears of in a run. -/
def framesOfRun (s : Traffic L N) : List (Happening T) → List Bytes
  | [] => []
  | x :: xs => T.framesOf s x ++ framesOfRun (T.step s x) xs

theorem follows_step {x : Happening T} (h : x.Orderly) (s : Traffic L N) :
    Follows s (T.framesOf s x) (T.step s x) := by
  cases x with
  | event e => exact .event h
  | act a => exact T.follows s a

/-- Whatever comes in, a run is a row of events, and hears of their frames. -/
theorem follows_run {xs : List (Happening T)} (h : ∀ x ∈ xs, x.Orderly) (s : Traffic L N) :
    Follows s (T.framesOfRun s xs) (T.run s xs) := by
  induction xs generalizing s with
  | nil => exact .refl s
  | cons x xs ih =>
      have hx := T.follows_step (h x List.mem_cons_self) s
      exact hx.trans (ih (fun y hy => h y (List.mem_cons_of_mem x hy)) (T.step s x))

end Transport

end RemoteJobs.Traffic
