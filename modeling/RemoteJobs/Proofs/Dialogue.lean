import RemoteJobs.Client.Memory
import RemoteJobs.Proofs.Observer.Keeps
import RemoteJobs.Proofs.Traffic.Holders

/-!
# Dialogues over a channel in memory

A dialogue is a client on a channel in memory, together with what its server
has taken from the channel. The program of the client calls, registers
observers and disconnects; the server takes frames, hands on frames and hangs
up. These moves follow each other in any order. A call comes to its request in
one move and looks at its slot in others, so that the server may have its turn
while it waits.

A state does not show which calls have been made nor how often the client was
told that the channel is shut. An `Account` of a move says so. Observers call
and disconnect inside the move of their frame; what they do there is up to
them, so `Session.Account` says what they may do, and what it comes to. For
observers that are `Proper` there always is an account.
-/

namespace RemoteJobs

/-- A call that has drawn an id, and whether its request was sent. -/
structure CallRecord where
  id : PacketId
  method : String
  params : Json
  sent : Bool

/-- The frame of the call's request. -/
def CallRecord.frame (r : CallRecord) : Bytes := (Request.call r.id r.method r.params).bytes

namespace Call

def isSent : Call → Bool
  | sent _ => true
  | _ => false

/-- What is recorded of a call that is made at this desk. A client that has been
disconnected draws no id. -/
def record {L N : Type} [Link L] (method : String) (params : Json) (d : Desk (Session L N)) :
    List CallRecord :=
  if d.memory.connected then
    [⟨d.memory.ids.upcoming, method, params, (issue method params d).1.isSent⟩]
  else []

end Call

/-- How often the client is told of it if the channel is shut now. -/
def Channel.tellings {κ : Type} (c : Channel κ) : Nat := if c.shut.1.isSome then 1 else 0

/-- How often the client is told that the channel is shut if it disconnects now. -/
def Session.tellings {κ N : Type} (m : Session (Channel κ) N) : Nat :=
  if m.connected then m.link.tellings else 0

/-- What an observer may do to the desk of its client, with the calls that it
makes and the number of times that the client is told that the channel is shut. -/
inductive Session.Account {N : Type} :
    Desk (Session (Channel Unit) N) → List CallRecord → Nat →
      Desk (Session (Channel Unit) N) → Prop where
  | notes (d : Desk (Session (Channel Unit) N)) (notes : N) :
      Account d [] 0 { d with memory := { d.memory with notes } }
  /-- A call that does not wait. -/
  | call (method : String) (params : Json) (d : Desk (Session (Channel Unit) N)) :
      Account d (Call.record method params d) 0 (Call.attempt method params d).2
  | disconnect (d : Desk (Session (Channel Unit) N)) :
      Account d [] d.memory.tellings (Session.disconnect d)
  | trans {d e f : Desk (Session (Channel Unit) N)} {calls calls' : List CallRecord}
      {told told' : Nat} : Account d calls told e → Account e calls' told' f →
        Account d (calls ++ calls') (told + told') f

/-! ## Proper observers -/

section

variable {N : Type}

/-- There is an account of what has happened to the desk. -/
def Session.Accounted (d e : Desk (Session (Channel Unit) N)) : Prop :=
  ∃ calls told, Session.Account d calls told e

namespace Session.Accounted

variable {d e f : Desk (Session (Channel Unit) N)}

theorem refl (d : Desk (Session (Channel Unit) N)) : Accounted d d :=
  ⟨[], 0, .notes d d.memory.notes⟩

theorem trans (h : Accounted d e) (h' : Accounted e f) : Accounted d f := by
  obtain ⟨calls, told, h⟩ := h
  obtain ⟨calls', told', h'⟩ := h'
  exact ⟨calls ++ calls', told + told', h.trans h'⟩

end Session.Accounted

/-- Whatever the observer does to the desk of its client, it is what an observer
may do. -/
def Observer.Proper (o : Observer (Desk (Session (Channel Unit) N))) : Prop :=
  Observer.Keeps Session.Accounted o

namespace Reaction

variable {d : Desk (Session (Channel Unit) N)}

end Reaction

end

/-! ## Moves -/

structure Dialogue (N : Type) where
  client : Client (Channel Unit) N
  /-- The frames that the server has taken. -/
  received : List Bytes := []

namespace Dialogue

variable {N : Type}

inductive Move (N : Type) where
  /-- A call is made, up to its request. -/
  | call (method : String) (params : Json)
  /-- The call with this id looks at its slot, its time being over or not. -/
  | look (id : PacketId) (expired : Bool)
  | observe (o : Observer (Desk (Session (Channel Unit) N)))
  | disconnect
  /-- The server hands on a frame. -/
  | inject (frame : Bytes)
  /-- The server hangs up. -/
  | hangUp
  /-- The server takes a frame. -/
  | take
  /-- From now on the client's frames get lost, or they do not. -/
  | failing (on : Bool)

def step (s : Dialogue N) : Move N → Dialogue N
  | .call method params => { s with client := (s.client.issue method params).2 }
  | .look id expired =>
    let (_, state) := (Call.sent id).look expired s.client.state
    { s with client := { s.client with state } }
  | .observe o => { s with client := s.client.observe o }
  | .disconnect => { s with client := s.client.disconnect }
  | .inject frame => { s with client := (s.client.inject frame).2 }
  | .hangUp => { s with client := s.client.hangUpMemory }
  | .take =>
    { client := s.client.withLink fun k => k.take.2
      received := s.received ++ s.client.session.link.take.1.toList }
  | .failing on => { s with client := s.client.withLink ({ · with failing := on }) }

def run (s : Dialogue N) (ms : List (Move N)) : Dialogue N := ms.foldl step s

theorem run_snoc (s : Dialogue N) (ms : List (Move N)) (m : Move N) :
    s.run (ms ++ [m]) = (s.run ms).step m := by
  rw [run, List.foldl_append]
  rfl

/-- All frames that have been sent, whether the server has taken them or not. -/
def frames (s : Dialogue N) : List Bytes := s.received ++ s.client.session.link.queue

/-! ## Accounts -/

/-- The calls that are made in a move, and how often the client is told in it
that the channel is shut. -/
def Account (s : Dialogue N) (calls : List CallRecord) (told : Nat) : Move N → Prop
  | .call method params => calls = Call.record method params s.client.state ∧ told = 0
  | .disconnect => calls = [] ∧ told = s.client.session.tellings
  | .hangUp => calls = [] ∧ told = s.client.session.link.tellings
  | .inject frame =>
    match s.client.session.link.sink, Inbound.notification? frame with
    | some (), some _ =>
      Session.Account s.client.state calls told (Inbox.handle s.client frame).state
    | _, _ => calls = [] ∧ told = 0
  | _ => calls = [] ∧ told = 0

/-- The same of a run. -/
inductive Accounts (s : Dialogue N) : List (Move N) → List CallRecord → Nat → Prop where
  | nil : Accounts s [] [] 0
  | snoc {ms : List (Move N)} {m : Move N} {calls calls' : List CallRecord} {told told' : Nat} :
      Accounts s ms calls told → (s.run ms).Account calls' told' m →
        Accounts s (ms ++ [m]) (calls ++ calls') (told + told')

/-- The move does not bring in an observer that is not proper. -/
def Move.Proper : Move N → Prop
  | .observe o => Observer.Proper o
  | _ => True

/-- All observers are proper. -/
def Proper (s : Dialogue N) : Prop := s.client.Keeps Session.Accounted

theorem state_of_connectMemory {plan : Plan} {directory : String} {notes : N}
    {c : Client (Channel Unit) N} (h : Client.connectMemory plan directory notes = .ok c) :
    c.state.slots = .empty plan.settings.maxPending ∧ c.session.ids = .fresh ∧
      c.session.connected = true ∧ c.observers = [] ∧ c.session.link = { sink := some () } := by
  obtain ⟨hslots, hids, hconnected, hobservers, endpoint, hlink⟩ := Client.state_of_connect h
  injection hlink with hlink
  exact ⟨hslots, hids, hconnected, hobservers, hlink.symm⟩

/-- A client that has been opened has no observers that are not proper. -/
theorem proper_of_connectMemory {plan : Plan} {directory : String} {notes : N}
    {c : Client (Channel Unit) N} (h : Client.connectMemory plan directory notes = .ok c) :
    Proper ⟨c, []⟩ := by
  obtain ⟨-, -, -, hobservers, -⟩ := state_of_connectMemory h
  intro o ho
  rw [hobservers] at ho
  cases ho

theorem inject_of_sink {c : Client (Channel Unit) N} {frame : Bytes}
    (h : c.session.link.sink = some ()) : c.inject frame = (true, Inbox.handle c frame) := by
  rw [Client.inject, h]
  rfl

theorem inject_of_no_sink {c : Client (Channel Unit) N} {frame : Bytes}
    (h : c.session.link.sink = none) : c.inject frame = (false, c) := by
  rw [Client.inject, h]
  rfl

theorem Proper.exists_account {s : Dialogue N} (h : s.Proper) (m : Move N) :
    ∃ calls told, s.Account calls told m := by
  cases m with
  | inject frame =>
      cases hsink : s.client.session.link.sink with
      | none => exact ⟨[], 0, by rw [Account, hsink]; exact ⟨rfl, rfl⟩⟩
      | some u =>
          cases hn : Inbound.notification? frame with
          | none => exact ⟨[], 0, by rw [Account, hsink, hn]; exact ⟨rfl, rfl⟩⟩
          | some n =>
              have hstate := Inbox.state_handle_notification (c := s.client)
                (Inbound.notification?_eq_some_iff.mp hn)
              obtain ⟨calls, told, haccount⟩ :=
                Observer.Keeps.foldl .refl .trans h s.client.state (n := n)
              exact ⟨calls, told, by rw [Account, hsink, hn, hstate]; exact haccount⟩
  | _ => exact ⟨_, _, rfl, rfl⟩

theorem Proper.step {s : Dialogue N} (h : s.Proper) {m : Move N} (hm : m.Proper) :
    (s.step m).Proper := by
  cases m with
  | inject frame =>
      cases hsink : s.client.session.link.sink with
      | none =>
          rw [Proper, Dialogue.step, inject_of_no_sink hsink]
          exact h
      | some u =>
          rw [Proper, Dialogue.step, inject_of_sink hsink]
          exact Inbox.keeps_observers_handle h frame
  | observe o =>
      intro o' ho'
      rcases List.mem_append.mp ho' with ho' | ho'
      · exact h o' ho'
      · rw [List.mem_singleton.mp ho']
        exact hm
  | hangUp =>
      rw [Proper, Dialogue.step, Client.hangUpMemory]
      dsimp only
      split
      · exact h
      · exact h
  | call method params => exact h
  | look id expired => exact h
  | disconnect => exact h
  | take => exact h
  | failing on => exact h

theorem Proper.run {s : Dialogue N} (h : s.Proper) {ms : List (Move N)}
    (hms : ∀ m ∈ ms, m.Proper) : (s.run ms).Proper := by
  induction ms generalizing s with
  | nil => exact h
  | cons m ms ih =>
      exact ih (h.step (hms m List.mem_cons_self)) fun m' hm' => hms m' (List.mem_cons_of_mem m hm')

/-- A move in front of a run. -/
theorem Accounts.cons {s : Dialogue N} {m : Move N} {ms : List (Move N)}
    {calls calls' : List CallRecord} {told told' : Nat} (hm : s.Account calls told m)
    (hms : (s.step m).Accounts ms calls' told') :
    s.Accounts (m :: ms) (calls ++ calls') (told + told') := by
  induction hms with
  | nil =>
      have hone : s.Accounts ([] ++ [m]) ([] ++ calls) (0 + told) := .snoc .nil hm
      rw [Nat.zero_add] at hone
      rw [List.append_nil]
      exact hone
  | snoc _ hm' ih =>
      rw [← List.append_assoc, ← Nat.add_assoc]
      exact ih.snoc hm'

/-- Every run in which all observers are proper has an account. -/
theorem Proper.exists_accounts {s : Dialogue N} (h : s.Proper) {ms : List (Move N)}
    (hms : ∀ m ∈ ms, m.Proper) : ∃ calls told, s.Accounts ms calls told := by
  induction ms generalizing s with
  | nil => exact ⟨[], 0, .nil⟩
  | cons m ms ih =>
      obtain ⟨calls, told, hm⟩ := h.exists_account m
      obtain ⟨calls', told', hrest⟩ := ih (h.step (hms m List.mem_cons_self))
        fun m' hm' => hms m' (List.mem_cons_of_mem m hm')
      exact ⟨calls ++ calls', told + told', .cons hm hrest⟩

end Dialogue

end RemoteJobs
