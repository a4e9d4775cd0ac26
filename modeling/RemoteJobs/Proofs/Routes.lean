import Mathlib.Data.List.Basic
import RemoteJobs.Proofs.Inbox
import RemoteJobs.Proofs.Slots.History

/-!
# The two routes of a frame

What comes in is sorted once: replies go to the slots, notifications to the
observers. If the observers keep to the memory, that is neither read the slots
nor change them, the two routes have nothing to do with each other. Frames and
calls then leave of the slots what the replies and the calls alone leave of
them, and of the memory what the notifications alone leave, whichever observers
panic, and however the ones stand between the others. A frame that is neither
is worth a notice and nothing else.

`announce_onMemory` is what it comes from: all that observers do when they are
told of a notification is settled by the memory, for any slots and whatever has
been told before.
-/

namespace RemoteJobs

/-- The reaction depends on the memory of a desk alone and changes nothing else,
and so does every observer that it registers. -/
def Reaction.OnMemory {μ : Type} : Reaction (Desk μ) → Prop
  | .returns => True
  | .panics _ => True
  | .read next => (∀ s s' m, next ⟨s, m⟩ = next ⟨s', m⟩) ∧ ∀ d, (next d).OnMemory
  | .change f next => (∃ g : μ → μ, ∀ d, f d = { d with memory := g d.memory }) ∧ next.OnMemory
  | .tell _ next => next.OnMemory
  | .register o next => (∀ n, (o n).OnMemory) ∧ next.OnMemory

def Observer.OnMemory {μ : Type} (o : Observer (Desk μ)) : Prop := ∀ n, (o n).OnMemory

def Scene.OnMemory {μ : Type} (c : Scene (Desk μ)) : Prop := ∀ o ∈ c.observers, o.OnMemory

theorem Reaction.OnMemory.registered {μ : Type} {r : Reaction (Desk μ)} (h : r.OnMemory)
    (d : Desk μ) : ∀ o ∈ r.registered d, o.OnMemory := by
  induction r generalizing d with
  | returns => exact fun _ ho => by cases ho
  | panics _ => exact fun _ ho => by cases ho
  | read next ih => exact ih d (h.2 d) d
  | change f next ih => exact ih h.2 (f d)
  | tell n next ih => exact ih h d
  | register o next _ ih =>
      intro o' ho'
      rcases List.mem_cons.mp ho' with rfl | ho'
      · exact h.1
      · exact ih h.2 d o' ho'

namespace Scene

variable {μ : Type}

/-- What a reaction does is settled by the memory and the observers. -/
theorem perform_onMemory {r : Reaction (Desk μ)} (hr : r.OnMemory) (m : μ)
    (os : List (Observer (Desk μ))) :
    ∃ ending m' os' told, ∀ slots notices,
      perform ⟨⟨slots, m⟩, os, notices⟩ r = (ending, ⟨⟨slots, m'⟩, os', notices ++ told⟩) := by
  induction r generalizing m os with
  | returns => exact ⟨.returned, m, os, [], fun _ _ => by rw [List.append_nil]; rfl⟩
  | panics text => exact ⟨.panicked text, m, os, [], fun _ _ => by rw [List.append_nil]; rfl⟩
  | read next ih =>
      -- Any slots will do to find out what the reaction reads.
      obtain ⟨ending, m', os', told, h⟩ := ih ⟨.empty 0, m⟩ (hr.2 _) m os
      refine ⟨ending, m', os', told, fun slots notices => ?_⟩
      rw [perform, hr.1 slots (.empty 0) m]
      exact h slots notices
  | change f next ih =>
      obtain ⟨⟨g, hg⟩, hnext⟩ := hr
      obtain ⟨ending, m', os', told, h⟩ := ih hnext (g m) os
      refine ⟨ending, m', os', told, fun slots notices => ?_⟩
      rw [perform, hg]
      exact h slots notices
  | tell n next ih =>
      obtain ⟨ending, m', os', told, h⟩ := ih hr m os
      refine ⟨ending, m', os', n :: told, fun slots notices => ?_⟩
      have hn := h slots (notices ++ [n])
      rw [List.append_assoc] at hn
      exact hn
  | register o next _ ih =>
      obtain ⟨ending, m', os', told, h⟩ := ih hr.2 m (os ++ [o])
      exact ⟨ending, m', os', told, h⟩

theorem tellFrom_onMemory (n : Notification) {os : List (Observer (Desk μ))}
    (hos : ∀ o ∈ os, o.OnMemory) (index : Nat) (m : μ) (registered : List (Observer (Desk μ))) :
    ∃ count m' os' told, ∀ slots notices,
      tellFrom n index ⟨⟨slots, m⟩, registered, notices⟩ os =
        (count, ⟨⟨slots, m'⟩, os', notices ++ told⟩) := by
  induction os generalizing index m registered with
  | nil => exact ⟨0, m, registered, [], fun _ _ => by rw [List.append_nil]; rfl⟩
  | cons o os ih =>
      obtain ⟨ending, m₁, os₁, told₁, h₁⟩ :=
        perform_onMemory (hos o List.mem_cons_self n) m registered
      obtain ⟨count, m₂, os₂, told₂, h₂⟩ :=
        ih (fun o' ho' => hos o' (List.mem_cons_of_mem o ho')) (index + 1) m₁ os₁
      cases ending with
      | returned =>
          refine ⟨count + 1, m₂, os₂, told₁ ++ told₂, fun slots notices => ?_⟩
          rw [tellFrom, h₁]
          simp only [h₂, List.append_assoc]
      | panicked text =>
          refine ⟨count, m₂, os₂, told₁ ++ .observerPanicked index n.method text :: told₂,
            fun slots notices => ?_⟩
          rw [tellFrom, h₁]
          simp only [tell, h₂, List.append_assoc, List.singleton_append]

theorem announce_onMemory {os : List (Observer (Desk μ))} (hos : ∀ o ∈ os, o.OnMemory)
    (n : Notification) (m : μ) :
    ∃ count m' os' told, ∀ slots notices,
      announce ⟨⟨slots, m⟩, os, notices⟩ n = (count, ⟨⟨slots, m'⟩, os', notices ++ told⟩) :=
  tellFrom_onMemory n hos 0 m os

theorem OnMemory.announce {c : Scene (Desk μ)} (h : c.OnMemory) (n : Notification) :
    (c.announce n).2.OnMemory := by
  intro o ho
  rw [observers_announce] at ho
  rcases List.mem_append.mp ho with ho | ho
  · exact h o ho
  · obtain ⟨o', ho', d, hr⟩ := Observer.mem_registered ho
    exact (h o' ho' n).registered d o hr

/-- Tells all observers of several notifications, one after the other. -/
def announceAll {σ : Type} (c : Scene σ) (ns : List Notification) : Scene σ :=
  ns.foldl (fun c n => (c.announce n).2) c

end Scene

namespace Inbox

/-- A frame comes in, or a call acts on the slots. -/
inductive Event where
  | frame (bytes : Bytes)
  | act (a : Slots.Act)

/-- What an event does to the slots: a reply is stored under its own id. -/
def Event.act? : Event → Option Slots.Act
  | .frame bytes => (Inbound.reply? bytes).map fun r => .store r.id r
  | .act a => some a

def Event.notification? : Event → Option Notification
  | .frame bytes => Inbound.notification? bytes
  | .act _ => none

variable {μ : Type}

def step (c : Scene (Desk μ)) : Event → Scene (Desk μ)
  | .frame bytes => handle c bytes
  | .act a => { c with state := { c.state with slots := (c.state.slots.act a).2 } }

def run (c : Scene (Desk μ)) (es : List Event) : Scene (Desk μ) := es.foldl step c

/-- What happens to the slots in the course of a run. -/
def history (c : Scene (Desk μ)) : List Event → List Slots.Deed
  | [] => []
  | e :: es =>
    (e.act?.map fun a => ⟨a, (c.state.slots.act a).1⟩).toList ++ history (step c e) es

variable {c : Scene (Desk μ)}

/-! ## One event -/

/-- The scene has the slots of a table, and the memory and the observers of
another scene. -/
structure Joins (c : Scene (Desk μ)) (s : Slots) (e : Scene (Desk μ)) : Prop where
  slots : c.state.slots = s
  memory : c.state.memory = e.state.memory
  observers : c.observers = e.observers

variable {s : Slots} {e : Scene (Desk μ)}

theorem Joins.announce (h : Joins c s e) (he : e.OnMemory) (n : Notification) :
    (c.announce n).1 = (e.announce n).1 ∧ Joins (c.announce n).2 s (e.announce n).2 ∧
      ∃ told, (c.announce n).2.notices = c.notices ++ told ∧
        (e.announce n).2.notices = e.notices ++ told := by
  obtain ⟨count, m', os', told, ha⟩ := Scene.announce_onMemory he n e.state.memory
  obtain ⟨⟨slots, m⟩, os, notices⟩ := c
  obtain ⟨rfl, rfl, rfl⟩ := h
  have hc := ha slots notices
  have he := ha e.state.slots e.notices
  have hc : Scene.announce ⟨⟨slots, e.state.memory⟩, e.observers, notices⟩ n =
    (count, ⟨⟨slots, m'⟩, os', notices ++ told⟩) := hc
  have he : e.announce n = (count, ⟨⟨e.state.slots, m'⟩, os', e.notices ++ told⟩) := he
  rw [hc, he]
  exact ⟨rfl, ⟨rfl, rfl, rfl⟩, told, rfl, rfl⟩

/-- An event goes one of the two routes, or none. -/
theorem Joins.step (h : Joins c s e) (he : e.OnMemory) (x : Event) :
    Joins (Inbox.step c x) (s.run x.act?.toList) (e.announceAll x.notification?.toList) := by
  cases x with
  | act a => exact ⟨by rw [← h.slots]; rfl, h.memory, h.observers⟩
  | frame bytes =>
      cases hd : Inbound.decode bytes with
      | error m =>
          rw [Inbox.step, handle_malformed hd, Event.act?, Event.notification?, Inbound.reply?,
            Inbound.notification?, hd]
          exact ⟨h.slots, h.memory, h.observers⟩
      | ok i =>
          cases i with
          | reply r =>
              rw [Inbox.step, handle_reply hd, Event.act?, Event.notification?, Inbound.reply?,
                Inbound.notification?, hd, ← h.slots]
              exact ⟨rfl, h.memory, h.observers⟩
          | notification n =>
              rw [Inbox.step, handle_notification hd, Event.act?, Event.notification?,
                Inbound.reply?, Inbound.notification?, hd]
              exact (h.announce he n).2.1

/-! ## Runs -/

theorem onMemory_announceAll {e : Scene (Desk μ)} (he : e.OnMemory) (ns : List Notification) :
    (e.announceAll ns).OnMemory := by
  induction ns generalizing e with
  | nil => exact he
  | cons n ns ih => exact ih (he.announce n)

theorem Joins.run (h : Joins c s e) (he : e.OnMemory) (es : List Event) :
    Joins (Inbox.run c es) (s.run (es.filterMap Event.act?))
        (e.announceAll (es.filterMap Event.notification?)) ∧
      history c es = s.history (es.filterMap Event.act?) := by
  induction es generalizing c s e with
  | nil => exact ⟨h, rfl⟩
  | cons x es ih =>
      obtain ⟨hrun, hhistory⟩ := ih (h.step he x) (onMemory_announceAll he _)
      have hcons : ∀ {α : Type} (f : Event → Option α),
          (x :: es).filterMap f = (f x).toList ++ es.filterMap f := fun f => by
        rw [List.filterMap_eq_flatMap_toList, List.flatMap_cons, List.filterMap_eq_flatMap_toList]
      rw [hcons, hcons, Slots.run, Scene.announceAll, List.foldl_append, List.foldl_append]
      refine ⟨hrun, ?_⟩
      rw [history, hhistory, h.slots]
      cases x.act? with
      | none => rfl
      | some a => rfl

/-- Observers keep to the memory; frames come in, with any bytes, and calls act
on the slots in between. Then the slots are what the replies make of them, each
stored under its own id, together with the calls, and every call finds what it
would find without the other frames; the memory and the observers are what the
notifications make of them, announced in their order. A reply tells what becomes
of it and leaves the memory alone. All observers that are registered when a
notification comes react to it, whichever of them panic, and return and tell
what they would without the other frames. A frame that is neither is dropped
with one notice and leaves everything else alone.

So frames that are neither may come and go, and notifications may change places
with replies and calls: no call and no observer can tell the difference. -/
theorem routes_of_events (h : c.OnMemory) :
    (∀ es : List Event,
      let d := run c es
      let e := c.announceAll (es.filterMap Event.notification?)
      d.state.slots = c.state.slots.run (es.filterMap Event.act?) ∧
      history c es = c.state.slots.history (es.filterMap Event.act?) ∧
      d.state.memory = e.state.memory ∧ d.observers = e.observers ∧
      ∀ frame,
        (∀ r, Inbound.decode frame = .ok (.reply r) →
          handle d frame =
            { state := ⟨(d.state.slots.fill r).2, d.state.memory⟩
              observers := d.observers
              notices := d.notices ++ (d.state.slots.fill r).1.notices }) ∧
        (∀ n, Inbound.decode frame = .ok (.notification n) →
          handle d frame = (d.announce n).2 ∧
          (d.announce n).2.state = d.observers.foldl (fun x o => (o n).after x) d.state ∧
          (d.announce n).2.state.slots = d.state.slots ∧
          (d.announce n).1 = (e.announce n).1 ∧
          ∃ told, (d.announce n).2.notices = d.notices ++ told ∧
            (e.announce n).2.notices = e.notices ++ told) ∧
        ∀ m, Inbound.decode frame = .error m →
          handle d frame = d.tell [.frameDropped m.failure frame.length]) ∧
    ∀ es es' : List Event, es.filterMap Event.act? = es'.filterMap Event.act? →
      es.filterMap Event.notification? = es'.filterMap Event.notification? →
      history c es = history c es' ∧ (run c es).state = (run c es').state ∧
        (run c es).observers = (run c es').observers := by
  have hself : Joins c c.state.slots c := ⟨rfl, rfl, rfl⟩
  refine ⟨fun es => ?_, fun es es' hact hnotification => ?_⟩
  · intro d e
    have he : e.OnMemory := onMemory_announceAll h _
    obtain ⟨hjoins, hhistory⟩ := hself.run h es
    refine ⟨hjoins.slots, hhistory, hjoins.memory, hjoins.observers, fun frame => ⟨?_, ?_, ?_⟩⟩
    · intro r hr
      rw [handle_reply hr]
      rfl
    · intro n hn
      obtain ⟨hcount, hnext, htold⟩ := hjoins.announce he n
      exact ⟨handle_notification hn, Scene.state_announce d n, hnext.slots.trans hjoins.slots.symm,
        hcount, htold⟩
    · exact fun m hm => handle_malformed hm
  · obtain ⟨hjoins, hhistory⟩ := hself.run h es
    obtain ⟨hjoins', hhistory'⟩ := hself.run h es'
    rw [← hact] at hjoins' hhistory'
    rw [← hnotification] at hjoins'
    refine ⟨hhistory.trans hhistory'.symm, ?_, hjoins.observers.trans hjoins'.observers.symm⟩
    rw [show (run c es).state = ⟨(run c es).state.slots, (run c es).state.memory⟩ from rfl,
      hjoins.slots, hjoins.memory, ← hjoins'.slots, ← hjoins'.memory]

/-- A call looks at its slot behind its reply, a notification whose first
observer panics and a text that is no envelope, or behind the reply and with the
notification still to come. -/
theorem routes_of_two_orders :
    let c : Scene (Desk Nat) :=
      { state := ⟨⟨5, false, [(.first, none)]⟩, 0⟩
        observers :=
          [fun _ => .panics none,
            fun _ => .change (fun d => { d with memory := d.memory + 1 })
              (.register (fun _ => .panics (some "late")) .returns)] }
    let reply := Event.frame (Utf8.encode "\x7b\"id\":1,\"result\":7\x7d")
    let tick := Event.frame (Utf8.encode "\x7b\"method\":\"tick\"\x7d")
    let noise := Event.frame (Utf8.encode "null")
    let look := Event.act (.look .first false)
    c.OnMemory ∧
      history c [noise, tick, reply, look] = history c [reply, look, tick] ∧
      (history c [noise, tick, reply, look]).map (·.answer) =
        [.filled .stored, .found (.reply ⟨.first, .ok (.int 7)⟩)] ∧
      (run c [noise, tick, reply, look]).state.memory = 1 := by
  intro c reply tick noise look
  have hc : c.OnMemory := by
    show ∀ o ∈ _, _
    simp only [c, List.forall_mem_cons, List.not_mem_nil, false_implies, implies_true, and_true]
    exact ⟨fun _ => trivial,
      fun _ => ⟨⟨(· + 1), fun _ => rfl⟩, fun _ => trivial, trivial⟩⟩
  obtain ⟨hone, htwo⟩ := routes_of_events hc
  obtain ⟨-, hhistory, -⟩ := hone [noise, tick, reply, look]
  refine ⟨hc, (htwo _ [reply, look, tick] ?_ ?_).1, ?_, ?_⟩
  · with_unfolding_all rfl
  · with_unfolding_all rfl
  · rw [hhistory]
    with_unfolding_all rfl
  · with_unfolding_all rfl

end Inbox

end RemoteJobs
