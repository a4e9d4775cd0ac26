import RemoteJobs.Proofs.Envelopes
import RemoteJobs.Proofs.Observer.Filters

/-!
# Methods that can be told of and methods that can be asked for

Two sides say what the name of a method may be. A frame holds a notification of
whichever method it says, be the name empty or full of blanks. An observer is
registered for one method only if the name is not empty and has no blank. So the
names that are refused are names that notifications do have: their observers
are those of every method alone.

`Hears` says that an observer which comes last has one turn at a notification.
Whether it is the observer itself or one that does the same at this
notification, such as the observer with an eye to its method only, makes no
difference.
-/

namespace RemoteJobs

namespace Scene

variable {σ : Type} {c : Scene σ} {o o' : Observer σ} {n : Notification}

/-- At the notification `n` the observers of `c'` have the turns of those of
`c`, and then the reaction of `o` has one, which finds what they have left and
is counted if it returns. -/
structure Hears (c c' : Scene σ) (o : Observer σ) (n : Notification) : Prop where
  turn : ∃ t : Turn σ, c'.turns n = c.turns n ++ [t] ∧ t.observer n = o n ∧
    t.start = (c.announce n).2.state ∧
    (c'.announce n).1 = (c.announce n).1 + (t.returns n).toNat
  state : (c'.announce n).2.state = (o n).after (c.announce n).2.state

/-- The observer that has been registered last has the last turn. -/
theorem turns_observe (c : Scene σ) (o : Observer σ) (n : Notification) :
    (c.observe o).turns n = c.turns n ++ [⟨c.observers.length, o, (c.announce n).2.state⟩] := by
  have happend := Observer.turns_append n c.observers [o] 0 c.state
  rw [Nat.zero_add, ← state_announce] at happend
  exact happend

theorem count_announce (c : Scene σ) (n : Notification) :
    (c.announce n).1 = (c.turns n).countP (Turn.returns n) :=
  (tellFrom_turns n c.observers 0 c).1

theorem hears_observe (h : o' n = o n) : c.Hears (c.observe o') o n := by
  refine ⟨⟨_, turns_observe c o' n, h, rfl, ?_⟩, ?_⟩
  · rw [count_announce, count_announce, turns_observe, List.countP_append, List.countP_singleton]
    congr 1
    generalize Turn.returns n _ = b
    cases b with
    | true => rfl
    | false => rfl
  · rw [state_announce, state_announce, observe, List.foldl_append, List.foldl_cons,
      List.foldl_nil, h]

end Scene

namespace Inbox

variable {μ : Type}

/-- Every method has notifications that come in, with all params that a text has
room for. An observer can be registered for the method of a notification and
then has one turn at it, exactly if the method has a name without blanks. It has
this turn at once, and also if other observers are registered and other
notifications announced before the frame comes. If the method has no such name
the observer is refused; and yet the notification is one that goes to the
observers, for the same observer of every method has its turn. -/
theorem hearing_of_methods (c : Scene (Desk μ)) (o : Observer (Desk μ)) (method : String) :
    (∀ params : Json, params.Fits (Json.depth - 1) →
      ∃ frame, Inbound.decode frame = .ok (.notification ⟨method, params⟩)) ∧
    ∀ (frame : Bytes) (params : Json),
      Inbound.decode frame = .ok (.notification ⟨method, params⟩) →
        let n : Notification := ⟨method, params⟩
        ((∃ c', c.observeOnly method o = .ok c' ∧ c.Hears c' o n ∧
            ∀ as : List (Scene.Act (Desk μ)),
              handle (c'.run as) frame = ((c'.run as).announce n).2 ∧
              ∃ t : Turn (Desk μ), t.observer n = o n ∧ (c'.run as).Behind n c.observers t) ↔
          Scene.Named method) ∧
        (¬ Scene.Named method →
          (∃ text, c.observeOnly method o = .error (.invalidCallback text)) ∧
          handle (c.observe o) frame = ((c.observe o).announce n).2 ∧
          c.Hears (c.observe o) o n) := by
  refine ⟨fun params hparams => ⟨_, Inbound.decode_notification hparams⟩, ?_⟩
  intro frame params hframe n
  refine ⟨⟨?_, ?_⟩, fun hname => ⟨?_, ?_, ?_⟩⟩
  · intro hheard
    obtain ⟨c', hc', -, -⟩ := hheard
    exact (Scene.observeOnly_eq_ok_iff.mp hc').1
  · intro hname
    refine ⟨_, Scene.observeOnly_named hname c o, Scene.hears_observe (if_pos rfl), fun as => ?_⟩
    obtain ⟨t, ht, hbehind⟩ := Scene.exists_turn c (o.only method) as n
    refine ⟨handle_notification hframe, t, ?_, hbehind⟩
    rw [ht]
    exact if_pos rfl
  · exact Scene.observeOnly_unnamed hname c o
  · exact handle_notification hframe
  · exact Scene.hears_observe rfl

/-- Notifications of a method without a name, and of one with a blank in its
name, come in, but no observer can be registered for either of them. -/
theorem hearing_without_name :
    Inbound.decode (Utf8.encode "\x7b\"method\":\"\"\x7d") = .ok (.notification ⟨"", .null⟩) ∧
    Inbound.decode (Utf8.encode "\x7b\"method\":\"a b\"\x7d") =
      .ok (.notification ⟨"a b", .null⟩) ∧
    ∀ (μ : Type) (c : Scene (Desk μ)) (o : Observer (Desk μ)),
      c.observeOnly "" o = .error (.invalidCallback "method filter is empty") ∧
      ∃ text, c.observeOnly "a b" o = .error (.invalidCallback text) := by
  refine ⟨?_, ?_, fun μ c o => ⟨rfl, ?_⟩⟩
  · with_unfolding_all rfl
  · with_unfolding_all rfl
  · have hblank : ¬ Scene.Named "a b" := by decide
    exact Scene.observeOnly_unnamed hblank c o

end Inbox

end RemoteJobs
