import RemoteJobs.Envelope.Reply
import RemoteJobs.Notice
import RemoteJobs.Text.Blank
import RemoteJobs.Text.Quoted

/-!
# Observers

An observer is told of every notification and reacts: it reads and changes a
state, tells of something, registers further observers, and in the end returns
or panics. A reaction is a tree of such acts, so what it does is known from its
form, and it comes to an end.

A `Scene` is a state and the observers that watch it. A notification goes to
the observers that are registered when it comes, in the order in which they
were registered; one that panics keeps it from no other.
-/

namespace RemoteJobs

inductive Reaction (σ : Type) where
  | returns
  /-- A panic, with a text or without. -/
  | panics (text : Option String)
  | read (next : σ → Reaction σ)
  | change (f : σ → σ) (next : Reaction σ)
  | tell (n : Notice) (next : Reaction σ)
  | register (observer : Notification → Reaction σ) (next : Reaction σ)

abbrev Observer (σ : Type) := Notification → Reaction σ

namespace Reaction

/-- Tells of several things in their order. -/
def tellAll {σ : Type} (ns : List Notice) (next : Reaction σ) : Reaction σ := ns.foldr tell next

end Reaction

namespace Observer

variable {σ : Type}

/-- The name of a method for which an observer can be registered. -/
def checkFilter (method : String) : Except Failure Unit :=
  if method.isEmpty then .error (.invalidCallback "method filter is empty")
  else if method.toList.any Text.isBlank then
    .error (.invalidCallback s!"method filter {Text.quote method} contains whitespace")
  else .ok ()

/-- The observer with an eye to one method only. -/
def only (method : String) (o : Observer σ) : Observer σ := fun n =>
  if n.method = method then o n else .returns

end Observer

structure Scene (σ : Type) where
  state : σ
  observers : List (Observer σ) := []
  notices : List Notice := []

/-- How a reaction ends. -/
inductive Ending where
  | returned
  | panicked (text : Option String)

namespace Scene

variable {σ : Type}

def observe (c : Scene σ) (o : Observer σ) : Scene σ := { c with observers := c.observers ++ [o] }

/-- Registers an observer for one method. -/
def observeOnly (c : Scene σ) (method : String) (o : Observer σ) : Except Failure (Scene σ) :=
  match Observer.checkFilter method with
  | .ok () => .ok (c.observe (o.only method))
  | .error e => .error e

def tell (c : Scene σ) (ns : List Notice) : Scene σ := { c with notices := c.notices ++ ns }

/-- Lets a reaction happen. -/
def perform (c : Scene σ) : Reaction σ → Ending × Scene σ
  | .returns => (.returned, c)
  | .panics text => (.panicked text, c)
  | .read next => c.perform (next c.state)
  | .change f next => perform { c with state := f c.state } next
  | .tell n next => perform (c.tell [n]) next
  | .register o next => perform (c.observe o) next

/-- Tells observers of a notification, the first of which has the position
`index`, and counts those that return. -/
def tellFrom (n : Notification) (index : Nat) (c : Scene σ) : List (Observer σ) → Nat × Scene σ
  | [] => (0, c)
  | o :: os =>
    match c.perform (o n) with
    | (.returned, c) =>
      let (count, c) := tellFrom n (index + 1) c os
      (count + 1, c)
    | (.panicked text, c) => tellFrom n (index + 1) (c.tell [.observerPanicked index n.method text]) os

/-- Tells all observers of a notification. -/
def announce (c : Scene σ) (n : Notification) : Nat × Scene σ := tellFrom n 0 c c.observers

/-- The notices so far, which are then gone. -/
def takeNotices (c : Scene σ) : List Notice × Scene σ := (c.notices, { c with notices := [] })

def describe (c : Scene σ) : String :=
  "NotificationDispatcher \x7b callbacks: " ++ Decimal.natText c.observers.length ++ " \x7d"

end Scene

end RemoteJobs
