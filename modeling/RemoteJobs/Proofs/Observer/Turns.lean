import RemoteJobs.Proofs.Observer

/-!
# Turns of the observers

A notification gives a turn to every observer that is registered when it comes.
A reaction is a tree, so the observer and the state that it finds settle the
turn: how it ends, which state it leaves, whom it registers and what it tells
of. `Scene.turns` goes through the observers with nothing but this, each finding
the state that the one before it has left, and knows neither the observers that
are registered on the way nor the panics. What the announcement of a
notification comes to is read off these turns.

In a run of acts the observers only grow in number, and at the end. So an
observer keeps its place, and has it in the turns of every later notification.
-/

namespace RemoteJobs

/-! ## The end of a reaction and what it tells of -/

namespace Reaction

variable {σ : Type}

/-- How a reaction ends if it begins in the state `x`. -/
def ending (x : σ) : Reaction σ → Ending
  | .returns => .returned
  | .panics text => .panicked text
  | .read next => ending x (next x)
  | .change f next => ending (f x) next
  | .tell _ next => ending x next
  | .register _ next => ending x next

/-- What a reaction tells of if it begins in the state `x`. -/
def told (x : σ) : Reaction σ → List Notice
  | .returns => []
  | .panics _ => []
  | .read next => told x (next x)
  | .change f next => told (f x) next
  | .tell n next => n :: told x next
  | .register _ next => told x next

end Reaction

theorem Scene.perform_told {σ : Type} (c : Scene σ) (r : Reaction σ) :
    (c.perform r).1 = r.ending c.state ∧
      (c.perform r).2.notices = c.notices ++ r.told c.state := by
  induction r generalizing c with
  | returns => exact ⟨rfl, (List.append_nil _).symm⟩
  | panics _ => exact ⟨rfl, (List.append_nil _).symm⟩
  | read next ih => exact ih c.state c
  | change f next ih => exact ih { c with state := f c.state }
  | tell n next ih =>
      obtain ⟨hending, hnotices⟩ := ih (c.tell [n])
      refine ⟨hending, hnotices.trans ?_⟩
      rw [tell, List.append_assoc]
      rfl
  | register o next _ ih => exact ih (c.observe o)

/-! ## Turns -/

/-- One observer's turn at a notification. -/
structure Turn (σ : Type) where
  /-- The position of the observer. -/
  place : Nat
  observer : Observer σ
  /-- The state that the observer finds. -/
  start : σ

namespace Turn

variable {σ : Type} (n : Notification) (t : Turn σ)

/-- The state that the observer leaves. -/
def finish : σ := (t.observer n).after t.start

def registered : List (Observer σ) := (t.observer n).registered t.start

def returns : Bool :=
  match (t.observer n).ending t.start with
  | .returned => true
  | .panicked _ => false

/-- What is told of the observer's panic, if there is one. -/
def panic? : Option Notice :=
  match (t.observer n).ending t.start with
  | .returned => none
  | .panicked text => some (.observerPanicked t.place n.method text)

def notices : List Notice := (t.observer n).told t.start ++ (t.panic? n).toList

end Turn

/-- The turns of observers, the first of which has the position `place` and
finds the state `x`. -/
def Observer.turns {σ : Type} (n : Notification) (place : Nat) (x : σ) :
    List (Observer σ) → List (Turn σ)
  | [] => []
  | o :: os => ⟨place, o, x⟩ :: turns n (place + 1) ((o n).after x) os

namespace Observer

variable {σ : Type} (n : Notification)

theorem observers_turns (os : List (Observer σ)) (place : Nat) (x : σ) :
    (turns n place x os).map Turn.observer = os := by
  induction os generalizing place x with
  | nil => rfl
  | cons o os ih => exact congrArg (o :: ·) (ih (place + 1) ((o n).after x))

theorem places_turns (os : List (Observer σ)) (place : Nat) (x : σ) :
    (turns n place x os).map Turn.place = List.range' place os.length := by
  induction os generalizing place x with
  | nil => rfl
  | cons o os ih => exact congrArg (place :: ·) (ih (place + 1) ((o n).after x))

/-- Every observer finds what the one before it has left. -/
theorem states_turns (os : List (Observer σ)) (place : Nat) (x : σ) :
    (turns n place x os).map Turn.start ++ [os.foldl (fun x o => (o n).after x) x] =
      x :: (turns n place x os).map (Turn.finish n) := by
  induction os generalizing place x with
  | nil => rfl
  | cons o os ih => exact congrArg (x :: ·) (ih (place + 1) ((o n).after x))

theorem registered_turns (os : List (Observer σ)) (place : Nat) (x : σ) :
    (turns n place x os).flatMap (Turn.registered n) = registered n os x := by
  induction os generalizing place x with
  | nil => rfl
  | cons o os ih =>
      exact congrArg ((o n).registered x ++ ·) (ih (place + 1) ((o n).after x))

/-- Observers that each write at the end of a log write in their order. -/
theorem log_foldl {α β : Type} {log : σ → List α} {observer : β → Observer σ}
    {marks : β → List α} {bs : List β}
    (h : ∀ b ∈ bs, ∀ x, log ((observer b n).after x) = log x ++ marks b) (x : σ) :
    log ((bs.map observer).foldl (fun x o => (o n).after x) x) = log x ++ bs.flatMap marks := by
  induction bs generalizing x with
  | nil => exact (List.append_nil _).symm
  | cons b bs ih =>
      have hrest := ih (fun b' hb' => h b' (List.mem_cons_of_mem b hb')) ((observer b n).after x)
      rw [h b List.mem_cons_self, List.append_assoc] at hrest
      exact hrest

theorem marks_foldl {α : Type} {log : σ → List α} {mark : Observer σ → α} {os : List (Observer σ)}
    (h : ∀ o ∈ os, ∀ x, log ((o n).after x) = log x ++ [mark o]) (x : σ) :
    log (os.foldl (fun x o => (o n).after x) x) = log x ++ os.map mark := by
  have hlog : log ((os.map id).foldl (fun x o => (o n).after x) x) =
      log x ++ os.flatMap fun o => [mark o] := log_foldl n h x
  rw [List.map_id] at hlog
  rw [hlog, List.map_eq_flatMap]

end Observer

namespace Scene

variable {σ : Type}

/-- The turns at a notification. -/
def turns (c : Scene σ) (n : Notification) : List (Turn σ) :=
  Observer.turns n 0 c.state c.observers

theorem tellFrom_turns (n : Notification) (os : List (Observer σ)) (place : Nat) (c : Scene σ) :
    (tellFrom n place c os).1 = (Observer.turns n place c.state os).countP (Turn.returns n) ∧
      (tellFrom n place c os).2.notices =
        c.notices ++ (Observer.turns n place c.state os).flatMap (Turn.notices n) := by
  induction os generalizing place c with
  | nil => exact ⟨rfl, (List.append_nil _).symm⟩
  | cons o os ih =>
      -- How the first turn ends and what it leaves is known before it is performed.
      have hstate := (perform_eq c (o n)).1
      obtain ⟨hending, hnotices⟩ := perform_told c (o n)
      rw [tellFrom, Observer.turns, List.countP_cons, List.flatMap_cons, Turn.returns,
        Turn.notices, Turn.panic?, ← hending, ← hstate]
      split
      · next c' hp =>
          rw [hp] at hnotices ⊢
          have hnotices : c'.notices = c.notices ++ (o n).told c.state := hnotices
          obtain ⟨hcount, hrest⟩ := ih (place + 1) c'
          refine ⟨congrArg (· + 1) hcount, hrest.trans ?_⟩
          simp only [hnotices, Option.toList_none, List.append_nil, List.append_assoc]
      · next text c' hp =>
          rw [hp] at hnotices ⊢
          have hnotices : c'.notices = c.notices ++ (o n).told c.state := hnotices
          obtain ⟨hcount, hrest⟩ := ih (place + 1) (c'.tell [.observerPanicked place n.method text])
          refine ⟨hcount, hrest.trans ?_⟩
          simp only [tell, hnotices, Option.toList_some, List.append_assoc]

/-! ## Runs of acts -/

/-- What is done with a scene from without. -/
inductive Act (σ : Type) where
  | observe (o : Observer σ)
  /-- To register an observer for one method, which may be refused. -/
  | observeOnly (method : String) (o : Observer σ)
  | announce (n : Notification)

def step (c : Scene σ) : Act σ → Scene σ
  | .observe o => c.observe o
  | .observeOnly method o =>
    match c.observeOnly method o with
    | .ok c' => c'
    | .error _ => c
  | .announce n => (c.announce n).2

def run (c : Scene σ) (as : List (Act σ)) : Scene σ := as.foldl step c

theorem observers_step (c : Scene σ) (a : Act σ) :
    ∃ later, (c.step a).observers = c.observers ++ later := by
  cases a with
  | observe o => exact ⟨[o], rfl⟩
  | observeOnly method o =>
      rw [step, observeOnly]
      cases Observer.checkFilter method with
      | ok _ => exact ⟨[o.only method], rfl⟩
      | error e => exact ⟨[], (List.append_nil _).symm⟩
  | announce n => exact ⟨_, observers_announce c n⟩

/-- Observers are never removed, and new ones come last. -/
theorem observers_run (c : Scene σ) (as : List (Act σ)) :
    ∃ later, (c.run as).observers = c.observers ++ later := by
  induction as generalizing c with
  | nil => exact ⟨[], (List.append_nil _).symm⟩
  | cons a as ih =>
      obtain ⟨first, hfirst⟩ := observers_step c a
      obtain ⟨later, hlater⟩ := ih (c.step a)
      refine ⟨first ++ later, hlater.trans ?_⟩
      rw [hfirst, List.append_assoc]

/-- Whenever in a run of acts a notification is announced, whatever the
observers do about it: those that were registered when it came have one turn
each, in the order in which they were registered, from the state that the one
before has left. The count is that of the turns that return; every one that
panics is told of once, with its position. Then the observers that the turns
have registered stand behind the others, in their order, and have had no turn;
from now on they have theirs in this place. That the observers really run
is seen in the state: if each puts its mark at the end of a log in it, the log
has grown by their marks. -/
theorem turns_of_acts (c₀ : Scene σ) (as : List (Act σ)) (n : Notification) :
    let c := c₀.run as
    let ts := c.turns n
    let count := (c.announce n).1
    let c' := (c.announce n).2
    (ts.map Turn.observer = c.observers ∧ ts.map Turn.place = List.range c.observers.length) ∧
    ts.map Turn.start ++ [c'.state] = c.state :: ts.map (Turn.finish n) ∧
    count = ts.countP (Turn.returns n) ∧
    c'.notices = c.notices ++ ts.flatMap (Turn.notices n) ∧
    c'.observers = c.observers ++ ts.flatMap (Turn.registered n) ∧
    (∀ (bs : List (Act σ)) (m : Notification), ∃ later,
      ((c'.run bs).turns m).map Turn.observer =
        c.observers ++ ts.flatMap (Turn.registered n) ++ later) ∧
    (∀ (α : Type) (log : σ → List α) (mark : Observer σ → α),
      (∀ o ∈ c.observers, ∀ x, log ((o n).after x) = log x ++ [mark o]) →
        log c'.state = log c.state ++ c.observers.map mark) := by
  intro c ts count c'
  have hturns : ts.map Turn.observer = c.observers :=
    Observer.observers_turns n c.observers 0 c.state
  have hplaces : ts.map Turn.place = List.range c.observers.length :=
    (Observer.places_turns n c.observers 0 c.state).trans List.range_eq_range'.symm
  have hstate : c'.state = c.observers.foldl (fun x o => (o n).after x) c.state :=
    state_announce c n
  have hobservers : c'.observers = c.observers ++ ts.flatMap (Turn.registered n) :=
    (observers_announce c n).trans
      (congrArg (c.observers ++ ·) (Observer.registered_turns n c.observers 0 c.state).symm)
  obtain ⟨hcount, hnotices⟩ := tellFrom_turns n c.observers 0 c
  refine ⟨⟨hturns, hplaces⟩, ?_, hcount, hnotices, hobservers, fun bs m => ?_, ?_⟩
  · rw [hstate]
    exact Observer.states_turns n c.observers 0 c.state
  · obtain ⟨later, hlater⟩ := observers_run c' bs
    rw [hobservers] at hlater
    exact ⟨later, (Observer.observers_turns m _ 0 _).trans hlater⟩
  · intro α log mark h
    rw [hstate]
    exact Observer.marks_foldl n h c.state

/-- The first of two observers registers a third one, which has its turn at the
next notification, and panics. -/
example (n : Notification) :
    let third : Observer (List Nat) := fun _ => .change (· ++ [3]) .returns
    let first : Observer (List Nat) := fun _ => .change (· ++ [1]) (.register third (.panics none))
    let second : Observer (List Nat) := fun _ => .change (· ++ [2]) .returns
    let c := run { state := [] } [.observe first, .observe second]
    c.announce n = (1, ⟨[1, 2], [first, second, third], [.observerPanicked 0 n.method none]⟩) ∧
      ((c.announce n).2.announce n).2.state = [1, 2, 1, 2, 3] :=
  ⟨rfl, rfl⟩

end Scene

end RemoteJobs
