import RemoteJobs.Client.Reactions
import RemoteJobs.Proofs.Observer.Turns

/-!
# Observers of one method and of state changes

An observer that is registered for one method, or for the changes of jobs'
states, has its turn at every notification like any other, in its place, and
does nothing with it if the notification is not for it: it leaves the state as
it is and returns, even if it is one that would panic.

What observers are told of is best seen in a log. A `Scribe` writes what it is
told at the end of a log in the state. Its reactions may do anything else, panic
behind it and register observers that leave the log alone. Whichever scribes are
registered between whichever notifications, the log is known from the names of
the methods and from the params.
-/

namespace RemoteJobs

/-! ## Names of methods -/

namespace Scene

variable {σ : Type} {method : String}

/-- The name may be that of a method. -/
def Named (method : String) : Prop :=
  method ≠ "" ∧ ∀ ch ∈ method.toList, Text.isBlank ch = false

instance : Decidable (Named method) :=
  @instDecidableAnd _ _ instDecidableNot (List.decidableBAll _ method.toList)

theorem observeOnly_named (h : Named method) (c : Scene σ) (o : Observer σ) :
    c.observeOnly method o = .ok (c.observe (o.only method)) := by
  have hempty : ¬ method.isEmpty = true := fun he => h.1 (String.isEmpty_iff.mp he)
  have hblank : ¬ method.toList.any Text.isBlank = true := by
    simpa using h.2
  rw [observeOnly, Observer.checkFilter, if_neg hempty, if_neg hblank]

theorem observeOnly_unnamed (h : ¬ Named method) (c : Scene σ) (o : Observer σ) :
    ∃ text, c.observeOnly method o = .error (.invalidCallback text) := by
  rw [observeOnly, Observer.checkFilter]
  by_cases hempty : method.isEmpty = true
  · rw [if_pos hempty]
    exact ⟨_, rfl⟩
  · by_cases hblank : method.toList.any Text.isBlank = true
    · rw [if_neg hempty, if_pos hblank]
      exact ⟨_, rfl⟩
    · refine absurd ⟨fun he => hempty (String.isEmpty_iff.mpr he), ?_⟩ h
      simpa using hblank

theorem observeOnly_eq_ok_iff {c c' : Scene σ} {o : Observer σ} :
    c.observeOnly method o = .ok c' ↔ Named method ∧ c.observe (o.only method) = c' := by
  constructor
  · intro h
    by_cases hname : Named method
    · rw [observeOnly_named hname] at h
      injection h with h
      exact ⟨hname, h⟩
    · obtain ⟨text, herror⟩ := observeOnly_unnamed hname c o
      rw [herror] at h
      cases h
  · intro h
    rw [observeOnly_named h.1, h.2]

theorem step_named (h : Named method) (c : Scene σ) (o : Observer σ) :
    c.step (.observeOnly method o) = c.observe (o.only method) := by
  rw [step, observeOnly_named h]

theorem step_unnamed (h : ¬ Named method) (c : Scene σ) (o : Observer σ) :
    c.step (.observeOnly method o) = c := by
  obtain ⟨text, herror⟩ := observeOnly_unnamed h c o
  rw [step, herror]

end Scene

/-! ## One observer's turns -/

/-- A reaction that only tells of something. -/
theorem Reaction.tellAll_returns {σ : Type} (ns : List Notice) (x : σ) :
    (tellAll ns .returns).after x = x ∧ (tellAll ns .returns).registered x = [] ∧
      (tellAll ns .returns).ending x = .returned ∧ (tellAll ns .returns).told x = ns := by
  induction ns with
  | nil => exact ⟨rfl, rfl, rfl, rfl⟩
  | cons n ns ih =>
      obtain ⟨hafter, hregistered, hending, htold⟩ := ih
      exact ⟨hafter, hregistered, hending, congrArg (n :: ·) htold⟩

/-- The observer does nothing with its turn but tell of `ns`. -/
structure Turn.Idle {σ : Type} (n : Notification) (t : Turn σ) (ns : List Notice) : Prop where
  finish : t.finish n = t.start
  registered : t.registered n = []
  returns : t.returns n = true
  notices : t.notices n = ns

theorem Turn.idle_of_tellAll {σ : Type} {n : Notification} {t : Turn σ} {ns : List Notice}
    (h : t.observer n = .tellAll ns .returns) : t.Idle n ns := by
  obtain ⟨hafter, hregistered, hending, htold⟩ := Reaction.tellAll_returns ns t.start
  rw [← h] at hafter hregistered hending htold
  refine ⟨hafter, hregistered, ?_, ?_⟩
  · rw [returns, hending]
  · rw [notices, panic?, hending, htold]
    exact List.append_nil ns

namespace Notification

/-- The state change that a notification tells of. -/
def change? (n : Notification) : Option StateChange :=
  if n.method = Method.jobStateChanged.name then (StateChange.decode n.params).toOption else none

/-- The failure of params that hold nothing of the kind that the method has. -/
def illFormed (n : Notification) (m : Schema.Mismatch) : Failure :=
  .protocol s!"Ill-formed {n.method} notification: {m.message}"

end Notification

namespace Observer

variable {σ : Type} {n : Notification} {react : StateChange → Reaction σ}

theorem ofStateChange_other (h : n.method ≠ Method.jobStateChanged.name) :
    ofStateChange react n = .returns := if_neg h

theorem ofStateChange_change (h : n.method = Method.jobStateChanged.name) {change : StateChange}
    (hd : StateChange.decode n.params = .ok change) : ofStateChange react n = react change := by
  rw [ofStateChange, only, if_pos h, Notification.parse, hd]

theorem ofStateChange_unread (h : n.method = Method.jobStateChanged.name) {m : Schema.Mismatch}
    (hd : StateChange.decode n.params = .error m) :
    ofStateChange react n = .tellAll [.stateChangeIgnored (n.illFormed m)] .returns := by
  rw [ofStateChange, only, if_pos h, Notification.parse, hd]
  rfl

end Observer

theorem Observer.turns_append {σ : Type} (n : Notification) (os os' : List (Observer σ))
    (place : Nat) (x : σ) :
    turns n place x (os ++ os') =
      turns n place x os ++
        turns n (place + os.length) (os.foldl (fun x o => (o n).after x) x) os' := by
  induction os generalizing place x with
  | nil => rfl
  | cons o os ih =>
      have hrest := ih (place + 1) ((o n).after x)
      rw [Nat.add_right_comm] at hrest
      exact congrArg (⟨place, o, x⟩ :: ·) hrest

namespace Scene

variable {σ : Type}

/-- At the notification `n` the turn `t` comes right behind those of the
observers `earlier`. It finds what they have left, leaves to the others what it
makes of it, is counted if it returns and tells its own notices. -/
structure Behind (d : Scene σ) (n : Notification) (earlier : List (Observer σ)) (t : Turn σ) :
    Prop where
  place : t.place = earlier.length
  states : (d.turns n).map Turn.start ++ [(d.announce n).2.state] =
    d.state :: (d.turns n).map (Turn.finish n)
  others : ∃ before after, d.turns n = before ++ t :: after ∧
    before.map Turn.observer = earlier ∧
    (d.announce n).1 = before.countP (Turn.returns n) + (t.returns n).toNat +
      after.countP (Turn.returns n) ∧
    (d.announce n).2.notices = d.notices ++ before.flatMap (Turn.notices n) ++ t.notices n ++
      after.flatMap (Turn.notices n) ∧
    (d.announce n).2.observers = d.observers ++ before.flatMap (Turn.registered n) ++
      t.registered n ++ after.flatMap (Turn.registered n)

/-- An observer has its turn at every notification that comes after it has been
registered, always in the same place. -/
theorem exists_turn (c : Scene σ) (o : Observer σ) (bs : List (Act σ)) (n : Notification) :
    ∃ t : Turn σ, t.observer = o ∧ ((c.observe o).run bs).Behind n c.observers t := by
  obtain ⟨later, hlater⟩ := observers_run (c.observe o) bs
  generalize (c.observe o).run bs = d at hlater
  have hobservers : d.observers = c.observers ++ o :: later := by
    rw [hlater, observe, List.append_assoc]
    rfl
  have hturns := Observer.turns_append n c.observers (o :: later) 0 d.state
  rw [Nat.zero_add, Observer.turns, ← hobservers] at hturns
  obtain ⟨hcount, hnotices⟩ := tellFrom_turns n d.observers 0 d
  rw [hturns] at hcount hnotices
  have hstates := Observer.states_turns n d.observers 0 d.state
  have hregistered := Observer.registered_turns n d.observers 0 d.state
  rw [← state_announce] at hstates
  rw [hturns] at hregistered
  refine ⟨⟨c.observers.length, o, _⟩, rfl, rfl, hstates, _, _, hturns,
    Observer.observers_turns n c.observers 0 d.state, ?_, ?_, ?_⟩
  · rw [announce, hcount, List.countP_append, List.countP_cons, Nat.add_assoc]
    congr 1
    generalize Turn.returns n _ = b
    cases b with
    | true => exact Nat.add_comm _ 1
    | false => exact (Nat.zero_add _).symm
  · rw [announce, hnotices]
    simp only [List.flatMap_append, List.flatMap_cons, List.append_assoc]
  · rw [observers_announce, ← hregistered]
    simp only [List.flatMap_append, List.flatMap_cons, List.append_assoc]

end Scene

/-! ## Scribes -/

/-- The reaction writes `marks` at the end of the log, and whom it registers
leaves the log alone. -/
structure Reaction.Writes {σ α : Type} (log : σ → List α) (r : Reaction σ) (marks : List α) :
    Prop where
  after : ∀ x, log (r.after x) = log x ++ marks
  registered : ∀ x, ∀ o ∈ r.registered x, Observer.Leaves log o

/-- Whoever is told of a `τ` now and then and writes about it in the log. -/
structure Scribe {σ α : Type} (log : σ → List α) (τ : Type) where
  react : τ → Reaction σ
  marks : τ → List α
  writes : ∀ t, (react t).Writes log (marks t)

section

variable {σ α : Type} {log : σ → List α}

theorem Reaction.Leaves.writes {r : Reaction σ} (h : r.Leaves log) : r.Writes log [] :=
  ⟨fun x => (h.after x).trans (List.append_nil _).symm, h.registered⟩

namespace Scribe

/-- An observer that leaves the log alone writes nothing. -/
def silent (o : Observer σ) (h : o.Leaves log) : Scribe log Notification where
  react := o
  marks _ := []
  writes n := (h n).writes

def only (method : String) (s : Scribe log Notification) : Scribe log Notification where
  react := Observer.only method s.react
  marks n := if n.method = method then s.marks n else []
  writes n := by
    unfold Observer.only
    split
    · exact s.writes n
    · exact Reaction.Leaves.writes trivial

def ofStateChange (s : Scribe log StateChange) : Scribe log Notification where
  react := Observer.ofStateChange s.react
  marks n := (n.change?.map s.marks).getD []
  writes n := by
    unfold Notification.change?
    split
    · next h =>
        cases hd : StateChange.decode n.params with
        | ok change =>
            rw [Observer.ofStateChange_change h hd]
            exact s.writes change
        | error m =>
            rw [Observer.ofStateChange_unread h hd]
            exact Reaction.Leaves.writes trivial
    · next h =>
        rw [Observer.ofStateChange_other h]
        exact Reaction.Leaves.writes trivial

theorem leaves_registered (ss : List (Scribe log Notification)) (n : Notification) (x : σ) :
    ∀ o ∈ Observer.registered n (ss.map react) x, Observer.Leaves log o := by
  intro o ho
  obtain ⟨o', ho', y, hy⟩ := Observer.mem_registered ho
  obtain ⟨s, _, rfl⟩ := List.mem_map.mp ho'
  exact (s.writes n).registered y o hy

end Scribe

end

/-! ## Runs with a log -/

namespace Scene

section

variable {σ α : Type} (log : σ → List α)

/-- The registration of a scribe. -/
inductive Entry where
  | every (s : Scribe log Notification)
  | only (method : String) (s : Scribe log Notification)
  | stateChanges (s : Scribe log StateChange)

inductive Event where
  | enter (e : Entry log)
  | announce (n : Notification)

end

variable {σ α : Type} {log : σ → List α}

def Entry.act : Entry log → Act σ
  | .every s => .observe s.react
  | .only method s => .observeOnly method s.react
  | .stateChanges s => .observe (.ofStateChange s.react)

def Event.act : Event log → Act σ
  | .enter e => e.act
  | .announce n => .announce n

/-- What the scribe with this registration has to write about a notification. -/
def Entry.heard : Entry log → Notification → List α
  | .every s, n => s.marks n
  | .only method s, n =>
    if Named method ∧ n.method = method then s.marks n else []
  | .stateChanges s, n => (n.change?.map s.marks).getD []

/-- What is written in the course of events, with these registrations made
before. -/
def delivered (entries : List (Entry log)) : List (Event log) → List α
  | [] => []
  | .enter e :: es => delivered (entries ++ [e]) es
  | .announce n :: es => entries.flatMap (·.heard n) ++ delivered entries es

/-- The observers are scribes, and together they write what those with these
registrations have to. -/
def Entered (c : Scene σ) (entries : List (Entry log)) : Prop :=
  ∃ ss : List (Scribe log Notification), ss.map Scribe.react = c.observers ∧
    ∀ n, ss.flatMap (·.marks n) = entries.flatMap (·.heard n)

variable {c d : Scene σ} {entries : List (Entry log)}

/-- More observers that leave the log alone make no difference. -/
theorem Entered.silent (h : c.Entered entries) {os : List (Observer σ)}
    (hos : ∀ o ∈ os, Observer.Leaves log o) (hd : d.observers = c.observers ++ os) :
    d.Entered entries := by
  obtain ⟨ss, hss, hmarks⟩ := h
  refine ⟨ss ++ os.attach.map fun o => .silent o.1 (hos o.1 o.2), ?_, fun n => ?_⟩
  · rw [List.map_append, List.map_map, hss, hd]
    congr 1
    exact List.attach_map_subtype_val os
  · rw [List.flatMap_append, hmarks, List.flatMap_map]
    simp [Scribe.silent]

/-- A scribe that is registered writes from now on. -/
theorem Entered.observe (h : c.Entered entries) (e : Entry log) (s : Scribe log Notification)
    (hs : ∀ n, s.marks n = e.heard n) : (c.observe s.react).Entered (entries ++ [e]) := by
  obtain ⟨ss, hss, hmarks⟩ := h
  refine ⟨ss ++ [s], ?_, fun n => ?_⟩
  · rw [List.map_append, hss]
    rfl
  · rw [List.flatMap_append, List.flatMap_append, hmarks, List.flatMap_singleton,
      List.flatMap_singleton, hs]

theorem Entered.enter (h : c.Entered entries) (e : Entry log) :
    (c.step e.act).Entered (entries ++ [e]) := by
  cases e with
  | every s => exact h.observe (.every s) s fun _ => rfl
  | stateChanges s => exact h.observe (.stateChanges s) s.ofStateChange fun _ => rfl
  | only method s =>
      by_cases hname : Named method
      · rw [Entry.act, step_named hname]
        refine h.observe (.only method s) (s.only method) fun n => ?_
        simp [Entry.heard, Scribe.only, hname]
      · rw [Entry.act, step_unnamed hname]
        obtain ⟨ss, hss, hmarks⟩ := h
        refine ⟨ss, hss, fun n => ?_⟩
        rw [List.flatMap_append, ← hmarks, List.flatMap_singleton, Entry.heard,
          if_neg fun hn => hname hn.1, List.append_nil]

theorem Entered.announce (h : c.Entered entries) (n : Notification) :
    (c.announce n).2.Entered entries ∧
      log (c.announce n).2.state = log c.state ++ entries.flatMap (·.heard n) := by
  obtain ⟨ss, hss, hmarks⟩ := h
  refine ⟨Entered.silent ⟨ss, hss, hmarks⟩ ?_ (observers_announce c n), ?_⟩
  · rw [← hss]
    exact Scribe.leaves_registered ss n c.state
  · have hlog := Observer.log_foldl n (fun s (_ : s ∈ ss) => (s.writes n).after) c.state
    rw [state_announce, ← hss, hlog, hmarks]

theorem state_enter (c : Scene σ) (e : Entry log) : (c.step e.act).state = c.state := by
  cases e with
  | every s => rfl
  | stateChanges s => rfl
  | only method s =>
      by_cases hname : Named method
      · rw [Entry.act, step_named hname]
        rfl
      · rw [Entry.act, step_unnamed hname]

/-- The log of a run. The induction is on the events; what carries it is that
the observers go on being scribes. -/
theorem Entered.run (h : c.Entered entries) (es : List (Event log)) :
    log (c.run (es.map Event.act)).state = log c.state ++ delivered entries es := by
  induction es generalizing c entries with
  | nil => exact (List.append_nil _).symm
  | cons e es ih =>
      cases e with
      | enter e =>
          have hrest := ih (h.enter e)
          rw [state_enter] at hrest
          exact hrest
      | announce n =>
          obtain ⟨hnext, hlog⟩ := h.announce n
          have hrest := ih hnext
          rw [hlog, List.append_assoc] at hrest
          exact hrest

theorem Leaves.entered (h : c.Leaves log) : c.Entered ([] : List (Entry log)) :=
  Entered.silent (c := { state := c.state }) ⟨[], rfl, fun _ => rfl⟩ h rfl

/-- At any point of a run of acts: an observer may be registered for one method
if and only if the method has a name without blanks, and if not, nothing
happens. One that is registered has its turn at every notification that is
announced from then on, in its place among all others. If the notification is
of this method, the turn is the observer's own; if not, the turn comes to
nothing and counts as one that returns, whatever the observer would do.

The same holds for an observer of state changes. Its turn is its own, with the
value of the params, if the notification is one of a state change and its params
hold one; if they do not, the turn tells of this once and comes to nothing else.

And if the observers so far leave a log alone, then whichever scribes are
registered from now on and whichever notifications come in between, the log
grows by what these scribes write about the notifications that are for them, in
the order of the notifications and for each in the order of the registrations,
and by nothing else. -/
theorem deliveries_of_acts (c₀ : Scene σ) (as : List (Act σ)) :
    let c := c₀.run as
    (∀ (method : String) (o : Observer σ),
      ((∃ c', c.observeOnly method o = .ok c') ↔ Named method) ∧
      (¬ Named method → (∃ text, c.observeOnly method o = .error (.invalidCallback text)) ∧
        c.step (.observeOnly method o) = c)) ∧
    (∀ (method : String) (o : Observer σ) (c' : Scene σ), c.observeOnly method o = .ok c' →
      ∀ (bs : List (Act σ)) (n : Notification), ∃ t : Turn σ,
        (c'.run bs).Behind n c.observers t ∧
        (n.method = method → t.observer n = o n) ∧
        (n.method ≠ method → t.Idle n [])) ∧
    (∀ (react : StateChange → Reaction σ) (bs : List (Act σ)) (n : Notification), ∃ t : Turn σ,
      ((c.observe (.ofStateChange react)).run bs).Behind n c.observers t ∧
      (n.method ≠ Method.jobStateChanged.name → t.Idle n []) ∧
      (n.method = Method.jobStateChanged.name →
        (∀ change, StateChange.decode n.params = .ok change → t.observer n = react change) ∧
        (∀ m, StateChange.decode n.params = .error m →
          t.Idle n [.stateChangeIgnored
            (.protocol s!"Ill-formed {n.method} notification: {m.message}")]))) ∧
    (∀ (α : Type) (log : σ → List α), c.Leaves log → ∀ es : List (Event log),
      log (c.run (es.map Event.act)).state = log c.state ++ delivered [] es) := by
  intro c
  refine ⟨fun method o => ⟨⟨?_, ?_⟩, fun hname => ?_⟩, ?_, ?_, ?_⟩
  · intro haccepted
    obtain ⟨c', hc'⟩ := haccepted
    exact (observeOnly_eq_ok_iff.mp hc').1
  · intro hname
    exact ⟨_, observeOnly_named hname c o⟩
  · exact ⟨observeOnly_unnamed hname c o, step_unnamed hname c o⟩
  · intro method o c' hc' bs n
    obtain ⟨-, rfl⟩ := observeOnly_eq_ok_iff.mp hc'
    obtain ⟨t, ht, hbehind⟩ := exists_turn c (o.only method) bs n
    refine ⟨t, hbehind, fun hsame => ?_, fun hother => ?_⟩
    · rw [ht]
      exact if_pos hsame
    · refine Turn.idle_of_tellAll ?_
      rw [ht]
      exact if_neg hother
  · intro react bs n
    obtain ⟨t, ht, hbehind⟩ := exists_turn c (.ofStateChange react) bs n
    refine ⟨t, hbehind, fun hother => ?_, fun hsame => ⟨fun change hd => ?_, fun m hd => ?_⟩⟩
    · refine Turn.idle_of_tellAll ?_
      rw [ht]
      exact Observer.ofStateChange_other hother
    · rw [ht, Observer.ofStateChange_change hsame hd]
    · refine Turn.idle_of_tellAll ?_
      rw [ht]
      exact Observer.ofStateChange_unread hsame hd
  · intro α log hleaves es
    exact hleaves.entered.run es

/-- An observer of everything, one with a name that no method has, one of a
method that panics and one of state changes, which writes down the new state. -/
theorem deliveries_of_four_observers :
    let every : Observer (List String) := fun n => .change (· ++ [n.method]) .returns
    let tick : Observer (List String) := fun _ => .change (· ++ ["!"]) (.panics none)
    let changed (change : StateChange) : Reaction (List String) :=
      .change (· ++ [change.new.name]) .returns
    let finished : Notification := ⟨"jobStateChanged",
      .object [("moleQueueId", .int 42), ("newState", .str "Finished")]⟩
    let c := run { state := [] } [.observe every]
    let d := c.run [.observeOnly "a b" tick, .observeOnly "tick" tick,
      .observe (.ofStateChange changed)]
    (d.run [.announce finished, .announce ⟨"tick", .null⟩,
        .announce ⟨"jobStateChanged", .null⟩]).state =
      ["jobStateChanged", "Finished", "tick", "!", "jobStateChanged"] ∧
    (∃ t : Turn (List String), d.Behind finished c.observers t ∧ t.Idle finished []) ∧
    (d.announce ⟨"tick", .null⟩).1 = 2 := by
  intro every tick changed finished c d
  let log : List String → List String := id
  let heard : Scribe log Notification :=
    ⟨every, fun n => [n.method], fun _ => ⟨fun _ => rfl, fun _ _ h => by cases h⟩⟩
  let ticked : Scribe log Notification :=
    ⟨tick, fun _ => ["!"], fun _ => ⟨fun _ => rfl, fun _ _ h => by cases h⟩⟩
  let wrote : Scribe log StateChange :=
    ⟨changed, fun change => [change.new.name], fun _ => ⟨fun _ => rfl, fun _ _ h => by cases h⟩⟩
  obtain ⟨-, -, -, hlog⟩ := deliveries_of_acts { state := ([] : List String) } []
  obtain ⟨-, hfilter, -, -⟩ := deliveries_of_acts { state := ([] : List String) } [.observe every]
  refine ⟨?_, ?_, ?_⟩
  · refine (hlog String log (fun _ h => by cases h) [.enter (.every heard),
      .enter (.only "a b" ticked), .enter (.only "tick" ticked), .enter (.stateChanges wrote),
      .announce finished, .announce ⟨"tick", .null⟩, .announce ⟨"jobStateChanged", .null⟩]).trans ?_
    with_unfolding_all rfl
  · obtain ⟨t, ht, -, hidle⟩ := hfilter "tick" tick _
      (by with_unfolding_all rfl) [.observe (.ofStateChange changed)] finished
    exact ⟨t, ht, hidle (by decide)⟩
  · with_unfolding_all rfl

end Scene

end RemoteJobs
