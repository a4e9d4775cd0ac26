import RemoteJobs.Channel

/-!
# What passes through a channel in memory

Both ends act on a channel, in any order: the client connects sinks, sends and
shuts it; the server looks for frames, hands on frames of its own, hangs up and
decides whether the client's frames get lost. A `Deed` is an act with its answer
and with what sinks get of it. Handing a frame on leaves the channel as it is,
so whatever a sink does about the frame comes after it in the run. A server that
waits for a frame acts as often as it looks whether there is one.

The queue is settled by one law of an act: what waits before it and what is sent
in it is what is taken in it and what waits after it, in this order. Added up
over a run, the frames that were sent are those that were taken and those that
still wait.
-/

namespace RemoteJobs.Channel

variable {κ : Type}

/-! ## Acts -/

inductive Act (κ : Type) where
  | connect (k : κ)
  | send (frame : Bytes)
  /-- The client shuts the channel. -/
  | close
  /-- The server, waiting for a frame, looks for one, its time being over or not. -/
  | look (expired : Bool)
  /-- The server hands on a frame. -/
  | inject (frame : Bytes)
  /-- The server shuts the channel. -/
  | hangUp
  /-- From now on the client's frames get lost, or they do not. -/
  | failing (on : Bool)

namespace Act

def shuts : Act κ → Bool
  | close => true
  | hangUp => true
  | _ => false

def isLook : Act κ → Bool
  | look _ => true
  | _ => false

/-- Whether the client's frames get lost from now on, if the act says so. -/
def failing? : Act κ → Option Bool
  | failing on => some on
  | _ => none

end Act

/-- What the one who acts is told. -/
inductive Answer where
  | accepted
  | refused (why : Failure)
  | found (what : Finding)
  /-- Whether somebody has heard the frame. -/
  | heard (somebody : Bool)
  | done

/-- What a sink gets. -/
inductive Message where
  | frame (bytes : Bytes)
  /-- The channel is shut. -/
  | closed

structure Deed (κ : Type) where
  act : Act κ
  answer : Answer
  /-- What sinks get. -/
  got : List (κ × Message)

namespace Deed

/-- The frame that is sent. -/
def sent? : Deed κ → Option Bytes
  | ⟨.send frame, .accepted, _⟩ => some frame
  | _ => none

/-- What the server finds. -/
def finding? : Deed κ → Option Finding
  | ⟨_, .found what, _⟩ => some what
  | _ => none

/-- The frame that the server takes. -/
def taken? (d : Deed κ) : Option Bytes :=
  match d.finding? with
  | some (.frame frame) => some frame
  | _ => none

/-- The sink that is connected. -/
def connected? : Deed κ → Option κ
  | ⟨.connect k, .accepted, _⟩ => some k
  | _ => none

/-- The frame of the server that is heard. -/
def heard? : Deed κ → Option Bytes
  | ⟨.inject frame, .heard true, _⟩ => some frame
  | _ => none

end Deed

def act (c : Channel κ) (a : Act κ) : Deed κ × Channel κ :=
  match a with
  | .connect k =>
    match c.connect k with
    | .ok c' => (⟨a, .accepted, []⟩, c')
    | .error why => (⟨a, .refused why, []⟩, c)
  | .send frame =>
    match c.send frame with
    | .ok c' => (⟨a, .accepted, []⟩, c')
    | .error why => (⟨a, .refused why, []⟩, c)
  | .look expired => (⟨a, .found (c.look expired).1, []⟩, (c.look expired).2)
  | .inject frame => (⟨a, .heard c.sink.isSome, c.sink.toList.map (·, .frame frame)⟩, c)
  | .close | .hangUp => (⟨a, .done, c.shut.1.toList.map (·, .closed)⟩, c.shut.2)
  | .failing on => (⟨a, .done, []⟩, { c with failing := on })

def run (c : Channel κ) (as : List (Act κ)) : Channel κ := as.foldl (fun c a => (c.act a).2) c

def history (c : Channel κ) : List (Act κ) → List (Deed κ)
  | [] => []
  | a :: as => (c.act a).1 :: history (c.act a).2 as

/-! ## One act -/

variable {c : Channel κ}

theorem act_connect (h : c.closed = false) (hs : c.sink = none) (k : κ) :
    c.act (.connect k) = (⟨.connect k, .accepted, []⟩, { c with sink := some k }) := by
  rw [act, connect, if_neg (ne_true_of_eq_false h), hs]
  rfl

theorem act_connect_refused (h : c.closed = true ∨ c.sink.isSome = true) (k : κ) :
    ∃ why, c.act (.connect k) = (⟨.connect k, .refused why, []⟩, c) := by
  rw [act, connect]
  by_cases hc : c.closed = true
  · rw [if_pos hc]
    exact ⟨_, rfl⟩
  · rw [if_neg hc, if_pos (h.resolve_left hc)]
    exact ⟨_, rfl⟩

theorem act_send (h : c.closed = false) (hf : c.failing = false) (frame : Bytes) :
    c.act (.send frame) =
      (⟨.send frame, .accepted, []⟩, { c with queue := c.queue ++ [frame] }) := by
  rw [act, send, if_neg (ne_true_of_eq_false h), if_neg (ne_true_of_eq_false hf)]

theorem act_send_refused (h : c.closed = true ∨ c.failing = true) (frame : Bytes) :
    ∃ why, c.act (.send frame) = (⟨.send frame, .refused why, []⟩, c) := by
  rw [act, send]
  by_cases hc : c.closed = true
  · rw [if_pos hc]
    exact ⟨_, rfl⟩
  · rw [if_neg hc, if_pos (h.resolve_left hc)]
    exact ⟨_, rfl⟩

theorem act_look_of_cons {frame : Bytes} {r : List Bytes} (h : c.queue = frame :: r)
    (expired : Bool) :
    c.act (.look expired) =
      (⟨.look expired, .found (.frame frame), []⟩, { c with queue := r }) := by
  rw [act, look, take, h]

theorem act_look_of_nil (h : c.queue = []) (expired : Bool) :
    c.act (.look expired) =
      (⟨.look expired, .found (if c.closed || expired then .nothing else .pending), []⟩, c) := by
  rw [act, look, take, h]

theorem act_of_shuts {a : Act κ} (ha : a.shuts = true) :
    c.act a = (⟨a, .done, c.shut.1.toList.map (·, .closed)⟩, c.shut.2) := by
  cases a with
  | close => rfl
  | hangUp => rfl
  | _ => cases ha

theorem shut_of_closed (h : c.closed = true) : c.shut = (none, c) := if_pos h

theorem shut_of_open (h : c.closed = false) :
    c.shut = (c.sink, { c with closed := true, sink := none }) := if_neg (ne_true_of_eq_false h)

theorem closed_shut (c : Channel κ) : c.shut.2.closed = true := by
  rw [shut]
  split
  · next h => exact h
  · rfl

theorem queue_shut (c : Channel κ) : c.shut.2.queue = c.queue ∧ c.shut.2.failing = c.failing := by
  rw [shut]
  split
  · exact ⟨rfl, rfl⟩
  · exact ⟨rfl, rfl⟩

/-- What an act does to the queue and to the two marks of a channel. -/
theorem act_queue (c : Channel κ) (a : Act κ) :
    c.queue ++ (c.act a).1.sent?.toList = (c.act a).1.taken?.toList ++ (c.act a).2.queue ∧
      (c.act a).2.closed = (c.closed || a.shuts) ∧
      (c.act a).2.failing = a.failing?.getD c.failing := by
  cases a with
  | connect k =>
      by_cases h : c.closed = true ∨ c.sink.isSome = true
      · obtain ⟨why, h⟩ := act_connect_refused h k
        rw [h]
        exact ⟨List.append_nil _, (Bool.or_false _).symm, rfl⟩
      · rw [not_or, Bool.not_eq_true, Option.not_isSome_iff_eq_none] at h
        rw [act_connect h.1 h.2]
        exact ⟨List.append_nil _, (Bool.or_false _).symm, rfl⟩
  | send frame =>
      by_cases h : c.closed = true ∨ c.failing = true
      · obtain ⟨why, h⟩ := act_send_refused h frame
        rw [h]
        exact ⟨List.append_nil _, (Bool.or_false _).symm, rfl⟩
      · rw [not_or, Bool.not_eq_true, Bool.not_eq_true] at h
        rw [act_send h.1 h.2]
        exact ⟨rfl, (Bool.or_false _).symm, rfl⟩
  | look expired =>
      cases hq : c.queue with
      | nil =>
          rw [act_look_of_nil hq]
          refine ⟨?_, (Bool.or_false _).symm, rfl⟩
          rw [hq]
          cases c.closed || expired with
          | true => rfl
          | false => rfl
      | cons frame r =>
          rw [act_look_of_cons hq]
          exact ⟨List.append_nil _, (Bool.or_false _).symm, rfl⟩
  | inject frame => exact ⟨List.append_nil _, (Bool.or_false _).symm, rfl⟩
  | failing on => exact ⟨List.append_nil _, (Bool.or_false _).symm, rfl⟩
  | close =>
      obtain ⟨hq, hf⟩ := queue_shut c
      exact ⟨(List.append_nil _).trans hq.symm, (closed_shut c).trans (Bool.or_true _).symm, hf⟩
  | hangUp =>
      obtain ⟨hq, hf⟩ := queue_shut c
      exact ⟨(List.append_nil _).trans hq.symm, (closed_shut c).trans (Bool.or_true _).symm, hf⟩

/-! ## Runs -/

/-- What was there and what was sent is what was taken and what is there. -/
theorem queue_run (c : Channel κ) (as : List (Act κ)) :
    c.queue ++ (c.history as).filterMap Deed.sent? =
      (c.history as).filterMap Deed.taken? ++ (c.run as).queue := by
  induction as generalizing c with
  | nil => exact List.append_nil _
  | cons a as ih =>
      have hone := (act_queue c a).1
      have hcons : ∀ f : Deed κ → Option Bytes, (c.history (a :: as)).filterMap f =
          (f (c.act a).1).toList ++ ((c.act a).2.history as).filterMap f := by
        intro f
        rw [history, List.filterMap_cons]
        cases f (c.act a).1 with
        | none => rfl
        | some b => rfl
      rw [hcons, hcons, ← List.append_assoc, hone, List.append_assoc, ih (c.act a).2,
        ← List.append_assoc]
      rfl

/-- A channel is closed once somebody has shut it, and for good. -/
theorem closed_run (c : Channel κ) (as : List (Act κ)) :
    (c.run as).closed = (c.closed || as.any Act.shuts) := by
  induction as generalizing c with
  | nil => exact (Bool.or_false _).symm
  | cons a as ih =>
      have hrest := ih (c.act a).2
      rw [(act_queue c a).2.1, Bool.or_assoc] at hrest
      exact hrest

theorem closed_run_iff (as : List (Act κ)) :
    (run {} as).closed = true ↔ ∃ a ∈ as, a.shuts = true := by
  rw [closed_run, Bool.false_or, List.any_eq_true]

theorem failing_run (c : Channel κ) (as : List (Act κ)) :
    (c.run as).failing = ((as.filterMap Act.failing?).getLast?).getD c.failing := by
  induction as generalizing c with
  | nil => rfl
  | cons a as ih =>
      have hrest := ih (c.act a).2
      rw [(act_queue c a).2.2] at hrest
      rw [List.filterMap_cons]
      cases ha : a.failing? with
      | none =>
          rw [ha] at hrest
          exact hrest
      | some on =>
          rw [ha] at hrest
          rw [List.getLast?_cons]
          exact hrest

/-! ## After the end -/

theorem sent?_of_closed (h : c.closed = true) (a : Act κ) : (c.act a).1.sent? = none := by
  cases a with
  | send frame =>
      obtain ⟨why, hs⟩ := act_send_refused (.inl h) frame
      rw [hs]
      rfl
  | connect k =>
      obtain ⟨why, hs⟩ := act_connect_refused (.inl h) k
      rw [hs]
      rfl
  | _ => rfl

theorem finding?_of_not_look (c : Channel κ) {a : Act κ} (ha : a.isLook = false) :
    (c.act a).1.finding? = none := by
  cases a with
  | connect k =>
      rw [act]
      split
      · rfl
      · rfl
  | send frame =>
      rw [act]
      split
      · rfl
      · rfl
  | look expired => cases ha
  | _ => rfl

/-- Whoever else acts, a closed channel keeps its queue for the server. -/
theorem queue_of_closed (h : c.closed = true) {a : Act κ} (ha : a.isLook = false) :
    (c.act a).2.queue = c.queue := by
  have hlaw := (act_queue c a).1
  rw [sent?_of_closed h, Deed.taken?, finding?_of_not_look c ha] at hlaw
  exact hlaw.symm.trans (List.append_nil _)

theorem sent_run_of_closed (h : c.closed = true) (as : List (Act κ)) :
    (c.history as).filterMap Deed.sent? = [] := by
  induction as generalizing c with
  | nil => rfl
  | cons a as ih =>
      have hclosed : (c.act a).2.closed = true := by rw [(act_queue c a).2.1, h, Bool.true_or]
      rw [history, List.filterMap_cons_none (sent?_of_closed h a)]
      exact ih hclosed

/-- The looks at a closed channel find the frames that are left, one by one, and
then nothing. -/
theorem found_run_of_closed (h : c.closed = true) (as : List (Act κ)) :
    (c.history as).filterMap Deed.finding? =
      (c.queue.map Finding.frame).take (as.countP Act.isLook) ++
        List.replicate (as.countP Act.isLook - c.queue.length) Finding.nothing := by
  induction as generalizing c with
  | nil => simp [history]
  | cons a as ih =>
      have hclosed : (c.act a).2.closed = true := by rw [(act_queue c a).2.1, h, Bool.true_or]
      have hrest := ih hclosed
      -- Only a look shortens the queue, and nothing makes it longer any more.
      cases ha : a.isLook with
      | false =>
          rw [queue_of_closed h ha] at hrest
          rw [history, List.filterMap_cons_none (finding?_of_not_look c ha), hrest,
            List.countP_cons_of_neg (ne_true_of_eq_false ha)]
      | true =>
          obtain ⟨expired, rfl⟩ : ∃ expired, a = .look expired := by
            cases a with
            | look expired => exact ⟨expired, rfl⟩
            | _ => cases ha
          rw [List.countP_cons_of_pos ha, history]
          cases hq : c.queue with
          | nil =>
              rw [act_look_of_nil hq] at hrest
              rw [act_look_of_nil hq, List.filterMap_cons, hrest, h, hq]
              simp [Deed.finding?, List.replicate_succ]
          | cons frame r =>
              rw [act_look_of_cons hq] at hrest
              rw [act_look_of_cons hq, List.filterMap_cons, hrest]
              simp [Deed.finding?]

/-! ## The frames of a run -/

/-- In a run of a new channel, whatever its acts and their order, the frames that
have been sent are those that the server has taken and those that wait for it,
in their order. A frame is sent if nobody has shut the channel and it does not
lose frames, and else the channel stays as it is. A look takes the first frame
that waits. Once the channel is shut, nothing is sent any more; the looks find
the frames that are left, in their order, and after them nothing, for ever. -/
theorem frames_of_acts (as : List (Act κ)) :
    let c : Channel κ := run {} as
    (history {} as).filterMap Deed.sent? = (history {} as).filterMap Deed.taken? ++ c.queue ∧
    (c.closed = true ↔ ∃ a ∈ as, a.shuts = true) ∧
    (c.failing = (as.filterMap Act.failing?).getLast?.getD false) ∧
    (∀ frame,
      (c.closed = true ∨ c.failing = true →
        ∃ why, c.act (.send frame) = (⟨.send frame, .refused why, []⟩, c)) ∧
      (c.closed = false → c.failing = false →
        c.act (.send frame) =
          (⟨.send frame, .accepted, []⟩, { c with queue := c.queue ++ [frame] }))) ∧
    (∀ expired frame r, c.queue = frame :: r →
      c.act (.look expired) = (⟨.look expired, .found (.frame frame), []⟩, { c with queue := r })) ∧
    (c.closed = true → ∀ bs : List (Act κ),
      let looks := bs.countP Act.isLook
      (c.history bs).filterMap Deed.sent? = [] ∧
      (c.history bs).filterMap Deed.finding? =
        (c.queue.map Finding.frame).take looks ++
          List.replicate (looks - c.queue.length) Finding.nothing) := by
  intro c
  refine ⟨queue_run {} as, closed_run_iff as, failing_run {} as, fun frame => ⟨?_, ?_⟩, ?_, ?_⟩
  · exact fun h => act_send_refused h frame
  · exact fun h hf => act_send h hf frame
  · exact fun expired frame r h => act_look_of_cons h expired
  · exact fun h bs => ⟨sent_run_of_closed h bs, found_run_of_closed h bs⟩

/-- One frame of three gets lost, and the server takes the others, the second one
after the channel is shut. -/
example :
    let as : List (Act Unit) :=
      [.connect (), .send [1], .failing true, .send [2], .failing false, .send [3], .look false,
        .close, .send [4], .look false, .look false]
    (history {} as).filterMap Deed.finding? = [.frame [1], .frame [3], .nothing] := by
  rfl

end RemoteJobs.Channel
