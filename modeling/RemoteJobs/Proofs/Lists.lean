import RemoteJobs.Client.Order
import RemoteJobs.Proofs.Arrivals
import RemoteJobs.Proofs.Inbound
import RemoteJobs.Proofs.Job.RoundTrip
import RemoteJobs.Proofs.Observer.Filters

/-!
# Lists in the place of objects

An error, the answers to a submission and to a cancellation, and the params of a
change of state are written as objects, and each is also read from a list that
holds the fields in their order. Which lists these are is said here without the
reader: `Listed` goes through the forms of a list, from the one that leaves out
all that may be left out to the one with all fields. Every list of another form
is refused.

The description of a job has no such form, for it shares its object with the
members of a request.
-/

namespace RemoteJobs

open Schema

/-! ## Records that are written as lists -/

/-- The list has the fields of the error: its code, then its message, then its
data. -/
inductive RemoteError.Listed : List Json → RemoteError → Prop where
  | code (code : Int64) : Listed [.int code.toInt] ⟨code, "", none⟩
  | message (code : Int64) (t : String) : Listed [.int code.toInt, .str t] ⟨code, t, none⟩
  | null (code : Int64) (t : String) : Listed [.int code.toInt, .str t, .null] ⟨code, t, none⟩
  | data (code : Int64) (t : String) {v : Json} : v ≠ .null →
      Listed [.int code.toInt, .str t, v] ⟨code, t, some v⟩

theorem RemoteError.decode_arr_iff {items : List Json} {e : RemoteError} :
    RemoteError.decode (.arr items) = .ok e ↔ Listed items e := by
  obtain ⟨code, message, data⟩ := e
  refine ofItems_eq_ok_iff.trans ?_
  simp only [reading_eq_ok_iff, required_eq_ok_iff, optional_eq_ok_iff, Source.find?,
    Decoder.exact_signed64 _ _, Decoder.exact_string _ _, Decoder.nullable_eq_ok_iff, Decoder.any,
    Except.ok.injEq, exists_eq_right]
  constructor
  · intro h
    match items with
    | [] => simp at h
    | [v] =>
        obtain ⟨rfl, rfl, rfl⟩ : v = .int code.toInt ∧ message = "" ∧ data = none := by
          simpa using h
        exact .code code
    | [v, w] =>
        obtain ⟨rfl, rfl, rfl⟩ : v = .int code.toInt ∧ w = .str message ∧ data = none := by
          simpa using h
        exact .message code message
    | [v, w, x] =>
        obtain ⟨rfl, rfl, hdata⟩ : v = .int code.toInt ∧ w = .str message ∧
            (x = .null ∧ data = none ∨ x ≠ .null ∧ data = some x) := by
          simpa using h
        rcases hdata with ⟨rfl, rfl⟩ | ⟨hx, rfl⟩
        · exact .null code message
        · exact .data code message hx
    | _ :: _ :: _ :: _ :: _ =>
        have hsize := h.2
        simp only [List.length_cons] at hsize
        omega
  · intro h
    cases h with
    | code => simp
    | message => simp
    | null => simp
    | data _ _ hv => simp [hv]

/-- The list has the fields of the answer: the id of the job, then the directory. -/
inductive Submission.Listed : List Json → Submission → Prop where
  | job (i : JobId) : Listed [i.toJson] ⟨i, none⟩
  | null (i : JobId) : Listed [i.toJson, .null] ⟨i, none⟩
  | directory (i : JobId) (t : String) : Listed [i.toJson, .str t] ⟨i, some t⟩

theorem Submission.decode_arr_iff {items : List Json} {s : Submission} :
    Submission.decode (.arr items) = .ok s ↔ Listed items s := by
  refine ofItems_eq_ok_iff.trans ?_
  rw [Reading.eq_ok_iff_exists]
  simp only [Reading.exists_seq, Reading.exists_map, required_eq_ok_iff, optional_eq_ok_iff,
    Source.find?, JobId.exact_decode _ _, Decoder.exact_string _ _, Decoder.nullable_eq_ok_iff,
    exists_eq_right]
  constructor
  · rintro ⟨⟨directory, hdirectory, job, hjob, rfl⟩, hsize⟩
    match items with
    | [] => cases hjob
    | [v] =>
        obtain rfl : v = job.toJson := by simpa using hjob
        obtain rfl : directory = none := by simpa using hdirectory
        exact .job job
    | [v, w] =>
        obtain rfl : v = job.toJson := by simpa using hjob
        have hforms : w = .null ∧ directory = none ∨
            w ≠ .null ∧ ∃ t, w = .str t ∧ directory = some t := by
          simpa using hdirectory
        rcases hforms with ⟨rfl, rfl⟩ | ⟨-, t, rfl, rfl⟩
        · exact .null job
        · exact .directory job t
    | _ :: _ :: _ :: _ =>
        simp only [List.length_cons] at hsize
        omega
  · intro h
    cases h with
    | job => simp
    | null => simp
    | directory => simp

/-- The id of a job in a list of its own. -/
theorem JobId.ofParams_arr_iff {items : List Json} {i : JobId} :
    ofParams (.arr items) = .ok i ↔ items = [i.toJson] := by
  refine ofItems_eq_ok_iff.trans ?_
  simp only [required_eq_ok_iff, Source.find?, exact_decode _ _, exists_eq_right]
  match items with
  | [] => simp
  | [v] => simp
  | _ :: _ :: _ => simp

/-- The list of an id and nothing else stands for a cancellation. -/
theorem Cancellation.decode_arr_iff {items : List Json} {i : JobId} :
    (Cancellation.decode (.arr items)).map Cancellation.job = .ok i ↔ items = [i.toJson] := by
  obtain ⟨m, hbare⟩ : ∃ m, JobId.decode (.arr items) = .error m := ⟨_, rfl⟩
  rw [← JobId.ofParams_arr_iff, decode, hbare]
  cases JobId.ofParams (.arr items) with
  | ok j => simp [Except.map, job]
  | error m => simp [Except.map]

/-- The list has the fields of the change: the id of the job, its old state and
its new one. -/
inductive StateChange.Listed : List Json → StateChange → Prop where
  | states (i : JobId) {v w : Json} {old new : JobState} : JobState.Denotes v old →
      JobState.Denotes w new → Listed [i.toJson, v, w] ⟨i, old, new⟩

theorem StateChange.decode_arr_iff {items : List Json} {c : StateChange} :
    StateChange.decode (.arr items) = .ok c ↔ Listed items c := by
  refine ofItems_eq_ok_iff.trans ?_
  rw [Reading.eq_ok_iff_exists]
  simp only [Reading.exists_seq, Reading.exists_map, required_eq_ok_iff, optional_eq_ok_iff,
    Source.find?, JobId.exact_decode _ _, JobState.decode_eq_ok_iff, exists_eq_right]
  constructor
  · rintro ⟨⟨new, ⟨w, hw, hnew⟩, old, hold, job, hjob, rfl⟩, hsize⟩
    match items with
    | [] => cases hjob
    | [_] => cases hw
    | [_, _] => cases hw
    | [u, v, w] =>
        obtain rfl : u = job.toJson := by simpa using hjob
        have hdenotes : JobState.Denotes v old := by simpa using hold
        cases hw
        exact .states job hdenotes hnew
    | _ :: _ :: _ :: _ :: _ =>
        simp only [List.length_cons] at hsize
        omega
  · intro h
    cases h with
    | states _ hold hnew =>
        exact ⟨⟨_, ⟨_, rfl, hnew⟩, _, .inl ⟨_, rfl, hold⟩, _, rfl, rfl⟩, Nat.le_refl 3⟩

/-! ## What becomes of the frames -/

namespace Inbound

/-- The frame has the id of a call, no result, and `w` for an error. -/
def Failing (frame : Bytes) (id : PacketId) (w : Json) : Prop :=
  ∃ m : Keyed Json, Json.parse frame = .ok (.obj m) ∧ Versioned m ∧
    ("id", .int id.number) ∈ m ∧ "result" ∉ m.names ∧ ("error", w) ∈ m

theorem decode_failing {frame : Bytes} {id : PacketId} {w : Json} (h : Failing frame id w) :
    decode frame = match RemoteError.decode w with
      | .ok e => .ok (.reply ⟨id, .error e⟩)
      | .error m => .error (.invalidError id m) := by
  obtain ⟨m, hparse, hversion, hid, hresult, herror⟩ := h
  have hordered : m.Ordered := by
    cases Json.ordered_of_parse hparse with
    | obj hm _ => exact hm
  rw [← Keyed.get?_eq_none_iff] at hresult
  rw [← Keyed.get?_eq_some_iff hordered] at herror
  rw [decode, hparse]
  show ofMembers m = _
  rw [ofMembers_of_id hordered hversion hid, ofReply, hresult, herror]
  dsimp only
  cases RemoteError.decode w with
  | ok e => rfl
  | error m => rfl

/-- An error is decoded from a list of its fields, and with any other list the
frame is malformed. -/
theorem decode_failing_list {frame : Bytes} {id : PacketId} {items : List Json}
    (h : Failing frame id (.arr items)) :
    (∀ e, decode frame = .ok (.reply ⟨id, .error e⟩) ↔ RemoteError.Listed items e) ∧
      ((∀ e, ¬ RemoteError.Listed items e) → ∃ m, decode frame = .error (.invalidError id m)) := by
  rw [decode_failing h]
  simp only [← RemoteError.decode_arr_iff]
  cases RemoteError.decode (.arr items) with
  | ok e =>
      refine ⟨fun e' => ?_, fun hnone => absurd rfl (hnone e)⟩
      simp
  | error m =>
      refine ⟨fun e' => ?_, fun _ => ⟨m, rfl⟩⟩
      simp

end Inbound

namespace Order

variable {α : Type}

/-- The order comes to the meaning that is `Meant`, and to an error of the
protocol if there is none. -/
structure Reads (result : Except Failure (Outcome α)) (Meant : α → Prop) : Prop where
  completed : ∀ a, result = .ok (.completed a) ↔ Meant a
  unread : (∀ a, ¬ Meant a) → ∃ text, result = .error (.protocol text)

theorem reads_interpret {o : Order α} {v : Json} {Meant : α → Prop}
    (h : ∀ a, (o.decode v).1 = .ok a ↔ Meant a) :
    Reads (o.interpret (.ok (.completed v))).1 Meant := by
  show Reads ((o.read v).map .completed) Meant
  rw [read]
  cases hd : (o.decode v).1 with
  | ok a =>
      rw [hd] at h
      refine ⟨fun b => ?_, fun hnone => absurd ((h a).mp rfl) (hnone a)⟩
      rw [← h]
      show Except.ok (Outcome.completed a) = .ok (.completed b) ↔ _
      simp
  | error m =>
      rw [hd] at h
      refine ⟨fun b => ?_, fun _ => ⟨_, rfl⟩⟩
      rw [← h]
      exact ⟨nofun, nofun⟩

end Order

namespace Client

variable {L N : Type}

/-- A call whose slot is empty comes to the reply that comes in next. -/
theorem settle_handle {c : Client L N} {frame : Bytes} {r : Reply}
    (hslot : c.state.slots.find? r.id = some none)
    (h : Inbound.decode frame = .ok (.reply r)) :
    (settle (Inbox.handle c frame) (.sent r.id)).1 = r.outcome := by
  have hfound : (Inbox.handle c frame).state.slots.find? r.id = some (some r) := by
    rw [Inbox.state_handle_reply h, Slots.find?_fill, hslot, Reply.to?, if_pos rfl]
    rfl
  have hwait := (waitFor_sent (Inbox.handle c frame) r.id 0).1
  rw [hfound] at hwait
  exact hwait

/-- A call whose slot is empty comes to nothing by a malformed frame. -/
theorem settle_malformed {c : Client L N} {frame : Bytes} {id : PacketId} {m : Malformation}
    (hslot : c.state.slots.find? id = some none) (h : Inbound.decode frame = .error m) :
    (settle (Inbox.handle c frame) (.sent id)).1 = .ok .timedOut := by
  have hwait := (waitFor_sent (Inbox.handle c frame) id 0).1
  rw [Inbox.state_handle_malformed h, hslot] at hwait
  exact hwait

/-- An error that is a list ends the call that waits for the reply if and only if
it is a list of fields. -/
theorem settle_failing {c : Client L N} {frame : Bytes} {id : PacketId} {items : List Json}
    (hslot : c.state.slots.find? id = some none) (h : Inbound.Failing frame id (.arr items))
    (e : RemoteError) :
    (settle (Inbox.handle c frame) (.sent id)).1 = .error (.remote e) ↔
      RemoteError.Listed items e := by
  obtain ⟨hlisted, hunlisted⟩ := Inbound.decode_failing_list h
  constructor
  · intro hsettle
    by_cases hex : ∃ e', RemoteError.Listed items e'
    · obtain ⟨e', he'⟩ := hex
      have hremote := settle_handle hslot ((hlisted e').mpr he')
      rw [hsettle] at hremote
      cases hremote
      exact he'
    · obtain ⟨m, hm⟩ := hunlisted (not_exists.mp hex)
      rw [settle_malformed hslot hm] at hsettle
      cases hsettle
  · intro he
    exact settle_handle hslot ((hlisted e).mpr he)

/-- An order whose slot is empty comes to the meaning of the result that comes in
next. -/
theorem reads_settleOrder {α : Type} {c : Client L N} {frame : Bytes} {id : PacketId} {v : Json}
    {o : Order α} {Meant : α → Prop} (hslot : c.state.slots.find? id = some none)
    (h : Inbound.decode frame = .ok (.reply ⟨id, .ok v⟩))
    (hmeant : ∀ a, (o.decode v).1 = .ok a ↔ Meant a) :
    Order.Reads (settleOrder (Inbox.handle c frame) o (.sent id)).1 Meant := by
  have hsettle : (settle (Inbox.handle c frame) (.sent id)).1 = .ok (.completed v) :=
    settle_handle (r := ⟨id, .ok v⟩) hslot h
  show Order.Reads (o.interpret (settle (Inbox.handle c frame) (.sent id)).1).1 Meant
  rw [hsettle]
  exact Order.reads_interpret hmeant

/-- In each of the four places an object is wanted, and a list is taken if and only
if it holds the fields of such an object in their order.

An error that is such a list ends the call that waits for the reply, with the
error that it lists. Every other list makes the frame a malformed one, and the
frame changes nothing. A result that is such a list completes the orders: for a
submission there are the lists of an id and a directory, for a cancellation the
list of an id alone. With every other list the order fails with an error of the
protocol. And an observer of state changes that has been registered at any time
before the frame comes reacts to the change that such a list of params holds.
Every other list it tells of once, and does nothing else. -/
theorem meanings_of_lists (c : Client L N) (frame : Bytes) (items : List Json) :
    (∀ id, Inbound.Failing frame id (.arr items) →
      (∀ e, Inbound.decode frame = .ok (.reply ⟨id, .error e⟩) ↔ RemoteError.Listed items e) ∧
      ((∀ e, ¬ RemoteError.Listed items e) →
        (∃ m, Inbound.decode frame = .error (.invalidError id m)) ∧
        (Inbox.handle c frame).state = c.state) ∧
      (c.state.slots.find? id = some none → ∀ e,
        (settle (Inbox.handle c frame) (.sent id)).1 = .error (.remote e) ↔
          RemoteError.Listed items e)) ∧
    (∀ id, Inbound.decode frame = .ok (.reply ⟨id, .ok (.arr items)⟩) →
      c.state.slots.find? id = some none →
      (∀ r : JobRequest, Order.Reads
        (settleOrder (Inbox.handle c frame) (.submitJob r) (.sent id)).1
        (Submission.Listed items)) ∧
      (∀ queue program, Order.Reads
        (settleOrder (Inbox.handle c frame) (.submit queue program) (.sent id)).1
        fun i => ∃ s, Submission.Listed items s ∧ s.job = i) ∧
      (∀ job, Order.Reads (settleOrder (Inbox.handle c frame) (.cancelJob job) (.sent id)).1
        fun i => items = [i.toJson])) ∧
    (∀ n : Notification, n.method = Method.jobStateChanged.name → n.params = .arr items →
      Inbound.decode frame = .ok (.notification n) →
      ∀ (react : StateChange → Reaction (Desk (Session L N)))
        (as : List (Scene.Act (Desk (Session L N)))),
        let d := (c.observe (.ofStateChange react)).run as
        Inbox.handle d frame = (d.announce n).2 ∧
        ∃ t : Turn (Desk (Session L N)), d.Behind n c.observers t ∧
          (∀ change, StateChange.Listed items change → t.observer n = react change) ∧
          ((∀ change, ¬ StateChange.Listed items change) →
            ∃ m, t.Idle n [.stateChangeIgnored (n.illFormed m)])) := by
  refine ⟨fun id hfailing => ?_, fun id hframe hslot => ?_, ?_⟩
  · obtain ⟨hlisted, hunlisted⟩ := Inbound.decode_failing_list hfailing
    refine ⟨hlisted, fun hnone => ?_, fun hslot => settle_failing hslot hfailing⟩
    obtain ⟨m, hm⟩ := hunlisted hnone
    exact ⟨⟨m, hm⟩, Inbox.state_handle_malformed hm⟩
  · refine ⟨fun r => reads_settleOrder hslot hframe fun s => ?_,
      fun queue program => reads_settleOrder hslot hframe fun i => ?_,
      fun job => reads_settleOrder hslot hframe fun i => ?_⟩
    · exact Submission.decode_arr_iff
    · refine map_eq_ok_iff.trans ?_
      exact exists_congr fun s => and_congr_left' Submission.decode_arr_iff
    · exact Cancellation.decode_arr_iff
  · intro n hmethod hparams hframe react as d
    obtain ⟨t, ht, hbehind⟩ := Scene.exists_turn c (.ofStateChange react) as n
    refine ⟨Inbox.handle_notification hframe, t, hbehind, fun change hlisted => ?_, fun hnone => ?_⟩
    · rw [ht]
      refine Observer.ofStateChange_change hmethod ?_
      rw [hparams]
      exact StateChange.decode_arr_iff.mpr hlisted
    · cases hd : StateChange.decode n.params with
      | ok change =>
          rw [hparams] at hd
          exact absurd (StateChange.decode_arr_iff.mp hd) (hnone change)
      | error m =>
          refine ⟨m, Turn.idle_of_tellAll ?_⟩
          rw [ht]
          exact Observer.ofStateChange_unread hmethod hd

/-- A list of a code is an error, a list of an id is the answer to a submission
and to a cancellation, and a list of an id and two states is a change that
observers react to. -/
theorem lists_with_meanings :
    Inbound.decode (Utf8.encode "\x7b\"id\":1,\"error\":[7]\x7d") =
      .ok (.reply ⟨.first, .error ⟨7, "", none⟩⟩) ∧
    (∀ r : JobRequest, ((Order.submitJob r).interpret (.ok (.completed (.arr [.int 42])))).1 =
      .ok (.completed ⟨⟨42⟩, none⟩)) ∧
    (∀ queue program,
      ((Order.submit queue program).interpret (.ok (.completed (.arr [.int 42])))).1 =
        .ok (.completed ⟨42⟩)) ∧
    (∀ job, ((Order.cancelJob job).interpret (.ok (.completed (.arr [.int 42])))).1 =
      .ok (.completed ⟨42⟩)) ∧
    ∀ (σ : Type) (react : StateChange → Reaction σ),
      Observer.ofStateChange react
        ⟨"jobStateChanged", .arr [.int 42, .str "None", .str "Finished"]⟩ =
          react ⟨⟨42⟩, .none, .finished⟩ := by
  refine ⟨?_, fun r => rfl, fun queue program => rfl, fun job => rfl, fun σ react => ?_⟩
  · with_unfolding_all rfl
  · exact Observer.ofStateChange_change rfl
      (StateChange.decode_arr_iff.mpr (.states ⟨42⟩ (.name .none) (.name .finished)))

end Client

end RemoteJobs
