import RemoteJobs.Proofs.Traffic.Holders

/-!
# A call and what arrives for it

Between its request and its return a call only waits, and what becomes of it is
decided by what arrives: frames with any bytes, and the end of the connection
from either side. Two things count. If the connection ends, the call times out,
even when its reply has come before. If it does not, the first reply with the
id of the call is its result. All else is lost on the call.

`Standing` is the state of a call that waits: its slot is there, in an open
table, with the reply that has come, if one has. A frame keeps it standing and
the end of the connection takes the slot away, for good.
-/

namespace RemoteJobs

inductive Arrival where
  | frame (bytes : Bytes)
  /-- The other side ends the connection. -/
  | hangUp
  /-- The client ends it. -/
  | disconnect

namespace Arrival

def closes : Arrival → Bool
  | frame _ => false
  | hangUp => true
  | disconnect => true

/-- The reply to the call with this id that arrives. -/
def replyTo (id : PacketId) : Arrival → Option Reply
  | frame bytes => Inbound.replyTo id bytes
  | hangUp => none
  | disconnect => none

def handle {L N : Type} [Link L] (c : Client L N) : Arrival → Client L N
  | frame bytes => Inbox.handle c bytes
  | hangUp => Inbox.hangUp c
  | disconnect => c.disconnect

end Arrival

namespace Client

variable {L N : Type}

/-- Waits for a call: looks at its slot `n` times within its time, not at all if
it has none, and once more when its time is over. -/
def waitFor (c : Client L N) (call : Call) : Nat → Except Failure (Outcome Json) × Client L N
  | 0 => c.settle call
  | n + 1 =>
    let (call, state) := call.look false c.state
    waitFor { c with state } call n

theorem waitFor_ended (c : Client L N) (result : Except Failure (Outcome Json)) (n : Nat) :
    c.waitFor (.ended result) n = (result, c) := by
  induction n with
  | zero => rfl
  | succ n ih => exact ih

/-- However often it looks, a call that waits returns the reply in its slot, if
there is one, and then the slot is gone. -/
theorem waitFor_sent (c : Client L N) (id : PacketId) (n : Nat) :
    (c.waitFor (.sent id) n).1 = ((c.state.slots.find? id).join.map Reply.outcome).getD
        (.ok .timedOut) ∧
      (c.waitFor (.sent id) n).2.state.slots.find? id = none := by
  have herase : (c.state.slots.erase id).find? id = none := by
    rw [Slots.find?_erase, if_pos rfl]
  induction n with
  | zero =>
      rw [waitFor, settle, Call.look]
      cases h : c.state.slots.find? id with
      | none =>
          rw [Slots.look_of_none h]
          exact ⟨rfl, h⟩
      | some o =>
          cases o with
          | none =>
              rw [Slots.look_expired h]
              exact ⟨rfl, herase⟩
          | some r =>
              rw [Slots.look_of_reply h]
              exact ⟨rfl, herase⟩
  | succ n ih =>
      rw [waitFor, Call.look]
      cases h : c.state.slots.find? id with
      | none =>
          simp only [Slots.look_of_none h, waitFor_ended]
          exact ⟨rfl, h⟩
      | some o =>
          cases o with
          | some r =>
              simp only [Slots.look_of_reply h, waitFor_ended]
              exact ⟨rfl, herase⟩
          | none =>
              rw [h] at ih
              by_cases hc : (c.state.slots.closed || false) = true
              · simp only [Slots.look_of_empty h, if_pos hc, waitFor_ended]
                exact ⟨rfl, herase⟩
              · simp only [Slots.look_of_empty h, if_neg hc]
                exact ih

/-- A client in the course of a run that has drawn fewer than `2 ^ 64 - 1` ids. -/
def Reached [Link L] (c : Client L N) : Prop :=
  ∃ (plan : Plan) (directory : String) (notes : N)
    (reach : Settings → Endpoint → Except Failure L) (c₀ : Client L N)
    (es : List (Traffic.Event L N)) (n : Nat),
    connect plan directory notes reach = .ok c₀ ∧ Traffic.Drawn ⟨c₀, []⟩ es n ∧
      n < 18446744073709551615 ∧ c = (Traffic.run ⟨c₀, []⟩ es).client

/-- The next id of such a client has no slot. -/
theorem Reached.find?_upcoming [Link L] {c : Client L N} (h : c.Reached) :
    c.state.slots.find? c.session.ids.upcoming = none := by
  obtain ⟨plan, directory, notes, reach, c₀, es, n, hc, hd, hn, rfl⟩ := h
  rw [Slots.find?_eq_none_iff]
  intro hid
  exact Nat.lt_irrefl _ ((hd.held hc hn).number_lt_upcoming (hd.numbered hc hn) hid)

/-! ## A call that waits -/

/-- The observers of the client do not touch its connection. -/
def Apart (c : Client L N) : Prop := c.Leaves fun d => (d.slots, d.memory.connected)

/-- The call with this id waits, and `o` is the reply that has come. -/
structure Standing (c : Client L N) (id : PacketId) (o : Option Reply) : Prop where
  apart : c.Apart
  connected : c.session.connected = true
  opened : c.state.slots.closed = false
  slot : c.state.slots.find? id = some o

/-- The call with this id has lost its slot. -/
structure Fallen (c : Client L N) (id : PacketId) : Prop where
  apart : c.Apart
  slot : c.state.slots.find? id = none

variable {c : Client L N} {id : PacketId} {o : Option Reply}

theorem Apart.slots (h : c.Apart) : c.Leaves Desk.slots := h.map Prod.fst

theorem Apart.connected (h : c.Apart) : c.Leaves fun d => d.memory.connected := h.map Prod.snd

theorem Standing.frame (h : Standing c id o) (bytes : Bytes) :
    Standing (Inbox.handle c bytes) id (o.or (Inbound.replyTo id bytes)) where
  apart := Inbox.leaves_handle h.apart bytes
  connected := (Inbox.memory_handle h.apart.connected bytes).trans h.connected
  opened := (Inbox.closed_handle h.apart.slots bytes).trans h.opened
  slot := by
    rw [Inbox.find?_handle h.apart.slots, h.slot]
    rfl

variable [Link L]

theorem Standing.closes (h : Standing c id o) {a : Arrival} (ha : a.closes = true) :
    Fallen (a.handle c) id := by
  have hclose : c.state.slots.close.2.find? id = none := Slots.find?_close (.inl h.opened)
  cases a with
  | frame _ => cases ha
  | hangUp => exact ⟨h.apart, hclose⟩
  | disconnect =>
      refine ⟨h.apart, ?_⟩
      have hcon : c.state.memory.connected = true := h.connected
      rw [Arrival.handle, disconnect, Session.disconnect, if_pos hcon]
      exact hclose

theorem Fallen.handle (h : Fallen c id) (a : Arrival) : Fallen (a.handle c) id := by
  have hclose := Slots.find?_close (.inr h.slot)
  cases a with
  | frame bytes =>
      refine ⟨Inbox.leaves_handle h.apart bytes, ?_⟩
      rw [Arrival.handle, Inbox.find?_handle h.apart.slots, h.slot]
      rfl
  | hangUp => exact ⟨h.apart, hclose⟩
  | disconnect =>
      refine ⟨h.apart, ?_⟩
      rw [Arrival.handle, disconnect, Session.disconnect]
      split
      · exact hclose
      · exact h.slot

theorem Fallen.arrivals (h : Fallen c id) (as : List Arrival) :
    Fallen (as.foldl Arrival.handle c) id := by
  induction as generalizing c with
  | nil => exact h
  | cons a as ih => exact ih (h.handle a)

/-- What has become of the slot when everything has arrived. -/
theorem Standing.find?_arrivals (h : Standing c id o) (as : List Arrival) :
    (as.foldl Arrival.handle c).state.slots.find? id =
      if as.any Arrival.closes then none else some (o.or (as.findSome? (Arrival.replyTo id))) := by
  induction as generalizing c o with
  | nil =>
      rw [List.foldl_nil, h.slot, List.findSome?_nil, Option.or_none]
      rfl
  | cons a as ih =>
      rw [List.foldl_cons, List.any_cons, List.findSome?_cons]
      cases a with
      | frame bytes =>
          rw [Arrival.handle, ih (h.frame bytes), Arrival.closes, Bool.false_or, Arrival.replyTo,
            Option.or_assoc]
          cases Inbound.replyTo id bytes with
          | none => rfl
          | some r => rfl
      | hangUp =>
          rw [((h.closes rfl).arrivals as).slot]
          rfl
      | disconnect =>
          rw [((h.closes rfl).arrivals as).slot]
          rfl

/-- A call whose request is sent waits. -/
theorem issue_standing {method : String} {params : Json} {k : L} (h : c.Reached)
    (hc : c.isConnected = true) (hroom : c.pendingCount < c.state.slots.capacity)
    (hk : Link.send c.session.link
      (Request.call c.session.ids.upcoming method params).bytes = .ok k) (ha : c.Apart) :
    (c.issue method params).1 = .sent c.session.ids.upcoming ∧
      Standing (c.issue method params).2 c.session.ids.upcoming none := by
  rw [isConnected, Bool.and_eq_true] at hc
  obtain ⟨hcon, hopen⟩ := hc
  have hopen : c.state.slots.closed = false := by simpa using hopen
  have hreg := Slots.register_of_room hopen hroom h.find?_upcoming
  have hissue := Call.issue_sent (d := c.state) hcon hreg hk
  rw [issue, hissue]
  have hfind := Slots.find?_register hreg c.session.ids.upcoming
  rw [if_pos rfl] at hfind
  exact ⟨rfl, ha, hcon, hopen, hfind⟩

/-- A call of a connected client whose request is sent, whatever then arrives
until it waits and however often it looks: it times out if the connection ends
meanwhile, and else it returns the value or the error of the first reply with
its id, or times out if there is none. It leaves no slot. What is neither the
end of the connection nor the first such reply makes no difference. -/
theorem outcome_of_arrivals {method : String} {params : Json} {k : L} (h : c.Reached)
    (hc : c.isConnected = true) (hroom : c.pendingCount < c.state.slots.capacity)
    (hk : Link.send c.session.link
      (Request.call c.session.ids.upcoming method params).bytes = .ok k) (ha : c.Apart) :
    let id := c.session.ids.upcoming
    let reply (as : List Arrival) := as.findSome? (Arrival.replyTo id)
    let wait (as : List Arrival) := (as.foldl Arrival.handle (c.issue method params).2).waitFor
      (c.issue method params).1
    (c.issue method params).1 = .sent id ∧ ∀ as looks,
      ((∃ a ∈ as, a.closes = true) → (wait as looks).1 = .ok .timedOut) ∧
      ((∀ a ∈ as, a.closes = false) →
        (∀ v, reply as = some ⟨id, .ok v⟩ → (wait as looks).1 = .ok (.completed v)) ∧
        (∀ e, reply as = some ⟨id, .error e⟩ → (wait as looks).1 = .error (.remote e)) ∧
        (reply as = none → (wait as looks).1 = .ok .timedOut)) ∧
      (wait as looks).2.state.slots.find? id = none ∧
      ∀ as₁ a as₂, as = as₁ ++ a :: as₂ → a.closes = false →
        (a.replyTo id = none ∨ (reply as₁).isSome) →
        (wait as looks).1 = (wait (as₁ ++ as₂) looks).1 := by
  intro id reply wait
  obtain ⟨hsent, hstand⟩ := issue_standing h hc hroom hk ha
  have hwait : ∀ as looks, (wait as looks).1 =
      if as.any Arrival.closes then .ok .timedOut
      else ((reply as).map Reply.outcome).getD (.ok .timedOut) := by
    intro as looks
    show (waitFor _ _ looks).1 = _
    rw [hsent, (waitFor_sent _ _ _).1, hstand.find?_arrivals as]
    split
    · rfl
    · rfl
  have hslot : ∀ as looks, (wait as looks).2.state.slots.find? id = none := by
    intro as looks
    show (waitFor _ _ looks).2.state.slots.find? id = none
    rw [hsent]
    exact (waitFor_sent _ _ _).2
  refine ⟨hsent, fun as looks => ⟨fun hcl => ?_, fun hcl => ⟨?_, ?_, ?_⟩, hslot as looks, ?_⟩⟩
  · rw [hwait, if_pos (List.any_eq_true.mpr hcl)]
  · intro v hv
    rw [hwait, if_neg (by simpa using hcl), hv]
    rfl
  · intro e he
    rw [hwait, if_neg (by simpa using hcl), he]
    rfl
  · intro hn
    rw [hwait, if_neg (by simpa using hcl), hn]
    rfl
  · intro as₁ a as₂ has hq hr
    have hreply : reply as = reply (as₁ ++ as₂) := by
      show List.findSome? _ as = List.findSome? _ (as₁ ++ as₂)
      rw [has, List.findSome?_append, List.findSome?_append, List.findSome?_cons]
      rcases hr with hr | hr
      · rw [hr]
      · obtain ⟨r, hr⟩ := Option.isSome_iff_exists.mp hr
        rw [show List.findSome? (Arrival.replyTo id) as₁ = some r from hr]
        rfl
    rw [hwait, hwait, hreply, has, List.any_append, List.any_append, List.any_cons, hq,
      Bool.false_or]

/-- The reply comes between a text that is no envelope and another reply. -/
theorem outcome_of_three_frames :
    ∃ c : Client (Channel Unit) Unit, c.Reached ∧ c.isConnected = true ∧
      c.pendingCount < c.state.slots.capacity ∧
      (∃ k, Link.send c.session.link
        (Request.call c.session.ids.upcoming "sum" .null).bytes = .ok k) ∧ c.Apart ∧
      let as : List Arrival :=
        [.frame (Utf8.encode "null"), .frame (Utf8.encode "\x7b\"id\":1,\"result\":7\x7d"),
          .frame (Utf8.encode "\x7b\"id\":1,\"result\":8\x7d")]
      ((as.foldl Arrival.handle (c.issue "sum" .null).2).waitFor (c.issue "sum" .null).1 0).1 =
        .ok (.completed (.int 7)) := by
  obtain ⟨c, h⟩ : ∃ c : Client (Channel Unit) Unit,
      connect {} "" () (fun _ _ => .ok {}) = .ok c := ⟨_, rfl⟩
  have hr : c.Reached := ⟨{}, "", (), fun _ _ => .ok {}, c, [], 0, h, .nil, by decide, rfl⟩
  have hc : c.isConnected = true := by
    cases h
    rfl
  have hroom : c.pendingCount < c.state.slots.capacity := by
    cases h
    decide
  obtain ⟨k, hk⟩ : ∃ k, Link.send c.session.link
      (Request.call c.session.ids.upcoming "sum" .null).bytes = .ok k := by
    cases h
    exact ⟨_, rfl⟩
  have ha : c.Apart := by
    cases h
    intro o ho
    cases ho
  refine ⟨c, hr, hc, hroom, ⟨k, hk⟩, ha, ?_⟩
  intro as
  refine (((outcome_of_arrivals hr hc hroom hk ha).2 as 0).2.1 ?_).1 (.int 7) ?_
  · decide
  · cases h
    with_unfolding_all rfl

end Client

end RemoteJobs
