import Mathlib.Data.List.Range
import RemoteJobs.Proofs.Arrivals
import RemoteJobs.Proofs.Dialogue.Changes
import RemoteJobs.Proofs.PacketId

/-!
# Ids number the calls

A call of a connected client draws the next id before anything can go wrong, and
a call that is refused after that has done nothing else: no slot, no frame, no
change of the connection. So the ids number the calls, and what the server finds
are the requests of those calls that were sent.

`Booked` is the account of a stretch of a run: the ids that it has drawn are
those of its calls, and the frames that it has added are the requests of those
that were sent. Every change keeps it.
-/

namespace RemoteJobs

/-- From the one state of the ids and the frames to the other there were these
calls, and no others. -/
structure Booked (ids : IdSupply) (frames : List Bytes) (calls : List CallRecord)
    (ids' : IdSupply) (frames' : List Bytes) : Prop where
  ids : ids.drawMany calls.length = (calls.map (·.id), ids')
  frames : frames' = frames ++ (calls.filter (·.sent)).map CallRecord.frame

namespace Booked

variable {ids ids' ids'' : IdSupply} {frames frames' frames'' : List Bytes}
  {calls calls' : List CallRecord}

theorem refl (ids : IdSupply) (frames : List Bytes) : Booked ids frames [] ids frames :=
  ⟨rfl, (List.append_nil frames).symm⟩

theorem trans (h : Booked ids frames calls ids' frames')
    (h' : Booked ids' frames' calls' ids'' frames'') :
    Booked ids frames (calls ++ calls') ids'' frames'' where
  ids := by rw [List.length_append, IdSupply.drawMany_add, h.ids, h'.ids, List.map_append]
  frames := by
    rw [h'.frames, h.frames, List.filter_append, List.map_append, List.append_assoc]

/-- Frames that are there already make no difference. -/
theorem behind (h : Booked ids frames calls ids' frames') (old : List Bytes) :
    Booked ids (old ++ frames) calls ids' (old ++ frames') where
  ids := h.ids
  frames := by rw [h.frames, List.append_assoc]

theorem numbers (h : Booked ids frames calls ids' frames')
    (hn : ids.upcoming.number + calls.length < 18446744073709551616) :
    calls.map (·.id.number) = List.range' ids.upcoming.number calls.length := by
  have hnumbers := (IdSupply.number_drawMany ids hn).1
  rw [h.ids, List.map_map] at hnumbers
  exact hnumbers

end Booked

namespace Session

variable {N : Type} {d e : Desk (Session (Channel Unit) N)} {calls : List CallRecord} {told : Nat}

theorem Change.booked (h : Change d calls told e) :
    Booked d.memory.ids d.memory.link.queue calls e.memory.ids e.memory.link.queue := by
  cases h with
  | quiet _ hids hqueue =>
      rw [hids, hqueue]
      exact .refl _ _
  | refused method params _ hids hqueue =>
      rw [hids, hqueue]
      exact ⟨rfl, (List.append_nil _).symm⟩
  | sent method params _ _ hids hqueue =>
      rw [hids, hqueue]
      exact ⟨rfl, rfl⟩
  | shut hlink hids _ _ =>
      have hqueue : d.memory.link.shut.2.queue = d.memory.link.queue := by
        rw [Channel.shut]
        split
        · rfl
        · rfl
      rw [hids, hlink, hqueue]
      exact .refl _ _

theorem Changes.booked (h : Changes d calls told e) :
    Booked d.memory.ids d.memory.link.queue calls e.memory.ids e.memory.link.queue := by
  induction h with
  | one h => exact h.booked
  | trans _ _ ih ih' => exact ih.trans ih'

end Session

namespace Dialogue

variable {N : Type} {s : Dialogue N} {calls : List CallRecord} {told : Nat}

theorem booked_step {m : Move N} (h : s.Account calls told m) :
    Booked s.client.session.ids s.frames calls (s.step m).client.session.ids
      (s.step m).frames := by
  by_cases hm : m = .take
  · subst hm
    obtain ⟨rfl, rfl⟩ := h
    rw [frames_step_take, Client.session, Client.session, (stands_step_take s).2]
    exact .refl _ _
  · obtain ⟨hchanges, hreceived⟩ := changes_step h hm
    rw [frames, frames, hreceived]
    exact hchanges.booked.behind s.received

theorem Accounts.booked {ms : List (Move N)} (h : s.Accounts ms calls told) :
    Booked s.client.session.ids s.frames calls (s.run ms).client.session.ids
      (s.run ms).frames := by
  induction h with
  | nil => exact .refl _ _
  | snoc _ hm ih =>
      rw [run_snoc]
      exact ih.trans (booked_step hm)

end Dialogue

/-! ## The gaps in the ids -/

namespace CallRecord

variable {calls : List CallRecord}
  (h : calls.map (·.id.number) = List.range' 1 calls.length)

include h

theorem number_of_range {k : Nat} (hk : k < calls.length) : calls[k].id.number = k + 1 := by
  have hget : (calls.map (·.id.number))[k]? = some (1 + k) := by
    rw [h, List.getElem?_range' hk, Nat.one_mul]
  rw [List.getElem?_map, List.getElem?_eq_getElem hk] at hget
  injection hget with hget
  exact hget.trans (Nat.add_comm 1 k)

theorem pairwise_sent : ((calls.filter (·.sent)).map (·.id.number)).Pairwise (· < ·) := by
  have hall : (calls.map (·.id.number)).Pairwise (· < ·) := by
    rw [h]
    exact List.pairwise_lt_range'
  exact hall.sublist (List.filter_sublist.map _)

/-- The id of a call is among those that were sent if the call was. -/
theorem mem_sent_iff {k : Nat} (hk : k < calls.length) :
    k + 1 ∈ (calls.filter (·.sent)).map (·.id.number) ↔ calls[k].sent = true := by
  rw [List.mem_map]
  constructor
  · intro hex
    obtain ⟨r, hr, hnumber⟩ := hex
    obtain ⟨hr, hsent⟩ := List.mem_filter.mp hr
    obtain ⟨j, hj, rfl⟩ := List.getElem_of_mem hr
    rw [number_of_range h hj] at hnumber
    obtain rfl : j = k := by omega
    exact hsent
  · intro hsent
    exact ⟨calls[k], List.mem_filter.mpr ⟨List.getElem_mem hk, hsent⟩, number_of_range h hk⟩

end CallRecord

/-! ## One call -/

namespace Client

variable {L N : Type} [Link L] {c : Client L N} {method : String} {params : Json}

theorem issue_of_disconnected (h : c.session.connected = false) :
    c.issue method params = (.ended (.error .connectionClosed), c) := by
  rw [issue, Call.issue_disconnected (d := c.state) h]
  simp only [Scene.tell, List.append_nil]

theorem issue_of_closed (h : c.session.connected = true) (hs : c.state.slots.closed = true) :
    (c.issue method params).1 = .ended (.error .connectionClosed) := by
  have hr : c.state.slots.register c.state.memory.ids.upcoming = .error .closed := by
    rw [Slots.register, if_pos hs]
  rw [issue, Call.issue_refused (d := c.state) h hr]
  rfl

theorem issue_of_full (h : c.session.connected = true) (hs : c.state.slots.closed = false)
    (hfull : c.state.slots.capacity ≤ c.pendingCount) :
    ∃ text, (c.issue method params).1 = .ended (.error (.protocol text)) := by
  have hfull : c.state.slots.capacity ≤ c.state.slots.size := hfull
  have hr : c.state.slots.register c.state.memory.ids.upcoming =
      .error (.full c.state.memory.ids.upcoming c.state.slots.size c.state.slots.capacity) := by
    rw [Slots.register, hs, if_neg Bool.false_ne_true, if_pos hfull]
  rw [issue, Call.issue_refused (d := c.state) h hr]
  exact ⟨_, rfl⟩

/-- A call that is over as soon as it is made has drawn an id, if the client was
connected, and done nothing else. -/
theorem state_of_issue_ended (h : c.session.connected = true)
    {result : Except Failure (Outcome Json)} (hr : (c.issue method params).1 = .ended result) :
    (c.issue method params).2.state =
        { c.state with memory := { c.session with ids := c.session.ids.draw.2 } } ∧
      (c.issue method params).2.observers = c.observers := by
  rw [issue] at hr ⊢
  rcases Call.issue_of_connected (d := c.state) h method params with
    ⟨e, told, -, hi⟩ | ⟨s, k, -, -, hi⟩
  · rw [hi]
    exact ⟨rfl, rfl⟩
  · rw [hi] at hr
    cases hr

theorem ids_issue (h : c.session.connected = true) :
    (c.issue method params).2.session.ids = c.session.ids.draw.2 := by
  rw [issue]
  rcases Call.issue_of_connected (d := c.state) h method params with
    ⟨e, told, -, hi⟩ | ⟨s, k, -, -, hi⟩
  · rw [hi]
    rfl
  · rw [hi]
    rfl

/-- A call for which there is room fails as its request does, and is sent if
that is. -/
theorem issue_of_room (hreached : c.Reached) (h : c.session.connected = true)
    (hs : c.state.slots.closed = false) (hroom : c.pendingCount < c.state.slots.capacity) :
    (∀ e, Link.send c.session.link
        (Request.call c.session.ids.upcoming method params).bytes = .error e →
      (c.issue method params).1 = .ended (.error e)) ∧
    ∀ k, Link.send c.session.link
        (Request.call c.session.ids.upcoming method params).bytes = .ok k →
      (c.issue method params).1 = .sent c.session.ids.upcoming ∧
        (c.issue method params).2.session.link = k := by
  have hr := Slots.register_of_room hs hroom hreached.find?_upcoming
  refine ⟨fun e he => ?_, fun k hk => ?_⟩
  · rw [issue, Call.issue_unsent (d := c.state) h hr he]
  · rw [issue, Call.issue_sent (d := c.state) h hr hk]
    exact ⟨rfl, rfl⟩

end Client

namespace Traffic

variable {L N : Type} [Link L] {s : Traffic L N} {k : Nat}

/-- The first step of a call: it draws an id, unless the client has been
disconnected. -/
theorem advance_begun {method : String} {params : Json}
    (h : s.call? k = some (.begun method params)) :
    (s.client.session.connected = true →
      (s.step (.advance k)).call? k =
          some (.numbered s.client.session.ids.upcoming method params) ∧
        (s.step (.advance k)).client.session.ids = s.client.session.ids.draw.2) ∧
    (s.client.session.connected = false →
      (s.step (.advance k)).call? k = some (.ended (.error .connectionClosed)) ∧
        (s.step (.advance k)).client.state = s.client.state) := by
  obtain ⟨hcall, hstate⟩ := step_advance h
  rw [hcall, Client.session, Client.session, hstate, Call.advance]
  refine ⟨fun hc => ?_, fun hc => ?_⟩
  · rw [if_pos hc]
    exact ⟨rfl, rfl⟩
  · rw [if_neg (ne_true_of_eq_false hc)]
    exact ⟨rfl, rfl⟩

end Traffic

/-! ## Runs -/

/-- The calls of a dialogue and the frames of its server. -/
theorem Dialogue.Accounts.frames {N : Type} {plan : Plan} {directory : String} {notes : N}
    {c : Client (Channel Unit) N} (h : Client.connectMemory plan directory notes = .ok c)
    {ms : List (Move N)} {calls : List CallRecord} {told : Nat}
    (ha : Accounts ⟨c, []⟩ ms calls told) (hn : calls.length < 18446744073709551615) :
    calls.map (·.id.number) = List.range' 1 calls.length ∧
      (run ⟨c, []⟩ ms).frames = (calls.filter (·.sent)).map CallRecord.frame := by
  obtain ⟨-, hids, -, -, hlink⟩ := state_of_connectMemory h
  have hbooked := ha.booked
  have hfresh : (Dialogue.mk c []).client.session.ids.upcoming.number = 1 := by
    show c.session.ids.upcoming.number = 1
    rw [hids]
    rfl
  have hnone : Dialogue.frames ⟨c, []⟩ = [] := by
    rw [Dialogue.frames, hlink]
    rfl
  refine ⟨?_, ?_⟩
  · have hnumbers := hbooked.numbers (by omega)
    rw [hfresh] at hnumbers
    exact hnumbers
  · rw [hbooked.frames, hnone]
    rfl

section

variable {L N M : Type} [Link L] {plan plan' : Plan} {directory directory' : String} {notes : N}
  {notes' : M} {reach : Settings → Endpoint → Except Failure L} {c₀ : Client L N}
  {c₁ : Client (Channel Unit) M}

/-- First, a client on any link, in the course of a run in which calls of
several threads and of observers have drawn `n` ids. The next call that draws an
id draws the one with the number `n + 1`, whatever becomes of it. If the client
has been disconnected the call ends at once, draws none and changes nothing. If
not, and nobody else acts meanwhile, it fails because the slots are closed,
because they are full or because the link does not send its request, and else
its request is sent; if it fails, all that is left of it is that its id has been
drawn, and what has to be told.

Second, the whole of a dialogue on a channel in memory. The calls of a connected
client have the ids from one on, in their order. The frames that the server has
taken, and those that still wait for it, are the requests of the calls that were
sent, with the ids, the methods and the parameters of these, in their order;
their ids increase, and an id is missing among them if its call was not sent. -/
theorem requests_of_calls (h : Client.connect plan directory notes reach = .ok c₀)
    {es : List (Traffic.Event L N)} {n : Nat} (hd : Traffic.Drawn ⟨c₀, []⟩ es n)
    (hn : n < 18446744073709551615) (h' : Client.connectMemory plan' directory' notes' = .ok c₁)
    {ms : List (Dialogue.Move M)} (hms : ∀ m ∈ ms, m.Proper) :
    (let s := Traffic.run ⟨c₀, []⟩ es
      let c := s.client
      let id := c.session.ids.upcoming
      id.number = n + 1 ∧
      (∀ k method params, s.call? k = some (.begun method params) →
        (c.session.connected = true →
          (s.step (.advance k)).call? k = some (.numbered id method params) ∧
          (s.step (.advance k)).client.session.ids = c.session.ids.draw.2) ∧
        (c.session.connected = false →
          (s.step (.advance k)).call? k = some (.ended (.error .connectionClosed)) ∧
          (s.step (.advance k)).client.state = c.state)) ∧
      ∀ method params,
        let after := c.issue method params
        (c.session.connected = false → after = (.ended (.error .connectionClosed), c)) ∧
        (c.session.connected = true →
          after.2.session.ids = c.session.ids.draw.2 ∧
          (c.state.slots.closed = true → after.1 = .ended (.error .connectionClosed)) ∧
          (c.state.slots.closed = false → c.state.slots.capacity ≤ c.pendingCount →
            ∃ text, after.1 = .ended (.error (.protocol text))) ∧
          (c.state.slots.closed = false → c.pendingCount < c.state.slots.capacity →
            (∀ e, Link.send c.session.link (Request.call id method params).bytes = .error e →
              after.1 = .ended (.error e)) ∧
            ∀ k, Link.send c.session.link (Request.call id method params).bytes = .ok k →
              after.1 = .sent id ∧ after.2.session.link = k) ∧
          ∀ result, after.1 = .ended result →
            after.2.state =
                { c.state with memory := { c.session with ids := c.session.ids.draw.2 } } ∧
            after.2.observers = c.observers)) ∧
    (∃ calls told, Dialogue.Accounts ⟨c₁, []⟩ ms calls told) ∧
    ∀ calls told, Dialogue.Accounts ⟨c₁, []⟩ ms calls told →
      calls.length < 18446744073709551615 →
      let s := Dialogue.run ⟨c₁, []⟩ ms
      let sent := calls.filter (·.sent)
      calls.map (·.id.number) = List.range' 1 calls.length ∧
      s.received ++ s.client.session.link.queue =
        sent.map (fun r => (Request.call r.id r.method r.params).bytes) ∧
      (sent.map (·.id.number)).Pairwise (· < ·) ∧
      ∀ k (hk : k < calls.length), k + 1 ∈ sent.map (·.id.number) ↔ calls[k].sent = true := by
  refine ⟨?_, (Dialogue.proper_of_connectMemory h').exists_accounts hms, ?_⟩
  · intro s c id
    have hreached : c.Reached :=
      ⟨plan, directory, notes, reach, c₀, es, n, h, hd, hn, rfl⟩
    refine ⟨(hd.numbered h hn).upcoming, fun k method params hk => Traffic.advance_begun hk,
      fun method params => ?_⟩
    intro after
    refine ⟨Client.issue_of_disconnected, fun hc => ?_⟩
    exact ⟨Client.ids_issue hc, Client.issue_of_closed hc, Client.issue_of_full hc,
      Client.issue_of_room hreached hc, fun result => Client.state_of_issue_ended hc⟩
  · intro calls told ha hcalls s sent
    obtain ⟨hnumbers, hframes⟩ := ha.frames h' hcalls
    exact ⟨hnumbers, hframes, CallRecord.pairwise_sent hnumbers,
      fun k => CallRecord.mem_sent_iff hnumbers⟩

/-- The second of three calls is not sent, so the server finds the ids one and
three. -/
theorem requests_of_three_calls :
    ∃ c : Client (Channel Unit) Unit, Client.connectMemory {} "" () = .ok c ∧
      let es : List (Traffic.Event (Channel Unit) Unit) := [.call "sum" .null, .advance 0]
      let ms : List (Dialogue.Move Unit) :=
        [.call "sum" .null, .failing true, .call "list" .null, .failing false, .take,
          .call "sum" .null]
      Traffic.Drawn ⟨c, []⟩ es 1 ∧ (∀ m ∈ ms, m.Proper) ∧
      (Traffic.run ⟨c, []⟩ es).client.session.ids.upcoming.number = 2 ∧
      ∃ calls told, Dialogue.Accounts ⟨c, []⟩ ms calls told ∧
        calls.map (·.id.number) = [1, 2, 3] ∧
        (Dialogue.run ⟨c, []⟩ ms).received ++
            (Dialogue.run ⟨c, []⟩ ms).client.session.link.queue =
          [⟨1, by decide, by decide⟩, ⟨3, by decide, by decide⟩].map
            fun id => (Request.call id "sum" .null).bytes := by
  obtain ⟨c, h⟩ : ∃ c : Client (Channel Unit) Unit,
      Client.connectMemory {} "" () = .ok c := ⟨_, rfl⟩
  refine ⟨c, h, ?_⟩
  intro es ms
  have hd : Traffic.Drawn ⟨c, []⟩ es (0 + (1 + 0)) := by
    cases h
    exact .cons rfl (.cons rfl .nil)
  have hms : ∀ m ∈ ms, m.Proper := by
    simp [ms, Dialogue.Move.Proper]
  obtain ⟨⟨hnumber, -⟩, -, hruns⟩ := requests_of_calls h hd (by decide) h hms
  refine ⟨hd, hms, hnumber, ?_⟩
  obtain ⟨calls, told, ha, hlength, hsent⟩ : ∃ calls told, Dialogue.Accounts ⟨c, []⟩ ms calls told ∧
      calls.length = 3 ∧ calls.filter (·.sent) =
        [⟨⟨1, by decide, by decide⟩, "sum", .null, true⟩,
          ⟨⟨3, by decide, by decide⟩, "sum", .null, true⟩] := by
    cases h
    exact ⟨_, _, .cons ⟨rfl, rfl⟩ <| .cons ⟨rfl, rfl⟩ <| .cons ⟨rfl, rfl⟩ <| .cons ⟨rfl, rfl⟩ <|
      .cons ⟨rfl, rfl⟩ <| .cons ⟨rfl, rfl⟩ .nil, rfl, rfl⟩
  obtain ⟨hnumbers, hframes, -, -⟩ := hruns calls told ha (by rw [hlength]; decide)
  refine ⟨calls, told, ha, ?_, ?_⟩
  · rw [hnumbers, hlength]
    rfl
  · rw [hframes, hsent]
    rfl

end

end RemoteJobs
