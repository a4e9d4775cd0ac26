import RemoteJobs.Proofs.Dialogue
import RemoteJobs.Proofs.Slots.Acts

/-!
# What can become of a client on a channel in memory

Whoever acts on the desk of a client, only four things can come of it that
matter to its calls and to its channel: nothing, a call that is refused, a call
that sends its request, and the end of the channel. `Session.Change` says once
what each of them is. Every account consists of such changes, and so does every
move of a dialogue, except that of the server when it takes a frame.

Of the slots it is enough to know that threads have acted on them, and whether
one of them has closed the table.
-/

namespace RemoteJobs

namespace Session

variable {N : Type} {d e f : Desk (Session (Channel Unit) N)}

/-- The client is connected to the channel, or not, as before, and nobody has
closed its slots. -/
structure Stands (d e : Desk (Session (Channel Unit) N)) : Prop where
  connected : e.memory.connected = d.memory.connected
  closed : e.memory.link.closed = d.memory.link.closed
  sink : e.memory.link.sink = d.memory.link.sink
  slots : ∃ acts, .close ∉ acts ∧ e.slots = d.slots.run acts

theorem Stands.refl (d : Desk (Session (Channel Unit) N)) : Stands d d :=
  ⟨rfl, rfl, rfl, [], by simp, rfl⟩

/-- What can become of a desk, with the call that is made meanwhile, if one is,
and how often the client is told that the channel is shut. -/
inductive Change (d : Desk (Session (Channel Unit) N)) :
    List CallRecord → Nat → Desk (Session (Channel Unit) N) → Prop where
  | quiet {e : Desk (Session (Channel Unit) N)} : Stands d e →
      e.memory.ids = d.memory.ids → e.memory.link.queue = d.memory.link.queue → Change d [] 0 e
  | refused (method : String) (params : Json) {e : Desk (Session (Channel Unit) N)} : Stands d e →
      e.memory.ids = d.memory.ids.draw.2 → e.memory.link.queue = d.memory.link.queue →
      Change d [⟨d.memory.ids.upcoming, method, params, false⟩] 0 e
  | sent (method : String) (params : Json) {e : Desk (Session (Channel Unit) N)} : Stands d e →
      d.memory.link.closed = false → e.memory.ids = d.memory.ids.draw.2 →
      e.memory.link.queue =
        d.memory.link.queue ++ [(Request.call d.memory.ids.upcoming method params).bytes] →
      Change d [⟨d.memory.ids.upcoming, method, params, true⟩] 0 e
  | shut {e : Desk (Session (Channel Unit) N)} : e.memory.link = d.memory.link.shut.2 →
      e.memory.ids = d.memory.ids →
      (e.memory.connected = true → d.memory.connected = true) →
      (e.slots = d.slots.close.2 ∨ d.memory.link.tellings = 0 ∧ e.slots = d.slots) →
      Change d [] d.memory.link.tellings e

/-- Several changes. -/
inductive Changes : Desk (Session (Channel Unit) N) → List CallRecord → Nat →
    Desk (Session (Channel Unit) N) → Prop where
  | one {d e : Desk (Session (Channel Unit) N)} {calls : List CallRecord} {told : Nat} :
      Change d calls told e → Changes d calls told e
  | trans {d e f : Desk (Session (Channel Unit) N)} {calls calls' : List CallRecord}
      {told told' : Nat} : Changes d calls told e → Changes e calls' told' f →
        Changes d (calls ++ calls') (told + told') f

theorem change_refl (d : Desk (Session (Channel Unit) N)) : Change d [] 0 d :=
  .quiet (.refl d) rfl rfl

/-- Threads act on the slots, and nobody closes them. -/
theorem change_slots (d : Desk (Session (Channel Unit) N)) (acts : List Slots.Act)
    (h : .close ∉ acts) : Change d [] 0 { d with slots := d.slots.run acts } :=
  .quiet ⟨rfl, rfl, rfl, acts, h, rfl⟩ rfl rfl

theorem change_issue (method : String) (params : Json) (d : Desk (Session (Channel Unit) N)) :
    Change d (Call.record method params d) 0 (Call.issue method params d).2.1 := by
  rw [Call.record]
  cases hc : d.memory.connected with
  | false =>
      rw [Call.issue_disconnected hc]
      exact change_refl d
  | true =>
      rcases Call.issue_of_connected hc method params with ⟨e, told, -, h⟩ | ⟨s, k, hr, hs, h⟩
      · rw [h]
        exact .refused method params ⟨rfl, rfl, rfl, [], by simp, rfl⟩ rfl rfl
      · obtain ⟨hopen, rfl⟩ := Channel.send_eq_ok hs
        have hact : s = d.slots.run [.register d.memory.ids.upcoming] := by
          rw [Slots.run, List.foldl_cons, Slots.act, hr]
          rfl
        rw [h]
        exact .sent method params ⟨rfl, rfl, rfl, _, by simp, hact⟩ hopen rfl rfl

theorem change_look (call : Call) (expired : Bool) (d : Desk (Session (Channel Unit) N)) :
    Change d [] 0 (call.look expired d).2 := by
  cases call with
  | sent id =>
      have hlook := change_slots d [.look id expired] (by simp)
      rw [Slots.run, List.foldl_cons, Slots.act] at hlook
      rw [Call.look]
      split
      · next h =>
          rw [h] at hlook
          exact hlook
      · next h =>
          rw [h] at hlook
          exact hlook
      · next h =>
          rw [h] at hlook
          exact hlook
  | begun _ _ => exact change_refl d
  | numbered _ _ _ => exact change_refl d
  | registered _ _ _ => exact change_refl d
  | refused _ _ _ => exact change_refl d
  | ended _ => exact change_refl d

theorem change_disconnect (d : Desk (Session (Channel Unit) N)) :
    Change d [] d.memory.tellings (Session.disconnect d) := by
  rw [Session.disconnect, Session.tellings]
  cases d.memory.connected with
  | false => exact change_refl d
  | true => exact .shut rfl rfl (fun h => by cases h) (.inl rfl)

/-- Whatever an observer may do comes to a few changes. -/
theorem Account.changes {calls : List CallRecord} {told : Nat} (h : Account d calls told e) :
    Changes d calls told e := by
  induction h with
  | notes d notes => exact .one (.quiet ⟨rfl, rfl, rfl, [], by simp, rfl⟩ rfl rfl)
  | call method params d =>
      have hissue : Changes d (Call.record method params d) 0 (Call.issue method params d).2.1 :=
        .one (change_issue method params d)
      have hlook : Changes (Call.issue method params d).2.1 [] 0 (Call.attempt method params d).2 :=
        .one (change_look (Call.issue method params d).1 true _)
      have h := hissue.trans hlook
      rw [List.append_nil] at h
      exact h
  | disconnect d => exact .one (change_disconnect d)
  | trans _ _ ih ih' => exact ih.trans ih'

end Session

namespace Dialogue

variable {N : Type} {s : Dialogue N} {m : Move N} {calls : List CallRecord} {told : Nat}

theorem change_hangUp (s : Dialogue N) :
    Session.Change s.client.state [] s.client.session.link.tellings
      (s.step .hangUp).client.state := by
  have hcl : (s.step .hangUp).client = s.client.hangUpMemory := rfl
  rw [hcl, Client.hangUpMemory]
  dsimp only
  split
  · exact .shut rfl rfl id (.inl rfl)
  · next h =>
      have htold : s.client.session.link.tellings = 0 := if_neg h
      exact .shut rfl rfl id (.inr ⟨htold, rfl⟩)

theorem changes_inject {frame : Bytes} (h : s.Account calls told (.inject frame)) :
    Session.Changes s.client.state calls told (s.step (.inject frame)).client.state := by
  have hcl : (s.step (.inject frame)).client = (s.client.inject frame).2 := rfl
  rw [hcl]
  cases hsink : s.client.session.link.sink with
  | none =>
      rw [Account, hsink] at h
      obtain ⟨rfl, rfl⟩ := h
      rw [inject_of_no_sink hsink]
      exact .one (Session.change_refl _)
  | some u =>
      rw [inject_of_sink hsink]
      cases hd : Inbound.decode frame with
      | error m =>
          rw [Account, hsink, Inbound.notification?, hd] at h
          obtain ⟨rfl, rfl⟩ := h
          rw [Inbox.state_handle_malformed hd]
          exact .one (Session.change_refl _)
      | ok i =>
          cases i with
          | reply r =>
              rw [Account, hsink, Inbound.notification?, hd] at h
              obtain ⟨rfl, rfl⟩ := h
              rw [Inbox.state_handle_reply hd]
              exact .one (Session.change_slots _ [.store r.id r] (by simp))
          | notification n =>
              rw [Account, hsink, Inbound.notification?, hd] at h
              exact h.changes

/-- What a move does to the desk of the client. -/
theorem changes_step (h : s.Account calls told m) (hm : m ≠ .take) :
    Session.Changes s.client.state calls told (s.step m).client.state ∧
      (s.step m).received = s.received := by
  cases m with
  | call method params =>
      obtain ⟨rfl, rfl⟩ := h
      exact ⟨.one (Session.change_issue method params s.client.state), rfl⟩
  | look id expired =>
      obtain ⟨rfl, rfl⟩ := h
      exact ⟨.one (Session.change_look (.sent id) expired s.client.state), rfl⟩
  | observe o =>
      obtain ⟨rfl, rfl⟩ := h
      exact ⟨.one (Session.change_refl _), rfl⟩
  | disconnect =>
      obtain ⟨rfl, rfl⟩ := h
      exact ⟨.one (Session.change_disconnect _), rfl⟩
  | inject frame => exact ⟨changes_inject h, rfl⟩
  | hangUp =>
      obtain ⟨rfl, rfl⟩ := h
      exact ⟨.one (change_hangUp s), rfl⟩
  | take => exact absurd rfl hm
  | failing on =>
      obtain ⟨rfl, rfl⟩ := h
      exact ⟨.one (.quiet ⟨rfl, rfl, rfl, [], by simp, rfl⟩ rfl rfl), rfl⟩

/-- A frame that the server takes is still one of all frames. -/
theorem frames_step_take (s : Dialogue N) : (s.step .take).frames = s.frames := by
  have htake : s.client.session.link.take.1.toList ++ s.client.session.link.take.2.queue =
      s.client.session.link.queue := by
    rw [Channel.take]
    cases hq : s.client.session.link.queue with
    | nil =>
        dsimp only
        rw [hq]
        rfl
    | cons frame r => rfl
  have hframes : (s.step .take).frames =
    (s.received ++ s.client.session.link.take.1.toList) ++ s.client.session.link.take.2.queue := rfl
  rw [hframes, List.append_assoc, htake, frames]

theorem stands_step_take (s : Dialogue N) :
    Session.Stands s.client.state (s.step .take).client.state ∧
      (s.step .take).client.state.memory.ids = s.client.state.memory.ids := by
  have hlink : (s.step .take).client.state.memory.link = s.client.session.link.take.2 := rfl
  refine ⟨⟨rfl, ?_, ?_, [], by simp, rfl⟩, rfl⟩
  · rw [hlink, Channel.take]
    split
    · rfl
    · rfl
  · rw [hlink, Channel.take]
    split
    · rfl
    · rfl

end Dialogue

end RemoteJobs
