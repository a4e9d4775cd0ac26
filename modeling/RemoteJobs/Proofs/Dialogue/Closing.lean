import RemoteJobs.Client.Order
import RemoteJobs.Proofs.Dialogue.Requests

/-!
# The end of a channel is final

A client on a channel in memory keeps three marks: whether it has disconnected,
whether the channel is closed and whether its slots are. They are not set by the
same acts. What a dialogue can show is nevertheless one of two things. The
channel is `Open`, and no mark is set; or it is `Gone`: it is closed and has
lost its sink, and the slots are closed and empty. Whether the client itself has
disconnected makes no difference any more.

A change leads from the first state to the second, and then the client is told
of it, once; none leads back. In the second state nothing is sent and nobody is
told again.
-/

namespace RemoteJobs

namespace Session

variable {N : Type} {d e : Desk (Session (Channel Unit) N)} {calls : List CallRecord} {told : Nat}

/-- The channel is open and the client listens to it. -/
structure Open (d : Desk (Session (Channel Unit) N)) : Prop where
  connected : d.memory.connected = true
  link : d.memory.link.closed = false
  sink : d.memory.link.sink = some ()
  slots : d.slots.closed = false
  sound : d.slots.Sound

/-- The channel has been shut, from whichever side. -/
structure Gone (d : Desk (Session (Channel Unit) N)) : Prop where
  link : d.memory.link.closed = true
  sink : d.memory.link.sink = none
  slots : d.slots.closed = true
  sound : d.slots.Sound

theorem Open.tellings (h : Open d) : d.memory.link.tellings = 1 := by
  rw [Channel.tellings, Channel.shut, if_neg (ne_true_of_eq_false h.link), h.sink]
  rfl

theorem Gone.shut (h : Gone d) : d.memory.link.shut = (none, d.memory.link) := by
  rw [Channel.shut, if_pos h.link]

theorem Gone.tellings (h : Gone d) : d.memory.link.tellings = 0 := by
  rw [Channel.tellings, h.shut]
  rfl

theorem Stands.closed_slots (h : Stands d e) : e.slots.closed = d.slots.closed := by
  obtain ⟨acts, hacts, hslots⟩ := h.slots
  rw [hslots, Bool.eq_iff_iff, Slots.closed_run]
  exact ⟨fun hc => hc.resolve_right hacts, .inl⟩

theorem Stands.sound (h : Stands d e) (hd : d.slots.Sound) : e.slots.Sound := by
  obtain ⟨acts, -, hslots⟩ := h.slots
  rw [hslots]
  exact hd.run acts

theorem Open.stands (h : Open d) (hs : Stands d e) : Open e where
  connected := hs.connected.trans h.connected
  link := hs.closed.trans h.link
  sink := hs.sink.trans h.sink
  slots := hs.closed_slots.trans h.slots
  sound := hs.sound h.sound

theorem Gone.stands (h : Gone d) (hs : Stands d e) : Gone e where
  link := hs.closed.trans h.link
  sink := hs.sink.trans h.sink
  slots := hs.closed_slots.trans h.slots
  sound := hs.sound h.sound

/-! ## Changes -/

theorem Open.change (h : Open d) (hc : Change d calls told e) :
    told = 0 ∧ Open e ∨ told = 1 ∧ Gone e := by
  cases hc with
  | quiet hs _ _ => exact .inl ⟨rfl, h.stands hs⟩
  | refused _ _ hs _ _ => exact .inl ⟨rfl, h.stands hs⟩
  | sent _ _ hs _ _ _ => exact .inl ⟨rfl, h.stands hs⟩
  | shut hlink _ _ hslots =>
      have hshut : d.memory.link.shut.2 = { d.memory.link with closed := true, sink := none } := by
        rw [Channel.shut, if_neg (ne_true_of_eq_false h.link)]
      rcases hslots with hslots | ⟨htold, -⟩
      · have hrun : e.slots = d.slots.run [.close] := hslots
        refine .inr ⟨h.tellings, ?_, ?_, ?_, ?_⟩
        · rw [hlink, hshut]
        · rw [hlink, hshut]
        · rw [hslots, Slots.closed_close]
        · rw [hrun]
          exact h.sound.run _
      · rw [h.tellings] at htold
        cases htold

theorem Gone.change (h : Gone d) (hc : Change d calls told e) :
    told = 0 ∧ Gone e ∧ ∀ r ∈ calls, r.sent = false := by
  cases hc with
  | quiet hs _ _ => exact ⟨rfl, h.stands hs, by simp⟩
  | refused _ _ hs _ _ => exact ⟨rfl, h.stands hs, by simp⟩
  | sent _ _ _ hopen _ _ =>
      rw [h.link] at hopen
      cases hopen
  | shut hlink _ _ hslots =>
      have hsame : e.slots = d.slots := by
        rcases hslots with hslots | ⟨-, hslots⟩
        · rw [hslots, Slots.close_of_closed h.slots]
        · exact hslots
      rw [h.shut] at hlink
      exact ⟨h.tellings, ⟨by rw [hlink, h.link], by rw [hlink, h.sink], by rw [hsame, h.slots],
        by rw [hsame]; exact h.sound⟩, by simp⟩

theorem Gone.changes (hc : Changes d calls told e) (h : Gone d) :
    told = 0 ∧ Gone e ∧ ∀ r ∈ calls, r.sent = false := by
  induction hc with
  | one hc => exact h.change hc
  | trans _ _ ih ih' =>
      obtain ⟨rfl, hmid, hcalls⟩ := ih h
      obtain ⟨rfl, hend, hcalls'⟩ := ih' hmid
      refine ⟨rfl, hend, fun r hr => ?_⟩
      rcases List.mem_append.mp hr with hr | hr
      · exact hcalls r hr
      · exact hcalls' r hr

theorem Open.changes (hc : Changes d calls told e) (h : Open d) :
    told = 0 ∧ Open e ∨ told = 1 ∧ Gone e := by
  induction hc with
  | one hc => exact h.change hc
  | trans _ hrest ih ih' =>
      rcases ih h with ⟨rfl, hmid⟩ | ⟨rfl, hmid⟩
      · rw [Nat.zero_add]
        exact ih' hmid
      · obtain ⟨rfl, hend, -⟩ := hmid.changes hrest
        exact .inr ⟨rfl, hend⟩

/-- Nothing connects a client again. -/
theorem Changes.connected (hc : Changes d calls told e) (h : e.memory.connected = true) :
    d.memory.connected = true := by
  induction hc with
  | one hc =>
      cases hc with
      | quiet hs _ _ => exact hs.connected.symm.trans h
      | refused _ _ hs _ _ => exact hs.connected.symm.trans h
      | sent _ _ hs _ _ _ => exact hs.connected.symm.trans h
      | shut _ _ hconnected _ => exact hconnected h
  | trans _ _ ih ih' => exact ih (ih' h)

end Session

/-! ## Clients whose channel is gone -/

namespace Client

variable {N : Type} {c : Client (Channel Unit) N}

end Client

/-! ## Moves and runs -/

namespace Dialogue

variable {N : Type} {s : Dialogue N} {m : Move N} {ms : List (Move N)} {calls : List CallRecord}
  {told : Nat}

/-- The move shuts the channel, if it is still open. -/
def Move.shuts : Move N → Bool
  | .disconnect => true
  | .hangUp => true
  | _ => false

theorem gone_step (h : Session.Gone s.client.state) (ha : s.Account calls told m) :
    told = 0 ∧ Session.Gone (s.step m).client.state ∧ ∀ r ∈ calls, r.sent = false := by
  by_cases hm : m = .take
  · subst hm
    obtain ⟨rfl, rfl⟩ := ha
    exact ⟨rfl, h.stands (stands_step_take s).1, by simp⟩
  · exact h.changes (changes_step ha hm).1

theorem connected_step (ha : s.Account calls told m)
    (h : (s.step m).client.session.connected = true) :
    s.client.session.connected = true ∧ m ≠ .disconnect := by
  by_cases hm : m = .take
  · subst hm
    exact ⟨(stands_step_take s).1.connected.symm.trans h, nofun⟩
  · refine ⟨(changes_step ha hm).1.connected h, ?_⟩
    intro hd
    subst hd
    have hsame : (s.step .disconnect).client.state = Session.disconnect s.client.state := rfl
    rw [Client.session, hsame, Session.disconnect] at h
    split at h
    · cases h
    · next hc => exact hc h

theorem Accounts.gone (ha : s.Accounts ms calls told) (h : Session.Gone s.client.state) :
    told = 0 ∧ Session.Gone (s.run ms).client.state ∧ ∀ r ∈ calls, r.sent = false := by
  induction ha with
  | nil => exact ⟨rfl, h, by simp⟩
  | snoc _ hm ih =>
      obtain ⟨rfl, hmid, hcalls⟩ := ih
      obtain ⟨rfl, hend, hcalls'⟩ := gone_step hmid hm
      rw [run_snoc]
      refine ⟨rfl, hend, fun r hr => ?_⟩
      rcases List.mem_append.mp hr with hr | hr
      · exact hcalls r hr
      · exact hcalls' r hr

theorem Accounts.connected (ha : s.Accounts ms calls told)
    (h : (s.run ms).client.session.connected = true) : .disconnect ∉ ms := by
  induction ha with
  | nil => exact List.not_mem_nil
  | snoc _ hm ih =>
      rw [run_snoc] at h
      obtain ⟨hmid, hne⟩ := connected_step hm h
      intro hd
      rcases List.mem_append.mp hd with hd | hd
      · exact ih hmid hd
      · exact hne (List.mem_singleton.mp hd).symm

variable {plan : Plan} {directory : String} {notes : N} {c : Client (Channel Unit) N}

end Dialogue

end RemoteJobs
