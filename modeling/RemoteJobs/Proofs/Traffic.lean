import RemoteJobs.Proofs.Conduct
import RemoteJobs.Proofs.Inbox

/-!
# Calls of several threads

`Traffic` is a client together with all calls that have been made on it, one
for each thread that calls. An event is one atomic step of somebody: of a call
on its way to its request, of a call that looks at its slot, of the thread that
handles frames, or of whoever else closes the slots, changes the link or
registers an observer. A run is a list of events, in any order at all; a step
that a call cannot take changes nothing.

To disconnect takes three steps, `leave`, `link` and `close`, between which
others may come. The link changes as it likes, so a request may fail or be sent
whatever has happened before.

An observer that calls or disconnects does so inside the event of its frame;
`Drawn` follows what observers do and counts the ids drawn by them and by the
calls of the run, and if the observers are `Orderly` there always is such a
count. `Effect` says once what an event can do to the slots and to
the calls that hold one. All that is proved about runs is proved from it.
-/

namespace RemoteJobs

/-- The id that a call has drawn, until it is over. -/
def Call.id? : Call → Option PacketId
  | .begun _ _ => none
  | .numbered id _ _ => some id
  | .registered id _ _ => some id
  | .refused id _ _ => some id
  | .sent id => some id
  | .ended _ => none

/-- The id under which a call holds a slot: it has been given one, and has
neither come back from waiting nor taken the slot away because its request was
not sent. -/
def Call.slot? : Call → Option PacketId
  | .begun _ _ => none
  | .numbered _ _ _ => none
  | .registered id _ _ => some id
  | .refused id _ _ => some id
  | .sent id => some id
  | .ended _ => none

/-- A call and the id that it has drawn, which is known even when it is over. -/
structure Caller where
  call : Call
  id : Option PacketId := none

def Caller.go (a : Caller) (call : Call) : Caller := ⟨call, a.id.or call.id?⟩

structure Traffic (L N : Type) where
  client : Client L N
  callers : List Caller := []

namespace Traffic

variable {L N : Type}

inductive Event (L N : Type) where
  /-- A thread makes a call. -/
  | call (method : String) (params : Json)
  /-- The call at place `k` takes the next step towards its request. -/
  | advance (k : Nat)
  /-- The call at place `k` looks at its slot, its time being over or not. -/
  | look (k : Nat) (expired : Bool)
  | frame (bytes : Bytes)
  | observe (o : Observer (Desk (Session L N)))
  | link (f : L → L)
  /-- The client gives up its own side. -/
  | leave
  /-- The slots are closed. -/
  | close

/-- The reply to the call with this id that an event brings. -/
def Event.replyTo (id : PacketId) : Event L N → Option Reply
  | .frame bytes => Inbound.replyTo id bytes
  | _ => none

def slots (s : Traffic L N) : Slots := s.client.state.slots

def call? (s : Traffic L N) (k : Nat) : Option Call := s.callers[k]?.map (·.call)

/-- The id under which the call at place `k` holds a slot. -/
def slot? (s : Traffic L N) (k : Nat) : Option PacketId := (s.call? k).bind Call.slot?

variable [Link L]

def step (s : Traffic L N) : Event L N → Traffic L N
  | .call method params => { s with callers := s.callers ++ [⟨.begun method params, none⟩] }
  | .advance k =>
    match s.callers[k]? with
    | none => s
    | some a =>
      let (call, state, ns) := a.call.advance s.client.state
      { client := Scene.tell { s.client with state } ns, callers := s.callers.set k (a.go call) }
  | .look k expired =>
    match s.callers[k]? with
    | none => s
    | some a =>
      let (call, state) := a.call.look expired s.client.state
      { client := { s.client with state }, callers := s.callers.set k (a.go call) }
  | .frame bytes => { s with client := Inbox.handle s.client bytes }
  | .observe o => { s with client := s.client.observe o }
  | .link f => { s with client := s.client.withLink f }
  | .leave =>
    let memory := { s.client.session with connected := false }
    { s with client := { s.client with state := { s.client.state with memory } } }
  | .close => { s with client := Inbox.hangUp s.client }

def run (s : Traffic L N) (es : List (Event L N)) : Traffic L N := es.foldl step s

theorem run_snoc (s : Traffic L N) (es : List (Event L N)) (e : Event L N) :
    s.run (es ++ [e]) = (s.run es).step e := by
  rw [run, List.foldl_append]
  rfl

/-! ## Counting the ids -/

/-- An event draws `n` ids, and observers that it reaches keep to the uses of
the client. -/
def Draws (s : Traffic L N) : Event L N → Nat → Prop
  | .advance k, n =>
    match s.call? k with
    | some (.begun _ _) => n = if s.client.session.connected then 1 else 0
    | _ => n = 0
  | .frame bytes, n =>
    match Inbound.decode bytes with
    | .ok (.notification m) => Observer.Draw m s.client.observers s.client.state n
    | _ => n = 0
  | _, n => n = 0

/-- The events of a run draw `n` ids in all. -/
inductive Drawn (s : Traffic L N) : List (Event L N) → Nat → Prop where
  | nil : Drawn s [] 0
  | snoc {es : List (Event L N)} {e : Event L N} {n i : Nat} :
      Drawn s es n → (s.run es).Draws e i → Drawn s (es ++ [e]) (n + i)

/-- An event in front of a run. -/
theorem Drawn.cons {s : Traffic L N} {e : Event L N} {es : List (Event L N)} {i n : Nat}
    (he : s.Draws e i) (hes : Drawn (s.step e) es n) : Drawn s (e :: es) (i + n) := by
  induction hes with
  | nil =>
      have hd : Drawn s ([] ++ [e]) (0 + i) := .snoc .nil he
      rw [Nat.zero_add] at hd
      exact hd
  | snoc _ hj ih =>
      rw [← Nat.add_assoc]
      exact ih.snoc hj

/-- A part of a run up to some event draws no more ids. -/
theorem Drawn.take {s : Traffic L N} {es : List (Event L N)} {n : Nat} (h : Drawn s es n)
    (t : Nat) : ∃ m ≤ n, Drawn s (es.take t) m := by
  induction h with
  | nil => exact ⟨0, Nat.le_refl 0, by rw [List.take_nil]; exact .nil⟩
  | @snoc es e n i hes he ih =>
      by_cases ht : t ≤ es.length
      · obtain ⟨m, hm, hd⟩ := ih
        refine ⟨m, Nat.le_add_right_of_le hm, ?_⟩
        rw [List.take_append_of_le_length ht]
        exact hd
      · refine ⟨n + i, Nat.le_refl _, ?_⟩
        rw [List.take_of_length_le (by rw [List.length_append]; exact Nat.lt_of_not_le ht)]
        exact hes.snoc he

/-- No event brings in an observer that is not orderly. -/
def Event.Orderly : Event L N → Prop
  | .observe o => Observer.Orderly o
  | _ => True

/-- All observers are orderly. -/
def Orderly (s : Traffic L N) : Prop := ∀ o ∈ s.client.observers, Observer.Orderly o

theorem Orderly.exists_draws {s : Traffic L N} (h : s.Orderly) (e : Event L N) :
    ∃ i, s.Draws e i := by
  cases e with
  | advance k =>
      simp only [Draws]
      split
      · exact ⟨_, rfl⟩
      · exact ⟨0, rfl⟩
  | frame bytes =>
      simp only [Draws]
      split
      · exact Observer.Orderly.exists_draw h s.client.state
      · exact ⟨0, rfl⟩
  | _ => exact ⟨0, rfl⟩

theorem Orderly.step {s : Traffic L N} (h : s.Orderly) {e : Event L N} (he : e.Orderly) :
    (s.step e).Orderly := by
  cases e with
  | frame bytes =>
      intro o ho
      have ho : o ∈ (Inbox.handle s.client bytes).observers := ho
      cases hd : Inbound.decode bytes with
      | error m =>
          rw [Inbox.observers_handle_malformed hd] at ho
          exact h o ho
      | ok i =>
          cases i with
          | reply r =>
              rw [Inbox.observers_handle_reply hd] at ho
              exact h o ho
          | notification m =>
              rw [Inbox.observers_handle_notification hd] at ho
              rcases List.mem_append.mp ho with ho | ho
              · exact h o ho
              · obtain ⟨o', ho', d, hr⟩ := Observer.mem_registered ho
                exact (h o' ho' m d).registered o hr
  | observe o =>
      intro o' ho'
      rcases List.mem_append.mp ho' with ho' | ho'
      · exact h o' ho'
      · rw [List.mem_singleton.mp ho']
        exact he
  | advance k =>
      rw [Traffic.step]
      split
      · exact h
      · exact h
  | look k expired =>
      rw [Traffic.step]
      split
      · exact h
      · exact h
  | call method params => exact h
  | link f => exact h
  | leave => exact h
  | close => exact h

/-- A run in which all observers are orderly draws some number of ids. -/
theorem Orderly.exists_drawn {s : Traffic L N} (h : s.Orderly) {es : List (Event L N)}
    (hes : ∀ e ∈ es, e.Orderly) : ∃ n, Drawn s es n := by
  induction es generalizing s with
  | nil => exact ⟨0, .nil⟩
  | cons e es ih =>
      obtain ⟨i, hi⟩ := h.exists_draws e
      obtain ⟨n, hn⟩ := ih (h.step (hes e List.mem_cons_self))
        fun e' he' => hes e' (List.mem_cons_of_mem e he')
      exact ⟨i + n, .cons hi hn⟩

/-! ## What an event can do -/

/-- What an event does to the slots and to the calls that hold one. -/
inductive Effect (s : Traffic L N) (e : Event L N) (s' : Traffic L N) : Prop where
  /-- Nothing. -/
  | none : (∀ id, e.replyTo id = .none) → s'.slots = s.slots →
      (∀ k, s'.slot? k = s.slot? k) → Effect s e s'
  /-- A call is given its slot. -/
  | gain (k : Nat) (id : PacketId) : e = .advance k →
      (∃ method params, s.call? k = some (.numbered id method params) ∧
        s'.call? k = some (.registered id method params)) →
      s.slots.register id = .ok s'.slots → (∀ j, j ≠ k → s'.slot? j = s.slot? j) → Effect s e s'
  /-- A call leaves its slot. -/
  | lose (k : Nat) (id : PacketId) : (∀ id, e.replyTo id = .none) → s.slot? k = some id →
      s'.slot? k = .none → s'.slots = s.slots.erase id →
      (∀ j, j ≠ k → s'.slot? j = s.slot? j) → Effect s e s'
  /-- A reply comes. -/
  | reply (r : Reply) : (∀ id, e.replyTo id = r.to? id) → s'.slots = (s.slots.fill r).2 →
      (∀ k, s'.slot? k = s.slot? k) → Effect s e s'
  /-- The slots are closed. -/
  | closed : s'.slots.closed = true → s'.slots.entries = [] →
      (∀ k, s'.slot? k = s.slot? k) → Effect s e s'

end Traffic

/-- What a step of a call does to its own slot. -/
inductive Call.Turn (call : Call) (s : Slots) (call' : Call) (s' : Slots) : Prop where
  | keep : call'.slot? = call.slot? → s' = s → Turn call s call' s'
  | gain (id : PacketId) (method : String) (params : Json) : call = .numbered id method params →
      call' = .registered id method params → s.register id = .ok s' → Turn call s call' s'
  | lose (id : PacketId) : call.slot? = some id → call'.slot? = none → s' = s.erase id →
      Turn call s call' s'

namespace Call

variable {L N : Type}

theorem turn_advance [Link L] (call : Call) (d : Desk (Session L N)) :
    Turn call d.slots (call.advance d).1 (call.advance d).2.1.slots := by
  cases call with
  | begun method params =>
      rw [advance]
      split
      · exact .keep rfl rfl
      · exact .keep rfl rfl
  | numbered id method params =>
      rw [advance]
      split
      · next s h => exact .gain id method params rfl rfl h
      · exact .keep rfl rfl
  | registered id method params =>
      rw [advance]
      split
      · exact .keep rfl rfl
      · exact .keep rfl rfl
  | refused id method reason => exact .lose id rfl rfl rfl
  | sent id => exact .keep rfl rfl
  | ended result => exact .keep rfl rfl

theorem turn_look (call : Call) (expired : Bool) (d : Desk (Session L N)) :
    Turn call d.slots (call.look expired d).1 (call.look expired d).2.slots := by
  cases call with
  | sent id =>
      have hl := Slots.look_slots d.slots id expired
      rw [look]
      split
      · next h =>
          rw [h] at hl
          exact .lose id rfl rfl hl
      · next h =>
          rw [h] at hl
          exact .lose id rfl rfl hl
      · next h =>
          rw [h] at hl
          exact .keep rfl hl
  | begun _ _ => exact .keep rfl rfl
  | numbered _ _ _ => exact .keep rfl rfl
  | registered _ _ _ => exact .keep rfl rfl
  | refused _ _ _ => exact .keep rfl rfl
  | ended _ => exact .keep rfl rfl

end Call

namespace Traffic

variable {L N : Type}

theorem call?_of_getElem? {s : Traffic L N} {k : Nat} {a : Caller}
    (h : s.callers[k]? = some a) : s.call? k = some a.call := by
  rw [call?, h]
  rfl

theorem slot?_of_getElem? {s : Traffic L N} {k : Nat} {a : Caller}
    (h : s.callers[k]? = some a) : s.slot? k = a.call.slot? := by
  rw [slot?, call?_of_getElem? h]
  rfl

theorem getElem?_set_caller {cs : List Caller} {k : Nat} {a : Caller} (h : cs[k]? = some a)
    (b : Caller) (j : Nat) : (cs.set k b)[j]? = if j = k then some b else cs[j]? := by
  have hk : k < cs.length := (List.getElem?_eq_some_iff.mp h).1
  rw [List.getElem?_set]
  by_cases hj : k = j
  · rw [if_pos hj, if_pos hk, if_pos hj.symm]
  · rw [if_neg hj, if_neg (Ne.symm hj)]

theorem step_advance [Link L] {s : Traffic L N} {k : Nat} {call : Call} (h : s.call? k = some call) :
    (s.step (.advance k)).call? k = some (call.advance s.client.state).1 ∧
      (s.step (.advance k)).client.state = (call.advance s.client.state).2.1 := by
  rw [call?, Option.map_eq_some_iff] at h
  obtain ⟨a, ha, rfl⟩ := h
  rw [step, ha]
  refine ⟨?_, rfl⟩
  rw [call?, getElem?_set_caller ha, if_pos rfl]
  rfl

/-- What an event does to the calls: nothing, it adds one, or one of them takes
its next step. -/
theorem callers_step [Link L] (s : Traffic L N) (e : Event L N) :
    (s.step e).callers = s.callers ∨
      (∃ method params, (s.step e).callers = s.callers ++ [⟨.begun method params, none⟩]) ∨
      ∃ k a call, s.callers[k]? = some a ∧ (s.step e).callers = s.callers.set k (a.go call) ∧
        (call = (a.call.advance s.client.state).1 ∨
          ∃ expired, call = (a.call.look expired s.client.state).1) := by
  cases e with
  | call method params => exact .inr (.inl ⟨method, params, rfl⟩)
  | advance k =>
      rw [step]
      split
      · exact .inl rfl
      · next a ha => exact .inr (.inr ⟨k, a, _, ha, rfl, .inl rfl⟩)
  | look k expired =>
      rw [step]
      split
      · exact .inl rfl
      · next a ha => exact .inr (.inr ⟨k, a, _, ha, rfl, .inr ⟨expired, rfl⟩⟩)
  | frame bytes => exact .inl rfl
  | observe o => exact .inl rfl
  | link f => exact .inl rfl
  | leave => exact .inl rfl
  | close => exact .inl rfl

theorem slot?_begin (s : Traffic L N) (method : String) (params : Json) (k : Nat) :
    slot? { s with callers := s.callers ++ [⟨.begun method params, none⟩] } k = s.slot? k := by
  rw [slot?, call?, slot?, call?, List.getElem?_append]
  split
  · rfl
  · next hk =>
      rw [List.getElem?_eq_none (Nat.le_of_not_lt hk)]
      cases h : [Caller.mk (.begun method params) none][k - s.callers.length]? with
      | none => rfl
      | some a =>
          rw [List.mem_singleton.mp (List.mem_of_getElem? h)]
          rfl

/-- The turn of one call is its effect on the traffic. -/
theorem effect_of_turn {s s' : Traffic L N} {e : Event L N} {k : Nat} {a : Caller} {call : Call}
    (ha : s.callers[k]? = some a) (ht : a.call.Turn s.slots call s'.slots)
    (hs : s'.callers = s.callers.set k (a.go call)) (hr : ∀ id, e.replyTo id = none)
    (he : ∀ id method params, call = .registered id method params →
      a.call = .numbered id method params → e = .advance k) : Effect s e s' := by
  have hk : s'.callers[k]? = some (a.go call) := by
    rw [hs, getElem?_set_caller ha, if_pos rfl]
  have hsk : s'.slot? k = call.slot? := slot?_of_getElem? hk
  have hj : ∀ j, j ≠ k → s'.slot? j = s.slot? j := by
    intro j hj
    rw [slot?, call?, hs, getElem?_set_caller ha, if_neg hj]
    rfl
  cases ht with
  | keep hslot hslots =>
      refine .none hr hslots fun j => ?_
      by_cases hjk : j = k
      · rw [hjk, hsk, hslot, slot?_of_getElem? ha]
      · exact hj j hjk
  | gain id method params hc hc' hreg =>
      refine .gain k id (he id method params hc' hc) ⟨method, params, ?_, ?_⟩ hreg hj
      · rw [call?_of_getElem? ha, hc]
      · rw [call?_of_getElem? hk, ← hc']
        rfl
  | lose id hc hc' hslots =>
      refine .lose k id hr ?_ ?_ hslots hj
      · rw [slot?_of_getElem? ha, hc]
      · rw [hsk, hc']

theorem effect_of_sameOrClosed {s s' : Traffic L N} {e : Event L N}
    (hr : ∀ id, e.replyTo id = none) (hs : s.slots.SameOrClosed s'.slots)
    (hc : s'.callers = s.callers) : Effect s e s' := by
  have hk : ∀ k, s'.slot? k = s.slot? k := fun k => by rw [slot?, call?, hc]; rfl
  rcases hs with hs | ⟨hcl, he⟩
  · exact .none hr hs hk
  · exact .closed hcl he hk

theorem effect_frame [Link L] {s : Traffic L N} {bytes : Bytes} {i : Nat}
    (hd : s.Draws (.frame bytes) i) : Effect s (.frame bytes) (s.step (.frame bytes)) := by
  have hslots : (s.step (.frame bytes)).slots = (Inbox.handle s.client bytes).state.slots := rfl
  cases h : Inbound.decode bytes with
  | error m =>
      refine .none (fun id => by rw [Event.replyTo, Inbound.replyTo, h]) ?_ fun _ => rfl
      rw [hslots, Inbox.state_handle_malformed h]
      rfl
  | ok inbound =>
      cases inbound with
      | reply r =>
          refine .reply r (fun id => by rw [Event.replyTo, Inbound.replyTo, h]) ?_ fun _ => rfl
          rw [hslots, Inbox.state_handle_reply h]
          rfl
      | notification m =>
          refine effect_of_sameOrClosed (fun id => by rw [Event.replyTo, Inbound.replyTo, h]) ?_ rfl
          rw [hslots, Inbox.state_handle_notification h]
          simp only [Draws, h] at hd
          exact hd.slots

theorem effect_step [Link L] {s : Traffic L N} {e : Event L N} {i : Nat} (hd : s.Draws e i) :
    Effect s e (s.step e) := by
  cases e with
  | call method params =>
      exact .none (fun _ => rfl) rfl (slot?_begin s method params)
  | advance k =>
      cases ha : s.callers[k]? with
      | none =>
          rw [step, ha]
          exact .none (fun _ => rfl) rfl fun _ => rfl
      | some a =>
          rw [step, ha]
          exact effect_of_turn ha (a.call.turn_advance s.client.state) rfl (fun _ => rfl)
            fun _ _ _ _ _ => rfl
  | look k expired =>
      cases ha : s.callers[k]? with
      | none =>
          rw [step, ha]
          exact .none (fun _ => rfl) rfl fun _ => rfl
      | some a =>
          rw [step, ha]
          refine effect_of_turn ha (a.call.turn_look expired s.client.state) rfl (fun _ => rfl) ?_
          intro id method params hc hn
          rw [hn] at hc
          exact absurd hc (by simp [Call.look])
  | frame bytes => exact effect_frame hd
  | observe o => exact .none (fun _ => rfl) rfl fun _ => rfl
  | link f => exact .none (fun _ => rfl) rfl fun _ => rfl
  | leave => exact .none (fun _ => rfl) rfl fun _ => rfl
  | close => exact effect_of_sameOrClosed (fun _ => rfl) (Slots.close_slots s.slots) rfl

end Traffic

end RemoteJobs
