import RemoteJobs.Proofs.Traffic

/-!
# The slots are those of the calls that wait

Two invariants of a run carry the result. `Numbered` is about ids: the calls
have drawn different ones, none of them is still to come, and a call that is
not over goes by the id that it has drawn. `Held` is about slots: in an open
table the ids with a slot are those of the calls that hold one, and a closed
table has none.

The first is kept because ids are drawn in their order and the last one is
never drawn. The second is then read off `Effect`: a call that leaves its slot
takes away nobody else's, since no other call has its id.
-/

namespace RemoteJobs

namespace Client

variable {L N : Type} {plan : Plan} {directory : String} {notes : N}
  {reach : Settings → Endpoint → Except Failure L} {c : Client L N}

/-- A client that has been opened has no slots and no observers and has drawn no
ids; its link has just been made. -/
theorem state_of_connect (h : connect plan directory notes reach = .ok c) :
    c.state.slots = .empty plan.settings.maxPending ∧ c.session.ids = .fresh ∧
      c.session.connected = true ∧ c.observers = [] ∧
      ∃ endpoint, reach plan.settings endpoint = .ok c.session.link := by
  rw [connect] at h
  cases hp : plan.resolve directory with
  | error e =>
      rw [hp] at h
      cases h
  | ok endpoint =>
      cases hr : reach plan.settings endpoint with
      | error e =>
          rw [hp] at h
          simp only [bind, Except.bind, hr] at h
          cases h
      | ok link =>
          rw [hp] at h
          simp only [bind, Except.bind, hr] at h
          cases h
          exact ⟨rfl, rfl, rfl, rfl, endpoint, hr⟩

end Client

namespace Call

theorem id?_of_slot? {call : Call} {id : PacketId} (h : call.slot? = some id) :
    call.id? = some id := by
  cases call with
  | registered _ _ _ => exact h
  | refused _ _ _ => exact h
  | sent _ => exact h
  | _ => cases h

theorem result?_of_id? {call : Call} {id : PacketId} (h : call.id? = some id) :
    call.result? = none := by
  cases call with
  | ended _ => cases h
  | _ => rfl

variable {L N : Type}

/-- Only a call that begins on a connected client draws an id. -/
theorem id?_advance [Link L] {call : Call} {d : Desk (Session L N)}
    (h : ∀ method params, call = .begun method params → d.memory.connected = false) :
    (call.advance d).2.1.memory.ids = d.memory.ids ∧
      ((call.advance d).1.result?.isSome ∨
        call.result? = none ∧ (call.advance d).1.id? = call.id?) := by
  cases call with
  | begun method params =>
      simp only [advance, h method params rfl]
      exact ⟨rfl, .inl rfl⟩
  | numbered id method params =>
      rw [advance]
      split
      · exact ⟨rfl, .inr ⟨rfl, rfl⟩⟩
      · exact ⟨rfl, .inl rfl⟩
  | registered id method params =>
      rw [advance]
      split
      · exact ⟨rfl, .inr ⟨rfl, rfl⟩⟩
      · exact ⟨rfl, .inr ⟨rfl, rfl⟩⟩
  | refused id method reason => exact ⟨rfl, .inl rfl⟩
  | sent id => exact ⟨rfl, .inr ⟨rfl, rfl⟩⟩
  | ended result => exact ⟨rfl, .inl rfl⟩

theorem id?_look (call : Call) (expired : Bool) (d : Desk (Session L N)) :
    (call.look expired d).2.memory.ids = d.memory.ids ∧
      ((call.look expired d).1.result?.isSome ∨
        call.result? = none ∧ (call.look expired d).1.id? = call.id?) := by
  cases call with
  | sent id =>
      rw [look]
      split
      · exact ⟨rfl, .inl rfl⟩
      · exact ⟨rfl, .inl rfl⟩
      · exact ⟨rfl, .inr ⟨rfl, rfl⟩⟩
  | begun _ _ => exact ⟨rfl, .inr ⟨rfl, rfl⟩⟩
  | numbered _ _ _ => exact ⟨rfl, .inr ⟨rfl, rfl⟩⟩
  | registered _ _ _ => exact ⟨rfl, .inr ⟨rfl, rfl⟩⟩
  | refused _ _ _ => exact ⟨rfl, .inr ⟨rfl, rfl⟩⟩
  | ended _ => exact ⟨rfl, .inl rfl⟩

end Call

namespace Traffic

variable {L N : Type}

/-- The id that the call at place `k` has drawn. -/
def id? (s : Traffic L N) (k : Nat) : Option PacketId := s.callers[k]?.bind (·.id)

theorem id?_of_getElem? {s : Traffic L N} {k : Nat} {a : Caller} (h : s.callers[k]? = some a) :
    s.id? k = a.id := by
  rw [id?, h]
  rfl

/-- A call that is not over goes by the id that it has drawn. -/
def Own (s : Traffic L N) : Prop :=
  ∀ {k : Nat} {a : Caller}, s.callers[k]? = some a → a.call.result? = none → a.id = a.call.id?

theorem Own.id?_of_call? {s : Traffic L N} (h : Own s) {k : Nat} {call : Call} {id : PacketId}
    (hk : s.call? k = some call) (hid : call.id? = some id) : s.id? k = some id := by
  rw [call?, Option.map_eq_some_iff] at hk
  obtain ⟨a, ha, rfl⟩ := hk
  rw [id?_of_getElem? ha, h ha (Call.result?_of_id? hid), hid]

/-! ## The ids of the calls -/

structure Numbered (n : Nat) (s : Traffic L N) : Prop where
  upcoming : s.client.state.memory.ids.upcoming.number = n + 1
  drawn : ∀ {k : Nat} {id : PacketId}, s.id? k = some id → id.number ≤ n
  distinct : ∀ {j k : Nat} {id : PacketId}, s.id? j = some id → s.id? k = some id → j = k
  own : ∀ {k : Nat} {a : Caller}, s.callers[k]? = some a → a.call.result? = none →
    a.id = a.call.id?

theorem Numbered.id?_of_call? {n : Nat} {s : Traffic L N} (h : Numbered n s) {k : Nat}
    {call : Call} {id : PacketId} (hk : s.call? k = some call) (hid : call.id? = some id) :
    s.id? k = some id := Own.id?_of_call? h.own hk hid

theorem Numbered.id?_of_slot? {n : Nat} {s : Traffic L N} (h : Numbered n s) {k : Nat}
    {id : PacketId} (hs : s.slot? k = some id) : s.id? k = some id := by
  rw [slot?, Option.bind_eq_some_iff] at hs
  obtain ⟨call, hk, hslot⟩ := hs
  exact h.id?_of_call? hk (Call.id?_of_slot? hslot)

theorem Numbered.eq_of_slot? {n : Nat} {s : Traffic L N} (h : Numbered n s) {j k : Nat}
    {id : PacketId} (hj : s.slot? j = some id) (hk : s.slot? k = some id) : j = k :=
  h.distinct (h.id?_of_slot? hj) (h.id?_of_slot? hk)

/-- What an event does to the calls' ids if it draws none for a call of the
run: a call is new, or it keeps its id. -/
theorem Numbered.keep {n i : Nat} {s s' : Traffic L N} (h : Numbered n s)
    (hu : s'.client.state.memory.ids.upcoming.number = n + i + 1)
    (hc : ∀ k b, s'.callers[k]? = some b →
      (b.id = s.id? k) ∧ (b.call.result? = none → b.id = b.call.id?)) : Numbered (n + i) s' := by
  have hid : ∀ {k : Nat} {id : PacketId}, s'.id? k = some id → s.id? k = some id := by
    intro k id hk
    cases hb : s'.callers[k]? with
    | none =>
        rw [id?, hb] at hk
        cases hk
    | some b =>
        rw [id?_of_getElem? hb] at hk
        rw [← (hc k b hb).1, hk]
  exact
    { upcoming := hu
      drawn := fun hk => Nat.le_add_right_of_le (h.drawn (hid hk))
      distinct := fun hj hk => h.distinct (hid hj) (hid hk)
      own := fun hb => (hc _ _ hb).2 }

theorem Numbered.keep_callers {n i : Nat} {s s' : Traffic L N} (h : Numbered n s)
    (hu : s'.client.state.memory.ids.upcoming.number = n + i + 1)
    (hc : s'.callers = s.callers) : Numbered (n + i) s' :=
  h.keep hu fun k b hb => by
    rw [hc] at hb
    exact ⟨(id?_of_getElem? hb).symm, h.own hb⟩

/-- A turn of a call that draws no id. -/
theorem Numbered.keep_turn {n : Nat} {s s' : Traffic L N} (h : Numbered n s) {k : Nat}
    {a : Caller} {call : Call} (ha : s.callers[k]? = some a)
    (hu : s'.client.state.memory.ids = s.client.state.memory.ids)
    (hc : s'.callers = s.callers.set k (a.go call))
    (ht : call.result?.isSome ∨ a.call.result? = none ∧ call.id? = a.call.id?) :
    Numbered n s' := by
  have hgo : (a.go call).id = a.id ∧
      ((a.go call).call.result? = none → (a.go call).id = (a.go call).call.id?) := by
    rcases ht with ht | ⟨hres, hid⟩
    · cases call with
      | ended result =>
          refine ⟨?_, fun hn => by cases hn⟩
          rw [Caller.go, Call.id?, Option.or_none]
      | _ => cases ht
    · have ho := h.own ha hres
      rw [Caller.go, hid, ho, Option.or_self]
      exact ⟨rfl, fun _ => hid ▸ rfl⟩
  refine h.keep (i := 0) (by rw [hu]; exact h.upcoming) fun j b hb => ?_
  rw [hc, getElem?_set_caller ha] at hb
  split at hb
  · next hj =>
      injection hb with hb
      rw [← hb, hj, id?_of_getElem? ha]
      exact hgo
  · exact ⟨(id?_of_getElem? hb).symm, h.own hb⟩

/-- A call of the run draws the next id. -/
theorem Numbered.draw {n : Nat} {s s' : Traffic L N} (h : Numbered n s) {k : Nat} {a : Caller}
    {method : String} {params : Json} (ha : s.callers[k]? = some a)
    (hb : a.call = .begun method params) (hn : n + 1 < 18446744073709551615)
    (hu : s'.client.state.memory.ids = s.client.state.memory.ids.draw.2)
    (hc : s'.callers = s.callers.set k
      (a.go (.numbered s.client.state.memory.ids.upcoming method params))) :
    Numbered (n + 1) s' := by
  have hnone : a.id = none := by rw [h.own ha (by rw [hb]; rfl), hb]; rfl
  have hid : ∀ j, s'.id? j =
      if j = k then some s.client.state.memory.ids.upcoming else s.id? j := by
    intro j
    rw [id?, hc, getElem?_set_caller ha]
    split
    · rw [Option.bind_some, Caller.go, hnone]
      rfl
    · rfl
  have hnew : ∀ j, s.id? j ≠ some s.client.state.memory.ids.upcoming := by
    intro j hj
    have hle := h.drawn hj
    rw [h.upcoming] at hle
    omega
  refine ⟨by rw [hu]; exact Session.number_draw h.upcoming hn, ?_, ?_, ?_⟩
  · intro j id hj
    rw [hid] at hj
    split at hj
    · injection hj with hj
      have hnum : id.number = n + 1 := by rw [← hj, h.upcoming]
      exact Nat.le_of_eq hnum
    · exact Nat.le_succ_of_le (h.drawn hj)
  · intro i j id hi hj
    rw [hid] at hi hj
    split at hi
    · next hik =>
        split at hj
        · next hjk => rw [hik, hjk]
        · exact absurd (hi ▸ hj) (hnew j)
    · split at hj
      · exact absurd (hj ▸ hi) (hnew i)
      · exact h.distinct hi hj
  · intro j b hj
    rw [hc, getElem?_set_caller ha] at hj
    split at hj
    · injection hj with hj
      rw [← hj, Caller.go, hnone]
      exact fun _ => rfl
    · exact h.own hj

theorem Numbered.advance [Link L] {n i : Nat} {s : Traffic L N} (h : Numbered n s) {k : Nat}
    (hd : s.Draws (.advance k) i) (hn : n + i < 18446744073709551615) :
    Numbered (n + i) (s.step (.advance k)) := by
  cases ha : s.callers[k]? with
  | none =>
      simp only [Draws, call?, ha] at hd
      rw [step, ha, show i = 0 from hd]
      exact h
  | some a =>
      simp only [Draws, call?_of_getElem? ha] at hd
      rw [step, ha]
      by_cases hb : (∃ method params, a.call = .begun method params) ∧
          s.client.state.memory.connected = true
      · obtain ⟨⟨method, params, hcall⟩, hcon⟩ := hb
        rw [hcall] at hd
        have hi : i = 1 := by simpa [Client.session, hcon] using hd
        subst hi
        exact h.draw ha hcall hn (by simp [hcall, Call.advance, hcon, Scene.tell])
          (by simp [hcall, Call.advance, hcon, IdSupply.draw])
      · have hq : ∀ method params, a.call = .begun method params →
            s.client.state.memory.connected = false := by
          intro method params hcall
          rw [← Bool.not_eq_true]
          exact fun hcon => hb ⟨⟨method, params, hcall⟩, hcon⟩
        have hi : i = 0 := by
          split at hd
          · next method params hcall =>
              injection hcall with hcall
              simpa [Client.session, hq method params hcall] using hd
          · exact hd
        obtain ⟨hids, hturn⟩ := Call.id?_advance hq
        subst hi
        exact h.keep_turn ha hids rfl hturn

theorem Numbered.step [Link L] {n i : Nat} {s : Traffic L N} {e : Event L N} (h : Numbered n s)
    (hd : s.Draws e i) (hn : n + i < 18446744073709551615) : Numbered (n + i) (s.step e) := by
  cases e with
  | advance k => exact h.advance hd hn
  | frame bytes =>
      refine h.keep_callers ?_ rfl
      show (Inbox.handle s.client bytes).state.memory.ids.upcoming.number = n + i + 1
      cases hdec : Inbound.decode bytes with
      | error m =>
          simp only [Draws, hdec] at hd
          rw [Inbox.state_handle_malformed hdec, hd]
          exact h.upcoming
      | ok inbound =>
          cases inbound with
          | reply r =>
              simp only [Draws, hdec] at hd
              rw [Inbox.state_handle_reply hdec, hd]
              exact h.upcoming
          | notification m =>
              simp only [Draws, hdec] at hd
              rw [Inbox.state_handle_notification hdec]
              exact hd.upcoming h.upcoming hn
  | look k expired =>
      cases hd
      cases ha : s.callers[k]? with
      | none =>
          rw [Traffic.step, ha]
          exact h
      | some a =>
          rw [Traffic.step, ha]
          obtain ⟨hids, hturn⟩ := Call.id?_look a.call expired s.client.state
          exact h.keep_turn ha hids rfl hturn
  | call method params =>
      cases hd
      refine h.keep h.upcoming fun k b hb => ?_
      rw [Traffic.step, List.getElem?_append] at hb
      split at hb
      · exact ⟨(id?_of_getElem? hb).symm, h.own hb⟩
      · next hk =>
          rw [List.mem_singleton.mp (List.mem_of_getElem? hb), id?,
            List.getElem?_eq_none (Nat.le_of_not_lt hk)]
          exact ⟨rfl, fun _ => rfl⟩
  | observe o =>
      cases hd
      exact h.keep_callers h.upcoming rfl
  | link f =>
      cases hd
      exact h.keep_callers h.upcoming rfl
  | leave =>
      cases hd
      exact h.keep_callers h.upcoming rfl
  | close =>
      cases hd
      exact h.keep_callers h.upcoming rfl

/-! ## The slots of the calls -/

structure Held (s : Traffic L N) : Prop where
  emptied : s.slots.Emptied
  nodup : s.slots.ids.Nodup
  holders : s.slots.closed = false → ∀ id, id ∈ s.slots.ids ↔ ∃ k, s.slot? k = some id

theorem Held.step {n : Nat} {s s' : Traffic L N} {e : Event L N} (hn : Numbered n s)
    (h : Held s) (he : Effect s e s') : Held s' := by
  cases he with
  | none _ hs hk =>
      refine ⟨by rw [hs]; exact h.emptied, by rw [hs]; exact h.nodup, ?_⟩
      intro hc id
      rw [hs] at hc ⊢
      simp only [hk]
      exact h.holders hc id
  | gain k i _ hcall hreg hj =>
      obtain ⟨method, params, hk, hk'⟩ := hcall
      have hnone : s.slot? k = none := by rw [slot?, hk]; rfl
      have hsome : s'.slot? k = some i := by rw [slot?, hk']; rfl
      obtain ⟨hopen, -, hfree, hs'⟩ := Slots.register_ok hreg
      have hids : s'.slots.ids = s.slots.ids ++ [i] := by simp [hs', Slots.ids]
      refine ⟨fun hc => ?_, ?_, fun _ id => ?_⟩
      · rw [Slots.closed_register hreg] at hc
        cases hc
      · rw [hids, List.nodup_append]
        refine ⟨h.nodup, by simp, fun a ha b hb => ?_⟩
        rw [List.mem_singleton.mp hb]
        intro he
        subst he
        exact Slots.find?_eq_none_iff.mp hfree ha
      · rw [hids, List.mem_append, List.mem_singleton, h.holders hopen]
        constructor
        · intro hor
          rcases hor with ⟨j, hjs⟩ | rfl
          · have hne : j ≠ k := by
              intro he
              subst he
              rw [hnone] at hjs
              cases hjs
            exact ⟨j, by rw [hj j hne, hjs]⟩
          · exact ⟨k, hsome⟩
        · intro hex
          obtain ⟨j, hjs⟩ := hex
          by_cases hjk : j = k
          · rw [hjk, hsome] at hjs
            injection hjs with hjs
            exact .inr hjs.symm
          · rw [hj j hjk] at hjs
            exact .inl ⟨j, hjs⟩
  | lose k i _ hk hk' hs hj =>
      refine ⟨fun hc => ?_, ?_, fun hc id => ?_⟩
      · rw [hs] at hc ⊢
        rw [Slots.erase, h.emptied hc]
        rfl
      · rw [hs]
        exact h.nodup.sublist (List.Sublist.map _ List.filter_sublist)
      · rw [hs] at hc
        rw [hs, Slots.mem_ids_iff, Slots.find?_erase]
        constructor
        · intro hid
          split at hid
          · cases hid
          · next hne =>
              obtain ⟨j, hjs⟩ := (h.holders hc id).mp (Slots.mem_ids_iff.mpr hid)
              have hjk : j ≠ k := by
                intro he
                subst he
                rw [hk] at hjs
                injection hjs with hjs
                exact hne hjs.symm
              exact ⟨j, by rw [hj j hjk, hjs]⟩
        · intro hex
          obtain ⟨j, hjs⟩ := hex
          have hjk : j ≠ k := by
            intro he
            subst he
            rw [hk'] at hjs
            cases hjs
          rw [hj j hjk] at hjs
          have hne : id ≠ i := by
            intro he
            subst he
            exact hjk (hn.eq_of_slot? hjs hk)
          rw [if_neg hne]
          exact Slots.mem_ids_iff.mp ((h.holders hc id).mpr ⟨j, hjs⟩)
  | reply r _ hs hk =>
      refine ⟨fun hc => ?_, ?_, fun hc id => ?_⟩
      · rw [hs, Slots.closed_fill] at hc
        have he := h.emptied hc
        rw [hs]
        apply Slots.entries_eq_nil_of_find?
        intro id
        rw [Slots.find?_fill, Slots.find?_of_entries_nil he]
        rfl
      · rw [hs, Slots.ids_fill]
        exact h.nodup
      · rw [hs, Slots.closed_fill] at hc
        rw [hs, Slots.ids_fill]
        simp only [hk]
        exact h.holders hc id
  | closed hc he _ =>
      refine ⟨fun _ => he, ?_, fun hopen => ?_⟩
      · rw [Slots.ids, he]
        exact List.nodup_nil
      · rw [hc] at hopen
        cases hopen

/-- Every slot is that of a call. -/
theorem Held.exists_holder {s : Traffic L N} (h : Held s) {id : PacketId}
    (hid : id ∈ s.slots.ids) : ∃ k, s.slot? k = some id := by
  have hsome := Option.eq_some_of_isSome (Slots.mem_ids_iff.mp hid)
  exact (h.holders (h.emptied.open_of_find? hsome) id).mp hid

/-- Slots have ids that are not still to come. -/
theorem Held.number_lt_upcoming {n : Nat} {s : Traffic L N} (h : Held s) (hn : Numbered n s)
    {id : PacketId} (hid : id ∈ s.slots.ids) :
    id.number < s.client.session.ids.upcoming.number := by
  obtain ⟨k, hk⟩ := h.exists_holder hid
  have hle := hn.drawn (hn.id?_of_slot? hk)
  rw [Client.session, hn.upcoming]
  omega

/-! ## Runs -/

variable {plan : Plan} {directory : String} {notes : N}
  {reach : Settings → Endpoint → Except Failure L} {c : Client L N}

theorem numbered_start (h : Client.connect plan directory notes reach = .ok c) :
    Numbered 0 ⟨c, []⟩ := by
  obtain ⟨-, hids, -⟩ := Client.state_of_connect h
  simp only [Client.session] at hids
  refine ⟨by rw [hids]; rfl, ?_, ?_, ?_⟩
  · intro k id hk
    simp [id?] at hk
  · intro j k id hj
    simp [id?] at hj
  · intro k a ha
    simp at ha

theorem held_start (h : Client.connect plan directory notes reach = .ok c) :
    Held ⟨c, []⟩ := by
  obtain ⟨hslots, -, -⟩ := Client.state_of_connect h
  refine ⟨?_, ?_, ?_⟩
  · intro hc
    simp only [slots, hslots, Slots.empty] at hc
    cases hc
  · simp [slots, hslots, Slots.empty, Slots.ids]
  · intro _ id
    simp [slots, hslots, Slots.empty, Slots.ids, slot?, call?]

variable [Link L]

theorem Drawn.numbered (h : Client.connect plan directory notes reach = .ok c)
    {es : List (Event L N)} {n : Nat} (hd : Drawn ⟨c, []⟩ es n) (hn : n < 18446744073709551615) :
    Numbered n (run ⟨c, []⟩ es) := by
  induction hd with
  | nil => exact numbered_start h
  | snoc _ he ih =>
      rw [run_snoc]
      exact (ih (by omega)).step he hn

theorem Drawn.held (h : Client.connect plan directory notes reach = .ok c)
    {es : List (Event L N)} {n : Nat} (hd : Drawn ⟨c, []⟩ es n) (hn : n < 18446744073709551615) :
    Held (run ⟨c, []⟩ es) := by
  induction hd with
  | nil => exact held_start h
  | snoc hd he ih =>
      rw [run_snoc]
      exact (ih (by omega)).step (hd.numbered h (by omega)) (effect_step he)

/-- In every state of a run that has drawn fewer than `2 ^ 64 - 1` ids, the
slots of an open table are those of the calls that hold one, one for each; a
closed table has none. All of them have ids that come before the next one, so a
call never finds its id taken, and when all calls are over nothing is left. -/
theorem slots_of_callers (h : Client.connect plan directory notes reach = .ok c)
    {es : List (Event L N)} {n : Nat} (hd : Drawn ⟨c, []⟩ es n) (hn : n < 18446744073709551615) :
    let s := run ⟨c, []⟩ es
    (s.slots.closed = false → ∀ id, id ∈ s.slots.ids ↔ ∃ k, s.slot? k = some id) ∧
      (s.slots.closed = true → s.slots.ids = []) ∧
      s.slots.ids.Nodup ∧
      (∀ j k id, s.slot? j = some id → s.slot? k = some id → j = k) ∧
      (∀ id ∈ s.slots.ids, id.number < s.client.session.ids.upcoming.number) ∧
      (∀ k id method params, s.call? k = some (.numbered id method params) →
        ∀ i, s.slots.register id ≠ .error (.taken i)) ∧
      ((∀ k call, s.call? k = some call → call.result?.isSome) → s.client.pendingCount = 0) := by
  intro s
  have hnum : Numbered n s := hd.numbered h hn
  have hheld : Held s := hd.held h hn
  have hempty : s.slots.closed = true → s.slots.ids = [] := by
    intro hc
    rw [Slots.ids, hheld.emptied hc]
    rfl
  refine ⟨hheld.holders, hempty, hheld.nodup, fun j k id => hnum.eq_of_slot?, ?_, ?_, ?_⟩
  · intro id hid
    exact hheld.number_lt_upcoming hnum hid
  · intro k id method params hk i hreg
    refine Slots.register_ne_taken ?_ i hreg
    rw [Slots.find?_eq_none_iff]
    intro hid
    obtain ⟨j, hj⟩ := hheld.exists_holder hid
    have hjk : j = k := hnum.distinct (hnum.id?_of_slot? hj) (hnum.id?_of_call? hk rfl)
    rw [hjk, slot?, hk] at hj
    cases hj
  · intro hover
    have hids : s.slots.ids = [] := by
      rw [List.eq_nil_iff_forall_not_mem]
      intro id hid
      obtain ⟨k, hk⟩ := hheld.exists_holder hid
      rw [slot?, Option.bind_eq_some_iff] at hk
      obtain ⟨call, hcall, hslot⟩ := hk
      have hres := hover k call hcall
      rw [Call.result?_of_id? (Call.id?_of_slot? hslot)] at hres
      cases hres
    rw [Slots.ids, List.map_eq_nil_iff] at hids
    show s.slots.entries.length = 0
    rw [hids]
    rfl

/-- Of two calls the first one leaves its slot as its request is not sent, and
the second one keeps its own. -/
theorem slots_of_two_callers :
    ∃ c : Client (Channel Unit) Unit, Client.connect {} "" () (fun _ _ => .ok {}) = .ok c ∧
      let es : List (Event (Channel Unit) Unit) :=
        [.call "sum" .null, .call "list" .null, .advance 0, .advance 1, .advance 1, .advance 0,
          .link ({ · with failing := true }), .advance 0, .advance 0]
      ∃ n, Drawn ⟨c, []⟩ es n ∧ n < 18446744073709551615 ∧
        (run ⟨c, []⟩ es).slots.ids.map (·.number) = [2] ∧
        ∀ id, id ∈ (run ⟨c, []⟩ es).slots.ids ↔ ∃ k, (run ⟨c, []⟩ es).slot? k = some id := by
  obtain ⟨c, h⟩ : ∃ c : Client (Channel Unit) Unit,
      Client.connect {} "" () (fun _ _ => .ok {}) = .ok c := ⟨_, rfl⟩
  refine ⟨c, h, ?_⟩
  intro es
  obtain ⟨n, hd, hn⟩ : ∃ n, Drawn ⟨c, []⟩ es n ∧ n < 18446744073709551615 := by
    cases h
    exact ⟨_, .cons rfl <| .cons rfl <| .cons rfl <| .cons rfl <| .cons rfl <| .cons rfl <|
      .cons rfl <| .cons rfl <| .cons rfl .nil, by decide⟩
  refine ⟨n, hd, hn, by cases h; rfl, ?_⟩
  exact (slots_of_callers h hd hn).1 (by cases h; rfl)

end Traffic

end RemoteJobs
