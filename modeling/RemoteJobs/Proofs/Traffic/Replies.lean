import RemoteJobs.Proofs.Traffic.Holders

/-!
# Whose reply a call comes back with

A place in a run is the number of events before it. At one place a call
registers, at a later one it returns, and between the two its reply is handled:
`Takes` says which frame that is, the first one after the registration that
holds a reply with the id of the call.

`Watched` is the invariant. It ties the slot of every call that holds one to
the frames since its registration: the slot is filled with the first reply
among them, and with none as long as there is none. It needs the two invariants
of `Holders`, for a slot to be emptied or given away by nobody but its call.

A call takes its result from its slot only when it looks at it. Every other
result is a timeout or a failure of this side.
-/

namespace RemoteJobs

namespace Traffic

variable {L N : Type}

/-! ## The replies of a run -/

/-- At place `t` a frame with a reply is handled. -/
def RepliesAt (es : List (Event L N)) (t : Nat) (r : Reply) : Prop :=
  ∃ bytes, es[t]? = some (.frame bytes) ∧ Inbound.decode bytes = .ok (.reply r)

def firstReply (id : PacketId) (es : List (Event L N)) : Option Reply :=
  es.findSome? (Event.replyTo id)

section

variable {es : List (Event L N)} {e : Event L N} {id : PacketId} {r : Reply}

theorem repliesAt_take {t u : Nat} (h : t < u) : RepliesAt (es.take u) t r ↔ RepliesAt es t r := by
  rw [RepliesAt, RepliesAt, List.getElem?_take_of_lt h]

theorem replyTo_eq_some_iff :
    e.replyTo id = some r ↔
      ∃ bytes, e = .frame bytes ∧ Inbound.decode bytes = .ok (.reply r) ∧ r.id = id := by
  cases e with
  | frame bytes =>
      rw [Event.replyTo, Inbound.replyTo_eq_some_iff]
      constructor
      · intro h
        exact ⟨bytes, rfl, h⟩
      · intro hex
        obtain ⟨bytes', hb, h⟩ := hex
        injection hb with hb
        rw [hb]
        exact h
  | _ =>
      constructor
      · intro h
        cases h
      · intro hex
        obtain ⟨_, h, -⟩ := hex
        cases h

theorem firstReply_snoc {a : Nat} (h : a < es.length) (e : Event L N) :
    firstReply id ((es ++ [e]).drop (a + 1)) =
      (firstReply id (es.drop (a + 1))).or (e.replyTo id) := by
  rw [List.drop_append_of_le_length h, firstReply, List.findSome?_append, List.findSome?_cons,
    List.findSome?_nil]
  cases e.replyTo id with
  | none => rfl
  | some r => rfl

theorem firstReply_last (e : Event L N) :
    firstReply id ((es ++ [e]).drop (es.length + 1)) = none := by
  rw [List.drop_of_length_le (by rw [List.length_append]; exact Nat.le_refl _)]
  rfl

/-- The first reply after the event at place `a` is that of some later place. -/
theorem repliesAt_of_firstReply {a : Nat} (h : firstReply id (es.drop (a + 1)) = some r) :
    r.id = id ∧ ∃ t, a < t ∧ t < es.length ∧ RepliesAt es t r ∧
      ∀ t' r', a < t' → t' < t → RepliesAt es t' r' → r'.id ≠ id := by
  rw [firstReply, List.findSome?_eq_some_iff] at h
  obtain ⟨l, e, l', hl, he, hnone⟩ := h
  have hget : ∀ i, es[a + 1 + i]? = (l ++ e :: l')[i]? := by
    intro i
    rw [← hl, List.getElem?_drop]
  obtain ⟨bytes, rfl, hdec, hid⟩ := replyTo_eq_some_iff.mp he
  have ht : es[a + 1 + l.length]? = some (.frame bytes) := by
    rw [hget, List.getElem?_append_right (Nat.le_refl _), Nat.sub_self]
    rfl
  refine ⟨hid, a + 1 + l.length, by omega, (List.getElem?_eq_some_iff.mp ht).1,
    ⟨bytes, ht, hdec⟩, ?_⟩
  intro t' r' hat htt ⟨bytes', ht', hdec'⟩ hid'
  obtain ⟨i, rfl⟩ := Nat.exists_eq_add_of_lt hat
  have hi : i < l.length := by omega
  rw [show a + i + 1 = a + 1 + i by omega, hget, List.getElem?_append_left hi] at ht'
  have hn := hnone _ (List.mem_of_getElem? ht')
  rw [replyTo_eq_some_iff.mpr ⟨bytes', rfl, hdec', hid'⟩] at hn
  cases hn

end

variable [Link L]

/-! ## The places of a call -/

/-- The traffic before the event at place `t`. -/
def before (s : Traffic L N) (es : List (Event L N)) (t : Nat) : Traffic L N := s.run (es.take t)

/-- At place `t` the call `k` is given the slot of an id. -/
def RegistersAt (s : Traffic L N) (es : List (Event L N)) (k t : Nat) (id : PacketId) : Prop :=
  ∃ method params, (s.before es t).call? k = some (.numbered id method params) ∧
    (s.before es (t + 1)).call? k = some (.registered id method params)

/-- At place `u` the call `k` comes back with a result. -/
def ReturnsAt (s : Traffic L N) (es : List (Event L N)) (k u : Nat)
    (result : Except Failure (Outcome Json)) : Prop :=
  (∀ r, (s.before es u).call? k ≠ some (.ended r)) ∧
    (s.before es (u + 1)).call? k = some (.ended result)

/-- The call `k` registers at place `a` and returns at place `u` what it has
been given at place `t` between them, by the first reply with its id. -/
structure Takes (s : Traffic L N) (es : List (Event L N)) (k a t u : Nat) (r : Reply) : Prop where
  registers : s.RegistersAt es k a r.id
  returns : s.ReturnsAt es k u r.outcome
  replies : RepliesAt es t r
  later : a < t
  earlier : t < u
  first : ∀ t' r', a < t' → t' < t → RepliesAt es t' r' → r'.id ≠ r.id

variable {s : Traffic L N} {es : List (Event L N)} {e : Event L N} {k : Nat} {id : PacketId}

theorem run_eq (s : Traffic L N) (es : List (Event L N)) (t : Nat) :
    s.run es = (s.before es t).run (es.drop t) := by
  rw [before, run, run, run, ← List.foldl_append, List.take_append_drop]

theorem before_of_length_le {t : Nat} (h : es.length ≤ t) : s.before es t = s.run es := by
  rw [before, List.take_of_length_le h]

theorem before_append {t : Nat} (h : t ≤ es.length) (es' : List (Event L N)) :
    s.before (es ++ es') t = s.before es t := by
  rw [before, List.take_append_of_le_length h]
  rfl

theorem before_succ {t : Nat} (h : es[t]? = some e) :
    s.before es (t + 1) = (s.before es t).step e := by
  rw [before, List.take_add_one, h, Option.toList_some, run_snoc]
  rfl

theorem RegistersAt.lt_length {t : Nat} (h : s.RegistersAt es k t id) : t < es.length := by
  obtain ⟨method, params, hb, ha⟩ := h
  refine Nat.lt_of_not_le fun hle => ?_
  rw [before_of_length_le hle] at hb
  rw [before_of_length_le (Nat.le_succ_of_le hle), hb] at ha
  cases ha

theorem RegistersAt.append {t : Nat} (h : s.RegistersAt es k t id) (es' : List (Event L N)) :
    s.RegistersAt (es ++ es') k t id := by
  have ht := h.lt_length
  obtain ⟨method, params, hb, ha⟩ := h
  refine ⟨method, params, ?_, ?_⟩
  · rw [before_append (Nat.le_of_lt ht), hb]
  · rw [before_append ht, ha]

/-- A call that the last event of a run gives its slot. -/
theorem registersAt_last {method : String} {params : Json}
    (hb : (s.run es).call? k = some (.numbered id method params))
    (ha : ((s.run es).step e).call? k = some (.registered id method params)) :
    s.RegistersAt (es ++ [e]) k es.length id := by
  refine ⟨method, params, ?_, ?_⟩
  · rw [before_append (Nat.le_refl _), before_of_length_le (Nat.le_refl _), hb]
  · rw [before_of_length_le (by rw [List.length_append]; exact Nat.le_refl _), run_snoc, ha]

/-! ## What the slot of a call holds -/

/-- A slot holds the first reply to its call since the call has registered. -/
def Watched (s : Traffic L N) (es : List (Event L N)) : Prop :=
  ∀ k id, (s.run es).slot? k = some id → ∃ a, s.RegistersAt es k a id ∧
    ((s.run es).slots.closed = false →
      (s.run es).slots.find? id = some (firstReply id (es.drop (a + 1))))

/-- A call that keeps its slot while its reply may come. -/
theorem Watched.keep (h : Watched s es) {s' : Traffic L N}
    (hk : (s.run es).slot? k = some id)
    (hf : s'.slots.closed = false → (s.run es).slots.closed = false ∧
      s'.slots.find? id = ((s.run es).slots.find? id).map (·.or (e.replyTo id))) :
    ∃ a, s.RegistersAt (es ++ [e]) k a id ∧ (s'.slots.closed = false →
      s'.slots.find? id = some (firstReply id ((es ++ [e]).drop (a + 1)))) := by
  obtain ⟨a, ha, hslot⟩ := h k id hk
  refine ⟨a, ha.append [e], fun hc => ?_⟩
  obtain ⟨hopen, hfind⟩ := hf hc
  rw [hfind, hslot hopen, firstReply_snoc ha.lt_length]
  rfl

theorem Watched.step {n : Nat} (h : Watched s es) (hnum : Numbered n (s.run es))
    (hheld : Held (s.run es)) (he : Effect (s.run es) e ((s.run es).step e)) :
    Watched s (es ++ [e]) := by
  have hrun := run_snoc s es e
  intro k id hk
  rw [hrun] at hk ⊢
  cases he with
  | none hr hs hj =>
      rw [hj] at hk
      refine h.keep hk fun hc => ?_
      rw [hs] at hc
      rw [hs, hr, Slots.map_or_none]
      exact ⟨hc, rfl⟩
  | gain j i hev hcall hreg hj =>
      obtain ⟨method, params, hb, ha⟩ := hcall
      by_cases hjk : k = j
      · have hid : id = i := by
          rw [hjk, slot?, ha] at hk
          injection hk with hk
          exact hk.symm
        rw [hjk, hid]
        refine ⟨es.length, registersAt_last hb ha, fun _ => ?_⟩
        rw [Slots.find?_register hreg, if_pos rfl, firstReply_last]
      · rw [hj k hjk] at hk
        refine h.keep hk fun _ => ?_
        obtain ⟨hopen, -, hfree, -⟩ := Slots.register_ok hreg
        have hid : id ≠ i := by
          intro he
          subst he
          exact Slots.find?_eq_none_iff.mp hfree ((hheld.holders hopen id).mpr ⟨k, hk⟩)
        have hr : e.replyTo id = none := by
          rw [hev]
          rfl
        rw [Slots.find?_register hreg, if_neg hid, hr, Slots.map_or_none]
        exact ⟨hopen, rfl⟩
  | lose j i hr hji hji' hs hj =>
      have hjk : k ≠ j := by
        intro he
        subst he
        rw [hji'] at hk
        cases hk
      rw [hj k hjk] at hk
      have hid : id ≠ i := by
        intro he
        subst he
        exact hjk (hnum.eq_of_slot? hk hji)
      refine h.keep hk fun hc => ?_
      rw [hs, Slots.closed_erase] at hc
      rw [hs, Slots.find?_erase, if_neg hid, hr, Slots.map_or_none]
      exact ⟨hc, rfl⟩
  | reply r hr hs hj =>
      rw [hj] at hk
      refine h.keep hk fun hc => ?_
      rw [hs, Slots.closed_fill] at hc
      rw [hs, Slots.find?_fill, hr]
      exact ⟨hc, rfl⟩
  | closed hc _ hj =>
      rw [hj] at hk
      refine h.keep hk fun hopen => ?_
      rw [hc] at hopen
      cases hopen

/-! ## What a call comes back with -/

/-- What an event makes of a call: nothing, its beginning, or its next step. -/
theorem call?_step {call' : Call} (h : (s.step e).call? k = some call') :
    s.call? k = some call' ∨ (∃ method params, call' = .begun method params) ∨
      ∃ call, s.call? k = some call ∧ (call' = (call.advance s.client.state).1 ∨
        ∃ expired, call' = (call.look expired s.client.state).1) := by
  rw [call?, Option.map_eq_some_iff] at h
  obtain ⟨b, hb, rfl⟩ := h
  rcases callers_step s e with hc | ⟨method, params, hc⟩ | ⟨j, a, call, ha, hc, hcall⟩
  · rw [hc] at hb
    exact .inl (call?_of_getElem? hb)
  · rw [hc, List.getElem?_append] at hb
    split at hb
    · exact .inl (call?_of_getElem? hb)
    · rw [List.mem_singleton.mp (List.mem_of_getElem? hb)]
      exact .inr (.inl ⟨method, params, rfl⟩)
  · rw [hc, getElem?_set_caller ha] at hb
    split at hb
    · next hk =>
        injection hb with hb
        rw [hk, ← hb]
        exact .inr (.inr ⟨a.call, call?_of_getElem? ha, hcall⟩)
    · exact .inl (call?_of_getElem? hb)

/-- No call has failed to send its request by an error of the server's. -/
def Honest (s : Traffic L N) : Prop := ∀ k call, s.call? k = some call → call.Honest

theorem Honest.step [Link.Honest L] (h : Honest s) (e : Event L N) : Honest (s.step e) := by
  intro k call hk
  rcases call?_step hk with hk | ⟨method, params, rfl⟩ | ⟨call, hcall, rfl | ⟨expired, rfl⟩⟩
  · exact h k call hk
  · intro id m reason hc
    cases hc
  · exact Call.honest_advance call _
  · exact Call.honest_look (h k call hcall) expired _

theorem Honest.run [Link.Honest L] (h : Honest s) (es : List (Event L N)) : Honest (s.run es) := by
  induction es generalizing s with
  | nil => exact h
  | cons e es ih => exact ih (h.step e)

/-- A call that is over after an event but was not before it has timed out, has
failed on this side, or has taken the reply out of its slot. -/
theorem result_step [Link.Honest L] (hs : Honest s) {result : Except Failure (Outcome Json)}
    (hb : ∀ r, s.call? k ≠ some (.ended r)) (ha : (s.step e).call? k = some (.ended result)) :
    result = .ok .timedOut ∨ (∃ f : Failure, result = .error f ∧ f.isRemote = false) ∨
      ∃ id r, s.slot? k = some id ∧ s.slots.find? id = some (some r) ∧ result = r.outcome := by
  rcases call?_step ha with h | ⟨method, params, h⟩ | ⟨call, hcall, h⟩
  · exact absurd h (hb result)
  · cases h
  · have hr : call.result? = none := by
      cases call with
      | ended r => exact absurd hcall (hb r)
      | _ => rfl
    rcases h with h | ⟨expired, h⟩
    · exact .inr (.inl (Call.result_advance Link.Honest.failsOnly (hs k call hcall) hr h.symm))
    · rcases Call.result_look hr h.symm with h | ⟨id, r, rfl, hfind, h⟩
      · exact .inl h
      · refine .inr (.inr ⟨id, r, ?_, hfind, h⟩)
        rw [slot?, hcall]
        rfl

/-! ## The ids of calls stay -/

theorem id?_step (h : s.id? k = some id) (e : Event L N) : (s.step e).id? k = some id := by
  have hid := h
  rw [id?, Option.bind_eq_some_iff] at h
  obtain ⟨b, hb, hbid⟩ := h
  rcases callers_step s e with hc | ⟨method, params, hc⟩ | ⟨j, a, call, ha, hc, -⟩
  · rw [id?, hc]
    exact hid
  · rw [id?, hc, List.getElem?_append_left (List.getElem?_eq_some_iff.mp hb).1]
    exact hid
  · rw [id?, hc, getElem?_set_caller ha]
    split
    · next hk =>
        rw [← hk, hb] at ha
        injection ha with ha
        rw [← ha, Option.bind_some, Caller.go, hbid]
        rfl
    · exact hid

theorem id?_run (h : s.id? k = some id) (es : List (Event L N)) : (s.run es).id? k = some id := by
  induction es generalizing s with
  | nil => exact h
  | cons e es ih => exact ih (id?_step h e)

/-! ## Runs -/

variable {plan : Plan} {directory : String} {notes : N}
  {reach : Settings → Endpoint → Except Failure L} {c : Client L N} {n : Nat}

theorem Drawn.watched (h : Client.connect plan directory notes reach = .ok c)
    (hd : Drawn ⟨c, []⟩ es n) (hn : n < 18446744073709551615) : Watched ⟨c, []⟩ es := by
  induction hd with
  | nil =>
      intro k id hk
      cases hk
  | snoc hd he ih =>
      have hlt := Nat.lt_of_le_of_lt (Nat.le_add_right _ _) hn
      exact (ih hlt).step (hd.numbered h hlt) (hd.held h hlt) (effect_step he)

theorem Drawn.id?_of_registersAt (h : Client.connect plan directory notes reach = .ok c)
    (hd : Drawn ⟨c, []⟩ es n) (hn : n < 18446744073709551615) {a : Nat}
    (hr : RegistersAt ⟨c, []⟩ es k a id) : (run ⟨c, []⟩ es).id? k = some id := by
  obtain ⟨m, hm, hdt⟩ := hd.take (a + 1)
  obtain ⟨method, params, -, hk⟩ := hr
  rw [run_eq _ es (a + 1)]
  exact id?_run ((hdt.numbered h (Nat.lt_of_le_of_lt hm hn)).id?_of_call? hk rfl) _

/-- A result that is neither a timeout nor a failure of this side has come in a
frame. -/
theorem Drawn.takes_of_returnsAt [Link.Honest L]
    (h : Client.connect plan directory notes reach = .ok c) (hd : Drawn ⟨c, []⟩ es n)
    (hn : n < 18446744073709551615) {u : Nat} {result : Except Failure (Outcome Json)}
    (hr : ReturnsAt ⟨c, []⟩ es k u result) :
    result = .ok .timedOut ∨ (∃ f : Failure, result = .error f ∧ f.isRemote = false) ∨
      ∃ a t r, Takes ⟨c, []⟩ es k a t u r ∧ result = r.outcome := by
  obtain ⟨m, hm, hdt⟩ := hd.take u
  have hlt := Nat.lt_of_le_of_lt hm hn
  have hhonest : Honest (before ⟨c, []⟩ es u) :=
    Honest.run (fun k call hk => by cases hk) _
  cases he : es[u]? with
  | none =>
      have hle := List.getElem?_eq_none_iff.mp he
      have hra := hr.2
      rw [before_of_length_le (Nat.le_succ_of_le hle), ← before_of_length_le hle] at hra
      exact absurd hra (hr.1 result)
  | some e =>
      have hra := hr.2
      rw [before_succ he] at hra
      rcases result_step hhonest hr.1 hra with ht | hf | ⟨id, r, hslot, hfind, rfl⟩
      · exact .inl ht
      · exact .inr (.inl hf)
      · obtain ⟨a, ha, hwatch⟩ := hdt.watched h hlt k id hslot
        -- The table is open, since it has a slot.
        have hfirst := hwatch ((hdt.held h hlt).emptied.open_of_find? hfind)
        have hfind' : (run ⟨c, []⟩ (es.take u)).slots.find? id = some (some r) := hfind
        rw [hfind'] at hfirst
        injection hfirst with hfirst
        obtain ⟨hid, t, hat, htu, hrep, hmin⟩ := repliesAt_of_firstReply hfirst.symm
        have htu : t < u := Nat.lt_of_lt_of_le htu (List.length_take_le u es)
        have ha' := ha.append (es.drop u)
        rw [List.take_append_drop] at ha'
        subst hid
        refine .inr (.inr ⟨a, t, r, ⟨ha', hr, (repliesAt_take htu).mp hrep, hat, htu, ?_⟩, rfl⟩)
        intro t' r' hat' htt hrep'
        exact hmin t' r' hat' htt ((repliesAt_take (Nat.lt_trans htt htu)).mpr hrep')

/-- In a run that has drawn fewer than `2 ^ 64 - 1` ids, whatever its events and
their order, a call that comes back with a value or with an error of the
server's has been given it by a frame that was handled between its
registration and its return: the first one in that time that holds a reply with
the id of the call. No frame gives two calls their results. -/
theorem replies_of_results [Link.Honest L]
    (h : Client.connect plan directory notes reach = .ok c) (hd : Drawn ⟨c, []⟩ es n)
    (hn : n < 18446744073709551615) :
    let s : Traffic L N := ⟨c, []⟩
    (∀ k u v, s.ReturnsAt es k u (.ok (.completed v)) →
        ∃ a t id, s.Takes es k a t u ⟨id, .ok v⟩) ∧
      (∀ k u e, s.ReturnsAt es k u (.error (.remote e)) →
        ∃ a t id, s.Takes es k a t u ⟨id, .error e⟩) ∧
      ∀ k k' a a' t u u' r r', s.Takes es k a t u r → s.Takes es k' a' t u' r' → k = k' := by
  intro s
  refine ⟨?_, ?_, ?_⟩
  · intro k u v hr
    rcases hd.takes_of_returnsAt h hn hr with ht | ⟨f, hf, -⟩ | ⟨a, t, r, ht, hr⟩
    · cases ht
    · cases hf
    · rw [Reply.outcome_eq_completed hr.symm] at ht
      exact ⟨a, t, r.id, ht⟩
  · intro k u e hr
    rcases hd.takes_of_returnsAt h hn hr with ht | ⟨f, hf, hl⟩ | ⟨a, t, r, ht, hr⟩
    · cases ht
    · cases hf
      cases hl
    · rw [Reply.outcome_eq_remote hr.symm] at ht
      exact ⟨a, t, r.id, ht⟩
  · intro k k' a a' t u u' r r' hk hk'
    obtain ⟨bytes, hb, hdec⟩ := hk.replies
    obtain ⟨bytes', hb', hdec'⟩ := hk'.replies
    rw [hb] at hb'
    cases hb'
    rw [hdec] at hdec'
    cases hdec'
    exact (hd.numbered h hn).distinct (hd.id?_of_registersAt h hn hk.registers)
      (hd.id?_of_registersAt h hn hk'.registers)

/-- A call whose reply comes twice returns what the first frame holds. -/
theorem replies_of_call_answered_twice :
    ∃ c : Client (Channel Unit) Unit, Client.connect {} "" () (fun _ _ => .ok {}) = .ok c ∧
      let s : Traffic (Channel Unit) Unit := ⟨c, []⟩
      let es : List (Event (Channel Unit) Unit) :=
        [.call "sum" .null, .advance 0, .advance 0, .advance 0,
          .frame (Utf8.encode "\x7b\"id\":1,\"result\":7\x7d"),
          .frame (Utf8.encode "\x7b\"id\":1,\"result\":8\x7d"), .look 0 true]
      ∃ n, Drawn s es n ∧ n < 18446744073709551615 ∧
        s.ReturnsAt es 0 6 (.ok (.completed (.int 7))) ∧
        ∃ a t id, s.Takes es 0 a t 6 ⟨id, .ok (.int 7)⟩ := by
  obtain ⟨c, h⟩ : ∃ c : Client (Channel Unit) Unit,
      Client.connect {} "" () (fun _ _ => .ok {}) = .ok c := ⟨_, rfl⟩
  refine ⟨c, h, ?_⟩
  intro s es
  obtain ⟨n, hd, hn⟩ : ∃ n, Drawn s es n ∧ n < 18446744073709551615 := by
    cases h
    exact ⟨_, .cons rfl <| .cons rfl <| .cons rfl <| .cons rfl <|
      .cons (by with_unfolding_all exact Eq.refl 0) <|
      .cons (by with_unfolding_all exact Eq.refl 0) <| .cons rfl .nil, by decide⟩
  have hr : s.ReturnsAt es 0 6 (.ok (.completed (.int 7))) := by
    cases h
    refine ⟨?_, by with_unfolding_all rfl⟩
    have hb : (s.before es 6).call? 0 = some (.sent .first) := by
      with_unfolding_all rfl
    intro r hc
    rw [hb] at hc
    cases hc
  exact ⟨n, hd, hn, hr, (replies_of_results h hd hn).1 0 6 (.int 7) hr⟩

end Traffic

end RemoteJobs
