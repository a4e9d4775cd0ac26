import RemoteJobs.Client.Order
import RemoteJobs.Proofs.Traffic.Replies
import RemoteJobs.Proofs.Traffic.Transports

/-!
# What calls and orders end with

A call ends in one of three ways: its time is over, this side has failed, or a
reply with its id has come. The failures of this side are of few kinds, and all
others come from elsewhere or go by another name: frames that make no sense are
dropped, a stream that is cut off stops the reader, a write that fails is told as
a failure of the connection, observers are checked when they are registered, and
a call that is out of time has not failed. `Answered` says so of every call of a
run that is over, however many ids have been drawn. It rests on two facts about
slots and ids: a reply in the slot of an id has that id and came in a frame, and
a call that waits goes by the id that it has drawn. It is proved of events, and
whatever comes in over a transport is a row of these.

An order is a call whose value is read afterwards. All that this adds is a
failure of the protocol, for a value that cannot be read.
-/

namespace RemoteJobs

/-! ## Calls of observers -/

/-- A call of an observer, which does not wait, times out or fails plainly. -/
theorem Call.attempt_plain {L N : Type} [Link L] [Link.Plain L] (method : String) (params : Json)
    (d : Desk (Session L N)) :
    ∃ result, (attempt method params d).1 = .ended result ∧
      ∀ e, result = .error e → e.isPlain = true := by
  rcases attempt_cases method params d with ⟨-, h⟩ | ⟨-, ⟨f, hf, h⟩ | ⟨k, -, h⟩⟩
  · refine ⟨.error .connectionClosed, by rw [h], fun e he => ?_⟩
    cases he
    rfl
  · refine ⟨.error f, by rw [h], fun e he => ?_⟩
    cases he
    exact hf _ Link.Plain.failsOnly
  · refine ⟨.ok .timedOut, by rw [h], fun e he => ?_⟩
    cases he

/-! ## Orders -/

namespace Order

variable {α : Type}

/-- What becomes of an order when its call comes to a result; `read` gets the
meaning out of a value, if it has one. -/
inductive Means (read : Json → Option α) :
    Except Failure (Outcome Json) → Except Failure (Outcome α) → Prop where
  | timedOut : Means read (.ok .timedOut) (.ok .timedOut)
  | failed (e : Failure) : Means read (.error e) (.error e)
  | completed {v : Json} {x : α} : read v = some x →
      Means read (.ok (.completed v)) (.ok (.completed x))
  | unread {v : Json} (text : String) : read v = none →
      Means read (.ok (.completed v)) (.error (.protocol text))

/-- The order is a call of `method` with `params`, of whose result nothing but a
value is read. -/
structure IsCall (L N : Type) [Link L] (o : Order α) (method : String) (params : Json)
    (read : Json → Option α) : Prop where
  issued : ∀ c : Client L N, c.order o = c.issue method params
  settled : ∀ (c : Client L N) (call : Call), Means read (c.settle call).1 (c.settleOrder o call).1
  interpreted : ∀ result, Means read result (o.interpret result).1

theorem means_interpret (o : Order α) (result : Except Failure (Outcome Json)) :
    Means (fun v => (o.decode v).1.toOption) result (o.interpret result).1 := by
  cases result with
  | error e => exact .failed e
  | ok outcome =>
      cases outcome with
      | timedOut => exact .timedOut
      | completed v =>
          show Means _ _ ((o.read v).map .completed)
          rw [read]
          cases h : (o.decode v).1 with
          | ok x => exact .completed (by rw [h]; rfl)
          | error m => exact .unread _ (by rw [h]; rfl)

theorem isCall {L N : Type} [Link L] {o : Order α} {read : Json → Option α}
    (h : ∀ v, (o.decode v).1.toOption = read v) : o.IsCall L N o.method.name o.params read := by
  obtain rfl : (fun v => (o.decode v).1.toOption) = read := funext h
  exact ⟨fun _ => rfl, fun c call => o.means_interpret (c.settle call).1, o.means_interpret⟩

theorem toOption_map {ε β : Type} (f : α → β) (r : Except ε α) :
    (r.map f).toOption = r.toOption.map f := by
  cases r with
  | error e => rfl
  | ok a => rfl

/-- The id of a job that has been cancelled is read in either form. -/
theorem toOption_cancellation (v : Json) :
    ((Cancellation.decode v).map Cancellation.job).toOption =
      (JobId.decode v).toOption.or (JobId.ofParams v).toOption := by
  rw [Cancellation.decode]
  cases JobId.decode v with
  | ok i => rfl
  | error m =>
      cases JobId.ofParams v with
      | ok i => rfl
      | error m => rfl

end Order

/-- A call with this result, or an order whose call has it, fails with `e`. -/
def FailsWith (result : Except Failure (Outcome Json)) (e : Failure) : Prop :=
  result = .error e ∨ ∃ (α : Type) (o : Order α), (o.interpret result).1 = .error e

/-- Orders fail as their calls do, or plainly. -/
theorem FailsWith.error {result : Except Failure (Outcome Json)} {e : Failure}
    (h : FailsWith result e) : result = .error e ∨ e.isPlain = true := by
  rcases h with h | ⟨α, o, h⟩
  · exact .inl h
  · have hm := o.means_interpret result
    rw [h] at hm
    cases hm with
    | failed _ => exact .inl rfl
    | unread _ _ => exact .inr rfl

namespace Traffic

variable {L N : Type}

section

variable {es : List (Event L N)} {t : Nat} {r : Reply}

theorem RepliesAt.append (h : RepliesAt es t r) (es' : List (Event L N)) :
    RepliesAt (es ++ es') t r := by
  obtain ⟨bytes, ht, hd⟩ := h
  refine ⟨bytes, ?_, hd⟩
  rw [List.getElem?_append_left (List.getElem?_eq_some_iff.mp ht).1, ht]

theorem repliesAt_last {bytes : Bytes} (h : Inbound.decode bytes = .ok (.reply r)) :
    RepliesAt (es ++ [.frame bytes]) es.length r := by
  refine ⟨bytes, ?_, h⟩
  rw [List.getElem?_append_right (Nat.le_refl _), Nat.sub_self]
  rfl

end

variable [Link L] {s : Traffic L N} {es : List (Event L N)} {e : Event L N}

/-! ## Steps of calls -/

/-- A step leads from a call that is not over, and changes its id only by
drawing it. -/
theorem id?_next {call call' : Call} {d : Desk (Session L N)}
    (h : call' = (call.advance d).1 ∨ ∃ expired, call' = (call.look expired d).1)
    (hr : call'.result? = none) :
    call.result? = none ∧ (call.id? = none ∨ call'.id? = call.id?) := by
  have hsame : call'.result?.isSome ∨ call.result? = none ∧ call'.id? = call.id? →
      call.result? = none ∧ (call.id? = none ∨ call'.id? = call.id?) := by
    intro hor
    rcases hor with hover | ⟨hopen, hid⟩
    · rw [hr] at hover
      cases hover
    · exact ⟨hopen, .inr hid⟩
  rcases h with rfl | ⟨expired, rfl⟩
  · cases call with
    | begun method params => exact ⟨rfl, .inl rfl⟩
    | _ => exact hsame (Call.id?_advance fun _ _ h => by cases h).2
  · exact hsame (Call.id?_look call expired d).2

/-- A call that is over takes no more steps. -/
theorem ended_next {call call' : Call} {d : Desk (Session L N)}
    {result : Except Failure (Outcome Json)}
    (h : call' = (call.advance d).1 ∨ ∃ expired, call' = (call.look expired d).1)
    (hr : call.result? = some result) : call = .ended result ∧ call' = .ended result := by
  cases call with
  | ended _ =>
      cases hr
      rcases h with rfl | ⟨expired, rfl⟩
      · exact ⟨rfl, rfl⟩
      · exact ⟨rfl, rfl⟩
  | _ => cases hr

theorem Own.step (h : Own s) (e : Event L N) : Own (s.step e) := by
  intro k b hb hr
  rcases callers_step s e with hc | ⟨method, params, hc⟩ | ⟨j, a, call, ha, hc, hcall⟩
  · rw [hc] at hb
    exact h hb hr
  · rw [hc, List.getElem?_append] at hb
    split at hb
    · exact h hb hr
    · rw [List.mem_singleton.mp (List.mem_of_getElem? hb)]
      rfl
  · rw [hc, getElem?_set_caller ha] at hb
    split at hb
    · cases hb
      obtain ⟨hopen, hid⟩ := id?_next hcall hr
      have hown := h ha hopen
      rw [Caller.go, hown]
      rcases hid with hnone | hsame
      · rw [hnone]
        rfl
      · rw [← hsame, Option.or_self]
    · exact h hb hr

theorem Own.run (h : Own s) (es : List (Event L N)) : Own (s.run es) := by
  induction es generalizing s with
  | nil => exact h
  | cons e es ih => exact ih (h.step e)

/-! ## Replies in slots -/

/-- A reply in a slot has the id of the slot and came in a frame of the run. -/
def Filed (s : Traffic L N) (es : List (Event L N)) : Prop :=
  ∀ id r, (s.run es).slots.find? id = some (some r) → r.id = id ∧ ∃ t, RepliesAt es t r

theorem Filed.step (h : Filed s es) (he : Effect (s.run es) e ((s.run es).step e)) :
    Filed s (es ++ [e]) := by
  have hkeep : ∀ {id r}, (s.run es).slots.find? id = some (some r) →
      r.id = id ∧ ∃ t, RepliesAt (es ++ [e]) t r := by
    intro id r hfind
    obtain ⟨hid, t, ht⟩ := h id r hfind
    exact ⟨hid, t, ht.append [e]⟩
  intro id r hfind
  rw [run_snoc] at hfind
  cases he with
  | none _ hs _ =>
      rw [hs] at hfind
      exact hkeep hfind
  | gain k i _ _ hreg _ =>
      rw [Slots.find?_register hreg] at hfind
      split at hfind
      · cases hfind
      · exact hkeep hfind
  | lose k i _ _ _ hs _ =>
      rw [hs, Slots.find?_erase] at hfind
      split at hfind
      · cases hfind
      · exact hkeep hfind
  | reply r' hr hs _ =>
      rw [hs, Slots.find?_fill, ← hr id, Option.map_eq_some_iff] at hfind
      obtain ⟨o, ho, hor⟩ := hfind
      -- A reply that is there stays; an empty slot takes the new one if it has its id.
      cases o with
      | some r'' =>
          cases hor
          exact hkeep ho
      | none =>
          obtain ⟨bytes, rfl, hdec, hid⟩ := replyTo_eq_some_iff.mp hor
          exact ⟨hid, es.length, repliesAt_last hdec⟩
  | closed _ hentries _ =>
      rw [Slots.find?_of_entries_nil hentries] at hfind
      cases hfind

/-! ## Results of calls -/

/-- What the call `k` of a run may end with. -/
inductive Answer (s : Traffic L N) (es : List (Event L N)) (k : Nat) :
    Except Failure (Outcome Json) → Prop where
  | timedOut : Answer s es k (.ok .timedOut)
  | failed {e : Failure} : e.isPlain = true → Answer s es k (.error e)
  | replied {r : Reply} {t : Nat} : (s.run es).id? k = some r.id → RepliesAt es t r →
      Answer s es k r.outcome

theorem Answer.snoc {k : Nat} {result : Except Failure (Outcome Json)}
    (h : Answer s es k result) (e : Event L N) : Answer s (es ++ [e]) k result := by
  cases h with
  | timedOut => exact .timedOut
  | failed he => exact .failed he
  | replied hid ht => exact .replied (by rw [run_snoc]; exact id?_step hid e) (ht.append [e])

/-- An error that is not plain is that of a reply. -/
theorem Answer.error {k : Nat} {f : Failure} (h : Answer s es k (.error f)) :
    f.isPlain = true ∨ ∃ error id t,
      f = .remote error ∧ (s.run es).id? k = some id ∧ RepliesAt es t ⟨id, .error error⟩ := by
  generalize hr : (.error f : Except Failure (Outcome Json)) = result at h
  cases h with
  | timedOut => cases hr
  | failed he =>
      cases hr
      exact .inl he
  | @replied r t hid ht =>
      obtain ⟨id, answer⟩ := r
      cases answer with
      | ok v => cases hr
      | error error =>
          cases hr
          exact .inr ⟨error, id, t, rfl, hid, ht⟩

structure Answered (s : Traffic L N) (es : List (Event L N)) : Prop where
  refused : ∀ k call, (s.run es).call? k = some call →
    call.RefusedOnly fun e => e.isPlain = true
  ended : ∀ k result, (s.run es).call? k = some (.ended result) → Answer s es k result

theorem Answered.step [Link.Plain L] (h : Answered s es) (hfiled : Filed s es)
    (hown : Own (s.run es)) (e : Event L N) : Answered s (es ++ [e]) := by
  refine ⟨fun k call hk => ?_, fun k result hk => ?_⟩
  · rw [run_snoc] at hk
    rcases call?_step hk with hk | ⟨method, params, rfl⟩ | ⟨call, hcall, rfl | ⟨expired, rfl⟩⟩
    · exact h.refused k call hk
    · intro id m reason h
      cases h
    · exact Call.refusedOnly_advance Link.Plain.failsOnly call _
    · exact (h.refused k call hcall).look expired _
  · rw [run_snoc] at hk
    rcases call?_step hk with hk | ⟨method, params, hk⟩ | ⟨call, hcall, hnext⟩
    · exact (h.ended k result hk).snoc e
    · cases hk
    · cases hr : call.result? with
      | some result' =>
          obtain ⟨rfl, hsame⟩ := ended_next hnext hr
          cases hsame
          exact (h.ended k result hcall).snoc e
      | none =>
          rcases hnext with hnext | ⟨expired, hnext⟩
          · obtain ⟨f, rfl, hf⟩ := Call.result_advance Link.Plain.failsOnly
              (h.refused k call hcall) hr hnext.symm
            exact .failed hf
          · rcases Call.result_look hr hnext.symm with rfl | ⟨id, r, rfl, hfind, rfl⟩
            · exact .timedOut
            · -- The slot is that of the id that the call has drawn.
              obtain ⟨rfl, t, ht⟩ := hfiled id r hfind
              have hid := hown.id?_of_call? hcall rfl
              exact Answer.snoc (.replied hid ht) e

/-! ## Runs -/

variable {plan : Plan} {directory : String} {notes : N}
  {reach : Settings → Endpoint → Except Failure L} {c : Client L N} {n : Nat}

theorem Drawn.filed (h : Client.connect plan directory notes reach = .ok c)
    (hd : Drawn ⟨c, []⟩ es n) : Filed ⟨c, []⟩ es := by
  induction hd with
  | nil =>
      intro id r hfind
      simp only [run, List.foldl_nil, slots, (Client.state_of_connect h).1] at hfind
      cases hfind
  | snoc _ he ih => exact ih.step (effect_step he)

theorem Drawn.answered [Link.Plain L] (h : Client.connect plan directory notes reach = .ok c)
    (hd : Drawn ⟨c, []⟩ es n) : Answered ⟨c, []⟩ es := by
  have hown : Own (⟨c, []⟩ : Traffic L N) := fun ha => by cases ha
  induction hd with
  | nil =>
      refine ⟨fun k call hk => ?_, fun k result hk => ?_⟩
      · cases hk
      · cases hk
  | snoc hd _ ih => exact ih.step (hd.filed h) (hown.run _) _

/-- What the calls of a run may fail with, whatever has come in. -/
theorem Follows.failsWith [Link.Plain L] (h : Client.connect plan directory notes reach = .ok c)
    {frames : List Bytes} {s : Traffic L N} (hs : Follows ⟨c, []⟩ frames s) {k : Nat}
    {result : Except Failure (Outcome Json)} {f : Failure}
    (hk : s.call? k = some (.ended result)) (hf : FailsWith result f) :
    f.isPlain = true ∨ ∃ error id, f = .remote error ∧ s.id? k = some id ∧
      ∃ frame ∈ frames, Inbound.decode frame = .ok (.reply ⟨id, .error error⟩) := by
  obtain ⟨es, ho, rfl, heven⟩ := hs
  have horderly : Orderly (⟨c, []⟩ : Traffic L N) := by
    intro o hmem
    rw [(Client.state_of_connect h).2.2.2.1] at hmem
    cases hmem
  obtain ⟨n, hd⟩ := horderly.exists_drawn ho
  rcases hf.error with rfl | hplain
  · rw [← heven.call?] at hk
    rcases ((hd.answered h).ended k _ hk).error with hplain | ⟨error, id, t, rfl, hid, ht⟩
    · exact .inl hplain
    · obtain ⟨bytes, hbytes, hdec⟩ := ht
      refine .inr ⟨error, id, rfl, ?_, bytes, ?_, hdec⟩
      · rw [id?, ← heven.callers]
        exact hid
      · exact List.mem_filterMap.mpr ⟨_, List.mem_of_getElem? hbytes, rfl⟩
  · exact .inl hplain

/-- An order is a call of the method's name with the encoded params: it runs out
of time and fails as the call does, a value of the call becomes what it is read
as, and one that cannot be read is a failure of the protocol. In a run over any
transport, whatever comes in and whatever becomes of the link, a call and its
order fail plainly, or with the code, the message and the data of an error reply
that has come in a frame and has the id of the call. The calls of observers
always fail plainly. -/
theorem results_of_orders [Link.Plain L] (h : Client.connect plan directory notes reach = .ok c)
    (T : Transport L N) {xs : List (Happening T)} (ho : ∀ x ∈ xs, x.Orderly) :
    let s := T.run ⟨c, []⟩ xs
    (∀ queue program, (Order.submit queue program).IsCall L N "submitJob"
      (JobRequest.toJson { queue, program })
      fun v => (Submission.decode v).toOption.map Submission.job) ∧
    (∀ r, (Order.submitJob r).IsCall L N "submitJob" r.toJson
      fun v => (Submission.decode v).toOption) ∧
    (∀ i, (Order.cancelJob i).IsCall L N "cancelJob" i.toParams
      fun v => (JobId.decode v).toOption.or (JobId.ofParams v).toOption) ∧
    (∀ i, (Order.lookupJob i).IsCall L N "lookupJob" i.toParams
      fun v => (JobInfo.decode v).toOption) ∧
    Order.listQueues.IsCall L N "listQueues" .null (fun v => (Queues.decode v).1.toOption) ∧
    (∀ k result e, s.call? k = some (.ended result) → FailsWith result e →
      e.isPlain = true ∨ ∃ error id, e = .remote error ∧ s.id? k = some id ∧
        ∃ frame ∈ T.framesOfRun ⟨c, []⟩ xs,
          Inbound.decode frame = .ok (.reply ⟨id, .error error⟩)) ∧
    ∀ method params (d : Desk (Session L N)), ∃ result,
      (Call.attempt method params d).1 = .ended result ∧
        ∀ e, FailsWith result e → e.isPlain = true := by
  intro s
  refine ⟨fun queue program => ?_, fun r => ?_, fun i => ?_, fun i => ?_, ?_, ?_, ?_⟩
  · exact Order.isCall fun v => Order.toOption_map Submission.job (Submission.decode v)
  · exact Order.isCall fun v => rfl
  · exact Order.isCall Order.toOption_cancellation
  · exact Order.isCall fun v => rfl
  · exact Order.isCall fun v => rfl
  · intro k result e hk hfails
    exact (T.follows_run ho ⟨c, []⟩).failsWith h hk hfails
  · intro method params d
    obtain ⟨result, hended, hplain⟩ := Call.attempt_plain method params d
    exact ⟨result, hended, fun e hfails => hfails.error.elim (hplain e) id⟩

/-- What a call that has failed says, and whether the server has said it. -/
def failure? : Call → Option (Bool × String)
  | .ended (.error e) => some (e.isRemote, e.message)
  | _ => none

theorem exists_failure {call? : Option Call} {remote : Bool} {text : String}
    (h : call?.bind failure? = some (remote, text)) :
    ∃ e, call? = some (.ended (.error e)) ∧ e.isRemote = remote ∧ e.message = text := by
  obtain ⟨call, rfl, hcall⟩ := Option.bind_eq_some_iff.mp h
  cases call with
  | ended result =>
      cases result with
      | error e =>
          cases hcall
          exact ⟨e, rfl, rfl, rfl⟩
      | ok _ => cases hcall
  | _ => cases hcall

/-- An observer that makes a call for each notification. It counts the calls that
are not sent, and disconnects the client if one is. -/
def impatient : Observer (Desk (Session Socket Nat)) := fun n =>
  .call "next" (.str n.method) fun
    | .error _ => (Reaction.change (· + 1) .returns).onNotes
    | .ok _ => .disconnect .returns

theorem orderly_impatient : Observer.Orderly impatient := by
  refine fun _ _ => Reaction.orderly_call fun result => ?_
  cases result with
  | error _ => exact Reaction.orderly_onNotes _ _
  | ok _ => exact Reaction.orderly_disconnect trivial

/-- On a socket, the server knows nothing of the job that is looked up, and tells
an observer of a tick, which makes a call itself. Then it takes no more bytes,
and the job is looked up again. -/
theorem results_of_lookup_refused :
    ∃ c : Client Socket Nat, Client.connectSocket {} "/tmp" 0 (fun _ => .server) = .ok c ∧
      let T := socket Nat
      let o := Order.lookupJob ⟨7⟩
      let lookup (k : Nat) : List (Happening T) :=
        [.event (.call o.method.name o.params), .event (.advance k), .event (.advance k),
          .event (.advance k)]
      let frame (text : String) : List (Happening T) :=
        (Frame.stream [Utf8.encode text]).map fun b => .act (SocketAct.byte b)
      let xs : List (Happening T) :=
        .event (.observe impatient) :: lookup 0 ++
          frame "\x7b\"id\":1,\"error\":\x7b\"code\":404,\"message\":\"unknown\"\x7d\x7d" ++
          frame "\x7b\"method\":\"tick\"\x7d" ++
          [.event (.look 0 true), .act (SocketAct.breaks "Broken pipe (os error 32)")] ++
          lookup 1 ++ [.event (.advance 1)]
      let s := T.run ⟨c, []⟩ xs
      (∀ x ∈ xs, x.Orderly) ∧ s.client.session.notes = 1 ∧
        (∃ e, s.call? 0 = some (.ended (.error e)) ∧ e.message = "Remote error 404: unknown" ∧
          ∃ error id, e = .remote error ∧ s.id? 0 = some id ∧
            ∃ frame ∈ T.framesOfRun ⟨c, []⟩ xs,
              Inbound.decode frame = .ok (.reply ⟨id, .error error⟩)) ∧
        ∃ e, s.call? 1 = some (.ended (.error e)) ∧
          e.message = "Connection failed: Send failed: IO error: Broken pipe (os error 32)" ∧
          (o.interpret (.error e)).1 = .error e ∧ e.isPlain = true := by
  obtain ⟨c, h⟩ : ∃ c : Client Socket Nat,
      Client.connectSocket {} "/tmp" 0 (fun _ => .server) = .ok c := ⟨_, rfl⟩
  refine ⟨c, h, ?_⟩
  intro T o lookup frame xs s
  have hframe : ∀ text, ∀ x ∈ frame text, x.Orderly := by
    intro text x hx
    obtain ⟨b, -, rfl⟩ := List.mem_map.mp hx
    trivial
  have hlookup : ∀ k, ∀ x ∈ lookup k, x.Orderly := by
    intro k
    simp [lookup, Happening.Orderly, Event.Orderly]
  have ho : ∀ x ∈ xs, x.Orderly := by
    simp only [xs, List.forall_mem_append, List.forall_mem_cons, List.cons_append]
    exact ⟨orderly_impatient, ⟨⟨⟨⟨hlookup 0, hframe _⟩, hframe _⟩, trivial, trivial, nofun⟩,
      hlookup 1⟩, trivial, nofun⟩
  have hzero : (s.call? 0).bind failure? = some (true, "Remote error 404: unknown") := by
    cases h
    decide +kernel
  have hone : (s.call? 1).bind failure? = some (false,
      "Connection failed: Send failed: IO error: Broken pipe (os error 32)") := by
    cases h
    decide +kernel
  have hnotes : s.client.session.notes = 1 := by
    cases h
    decide +kernel
  obtain ⟨e, he, hremote, htext⟩ := exists_failure hzero
  obtain ⟨e', he', hremote', htext'⟩ := exists_failure hone
  obtain ⟨-, -, -, -, -, hresults, -⟩ := results_of_orders h T ho
  have hread : (o.interpret (.error e')).1 = .error e' := rfl
  refine ⟨ho, hnotes, ⟨e, he, htext, ?_⟩, e', he', htext', hread, ?_⟩
  · refine (hresults 0 _ e he (.inl rfl)).resolve_left fun hplain => ?_
    rw [Failure.isRemote_of_isPlain hplain] at hremote
    cases hremote
  · refine (hresults 1 _ e' he' (.inr ⟨_, o, hread⟩)).resolve_right fun hreply => ?_
    obtain ⟨error, id, rfl, -⟩ := hreply
    cases hremote'

end Traffic

end RemoteJobs
