import RemoteJobs.Proofs.Channel

/-!
# The one sink of a channel

A channel keeps its sink in a place that says two things: whether a client has
connected, and whom to tell of frames and of the end. The end empties the place
again, and only the mark of a closed channel then keeps a second client out.
`Course` ties the place and the mark to the history. In its whole life a channel
has one sink at most, `o`; while it is open the place holds just that sink, and
the sink has got the frames that were heard and, once the channel is closed, the
word of it, last of all.
-/

namespace RemoteJobs.Channel

variable {κ : Type} {c c' : Channel κ} {h : List (Deed κ)} {d : Deed κ} {o : Option κ}

/-- Whether no sink takes part in the act. -/
def Act.isQuiet : Act κ → Bool
  | send _ => true
  | look _ => true
  | failing _ => true
  | _ => false

theorem act_of_isQuiet (c : Channel κ) {a : Act κ} (ha : a.isQuiet = true) :
    ((c.act a).1.connected? = none ∧ (c.act a).1.heard? = none ∧ (c.act a).1.got = []) ∧
      (c.act a).2.closed = c.closed ∧ (c.act a).2.sink = c.sink := by
  cases a with
  | send frame =>
      by_cases hr : c.closed = true ∨ c.failing = true
      · obtain ⟨why, hr⟩ := act_send_refused hr frame
        rw [hr]
        exact ⟨⟨rfl, rfl, rfl⟩, rfl, rfl⟩
      · rw [not_or, Bool.not_eq_true, Bool.not_eq_true] at hr
        rw [act_send hr.1 hr.2]
        exact ⟨⟨rfl, rfl, rfl⟩, rfl, rfl⟩
  | look expired =>
      cases hq : c.queue with
      | nil =>
          rw [act_look_of_nil hq]
          exact ⟨⟨rfl, rfl, rfl⟩, rfl, rfl⟩
      | cons frame r =>
          rw [act_look_of_cons hq]
          exact ⟨⟨rfl, rfl, rfl⟩, rfl, rfl⟩
  | failing on => exact ⟨⟨rfl, rfl, rfl⟩, rfl, rfl⟩
  | _ => cases ha

/-- The history of a channel whose sink is or was `o`. -/
structure Course (o : Option κ) (h : List (Deed κ)) (c : Channel κ) : Prop where
  connected : h.filterMap Deed.connected? = o.toList
  sink : c.sink = if c.closed then none else o
  unheard : o = none → h.filterMap Deed.heard? = []
  got : h.flatMap Deed.got = o.toList.flatMap fun k =>
    (h.filterMap Deed.heard?).map (fun frame => (k, .frame frame)) ++
      if c.closed then [(k, .closed)] else []

theorem course_start : Course none [] ({} : Channel κ) := ⟨rfl, rfl, fun _ => rfl, rfl⟩

/-- An act of which no sink gets anything. -/
theorem Course.quiet (hc : Course o h c) (hconnected : d.connected? = none)
    (hheard : d.heard? = none) (hgot : d.got = []) (hclosed : c'.closed = c.closed)
    (hsink : c'.sink = c.sink) : Course o (h ++ [d]) c' := by
  have hone : ∀ {α : Type} {f : Deed κ → Option α}, f d = none →
      (h ++ [d]).filterMap f = h.filterMap f := by
    intro α f hf
    rw [List.filterMap_append, List.filterMap_cons_none hf]
    exact List.append_nil _
  refine ⟨?_, ?_, ?_, ?_⟩
  · rw [hone hconnected, hc.connected]
  · rw [hsink, hclosed, hc.sink]
  · rw [hone hheard]
    exact hc.unheard
  · rw [List.flatMap_append, List.flatMap_singleton, hgot, List.append_nil, hone hheard, hclosed,
      hc.got]

theorem Course.sink_of_open (hc : Course o h c) (hopen : c.closed = false) : c.sink = o := by
  rw [hc.sink, hopen]
  rfl

theorem Course.sink_of_closed (hc : Course o h c) (hclosed : c.closed = true) : c.sink = none := by
  rw [hc.sink, hclosed]
  rfl

theorem Course.connect (hc : Course o h c) (k : κ) :
    ∃ o', Course o' (h ++ [(c.act (.connect k)).1]) (c.act (.connect k)).2 := by
  by_cases hr : c.closed = true ∨ c.sink.isSome = true
  · obtain ⟨why, hr⟩ := act_connect_refused hr k
    rw [hr]
    exact ⟨o, hc.quiet rfl rfl rfl rfl rfl⟩
  · rw [not_or, Bool.not_eq_true, Option.not_isSome_iff_eq_none] at hr
    obtain ⟨hopen, hsink⟩ := hr
    obtain rfl : none = o := hsink.symm.trans (hc.sink_of_open hopen)
    rw [act_connect hopen hsink]
    refine ⟨some k, ?_, ?_, fun hnone => ?_, ?_⟩
    · rw [List.filterMap_append, hc.connected]
      rfl
    · rw [hopen]
      rfl
    · cases hnone
    · rw [List.flatMap_append, hc.got, List.filterMap_append, hc.unheard rfl, hopen]
      rfl

theorem Course.inject (hc : Course o h c) (frame : Bytes) :
    Course o (h ++ [(c.act (.inject frame)).1]) (c.act (.inject frame)).2 := by
  cases hsink : c.sink with
  | none =>
      rw [act, hsink]
      exact hc.quiet rfl rfl rfl rfl rfl
  | some k =>
      -- Shutting empties the place, so a sink in it shows that the channel is open.
      have hopen : c.closed = false := by
        rw [← Bool.not_eq_true]
        intro hclosed
        rw [hc.sink_of_closed hclosed] at hsink
        cases hsink
      obtain rfl : some k = o := hsink.symm.trans (hc.sink_of_open hopen)
      rw [act, hsink]
      refine ⟨?_, hc.sink, fun hnone => ?_, ?_⟩
      · rw [List.filterMap_append, hc.connected]
        rfl
      · cases hnone
      · rw [List.flatMap_append, hc.got, List.filterMap_append, hopen]
        simp [Deed.heard?]

theorem Course.shut (hc : Course o h c) {a : Act κ} (ha : a.shuts = true) :
    Course o (h ++ [(c.act a).1]) (c.act a).2 := by
  have hquiet : ∀ got, (Deed.mk a .done got).connected? = none ∧
      (Deed.mk a .done got).heard? = none := by
    intro got
    cases a with
    | close => exact ⟨rfl, rfl⟩
    | hangUp => exact ⟨rfl, rfl⟩
    | _ => cases ha
  rw [act_of_shuts ha]
  cases hclosed : c.closed with
  | true =>
      rw [shut_of_closed hclosed]
      exact hc.quiet (hquiet []).1 (hquiet []).2 rfl rfl rfl
  | false =>
      have hsink := hc.sink_of_open hclosed
      rw [shut_of_open hclosed, hsink]
      refine ⟨?_, rfl, ?_, ?_⟩
      · rw [List.filterMap_append, List.filterMap_cons_none (hquiet _).1, hc.connected]
        exact List.append_nil _
      · intro ho
        rw [List.filterMap_append, List.filterMap_cons_none (hquiet _).2, hc.unheard ho]
        rfl
      · rw [List.flatMap_append, hc.got, List.filterMap_append,
          List.filterMap_cons_none (hquiet _).2, hclosed]
        cases o with
        | none => rfl
        | some k => simp

theorem Course.act (hc : Course o h c) (a : Act κ) :
    ∃ o', Course o' (h ++ [(c.act a).1]) (c.act a).2 := by
  have hquiet : a.isQuiet = true → ∃ o', Course o' (h ++ [(c.act a).1]) (c.act a).2 := by
    intro ha
    obtain ⟨⟨hconnected, hheard, hgot⟩, hclosed, hsink⟩ := act_of_isQuiet c ha
    exact ⟨o, hc.quiet hconnected hheard hgot hclosed hsink⟩
  cases a with
  | connect k => exact hc.connect k
  | inject frame => exact ⟨o, hc.inject frame⟩
  | close => exact ⟨o, hc.shut rfl⟩
  | hangUp => exact ⟨o, hc.shut rfl⟩
  | send frame => exact hquiet rfl
  | look expired => exact hquiet rfl
  | failing on => exact hquiet rfl

theorem Course.run (hc : Course o h c) (as : List (Act κ)) :
    ∃ o', Course o' (h ++ c.history as) (c.run as) := by
  induction as generalizing o h c with
  | nil =>
      rw [history, List.append_nil]
      exact ⟨o, hc⟩
  | cons a as ih =>
      obtain ⟨o', hone⟩ := hc.act a
      obtain ⟨o'', hrest⟩ := ih hone
      rw [List.append_assoc] at hrest
      exact ⟨o'', hrest⟩

/-! ## What the history says of the next act -/

section

variable (hc : Course o h c)

include hc

theorem Course.length_connected : (h.filterMap Deed.connected?).length ≤ 1 := by
  rw [hc.connected, Option.length_toList]
  split
  · exact Nat.le_refl 1
  · exact Nat.zero_le 1

theorem Course.connect_first (hnone : h.filterMap Deed.connected? = []) (hopen : c.closed = false)
    (k : κ) : c.act (.connect k) = (⟨.connect k, .accepted, []⟩, { c with sink := some k }) := by
  rw [hc.connected, Option.toList_eq_nil_iff] at hnone
  exact act_connect hopen ((hc.sink_of_open hopen).trans hnone) k

theorem Course.connect_late (hr : h.filterMap Deed.connected? ≠ [] ∨ c.closed = true) (k : κ) :
    ∃ why, c.act (.connect k) = (⟨.connect k, .refused why, []⟩, c) := by
  refine act_connect_refused ?_ k
  cases hclosed : c.closed with
  | true => exact .inl rfl
  | false =>
      have hne := hr.resolve_right (ne_true_of_eq_false hclosed)
      rw [hc.connected, ne_eq, Option.toList_eq_nil_iff] at hne
      rw [hc.sink_of_open hclosed]
      exact .inr (Option.ne_none_iff_isSome.mp hne)

theorem Course.inject_heard {k : κ} (hk : h.filterMap Deed.connected? = [k])
    (hopen : c.closed = false) (frame : Bytes) :
    c.act (.inject frame) = (⟨.inject frame, .heard true, [(k, .frame frame)]⟩, c) := by
  rw [hc.connected, Option.toList_eq_singleton_iff] at hk
  rw [Channel.act, hc.sink_of_open hopen, hk]
  rfl

theorem Course.inject_unheard (hr : h.filterMap Deed.connected? = [] ∨ c.closed = true)
    (frame : Bytes) : c.act (.inject frame) = (⟨.inject frame, .heard false, []⟩, c) := by
  have hsink : c.sink = none := by
    rw [hc.sink]
    rcases hr with hnone | hclosed
    · rw [hc.connected, Option.toList_eq_nil_iff] at hnone
      rw [hnone, ite_self]
    · rw [hclosed]
      rfl
  rw [Channel.act, hsink]
  rfl

theorem Course.got_shut {a : Act κ} (ha : a.shuts = true) :
    (c.act a).1.got =
      if c.closed then [] else (h.filterMap Deed.connected?).map (·, .closed) := by
  rw [act_of_shuts ha]
  cases hclosed : c.closed with
  | true =>
      rw [shut_of_closed hclosed]
      rfl
  | false =>
      rw [shut_of_open hclosed, hc.sink_of_open hclosed, hc.connected]
      rfl

end

/-! ## After the end -/

theorem act_of_gone (hclosed : c.closed = true) (hsink : c.sink = none) (a : Act κ) :
    (c.act a).1.connected? = none ∧ (c.act a).1.got = [] ∧ (c.act a).2.sink = none := by
  have hquiet : a.isQuiet = true →
      (c.act a).1.connected? = none ∧ (c.act a).1.got = [] ∧ (c.act a).2.sink = none := by
    intro ha
    obtain ⟨⟨hconnected, -, hgot⟩, -, hsame⟩ := act_of_isQuiet c ha
    exact ⟨hconnected, hgot, hsame.trans hsink⟩
  cases a with
  | connect k =>
      obtain ⟨why, hr⟩ := act_connect_refused (.inl hclosed) k
      rw [hr]
      exact ⟨rfl, rfl, hsink⟩
  | inject frame =>
      rw [act, hsink]
      exact ⟨rfl, rfl, rfl⟩
  | close =>
      rw [act, shut_of_closed hclosed]
      exact ⟨rfl, rfl, hsink⟩
  | hangUp =>
      rw [act, shut_of_closed hclosed]
      exact ⟨rfl, rfl, hsink⟩
  | send frame => exact hquiet rfl
  | look expired => exact hquiet rfl
  | failing on => exact hquiet rfl

theorem history_of_gone (hclosed : c.closed = true) (hsink : c.sink = none) (as : List (Act κ)) :
    (c.history as).filterMap Deed.connected? = [] ∧ (c.history as).flatMap Deed.got = [] := by
  induction as generalizing c with
  | nil => exact ⟨rfl, rfl⟩
  | cons a as ih =>
      obtain ⟨hconnected, hgot, hnext⟩ := act_of_gone hclosed hsink a
      obtain ⟨hrest, hrest'⟩ := ih (by rw [(act_queue c a).2.1, hclosed, Bool.true_or]) hnext
      rw [history, List.filterMap_cons_none hconnected, List.flatMap_cons, hgot]
      exact ⟨hrest, hrest'⟩

/-! ## The sinks of a run -/

/-- A run of a new channel, whatever its acts and their order, connects one sink
at most: the first one that comes while the channel is open. Every other is
refused and changes nothing. Once somebody has shut the channel it is closed for
ever. A frame of the server is heard if a sink is connected and the channel is
open, and then that sink gets it and nobody else; if not, nobody gets anything.
To shut an open channel tells the sink that is connected, and to shut it again
tells nobody. So all that sinks ever get goes to the one that was connected: the
frames that were heard, in their order, and behind them, once the channel is
closed, the word of it. After that no sink is connected and none gets anything,
also if there never was one. -/
theorem sinks_of_acts (as : List (Act κ)) :
    let c : Channel κ := run {} as
    let h := history {} as
    let connections := h.filterMap Deed.connected?
    connections.length ≤ 1 ∧
    (∀ k,
      (connections = [] → c.closed = false →
        c.act (.connect k) = (⟨.connect k, .accepted, []⟩, { c with sink := some k })) ∧
      (connections ≠ [] ∨ c.closed = true →
        ∃ why, c.act (.connect k) = (⟨.connect k, .refused why, []⟩, c))) ∧
    (c.closed = true ↔ ∃ a ∈ as, a.shuts = true) ∧
    (∀ frame,
      (∀ k, connections = [k] → c.closed = false →
        c.act (.inject frame) = (⟨.inject frame, .heard true, [(k, .frame frame)]⟩, c)) ∧
      (connections = [] ∨ c.closed = true →
        c.act (.inject frame) = (⟨.inject frame, .heard false, []⟩, c))) ∧
    (∀ a, a.shuts = true →
      (c.act a).1.got = if c.closed then [] else connections.map (·, .closed)) ∧
    (h.flatMap Deed.got = connections.flatMap fun k =>
      (h.filterMap Deed.heard?).map (fun frame => (k, .frame frame)) ++
        if c.closed then [(k, .closed)] else []) ∧
    (c.closed = true → ∀ bs : List (Act κ),
      (c.run bs).closed = true ∧ (c.history bs).filterMap Deed.connected? = [] ∧
        (c.history bs).flatMap Deed.got = []) := by
  intro c h connections
  obtain ⟨o, hc⟩ := course_start.run as
  have hc : Course o h c := hc
  refine ⟨hc.length_connected, fun k => ⟨?_, ?_⟩, closed_run_iff as, fun frame => ⟨?_, ?_⟩, ?_, ?_,
    ?_⟩
  · exact fun hnone hopen => hc.connect_first hnone hopen k
  · exact fun hr => hc.connect_late hr k
  · exact fun k hk hopen => hc.inject_heard hk hopen frame
  · exact fun hr => hc.inject_unheard hr frame
  · exact fun a ha => hc.got_shut ha
  · rw [hc.got, ← hc.connected]
  · intro hclosed bs
    refine ⟨?_, history_of_gone hclosed (hc.sink_of_closed hclosed) bs⟩
    rw [closed_run, hclosed, Bool.true_or]

/-- Of two sinks the second is refused; the server hangs up between its frames. -/
example :
    let as : List (Act Nat) :=
      [.inject [1], .connect 7, .connect 8, .inject [2], .hangUp, .inject [3], .close, .connect 8]
    (history {} as).flatMap Deed.got = [(7, .frame [2]), (7, .closed)] := by
  rfl

end RemoteJobs.Channel
