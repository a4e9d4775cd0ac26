import RemoteJobs.Proofs.Call
import RemoteJobs.Proofs.Observer

/-!
# What observers may do to their client

An observer of a client reaches the client's desk by the operations that every
program has: it works on its notes, makes calls that do not wait, and
disconnects. `Session.Use` is the closure of these, and counts the ids that are
drawn on the way; `Reaction.Draws` follows it through a reaction, and
`Observer.Draw` through those of all observers that a notification meets. For
observers that are `Orderly` there always is such a number.

What comes of it is little. A call of an observer that gets a slot takes it
away again before the next frame can fill it, so the slots are either what they
were, or closed; and the ids move on by those that were drawn, as long as they
last.
-/

namespace RemoteJobs

/-- The slots are what they were, or have been closed. -/
def Slots.SameOrClosed (s s' : Slots) : Prop := s' = s ∨ s'.closed = true ∧ s'.entries = []

theorem Slots.SameOrClosed.trans {s t u : Slots} (hst : s.SameOrClosed t)
    (htu : t.SameOrClosed u) : s.SameOrClosed u := by
  rcases htu with rfl | hu
  · exact hst
  · exact .inr hu

namespace Call

variable {L N : Type} [Link L]

/-- A call that does not wait. -/
def attempt (method : String) (params : Json) (d : Desk (Session L N)) :
    Call × Desk (Session L N) :=
  (issue method params d).1.look true (issue method params d).2.1

/-- A call that does not wait finds the client disconnected, fails, or times out
before any frame can be handled. -/
theorem attempt_cases (method : String) (params : Json) (d : Desk (Session L N)) :
    d.memory.connected = false ∧
        attempt method params d = (ended (.error .connectionClosed), d) ∨
      d.memory.connected = true ∧
        ((∃ f, (∀ P, Link.FailsOnly L P → P f) ∧
            attempt method params d = (ended (.error f), drawn d)) ∨
          ∃ k, (∃ frame, Link.send d.memory.link frame = .ok k) ∧
            attempt method params d = (ended (.ok .timedOut),
              { slots := d.slots, memory := { (drawn d).memory with link := k } })) := by
  cases hc : d.memory.connected with
  | false =>
      rw [attempt, issue_disconnected hc]
      exact .inl ⟨rfl, rfl⟩
  | true =>
      refine .inr ⟨rfl, ?_⟩
      rcases issue_of_connected hc method params with ⟨f, told, hf, h⟩ | ⟨s, k, hr, hs, h⟩
      · rw [attempt, h]
        exact .inl ⟨f, hf, rfl⟩
      · have hfind : s.find? d.memory.ids.upcoming = some none := by
          rw [Slots.find?_register hr, if_pos rfl]
        rw [attempt, h]
        simp only [look, Slots.look_expired hfind, Slots.erase_register hr]
        exact .inr ⟨k, ⟨_, hs⟩, rfl⟩

/-- It leaves no slot behind, whatever becomes of it. -/
theorem attempt_desk (method : String) (params : Json) (d : Desk (Session L N)) :
    (attempt method params d).2.slots = d.slots ∧
      (attempt method params d).2.memory.ids =
        if d.memory.connected then d.memory.ids.draw.2 else d.memory.ids := by
  rcases attempt_cases method params d with ⟨hc, h⟩ | ⟨hc, ⟨f, -, h⟩ | ⟨k, -, h⟩⟩
  · rw [h, hc]
    exact ⟨rfl, rfl⟩
  · rw [h, hc]
    exact ⟨rfl, rfl⟩
  · rw [h, hc]
    exact ⟨rfl, rfl⟩

end Call

/-! ## Uses of the client -/

/-- What a program does to the desk of its client, and how many ids it draws. -/
inductive Session.Use {L N : Type} [Link L] :
    Desk (Session L N) → Nat → Desk (Session L N) → Prop where
  /-- Work that leaves the slots and the ids alone. -/
  | memory {d : Desk (Session L N)} {m : Session L N} :
      m.ids = d.memory.ids → Use d 0 { d with memory := m }
  | close (d : Desk (Session L N)) : Use d 0 { d with slots := d.slots.close.2 }
  | call (method : String) (params : Json) (d : Desk (Session L N)) :
      Use d (if d.memory.connected then 1 else 0) (Call.attempt method params d).2
  | trans {d e f : Desk (Session L N)} {i j : Nat} : Use d i e → Use e j f → Use d (i + j) f

theorem Session.use_disconnect {L N : Type} [Link L] (d : Desk (Session L N)) :
    Session.Use d 0 (Session.disconnect d) := by
  rw [Session.disconnect]
  split
  · have hm : Session.Use (L := L) d 0 { d with memory :=
        { d.memory with connected := false, link := Link.shut d.memory.link } } := .memory rfl
    exact hm.trans (.close _)
  · exact .memory rfl

/-- The reaction reaches the desk by uses of the client only, and draws `n` ids
if it begins in the state `d`. -/
def Reaction.Draws {L N : Type} [Link L] :
    Reaction (Desk (Session L N)) → Desk (Session L N) → Nat → Prop
  | .returns, _, n => n = 0
  | .panics _, _, n => n = 0
  | .read next, d, n => (next d).Draws d n
  | .change f next, d, n => ∃ i j, Session.Use d i (f d) ∧ next.Draws (f d) j ∧ n = i + j
  | .tell _ next, d, n => next.Draws d n
  | .register _ next, d, n => next.Draws d n

/-- The observers, told of a notification one after the other, draw `n` ids. -/
def Observer.Draw {L N : Type} [Link L] (m : Notification) :
    List (Observer (Desk (Session L N))) → Desk (Session L N) → Nat → Prop
  | [], _, n => n = 0
  | o :: os, d, n => ∃ i j, (o m).Draws d i ∧ Observer.Draw m os ((o m).after d) j ∧ n = i + j

/-! ## Orderly observers -/

/-- The reaction reaches the desk by uses of the client only if it begins in the
state `d`, and so does every observer that it registers, in any state. -/
def Reaction.Orderly {L N : Type} [Link L] :
    Reaction (Desk (Session L N)) → Desk (Session L N) → Prop
  | .returns, _ => True
  | .panics _, _ => True
  | .read next, d => (next d).Orderly d
  | .change f next, d => (∃ i, Session.Use d i (f d)) ∧ next.Orderly (f d)
  | .tell _ next, d => next.Orderly d
  | .register o next, d => (∀ m e, (o m).Orderly e) ∧ next.Orderly d

def Observer.Orderly {L N : Type} [Link L] (o : Observer (Desk (Session L N))) : Prop :=
  ∀ m d, (o m).Orderly d

namespace Reaction

variable {L N : Type} [Link L] {r next : Reaction (Desk (Session L N))} {d : Desk (Session L N)}

theorem orderly_onNotes (r : Reaction N) :
    ∀ d : Desk (Session L N), (r.onNotes : Reaction (Desk (Session L N))).Orderly d := by
  induction r with
  | returns => exact fun _ => trivial
  | panics _ => exact fun _ => trivial
  | read next ih => exact fun d => ih d.memory.notes d
  | change f next ih => exact fun _ => ⟨⟨0, .memory rfl⟩, ih _⟩
  | tell n next ih => exact ih
  | register o next iho ih => exact fun d => ⟨iho, ih d⟩

theorem orderly_disconnect (h : next.Orderly (Session.disconnect d)) :
    (disconnect next).Orderly d := ⟨⟨0, Session.use_disconnect d⟩, h⟩

theorem orderly_call {method : String} {params : Json}
    {next : Except Failure (Outcome Json) → Reaction (Desk (Session L N))}
    (h : ∀ result, (next result).Orderly (Call.attempt method params d).2) :
    (call method params next).Orderly d := by
  have htell : ∀ (ns : List Notice) {r : Reaction (Desk (Session L N))} {e : Desk (Session L N)},
      r.Orderly e → (tellAll ns r).Orderly e := by
    intro ns r e hr
    induction ns with
    | nil => exact hr
    | cons _ _ ih => exact ih
  exact ⟨⟨_, .call method params d⟩, htell _ (h _)⟩

theorem Orderly.exists_draws (h : r.Orderly d) : ∃ n, r.Draws d n := by
  induction r generalizing d with
  | returns => exact ⟨0, rfl⟩
  | panics _ => exact ⟨0, rfl⟩
  | read next ih => exact ih d h
  | change f next ih =>
      obtain ⟨⟨i, hu⟩, hk⟩ := h
      obtain ⟨j, hj⟩ := ih hk
      exact ⟨i + j, i, j, hu, hj, rfl⟩
  | tell n next ih => exact ih h
  | register o next _ ih => exact ih h.2

theorem Orderly.registered (h : r.Orderly d) : ∀ o ∈ r.registered d, Observer.Orderly o := by
  induction r generalizing d with
  | returns => exact fun _ ho => by cases ho
  | panics _ => exact fun _ ho => by cases ho
  | read next ih => exact ih d h
  | change f next ih => exact ih h.2
  | tell n next ih => exact ih h
  | register o next _ ih =>
      intro o' ho'
      rcases List.mem_cons.mp ho' with rfl | ho'
      · exact h.1
      · exact ih h.2 o' ho'

end Reaction

theorem Observer.Orderly.exists_draw {L N : Type} [Link L] {m : Notification}
    {os : List (Observer (Desk (Session L N)))} (h : ∀ o ∈ os, Observer.Orderly o)
    (d : Desk (Session L N)) : ∃ n, Observer.Draw m os d n := by
  induction os generalizing d with
  | nil => exact ⟨0, rfl⟩
  | cons o os ih =>
      obtain ⟨i, hi⟩ := (h o List.mem_cons_self m d).exists_draws
      obtain ⟨j, hj⟩ := ih (fun o' ho' => h o' (List.mem_cons_of_mem o ho')) ((o m).after d)
      exact ⟨i + j, i, j, hi, hj, rfl⟩

/-! ## What comes of it -/

namespace Session

variable {L N : Type}

theorem number_draw {s : IdSupply} {n : Nat} (h : s.upcoming.number = n + 1)
    (hn : n + 1 < 18446744073709551615) : s.draw.2.upcoming.number = n + 1 + 1 := by
  rw [IdSupply.draw, PacketId.number_successor (by omega), h]

variable [Link L] {d d' : Desk (Session L N)} {i : Nat}

theorem Use.slots (hu : Use d i d') : d.slots.SameOrClosed d'.slots := by
  induction hu with
  | memory _ => exact .inl rfl
  | close d => exact Slots.close_slots d.slots
  | call method params d => exact .inl (Call.attempt_desk method params d).1
  | trans _ _ ih₁ ih₂ => exact ih₁.trans ih₂

theorem Use.upcoming (hu : Use d i d') : ∀ {n : Nat}, d.memory.ids.upcoming.number = n + 1 →
    n + i < 18446744073709551615 → d'.memory.ids.upcoming.number = n + i + 1 := by
  induction hu with
  | memory h =>
      intro n hd _
      rw [h, hd]
  | close d =>
      intro n hd _
      exact hd
  | call method params d =>
      intro n hd hn
      rw [(Call.attempt_desk method params d).2]
      split
      · next hc =>
          rw [if_pos hc] at hn
          exact number_draw hd hn
      · exact hd
  | trans _ _ ih₁ ih₂ =>
      intro n hd hn
      rw [ih₂ (ih₁ hd (by omega)) (by omega)]
      omega

end Session

namespace Reaction

variable {L N : Type} [Link L] {r : Reaction (Desk (Session L N))}

theorem Draws.slots : ∀ {d : Desk (Session L N)} {i : Nat}, r.Draws d i →
    d.slots.SameOrClosed (r.after d).slots := by
  induction r with
  | returns => exact fun _ => .inl rfl
  | panics _ => exact fun _ => .inl rfl
  | read next ih => exact fun h => ih _ h
  | change f next ih =>
      intro d _ h
      obtain ⟨_, _, hu, hk, -⟩ := h
      exact hu.slots.trans (ih hk)
  | tell _ next ih => exact fun h => ih h
  | register _ next _ ih => exact fun h => ih h

theorem Draws.upcoming : ∀ {d : Desk (Session L N)} {n i : Nat}, r.Draws d i →
    d.memory.ids.upcoming.number = n + 1 → n + i < 18446744073709551615 →
    (r.after d).memory.ids.upcoming.number = n + i + 1 := by
  induction r with
  | returns =>
      intro d n i hi hd _
      subst hi
      exact hd
  | panics _ =>
      intro d n i hi hd _
      subst hi
      exact hd
  | read next ih => exact fun h hd hn => ih _ h hd hn
  | change f next ih =>
      intro d n i h hd hn
      obtain ⟨j, k, hu, hk, rfl⟩ := h
      rw [after, ih hk (hu.upcoming hd (by omega)) (by omega)]
      omega
  | tell _ next ih => exact fun h hd hn => ih h hd hn
  | register _ next _ ih => exact fun h hd hn => ih h hd hn

end Reaction

namespace Observer

variable {L N : Type} [Link L] {m : Notification} {os : List (Observer (Desk (Session L N)))}

theorem Draw.slots : ∀ {d : Desk (Session L N)} {i : Nat}, Observer.Draw m os d i →
    d.slots.SameOrClosed (os.foldl (fun d o => (o m).after d) d).slots := by
  induction os with
  | nil => exact fun _ => .inl rfl
  | cons o os ih =>
      intro d _ h
      obtain ⟨_, _, hj, hk, -⟩ := h
      exact hj.slots.trans (ih hk)

theorem Draw.upcoming : ∀ {d : Desk (Session L N)} {n i : Nat}, Observer.Draw m os d i →
    d.memory.ids.upcoming.number = n + 1 → n + i < 18446744073709551615 →
    (os.foldl (fun d o => (o m).after d) d).memory.ids.upcoming.number = n + i + 1 := by
  induction os with
  | nil =>
      intro d n i hi hd _
      subst hi
      exact hd
  | cons o os ih =>
      intro d n i h hd hn
      obtain ⟨j, k, hj, hk, rfl⟩ := h
      rw [List.foldl_cons, ih hk (hj.upcoming hd (by omega)) (by omega)]
      omega

end Observer

end RemoteJobs
