import Mathlib.Data.List.Forall2
import RemoteJobs.Proofs.Conduct

/-!
# Observers that act alike

Two scenes over different states are compared through a relation of the states.
Reactions that are `Alike` take the same acts in related states and come to
related states again, up to the notices about a link; so do scenes whose
observers are alike in pairs. Whatever is announced to both, they stay alike.

Clients on different links are compared by all that is not the link. Observers
that work on the notes are then alike, and so are those that disconnect their
clients and those that make the same calls, as long as they take no notice of
what becomes of them.
-/

namespace RemoteJobs

/-- Whether the notice is about a link: what is written to it, or read. -/
def Notice.ofLink : Notice → Bool
  | .sendFailed .. | .readFailed _ => true
  | _ => false

namespace Notice

/-- The notices that are not about a link. -/
def unlinked (ns : List Notice) : List Notice := ns.filter (!·.ofLink)

theorem unlinked_append (ns ns' : List Notice) :
    unlinked (ns ++ ns') = unlinked ns ++ unlinked ns' := List.filter_append ns ns'

theorem unlinked_append_ofLink {n : Notice} (h : n.ofLink = true) (ns : List Notice) :
    unlinked (ns ++ [n]) = unlinked ns := by
  rw [unlinked_append, unlinked, unlinked, List.filter_singleton, h]
  exact List.append_nil _

theorem unlinked_cons_of {n : Notice} (h : n.ofLink = true) (ns : List Notice) :
    unlinked (n :: ns) = unlinked ns := by
  rw [unlinked, List.filter_cons, h]
  rfl

theorem unlinked_cons_of_not {n : Notice} (h : n.ofLink = false) (ns : List Notice) :
    unlinked (n :: ns) = n :: unlinked ns := by
  rw [unlinked, List.filter_cons, h]
  rfl

end Notice

/-- The reactions do the same in states that `R` relates. -/
inductive Reaction.Alike {σ τ : Type} (R : σ → τ → Prop) : Reaction σ → Reaction τ → Prop where
  | returns : Alike R .returns .returns
  | panics (text : Option String) : Alike R (.panics text) (.panics text)
  | read {next : σ → Reaction σ} {next' : τ → Reaction τ} :
      (∀ x y, R x y → Alike R (next x) (next' y)) → Alike R (.read next) (.read next')
  | change {f : σ → σ} {g : τ → τ} {r : Reaction σ} {r' : Reaction τ} :
      (∀ x y, R x y → R (f x) (g y)) → Alike R r r' → Alike R (.change f r) (.change g r')
  | tell (n : Notice) {r : Reaction σ} {r' : Reaction τ} :
      Alike R r r' → Alike R (.tell n r) (.tell n r')
  /-- A notice about a link is no act to be compared. -/
  | tellLeft {n : Notice} {r : Reaction σ} {r' : Reaction τ} :
      n.ofLink = true → Alike R r r' → Alike R (.tell n r) r'
  | tellRight {n : Notice} {r : Reaction σ} {r' : Reaction τ} :
      n.ofLink = true → Alike R r r' → Alike R r (.tell n r')
  | register {o : Observer σ} {o' : Observer τ} {r : Reaction σ} {r' : Reaction τ} :
      (∀ n, Alike R (o n) (o' n)) → Alike R r r' → Alike R (.register o r) (.register o' r')

def Observer.Alike {σ τ : Type} (R : σ → τ → Prop) (o : Observer σ) (o' : Observer τ) : Prop :=
  ∀ n, (o n).Alike R (o' n)

theorem Observer.Alike.only {σ τ : Type} {R : σ → τ → Prop} {o : Observer σ} {o' : Observer τ}
    (h : o.Alike R o') (method : String) : (o.only method).Alike R (o'.only method) := by
  intro n
  rw [Observer.only, Observer.only]
  split
  · exact h n
  · exact .returns

/-- The scenes are in related states, their observers are alike in pairs, and
the notices so far are the same, but for those about a link. -/
structure Scene.Alike {σ τ : Type} (R : σ → τ → Prop) (c : Scene σ) (c' : Scene τ) : Prop where
  state : R c.state c'.state
  observers : List.Forall₂ (Observer.Alike R) c.observers c'.observers
  notices : Notice.unlinked c.notices = Notice.unlinked c'.notices

namespace Scene

variable {σ τ : Type} {R : σ → τ → Prop} {c : Scene σ} {c' : Scene τ}

theorem Alike.tell {ns ns' : List Notice} (h : c.Alike R c')
    (hns : Notice.unlinked ns = Notice.unlinked ns') : (c.tell ns).Alike R (c'.tell ns') where
  state := h.state
  observers := h.observers
  notices := by
    rw [Scene.tell, Scene.tell, Notice.unlinked_append, Notice.unlinked_append, h.notices, hns]

theorem Alike.tell_left {n : Notice} (hn : n.ofLink = true) (h : c.Alike R c') :
    (c.tell [n]).Alike R c' where
  state := h.state
  observers := h.observers
  notices := (Notice.unlinked_append_ofLink hn _).trans h.notices

theorem Alike.tell_right {n : Notice} (hn : n.ofLink = true) (h : c.Alike R c') :
    c.Alike R (c'.tell [n]) where
  state := h.state
  observers := h.observers
  notices := h.notices.trans (Notice.unlinked_append_ofLink hn _).symm

theorem Alike.observe {o : Observer σ} {o' : Observer τ} (h : c.Alike R c')
    (ho : o.Alike R o') : (c.observe o).Alike R (c'.observe o') where
  state := h.state
  observers := List.rel_append h.observers (.cons ho .nil)
  notices := h.notices

theorem Alike.perform {r : Reaction σ} {r' : Reaction τ} (hr : r.Alike R r') (h : c.Alike R c') :
    (c.perform r).1 = (c'.perform r').1 ∧ (c.perform r).2.Alike R (c'.perform r').2 := by
  induction hr generalizing c c' with
  | returns => exact ⟨rfl, h⟩
  | panics text => exact ⟨rfl, h⟩
  | read _ ih => exact ih _ _ h.state h
  | change hf _ ih => exact ih ⟨hf _ _ h.state, h.observers, h.notices⟩
  | tell n _ ih => exact ih (h.tell rfl)
  | tellLeft hn _ ih => exact ih (h.tell_left hn)
  | tellRight hn _ ih => exact ih (h.tell_right hn)
  | register ho _ _ ih => exact ih (h.observe ho)

theorem Alike.tellFrom {os : List (Observer σ)} {os' : List (Observer τ)} (n : Notification)
    (hos : List.Forall₂ (Observer.Alike R) os os') (index : Nat) (h : c.Alike R c') :
    (tellFrom n index c os).2.Alike R (tellFrom n index c' os').2 := by
  induction hos generalizing index c c' with
  | nil => exact h
  | @cons o o' _ _ ho _ ih =>
      obtain ⟨hending, hscene⟩ := Alike.perform (ho n) h
      rw [Scene.tellFrom, Scene.tellFrom]
      generalize c.perform (o n) = p at hending hscene
      generalize c'.perform (o' n) = p' at hending hscene
      obtain ⟨e, d⟩ := p
      obtain ⟨e', d'⟩ := p'
      cases hending
      cases e with
      | returned => exact ih (index + 1) hscene
      | panicked text => exact ih (index + 1) (hscene.tell rfl)

theorem Alike.announce (h : c.Alike R c') (n : Notification) :
    (c.announce n).2.Alike R (c'.announce n).2 := h.tellFrom n h.observers 0

end Scene

/-! ## Clients on different links -/

/-- What of a session is not its link. -/
def Session.unlinked {L N : Type} (m : Session L N) : Session Unit N := { m with link := () }

/-- The desks differ in their links at most. -/
def Desk.SameButLink {L L' N : Type} (d : Desk (Session L N)) (d' : Desk (Session L' N)) : Prop :=
  d.slots = d'.slots ∧ d.memory.unlinked = d'.memory.unlinked

namespace Desk.SameButLink

variable {L L' N : Type} {d : Desk (Session L N)} {d' : Desk (Session L' N)}

theorem notes (h : d.SameButLink d') : d.memory.notes = d'.memory.notes :=
  congrArg Session.notes h.2

theorem ids (h : d.SameButLink d') : d.memory.ids = d'.memory.ids :=
  congrArg Session.ids h.2

theorem connected (h : d.SameButLink d') : d.memory.connected = d'.memory.connected :=
  congrArg Session.connected h.2

theorem drawn (h : d.SameButLink d') : (Call.drawn d).SameButLink (Call.drawn d') :=
  ⟨h.1, by
    have hm := congrArg (fun m : Session Unit N => { m with ids := m.ids.draw.2 }) h.2
    exact hm⟩

theorem disconnect [Link L] [Link L'] (h : d.SameButLink d') :
    (Session.disconnect d).SameButLink (Session.disconnect d') := by
  rw [Session.disconnect, Session.disconnect, ← h.connected]
  split
  · refine ⟨congrArg (fun s : Slots => s.close.2) h.1, ?_⟩
    have hm := congrArg (fun m : Session Unit N => { m with connected := false }) h.2
    exact hm
  · exact h

end Desk.SameButLink

namespace Call

variable {L L' N : Type} [Link L] [Link L'] {d : Desk (Session L N)} {d' : Desk (Session L' N)}

/-- What a call leaves, but for the link, does not depend on the link. -/
theorem attempt_unlinked (method : String) (params : Json) (d : Desk (Session L N)) :
    (attempt method params d).2.slots = d.slots ∧
      (attempt method params d).2.memory.unlinked =
        if d.memory.connected then (drawn d).memory.unlinked else d.memory.unlinked := by
  rcases attempt_cases method params d with ⟨hc, h⟩ | ⟨hc, ⟨f, -, h⟩ | ⟨k, -, h⟩⟩
  · rw [h, hc]
    exact ⟨rfl, rfl⟩
  · rw [h, hc]
    exact ⟨rfl, rfl⟩
  · rw [h, hc]
    exact ⟨rfl, rfl⟩

theorem attempt_sameButLink (method : String) (params : Json) (h : d.SameButLink d') :
    (attempt method params d).2.SameButLink (attempt method params d').2 := by
  obtain ⟨hslots, hmemory⟩ := attempt_unlinked method params d
  obtain ⟨hslots', hmemory'⟩ := attempt_unlinked method params d'
  refine ⟨hslots.trans (h.1.trans hslots'.symm), ?_⟩
  rw [hmemory, hmemory', h.connected, h.drawn.2, h.2]

/-- Why an id gets no slot is all that a call has to tell, but for the link. -/
theorem issue_notices (method : String) (params : Json) (d : Desk (Session L N)) :
    Notice.unlinked (issue method params d).2.2 =
      if d.memory.connected then
        match d.slots.register d.memory.ids.upcoming with
        | .ok _ => []
        | .error e => e.notices
      else [] := by
  cases hc : d.memory.connected with
  | false =>
      rw [issue_disconnected hc]
      rfl
  | true =>
      cases hr : d.slots.register d.memory.ids.upcoming with
      | error e =>
          rw [issue_refused hc hr]
          cases e with
          | closed => rfl
          | full id pending max => rfl
          | taken id => rfl
      | ok s =>
          cases hs : Link.send d.memory.link
              (Request.call d.memory.ids.upcoming method params).bytes with
          | error e =>
              rw [issue_unsent hc hr hs]
              rfl
          | ok k =>
              rw [issue_sent hc hr hs]
              rfl

theorem issue_notices_sameButLink (method : String) (params : Json) (h : d.SameButLink d') :
    Notice.unlinked (issue method params d).2.2 = Notice.unlinked (issue method params d').2.2 := by
  rw [issue_notices, issue_notices, h.connected, h.1, h.ids]

end Call

namespace Reaction

variable {L L' N : Type}

theorem alike_onNotes (r : Reaction N) :
    (r.onNotes : Reaction (Desk (Session L N))).Alike Desk.SameButLink
      (r.onNotes : Reaction (Desk (Session L' N))) := by
  induction r with
  | returns => exact .returns
  | panics text => exact .panics text
  | read next ih =>
      refine .read fun d d' h => ?_
      rw [h.notes]
      exact ih d'.memory.notes
  | change f next ih =>
      refine .change (fun d d' h => ⟨h.1, ?_⟩) ih
      exact congrArg (fun m : Session Unit N => { m with notes := f m.notes }) h.2
  | tell n next ih => exact .tell n ih
  | register o next iho ih => exact .register iho ih

section

variable {σ τ : Type} {R : σ → τ → Prop} {r : Reaction σ} {r' : Reaction τ}

theorem Alike.tellAll_right (h : r.Alike R r') {ns : List Notice}
    (hns : Notice.unlinked ns = []) : r.Alike R (tellAll ns r') := by
  induction ns with
  | nil => exact h
  | cons n ns ih =>
      cases hn : n.ofLink with
      | true => exact .tellRight hn (ih (by rwa [Notice.unlinked_cons_of hn] at hns))
      | false =>
          rw [Notice.unlinked_cons_of_not hn] at hns
          cases hns

/-- A notice to come on the left side comes on the right side, too, after some
that are about a link. -/
theorem Alike.tellAll_right_cons {n : Notice} {ms : List Notice}
    (h : ∀ ns, ms = Notice.unlinked ns → r.Alike R (Reaction.tellAll ns r')) {ns : List Notice}
    (hns : n :: ms = Notice.unlinked ns) : (Reaction.tell n r).Alike R (tellAll ns r') := by
  induction ns with
  | nil => cases hns
  | cons n' ns ih =>
      cases hn : n'.ofLink with
      | true => exact .tellRight hn (ih (by rwa [Notice.unlinked_cons_of hn] at hns))
      | false =>
          rw [Notice.unlinked_cons_of_not hn] at hns
          cases hns
          exact .tell n (h ns rfl)

/-- Notices that are the same but for those about a link can be told before
reactions that are alike. -/
theorem Alike.tellAll (h : r.Alike R r') {ns ns' : List Notice}
    (hns : Notice.unlinked ns = Notice.unlinked ns') :
    (tellAll ns r).Alike R (tellAll ns' r') := by
  induction ns generalizing ns' with
  | nil => exact h.tellAll_right hns.symm
  | cons n ns ih =>
      cases hn : n.ofLink with
      | true =>
          rw [Notice.unlinked_cons_of hn] at hns
          exact .tellLeft hn (ih hns)
      | false =>
          rw [Notice.unlinked_cons_of_not hn] at hns
          exact Alike.tellAll_right_cons (fun _ => ih) hns

end

variable [Link L] [Link L']

theorem alike_call (method : String) (params : Json)
    {next : Except Failure (Outcome Json) → Reaction (Desk (Session L N))}
    {next' : Except Failure (Outcome Json) → Reaction (Desk (Session L' N))}
    (h : ∀ result result', (next result).Alike Desk.SameButLink (next' result')) :
    (call method params next).Alike Desk.SameButLink (call method params next') :=
  .read fun _ _ hd => .change (fun _ _ _ => Call.attempt_sameButLink method params hd)
    (Alike.tellAll (h _ _) (Call.issue_notices_sameButLink method params hd))

theorem alike_disconnect {r : Reaction (Desk (Session L N))} {r' : Reaction (Desk (Session L' N))}
    (h : r.Alike Desk.SameButLink r') :
    (disconnect r).Alike Desk.SameButLink (disconnect r') :=
  .change (fun _ _ hd => hd.disconnect) h

end Reaction

/-- The clients differ in their links at most, and in the notices about them. -/
abbrev Client.Alike {L L' N : Type} (c : Client L N) (c' : Client L' N) : Prop :=
  Scene.Alike Desk.SameButLink c c'

namespace Client

variable {L L' N : Type} {c : Client L N} {c' : Client L' N}

theorem Alike.handle (h : Alike c c') (frame : Bytes) :
    Alike (Inbox.handle c frame) (Inbox.handle c' frame) := by
  unfold Inbox.handle
  split
  · next r hr =>
      obtain ⟨hslots, hmemory⟩ := h.state
      have hfill : c.state.slots.fill r = c'.state.slots.fill r := by rw [hslots]
      have hfilled : Alike { c with state := { c.state with slots := (c.state.slots.fill r).2 } }
          { c' with state := { c'.state with slots := (c'.state.slots.fill r).2 } } :=
        ⟨⟨congrArg (·.2) hfill, hmemory⟩, h.observers, h.notices⟩
      exact hfilled.tell (congrArg (fun x => Notice.unlinked x.1.notices) hfill)
  · next n hn => exact Scene.Alike.announce h n
  · next m hm => exact Scene.Alike.tell h rfl

theorem Alike.withLink_left (h : Alike c c') (f : L → L) : Alike (c.withLink f) c' :=
  ⟨h.state, h.observers, h.notices⟩

end Client

end RemoteJobs
