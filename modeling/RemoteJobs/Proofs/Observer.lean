import RemoteJobs.Inbox
import RemoteJobs.Client.Reactions

/-!
# What a notification does to a scene

A reaction is a tree, and what it leaves is read off the tree: `after` goes
along the branch that the state itself chooses, and `registered` collects the
observers that it meets there. Whichever observers of a notification panic, the
state is that after all their reactions, one by one, and the new observers stand
behind the old ones.

A reaction that `Leaves` a part of the state alone, such as the slots of a desk,
makes no difference to it, and neither do the observers that it registers.
Those that reach the notes of a session only leave everything else alone.
-/

namespace RemoteJobs

namespace Reaction

variable {σ : Type}

/-- The state that a reaction leaves if it begins in the state `x`. -/
def after (x : σ) : Reaction σ → σ
  | .returns => x
  | .panics _ => x
  | .read next => after x (next x)
  | .change f next => after (f x) next
  | .tell _ next => after x next
  | .register _ next => after x next

/-- The observers that a reaction registers if it begins in the state `x`. -/
def registered (x : σ) : Reaction σ → List (Observer σ)
  | .returns => []
  | .panics _ => []
  | .read next => registered x (next x)
  | .change f next => registered (f x) next
  | .tell _ next => registered x next
  | .register o next => o :: registered x next

end Reaction

/-- The observers that others register when they are told of a notification one
after the other. -/
def Observer.registered {σ : Type} (n : Notification) : List (Observer σ) → σ → List (Observer σ)
  | [], _ => []
  | o :: os, x => (o n).registered x ++ Observer.registered n os ((o n).after x)

theorem Observer.mem_registered {σ : Type} {n : Notification} {os : List (Observer σ)}
    {o : Observer σ} {x : σ} (h : o ∈ Observer.registered n os x) :
    ∃ o' ∈ os, ∃ y, o ∈ (o' n).registered y := by
  induction os generalizing x with
  | nil => cases h
  | cons o' os ih =>
      rcases List.mem_append.mp h with h | h
      · exact ⟨o', List.mem_cons_self, x, h⟩
      · obtain ⟨p, hp, y, hy⟩ := ih h
        exact ⟨p, List.mem_cons_of_mem o' hp, y, hy⟩

namespace Scene

variable {σ : Type}

theorem perform_eq (c : Scene σ) (r : Reaction σ) :
    (c.perform r).2.state = r.after c.state ∧
      (c.perform r).2.observers = c.observers ++ r.registered c.state := by
  induction r generalizing c with
  | returns => exact ⟨rfl, (List.append_nil _).symm⟩
  | panics _ => exact ⟨rfl, (List.append_nil _).symm⟩
  | read next ih => exact ih c.state c
  | change f next ih => exact ih { c with state := f c.state }
  | tell n next ih => exact ih (c.tell [n])
  | register o next _ ih =>
      obtain ⟨hs, ho⟩ := ih (c.observe o)
      refine ⟨hs, ho.trans ?_⟩
      rw [observe, List.append_assoc]
      rfl

theorem tellFrom_eq (n : Notification) (os : List (Observer σ)) : ∀ (index : Nat) (c : Scene σ),
    (tellFrom n index c os).2.state = os.foldl (fun x o => (o n).after x) c.state ∧
      (tellFrom n index c os).2.observers =
        c.observers ++ Observer.registered n os c.state := by
  induction os with
  | nil =>
      intro index c
      exact ⟨rfl, (List.append_nil _).symm⟩
  | cons o os ih =>
      intro index c
      obtain ⟨hs, ho⟩ := perform_eq c (o n)
      rw [List.foldl_cons, Observer.registered, ← List.append_assoc, ← hs, ← ho, tellFrom]
      split
      · next c' h =>
          rw [h]
          exact ih (index + 1) c'
      · next text c' h =>
          rw [h]
          exact ih (index + 1) (c'.tell [.observerPanicked index n.method text])

/-- The observers of a notification act on the state in their order. -/
theorem state_announce (c : Scene σ) (n : Notification) :
    (c.announce n).2.state = c.observers.foldl (fun x o => (o n).after x) c.state :=
  (tellFrom_eq n c.observers 0 c).1

theorem observers_announce (c : Scene σ) (n : Notification) :
    (c.announce n).2.observers = c.observers ++ Observer.registered n c.observers c.state :=
  (tellFrom_eq n c.observers 0 c).2

end Scene

/-! ## Observers that leave a part of the state alone -/

/-- The reaction leaves `p` of the state alone, and so does every observer that
it registers. -/
def Reaction.Leaves {σ α : Type} (p : σ → α) : Reaction σ → Prop
  | .returns => True
  | .panics _ => True
  | .read next => ∀ x, (next x).Leaves p
  | .change f next => (∀ x, p (f x) = p x) ∧ next.Leaves p
  | .tell _ next => next.Leaves p
  | .register o next => (∀ n, (o n).Leaves p) ∧ next.Leaves p

def Observer.Leaves {σ α : Type} (p : σ → α) (o : Observer σ) : Prop := ∀ n, (o n).Leaves p

def Scene.Leaves {σ α : Type} (p : σ → α) (c : Scene σ) : Prop :=
  ∀ o ∈ c.observers, Observer.Leaves p o

namespace Reaction

variable {σ α β : Type} {p : σ → α} {r : Reaction σ}

theorem Leaves.map (g : α → β) (h : r.Leaves p) : r.Leaves fun x => g (p x) := by
  induction r with
  | returns => trivial
  | panics _ => trivial
  | read next ih => exact fun x => ih x (h x)
  | change f next ih => exact ⟨fun x => congrArg g (h.1 x), ih h.2⟩
  | tell n next ih => exact ih h
  | register o next iho ih => exact ⟨fun n => iho n (h.1 n), ih h.2⟩

theorem Leaves.after (h : r.Leaves p) (x : σ) : p (r.after x) = p x := by
  induction r generalizing x with
  | returns => rfl
  | panics _ => rfl
  | read next ih => exact ih x (h x) x
  | change f next ih => exact (ih h.2 (f x)).trans (h.1 x)
  | tell n next ih => exact ih h x
  | register o next _ ih => exact ih h.2 x

theorem Leaves.registered (h : r.Leaves p) (x : σ) : ∀ o ∈ r.registered x, Observer.Leaves p o := by
  induction r generalizing x with
  | returns => exact fun _ ho => by cases ho
  | panics _ => exact fun _ ho => by cases ho
  | read next ih => exact ih x (h x) x
  | change f next ih => exact ih h.2 (f x)
  | tell n next ih => exact ih h x
  | register o next _ ih =>
      intro o' ho'
      rcases List.mem_cons.mp ho' with rfl | ho'
      · exact h.1
      · exact ih h.2 x o' ho'

theorem leaves_onNotes {L N : Type} {p : Desk (Session L N) → α}
    (hp : ∀ d notes, p { d with memory := { d.memory with notes } } = p d) (r : Reaction N) :
    (r.onNotes : Reaction (Desk (Session L N))).Leaves p := by
  induction r with
  | returns => trivial
  | panics _ => trivial
  | read next ih => exact fun d => ih d.memory.notes
  | change f next ih => exact ⟨fun d => hp d _, ih⟩
  | tell n next ih => exact ih
  | register o next iho ih => exact ⟨iho, ih⟩

end Reaction

theorem Observer.Leaves.foldl {σ α : Type} {p : σ → α} {n : Notification}
    {os : List (Observer σ)} (h : ∀ o ∈ os, Observer.Leaves p o) (x : σ) :
    p (os.foldl (fun x o => (o n).after x) x) = p x := by
  induction os generalizing x with
  | nil => rfl
  | cons o os ih =>
      have hrest := ih (fun o' ho' => h o' (List.mem_cons_of_mem o ho')) ((o n).after x)
      exact hrest.trans ((h o List.mem_cons_self n).after x)

namespace Scene

variable {σ α β : Type} {p : σ → α} {c : Scene σ}

theorem Leaves.map (g : α → β) (h : c.Leaves p) : c.Leaves fun x => g (p x) :=
  fun o ho n => (h o ho n).map g

theorem Leaves.announce (h : c.Leaves p) (n : Notification) :
    p (c.announce n).2.state = p c.state ∧ (c.announce n).2.Leaves p := by
  refine ⟨?_, fun o ho => ?_⟩
  · rw [state_announce]
    exact Observer.Leaves.foldl h c.state
  · rw [observers_announce] at ho
    rcases List.mem_append.mp ho with ho | ho
    · exact h o ho
    · obtain ⟨o', ho', y, hy⟩ := Observer.mem_registered ho
      exact (h o' ho' n).registered y o hy

end Scene

end RemoteJobs
