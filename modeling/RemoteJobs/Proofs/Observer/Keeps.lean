import RemoteJobs.Proofs.Conduct
import RemoteJobs.Proofs.Inbox

/-!
# Observers that keep to a relation

To leave a part of the state alone is a matter of each act by itself, and that
is too much to ask of a reaction that makes a call: it reads the state, and what
it does then is right for this state only. A reaction `Keeps` to a relation of
states if each act along the branch that it takes leads from a state to one in
the relation. So whatever it does, the states before and after it are related.

Calls keep a socket as it is, but for the frames that it has written; an
observer that disconnects its client stops it, and the client is never connected
again. To stay connected is therefore to find the link as it was.
-/

namespace RemoteJobs

/-- If it begins in the state `x`, the reaction keeps to `R`, and so does every
observer that it registers, in any state. -/
def Reaction.Keeps {σ : Type} (R : σ → σ → Prop) : Reaction σ → σ → Prop
  | .returns, _ => True
  | .panics _, _ => True
  | .read next, x => (next x).Keeps R x
  | .change f next, x => R x (f x) ∧ next.Keeps R (f x)
  | .tell _ next, x => next.Keeps R x
  | .register o next, x => (∀ n y, (o n).Keeps R y) ∧ next.Keeps R x

def Observer.Keeps {σ : Type} (R : σ → σ → Prop) (o : Observer σ) : Prop := ∀ n x, (o n).Keeps R x

def Scene.Keeps {σ : Type} (R : σ → σ → Prop) (c : Scene σ) : Prop :=
  ∀ o ∈ c.observers, Observer.Keeps R o

section

variable {σ : Type} {R : σ → σ → Prop}

theorem Reaction.Keeps.registered {r : Reaction σ} {x : σ} (h : r.Keeps R x) :
    ∀ o ∈ r.registered x, Observer.Keeps R o := by
  induction r generalizing x with
  | returns => exact fun _ ho => by cases ho
  | panics _ => exact fun _ ho => by cases ho
  | read next ih => exact ih x h
  | change f next ih => exact ih h.2
  | tell n next ih => exact ih h
  | register o next _ ih =>
      intro o' ho'
      rcases List.mem_cons.mp ho' with rfl | ho'
      · exact h.1
      · exact ih h.2 o' ho'

theorem Observer.Keeps.registered {n : Notification} {os : List (Observer σ)}
    (h : ∀ o ∈ os, Observer.Keeps R o) {x : σ} :
    ∀ o ∈ Observer.registered n os x, Observer.Keeps R o := by
  intro o ho
  obtain ⟨o', ho', y, hy⟩ := Observer.mem_registered ho
  exact (h o' ho' n y).registered o hy

theorem Observer.Keeps.only {o : Observer σ} (h : Observer.Keeps R o) (method : String) :
    Observer.Keeps R (o.only method) := by
  intro n x
  rw [Observer.only]
  split
  · exact h n x
  · trivial

theorem Reaction.keeps_tellAll {r : Reaction σ} {x : σ} (ns : List Notice) (h : r.Keeps R x) :
    (tellAll ns r).Keeps R x := by
  induction ns with
  | nil => exact h
  | cons _ _ ih => exact ih

theorem Reaction.Leaves.keeps {α : Type} {p : σ → α} (hR : ∀ x y, p y = p x → R x y)
    {r : Reaction σ} (h : r.Leaves p) (x : σ) : r.Keeps R x := by
  induction r generalizing x with
  | returns => trivial
  | panics _ => trivial
  | read next ih => exact ih x (h x) x
  | change f next ih => exact ⟨hR _ _ (h.1 x), ih h.2 (f x)⟩
  | tell n next ih => exact ih h x
  | register o next iho ih => exact ⟨fun n y => iho n (h.1 n) y, ih h.2 x⟩

end

/-! ## What a run of acts keeps -/

section

variable {σ : Type} {R : σ → σ → Prop} (hrefl : ∀ x, R x x)
  (htrans : ∀ {x y z}, R x y → R y z → R x z)

include hrefl htrans

theorem Reaction.Keeps.after {r : Reaction σ} {x : σ} (h : r.Keeps R x) : R x (r.after x) := by
  induction r generalizing x with
  | returns => exact hrefl x
  | panics _ => exact hrefl x
  | read next ih => exact ih x h
  | change f next ih => exact htrans h.1 (ih h.2)
  | tell n next ih => exact ih h
  | register o next _ ih => exact ih h.2

theorem Observer.Keeps.foldl {n : Notification} {os : List (Observer σ)}
    (h : ∀ o ∈ os, Observer.Keeps R o) (x : σ) :
    R x (os.foldl (fun x o => (o n).after x) x) := by
  induction os generalizing x with
  | nil => exact hrefl x
  | cons o os ih =>
      have hrest := ih (fun o' ho' => h o' (List.mem_cons_of_mem o ho')) ((o n).after x)
      exact htrans ((h o List.mem_cons_self n x).after hrefl htrans) hrest

end

/-- The observers that a frame brings in keep to what those keep to that bring
them in. -/
theorem Inbox.keeps_observers_handle {μ : Type} {R : Desk μ → Desk μ → Prop} {c : Scene (Desk μ)}
    (h : c.Keeps R) (frame : Bytes) : (handle c frame).Keeps R := by
  cases hd : Inbound.decode frame with
  | error m =>
      rw [Scene.Keeps, observers_handle_malformed hd]
      exact h
  | ok i =>
      cases i with
      | reply r =>
          rw [Scene.Keeps, observers_handle_reply hd]
          exact h
      | notification n =>
          rw [Scene.Keeps, observers_handle_notification hd]
          intro o ho
          rcases List.mem_append.mp ho with ho | ho
          · exact h o ho
          · exact Observer.Keeps.registered h o ho

theorem Inbox.keeps_handle {μ : Type} {R : μ → μ → Prop} (hrefl : ∀ m, R m m)
    (htrans : ∀ {m m' m''}, R m m' → R m' m'' → R m m'') {c : Scene (Desk μ)}
    (h : c.Keeps fun d d' => R d.memory d'.memory) (frame : Bytes) :
    R c.state.memory (handle c frame).state.memory ∧
      (handle c frame).Keeps fun d d' => R d.memory d'.memory := by
  refine ⟨?_, keeps_observers_handle h frame⟩
  cases hd : Inbound.decode frame with
  | error m =>
      rw [state_handle_malformed hd]
      exact hrefl _
  | ok i =>
      cases i with
      | reply r =>
          rw [state_handle_reply hd]
          exact hrefl _
      | notification n =>
          rw [state_handle_notification hd]
          exact Observer.Keeps.foldl (R := fun d d' : Desk μ => R d.memory d'.memory)
            (fun d => hrefl d.memory) htrans h c.state

/-! ## Observers of a client that stays connected -/

section

variable {L N α : Type} {q : L → α}

/-- A session that is connected afterwards was connected before, and `q` of its
link is what it was. -/
def Session.Stays (q : L → α) (m m' : Session L N) : Prop :=
  m'.connected = true → m.connected = true ∧ q m'.link = q m.link

namespace Session.Stays

theorem refl (m : Session L N) : Stays q m m := fun h => ⟨h, rfl⟩

theorem trans {m m' m'' : Session L N} (h : Stays q m m') (h' : Stays q m' m'') :
    Stays q m m'' := by
  intro hconnected
  obtain ⟨hconnected', hlink'⟩ := h' hconnected
  obtain ⟨hconnected, hlink⟩ := h hconnected'
  exact ⟨hconnected, hlink'.trans hlink⟩

end Session.Stays

/-- Every observer keeps `q` of the link, as long as the client is connected. -/
def Client.Stays (q : L → α) (c : Client L N) : Prop :=
  c.Keeps fun d d' => Session.Stays q d.memory d'.memory

theorem Client.Stays.handle {c : Client L N} (h : c.Stays q) (frame : Bytes) :
    Session.Stays q c.session (Client.session (Inbox.handle c frame)) ∧
      Client.Stays q (Inbox.handle c frame) :=
  Inbox.keeps_handle .refl .trans h frame

variable [Link L]

theorem Session.stays_disconnect (d : Desk (Session L N)) :
    Session.Stays q d.memory (Session.disconnect d).memory := by
  rw [Session.disconnect]
  split
  · exact fun h => by cases h
  · exact .refl _

/-- A call that does not wait changes of the link what a frame that is sent
changes. -/
theorem Call.stays_attempt
    (hq : ∀ {k k' : L} {frame : Bytes}, Link.send k frame = .ok k' → q k' = q k)
    (method : String) (params : Json) (d : Desk (Session L N)) :
    Session.Stays q d.memory (attempt method params d).2.memory := by
  rcases attempt_cases method params d with ⟨-, h⟩ | ⟨-, ⟨f, -, h⟩ | ⟨k, ⟨frame, hk⟩, h⟩⟩
  · rw [h]
    exact .refl _
  · rw [h]
    exact .refl _
  · rw [h]
    exact fun hconnected => ⟨hconnected, hq hk⟩

namespace Reaction

theorem keeps_call
    (hq : ∀ {k k' : L} {frame : Bytes}, Link.send k frame = .ok k' → q k' = q k)
    {method : String} {params : Json}
    {next : Except Failure (Outcome Json) → Reaction (Desk (Session L N))}
    (h : ∀ result d, (next result).Keeps (fun d d' => Session.Stays q d.memory d'.memory) d)
    (d : Desk (Session L N)) :
    (call method params next).Keeps (fun d d' => Session.Stays q d.memory d'.memory) d :=
  ⟨Call.stays_attempt hq method params d, keeps_tellAll _ (h _ _)⟩

theorem keeps_disconnect {next : Reaction (Desk (Session L N))}
    (h : ∀ d, next.Keeps (fun d d' => Session.Stays q d.memory d'.memory) d)
    (d : Desk (Session L N)) :
    (disconnect next).Keeps (fun d d' => Session.Stays q d.memory d'.memory) d :=
  ⟨Session.stays_disconnect d, h _⟩

end Reaction

end

theorem Reaction.keeps_onNotes {L N α : Type} {q : L → α} (r : Reaction N)
    (d : Desk (Session L N)) :
    (r.onNotes : Reaction (Desk (Session L N))).Keeps
      (fun d d' => Session.Stays q d.memory d'.memory) d := by
  have hleaves := leaves_onNotes (p := fun d : Desk (Session L N) =>
    (d.memory.connected, q d.memory.link)) (fun _ _ => rfl) r
  refine hleaves.keeps (fun x y h hconnected => ?_) d
  exact ⟨(congrArg Prod.fst h).symm.trans hconnected, congrArg Prod.snd h⟩

/-- What of a socket is there without its client's frames. -/
def Socket.reading (k : Socket) : Socket := { k with sent := [] }

theorem Socket.reading_send {k k' : Socket} {frame : Bytes} (h : Link.send k frame = .ok k') :
    k'.reading = k.reading := by
  rw [write_eq_ok (write_of_send h)]
  rfl

theorem Channel.send_eq_ok {κ : Type} {k k' : Channel κ} {frame : Bytes}
    (h : Link.send k frame = .ok k') :
    k.closed = false ∧ k' = { k with queue := k.queue ++ [frame] } := by
  simp only [Link.send, Channel.send] at h
  split at h
  · cases h
  · next hc =>
      split at h
      · cases h
      · cases h
        exact ⟨by simpa using hc, rfl⟩

theorem Channel.sink_send {κ : Type} {k k' : Channel κ} {frame : Bytes}
    (h : Link.send k frame = .ok k') : k'.sink = k.sink := by
  obtain ⟨-, rfl⟩ := send_eq_ok h
  rfl

end RemoteJobs
