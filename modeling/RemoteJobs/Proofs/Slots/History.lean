import RemoteJobs.Proofs.Slots.Acts

/-!
# What a call that waits comes back with

A history lists what threads have done with a new table and what they were told.
It decides what a call finds in its slot: the slot is there if the last deed that
made it or took it away has made it, and it holds the first reply that has been
stored since then. `slotOf` follows the slot of one id through a history, and
`find?_run` says that the table does the same.

A call that waits looks at its slot again and again, and others act between its
looks. All its looks but the last one find that the reply may still come; those
are deeds of the history like all others, so that nothing is said of how many
there are, or of when the time of the call is over.
-/

namespace RemoteJobs.Slots

/-- An act and what its thread was told. -/
structure Deed where
  act : Act
  answer : Answer

/-- What threads do with a table one after the other. -/
def history (s : Slots) : List Act → List Deed
  | [] => []
  | a :: as => ⟨a, (s.act a).1⟩ :: history (s.act a).2 as

namespace Deed

/-- The deed makes the slot of the id. -/
def makes (id : PacketId) : Deed → Bool
  | ⟨.register i, .registered⟩ => i = id
  | _ => false

/-- The deed takes away the slot of the id: it is removed, or the call that
waits comes back, or the table is closed. -/
def ends (id : PacketId) : Deed → Bool
  | ⟨.remove i, .removed there⟩ => there && i = id
  | ⟨.look _ _, .found .pending⟩ => false
  | ⟨.look i _, _⟩ => i = id
  | ⟨.close, _⟩ => true
  | _ => false

/-- The reply that the deed is to store under the id, whatever comes of it. -/
def reply? (id : PacketId) : Deed → Option Reply
  | ⟨.store i r, _⟩ => if i = id then some r else none
  | _ => none

/-- The deed leaves it at that whether there is a slot of the id. -/
def leaves (id : PacketId) (d : Deed) : Bool := !d.makes id && !d.ends id

/-- What a deed does to the slot of the id. -/
def turn (id : PacketId) (o : Option (Option Reply)) (d : Deed) : Option (Option Reply) :=
  if d.makes id then some none
  else if d.ends id then none
  else o.map (·.or (d.reply? id))

theorem makes_iff {id : PacketId} {d : Deed} :
    d.makes id = true ↔ d = ⟨.register id, .registered⟩ := by
  unfold makes
  split
  · simp
  · next h =>
      simp only [Bool.false_eq_true, false_iff]
      intro he
      exact h id he

theorem makes_of_ends {id : PacketId} {d : Deed} (h : d.ends id = true) : d.makes id = false := by
  rw [← Bool.not_eq_true, makes_iff]
  intro hd
  subst hd
  cases h

theorem turn_of_leaves {id : PacketId} {d : Deed} (h : d.leaves id = true)
    (o : Option (Option Reply)) : d.turn id o = o.map (·.or (d.reply? id)) := by
  simp only [leaves, Bool.and_eq_true, Bool.not_eq_true'] at h
  rw [turn, h.1, h.2]
  rfl

end Deed

/-- The slot of an id after a history. -/
def slotOf (id : PacketId) (h : List Deed) : Option (Option Reply) := h.foldl (Deed.turn id) none

/-- The last deed of the history that made the slot of the id or took it away
has made it, and `o` is the first reply to be stored since then. -/
def Stands (id : PacketId) (o : Option Reply) (h : List Deed) : Prop :=
  ∃ before after, h = before ++ ⟨.register id, .registered⟩ :: after ∧
    (∀ d ∈ after, d.leaves id = true) ∧ after.findSome? (Deed.reply? id) = o

section

variable {id : PacketId} {o : Option Reply} {h : List Deed} {d : Deed}

theorem stands_cons : Stands id o (d :: h) ↔
    d.makes id = true ∧ (∀ x ∈ h, x.leaves id = true) ∧ h.findSome? (Deed.reply? id) = o ∨
      Stands id o h := by
  constructor
  · intro hs
    obtain ⟨before, after, he, hl, ho⟩ := hs
    cases before with
    | nil =>
        injection he with hd hh
        subst hd hh
        exact .inl ⟨Deed.makes_iff.mpr rfl, hl, ho⟩
    | cons x before =>
        injection he with hd hh
        exact .inr ⟨before, after, hh, hl, ho⟩
  · intro hor
    rcases hor with ⟨hm, hl, ho⟩ | ⟨before, after, he, hl, ho⟩
    · exact ⟨[], h, by rw [Deed.makes_iff.mp hm]; rfl, hl, ho⟩
    · exact ⟨d :: before, after, by rw [he]; rfl, hl, ho⟩

/-- The slot after a history that begins with the slot `s`: it has been made in
the course of it, or it is `s` and has been left. -/
theorem foldl_turn_eq_some_iff (s : Option (Option Reply)) :
    h.foldl (Deed.turn id) s = some o ↔ Stands id o h ∨
      (∀ x ∈ h, x.leaves id = true) ∧ s.map (·.or (h.findSome? (Deed.reply? id))) = some o := by
  induction h generalizing s with
  | nil => simp [Stands]
  | cons d h ih =>
      rw [List.foldl_cons, ih, stands_cons, List.forall_mem_cons]
      cases hm : d.makes id with
      | true => simp [Deed.turn, Deed.leaves, hm, or_comm]
      | false =>
          cases he : d.ends id with
          | true => simp [Deed.turn, Deed.leaves, hm, he]
          | false =>
              have hl : d.leaves id = true := by rw [Deed.leaves, hm, he]; rfl
              rw [Deed.turn_of_leaves hl, Option.map_map, List.findSome?_cons]
              cases d.reply? id with
              | none => simp [hl]
              | some r => simp [hl]

/-- The two ways to read the slot off a history agree. -/
theorem slotOf_eq_some_iff : slotOf id h = some o ↔ Stands id o h := by
  rw [slotOf, foldl_turn_eq_some_iff]
  simp

theorem foldl_turn_none (hm : ∀ x ∈ h, x.makes id = false) : h.foldl (Deed.turn id) none = none := by
  induction h with
  | nil => rfl
  | cons d h ih =>
      rw [List.forall_mem_cons] at hm
      have hd : Deed.turn id none d = none := by
        rw [Deed.turn, hm.1]
        simp
      rw [List.foldl_cons, hd]
      exact ih hm.2

/-- What has come before the end of a slot, or without one, is forgotten. -/
theorem slotOf_of_ends {before between : List Deed} (hd : d.ends id = true)
    (hm : ∀ x ∈ between, x.makes id = false) :
    slotOf id (before ++ d :: (between ++ h)) = slotOf id h := by
  have hturn : ∀ s, Deed.turn id s d = none := by
    intro s
    rw [Deed.turn, Deed.makes_of_ends hd, hd]
    rfl
  rw [slotOf, List.foldl_append, List.foldl_cons, hturn, List.foldl_append, foldl_turn_none hm]
  rfl

end

/-! ## The table and its history -/

variable {s : Slots} {id : PacketId}

/-- What an act does to a slot is told by its deed. -/
theorem find?_act (h : s.Sound) (a : Act) (id : PacketId) :
    (s.act a).2.find? id = Deed.turn id (s.find? id) ⟨a, (s.act a).1⟩ := by
  cases a with
  | register i =>
      rw [act]
      cases hr : s.register i with
      | ok s' =>
          by_cases hi : id = i
          · subst hi
            simp [find?_register hr, Deed.turn, Deed.makes]
          · simp [find?_register hr, Deed.turn, Deed.makes, Deed.ends, Deed.reply?, hi, Ne.symm hi]
      | error why => simp [Deed.turn, Deed.makes, Deed.ends, Deed.reply?]
  | store i r =>
      rw [act, find?_store]
      simp [Deed.turn, Deed.makes, Deed.ends, Deed.reply?]
  | look i expired =>
      rw [act, look_slots]
      cases hl : (s.look i expired).1 with
      | pending => simp [Deed.turn, Deed.makes, Deed.ends, Deed.reply?]
      | reply r =>
          by_cases hi : id = i
          · simp [find?_erase, Deed.turn, Deed.makes, Deed.ends, hi]
          · simp [find?_erase, Deed.turn, Deed.makes, Deed.ends, Deed.reply?, hi, Ne.symm hi]
      | nothing =>
          by_cases hi : id = i
          · simp [find?_erase, Deed.turn, Deed.makes, Deed.ends, hi]
          · simp [find?_erase, Deed.turn, Deed.makes, Deed.ends, Deed.reply?, hi, Ne.symm hi]
  | remove i =>
      rw [act, remove, find?_erase]
      by_cases hi : id = i
      · subst hi
        cases hf : s.find? id with
        | none => simp [Deed.turn, Deed.makes, Deed.ends]
        | some o => simp [Deed.turn, Deed.makes, Deed.ends]
      · simp [Deed.turn, Deed.makes, Deed.ends, Deed.reply?, hi, Ne.symm hi]
  | close =>
      have hf : s.close.2.find? id = none := by
        cases hc : s.closed with
        | false => exact find?_close (.inl hc)
        | true => exact find?_close (.inr (find?_of_entries_nil (h.emptied hc) id))
      simp [act, hf, Deed.turn, Deed.makes, Deed.ends]

theorem find?_run (h : s.Sound) (as : List Act) (id : PacketId) :
    (s.run as).find? id = (s.history as).foldl (Deed.turn id) (s.find? id) := by
  induction as generalizing s with
  | nil => rfl
  | cons a as ih =>
      rw [history, List.foldl_cons, ← find?_act h]
      exact ih ((change_act s a).sound h)

/-- A part of a history is that of a part of the acts. -/
theorem exists_of_history_eq_append {as : List Act} {l₁ l₂ : List Deed}
    (h : s.history as = l₁ ++ l₂) :
    ∃ as₁ as₂, as = as₁ ++ as₂ ∧ s.history as₁ = l₁ ∧ (s.run as₁).history as₂ = l₂ := by
  induction l₁ generalizing s as with
  | nil => exact ⟨[], as, rfl, rfl, h⟩
  | cons d l₁ ih =>
      cases as with
      | nil => cases h
      | cons a as =>
          injection h with hd hl
          obtain ⟨as₁, as₂, has, h₁, h₂⟩ := ih hl
          exact ⟨a :: as₁, as₂, by rw [has]; rfl, by rw [history, hd, h₁], h₂⟩

theorem find?_of_stored {r : Reply} (h : (s.act (.store id r)).1 = .filled .stored) :
    (s.act (.store id r)).2.find? id = some (some r) := by
  have hf : s.find? id = some none := by
    rw [act, store_filling] at h
    split at h
    · cases h
    · cases h
    · next hf => exact hf
  rw [act, find?_store, hf, if_pos rfl]
  rfl

/-- As long as nobody takes it away, a filled slot stays as it is, and every
other reply for it is dropped. -/
theorem find?_of_filled (hs : s.Sound) {r : Reply} (hf : s.find? id = some (some r))
    {as : List Act} (h : ∀ d ∈ s.history as, d.ends id = false) :
    (s.run as).find? id = some (some r) ∧
      ∀ d ∈ s.history as, ∀ r', d.act = .store id r' → d.answer = .filled (.duplicate id) := by
  induction as generalizing s with
  | nil => exact ⟨hf, fun _ hd => by cases hd⟩
  | cons a as ih =>
      rw [history, List.forall_mem_cons] at h
      have hmakes : Deed.makes id ⟨a, (s.act a).1⟩ = false := by
        rw [← Bool.not_eq_true, Deed.makes_iff]
        intro he
        injection he with ha he
        subst ha
        rw [act] at he
        cases hr : s.register id with
        | error why =>
            rw [hr] at he
            cases he
        | ok s' =>
            rw [(register_ok hr).2.2.1] at hf
            cases hf
      have hnext : (s.act a).2.find? id = some (some r) := by
        rw [find?_act hs, Deed.turn, hmakes, h.1, hf]
        rfl
      obtain ⟨hrun, hdup⟩ := ih ((change_act s a).sound hs) hnext h.2
      refine ⟨hrun, ?_⟩
      rw [history, List.forall_mem_cons]
      refine ⟨fun r' ha => ?_, hdup⟩
      simp only at ha
      subst ha
      rw [act, store_filling, hf]

/-- As long as nobody makes it, there is no slot, and every reply for it is
dropped. -/
theorem find?_of_none (hs : s.Sound) (hf : s.find? id = none) {as : List Act}
    (h : ∀ d ∈ s.history as, d.makes id = false) :
    (s.run as).find? id = none ∧
      ∀ d ∈ s.history as, ∀ r, d.act = .store id r → d.answer = .filled .unknown := by
  induction as generalizing s with
  | nil => exact ⟨hf, fun _ hd => by cases hd⟩
  | cons a as ih =>
      rw [history, List.forall_mem_cons] at h
      have hnext : (s.act a).2.find? id = none := by
        rw [find?_act hs, Deed.turn, h.1, hf]
        simp
      obtain ⟨hrun, hunknown⟩ := ih ((change_act s a).sound hs) hnext h.2
      refine ⟨hrun, ?_⟩
      rw [history, List.forall_mem_cons]
      refine ⟨fun r ha => ?_, hunknown⟩
      simp only at ha
      subst ha
      rw [act, store_filling, hf]

/-- A reply that has been stored stays as long as its slot is not taken away. -/
theorem find?_run_of_stored (hs : s.Sound) {as : List Act} {before after : List Deed} {r : Reply}
    (hh : s.history as = before ++ ⟨.store id r, .filled .stored⟩ :: after)
    (hends : ∀ d ∈ after, d.ends id = false) :
    (s.run as).find? id = some (some r) ∧
      ∀ d ∈ after, ∀ r', d.act = .store id r' → d.answer = .filled (.duplicate id) := by
  obtain ⟨as₁, as₂, rfl, -, h₂⟩ := exists_of_history_eq_append hh
  cases as₂ with
  | nil => cases h₂
  | cons a as₂ =>
      injection h₂ with hd h₂
      injection hd with ha hd
      subst ha h₂
      have hnext := (change_act (s.run as₁) (.store id r)).sound (hs.run as₁)
      have hlast : s.run (as₁ ++ .store id r :: as₂) =
          run ((s.run as₁).act (.store id r)).2 as₂ := by
        rw [run, List.foldl_append]
        rfl
      rw [hlast]
      exact find?_of_filled hnext (find?_of_stored hd) hends

/-- After the end of a slot, and before the next one of the same id, every reply
is dropped. -/
theorem unknown_of_ends (hs : s.Sound) {as : List Act} {before between after : List Deed}
    {d : Deed} (hh : s.history as = before ++ d :: (between ++ after)) (hends : d.ends id = true)
    (hmakes : ∀ x ∈ between, x.makes id = false) :
    ∀ x ∈ between, ∀ r, x.act = .store id r → x.answer = .filled .unknown := by
  obtain ⟨as₁, as₂, -, -, h₂⟩ := exists_of_history_eq_append hh
  cases as₂ with
  | nil => cases h₂
  | cons a as₂ =>
      injection h₂ with hd h₂
      obtain ⟨as₃, as₄, -, h₃, -⟩ := exists_of_history_eq_append h₂
      have hnext := (change_act (s.run as₁) a).sound (hs.run as₁)
      have hnone : ((s.run as₁).act a).2.find? id = none := by
        rw [find?_act (hs.run as₁), hd, Deed.turn, Deed.makes_of_ends hends, hends]
        rfl
      rw [← h₃] at hmakes ⊢
      exact (find?_of_none hnext hnone hmakes).2

/-! ## A look -/

theorem look_eq_reply_iff {expired : Bool} {r : Reply} :
    (s.look id expired).1 = .reply r ↔ s.find? id = some (some r) := by
  constructor
  · exact find?_of_look_reply
  · intro hf
    rw [look_of_reply hf]

theorem look_eq_pending_iff (h : s.Emptied) {expired : Bool} :
    (s.look id expired).1 = .pending ↔ expired = false ∧ s.find? id = some none := by
  cases hf : s.find? id with
  | none => simp [look_of_none hf]
  | some o =>
      cases o with
      | some r => simp [look_of_reply hf]
      | none =>
          rw [look_of_empty hf, h.open_of_find? hf]
          cases expired with
          | true => simp
          | false => simp

/-- What a call finds when it looks at its slot, its time being over or not.
It finds a reply exactly if its slot stands in the history and this is the first
reply stored in it; it goes on waiting exactly if its slot stands without one and
there is time left; otherwise it comes back with nothing.

So a reply that has been stored is found as long as the slot is not taken away,
with time left or not, and later ones for it are dropped. Replies that come
between the end of a slot and the next one of the same id are dropped too, and
whatever was before the end makes no difference any more. -/
theorem finding_of_history (capacity : Nat) (as : List Act) (id : PacketId) (expired : Bool) :
    let h := history (.empty capacity) as
    let found := ((run (.empty capacity) as).look id expired).1
    (∀ r, found = .reply r ↔ Stands id (some r) h) ∧
      (found = .pending ↔ expired = false ∧ Stands id none h) ∧
      (found = .nothing ↔ found ≠ .pending ∧ ∀ r, ¬ Stands id (some r) h) ∧
      (∀ before r after, h = before ++ ⟨.store id r, .filled .stored⟩ :: after →
        (∀ d ∈ after, d.ends id = false) → found = .reply r ∧
          ∀ d ∈ after, ∀ r', d.act = .store id r' → d.answer = .filled (.duplicate id)) ∧
      ∀ before d between after, h = before ++ d :: (between ++ after) → d.ends id = true →
        (∀ x ∈ between, x.makes id = false) →
          (∀ x ∈ between, ∀ r, x.act = .store id r → x.answer = .filled .unknown) ∧
          ∀ r, found = .reply r ↔ Stands id (some r) after := by
  intro h found
  have hsound : (empty capacity).Sound := sound_empty capacity
  have hslot : (run (.empty capacity) as).find? id = slotOf id h := find?_run hsound as id
  have hreply : ∀ r, found = .reply r ↔ Stands id (some r) h := by
    intro r
    rw [← slotOf_eq_some_iff, ← hslot]
    exact look_eq_reply_iff
  refine ⟨hreply, ?_, ?_, ?_, ?_⟩
  · rw [← slotOf_eq_some_iff, ← hslot]
    exact look_eq_pending_iff (hsound.run as).emptied
  · simp only [← hreply]
    cases found with
    | reply r => simp
    | nothing => simp
    | pending => simp
  · intro before r after hh hends
    obtain ⟨hfound, hdropped⟩ := find?_run_of_stored hsound hh hends
    exact ⟨look_eq_reply_iff.mpr hfound, hdropped⟩
  · intro before d between after hh hends hmakes
    refine ⟨unknown_of_ends hsound hh hends hmakes, fun r => ?_⟩
    rw [hreply, ← slotOf_eq_some_iff, ← slotOf_eq_some_iff, hh, slotOf_of_ends hends hmakes]

end RemoteJobs.Slots
