import RemoteJobs.Slots

/-!
# What each operation does to the slots

A table is known by its `find?`: the slot of every id, and whether a reply has
come for it. Each operation is described by how it changes `find?` and the mark
of a closed table, so that nothing after this file looks into the list of
entries.

Three facts carry the rest. A reply fills an empty slot and no other, so the
first reply stays. A slot is made under an id that has none, so no call loses
its slot to another one. And a table that has been closed has no slot, which
every operation keeps and `Emptied` says.
-/

namespace RemoteJobs

/-- A reply, as far as it is one to the call with this id. -/
def Reply.to? (r : Reply) (id : PacketId) : Option Reply :=
  if r.id = id then some r else none

namespace Slots

/-- The ids that have a slot. -/
def ids (s : Slots) : List PacketId := s.entries.map (·.1)

theorem mem_ids_iff {s : Slots} {id : PacketId} : id ∈ s.ids ↔ (s.find? id).isSome := by
  rw [ids, find?, Option.isSome_map, List.find?_isSome, List.mem_map]
  constructor
  · intro hex
    obtain ⟨e, he, rfl⟩ := hex
    exact ⟨e, he, by simp⟩
  · intro hex
    obtain ⟨e, he, h⟩ := hex
    exact ⟨e, he, by simpa using h⟩

theorem find?_eq_none_iff {s : Slots} {id : PacketId} : s.find? id = none ↔ id ∉ s.ids := by
  rw [mem_ids_iff, Option.not_isSome_iff_eq_none]

theorem find?_of_entries_nil {s : Slots} (h : s.entries = []) (id : PacketId) :
    s.find? id = none := by
  rw [find?, h]
  rfl

theorem entries_eq_nil_of_find? {s : Slots} (h : ∀ id, s.find? id = none) : s.entries = [] := by
  rw [List.eq_nil_iff_forall_not_mem]
  intro e he
  exact find?_eq_none_iff.mp (h e.1) (List.mem_map_of_mem he)

/-! ## Taking a slot away -/

theorem find?_erase (s : Slots) (id i : PacketId) :
    (s.erase id).find? i = if i = id then none else s.find? i := by
  split
  · next h =>
      rw [find?_eq_none_iff, ids, h]
      simp [erase]
  · next h =>
      rw [find?, erase, List.find?_filter, find?]
      congr 2
      funext e
      by_cases he : e.1 = i
      · simp [he, h]
      · simp [he]

@[simp] theorem closed_erase (s : Slots) (id : PacketId) : (s.erase id).closed = s.closed := rfl

theorem erase_eq_self {s : Slots} {id : PacketId} (h : s.find? id = none) : s.erase id = s := by
  have hf : s.entries.filter (·.1 ≠ id) = s.entries := by
    rw [List.filter_eq_self]
    intro e he
    have hne : e.1 ≠ id := fun hid =>
      find?_eq_none_iff.mp h (hid ▸ List.mem_map_of_mem he)
    simpa using hne
  rw [erase, hf]

/-! ## Making a slot -/

/-- A slot is made in an open table with room, under an id that has none. -/
theorem register_ok {s s' : Slots} {id : PacketId} (h : s.register id = .ok s') :
    s.closed = false ∧ s.size < s.capacity ∧ s.find? id = none ∧
      s' = { s with entries := s.entries ++ [(id, none)] } := by
  unfold register at h
  split at h
  · cases h
  · next hc =>
      split at h
      · cases h
      · next hsz =>
          split at h
          · cases h
          · next hf =>
              injection h with h
              exact ⟨by simpa using hc, by omega, by simpa using hf, h.symm⟩

theorem register_of_room {s : Slots} {id : PacketId} (hc : s.closed = false)
    (hs : s.size < s.capacity) (hf : s.find? id = none) :
    s.register id = .ok { s with entries := s.entries ++ [(id, none)] } := by
  rw [register, hc, if_neg (by simp), if_neg (by omega), hf]
  rfl

theorem register_ne_taken {s : Slots} {id : PacketId} (h : s.find? id = none) (i : PacketId) :
    s.register id ≠ .error (.taken i) := by
  unfold register
  split
  · simp
  · split
    · simp
    · simp [h]

theorem find?_register {s s' : Slots} {id : PacketId} (h : s.register id = .ok s')
    (i : PacketId) : s'.find? i = if i = id then some none else s.find? i := by
  obtain ⟨-, -, hf, rfl⟩ := register_ok h
  split
  · next hi =>
      rw [find?, Option.map_eq_none_iff] at hf
      rw [find?, List.find?_append, hi, hf]
      simp
  · next hi =>
      rw [find?, List.find?_append, find?]
      simp [Ne.symm hi]

theorem closed_register {s s' : Slots} {id : PacketId} (h : s.register id = .ok s') :
    s'.closed = false := by
  obtain ⟨hc, -, -, rfl⟩ := register_ok h
  exact hc

/-- A slot that is made and taken away at once leaves no trace. -/
theorem erase_register {s s' : Slots} {id : PacketId} (h : s.register id = .ok s') :
    s'.erase id = s := by
  obtain ⟨-, -, hf, rfl⟩ := register_ok h
  have he := erase_eq_self hf
  rw [erase] at he ⊢
  rw [List.filter_append]
  simpa using he

/-! ## A reply comes -/

theorem find?_put (s : Slots) (id : PacketId) (r : Reply) (i : PacketId) :
    { s with entries := s.entries.map fun (i, o) => (i, if i = id then some r else o) }.find? i =
      (s.find? i).map fun o => if i = id then some r else o := by
  simp only [find?, List.find?_map, Option.map_map]
  show (s.entries.find? (·.1 = i)).map _ = (s.entries.find? (·.1 = i)).map _
  cases he : s.entries.find? (·.1 = i) with
  | none => rfl
  | some e =>
      have hid : e.1 = i := by simpa using List.find?_some he
      simp [hid]

theorem map_or_none (o : Option (Option Reply)) : o.map (·.or none) = o := by simp

/-- A reply goes into the slot of an id, unless one is there. -/
theorem find?_store (s : Slots) (id : PacketId) (r : Reply) (i : PacketId) :
    (s.store id r).2.find? i =
      (s.find? i).map (·.or (if id = i then some r else none)) := by
  by_cases hi : id = i
  · rw [if_pos hi, ← hi]
    cases h : s.find? id with
    | none => simp [store, h]
    | some o =>
        cases o with
        | some r' => simp [store, h]
        | none =>
            have hput := find?_put s id r id
            rw [h] at hput
            simpa [store, h] using hput
  · rw [if_neg hi, map_or_none]
    unfold store
    split
    · rfl
    · rfl
    · rw [find?_put]
      simp [Ne.symm hi]

theorem find?_fill (s : Slots) (r : Reply) (i : PacketId) :
    (s.fill r).2.find? i = (s.find? i).map (·.or (r.to? i)) := find?_store s r.id r i

/-- What becomes of a reply is known from the slot. -/
theorem store_filling (s : Slots) (id : PacketId) (r : Reply) :
    (s.store id r).1 =
      match s.find? id with
      | none => .unknown
      | some (some _) => .duplicate id
      | some none => .stored := by
  unfold store
  cases s.find? id with
  | none => rfl
  | some o =>
      cases o with
      | none => rfl
      | some r' => rfl

/-- A reply that is not stored changes nothing. -/
theorem store_eq_self {s : Slots} {id : PacketId} {r : Reply} (h : (s.store id r).1 ≠ .stored) :
    (s.store id r).2 = s := by
  unfold store at h ⊢
  split
  · rfl
  · rfl
  · next hf =>
      rw [hf] at h
      exact absurd rfl h

theorem frame_store (s : Slots) (id : PacketId) (r : Reply) :
    (s.store id r).2.closed = s.closed ∧ (s.store id r).2.capacity = s.capacity ∧
      (s.store id r).2.ids = s.ids := by
  unfold store
  split
  · exact ⟨rfl, rfl, rfl⟩
  · exact ⟨rfl, rfl, rfl⟩
  · exact ⟨rfl, rfl, by simp [ids, List.map_map, Function.comp_def]⟩

@[simp] theorem closed_fill (s : Slots) (r : Reply) : (s.fill r).2.closed = s.closed :=
  (frame_store s r.id r).1

theorem ids_fill (s : Slots) (r : Reply) : (s.fill r).2.ids = s.ids := (frame_store s r.id r).2.2

/-! ## A look -/

/-- Unless a call waits on, its slot is gone after the look. -/
theorem look_slots (s : Slots) (id : PacketId) (expired : Bool) :
    (s.look id expired).2 =
      match (s.look id expired).1 with
      | .pending => s
      | _ => s.erase id := by
  cases h : s.find? id with
  | none => simp [look, h, erase_eq_self h]
  | some o =>
      cases o with
      | some r => simp [look, h]
      | none =>
          by_cases hc : s.closed || expired
          · simp [look, h, hc]
          · simp [look, h, hc]

theorem look_of_reply {s : Slots} {id : PacketId} {r : Reply} (h : s.find? id = some (some r))
    (expired : Bool) : s.look id expired = (.reply r, s.erase id) := by
  rw [look, h]

theorem look_of_none {s : Slots} {id : PacketId} (h : s.find? id = none) (expired : Bool) :
    s.look id expired = (.nothing, s) := by
  rw [look, h]

theorem look_of_empty {s : Slots} {id : PacketId} (h : s.find? id = some none) (expired : Bool) :
    s.look id expired =
      if s.closed || expired then (.nothing, s.erase id) else (.pending, s) := by
  rw [look, h]

theorem look_expired {s : Slots} {id : PacketId} (h : s.find? id = some none) :
    s.look id true = (.nothing, s.erase id) := by
  rw [look_of_empty h, Bool.or_true, if_pos rfl]

theorem find?_of_look_reply {s : Slots} {id : PacketId} {expired : Bool} {r : Reply}
    (h : (s.look id expired).1 = .reply r) : s.find? id = some (some r) := by
  unfold look at h
  split at h
  · next r' hf =>
      injection h with h
      rw [hf, h]
  · split at h <;> cases h
  · cases h

/-! ## Closing -/

/-- A closed table has no slots. -/
def Emptied (s : Slots) : Prop := s.closed = true → s.entries = []

theorem Emptied.open_of_find? {s : Slots} (h : s.Emptied) {id : PacketId} {o : Option Reply}
    (hf : s.find? id = some o) : s.closed = false := by
  cases hc : s.closed with
  | false => rfl
  | true =>
      rw [find?_of_entries_nil (h hc)] at hf
      cases hf

/-- A slot is lost when an open table is closed. -/
theorem find?_close {s : Slots} {id : PacketId} (h : s.closed = false ∨ s.find? id = none) :
    s.close.2.find? id = none := by
  unfold close
  split
  · next hc =>
      rcases h with h | h
      · rw [h] at hc
        cases hc
      · exact h
  · rfl

theorem close_of_closed {s : Slots} (h : s.closed = true) : s.close = (0, s) := if_pos h

theorem closed_close (s : Slots) : s.close.2.closed = true := by
  unfold close
  split
  · next h => exact h
  · rfl

theorem close_slots (s : Slots) :
    s.close.2 = s ∨ s.close.2.closed = true ∧ s.close.2.entries = [] := by
  unfold close
  split
  · exact .inl rfl
  · exact .inr ⟨rfl, rfl⟩

end Slots

end RemoteJobs
