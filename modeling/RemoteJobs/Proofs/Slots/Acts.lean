import RemoteJobs.Proofs.Slots

/-!
# Slots that come and go

Threads act on a table one after the other, in any order and with any ids. An
act is one step under the lock, so a call that waits acts as often as it looks
at its slot. `act` lets an act happen and gives what the thread is told.

`Change` says once what an act can do: nothing, make a slot, fill one, take one
away, or close the table. From it come the invariants of a table, `Sound`, and
its account: what was made is there or was taken away.
-/

namespace RemoteJobs.Slots

inductive Act where
  | register (id : PacketId)
  | store (id : PacketId) (r : Reply)
  /-- A call that waits looks at its slot, its time being over or not. -/
  | look (id : PacketId) (expired : Bool)
  | remove (id : PacketId)
  | close

/-- What a thread is told of its act. -/
inductive Answer where
  | registered
  | refused (why : Refusal)
  | filled (what : Filling)
  | found (what : Finding)
  | removed (there : Bool)
  | closed (lost : Nat)

/-- The thread did not get what it wanted: no slot was made or filled, or there
was none to remove. -/
def Answer.isVain : Answer → Bool
  | .refused _ => true
  | .filled what => what ≠ .stored
  | .removed there => !there
  | _ => false

def act (s : Slots) : Act → Answer × Slots
  | .register id =>
    match s.register id with
    | .ok s' => (.registered, s')
    | .error why => (.refused why, s)
  | .store id r => (.filled (s.store id r).1, (s.store id r).2)
  | .look id expired => (.found (s.look id expired).1, (s.look id expired).2)
  | .remove id => (.removed (s.remove id).1, (s.remove id).2)
  | .close => (.closed s.close.1, s.close.2)

def run (s : Slots) (as : List Act) : Slots := as.foldl (fun s a => (s.act a).2) s

/-! ## Counting -/

/-- How many slots an act makes. -/
def made (s : Slots) : Act → Nat
  | .register id => if (s.register id).isOk then 1 else 0
  | _ => 0

/-- How many slots an act takes away. A look does so if it finds a slot and
leaves none. -/
def taken (s : Slots) : Act → Nat
  | .remove id => if (s.remove id).1 then 1 else 0
  | .look id expired =>
    if (s.find? id).isSome && ((s.look id expired).2.find? id).isNone then 1 else 0
  | .close => s.close.1
  | _ => 0

/-- The sum of a count over a run. -/
def total (count : Slots → Act → Nat) (s : Slots) : List Act → Nat
  | [] => 0
  | a :: as => count s a + total count (s.act a).2 as

/-! ## What an act can do -/

/-- What an act that makes `m` slots and takes `t` away leaves of a table. -/
inductive Change (s : Slots) : Nat → Nat → Slots → Prop where
  | none : Change s 0 0 s
  | made {id : PacketId} {s' : Slots} : s.register id = .ok s' → Change s 1 0 s'
  | filled (id : PacketId) (r : Reply) : Change s 0 0 (s.store id r).2
  | taken {id : PacketId} : (s.find? id).isSome → Change s 0 1 (s.erase id)
  | closed : s.closed = false → Change s 0 s.size { s with closed := true, entries := [] }

theorem change_erase (s : Slots) (id : PacketId) :
    Change s 0 (if (s.find? id).isSome then 1 else 0) (s.erase id) := by
  split
  · next h => exact .taken h
  · next h =>
      rw [erase_eq_self (Option.not_isSome_iff_eq_none.mp h)]
      exact .none

theorem change_look (s : Slots) (id : PacketId) (expired : Bool) :
    Change s 0 (s.taken (.look id expired)) (s.look id expired).2 := by
  have hl := look_slots s id expired
  rw [taken]
  split at hl
  · rw [hl]
    cases s.find? id with
    | none => exact .none
    | some o => exact .none
  · have hg : (s.erase id).find? id = none := by rw [find?_erase, if_pos rfl]
    rw [hl, hg, Option.isNone_none, Bool.and_true]
    exact change_erase s id

theorem change_act (s : Slots) (a : Act) : Change s (s.made a) (s.taken a) (s.act a).2 := by
  cases a with
  | register id =>
      show Change s (if (s.register id).isOk then 1 else 0) 0 (s.act (.register id)).2
      rw [act]
      cases h : s.register id with
      | ok s' => exact .made h
      | error why => exact .none
  | store id r => exact .filled id r
  | look id expired => exact change_look s id expired
  | remove id => exact change_erase s id
  | close =>
      show Change s 0 s.close.1 s.close.2
      rw [close]
      split
      · exact .none
      · next h => exact .closed (by simpa using h)

/-! ## What an act keeps -/

structure Sound (s : Slots) : Prop where
  nodup : s.ids.Nodup
  emptied : s.Emptied
  size_le : s.size ≤ s.capacity

theorem sound_empty (capacity : Nat) : (empty capacity).Sound :=
  ⟨List.nodup_nil, fun h => absurd h Bool.false_ne_true, Nat.zero_le _⟩

theorem size_eq_length_ids (s : Slots) : s.size = s.ids.length := by
  rw [size, ids, List.length_map]

theorem ids_erase (s : Slots) (id : PacketId) : (s.erase id).ids = s.ids.filter (· ≠ id) := by
  rw [ids, ids, erase, List.filter_map]
  rfl

theorem size_erase {s : Slots} (h : s.ids.Nodup) {id : PacketId} (hid : (s.find? id).isSome) :
    (s.erase id).size + 1 = s.size := by
  have hmem : id ∈ s.ids := mem_ids_iff.mpr hid
  have hf : s.ids.filter (· ≠ id) = s.ids.erase id := by
    rw [h.erase_eq_filter]
    congr 1
    funext i
    simp [bne, BEq.beq]
  have hpos : 0 < s.ids.length := List.length_pos_of_mem hmem
  rw [size_eq_length_ids, size_eq_length_ids, ids_erase, hf, List.length_erase_of_mem hmem]
  omega

variable {s s' : Slots} {m t : Nat}

/-- The account of one act. -/
theorem Change.size (h : Change s m t s') (hs : s.Sound) : m + s.size = s'.size + t := by
  cases h with
  | none => omega
  | made hr =>
      obtain ⟨-, -, -, rfl⟩ := register_ok hr
      simp only [Slots.size, List.length_append, List.length_singleton]
      omega
  | filled id r =>
      rw [size_eq_length_ids, size_eq_length_ids, (frame_store s id r).2.2]
      omega
  | taken hid =>
      have := size_erase hs.nodup hid
      omega
  | closed _ =>
      show 0 + s.size = 0 + s.size
      rfl

theorem Change.capacity (h : Change s m t s') : s'.capacity = s.capacity := by
  cases h with
  | made hr =>
      obtain ⟨-, -, -, rfl⟩ := register_ok hr
      rfl
  | filled id r => exact (frame_store s id r).2.1
  | _ => rfl

theorem Change.sound (h : Change s m t s') (hs : s.Sound) : s'.Sound := by
  have hsize := h.size hs
  have hcap := h.capacity
  have hle := hs.size_le
  cases h with
  | none => exact hs
  | made hr =>
      obtain ⟨hopen, hroom, hfree, rfl⟩ := register_ok hr
      refine ⟨?_, fun hc => ?_, by omega⟩
      · rw [ids, List.map_append, List.nodup_append]
        refine ⟨hs.nodup, by simp, fun i hi j hj => ?_⟩
        rw [List.mem_singleton.mp hj]
        intro he
        subst he
        exact find?_eq_none_iff.mp hfree hi
      · rw [hopen] at hc
        cases hc
  | filled id r =>
      obtain ⟨hclosed, -, hids⟩ := frame_store s id r
      refine ⟨by rw [hids]; exact hs.nodup, fun hc => ?_, by omega⟩
      rw [hclosed] at hc
      apply entries_eq_nil_of_find?
      intro i
      rw [find?_store, find?_of_entries_nil (hs.emptied hc)]
      rfl
  | taken hid =>
      refine ⟨?_, fun hc => ?_, by omega⟩
      · rw [ids_erase]
        exact hs.nodup.filter _
      · rw [erase, hs.emptied hc]
        rfl
  | closed _ => exact ⟨List.nodup_nil, fun _ => rfl, Nat.zero_le _⟩

theorem closed_act (s : Slots) (a : Act) :
    (s.act a).2.closed = true ↔ s.closed = true ∨ a = .close := by
  cases a with
  | register id =>
      rw [act]
      cases h : s.register id with
      | ok s' => simp [closed_register h, (register_ok h).1]
      | error why => simp
  | store id r => simp [act, (frame_store s id r).1]
  | look id expired =>
      rw [act, look_slots]
      split
      · simp
      · simp
  | remove id => simp [act, remove]
  | close =>
      rw [act, close]
      split
      · next h => simp [h]
      · simp

/-! ## Runs -/

theorem Sound.run (h : s.Sound) (as : List Act) : (s.run as).Sound := by
  induction as generalizing s with
  | nil => exact h
  | cons a as ih => exact ih ((change_act s a).sound h)

theorem capacity_run (s : Slots) (as : List Act) : (s.run as).capacity = s.capacity := by
  induction as generalizing s with
  | nil => rfl
  | cons a as ih => exact (ih (s.act a).2).trans (change_act s a).capacity

theorem closed_run (s : Slots) (as : List Act) :
    (s.run as).closed = true ↔ s.closed = true ∨ .close ∈ as := by
  induction as generalizing s with
  | nil => simp [run]
  | cons a as ih =>
      have hrun : s.run (a :: as) = (s.act a).2.run as := rfl
      rw [hrun, ih, closed_act, List.mem_cons, or_assoc, eq_comm (a := a)]

/-- What is made in a run is there at its end or has been taken away. -/
theorem total_made (h : s.Sound) (as : List Act) :
    total made s as + s.size = (s.run as).size + total taken s as := by
  induction as generalizing s with
  | nil => exact Nat.add_comm _ _
  | cons a as ih =>
      have hstep := (change_act s a).size h
      have hrest := ih ((change_act s a).sound h)
      have hrun : s.run (a :: as) = (s.act a).2.run as := rfl
      rw [hrun, total, total]
      omega

/-- A closed table gives nothing to anybody. -/
theorem Sound.of_closed (h : s.Sound) (hc : s.closed = true) (id : PacketId) :
    s.find? id = none ∧
      (∃ why, s.register id = .error why ∧ why.failure = .connectionClosed) ∧
      (∀ r, (s.store id r).1 ≠ .stored) ∧ (s.remove id).1 = false ∧
      ∀ expired, (s.look id expired).1 = .nothing := by
  have hf : s.find? id = none := find?_of_entries_nil (h.emptied hc) id
  refine ⟨hf, ⟨.closed, ?_, rfl⟩, fun r => ?_, ?_, fun expired => ?_⟩
  · rw [register, if_pos hc]
  · rw [store_filling, hf]
    simp
  · rw [remove, hf]
    rfl
  · rw [look_of_none hf]

theorem act_of_isVain {a : Act} (h : (s.act a).1.isVain = true) : (s.act a).2 = s := by
  cases a with
  | register id =>
      rw [act] at h ⊢
      cases hr : s.register id with
      | ok s' =>
          rw [hr] at h
          cases h
      | error why => rfl
  | store id r =>
      refine store_eq_self ?_
      simpa [act, Answer.isVain] using h
  | look id expired => cases h
  | remove id =>
      refine erase_eq_self ?_
      simpa [act, Answer.isVain, remove] using h
  | close => cases h

/-- Whatever threads do with a new table, one act after the other: it never has
more slots than it may have, and no two for one id. It is closed as soon as
somebody has closed it; then it has no slot, refuses every call with the failure
of a closed connection, takes no reply, has nothing to remove, lets nobody wait
and loses nothing more. The slots that were made are there or were taken away.
An act in vain leaves the table as it was, and so does a second closing. -/
theorem slots_of_acts (capacity : Nat) (as : List Act) :
    let s := run (.empty capacity) as
    s.size ≤ capacity ∧ s.ids.Nodup ∧ (s.closed = true ↔ .close ∈ as) ∧
      (s.closed = true → s.size = 0 ∧ s.close.1 = 0 ∧ s.close.2 = s ∧ ∀ id,
        s.find? id = none ∧
          (∃ why, s.register id = .error why ∧ why.failure = .connectionClosed) ∧
          (∀ r, (s.store id r).1 ≠ .stored) ∧ (s.remove id).1 = false ∧
          ∀ expired, (s.look id expired).1 = .nothing) ∧
      total made (.empty capacity) as = s.size + total taken (.empty capacity) as ∧
      ∀ a, (s.act a).1.isVain = true → (s.act a).2 = s := by
  intro s
  have hs : s.Sound := (sound_empty capacity).run as
  have hcap : s.capacity = capacity := capacity_run (.empty capacity) as
  have hclosed : s.closed = true ↔ .close ∈ as := by
    rw [closed_run]
    simp [empty]
  refine ⟨hcap ▸ hs.size_le, hs.nodup, hclosed, fun hc => ⟨?_, ?_, ?_, hs.of_closed hc⟩, ?_, ?_⟩
  · rw [size, hs.emptied hc]
    rfl
  · rw [close, if_pos hc]
  · rw [close, if_pos hc]
  · exact total_made (sound_empty capacity) as
  · exact fun a => act_of_isVain

end RemoteJobs.Slots
