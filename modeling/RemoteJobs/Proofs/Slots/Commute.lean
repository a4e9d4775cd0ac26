import Mathlib.Data.List.Basic
import Mathlib.Data.List.Pairwise
import Mathlib.Data.List.Perm.Basic
import RemoteJobs.Proofs.Slots.Acts

/-!
# Acts that may change places

To fill a slot, to look at it or to remove it is a matter of this slot alone:
what the thread is told and what becomes of the slot are settled by what is in
it and by the mark of a closed table. `act_patch` says so, and as a `Patch` of
one slot leaves the others as they are, acts on different slots may change
places.

To make a slot is a matter of the whole table, which must have room. So it may
change places with an act on another slot if the table has room anyway, and also
if it is closed, or the other act takes no slot away; otherwise the call that
comes first is refused and the call that comes second is not.
-/

namespace RemoteJobs.Slots

/-- The id of the slot that an act fills, looks at or removes. -/
def Act.slot? : Act → Option PacketId
  | .store id _ => some id
  | .look id _ => some id
  | .remove id => some id
  | .register _ => none
  | .close => none

/-- What becomes of one slot, if it is there. -/
inductive Patch where
  | keep
  | put (r : Reply)
  | drop

def Patch.apply (id : PacketId) : Patch → Slots → Slots
  | .keep, s => s
  | .put r, s => { s with entries := s.entries.map fun (i, o) => (i, if i = id then some r else o) }
  | .drop, s => s.erase id

/-! ## Patches -/

namespace Patch

variable {id i j : PacketId}

@[simp] theorem closed_apply (p : Patch) (id : PacketId) (s : Slots) :
    (p.apply id s).closed = s.closed := by
  cases p with
  | keep => rfl
  | put r => rfl
  | drop => rfl

@[simp] theorem capacity_apply (p : Patch) (id : PacketId) (s : Slots) :
    (p.apply id s).capacity = s.capacity := by
  cases p with
  | keep => rfl
  | put r => rfl
  | drop => rfl

theorem find?_apply (h : i ≠ id) (p : Patch) (s : Slots) :
    (p.apply id s).find? i = s.find? i := by
  cases p with
  | keep => rfl
  | put r =>
      rw [apply, find?_put]
      simp [h]
  | drop => rw [apply, find?_erase, if_neg h]

theorem size_apply_le (p : Patch) (id : PacketId) (s : Slots) : (p.apply id s).size ≤ s.size := by
  cases p with
  | keep => exact Nat.le_refl _
  | put r => exact Nat.le_of_eq (List.length_map _)
  | drop => exact List.length_filter_le _ _

theorem apply_put_drop (i j : PacketId) (r : Reply) (s : Slots) :
    (put r).apply i (drop.apply j s) = drop.apply j ((put r).apply i s) := by
  simp only [apply, erase, List.filter_map]
  rfl

theorem apply_comm (h : i ≠ j) (p q : Patch) (s : Slots) :
    p.apply i (q.apply j s) = q.apply j (p.apply i s) := by
  cases p with
  | keep => rfl
  | put r =>
      cases q with
      | keep => rfl
      | put r' =>
          simp only [apply, List.map_map]
          congr 1
          refine List.map_congr_left fun e _ => ?_
          by_cases he : e.1 = i
          · simp [he, h]
          · simp [he]
      | drop => exact apply_put_drop i j r s
  | drop =>
      cases q with
      | keep => rfl
      | put r => exact (apply_put_drop j i r s).symm
      | drop =>
          simp only [apply, erase, List.filter_filter]
          congr 1
          exact List.filter_congr fun e _ => Bool.and_comm _ _

/-- A new slot stays behind the others. -/
theorem apply_snoc (h : i ≠ id) (p : Patch) (s : Slots) :
    p.apply id { s with entries := s.entries ++ [(i, none)] } =
      { p.apply id s with entries := (p.apply id s).entries ++ [(i, none)] } := by
  cases p with
  | keep => rfl
  | put r => simp [apply, h]
  | drop => simp [apply, erase, h]

end Patch

/-! ## One act -/

variable {s : Slots} {a b : Act} {i j : PacketId}

/-- An act on a slot is settled by what is in the slot and by the mark of a
closed table. -/
theorem act_patch (ha : a.slot? = some i) (s : Slots) :
    ∃ p : Patch, ∀ s' : Slots, s'.find? i = s.find? i → s'.closed = s.closed →
      s'.act a = ((s.act a).1, p.apply i s') := by
  cases a with
  | register id => cases ha
  | close => cases ha
  | store id r =>
      cases ha
      cases hf : s.find? i with
      | none => exact ⟨.keep, fun s' hf' _ => by simp [act, store, hf, hf', Patch.apply]⟩
      | some o =>
          cases o with
          | some r' => exact ⟨.keep, fun s' hf' _ => by simp [act, store, hf, hf', Patch.apply]⟩
          | none => exact ⟨.put r, fun s' hf' _ => by simp [act, store, hf, hf', Patch.apply]⟩
  | look id expired =>
      cases ha
      cases hf : s.find? i with
      | none => exact ⟨.keep, fun s' hf' _ => by simp [act, look, hf, hf', Patch.apply]⟩
      | some o =>
          cases o with
          | some r' => exact ⟨.drop, fun s' hf' _ => by simp [act, look, hf, hf', Patch.apply]⟩
          | none =>
              by_cases hc : s.closed || expired
              · exact ⟨.drop, fun s' hf' hc' => by simp [act, look, hf, hf', hc', hc, Patch.apply]⟩
              · exact ⟨.keep, fun s' hf' hc' => by simp [act, look, hf, hf', hc', hc, Patch.apply]⟩
  | remove id =>
      cases ha
      exact ⟨.drop, fun s' hf' _ => by simp [act, remove, hf', Patch.apply]⟩

/-- Two acts may change places: each is answered as if it came first, and the
table is the same after both. -/
structure Commute (s : Slots) (a b : Act) : Prop where
  first : ((s.act b).2.act a).1 = (s.act a).1
  second : ((s.act a).2.act b).1 = (s.act b).1
  slots : ((s.act a).2.act b).2 = ((s.act b).2.act a).2

theorem commute_of_ne (ha : a.slot? = some i) (hb : b.slot? = some j) (h : i ≠ j) (s : Slots) :
    Commute s a b := by
  obtain ⟨p, hp⟩ := act_patch ha s
  obtain ⟨q, hq⟩ := act_patch hb s
  have hfirst := hp (q.apply j s) (Patch.find?_apply h q s) (Patch.closed_apply q j s)
  have hsecond := hq (p.apply i s) (Patch.find?_apply h.symm p s) (Patch.closed_apply p i s)
  have hsa : (s.act a).2 = p.apply i s := congrArg Prod.snd (hp s rfl rfl)
  have hsb : (s.act b).2 = q.apply j s := congrArg Prod.snd (hq s rfl rfl)
  refine ⟨?_, ?_, ?_⟩
  · rw [hsb, hfirst]
  · rw [hsa, hsecond]
  · rw [hsa, hsb, hfirst, hsecond]
    exact (Patch.apply_comm h p q s).symm

/-- Before and after the patch of another slot, the table refuses a new slot for
the same reason or makes it, if it is closed, has room anyway or is as large as
before. -/
theorem register_apply (h : i ≠ j) (q : Patch) (s : Slots)
    (hor : s.closed = true ∨ s.size < s.capacity ∨ (q.apply j s).size = s.size) :
    (∃ why, s.register i = .error why ∧ (q.apply j s).register i = .error why) ∨
      s.register i = .ok { s with entries := s.entries ++ [(i, none)] } ∧
        (q.apply j s).register i =
          .ok { q.apply j s with entries := (q.apply j s).entries ++ [(i, none)] } := by
  have hle := Patch.size_apply_le q j s
  have hfind := Patch.find?_apply h q s
  by_cases hclosed : s.closed = true
  · refine .inl ⟨.closed, ?_, ?_⟩
    · rw [register, if_pos hclosed]
    · rw [register, Patch.closed_apply, if_pos hclosed]
  · have hopen : s.closed = false := by simpa using hclosed
    by_cases hroom : s.size < s.capacity
    · cases hf : s.find? i with
      | none =>
          refine .inr ⟨register_of_room hopen hroom hf, register_of_room ?_ ?_ ?_⟩
          · rw [Patch.closed_apply, hopen]
          · rw [Patch.capacity_apply]
            omega
          · rw [hfind, hf]
      | some o =>
          refine .inl ⟨.taken i, ?_, ?_⟩
          · rw [register, if_neg hclosed, if_neg (by omega), hf]
            rfl
          · rw [register, Patch.closed_apply, if_neg hclosed, Patch.capacity_apply,
              if_neg (by omega), hfind, hf]
            rfl
    · have hsize : (q.apply j s).size = s.size := by
        simpa [hopen, hroom] using hor
      refine .inl ⟨.full i s.size s.capacity, ?_, ?_⟩
      · rw [register, if_neg hclosed, if_pos (by omega)]
      · rw [register, Patch.closed_apply, if_neg hclosed, Patch.capacity_apply, hsize,
          if_pos (by omega)]

/-- A full table that another act makes smaller answers differently before and
after it. -/
theorem register_ne (q : Patch) (j : PacketId) (hopen : s.closed = false)
    (hfull : s.capacity ≤ s.size) (hsize : (q.apply j s).size ≠ s.size) :
    ((q.apply j s).act (.register i)).1 ≠ (s.act (.register i)).1 := by
  have hrefused : s.register i = .error (.full i s.size s.capacity) := by
    rw [register, hopen, if_neg Bool.false_ne_true, if_pos hfull]
  intro he
  rw [act, act, hrefused, register, Patch.closed_apply, Patch.capacity_apply, hopen,
    if_neg Bool.false_ne_true] at he
  split at he
  · cases he
  · next why hwhy =>
      injection he with he
      subst he
      split at hwhy
      · injection hwhy with hwhy
        injection hwhy with _ hsize'
        exact hsize hsize'
      · split at hwhy
        · cases hwhy
        · cases hwhy

/-- A slot may be made before or after an act on another slot if and only if the
table is closed or has room anyway, or the other act takes no slot away. -/
theorem commute_register_iff (hb : b.slot? = some j) (h : i ≠ j) (s : Slots) :
    Commute s (.register i) b ↔
      s.closed = true ∨ s.size < s.capacity ∨ (s.act b).2.size = s.size := by
  obtain ⟨q, hq⟩ := act_patch hb s
  have hsb : (s.act b).2 = q.apply j s := congrArg Prod.snd (hq s rfl rfl)
  rw [hsb]
  constructor
  · intro hcommute
    by_contra hnot
    simp only [not_or, Nat.not_lt, Bool.not_eq_true] at hnot
    have hfirst := hcommute.first
    rw [hsb] at hfirst
    exact register_ne q j hnot.1 hnot.2.1 hnot.2.2 hfirst
  · intro hor
    rcases register_apply h q s hor with ⟨why, hr, hr'⟩ | ⟨hr, hr'⟩
    · refine ⟨?_, ?_, ?_⟩
      · rw [hsb, act, act, hr, hr']
      · rw [act, hr]
      · rw [hsb, act, act, hr, hr', hsb]
    · have hsecond := hq { s with entries := s.entries ++ [(i, none)] }
        ((find?_register hr j).trans (if_neg h.symm)) rfl
      refine ⟨?_, ?_, ?_⟩
      · rw [hsb, act, act, hr, hr']
      · rw [act, hr, hsecond]
      · rw [hsb, act, act, hr, hr', hsecond]
        exact Patch.apply_snoc h q s

/-! ## Many acts -/

/-- Acts on different slots. -/
def Act.Apart (a b : Act) : Prop := ∃ i j, a.slot? = some i ∧ b.slot? = some j ∧ i ≠ j

instance : Std.Symm Act.Apart where
  symm _ _ h := by
    obtain ⟨i, j, ha, hb, hij⟩ := h
    exact ⟨j, i, hb, ha, hij.symm⟩

theorem Act.Apart.commute (h : a.Apart b) (s : Slots) : Commute s a b := by
  obtain ⟨i, j, ha, hb, hij⟩ := h
  exact commute_of_ne ha hb hij s

/-- Acts for different ids are acts on different slots. -/
theorem apart_map {α : Type} {act : α → Act} {id : α → PacketId}
    (hid : ∀ x, (act x).slot? = some (id x)) {xs : List α} (h : (xs.map id).Nodup) :
    (xs.map act).Pairwise Act.Apart := by
  rw [List.pairwise_map]
  exact (List.pairwise_map.mp h).imp fun {x y} hne => ⟨id x, id y, hid x, hid y, hne⟩

variable {as as' : List Act}

/-- Acts on different slots leave the same table in any order. -/
theorem run_perm (h : as.Pairwise Act.Apart) (hperm : as'.Perm as) (s : Slots) :
    s.run as' = s.run as := by
  refine hperm.foldl_eq' (fun a ha b hb x => ?_) s
  by_cases hab : a = b
  · rw [hab]
  · have hapart := h.forall (hperm.mem_iff.mp ha) (hperm.mem_iff.mp hb) hab
    exact (hapart.commute x).slots

/-! ## Calls that wait -/

/-- What a call comes back with that looks at its slot `n` times before its time
is over, with nobody acting in between. -/
def wait (s : Slots) (id : PacketId) : Nat → Finding × Slots
  | 0 => s.look id true
  | n + 1 =>
    match s.look id false with
    | (.pending, s) => s.wait id n
    | (found, s) => (found, s)

/-- Several calls wait one after the other. -/
def waitAll (s : Slots) : List (PacketId × Nat) → List Finding × Slots
  | [] => ([], s)
  | (id, n) :: ws =>
    let (found, s) := s.wait id n
    let (rest, s) := s.waitAll ws
    (found :: rest, s)

/-- It is the last look that counts. -/
theorem wait_eq_look (s : Slots) (id : PacketId) (n : Nat) : s.wait id n = s.look id true := by
  induction n with
  | zero => rfl
  | succ n ih =>
      rw [wait]
      cases hf : s.find? id with
      | none => rw [look_of_none hf, look_of_none hf]
      | some o =>
          cases o with
          | some r => rw [look_of_reply hf, look_of_reply hf]
          | none =>
              rw [look_expired hf, look_of_empty hf]
              by_cases hc : s.closed || false
              · rw [if_pos hc]
              · rw [if_neg hc, ← look_expired hf]
                exact ih

theorem apart_looks {ws : List (PacketId × Nat)} (h : (ws.map Prod.fst).Nodup) :
    (ws.map fun w => Act.look w.1 true).Pairwise Act.Apart := apart_map (fun _ => rfl) h

/-- Calls that wait for different replies come back with what each finds in its
slot. -/
theorem waitAll_eq {ws : List (PacketId × Nat)} (h : (ws.map Prod.fst).Nodup) (s : Slots) :
    s.waitAll ws =
      (ws.map fun w => (s.look w.1 true).1, s.run (ws.map fun w => .look w.1 true)) := by
  induction ws generalizing s with
  | nil => rfl
  | cons w ws ih =>
      obtain ⟨id, n⟩ := w
      have hnodup : (ws.map Prod.fst).Nodup := (List.nodup_cons.mp h).2
      have hapart := apart_looks h
      rw [List.map_cons] at hapart
      have hothers : ∀ w ∈ ws, ((s.look id true).2.look w.1 true).1 = (s.look w.1 true).1 := by
        intro w hw
        have hcommute := ((List.pairwise_cons.mp hapart).1 _ (List.mem_map_of_mem hw)).commute s
        have hanswer := hcommute.second
        rw [act, act, act] at hanswer
        injection hanswer
      rw [waitAll, wait_eq_look]
      simp only [ih hnodup]
      rw [List.map_congr_left hothers]
      rfl

end RemoteJobs.Slots
