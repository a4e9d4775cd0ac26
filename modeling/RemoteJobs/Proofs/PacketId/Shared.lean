import RemoteJobs.Proofs.PacketId

/-!
# Ids for several callers

Several callers draw from one supply, which has a lock. A draw is not one act
but four: the caller takes the lock, reads the upcoming id, puts the id behind
it in its place, and returns with the id and gives the lock back. A schedule
lists callers, in any order at all, and says whose turn it is to act; who wants
the lock while another one has it has acted in vain.

Yet the ids are those of one draw after the other. Only the caller with the lock
is in the middle of a draw, and how far it has come tells what it holds and what
stands in the supply: this is `Sound`, which every act keeps. So the ids are
numbered in the order in which they are handed out, whoever gets them, up to the
last one. And nobody is kept out for good: the caller with the lock returns after
a few acts of its own, whatever it has come to, and the next one after four.
-/

namespace RemoteJobs.IdSupply

/-- How far a caller has come with a draw. -/
inductive Stage where
  /-- It has not begun. -/
  | outside
  /-- It has the lock. -/
  | entered
  | read (id : PacketId)
  /-- It has put the successor into the supply. -/
  | stored (id : PacketId)

/-- A supply with a lock and the callers that draw from it. -/
structure Shared (κ : Type) where
  supply : IdSupply := .fresh
  /-- The caller that has the lock. -/
  lock : Option κ := none
  stage : κ → Stage := fun _ => .outside
  /-- The ids that have been returned, each with its caller, in their order. -/
  issued : List (κ × PacketId) := []

namespace Shared

variable {κ : Type}

/-! ## Ids in a row -/

/-- What is left of a fresh supply when as many ids as have been returned are
drawn one after the other. -/
def rest (c : Shared κ) : IdSupply := (fresh.drawMany c.issued.length).2

/-- What the caller with the lock has come to and what stands in the supply, if
the draws before its own have left the supply `s`. -/
inductive Fits (s : IdSupply) : Stage → IdSupply → Prop where
  | entered : Fits s .entered s
  | read : Fits s (.read s.upcoming) s
  | stored : Fits s (.stored s.upcoming) s.draw.2

structure Sound (c : Shared κ) : Prop where
  ids : c.issued.map Prod.snd = (fresh.drawMany c.issued.length).1
  others : ∀ k, c.lock ≠ some k → c.stage k = .outside
  free : c.lock = none → c.supply = c.rest
  held : ∀ k, c.lock = some k → Fits c.rest (c.stage k) c.supply

section

variable {c : Shared κ} {k : κ}

theorem sound_start : Sound ({} : Shared κ) where
  ids := rfl
  others _ _ := rfl
  free _ := rfl
  held _ h := by cases h

/-- What the caller with the lock can have come to. -/
theorem Sound.stage_of_lock (h : c.Sound) (hl : c.lock = some k) :
    c.stage k = .entered ∧ c.supply = c.rest ∨
      c.stage k = .read c.rest.upcoming ∧ c.supply = c.rest ∨
      c.stage k = .stored c.rest.upcoming ∧ c.supply = c.rest.draw.2 := by
  have hfits := h.held k hl
  generalize c.stage k = t at hfits ⊢
  generalize c.supply = s at hfits ⊢
  cases hfits with
  | entered => exact .inl ⟨rfl, rfl⟩
  | read => exact .inr (.inl ⟨rfl, rfl⟩)
  | stored => exact .inr (.inr ⟨rfl, rfl⟩)

/-- The ids are numbered from one on, up to the last one, in the order in which
they are returned. -/
theorem Sound.number_issued (h : c.Sound) {n : Nat} {id : PacketId}
    (hn : c.issued[n]? = some (k, id)) : id.number = min (n + 1) 18446744073709551615 := by
  have hnumbers := (fresh.numbers_drawMany c.issued.length).1
  rw [← h.ids] at hnumbers
  have hat := congrArg (·[n]?) hnumbers
  have hlt := (List.getElem?_eq_some_iff.mp hn).1
  simp only [List.getElem?_map, hn, List.getElem?_range hlt, Option.map_some] at hat
  rw [Option.some.inj hat, Nat.add_comm]
  rfl

end

variable [DecidableEq κ]

/-! ## Acts -/

def move (c : Shared κ) (k : κ) (t : Stage) : Shared κ :=
  { c with stage := fun j => if j = k then t else c.stage j }

/-- The next act of a caller. -/
def act (c : Shared κ) (k : κ) : Shared κ :=
  match c.stage k with
  | .outside => if c.lock.isSome then c else { c.move k .entered with lock := some k }
  | .entered => c.move k (.read c.supply.upcoming)
  | .read id => { c.move k (.stored id) with supply := ⟨id.successor⟩ }
  | .stored id => { c.move k .outside with lock := none, issued := c.issued ++ [(k, id)] }

def run (c : Shared κ) (ks : List κ) : Shared κ := ks.foldl act c

section

variable {c : Shared κ} {j k : κ} {id : PacketId}

theorem stage_move_self (c : Shared κ) (k : κ) (t : Stage) : (c.move k t).stage k = t := if_pos rfl

theorem stage_move_of_ne (h : j ≠ k) (t : Stage) : (c.move k t).stage j = c.stage j := if_neg h

theorem act_locked (h : c.stage k = .outside) (hl : c.lock = some j) : c.act k = c := by
  rw [act, h, hl]
  rfl

theorem act_outside (h : c.stage k = .outside) (hl : c.lock = none) :
    c.act k = { c.move k .entered with lock := some k } := by
  rw [act, h, hl]
  rfl

theorem act_entered (h : c.stage k = .entered) :
    c.act k = c.move k (.read c.supply.upcoming) := by
  rw [act, h]

theorem act_read (h : c.stage k = .read id) :
    c.act k = { c.move k (.stored id) with supply := ⟨id.successor⟩ } := by
  rw [act, h]

theorem act_stored (h : c.stage k = .stored id) :
    c.act k = { c.move k .outside with lock := none, issued := c.issued ++ [(k, id)] } := by
  rw [act, h]

end

/-! ## What every act keeps -/

variable {c : Shared κ} {k : κ}

/-- The one caller that may act has the lock when it has come to `t`. -/
theorem Sound.move (h : c.Sound) (hk : ∀ j, c.lock = some j → j = k) {t : Stage} {s : IdSupply}
    (ht : Fits c.rest t s) : Sound { c.move k t with supply := s, lock := some k } where
  ids := h.ids
  others j hj := by
    have hne : j ≠ k := fun he => hj (congrArg some he.symm)
    exact (stage_move_of_ne hne t).trans (h.others j fun hl => hne (hk j hl))
  free hn := by cases hn
  held j hj := by
    cases hj
    rw [show ({ c.move k t with supply := s, lock := some k } : Shared κ).stage k = t from
      stage_move_self c k t]
    exact ht

/-- A draw that is over is the next one of those that come one after the other. -/
theorem Sound.leave (h : c.Sound) (hk : c.lock = some k) (hs : c.supply = c.rest.draw.2) :
    Sound { c.move k .outside with
      lock := none, issued := c.issued ++ [(k, c.rest.upcoming)] } := by
  have hdraw : fresh.drawMany (c.issued ++ [(k, c.rest.upcoming)]).length =
      ((fresh.drawMany c.issued.length).1 ++ [c.rest.upcoming], c.rest.draw.2) := by
    rw [List.length_append]
    exact drawMany_add fresh c.issued.length 1
  refine ⟨?_, fun j _ => ?_, fun _ => ?_, fun j hj => ?_⟩
  · rw [hdraw, List.map_append, h.ids]
    rfl
  · show (c.move k .outside).stage j = .outside
    by_cases hj : j = k
    · rw [hj, stage_move_self]
    · rw [stage_move_of_ne hj]
      exact h.others j fun hl => hj (Option.some.inj (hl.symm.trans hk))
  · show c.supply = (fresh.drawMany _).2
    rw [hdraw, hs]
  · cases hj

theorem Sound.act (h : c.Sound) (k : κ) : (c.act k).Sound := by
  cases hl : c.lock with
  | none =>
      rw [act_outside (h.others k (by simp [hl])) hl]
      exact h.move (by simp [hl]) (h.free hl ▸ .entered)
  | some j =>
      by_cases hk : k = j
      · subst hk
        have hown : ∀ i, c.lock = some i → i = k := fun i hi => Option.some.inj (hi.symm.trans hl)
        rcases h.stage_of_lock hl with ⟨ht, hs⟩ | ⟨ht, -⟩ | ⟨ht, hs⟩
        · have hnext := h.move hown (.read (s := c.rest))
          rw [← hs, ← hl] at hnext
          rw [act_entered ht]
          exact hnext
        · have hnext := h.move hown (.stored (s := c.rest))
          rw [← hl] at hnext
          rw [act_read ht]
          exact hnext
        · rw [act_stored ht]
          exact h.leave hl hs
      · rw [act_locked (h.others k fun hk' => hk (Option.some.inj (hk'.symm.trans hl))) hl]
        exact h

theorem Sound.run (h : c.Sound) (ks : List κ) : (c.run ks).Sound := by
  induction ks generalizing c with
  | nil => exact h
  | cons k ks ih => exact ih (h.act k)

/-! ## Returning

A caller that may act comes from one stage to the next, up to its return. -/

/-- The caller `k` has returned, and nobody else has meanwhile. -/
structure Returned (c : Shared κ) (k : κ) (c' : Shared κ) : Prop where
  lock : c'.lock = none
  issued : c'.issued = c.issued ++ [(k, c.rest.upcoming)]

theorem Returned.of_act {c' : Shared κ} (h : Returned (c.act k) k c')
    (hc : (c.act k).issued = c.issued) : Returned c k c' := by
  refine ⟨h.lock, h.issued.trans ?_⟩
  rw [rest, rest, hc]

section

variable {id : PacketId}

theorem Sound.returned_of_stored (h : c.Sound) (hl : c.lock = some k)
    (ht : c.stage k = .stored id) : Returned c k (c.run [k]) := by
  have hid : id = c.rest.upcoming := by
    rcases h.stage_of_lock hl with ⟨ht', -⟩ | ⟨ht', -⟩ | ⟨ht', -⟩
    · cases ht.symm.trans ht'
    · cases ht.symm.trans ht'
    · exact Stage.stored.inj (ht.symm.trans ht')
  rw [Shared.run, List.foldl_cons, List.foldl_nil, act_stored ht, hid]
  exact ⟨rfl, rfl⟩

theorem Sound.returned_of_read (h : c.Sound) (hl : c.lock = some k)
    (ht : c.stage k = .read id) : Returned c k (c.run [k, k]) := by
  have hnext := act_read ht
  have hstage : (c.act k).stage k = .stored id := by
    rw [hnext]
    exact stage_move_self c k (.stored id)
  refine Returned.of_act ((h.act k).returned_of_stored ?_ hstage) ?_
  · rw [hnext]
    exact hl
  · rw [hnext]
    rfl

theorem Sound.returned_of_entered (h : c.Sound) (hl : c.lock = some k)
    (ht : c.stage k = .entered) : Returned c k (c.run [k, k, k]) := by
  have hnext := act_entered ht
  have hstage : (c.act k).stage k = .read c.supply.upcoming := by
    rw [hnext]
    exact stage_move_self c k (.read c.supply.upcoming)
  refine Returned.of_act ((h.act k).returned_of_read ?_ hstage) ?_
  · rw [hnext]
    exact hl
  · rw [hnext]
    rfl

theorem Sound.returned_of_free (h : c.Sound) (hl : c.lock = none) (k : κ) :
    Returned c k (c.run [k, k, k, k]) := by
  have hnext := act_outside (h.others k (by simp [hl])) hl
  have hstage : (c.act k).stage k = .entered := by
    rw [hnext]
    exact stage_move_self c k .entered
  refine Returned.of_act ((h.act k).returned_of_entered ?_ hstage) ?_
  · rw [hnext]
  · rw [hnext]
    rfl

end

theorem Sound.returned_of_locked (h : c.Sound) (hl : c.lock = some k) :
    ∃ n, Returned c k (c.run (List.replicate n k)) := by
  rcases h.stage_of_lock hl with ⟨ht, -⟩ | ⟨ht, -⟩ | ⟨ht, -⟩
  · exact ⟨3, h.returned_of_entered hl ht⟩
  · exact ⟨2, h.returned_of_read hl ht⟩
  · exact ⟨1, h.returned_of_stored hl ht⟩

theorem run_append (c : Shared κ) (ks js : List κ) : c.run (ks ++ js) = (c.run ks).run js :=
  List.foldl_append

/-- Callers are served in any order. -/
theorem Sound.served (h : c.Sound) (hl : c.lock = none) (callers : List κ) :
    ∃ ks, (c.run ks).issued.map Prod.fst = c.issued.map Prod.fst ++ callers := by
  induction callers generalizing c with
  | nil => exact ⟨[], (List.append_nil _).symm⟩
  | cons k callers ih =>
      have hk := h.returned_of_free hl k
      obtain ⟨ks, hks⟩ := ih (h.run [k, k, k, k]) hk.lock
      refine ⟨[k, k, k, k] ++ ks, ?_⟩
      rw [run_append, hks, hk.issued, List.map_append, List.append_assoc]
      rfl

/-- A caller that goes on acting returns, when the one before it has. -/
theorem Sound.exists_return (h : c.Sound) (k : κ) :
    ∃ js, (∀ j ∈ js, j = k ∨ c.lock = some j) ∧
      ∃ before id, (c.run js).issued = c.issued ++ before ++ [(k, id)] := by
  cases hl : c.lock with
  | none =>
      refine ⟨[k, k, k, k], by simp, [], c.rest.upcoming, ?_⟩
      rw [List.append_nil]
      exact (h.returned_of_free hl k).issued
  | some j =>
      obtain ⟨n, hj⟩ := h.returned_of_locked hl
      have hk := (h.run (List.replicate n j)).returned_of_free hj.lock k
      refine ⟨List.replicate n j ++ [k, k, k, k], fun i hi => ?_, [(j, c.rest.upcoming)],
        (c.run (List.replicate n j)).rest.upcoming, ?_⟩
      · rcases List.mem_append.mp hi with hi | hi
        · exact .inr (congrArg some (List.eq_of_mem_replicate hi).symm)
        · exact .inl (by simpa using hi)
      · rw [run_append, hk.issued, hj.issued]

/-- However the acts of several callers follow each other, the ids that they
return with are those of as many draws one after the other: the one that is
returned after `n` others has the number `n + 1`, or that of the last id if this
is smaller. So the numbers never go down, those up to the last id increase
strictly, for all callers together and for each of them, and are all numbers
from one to how many there are; and when nobody is in the middle of a draw the
upcoming id is the next one in this row. Every caller that goes on acting
returns, and it is possible for callers to return in any order. -/
theorem ids_of_schedule (ks : List κ) :
    let c : Shared κ := run {} ks
    let last := 18446744073709551615
    c.issued.map Prod.snd = (fresh.drawMany c.issued.length).1 ∧
    (∀ (n : Nat) k id, c.issued[n]? = some (k, id) → id.number = min (n + 1) last) ∧
    c.issued.Pairwise (fun a b => a.2.number ≤ b.2.number) ∧
    (c.issued.take last).Pairwise (fun a b => a.2.number < b.2.number) ∧
    (∀ k, ((c.issued.take last).filter (·.1 = k)).Pairwise fun a b => a.2.number < b.2.number) ∧
    (c.issued.length ≤ last → ∀ m,
      (∃ k id, (k, id) ∈ c.issued ∧ id.number = m) ↔ 1 ≤ m ∧ m ≤ c.issued.length) ∧
    (c.lock = none → c.supply.upcoming.number = min (c.issued.length + 1) last) ∧
    (∀ k, ∃ js, (∀ j ∈ js, j = k ∨ c.lock = some j) ∧
      ∃ before id, (c.run js).issued = c.issued ++ before ++ [(k, id)]) ∧
    ∀ callers : List κ, ∃ ks', (run {} ks').issued.map Prod.fst = callers := by
  intro c last
  have h : c.Sound := sound_start.run ks
  have hnumber : ∀ (n : Nat) (hn : n < c.issued.length),
      c.issued[n].2.number = min (n + 1) last := fun n hn =>
    h.number_issued (List.getElem?_eq_getElem hn)
  have hincrease : (c.issued.take last).Pairwise fun a b => a.2.number < b.2.number := by
    rw [List.pairwise_iff_getElem]
    intro i j hi hj hij
    rw [List.length_take] at hi hj
    rw [List.getElem_take, List.getElem_take, hnumber i (by omega), hnumber j (by omega)]
    omega
  refine ⟨h.ids, fun n k id => h.number_issued, ?_, hincrease, fun k => hincrease.filter _, ?_, ?_,
    h.exists_return, sound_start.served rfl⟩
  · rw [List.pairwise_iff_getElem]
    intro i j hi hj hij
    rw [hnumber i hi, hnumber j hj]
    omega
  · intro hlast m
    constructor
    · rintro ⟨k, id, hid, rfl⟩
      obtain ⟨n, hn⟩ := List.mem_iff_getElem?.mp hid
      have hlt := (List.getElem?_eq_some_iff.mp hn).1
      rw [h.number_issued hn]
      omega
    · intro hm
      have hlt : m - 1 < c.issued.length := by omega
      refine ⟨_, _, List.getElem_mem hlt, (hnumber (m - 1) hlt).trans ?_⟩
      omega
  · intro hl
    rw [h.free hl]
    exact (fresh.numbers_drawMany c.issued.length).2.trans (by rw [Nat.add_comm]; rfl)

/-- Two callers want the lock at once, and the second one gets it when the first
one has returned. -/
example : (run ({} : Shared Bool) [true, false, true, true, false, true, false, false, false,
    false]).issued.map (fun e => (e.1, e.2.number)) = [(true, 1), (false, 2)] := rfl

end Shared

end RemoteJobs.IdSupply
