import RemoteJobs.PacketId

/-!
# Ids in a row

A supply that hands out ids one after the other numbers them without gaps until
it comes to the last one, and then goes on handing out the last one.
-/

namespace RemoteJobs

/-- The number does not wrap around. -/
theorem PacketId.number_successor_eq (i : PacketId) :
    i.successor.number = min (i.number + 1) 18446744073709551615 := by
  have hsmall := i.small
  by_cases h : i.number + 1 < 18446744073709551616
  · rw [number_successor h]
    omega
  · rw [successor, dif_neg h]
    omega

namespace IdSupply

theorem drawMany_add (s : IdSupply) (n m : Nat) :
    s.drawMany (n + m) =
      ((s.drawMany n).1 ++ ((s.drawMany n).2.drawMany m).1, ((s.drawMany n).2.drawMany m).2) := by
  induction n generalizing s with
  | zero => rw [Nat.zero_add]; rfl
  | succ n ih =>
      rw [Nat.add_right_comm, drawMany, drawMany]
      simp only [ih s.draw.2, List.cons_append]

/-- The numbers that a supply hands out, however many it is asked for. -/
theorem numbers_drawMany (s : IdSupply) (n : Nat) :
    (s.drawMany n).1.map (·.number) =
        (List.range n).map (fun i => min (s.upcoming.number + i) 18446744073709551615) ∧
      (s.drawMany n).2.upcoming.number = min (s.upcoming.number + n) 18446744073709551615 := by
  induction n generalizing s with
  | zero =>
      have hsmall := s.upcoming.small
      refine ⟨rfl, ?_⟩
      show s.upcoming.number = _
      omega
  | succ n ih =>
      have hsmall := s.upcoming.small
      have hnext : s.draw.2.upcoming.number = min (s.upcoming.number + 1) 18446744073709551615 :=
        s.upcoming.number_successor_eq
      obtain ⟨hids, hupcoming⟩ := ih s.draw.2
      rw [hnext] at hids hupcoming
      rw [List.range_succ_eq_map, List.map_cons, List.map_map]
      refine ⟨List.cons_eq_cons.mpr ⟨?_, hids.trans (List.map_congr_left fun i _ => ?_)⟩,
        hupcoming.trans ?_⟩
      · show s.upcoming.number = _
        omega
      · rw [Function.comp_apply]
        omega
      · omega

/-- As long as a supply does not come to the last id, it counts. -/
theorem number_drawMany (s : IdSupply) {n : Nat}
    (h : s.upcoming.number + n < 18446744073709551616) :
    (s.drawMany n).1.map (·.number) = List.range' s.upcoming.number n ∧
      (s.drawMany n).2.upcoming.number = s.upcoming.number + n := by
  obtain ⟨hids, hupcoming⟩ := s.numbers_drawMany n
  refine ⟨hids.trans ?_, hupcoming.trans (Nat.min_eq_left (by omega))⟩
  rw [List.range'_eq_map_range]
  refine List.map_congr_left fun i hi => Nat.min_eq_left ?_
  have hi := List.mem_range.mp hi
  omega

end IdSupply

end RemoteJobs
