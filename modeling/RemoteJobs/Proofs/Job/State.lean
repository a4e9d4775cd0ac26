import RemoteJobs.Job.State

/-!
# What stands for a state

`Denotes` says which state a JSON value stands for: names and numbers that are
known stand for their states, and all others for the unknown one. Values that
are neither texts nor integers stand for none, and these are all that the
reader refuses.
-/

namespace RemoteJobs.JobState

inductive Denotes : Json → JobState → Prop where
  | name (s : JobState) : Denotes (.str s.name) s
  | olderName : Denotes (.str "ErrorState") .error
  | unknownName {t : String} : (∀ s : JobState, t ≠ s.name) → t ≠ "ErrorState" →
      Denotes (.str t) .unknown
  | number {n : Nat} {s : JobState} : numbered[n]? = some s → Denotes (.int n) s
  | unknownNumber {n : Int} : n < 0 ∨ numbered.length ≤ n → Denotes (.int n) .unknown

theorem ofName_name (s : JobState) : ofName s.name = s := by
  cases s with
  | _ => decide

theorem ofName_of_unknown {t : String} (h : ∀ s : JobState, t ≠ s.name) (ht : t ≠ "ErrorState") :
    ofName t = .unknown := by
  have hfind : numbered.find? (·.name = t) = Option.none := by
    rw [List.find?_eq_none]
    intro s _
    simpa using (h s).symm
  rw [ofName, if_neg ht, hfind]
  rfl

theorem denotes_ofName (t : String) : Denotes (.str t) (ofName t) := by
  by_cases hold : t = "ErrorState"
  · subst hold
    exact .olderName
  · by_cases hname : ∃ s : JobState, t = s.name
    · obtain ⟨s, rfl⟩ := hname
      rw [ofName_name]
      exact .name s
    · have hnone : ∀ s : JobState, t ≠ s.name := fun s hs => hname ⟨s, hs⟩
      rw [ofName_of_unknown hnone hold]
      exact .unknownName hnone hold

theorem ofIndex_of_unknown {n : Int} (h : n < 0 ∨ numbered.length ≤ n) :
    ofIndex n = .unknown := by
  rw [ofIndex]
  split
  · rw [List.getElem?_eq_none (by omega)]
    rfl
  · rfl

theorem denotes_ofIndex (n : Int) : Denotes (.int n) (ofIndex n) := by
  by_cases h : n < 0 ∨ numbered.length ≤ n
  · rw [ofIndex_of_unknown h]
    exact .unknownNumber h
  · obtain ⟨k, rfl⟩ := Int.eq_ofNat_of_zero_le (a := n) (by omega)
    have hk : k < numbered.length := by omega
    rw [ofIndex, if_pos (by omega), Int.toNat_natCast, List.getElem?_eq_getElem hk]
    exact .number (List.getElem?_eq_getElem hk)

/-- The reader takes a value for the state that it denotes. -/
theorem decode_eq_ok_iff {v : Json} {s : JobState} : decode v = .ok s ↔ Denotes v s := by
  constructor
  · intro h
    cases v with
    | str t =>
        cases h
        exact denotes_ofName t
    | int n =>
        cases h
        exact denotes_ofIndex n
    | _ => cases h
  · intro h
    cases h with
    | name s => exact congrArg Except.ok (ofName_name s)
    | olderName => rfl
    | unknownName hname hold => exact congrArg Except.ok (ofName_of_unknown hname hold)
    | @number k s hs =>
        refine congrArg Except.ok ?_
        rw [ofIndex, if_pos (by omega), Int.toNat_natCast, hs]
        rfl
    | unknownNumber hn => exact congrArg Except.ok (ofIndex_of_unknown hn)

theorem exists_decode_iff {v : Json} :
    (∃ s, decode v = .ok s) ↔ (∃ t, v = .str t) ∨ ∃ n, v = .int n := by
  cases v with
  | _ => simp [decode]

end RemoteJobs.JobState
