import RemoteJobs.Json.Reader
import RemoteJobs.Proofs.Keyed

/-!
# What has been read is in order

In a value that has been read from a text the members of every object, at any
depth, stand in the order of their names, one for each name. The proof follows
the reader: each of its functions keeps what it has gathered in order.
-/

namespace RemoteJobs.Json

/-- Every object in the value has its members in order. -/
inductive Ordered : Json → Prop where
  | null : Ordered .null
  | bool (b : Bool) : Ordered (.bool b)
  | int (n : Int) : Ordered (.int n)
  | real (x : Binary64) : Ordered (.real x)
  | str (t : String) : Ordered (.str t)
  | arr {items : List Json} : (∀ v ∈ items, Ordered v) → Ordered (.arr items)
  | obj {members : List (String × Json)} : Keyed.Ordered members →
      (∀ e ∈ members, Ordered e.2) → Ordered (.obj members)

attribute [simp] Ordered.null Ordered.bool Ordered.int Ordered.real Ordered.str

@[simp] theorem ordered_arr_iff {items : List Json} :
    Ordered (.arr items) ↔ ∀ v ∈ items, Ordered v :=
  ⟨fun h => by cases h; assumption, .arr⟩

@[simp] theorem ordered_obj_iff {members : List (String × Json)} :
    Ordered (.obj members) ↔ Keyed.Ordered members ∧ ∀ e ∈ members, Ordered e.2 :=
  ⟨fun h => by cases h; exact ⟨‹_›, ‹_›⟩, fun h => .obj h.1 h.2⟩

/-- Members in order, with values in order. -/
structure OrderedMembers (m : Keyed Json) : Prop where
  names : m.Ordered
  values : ∀ e ∈ m, Ordered e.2

theorem OrderedMembers.nil : OrderedMembers [] := ⟨.nil, fun _ h => by cases h⟩

theorem OrderedMembers.insert {m : Keyed Json} (h : OrderedMembers m) (k : String) {v : Json}
    (hv : Ordered v) : OrderedMembers (m.insert k v) := by
  refine ⟨Keyed.ordered_insert h.names k v, fun e he => ?_⟩
  rcases Keyed.mem_insert he with rfl | he
  · exact hv
  · exact h.values e he

/-! ## The reader -/

theorem ordered_exponent {negative : Bool} {whole fraction : List Nat} {s r : Bytes} {v : Json}
    (h : exponent negative whole fraction s = .ok (v, r)) : Ordered v := by
  rw [exponent] at h
  split at h
  · cases h
  · split at h
    · dsimp only at h
      split at h
      · split at h
        · cases h
          exact .real _
        · cases h
      · split at h
        · cases h
          exact .real _
        · cases h
    · cases h

theorem ordered_integer {negative : Bool} {whole : List Nat} {v : Json}
    (h : integer negative whole = some v) : Ordered v := by
  have hreal : ∀ {o : Option Binary64}, o.map Json.real = some v → Ordered v := by
    intro o h
    rw [Option.map_eq_some_iff] at h
    obtain ⟨x, -, rfl⟩ := h
    exact .real x
  rw [integer] at h
  dsimp only at h
  split at h
  · split at h
    · cases h
      exact .int _
    · split at h
      · exact hreal h
      · cases h
        exact .int _
  · exact hreal h

theorem ordered_afterWhole {negative : Bool} {whole : List Nat} {s r : Bytes} {v : Json}
    (h : afterWhole negative whole s = .ok (v, r)) : Ordered v := by
  have hplain : ∀ {s}, afterWhole.plain negative whole s = .ok (v, r) → Ordered v := by
    intro s h
    rw [afterWhole.plain] at h
    split at h
    · next hi =>
        cases h
        exact ordered_integer hi
    · cases h
  have hdone : ∀ {f s}, afterWhole.done negative whole f s = .ok (v, r) → Ordered v := by
    intro f s h
    rw [afterWhole.done] at h
    dsimp only at h
    split at h
    · cases h
      exact .real _
    · cases h
  rw [afterWhole.eq_def] at h
  split at h
  · split at h
    · dsimp only at h
      split at h
      · cases h
      · split at h
        · split at h
          · exact ordered_exponent h
          · exact hdone h
        · exact hdone h
    · split at h
      · exact ordered_exponent h
      · exact hplain h
  · exact hplain h

theorem ordered_number {negative : Bool} {s r : Bytes} {v : Json}
    (h : number negative s = .ok (v, r)) : Ordered v := by
  rw [number.eq_def] at h
  split at h
  · cases h
  · split at h
    · split at h
      · split at h
        · cases h
        · exact ordered_afterWhole h
      · exact ordered_afterWhole h
    · split at h
      · exact ordered_afterWhole h
      · cases h

theorem ordered_scalar {s r : Bytes} {v : Json} (h : scalar s = .ok (v, r)) : Ordered v := by
  have hw : ∀ {cs w u}, Ordered w → scalar.word cs w u = .ok (v, r) → Ordered v := by
    intro cs w u hw h
    rw [scalar.word] at h
    split at h
    · cases h
      exact hw
    · cases h
  rw [scalar.eq_def] at h
  split at h
  · cases h
  · split at h
    · exact hw .null h
    split at h
    · exact hw (.bool true) h
    split at h
    · exact hw (.bool false) h
    split at h
    · exact ordered_number h
    split at h
    · exact ordered_number h
    split at h
    · split at h
      · cases h
        exact .str _
      · cases h
    · cases h

mutual

theorem ordered_value {room : Nat} {s : Bytes} {v : Json} {r : Below s}
    (h : value room s = .ok (v, r)) : Ordered v := by
  rw [value] at h
  split at h
  · cases h
  · next b t hs =>
      have ht := lt_of_skipBlanks_eq hs
      split at h
      · split at h
        · cases h
        · split at h
          · next hi =>
              cases h
              exact .arr (ordered_items hi fun _ hw => by cases hw)
          · cases h
      · split at h
        · split at h
          · cases h
          · split at h
            · next hm =>
                cases h
                have ho := ordered_members hm .nil
                exact .obj ho.names ho.values
            · cases h
        · split at h
          · next hv =>
              cases h
              exact ordered_scalar hv
          · cases h
termination_by 2 * s.length
decreasing_by
  all_goals omega

theorem ordered_items {room : Nat} {outer : Bytes} {done vs : List Json} {first : Bool} {s : Bytes}
    {hn : s.length < outer.length} {r : Below outer}
    (h : items room outer done first s hn = .ok (vs, r)) (hd : ∀ v ∈ done, Ordered v) :
    ∀ v ∈ vs, Ordered v := by
  have hcons : ∀ {w : Json}, Ordered w → ∀ v ∈ w :: done, Ordered v := by
    intro w hw v hv
    rcases List.mem_cons.mp hv with rfl | hv
    · exact hw
    · exact hd v hv
  rw [items] at h
  split at h
  · cases h
  · next b t hs =>
      have ht := lt_of_skipBlanks_eq hs
      split at h
      · cases h
        exact fun v hv => hd v (List.mem_reverse.mp hv)
      · split at h
        · split at h
          · next r' hr' hv =>
              have hlt : r'.length ≤ t.length := Nat.le_of_lt_succ hr'
              exact ordered_items h (hcons (ordered_value hv))
          · cases h
        · split at h
          · split at h
            · cases h
            · next c u hu =>
                have hu' := lt_of_skipBlanks_eq hu
                split at h
                · cases h
                · split at h
                  · next r' hr' hv =>
                      have hlt : r'.length ≤ u.length := Nat.le_of_lt_succ hr'
                      exact ordered_items h (hcons (ordered_value hv))
                  · cases h
          · cases h
termination_by 2 * s.length + 1
decreasing_by
  all_goals
    try rw [List.length_cons]
    omega

theorem ordered_members {room : Nat} {outer : Bytes} {done m : Keyed Json} {first : Bool}
    {s : Bytes} {hn : s.length < outer.length} {r : Below outer}
    (h : members room outer done first s hn = .ok (m, r)) (hd : OrderedMembers done) :
    OrderedMembers m := by
  rw [members] at h
  split at h
  · cases h
  · next b t hs =>
      have ht := lt_of_skipBlanks_eq hs
      split at h
      · cases h
        exact hd
      · split at h
        · split at h
          · exact ordered_member h hd
          · cases h
        · split at h
          · split at h
            · cases h
            · next c u hu =>
                have hu' := lt_of_skipBlanks_eq hu
                split at h
                · exact ordered_member h hd
                · split at h
                  · cases h
                  · cases h
          · cases h
termination_by 2 * s.length + 1
decreasing_by
  all_goals omega

theorem ordered_member {room : Nat} {outer : Bytes} {done m : Keyed Json} {s : Bytes}
    {hn : s.length < outer.length} {r : Below outer}
    (h : member room outer done s hn = .ok (m, r)) (hd : OrderedMembers done) :
    OrderedMembers m := by
  rw [member] at h
  split at h
  · cases h
  · next k t hk =>
      have ht := length_string hk
      split at h
      · cases h
      · next u hu =>
          have hu' := length_takeColon hu
          split at h
          · next r' hr' hv => exact ordered_members h (hd.insert k (ordered_value hv))
          · cases h
termination_by 2 * s.length + 2
decreasing_by
  all_goals omega

end

/-- A value that has been read is in order. -/
theorem ordered_of_parse {text : Bytes} {v : Json} (h : parse text = .ok v) : Ordered v := by
  rw [parse] at h
  split at h
  · cases h
  · next hv =>
      split at h
      · cases h
        exact ordered_value hv
      · cases h

end RemoteJobs.Json
