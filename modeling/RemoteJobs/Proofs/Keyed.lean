import RemoteJobs.Keyed

/-!
# Lists in the order of their names

`insert` keeps a list in order and adds nothing but its own entry. In a list in
order no name stands twice, so `get?` finds an entry if and only if it is there;
this is what lets statements about objects speak of their members alone.

An object that is put together from entries is known by what `get?` finds in
them, from the last to the first.
-/

namespace RemoteJobs.Keyed

variable {α : Type} {m : Keyed α} {k : String} {v : α}

theorem mem_names_of_mem (h : (k, v) ∈ m) : k ∈ m.names := List.mem_map_of_mem h

/-! ## Inserting -/

theorem mem_insert {e : String × α} (h : e ∈ m.insert k v) : e = (k, v) ∨ e ∈ m := by
  induction m with
  | nil =>
      rw [insert, List.mem_singleton] at h
      exact .inl h
  | cons a m ih =>
      obtain ⟨k', v'⟩ := a
      rw [insert] at h
      split at h
      · exact List.mem_cons.mp h
      · split at h
        · rcases List.mem_cons.mp h with h | h
          · exact .inl h
          · exact .inr (List.mem_cons_of_mem _ h)
        · rcases List.mem_cons.mp h with h | h
          · exact .inr (h ▸ List.mem_cons_self)
          · rcases ih h with h | h
            · exact .inl h
            · exact .inr (List.mem_cons_of_mem _ h)

theorem ordered_cons {k' : String} {v' : α} :
    Ordered ((k', v') :: m) ↔ (∀ k ∈ m.names, k' < k) ∧ m.Ordered := List.pairwise_cons

theorem ordered_insert (h : m.Ordered) (k : String) (v : α) : (m.insert k v).Ordered := by
  induction m with
  | nil => exact ordered_cons.mpr ⟨fun i hi => absurd hi List.not_mem_nil, h⟩
  | cons a m ih =>
      obtain ⟨k', v'⟩ := a
      obtain ⟨hlt, hm⟩ := ordered_cons.mp h
      rw [insert]
      split
      · next hk =>
          refine ordered_cons.mpr ⟨fun i hi => ?_, h⟩
          rcases List.mem_cons.mp hi with rfl | hi
          · exact hk
          · exact String.lt_trans hk (hlt i hi)
      · next hk =>
          split
          · next he =>
              subst he
              exact ordered_cons.mpr ⟨hlt, hm⟩
          · next hne =>
              refine ordered_cons.mpr ⟨fun i hi => ?_, ih hm⟩
              obtain ⟨e, he, rfl⟩ := List.mem_map.mp hi
              rcases mem_insert he with rfl | he
              · exact Std.lt_of_le_of_ne (String.not_lt.mp hk) (Ne.symm hne)
              · exact hlt _ (List.mem_map_of_mem he)

/-- An entry behind all others is put at the end. -/
theorem insert_of_lt (h : ∀ i ∈ m.names, i < k) : m.insert k v = m ++ [(k, v)] := by
  induction m with
  | nil => rfl
  | cons a m ih =>
      obtain ⟨k', v'⟩ := a
      have hk : k' < k := h k' List.mem_cons_self
      have hne : k ≠ k' := fun he => String.lt_irrefl k' (he ▸ hk)
      rw [insert, if_neg (String.lt_asymm hk), if_neg hne,
        ih fun i hi => h i (List.mem_cons_of_mem k' hi)]
      rfl

theorem foldl_insert_of_ordered {done m : Keyed α} (h : Ordered (done ++ m)) :
    m.foldl (fun m e => m.insert e.1 e.2) done = done ++ m := by
  induction m generalizing done with
  | nil => exact (List.append_nil done).symm
  | cons e m ih =>
      have hlt : ∀ i ∈ done.names, i < e.1 := by
        intro i hi
        rw [Ordered, names, List.map_append, List.pairwise_append] at h
        exact h.2.2 i hi e.1 List.mem_cons_self
      have hstep : done.insert e.1 e.2 = done ++ [e] := insert_of_lt hlt
      rw [List.foldl_cons, hstep, ih (by rwa [List.append_assoc]), List.append_assoc]
      rfl

/-- A list in order is what it makes of its entries. -/
theorem ofList_of_ordered (h : m.Ordered) : ofList m = m := foldl_insert_of_ordered h

theorem ordered_foldl_insert (entries : List (String × α)) {done : Keyed α} (h : done.Ordered) :
    (entries.foldl (fun m e => m.insert e.1 e.2) done).Ordered := by
  induction entries generalizing done with
  | nil => exact h
  | cons e entries ih => exact ih (ordered_insert h e.1 e.2)

theorem mem_foldl_insert {entries : List (String × α)} {done : Keyed α} {e : String × α}
    (h : e ∈ entries.foldl (fun m e => m.insert e.1 e.2) done) : e ∈ done ∨ e ∈ entries := by
  induction entries generalizing done with
  | nil => exact .inl h
  | cons e' entries ih =>
      rcases ih h with h | h
      · rcases mem_insert h with rfl | h
        · exact .inr List.mem_cons_self
        · exact .inl h
      · exact .inr (List.mem_cons_of_mem e' h)

theorem ordered_ofList (entries : List (String × α)) : (ofList entries).Ordered :=
  ordered_foldl_insert entries .nil

theorem mem_of_mem_ofList {entries : List (String × α)} {e : String × α}
    (h : e ∈ ofList entries) : e ∈ entries :=
  (mem_foldl_insert h).resolve_left List.not_mem_nil

/-! ## Finding -/

theorem get?_eq_none_iff : m.get? k = none ↔ k ∉ m.names := by
  rw [get?, Option.map_eq_none_iff, List.find?_eq_none, names]
  constructor
  · intro h hk
    obtain ⟨e, he, hek⟩ := List.mem_map.mp hk
    exact absurd hek (by simpa using h e he)
  · intro h e he
    have hne : e.1 ≠ k := fun hek => h (hek ▸ List.mem_map_of_mem he)
    simpa using hne

theorem mem_of_get? (h : m.get? k = some v) : (k, v) ∈ m := by
  rw [get?, Option.map_eq_some_iff] at h
  obtain ⟨e, he, rfl⟩ := h
  have hk : e.1 = k := by simpa using List.find?_some he
  rw [← hk]
  exact List.mem_of_find?_eq_some he

theorem get?_of_mem (h : m.names.Nodup) (hv : (k, v) ∈ m) : m.get? k = some v := by
  induction m with
  | nil => cases hv
  | cons a m ih =>
      obtain ⟨k', v'⟩ := a
      obtain ⟨hk', hm⟩ := List.nodup_cons.mp h
      rcases List.mem_cons.mp hv with he | he
      · cases he
        rw [get?, List.find?_cons_of_pos (by simp)]
        rfl
      · have hne : k' ≠ k := fun hk => hk' (hk ▸ mem_names_of_mem he)
        rw [get?, List.find?_cons_of_neg (by simpa using hne)]
        exact ih hm he

theorem Ordered.nodup (h : m.Ordered) : m.names.Nodup := by
  refine List.Pairwise.imp (fun {a b} hlt he => ?_) h
  subst he
  exact String.lt_irrefl _ hlt

theorem get?_eq_some_iff (h : m.Ordered) : m.get? k = some v ↔ (k, v) ∈ m :=
  ⟨mem_of_get?, get?_of_mem h.nodup⟩

/-! ## Entries in any order

`get?` takes the first entry under a name. In entries that come one after the
other, each in the place of an older one, it is the last that counts. -/

@[simp] theorem get?_nil (k : String) : get? ([] : Keyed α) k = none := rfl

@[simp] theorem get?_cons (e : String × α) (m : Keyed α) (k : String) :
    get? (e :: m) k = if e.1 = k then some e.2 else m.get? k := by
  by_cases h : e.1 = k
  · simp [get?, h]
  · simp [get?, h]

@[simp] theorem get?_append (m m' : Keyed α) (k : String) :
    get? (m ++ m') k = (m.get? k).or (m'.get? k) := by
  simp [get?, List.find?_append, Option.map_or]

@[simp] theorem names_append (m m' : Keyed α) : names (m ++ m') = m.names ++ m'.names :=
  List.map_append

theorem get?_filter (p : String → Bool) (m : Keyed α) (k : String) :
    get? (m.filter (p ·.1)) k = if p k then m.get? k else none := by
  induction m with
  | nil => simp
  | cons e m ih =>
      rw [List.filter_cons, get?_cons]
      by_cases hk : e.1 = k
      · subst hk
        split
        · simp
        · next hp => rw [ih, if_neg hp]
      · rw [if_neg hk, ← ih]
        split
        · rw [get?_cons, if_neg hk]
        · rfl

theorem get?_map_pair (ks : List String) (v : α) (k : String) :
    get? (ks.map (·, v)) k = if k ∈ ks then some v else none := by
  induction ks with
  | nil => rfl
  | cons i ks ih =>
      rw [List.map_cons, get?_cons, ih]
      by_cases hk : i = k
      · simp [hk]
      · simp [hk, Ne.symm hk]

theorem get?_map {β : Type} (f : α → β) (m : Keyed α) (k : String) :
    get? (m.map fun e => (e.1, f e.2)) k = (m.get? k).map f := by
  induction m with
  | nil => rfl
  | cons e m ih =>
      rw [List.map_cons, get?_cons, get?_cons, ih]
      split
      · rfl
      · rfl

theorem names_map {β : Type} (f : α → β) (m : Keyed α) :
    names (m.map fun e => (e.1, f e.2)) = m.names := by
  rw [names, List.map_map]
  rfl

theorem get?_insert (m : Keyed α) (k : String) (v : α) (i : String) :
    (m.insert k v).get? i = if k = i then some v else m.get? i := by
  induction m with
  | nil => simp [insert]
  | cons e m ih =>
      obtain ⟨k', v'⟩ := e
      rw [insert]
      split
      · simp
      · split
        · next he =>
            subst he
            by_cases hi : k = i
            · simp [hi]
            · simp [hi]
        · next hne =>
            rw [get?_cons, get?_cons, ih]
            by_cases hi : k' = i
            · subst hi
              simp [hne]
            · simp [hi]

theorem get?_foldl_insert (entries : List (String × α)) (done : Keyed α) (k : String) :
    (entries.foldl (fun m e => m.insert e.1 e.2) done).get? k =
      (get? entries.reverse k).or (done.get? k) := by
  induction entries generalizing done with
  | nil => simp
  | cons e entries ih =>
      rw [List.foldl_cons, ih, get?_insert, List.reverse_cons, get?_append, Option.or_assoc]
      by_cases hk : e.1 = k
      · simp [hk]
      · simp [hk]

/-- Of several entries under one name the last counts. -/
theorem get?_ofList (entries : List (String × α)) (k : String) :
    (ofList entries).get? k = get? entries.reverse k :=
  (get?_foldl_insert entries [] k).trans (by simp)

theorem get?_ofList_append (entries entries' : List (String × α)) (k : String) :
    (ofList (entries ++ entries')).get? k =
      ((ofList entries').get? k).or ((ofList entries).get? k) := by
  simp only [get?_ofList, List.reverse_append, get?_append]

theorem mem_names_ofList {entries : List (String × α)} {k : String} :
    k ∈ (ofList entries).names ↔ k ∈ names entries := by
  rw [← Decidable.not_iff_not, ← get?_eq_none_iff, get?_ofList, get?_eq_none_iff, names, names,
    List.map_reverse, List.mem_reverse]

theorem get?_reverse {m : Keyed α} (h : m.names.Nodup) (k : String) :
    get? m.reverse k = m.get? k := by
  induction m with
  | nil => rfl
  | cons e m ih =>
      obtain ⟨he, hm⟩ := List.nodup_cons.mp h
      rw [List.reverse_cons, get?_append, ih hm, get?_cons, get?_cons, get?_nil]
      by_cases hk : e.1 = k
      · subst hk
        rw [get?_eq_none_iff.mpr he]
        simp
      · simp [hk]

/-- Entries with different names are all found. -/
theorem get?_ofList_of_nodup {entries : List (String × α)} (h : (names entries).Nodup)
    (k : String) : (ofList entries).get? k = get? entries k :=
  (get?_ofList entries k).trans (get?_reverse h k)

/-- Entries with different names all find a place. -/
theorem mem_ofList_of_mem {entries : List (String × α)} {e : String × α}
    (h : (names entries).Nodup) (he : e ∈ entries) : e ∈ ofList entries :=
  mem_of_get? ((get?_ofList_of_nodup h e.1).trans (get?_of_mem h he))

theorem not_mem_names_ofList {entries : List (String × α)} {k : String}
    (h : k ∉ names entries) : k ∉ (ofList entries).names := mt mem_names_ofList.mp h

end RemoteJobs.Keyed
