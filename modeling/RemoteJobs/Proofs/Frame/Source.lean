import RemoteJobs.Frame.Source
import RemoteJobs.Proofs.Frame.Cut

/-!
# The pieces of a stream make no difference

Reading a header or a payload goes on until it is whole, so what comes of it
depends on the bytes of the stream, not on its pieces. Reading frame after frame
cuts the stream, and ends as a reader of single bytes would end there.
-/

namespace RemoteJobs.Frame.Source

variable {src src' : Source} {n : Nat}

theorem length_of_read {s : Bytes} (h : src.read n = (s, src')) : s.length ≤ n := by
  match src with
  | ⟨[], _⟩ =>
      cases h
      exact Nat.zero_le n
  | ⟨p :: ps, _⟩ =>
      rw [read] at h
      split at h
      · next hle =>
          cases h
          exact hle
      · cases h
        exact List.length_take_le n p

/-- A read gets nothing at the end of the stream only. -/
theorem bytes_of_read_nil (hn : 0 < n) (h : src.read n = ([], src')) : src.bytes = [] := by
  match src with
  | ⟨[], _⟩ => rfl
  | ⟨p :: ps, hsolid⟩ =>
      have hp : p ≠ [] := hsolid p List.mem_cons_self
      rw [read] at h
      split at h
      · cases h
        exact absurd rfl hp
      · injection h with htake
        rcases List.take_eq_nil_iff.mp htake with hn' | hp'
        · omega
        · exact absurd hp' hp

theorem bytes_behind_read_nil (hn : 0 < n) (h : src.read n = ([], src')) : src'.bytes = [] := by
  have hbytes := bytes_of_read h
  rw [bytes_of_read_nil hn h] at hbytes
  exact hbytes.symm

/-! ## Headers -/

theorem readHeader_of_short (got : Bytes) (h : got.length + src.bytes.length < headerSize) :
    ∃ src', src.readHeader got =
        (match (Reader.header (got ++ src.bytes)).close with
          | none => .ok none
          | some e => .error e, src') ∧
      src'.bytes = [] := by
  fun_induction readHeader got src with
  | case1 got src hlt src₁ hr hclose =>
      rw [bytes_of_read_nil (by omega) hr, List.append_nil, hclose]
      exact ⟨src₁, rfl, bytes_behind_read_nil (by omega) hr⟩
  | case2 got src hlt src₁ hr e hclose =>
      rw [bytes_of_read_nil (by omega) hr, List.append_nil, hclose]
      exact ⟨src₁, rfl, bytes_behind_read_nil (by omega) hr⟩
  | case3 got src hlt b s src₁ hr ih =>
      rw [bytes_of_read hr] at h ⊢
      rw [← List.append_assoc]
      exact ih (by simp only [List.length_append] at h ⊢; omega)
  | case4 got src hlt => omega

theorem readHeader_of_whole (got : Bytes) (hgot : got.length ≤ headerSize)
    (h : headerSize ≤ got.length + src.bytes.length) :
    ∃ src', src.readHeader got =
        (.ok (some (Bytes.toNumber (got ++ src.bytes.take (headerSize - got.length)))), src') ∧
      src'.bytes = src.bytes.drop (headerSize - got.length) := by
  fun_induction readHeader got src with
  | case1 got src hlt src₁ hr hclose =>
      rw [bytes_of_read_nil (by omega) hr, List.length_nil] at h
      omega
  | case2 got src hlt src₁ hr e hclose =>
      rw [bytes_of_read_nil (by omega) hr, List.length_nil] at h
      omega
  | case3 got src hlt b s src₁ hr ih =>
      have hle := length_of_read hr
      rw [bytes_of_read hr, List.length_append] at h
      obtain ⟨src₂, hread, hbytes⟩ := ih (by rw [List.length_append]; omega)
        (by rw [List.length_append]; omega)
      rw [List.length_append, ← Nat.sub_sub] at hread hbytes
      rw [bytes_of_read hr, List.take_append, List.drop_append, List.take_of_length_le hle,
        List.drop_of_length_le hle, List.nil_append, ← List.append_assoc]
      exact ⟨src₂, hread, hbytes⟩
  | case4 got src hlt =>
      have hz : headerSize - got.length = 0 := by omega
      rw [hz, List.take_zero, List.drop_zero, List.append_nil]
      exact ⟨src, rfl, rfl⟩

/-! ## Payloads -/

theorem readExact_of_short (got : Bytes) (h : src.bytes.length < n) :
    ∃ src', src.readExact got n = (.error (.io "early eof"), src') ∧ src'.bytes = [] := by
  fun_induction readExact got n src with
  | case1 => omega
  | case2 got n src hn src₁ hr => exact ⟨src₁, rfl, bytes_behind_read_nil (by omega) hr⟩
  | case3 got n src hn b s src₁ hr ih =>
      rw [bytes_of_read hr, List.length_append, List.length_cons] at h
      exact ih (by omega)

theorem readExact_of_whole (got : Bytes) (h : n ≤ src.bytes.length) :
    ∃ src', src.readExact got n = (.ok (got ++ src.bytes.take n), src') ∧
      src'.bytes = src.bytes.drop n := by
  fun_induction readExact got n src with
  | case1 got src =>
      rw [List.take_zero, List.drop_zero, List.append_nil]
      exact ⟨src, rfl, rfl⟩
  | case2 got n src hn src₁ hr =>
      rw [bytes_of_read_nil (by omega) hr, List.length_nil] at h
      omega
  | case3 got n src hn b s src₁ hr ih =>
      have hle := length_of_read hr
      rw [bytes_of_read hr, List.length_append] at h
      obtain ⟨src₂, hread, hbytes⟩ := ih (by rw [List.length_cons] at h; omega)
      rw [bytes_of_read hr, List.take_append, List.drop_append, List.take_of_length_le hle,
        List.drop_of_length_le hle, List.nil_append, ← List.append_assoc]
      exact ⟨src₂, hread, hbytes⟩

/-! ## Frames -/

theorem readFrame_of_short (limit : Nat) (h : src.bytes.length < headerSize) :
    ∃ src', src.readFrame limit =
        (match (Reader.header src.bytes).close with
          | none => .ok none
          | some e => .error e, src') ∧
      src'.bytes = [] := by
  have hshort : ([] : Bytes).length + src.bytes.length < headerSize := by
    rw [List.length_nil]
    omega
  obtain ⟨src', hr, hrest⟩ := readHeader_of_short [] hshort
  rw [readFrame, hr, List.nil_append]
  refine ⟨src', ?_, hrest⟩
  cases (Reader.header src.bytes).close with
  | none => rfl
  | some e => rfl

/-- Behind a whole header the frame is read as its length says. -/
theorem readFrame_of_header (limit : Nat) (h : headerSize ≤ src.bytes.length) :
    ∃ src₁ : Source, src₁.bytes = src.bytes.drop headerSize ∧
      src.readFrame limit =
        match Reader.ofLength limit (Bytes.toNumber (src.bytes.take headerSize)) with
        | (.stopped reason, _) => (.error reason, src₁)
        | (_, some payload) => (.ok (some payload), src₁)
        | (_, none) =>
          match src₁.readExact [] (Bytes.toNumber (src.bytes.take headerSize)) with
          | (.ok payload, src) => (.ok (some payload), src)
          | (.error e, src) => (.error e, src) := by
  have hwhole : headerSize ≤ ([] : Bytes).length + src.bytes.length := by
    rw [List.length_nil]
    omega
  obtain ⟨src₁, hr, hbytes⟩ := readHeader_of_whole [] (Nat.zero_le _) hwhole
  refine ⟨src₁, hbytes, ?_⟩
  rw [readFrame, hr]
  rfl

theorem readFrame_cut (limit : Nat) (src : Source) :
    (∃ payload src', src.readFrame limit = (.ok (some payload), src') ∧
        cut limit src.bytes = (payload :: (cut limit src'.bytes).1, (cut limit src'.bytes).2)) ∨
      ∃ tail src', cut limit src.bytes = ([], tail) ∧
        src.readFrame limit =
          (match (tail.reader limit).close with
            | none => .ok none
            | some e => .error e, src') := by
  by_cases hshort : src.bytes.length < headerSize
  · obtain ⟨src', hr, -⟩ := readFrame_of_short limit hshort
    exact .inr ⟨.header src.bytes, src', by rw [cut, if_pos hshort], hr⟩
  · obtain ⟨src₁, hbytes, hr⟩ := readFrame_of_header limit (Nat.le_of_not_lt hshort)
    rw [cut, if_neg hshort, ← hbytes]
    generalize Bytes.toNumber (src.bytes.take headerSize) = length at hr ⊢
    simp only []
    by_cases hnull : length = nullMark
    · rw [Reader.ofLength, if_pos hnull] at hr
      rw [if_pos hnull]
      exact .inl ⟨[], src₁, hr, rfl⟩
    · by_cases hlimit : limit < length
      · rw [Reader.ofLength, if_neg hnull, if_pos hlimit] at hr
        rw [if_neg hnull, if_pos hlimit]
        exact .inr ⟨.oversized length, src₁, rfl, hr⟩
      · rw [if_neg hnull, if_neg hlimit]
        by_cases hrest : src₁.bytes.length < length
        · obtain ⟨src₂, hexact, -⟩ := readExact_of_short [] hrest
          rw [Reader.ofLength, if_neg hnull, if_neg hlimit, if_neg (by omega), hexact] at hr
          rw [if_pos hrest]
          exact .inr ⟨.payload length src₁.bytes, src₂, rfl, hr⟩
        · obtain ⟨src₂, hexact, hbytes₂⟩ :=
            readExact_of_whole [] (Nat.le_of_not_lt hrest)
          rw [if_neg hrest]
          by_cases hzero : length = 0
          · rw [Reader.ofLength, if_neg hnull, if_neg hlimit, if_pos hzero] at hr
            refine .inl ⟨[], src₁, hr, ?_⟩
            rw [hzero, List.take_zero, List.drop_zero]
          · rw [Reader.ofLength, if_neg hnull, if_neg hlimit, if_neg hzero, hexact] at hr
            refine .inl ⟨src₁.bytes.take length, src₂, hr, ?_⟩
            rw [hbytes₂]

/-- Reading frame after frame cuts the stream. -/
theorem readFrames_eq (limit : Nat) (src : Source) :
    src.readFrames limit =
      ((cut limit src.bytes).1, ((cut limit src.bytes).2.reader limit).close) := by
  fun_induction readFrames limit src with
  | case1 src payload src' hr ih =>
      rcases readFrame_cut limit src with ⟨payload', src'', hr', hcut⟩ | ⟨tail, src'', hcut, hr'⟩
      · rw [hr] at hr'
        cases hr'
        rw [hcut, ih]
      · rw [hr] at hr'
        split at hr'
        · cases hr'
        · cases hr'
  | case2 src src' hr =>
      rcases readFrame_cut limit src with ⟨payload', src'', hr', hcut⟩ | ⟨tail, src'', hcut, hr'⟩
      · rw [hr] at hr'
        cases hr'
      · rw [hr] at hr'
        split at hr'
        · next hclose => rw [hcut, hclose]
        · cases hr'
  | case3 src e src' hr =>
      rcases readFrame_cut limit src with ⟨payload', src'', hr', hcut⟩ | ⟨tail, src'', hcut, hr'⟩
      · rw [hr] at hr'
        cases hr'
      · rw [hr] at hr'
        split at hr'
        · cases hr'
        · next hclose =>
            cases hr'
            rw [hcut, hclose]

end RemoteJobs.Frame.Source
