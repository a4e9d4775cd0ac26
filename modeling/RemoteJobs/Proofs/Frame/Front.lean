import RemoteJobs.Proofs.Frame.Codec

/-!
# What stands at the front of a stream

`Front` says what a reader that sees all bytes of a stream at once finds at the
front of it, in the terms of those who write it: a frame with the bytes behind
it, a header that says too much, a part of a frame, or nothing. `Fronts` goes on
with the bytes behind the frame as long as there is one. Neither knows of the
pieces in which the bytes arrive.

That reading a frame piece by piece comes to the same is shown in one direction
only, from what stands there to what is read. Something stands at the front of
every stream, so the other direction comes with it, and with that nothing else
can stand there.
-/

namespace RemoteJobs

/-- Four bytes are the ones that write the number that they write. -/
theorem Bytes.ofWord_toNumber {s : Bytes} (h : s.length = 4) :
    toNumber s < 4294967296 ∧ ofWord (toNumber s) = s := by
  match s, h with
  | [a, b, c, d], _ =>
      have ha := a.toNat_lt
      have hb := b.toNat_lt
      have hc := c.toNat_lt
      have hd := d.toNat_lt
      simp only [toNumber, List.foldl_cons, List.foldl_nil, ofWord, List.cons.injEq, and_true,
        ← UInt8.toNat_inj, UInt8.toNat_ofNat']
      omega

namespace Frame

/-- The failure of a stream that ends behind some bytes of a header. -/
def endedInHeader (got : Nat) : Failure :=
  .io (s!"stream ended after {Decimal.natText got} of {Decimal.natText headerSize} "
    ++ "header bytes")

/-- What stands at the front of bytes, as one read gives it, and the bytes behind
what has been read. -/
inductive Front (limit : Nat) : Bytes → Except Failure (Option Bytes) → Bytes → Prop
  | ended : Front limit [] (.ok none) []
  | brokenHeader {s : Bytes} : s ≠ [] → s.length < headerSize →
      Front limit s (.error (endedInHeader s.length)) []
  | marked (rest : Bytes) : Front limit (nullHeader ++ rest) (.ok (some [])) rest
  /-- Of the payload nothing is read, whether it is there or not. -/
  | oversized {n : Nat} (rest : Bytes) : limit < n → n < nullMark →
      Front limit (Bytes.ofWord n ++ rest) (.error (tooLong limit n)) rest
  | brokenPayload {n : Nat} {rest : Bytes} : n ≤ limit → n < nullMark → rest.length < n →
      Front limit (Bytes.ofWord n ++ rest) (.error (.io "early eof")) []
  | whole {p : Bytes} (rest : Bytes) : p.length ≤ limit → p.length < nullMark →
      Front limit (Bytes.ofWord p.length ++ p ++ rest) (.ok (some p)) rest

/-- The payloads of the frames from the front of bytes on, and why there are no
more. -/
inductive Fronts (limit : Nat) : Bytes → List Bytes → Option Failure → Prop
  | ended {s rest : Bytes} : Front limit s (.ok none) rest → Fronts limit s [] none
  | failed {s rest : Bytes} {e : Failure} :
      Front limit s (.error e) rest → Fronts limit s [] (some e)
  | frame {s rest p : Bytes} {ps : List Bytes} {e : Option Failure} :
      Front limit s (.ok (some p)) rest → Fronts limit rest ps e → Fronts limit s (p :: ps) e

variable {limit : Nat}

/-- Something stands at the front of any bytes. -/
theorem exists_front (limit : Nat) (s : Bytes) : ∃ r rest, Front limit s r rest := by
  by_cases hshort : s.length < headerSize
  · by_cases hs : s = []
    · subst hs
      exact ⟨_, _, .ended⟩
    · exact ⟨_, _, .brokenHeader hs hshort⟩
  · have hlength : (s.take headerSize).length = 4 := by
      rw [List.length_take]
      exact Nat.min_eq_left (Nat.le_of_not_lt hshort)
    obtain ⟨hlt, hword⟩ := Bytes.ofWord_toNumber hlength
    rw [← List.take_append_drop headerSize s, ← hword]
    generalize Bytes.toNumber (s.take headerSize) = n at hlt
    generalize s.drop headerSize = rest
    by_cases hnull : n = nullMark
    · subst hnull
      exact ⟨_, _, .marked rest⟩
    · have hn : n < nullMark := by
        rw [nullMark] at hnull ⊢
        omega
      by_cases hlimit : limit < n
      · exact ⟨_, _, .oversized rest hlimit hn⟩
      · by_cases hrest : rest.length < n
        · exact ⟨_, _, .brokenPayload (Nat.le_of_not_lt hlimit) hn hrest⟩
        · have htake : (rest.take n).length = n := by
            rw [List.length_take]
            exact Nat.min_eq_left (Nat.le_of_not_lt hrest)
          have hwhole : Front limit (Bytes.ofWord (rest.take n).length ++ rest.take n ++ rest.drop n)
              (.ok (some (rest.take n))) (rest.drop n) :=
            .whole (rest.drop n) (by omega) (by omega)
          rw [htake, List.append_assoc, List.take_append_drop] at hwhole
          exact ⟨_, _, hwhole⟩

namespace Source

variable {src : Source} {n : Nat}

theorem bytes_ofPieces (pieces : List Bytes) : (ofPieces pieces).bytes = pieces.flatten :=
  List.flatten_filter_ne_nil

/-! ## One read -/

/-- Behind the header of a number the frame is read as the number says. -/
theorem readFrame_of_word (limit : Nat) {rest : Bytes} (hn : n < 4294967296)
    (hs : src.bytes = Bytes.ofWord n ++ rest) :
    ∃ src₁ : Source, src₁.bytes = rest ∧
      src.readFrame limit =
        match Reader.ofLength limit n with
        | (.stopped reason, _) => (.error reason, src₁)
        | (_, some payload) => (.ok (some payload), src₁)
        | (_, none) =>
          match src₁.readExact [] n with
          | (.ok payload, src) => (.ok (some payload), src)
          | (.error e, src) => (.error e, src) := by
  have hlength : headerSize ≤ src.bytes.length := by
    rw [hs, List.length_append, Bytes.length_ofWord]
    exact Nat.le_add_right 4 _
  have htake : (Bytes.ofWord n ++ rest).take headerSize = Bytes.ofWord n := rfl
  have hdrop : (Bytes.ofWord n ++ rest).drop headerSize = rest := rfl
  obtain ⟨src₁, hbytes, hr⟩ := readFrame_of_header limit hlength
  rw [hs, hdrop] at hbytes
  rw [hs, htake, Bytes.toNumber_ofWord hn] at hr
  exact ⟨src₁, hbytes, hr⟩

/-- What stands at the front of a stream is read from it, whatever its pieces. -/
theorem readFrame_of_front {r : Except Failure (Option Bytes)} {rest : Bytes}
    (h : Front limit src.bytes r rest) :
    ∃ src', src.readFrame limit = (r, src') ∧ src'.bytes = rest := by
  generalize hs : src.bytes = s at h
  cases h with
  | ended =>
      have hread := readFrame_of_short limit (hs ▸ (by decide : [].length < headerSize))
      rw [hs] at hread
      exact hread
  | brokenHeader hne hshort =>
      obtain ⟨src', hr, hrest⟩ := readFrame_of_short limit (hs ▸ hshort)
      rw [hs] at hr
      match s, hne with
      | _ :: _, _ => exact ⟨src', hr, hrest⟩
  | marked rest =>
      obtain ⟨src₁, hbytes, hr⟩ := readFrame_of_word limit (n := nullMark) (by decide) hs
      rw [Reader.ofLength, if_pos rfl] at hr
      exact ⟨src₁, hr, hbytes⟩
  | @oversized n rest hlimit hn =>
      obtain ⟨src₁, hbytes, hr⟩ := readFrame_of_word limit (Nat.lt_succ_of_lt hn) hs
      rw [Reader.ofLength, if_neg (Nat.ne_of_lt hn), if_pos hlimit] at hr
      exact ⟨src₁, hr, hbytes⟩
  | @brokenPayload n rest hlimit hn hrest =>
      obtain ⟨src₁, hbytes, hr⟩ := readFrame_of_word limit (Nat.lt_succ_of_lt hn) hs
      rw [← hbytes] at hrest
      obtain ⟨src₂, hexact, hend⟩ := readExact_of_short [] hrest
      rw [Reader.ofLength, if_neg (Nat.ne_of_lt hn), if_neg (Nat.not_lt.mpr hlimit),
        if_neg (by omega), hexact] at hr
      exact ⟨src₂, hr, hend⟩
  | @whole p rest hlimit hn =>
      rw [List.append_assoc] at hs
      obtain ⟨src₁, hbytes, hr⟩ := readFrame_of_word limit (Nat.lt_succ_of_lt hn) hs
      rw [Reader.ofLength, if_neg (Nat.ne_of_lt hn), if_neg (Nat.not_lt.mpr hlimit)] at hr
      by_cases hzero : p.length = 0
      · rw [if_pos hzero] at hr
        rw [List.eq_nil_of_length_eq_zero hzero] at hbytes ⊢
        exact ⟨src₁, hr, hbytes⟩
      · have henough : p.length ≤ src₁.bytes.length := by
          rw [hbytes, List.length_append]
          omega
        obtain ⟨src₂, hexact, hbytes₂⟩ := readExact_of_whole [] henough
        rw [if_neg hzero, hexact, hbytes, List.take_left] at hr
        rw [hbytes, List.drop_left] at hbytes₂
        exact ⟨src₂, hr, hbytes₂⟩

theorem front_iff {r : Except Failure (Option Bytes)} {rest : Bytes} :
    Front limit src.bytes r rest ↔
      ∃ src', src.readFrame limit = (r, src') ∧ src'.bytes = rest := by
  constructor
  · exact readFrame_of_front
  · intro hread
    obtain ⟨src', hr, rfl⟩ := hread
    obtain ⟨r', rest', hfront⟩ := exists_front limit src.bytes
    obtain ⟨src'', hr', rfl⟩ := readFrame_of_front hfront
    rw [hr] at hr'
    cases hr'
    exact hfront

/-! ## Read after read -/

theorem readFrames_of_readFrame (limit : Nat) (src : Source) :
    src.readFrames limit =
      match src.readFrame limit with
      | (.ok (some payload), src') =>
        (payload :: (src'.readFrames limit).1, (src'.readFrames limit).2)
      | (.ok none, _) => ([], none)
      | (.error e, _) => ([], some e) := by
  rw [readFrames]
  split
  · next hr => rw [hr]
  · next hr => rw [hr]
  · next hr => rw [hr]

theorem readFrames_of_fronts {ps : List Bytes} {e : Option Failure}
    (h : Fronts limit src.bytes ps e) : src.readFrames limit = (ps, e) := by
  generalize hs : src.bytes = s at h
  induction h generalizing src with
  | ended hfront =>
      obtain ⟨src', hr, -⟩ := readFrame_of_front (hs ▸ hfront)
      rw [readFrames_of_readFrame, hr]
  | failed hfront =>
      obtain ⟨src', hr, -⟩ := readFrame_of_front (hs ▸ hfront)
      rw [readFrames_of_readFrame, hr]
  | frame hfront _ ih =>
      obtain ⟨src', hr, hbytes⟩ := readFrame_of_front (hs ▸ hfront)
      rw [readFrames_of_readFrame, hr]
      simp only [ih hbytes]

theorem fronts_readFrames (limit : Nat) (src : Source) :
    Fronts limit src.bytes (src.readFrames limit).1 (src.readFrames limit).2 := by
  fun_induction readFrames limit src with
  | case1 src payload src' hr ih => exact .frame (front_iff.mpr ⟨src', hr, rfl⟩) ih
  | case2 src src' hr => exact .ended (front_iff.mpr ⟨src', hr, rfl⟩)
  | case3 src e src' hr => exact .failed (front_iff.mpr ⟨src', hr, rfl⟩)

theorem fronts_iff {ps : List Bytes} {e : Option Failure} :
    Fronts limit src.bytes ps e ↔ src.readFrames limit = (ps, e) := by
  constructor
  · exact readFrames_of_fronts
  · intro hread
    have hfronts := fronts_readFrames limit src
    rw [hread] at hfronts
    exact hfronts

end Source

/-! ## More of a stream -/

variable {s rest t p : Bytes} {ps ps' : List Bytes} {e e' : Option Failure}

/-- Only one thing stands at the front. -/
theorem Front.unique {r r' : Except Failure (Option Bytes)} {rest' : Bytes}
    (h : Front limit s r rest) (h' : Front limit s r' rest') : r = r' ∧ rest = rest' := by
  have hs : (Source.ofPieces [s]).bytes = s := by
    rw [Source.bytes_ofPieces, List.flatten_singleton]
  rw [← hs] at h h'
  obtain ⟨src, hr, rfl⟩ := Source.front_iff.mp h
  obtain ⟨src', hr', rfl⟩ := Source.front_iff.mp h'
  rw [hr] at hr'
  cases hr'
  exact ⟨rfl, rfl⟩

/-- A frame stays where it is if the stream goes on. -/
theorem Front.append (h : Front limit s (.ok (some p)) rest) (t : Bytes) :
    Front limit (s ++ t) (.ok (some p)) (rest ++ t) := by
  cases h with
  | marked rest =>
      rw [List.append_assoc]
      exact .marked (rest ++ t)
  | whole rest hlimit hn =>
      rw [List.append_assoc]
      exact .whole (rest ++ t) hlimit hn

theorem Front.length_frame (h : Front limit s (.ok (some p)) rest) :
    p.length ≤ limit ∧ rest.length + headerSize ≤ s.length := by
  cases h with
  | marked rest =>
      refine ⟨Nat.zero_le _, ?_⟩
      rw [List.length_append]
      exact Nat.le_of_eq (Nat.add_comm rest.length 4)
  | whole rest hlimit hn =>
      refine ⟨hlimit, ?_⟩
      rw [List.length_append, List.length_append, Bytes.length_ofWord, headerSize]
      omega

theorem Fronts.length_le (h : Fronts limit s ps e) :
    headerSize * ps.length ≤ s.length ∧ ∀ p ∈ ps, p.length ≤ limit := by
  induction h with
  | ended _ => exact ⟨Nat.zero_le _, by simp⟩
  | failed _ => exact ⟨Nat.zero_le _, by simp⟩
  | frame hfront _ ih =>
      obtain ⟨hlimit, hlength⟩ := hfront.length_frame
      rw [List.length_cons, Nat.mul_succ, List.forall_mem_cons]
      exact ⟨by omega, hlimit, ih.2⟩

/-- The frames of a part of a stream are the first frames of the stream. -/
theorem Fronts.isPrefix (h : Fronts limit s ps e) (h' : Fronts limit (s ++ t) ps' e') :
    ps <+: ps' := by
  induction h generalizing ps' with
  | ended _ => exact List.nil_prefix
  | failed _ => exact List.nil_prefix
  | frame hfront _ ih =>
      cases h' with
      | ended hother => cases (hfront.append t).unique hother |>.1
      | failed hother => cases (hfront.append t).unique hother |>.1
      | frame hother hrest =>
          obtain ⟨hp, rfl⟩ := (hfront.append t).unique hother
          cases hp
          exact List.cons_prefix_cons.mpr ⟨rfl, ih hrest⟩

/-- Whatever pieces a stream comes in and whatever the limit, each read gives
what stands at the front of the bytes that are left, and leaves the bytes behind
it; reading goes on from there until the stream ends or a read fails. It does so
after at most one frame for every four bytes, no payload is beyond the limit,
and the frames of a part of the stream are the first frames of the whole. -/
theorem fronts_of_pieces (limit : Nat) (src : Source) :
    (∀ r rest, Front limit src.bytes r rest ↔
        ∃ src', src.readFrame limit = (r, src') ∧ src'.bytes = rest) ∧
      (∀ ps e, Fronts limit src.bytes ps e ↔ src.readFrames limit = (ps, e)) ∧
      headerSize * (src.readFrames limit).1.length ≤ src.bytes.length ∧
      (∀ p ∈ (src.readFrames limit).1, p.length ≤ limit) ∧
      ∀ src' : Source, src.bytes <+: src'.bytes →
        (src.readFrames limit).1 <+: (src'.readFrames limit).1 := by
  have hfronts := Source.fronts_readFrames limit src
  obtain ⟨hcount, hlimit⟩ := hfronts.length_le
  refine ⟨fun r rest => Source.front_iff, fun ps e => Source.fronts_iff, hcount, hlimit, ?_⟩
  intro src' hprefix
  obtain ⟨t, ht⟩ := hprefix
  have hfronts' := Source.fronts_readFrames limit src'
  rw [← ht] at hfronts'
  exact hfronts.isPrefix hfronts'

/-- A stream that breaks off in its second header, and one that goes on with a
frame without content and a length beyond the limit, in other pieces. -/
theorem fronts_of_broken_stream :
    let part := Source.ofPieces [[0], [0, 0, 2, 7], [9, 255, 255], [255]]
    let whole := Source.ofPieces [[0, 0, 0, 2, 7, 9], [255, 255, 255, 255, 0], [0, 0, 17, 3]]
    part.readFrames 16 = ([[7, 9]], some (endedInHeader 3)) ∧
      whole.readFrames 16 = ([[7, 9], []], some (tooLong 16 17)) ∧
      part.bytes <+: whole.bytes ∧ (part.readFrames 16).1 <+: (whole.readFrames 16).1 := by
  intro part whole
  obtain ⟨-, hpart, -, -, hprefix⟩ := fronts_of_pieces 16 part
  obtain ⟨-, hwhole, -⟩ := fronts_of_pieces 16 whole
  have hbytes : part.bytes <+: whole.bytes := by
    rw [Source.bytes_ofPieces, Source.bytes_ofPieces]
    decide
  have hfirst : ∀ rest, Front 16 (Bytes.ofWord 2 ++ [7, 9] ++ rest) (.ok (some [7, 9])) rest :=
    fun rest => .whole (p := [7, 9]) rest (by decide) (by decide)
  have hbroken : Front 16 [255, 255, 255] (.error (endedInHeader 3)) [] :=
    .brokenHeader (s := [255, 255, 255]) (by decide) (by decide)
  have hlong : Front 16 [0, 0, 0, 17, 3] (.error (tooLong 16 17)) [3] :=
    .oversized (n := 17) [3] (by decide) (by decide)
  exact ⟨(hpart _ _).mp (.frame (hfirst _) (.failed hbroken)),
    (hwhole _ _).mp (.frame (hfirst _) (.frame (.marked _) (.failed hlong))), hbytes,
    hprefix whole hbytes⟩

end Frame

end RemoteJobs
