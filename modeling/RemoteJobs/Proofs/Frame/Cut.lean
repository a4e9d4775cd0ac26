import RemoteJobs.Frame.Reader

/-!
# A stream cut into frames

`cut` says what a stream holds, looking at all of it at once: the payloads of
its frames from the front, and what is left behind the last whole one. The
reader goes through the same stream byte by byte, and `feed_start` says that it
gives the same payloads and stands where the stream breaks off.
-/

namespace RemoteJobs.Frame

/-- What follows the last whole frame of a stream. -/
inductive Tail where
  /-- Less than a header; nothing, if the stream ends with a frame. -/
  | header (rest : Bytes)
  /-- A header, and fewer bytes than it says. -/
  | payload (length : Nat) (rest : Bytes)
  /-- A header with a length beyond the limit; what follows is no frame. -/
  | oversized (length : Nat)

/-- The payloads of the frames and the tail. -/
def cut (limit : Nat) (s : Bytes) : List Bytes × Tail :=
  if s.length < headerSize then ([], .header s)
  else
    let length := Bytes.toNumber (s.take headerSize)
    let rest := s.drop headerSize
    if length = nullMark then ([] :: (cut limit rest).1, (cut limit rest).2)
    else if limit < length then ([], .oversized length)
    else if rest.length < length then ([], .payload length rest)
    else
      (rest.take length :: (cut limit (rest.drop length)).1, (cut limit (rest.drop length)).2)
termination_by s.length
decreasing_by
  all_goals
    simp only [rest, headerSize, List.length_drop] at *
    omega

/-- The failure of a frame beyond the limit. -/
def tooLong (limit length : Nat) : Failure :=
  .protocol (s!"Frame of {Decimal.natText length} bytes exceeds limit of "
    ++ s!"{Decimal.natText limit} bytes")

/-- The reader at the end of a stream with this tail. -/
def Tail.reader (limit : Nat) : Tail → Reader
  | .header rest => .header rest
  | .payload length rest => .payload (length - rest.length) rest.reverse
  | .oversized length => .stopped (tooLong limit length)

namespace Reader

variable {limit : Nat}

/-- A payload comes at the end of a frame only. -/
theorem take_start {r : Reader} {b : UInt8} {p : Bytes} (h : (r.take limit b).2 = some p) :
    r.take limit b = (start, some p) := by
  cases r with
  | header got =>
      rw [take] at h ⊢
      split
      · next hlt =>
          rw [if_pos hlt] at h
          cases h
      · next hlt =>
          rw [if_neg hlt, ofLength] at h
          rw [ofLength]
          split
          · next hn =>
              rw [if_pos hn] at h
              rw [← h]
          · next hn =>
              rw [if_neg hn] at h
              split at h
              · cases h
              · next hl =>
                  rw [if_neg hl]
                  split at h
                  · next hz =>
                      rw [if_pos hz, ← h]
                  · cases h
  | payload missing got =>
      rw [take] at h ⊢
      split
      · next hle =>
          rw [if_pos hle] at h
          rw [← h]
      · next hle =>
          rw [if_neg hle] at h
          cases h
  | stopped reason => cases h

theorem feed_stopped (reason : Failure) (s : Bytes) :
    feed limit (stopped reason) s = (stopped reason, []) := by
  induction s with
  | nil => rfl
  | cons b s ih =>
      rw [feed]
      show ((feed limit (stopped reason) s).1, [] ++ (feed limit (stopped reason) s).2) = _
      rw [ih]
      rfl

/-! ## Parts of a frame -/

theorem feed_short {got s : Bytes} (h : got.length + s.length < headerSize) :
    feed limit (header got) s = (header (got ++ s), []) := by
  induction s generalizing got with
  | nil => rw [feed, List.append_nil]
  | cons b s ih =>
      rw [List.length_cons] at h
      have ht : take limit (header got) b = (header (got ++ [b]), none) := by
        rw [take, if_pos (by omega)]
      have hs : feed limit (header (got ++ [b])) s = (header (got ++ [b] ++ s), []) :=
        ih (by rw [List.length_append, List.length_singleton]; omega)
      rw [feed, ht]
      simp only [hs]
      rw [List.append_assoc]
      rfl

/-- The bytes after a header go to the reader that stands after the length. -/
theorem feed_header {s : Bytes} (hs : ¬s.length < headerSize) {r : Reader} {p : Option Bytes}
    (hr : ofLength limit (Bytes.toNumber (s.take headerSize)) = (r, p)) :
    feed limit start s =
      ((feed limit r (s.drop headerSize)).1, p.toList ++ (feed limit r (s.drop headerSize)).2) := by
  match s, hs with
  | a :: b :: c :: d :: rest, _ =>
      have ht : take limit (header [a, b, c]) d = (r, p) := hr
      show feed limit (header [a, b, c]) (d :: rest) = _
      rw [feed, ht]
      rfl
  | [], hs | [_], hs | [_, _], hs | [_, _, _], hs => exact absurd (by simp [headerSize]) hs

theorem feed_partial {n : Nat} {got s : Bytes} (h : s.length < n) :
    feed limit (payload n got) s = (payload (n - s.length) (s.reverse ++ got), []) := by
  induction s generalizing n got with
  | nil => rfl
  | cons b s ih =>
      rw [List.length_cons] at h
      have ht : take limit (payload n got) b = (payload (n - 1) (b :: got), none) := by
        rw [take, if_neg (by omega)]
      have hs : feed limit (payload (n - 1) (b :: got)) s =
          (payload (n - 1 - s.length) (s.reverse ++ b :: got), []) := ih (by omega)
      rw [feed, ht]
      simp only [hs]
      rw [List.length_cons, List.reverse_cons, List.append_assoc, Nat.sub_sub, Nat.add_comm 1]
      rfl

theorem feed_payload {n : Nat} {got s : Bytes} (hn : 0 < n) (h : n ≤ s.length) :
    feed limit (payload n got) s =
      ((feed limit start (s.drop n)).1,
        (got.reverse ++ s.take n) :: (feed limit start (s.drop n)).2) := by
  induction s generalizing n got with
  | nil =>
      rw [List.length_nil] at h
      omega
  | cons b s ih =>
      rw [List.length_cons] at h
      rw [feed]
      by_cases h1 : n ≤ 1
      · have hn1 : n = 1 := by omega
        have ht : take limit (payload n got) b = (start, some (b :: got).reverse) := by
          rw [take, if_pos h1]
        rw [ht, hn1, List.reverse_cons]
        rfl
      · have ht : take limit (payload n got) b = (payload (n - 1) (b :: got), none) := by
          rw [take, if_neg h1]
        obtain ⟨m, rfl⟩ : ∃ m, n = m + 1 := ⟨n - 1, by omega⟩
        have hs : feed limit (payload m (b :: got)) s =
            ((feed limit start (s.drop m)).1,
              ((b :: got).reverse ++ s.take m) :: (feed limit start (s.drop m)).2) :=
          ih (by omega) (by omega)
        rw [ht]
        simp only [Nat.add_sub_cancel, hs]
        rw [List.reverse_cons, List.append_assoc]
        rfl

end Reader

/-- The reader cuts the stream. -/
theorem feed_start (limit : Nat) (s : Bytes) :
    Reader.feed limit .start s = ((cut limit s).2.reader limit, (cut limit s).1) := by
  fun_induction cut limit s with
  | case1 s h => exact Reader.feed_short (by simpa using h)
  | case2 s h length rest hnull ih =>
      have hr : Reader.ofLength limit length = (.start, some []) := by
        rw [Reader.ofLength, if_pos hnull]
      rw [Reader.feed_header h hr, ih]
      rfl
  | case3 s h length hnull hlimit =>
      have hr : Reader.ofLength limit length = (.stopped (tooLong limit length), none) := by
        rw [Reader.ofLength, if_neg hnull, if_pos hlimit]
        rfl
      rw [Reader.feed_header h hr, Reader.feed_stopped]
      rfl
  | case4 s h length rest hnull hlimit hshort =>
      have hr : Reader.ofLength limit length = (.payload length [], none) := by
        rw [Reader.ofLength, if_neg hnull, if_neg hlimit, if_neg (by omega)]
      rw [Reader.feed_header h hr, Reader.feed_partial hshort, List.append_nil]
      rfl
  | case5 s h length rest hnull hlimit hshort ih =>
      by_cases hzero : length = 0
      · have hr : Reader.ofLength limit length = (.start, some []) := by
          rw [Reader.ofLength, if_neg hnull, if_neg hlimit, if_pos hzero]
        rw [hzero, List.drop_zero] at ih
        rw [Reader.feed_header h hr, ih, hzero]
        rfl
      · have hr : Reader.ofLength limit length = (.payload length [], none) := by
          rw [Reader.ofLength, if_neg hnull, if_neg hlimit, if_neg hzero]
        rw [Reader.feed_header h hr, Reader.feed_payload (Nat.pos_of_ne_zero hzero) (Nat.le_of_not_lt hshort),
          ih]
        rfl

end RemoteJobs.Frame
