import Mathlib.Data.List.Basic
import RemoteJobs.Proofs.Frame.Writer

/-!
# Sinks without room enough

Of all that is written to it a sink takes the first bytes that it has room for,
and what becomes of a payload is settled by this room: its frame fits behind the
others or it does not. A write fails only when there is no room left, so that
what has been taken of a broken frame has nothing behind it.

How many bytes the sink takes at a time makes no difference, not even if the
number is another one each time. `Takes` and `Writes` leave the number open, and
a writer that offers bytes again and again comes to the same by all ways.
-/

namespace RemoteJobs.Frame

/-- The payloads that a frame can hold. -/
def framable (ps : List Bytes) : List Bytes := ps.filter (·.length < nullMark)

/-- The failure of a payload that no frame can hold. -/
def tooLarge (n : Nat) : Failure :=
  .protocol s!"Frame of {Decimal.natText n} bytes exceeds u32 length"

/-- What becomes of a payload that is written behind others to a sink with this
room. -/
def verdict (room : Nat) (before : List Bytes) (p : Bytes) : Except Failure Unit :=
  if nullMark ≤ p.length then .error (tooLarge p.length)
  else if (stream (framable (before ++ [p]))).length ≤ room then .ok ()
  else .error (.io "write zero")

/-! ## The bytes of the frames -/

theorem stream_append (ps qs : List Bytes) : stream (ps ++ qs) = stream ps ++ stream qs :=
  List.flatMap_append

theorem framable_append (ps qs : List Bytes) :
    framable (ps ++ qs) = framable ps ++ framable qs := List.filter_append ..

theorem stream_framable_append (ps qs : List Bytes) :
    stream (framable (ps ++ qs)) = stream (framable ps) ++ stream (framable qs) := by
  rw [framable_append, stream_append]

variable {p : Bytes}

theorem stream_of_framable (hp : p.length < nullMark) :
    stream (framable [p]) = Bytes.ofWord p.length ++ p := by
  rw [framable, List.filter_cons_of_pos (by simpa using hp), List.filter_nil, stream,
    List.flatMap_singleton]

theorem stream_of_large (hp : nullMark ≤ p.length) : stream (framable [p]) = [] := by
  rw [framable, List.filter_cons_of_neg (by simpa using hp), List.filter_nil]
  rfl

theorem header_of_large {n : Nat} (hn : nullMark ≤ n) : header n = .error (tooLarge n) :=
  if_neg (Nat.not_lt.mpr hn)

/-- A payload behind another one has the room that the other one leaves. -/
theorem verdict_cons (room : Nat) (q : Bytes) (before : List Bytes) (p : Bytes) :
    verdict room (q :: before) p =
      verdict (room - (stream (framable [q])).length) before p := by
  rw [verdict, verdict]
  split
  · rfl
  · next hp =>
      have hframe := stream_of_framable (Nat.lt_of_not_le hp)
      have hsplit : stream (framable (q :: before ++ [p])) =
          stream (framable [q]) ++ stream (framable (before ++ [p])) :=
        stream_framable_append [q] (before ++ [p])
      -- The last frame is not empty, so it does not fit where nothing is left.
      have hpos : 4 ≤ (stream (framable (before ++ [p]))).length := by
        rw [stream_framable_append, hframe, List.length_append, List.length_append,
          Bytes.length_ofWord]
        omega
      rw [hsplit, List.length_append]
      exact if_congr (by omega) rfl rfl

namespace Sink

variable {k k' : Sink} {s : Bytes} {r : Except Failure Unit}

theorem room_store_take (k : Sink) (s : Bytes) :
    (k.store (s.take k.room)).room = k.room - s.length := by
  show k.room - (s.take k.room).length = _
  rw [List.length_take]
  omega

/-- What is offered after other bytes is taken as if it were offered with them. -/
theorem store_take_append (k : Sink) (s t : Bytes) :
    (k.store (s.take k.room)).store (t.take (k.store (s.take k.room)).room) =
      k.store ((s ++ t).take k.room) := by
  rw [store_store, room_store_take, List.take_append]

/-! ## One write -/

/-- What a sink makes of bytes: it has room for all of them, or it takes as many
as it has room for. -/
def filled (k : Sink) (s : Bytes) : Except Failure Unit × Sink :=
  (if s.length ≤ k.room then .ok () else .error (.io "write zero"), k.store (s.take k.room))

/-- The sink may take a part of the bytes first. -/
theorem filled_part {n : Nat} (hn : n ≤ k.accepts s.length) :
    (k.store (s.take n)).filled (s.drop n) = k.filled s := by
  have hmin : n ≤ min s.length (min k.step k.room) := hn
  have hlength : (s.take n).length = n := by
    rw [List.length_take]
    omega
  have hroom : (k.store (s.take n)).room = k.room - n := congrArg (k.room - ·) hlength
  have hsplit : s.take n ++ (s.drop n).take (k.room - n) = s.take k.room := by
    rw [← List.take_add, Nat.add_sub_cancel' (by omega)]
  rw [filled, filled, hroom, store_store, hsplit, List.length_drop]
  congr 1
  exact if_congr (by omega) rfl rfl

theorem filled_full (hs : s ≠ []) (hroom : k.room = 0) :
    k.filled s = (.error (.io "write zero"), k) := by
  have hpos := List.length_pos_iff.mpr hs
  rw [filled, if_neg (by omega), hroom, List.take_zero, store_nil]

theorem writeAll_eq (hstep : 0 < k.step) (s : Bytes) : k.writeAll s = k.filled s := by
  fun_induction writeAll k s with
  | case1 k s hs =>
      rw [List.eq_nil_of_length_eq_zero hs, filled, List.take_nil, store_nil]
      rfl
  | case2 k s n hs hn =>
      have haccepts : min s.length (min k.step k.room) = 0 := hn
      exact (filled_full (List.length_pos_iff.mp (Nat.pos_of_ne_zero hs)) (by omega)).symm
  | case3 k s n hs hn ih => exact (ih hstep).trans (filled_part (Nat.le_refl n))

theorem writeFrame_eq (hstep : 0 < k.step) (p : Bytes) :
    k.writeFrame p =
      (verdict k.room [] p, k.store ((stream (framable [p])).take k.room)) := by
  rw [writeFrame, verdict]
  by_cases hp : nullMark ≤ p.length
  · rw [header_of_large hp, if_pos hp, stream_of_large hp, List.take_nil, store_nil]
  · have hlt : p.length < nullMark := Nat.lt_of_not_le hp
    rw [header_of_lt hlt, if_neg hp, List.nil_append, stream_of_framable hlt,
      List.length_append, Bytes.length_ofWord]
    have hheader := writeAll_eq hstep (Bytes.ofWord p.length)
    rw [filled, Bytes.length_ofWord] at hheader
    by_cases hroom : 4 ≤ k.room
    · have hpayload := writeAll_eq (k := k.store ((Bytes.ofWord p.length).take k.room)) hstep p
      rw [filled, store_take_append, room_store_take, Bytes.length_ofWord] at hpayload
      rw [if_pos hroom] at hheader
      simp only [hheader]
      rw [hpayload]
      congr 1
      exact if_congr (by omega) rfl rfl
    · rw [if_neg hroom] at hheader
      simp only [hheader]
      rw [if_neg (by omega), List.take_append_of_le_length (by rw [Bytes.length_ofWord]; omega)]

/-! ## Write after write -/

theorem writeFrames_cons (k : Sink) (p : Bytes) (ps : List Bytes) :
    k.writeFrames (p :: ps) =
      ((k.writeFrame p).1 :: ((k.writeFrame p).2.writeFrames ps).1,
        ((k.writeFrame p).2.writeFrames ps).2) := rfl

theorem writeFrames_sink (hstep : 0 < k.step) (ps : List Bytes) :
    (k.writeFrames ps).2 = k.store ((stream (framable ps)).take k.room) := by
  induction ps generalizing k with
  | nil =>
      have hnone : stream (framable []) = [] := rfl
      rw [hnone, List.take_nil, store_nil]
      rfl
  | cons p ps ih =>
      rw [writeFrames_cons, writeFrame_eq hstep]
      have hrest := ih (k := k.store ((stream (framable [p])).take k.room)) hstep
      rw [store_take_append, ← stream_framable_append] at hrest
      exact hrest

theorem writeFrames_results (hstep : 0 < k.step) (ps : List Bytes) :
    (k.writeFrames ps).1 = ps.mapIdx fun i p => verdict k.room (ps.take i) p := by
  induction ps generalizing k with
  | nil => rfl
  | cons p ps ih =>
      have hrest := ih (k := k.store ((stream (framable [p])).take k.room)) hstep
      rw [room_store_take] at hrest
      rw [writeFrames_cons, writeFrame_eq hstep, List.mapIdx_cons, hrest]
      simp only [List.take_zero, List.take_succ_cons, verdict_cons]

theorem writeFrames_append (k : Sink) (ps qs : List Bytes) :
    k.writeFrames (ps ++ qs) =
      ((k.writeFrames ps).1 ++ ((k.writeFrames ps).2.writeFrames qs).1,
        ((k.writeFrames ps).2.writeFrames qs).2) := by
  induction ps generalizing k with
  | nil => rfl
  | cons p ps ih => rw [List.cons_append, writeFrames_cons, writeFrames_cons, ih]; rfl

/-- Where there is no room left no frame adds anything. -/
theorem writeFrames_full (hstep : 0 < k.step) (hroom : k.room = 0) (ps : List Bytes) :
    k.writeFrames ps =
      (ps.map fun p =>
          .error (if nullMark ≤ p.length then tooLarge p.length else .io "write zero"), k) := by
  induction ps with
  | nil => rfl
  | cons p ps ih =>
      have hverdict : verdict 0 [] p =
          .error (if nullMark ≤ p.length then tooLarge p.length else .io "write zero") := by
        rw [verdict]
        split
        · rfl
        · next hp =>
            rw [List.nil_append, stream_of_framable (Nat.lt_of_not_le hp), List.length_append,
              Bytes.length_ofWord, if_neg (by omega)]
      rw [writeFrames_cons, writeFrame_eq hstep, hroom, List.take_zero, store_nil, ih, hverdict]
      rfl

/-! ## Sinks that take any number of bytes at a time -/

/-- Bytes are offered until all of them are taken. The sink takes any number of
them each time, within its step and its room, but one at least while it has
room. -/
inductive Takes : Sink → Bytes → Except Failure Unit → Sink → Prop
  | done (k : Sink) : Takes k [] (.ok ()) k
  | part {k k' : Sink} {s : Bytes} {n : Nat} {r : Except Failure Unit} :
      0 < n → n ≤ k.accepts s.length → Takes (k.store (s.take n)) (s.drop n) r k' →
        Takes k s r k'
  | full {k : Sink} {s : Bytes} : s ≠ [] → k.accepts s.length = 0 →
      Takes k s (.error (.io "write zero")) k

/-- Frames are written to such a sink, each whether those before it were written
or not. -/
inductive Writes : Sink → List Bytes → List (Except Failure Unit) → Sink → Prop
  | done (k : Sink) : Writes k [] [] k
  | large {k k' : Sink} {p : Bytes} {ps : List Bytes} {rs : List (Except Failure Unit)} :
      nullMark ≤ p.length → Writes k ps rs k' →
        Writes k (p :: ps) (.error (tooLarge p.length) :: rs) k'
  | header {k k₁ k' : Sink} {p : Bytes} {ps : List Bytes} {e : Failure}
      {rs : List (Except Failure Unit)} : p.length < nullMark →
      Takes k (Bytes.ofWord p.length) (.error e) k₁ → Writes k₁ ps rs k' →
        Writes k (p :: ps) (.error e :: rs) k'
  | frame {k k₁ k₂ k' : Sink} {p : Bytes} {ps : List Bytes} {r : Except Failure Unit}
      {rs : List (Except Failure Unit)} : p.length < nullMark →
      Takes k (Bytes.ofWord p.length) (.ok ()) k₁ → Takes k₁ p r k₂ → Writes k₂ ps rs k' →
        Writes k (p :: ps) (r :: rs) k'

theorem Takes.step (h : Takes k s r k') : k'.step = k.step := by
  induction h with
  | done k => rfl
  | part _ _ _ ih => exact ih
  | full _ _ => rfl

theorem Takes.filled (hstep : 0 < k.step) (h : Takes k s r k') : k.filled s = (r, k') := by
  induction h with
  | done k =>
      rw [Sink.filled, List.take_nil, store_nil]
      rfl
  | part _ hn _ ih => exact (filled_part hn).symm.trans (ih hstep)
  | @full k s hs hn =>
      have haccepts : min s.length (min k.step k.room) = 0 := hn
      have hpos := List.length_pos_iff.mpr hs
      exact filled_full hs (by omega)

/-- To take as many bytes as possible is one way. -/
theorem takes_writeAll (k : Sink) (s : Bytes) : Takes k s (k.writeAll s).1 (k.writeAll s).2 := by
  fun_induction writeAll k s with
  | case1 k s hs =>
      rw [List.eq_nil_of_length_eq_zero hs]
      exact .done k
  | case2 k s n hs hn => exact .full (List.length_pos_iff.mp (Nat.pos_of_ne_zero hs)) hn
  | case3 k s n hs hn ih => exact .part (Nat.pos_of_ne_zero hn) (Nat.le_refl n) ih

theorem takes_iff (hstep : 0 < k.step) : Takes k s r k' ↔ k.writeAll s = (r, k') := by
  constructor
  · intro h
    rw [writeAll_eq hstep]
    exact h.filled hstep
  · intro h
    have htakes := takes_writeAll k s
    rw [h] at htakes
    exact htakes

variable {ps : List Bytes} {rs : List (Except Failure Unit)}

theorem Writes.eq (hstep : 0 < k.step) (h : Writes k ps rs k') : k.writeFrames ps = (rs, k') := by
  induction h with
  | done k => rfl
  | large hp _ ih => rw [writeFrames_cons, writeFrame, header_of_large hp, ih hstep]
  | header hp ht _ ih =>
      rw [writeFrames_cons, writeFrame, header_of_lt hp]
      simp only [(takes_iff hstep).mp ht]
      rw [ih (by rw [ht.step]; exact hstep)]
  | frame hp ht hr _ ih =>
      have hstep₁ := hstep
      rw [← ht.step] at hstep₁
      rw [writeFrames_cons, writeFrame, header_of_lt hp]
      simp only [(takes_iff hstep).mp ht]
      rw [(takes_iff hstep₁).mp hr, ih (by rw [hr.step]; exact hstep₁)]

theorem writes_writeFrames (k : Sink) (ps : List Bytes) :
    Writes k ps (k.writeFrames ps).1 (k.writeFrames ps).2 := by
  induction ps generalizing k with
  | nil => exact .done k
  | cons p ps ih =>
      rw [writeFrames_cons, writeFrame]
      by_cases hp : nullMark ≤ p.length
      · rw [header_of_large hp]
        exact .large hp (ih k)
      · have hlt := Nat.lt_of_not_le hp
        rw [header_of_lt hlt]
        have htakes := takes_writeAll k (Bytes.ofWord p.length)
        simp only []
        split
        · next e k₁ hheader =>
            rw [hheader] at htakes
            exact .header hlt htakes (ih k₁)
        · next k₁ hheader =>
            rw [hheader] at htakes
            exact .frame hlt htakes (takes_writeAll k₁ p) (ih _)

theorem writes_iff (hstep : 0 < k.step) : Writes k ps rs k' ↔ k.writeFrames ps = (rs, k') := by
  constructor
  · exact Writes.eq hstep
  · intro h
    have hwrites := writes_writeFrames k ps
    rw [h] at hwrites
    exact hwrites

end Sink

theorem verdict_eq_ok {room : Nat} {before : List Bytes} (h : verdict room before p = .ok ()) :
    p.length < nullMark ∧ (stream (framable (before ++ [p]))).length ≤ room := by
  rw [verdict] at h
  split at h
  · cases h
  · next hp =>
      split at h
      · next hfit => exact ⟨Nat.lt_of_not_le hp, hfit⟩
      · cases h

theorem verdict_eq_io {room : Nat} {before : List Bytes} {m : String}
    (h : verdict room before p = .error (.io m)) :
    room < (stream (framable (before ++ [p]))).length := by
  rw [verdict] at h
  split at h
  · cases h
  · split at h
    · cases h
    · next hfit => exact Nat.lt_of_not_le hfit

/-- Payloads are written to a sink, each whether those before it were written or
not. What becomes of a payload is settled by the room that the sink has: no
frame holds one of `2 ^ 32 - 1` bytes or more, and of it nothing is written; of
the others those are written whose frames fit into the room behind the frames
before them. The sink has taken the first bytes of all frames, as many as it has
room for. So every frame that is acknowledged is there as a whole, and behind a
frame that has failed there is nothing. It makes no difference how many bytes
the sink takes at a time, nor whether it is the same number each time. -/
theorem wire_of_payloads {k : Sink} (hstep : 0 < k.step) (ps : List Bytes) :
    (k.writeFrames ps).1 = ps.mapIdx (fun i p => verdict k.room (ps.take i) p) ∧
      (k.writeFrames ps).2.taken = k.taken ++ (stream (framable ps)).take k.room ∧
      (∀ before p after, ps = before ++ p :: after →
        (nullMark ≤ p.length → (k.writeFrames (before ++ [p])).2 = (k.writeFrames before).2) ∧
        (verdict k.room before p = .ok () →
          k.taken ++ stream (framable before) ++ (Bytes.ofWord p.length ++ p) <+:
            (k.writeFrames ps).2.taken) ∧
        ∀ m, verdict k.room before p = .error (.io m) →
          (k.writeFrames ps).2 = (k.writeFrames (before ++ [p])).2 ∧
          (k.writeFrames ps).1 = (k.writeFrames (before ++ [p])).1 ++ after.map fun q =>
            .error (if nullMark ≤ q.length then tooLarge q.length else .io "write zero")) ∧
      (∀ step, 0 < step →
        (Sink.writeFrames { k with step } ps).1 = (k.writeFrames ps).1 ∧
        (Sink.writeFrames { k with step } ps).2.taken = (k.writeFrames ps).2.taken) ∧
      ∀ rs k', Sink.Writes k ps rs k' ↔ k.writeFrames ps = (rs, k') := by
  have hresults := Sink.writeFrames_results hstep ps
  have hsink := Sink.writeFrames_sink hstep ps
  have htaken : (k.writeFrames ps).2.taken = k.taken ++ (stream (framable ps)).take k.room := by
    rw [hsink, Sink.store]
  refine ⟨hresults, htaken, ?_, fun step h => ?_, fun rs k' => Sink.writes_iff hstep⟩
  · intro before p after hps
    refine ⟨fun hp => ?_, fun hok => ?_, fun m hio => ?_⟩
    · rw [Sink.writeFrames_sink hstep, Sink.writeFrames_sink hstep, stream_framable_append,
        stream_of_large hp, List.append_nil]
    · obtain ⟨hp, hfit⟩ := verdict_eq_ok hok
      have hsplit : stream (framable ps) =
          stream (framable (before ++ [p])) ++ stream (framable after) := by
        rw [hps, ← stream_framable_append, List.append_assoc]
        rfl
      rw [htaken, hsplit, List.take_append, List.take_of_length_le hfit, stream_framable_append,
        stream_of_framable hp, List.append_assoc, List.prefix_append_right_inj]
      exact List.prefix_append ..
    · have hnext := Sink.writeFrames_sink hstep (before ++ [p])
      have hstep' : 0 < (k.writeFrames (before ++ [p])).2.step := by
        rw [hnext]
        exact hstep
      have hroom : (k.writeFrames (before ++ [p])).2.room = 0 := by
        rw [hnext, Sink.room_store_take]
        exact Nat.sub_eq_zero_of_le (Nat.le_of_lt (verdict_eq_io hio))
      have hsplit : ps = (before ++ [p]) ++ after := by
        rw [hps, List.append_assoc]
        rfl
      have happend := Sink.writeFrames_append k (before ++ [p]) after
      rw [Sink.writeFrames_full hstep' hroom, ← hsplit] at happend
      rw [happend]
      exact ⟨rfl, rfl⟩
  · rw [hresults, htaken, Sink.writeFrames_results h, Sink.writeFrames_sink h]
    exact ⟨rfl, rfl⟩

/-- The second of three frames does not fit, and there is no room for the third
one, although it has no payload. -/
theorem wire_of_three_payloads :
    let k : Sink := { step := 3, room := 13 }
    let ps : List Bytes := [[1, 2], [3, 4, 5, 6], []]
    0 < k.step ∧
      (k.writeFrames ps).1 = [.ok (), .error (.io "write zero"), .error (.io "write zero")] ∧
      (k.writeFrames ps).2.taken = [0, 0, 0, 2, 1, 2, 0, 0, 0, 4, 3, 4, 5] := by
  intro k ps
  have hstep : 0 < k.step := by decide
  obtain ⟨hresults, htaken, -⟩ := wire_of_payloads hstep ps
  exact ⟨hstep, hresults, htaken⟩

end RemoteJobs.Frame
