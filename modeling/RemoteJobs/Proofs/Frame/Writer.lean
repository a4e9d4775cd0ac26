import RemoteJobs.Frame.Writer
import RemoteJobs.Proofs.Frame.Cut

/-!
# What a writer puts on a stream

A sink that has room enough takes a payload with its header before it, however
few bytes it takes at a time. Payloads that are written one after the other make
up a `stream`, and cutting it gives them back.
-/

namespace RemoteJobs.Frame

/-- The frames of payloads that are written one after the other. -/
def stream (payloads : List Bytes) : Bytes :=
  payloads.flatMap fun p => Bytes.ofWord p.length ++ p

theorem header_of_lt {n : Nat} (h : n < nullMark) : header n = .ok (Bytes.ofWord n) :=
  if_pos h

namespace Sink

variable {k : Sink}

theorem store_nil (k : Sink) : k.store [] = k := by
  rw [store, List.append_nil]
  rfl

theorem store_store (k : Sink) (s t : Bytes) : (k.store s).store t = k.store (s ++ t) := by
  simp only [store, List.length_append, List.append_assoc, Nat.sub_sub]

theorem writeAll_of_room {s : Bytes} (hstep : 0 < k.step) (hroom : s.length ≤ k.room) :
    k.writeAll s = (.ok (), k.store s) := by
  fun_induction writeAll k s with
  | case1 k s hs => rw [List.eq_nil_of_length_eq_zero hs, store_nil]
  | case2 k s n hs hn =>
      have : k.accepts s.length = 0 := hn
      rw [accepts] at this
      omega
  | case3 k s n hs hn ih =>
      have htake : (s.take n).length ≤ n := List.length_take_le n s
      have hrest : (s.drop n).length ≤ (k.store (s.take n)).room := by
        rw [List.length_drop]
        show s.length - n ≤ k.room - (s.take n).length
        omega
      rw [ih hstep hrest, store_store, List.take_append_drop]

theorem writeFrame_of_room {p : Bytes} (hstep : 0 < k.step) (hroom : 4 + p.length ≤ k.room)
    (hp : p.length < nullMark) :
    k.writeFrame p = (.ok (), k.store (Bytes.ofWord p.length ++ p)) := by
  have hheader : k.writeAll (Bytes.ofWord p.length) = (.ok (), k.store (Bytes.ofWord p.length)) :=
    writeAll_of_room hstep (by rw [Bytes.length_ofWord]; omega)
  have hpayload : (k.store (Bytes.ofWord p.length)).writeAll p =
      (.ok (), (k.store (Bytes.ofWord p.length)).store p) :=
    writeAll_of_room hstep (by show p.length ≤ k.room - 4; omega)
  rw [writeFrame, header_of_lt hp]
  simp only [hheader]
  rw [hpayload, store_store]

theorem writeFrames_of_room {ps : List Bytes} (hstep : 0 < k.step)
    (hroom : (stream ps).length ≤ k.room) (hps : ∀ p ∈ ps, p.length < nullMark) :
    k.writeFrames ps = (ps.map fun _ => .ok (), k.store (stream ps)) := by
  induction ps generalizing k with
  | nil => rw [writeFrames, stream, List.flatMap_nil, store_nil, List.map_nil]
  | cons p ps ih =>
      have hlength : (stream (p :: ps)).length = 4 + p.length + (stream ps).length := by
        rw [stream, List.flatMap_cons, List.length_append, List.length_append,
          Bytes.length_ofWord]
        rfl
      have hfirst := writeFrame_of_room (k := k) (p := p) hstep (by omega)
        (hps p List.mem_cons_self)
      have hrest : (stream ps).length ≤ (k.store (Bytes.ofWord p.length ++ p)).room := by
        show _ ≤ k.room - (Bytes.ofWord p.length ++ p).length
        rw [List.length_append, Bytes.length_ofWord]
        omega
      have htail := ih (k := k.store (Bytes.ofWord p.length ++ p)) hstep hrest
        fun q hq => hps q (List.mem_cons_of_mem p hq)
      rw [writeFrames, hfirst]
      simp only [htail]
      rw [store_store]
      rfl

end Sink

theorem cut_nil (limit : Nat) : cut limit [] = ([], .header []) := by
  rw [cut, if_pos (by decide)]

/-- A frame within the limit at the front of a stream is cut off. -/
theorem cut_frame {limit : Nat} (hlimit : limit < nullMark) {p : Bytes} (hp : p.length ≤ limit)
    (rest : Bytes) :
    cut limit (Bytes.ofWord p.length ++ p ++ rest) =
      (p :: (cut limit rest).1, (cut limit rest).2) := by
  have hnumber : Bytes.toNumber (Bytes.ofWord p.length) = p.length :=
    Bytes.toNumber_ofWord (by rw [nullMark] at hlimit; omega)
  have htake : (Bytes.ofWord p.length ++ (p ++ rest)).take headerSize = Bytes.ofWord p.length := rfl
  have hdrop : (Bytes.ofWord p.length ++ (p ++ rest)).drop headerSize = p ++ rest := rfl
  have hlength : ¬(Bytes.ofWord p.length ++ (p ++ rest)).length < headerSize := by
    rw [List.length_append, Bytes.length_ofWord, headerSize]
    omega
  rw [List.append_assoc, cut, if_neg hlength]
  simp only [htake, hdrop, hnumber]
  rw [if_neg (by omega), if_neg (by omega), if_neg (by rw [List.length_append]; omega),
    List.take_left, List.drop_left]

/-- Payloads within the limit come out of the stream that they went into. -/
theorem cut_stream {limit : Nat} (hlimit : limit < nullMark) {ps : List Bytes}
    (hps : ∀ p ∈ ps, p.length ≤ limit) : cut limit (stream ps) = (ps, .header []) := by
  induction ps with
  | nil => exact cut_nil limit
  | cons p ps ih =>
      have hstream : stream (p :: ps) = Bytes.ofWord p.length ++ p ++ stream ps := rfl
      rw [hstream, cut_frame hlimit (hps p List.mem_cons_self),
        ih fun q hq => hps q (List.mem_cons_of_mem p hq)]

end RemoteJobs.Frame
