import Mathlib.Data.List.Basic
import Mathlib.Data.List.Flatten
import RemoteJobs.Proofs.Frame.Source
import RemoteJobs.Proofs.Frame.Writer
import RemoteJobs.Settings

/-!
# Writing frames and reading them

What a writer puts on a stream a reader gets back from it, payload by payload,
if the reader's limit is one that settings allow and no payload is beyond it. A
frame without content, which no writer writes, may stand between any of them and
is read as an empty payload.
-/

namespace RemoteJobs

theorem Settings.maxFrame_lt {s : Settings} (h : s.check = .ok ()) :
    s.maxFrame < Frame.nullMark := by
  rw [check] at h
  split at h
  · cases h
  · split at h
    · cases h
    · split at h
      · cases h
      · split at h
        · cases h
        · next hlarge => exact Nat.lt_of_not_le hlarge

namespace Frame

/-- A frame without content. -/
def nullHeader : Bytes := [255, 255, 255, 255]

/-- The frames of payloads with frames without content among them. -/
def markedStream (items : List (Option Bytes)) : Bytes :=
  items.flatMap fun
    | some p => Bytes.ofWord p.length ++ p
    | none => nullHeader

theorem header_ne_nullHeader {n : Nat} {h : Bytes} (hn : header n = .ok h) :
    h.length = headerSize ∧ h ≠ nullHeader := by
  rw [header] at hn
  split at hn
  · next hlt =>
      cases hn
      refine ⟨rfl, fun he => ?_⟩
      have hnumber := congrArg Bytes.toNumber he
      rw [Bytes.toNumber_ofWord (Nat.lt_trans hlt (by decide))] at hnumber
      exact absurd hnumber (Nat.ne_of_lt hlt)
  · cases hn

theorem cut_nullHeader (limit : Nat) (rest : Bytes) :
    cut limit (nullHeader ++ rest) = ([] :: (cut limit rest).1, (cut limit rest).2) := by
  have htake : (nullHeader ++ rest).take headerSize = nullHeader := rfl
  have hdrop : (nullHeader ++ rest).drop headerSize = rest := rfl
  have hlength : ¬(nullHeader ++ rest).length < headerSize := by
    rw [List.length_append]
    show ¬4 + rest.length < 4
    omega
  have hnumber : Bytes.toNumber nullHeader = nullMark := by decide
  rw [cut, if_neg hlength]
  simp only [htake, hdrop]
  rw [if_pos hnumber]

theorem cut_markedStream {limit : Nat} (hlimit : limit < nullMark) {items : List (Option Bytes)}
    (hitems : ∀ p, some p ∈ items → p.length ≤ limit) :
    cut limit (markedStream items) = (items.map (·.getD []), .header []) := by
  induction items with
  | nil => exact cut_nil limit
  | cons o items ih =>
      have hrest := ih fun p hp => hitems p (List.mem_cons_of_mem o hp)
      cases o with
      | none =>
          have hstream : markedStream (none :: items) = nullHeader ++ markedStream items := rfl
          rw [hstream, cut_nullHeader, hrest]
          rfl
      | some p =>
          have hstream : markedStream (some p :: items) =
              Bytes.ofWord p.length ++ p ++ markedStream items := rfl
          rw [hstream, cut_frame hlimit (hitems p List.mem_cons_self), hrest]
          rfl

/-- A sink that is empty and has room enough takes payloads as large as the
settings allow, each with its header, and no header is that of a frame without
content. Whatever pieces the bytes come in, reading them gives exactly the
payloads and then the end of the stream. Frames without content that stand
before, between or behind the others, any number of them, are read as empty
payloads in their places, and the others are read as before. -/
theorem payloads_of_frames {s : Settings} (hs : s.check = .ok ()) {ps : List Bytes}
    (hps : ∀ p ∈ ps, p.length ≤ s.maxFrame) {k : Sink} (htaken : k.taken = [])
    (hstep : 0 < k.step) (hroom : (stream ps).length ≤ k.room) :
    (k.writeFrames ps).1 = (ps.map fun _ => .ok ()) ∧
      (∀ src : Source, src.bytes = (k.writeFrames ps).2.taken →
        src.readFrames s.maxFrame = (ps, none)) ∧
      (∀ n h, header n = .ok h → h.length = headerSize ∧ h ≠ nullHeader) ∧
      ∀ items : List (Option Bytes), items.filterMap id = ps →
        ∀ src : Source,
          src.bytes = items.flatMap (fun
            | some p => (k.writeFrames [p]).2.taken
            | none => nullHeader) →
          src.readFrames s.maxFrame = (items.map (·.getD []), none) := by
  have hlimit : s.maxFrame < nullMark := Settings.maxFrame_lt hs
  have hsmall : ∀ p ∈ ps, p.length < nullMark := fun p hp => Nat.lt_of_le_of_lt (hps p hp) hlimit
  have hwritten := Sink.writeFrames_of_room hstep hroom hsmall
  refine ⟨by rw [hwritten], fun src hsrc => ?_, fun n h => header_ne_nullHeader,
    fun items hitems src hsrc => ?_⟩
  · have hbytes : src.bytes = stream ps := by
      rw [hsrc, hwritten, Sink.store, htaken, List.nil_append]
    rw [Source.readFrames_eq, hbytes, cut_stream hlimit hps]
    rfl
  · have hmem : ∀ p, some p ∈ items → p ∈ ps := by
      intro p hp
      rw [← hitems, List.mem_filterMap]
      exact ⟨some p, hp, rfl⟩
    have hbytes : src.bytes = markedStream items := by
      rw [hsrc]
      refine List.flatMap_congr fun o ho => ?_
      cases o with
      | none => rfl
      | some p =>
          have hp := hmem p ho
          have hpart : List.Sublist (stream [p]) (stream ps) :=
            (List.singleton_sublist.mpr hp).flatMap _
          have hone : (stream [p]).length ≤ k.room := Nat.le_trans hpart.length_le hroom
          have hframe := Sink.writeFrames_of_room hstep hone fun q hq => by
            rw [List.mem_singleton.mp hq]
            exact hsmall p hp
          show (k.writeFrames [p]).2.taken = Bytes.ofWord p.length ++ p
          rw [hframe, Sink.store, htaken, stream, List.flatMap_singleton, List.nil_append]
    rw [Source.readFrames_eq, hbytes, cut_markedStream hlimit fun p hp => hps p (hmem p hp)]
    rfl

/-- Two payloads, of which one is empty, go through a sink that takes three
bytes at a time and come back in pieces of other lengths, with a frame without
content between them. -/
theorem payloads_of_two_frames :
    let ps : List Bytes := [[1, 2], []]
    let k : Sink := { step := 3, room := 10 }
    let src := Source.ofPieces [[0], [0, 0, 2, 1, 2, 255, 255], [255, 255, 0, 0], [0, 0]]
    (k.writeFrames ps).1 = [.ok (), .ok ()] ∧
      src.bytes = (k.writeFrames [[1, 2]]).2.taken ++ nullHeader ++ (k.writeFrames [[]]).2.taken ∧
      src.readFrames 16777216 = ([[1, 2], [], []], none) := by
  intro ps k src
  have hps : ∀ p ∈ ps, p.length ≤ ({} : Settings).maxFrame := by decide
  obtain ⟨hwritten, -, -, hmarked⟩ :=
    payloads_of_frames (s := {}) (k := k) rfl hps rfl (by decide) (by decide)
  have hsrc : src.bytes =
      (k.writeFrames [[1, 2]]).2.taken ++ nullHeader ++ (k.writeFrames [[]]).2.taken := by
    simp [src, k, Source.ofPieces, Source.bytes, nullHeader, Sink.writeFrames, Sink.writeFrame,
      Sink.writeAll, Sink.accepts, Sink.store, header, nullMark, Bytes.ofWord]
  refine ⟨hwritten, hsrc, hmarked [some [1, 2], none, some []] rfl src ?_⟩
  rw [hsrc]
  simp

end Frame

end RemoteJobs
