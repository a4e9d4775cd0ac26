import RemoteJobs.RemoteError
import RemoteJobs.Proofs.Schema

/-!
# Errors of the server as JSON and back

An error is read back from what is written of it, but for data that is `null`:
its member is there, and is read as no data.
-/

namespace RemoteJobs.RemoteError

open Schema

/-- The error without data that is `null`. -/
def withoutNull (e : RemoteError) : RemoteError :=
  { e with data := match e.data with
    | some .null => none
    | d => d }

theorem withoutNull_eq_self {e : RemoteError} (h : e.data ≠ some .null) : e.withoutNull = e := by
  obtain ⟨code, message, data⟩ := e
  rw [withoutNull]
  split
  · next hnull => exact absurd hnull h
  · rfl

theorem names_members_sublist (e : RemoteError) :
    (Keyed.names e.members).Sublist ["code", "message", "data"] := by
  rw [members, Keyed.names_append]
  exact (List.Sublist.refl _).append (names_present_sublist "data" id e.data)

theorem nodup_members (e : RemoteError) : (Keyed.names e.members).Nodup :=
  e.names_members_sublist.nodup (by decide)

theorem reading_eq_ok_iff {s : Source} {e : RemoteError} : reading.read s = .ok e ↔
    (required "code" 0 .signed64).read s = .ok e.code ∧
      (optional "message" 1 "" .string).read s = .ok e.message ∧
      (optional "data" 2 none (.nullable .any)).read s = .ok e.data := by
  refine Reading.eq_ok_iff_exists.trans ?_
  simp only [reading, Reading.exists_seq, Reading.exists_map]
  constructor
  · rintro ⟨_, hdata, _, hmessage, _, hcode, rfl⟩
    exact ⟨hcode, hmessage, hdata⟩
  · rintro ⟨hcode, hmessage, hdata⟩
    exact ⟨_, hdata, _, hmessage, _, hcode, rfl⟩

theorem read_data {e : RemoteError} {s : Source} (h : s.find? "data" 2 = e.data) :
    (optional "data" 2 none (.nullable .any)).read s = .ok e.withoutNull.data := by
  refine optional_eq_ok_iff.mpr ?_
  obtain ⟨code, message, data⟩ := e
  cases data with
  | none => exact .inr ⟨h, rfl⟩
  | some v =>
      refine .inl ⟨v, h, ?_⟩
      cases v with
      | null => rfl
      | _ => rfl

/-- An error is read back, but for data that is `null`. -/
theorem decode_toJson (e : RemoteError) : decode e.toJson = .ok e.withoutNull := by
  have hget : ∀ k, (Keyed.ofList e.members).get? k = Keyed.get? e.members k :=
    Keyed.get?_ofList_of_nodup e.nodup_members
  refine ofMembers_eq_ok_iff.mpr (reading_eq_ok_iff.mpr ⟨?_, ?_, read_data ?_⟩)
  · refine (read_required_iff Decoder.exact_signed64).mpr ?_
    rw [hget]
    rfl
  · refine (read_optional_iff Decoder.exact_string).mpr (.inl ?_)
    rw [hget]
    rfl
  · show (Keyed.ofList e.members).get? "data" = e.data
    rw [hget]
    simp [members]

/-- Data that has been read is not `null`. -/
theorem data_of_decode {v : Json} {e : RemoteError} (h : decode v = .ok e) :
    e.data ≠ some .null := by
  obtain ⟨s, hs⟩ := exists_source_of_record h
  obtain ⟨-, -, hdata⟩ := reading_eq_ok_iff.mp hs
  rcases optional_eq_ok_iff.mp hdata with ⟨w, -, hw⟩ | ⟨-, hnone⟩
  · rcases Decoder.nullable_eq_ok_iff.mp hw with ⟨-, hnone⟩ | ⟨hne, a, ha, hsome⟩
    · simp [hnone]
    · cases ha
      simp [hsome, hne]
  · simp [hnone]

end RemoteJobs.RemoteError
