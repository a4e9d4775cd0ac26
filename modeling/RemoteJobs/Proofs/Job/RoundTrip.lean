import RemoteJobs.PacketId
import RemoteJobs.Proofs.Job.Info
import RemoteJobs.Proofs.RemoteError

/-!
# Values of the protocol as JSON and back

What is written of a value is read as this value, for all that a server and its
client tell each other; the one exception is an error with data that is `null`.
Of a value that has been read the exception does not hold. So however a JSON
value says what it says, by numbers for states, with `null` or with members that
do not count, what is written of its meaning has the same meaning.
-/

namespace RemoteJobs

open Schema

/-- What has been read of any JSON value is read again of what is written of it. -/
def Schema.Decoder.Settles {α : Type} (d : Decoder α) (write : α → Json) : Prop :=
  ∀ v a, d v = .ok a → d (write a) = .ok a

theorem Schema.Decoder.Exact.decode_write {α : Type} {d : Decoder α} {write : α → Json}
    (h : d.Exact write) (a : α) : d (write a) = .ok a := (h _ a).mpr rfl

theorem JobState.decode_toJson (s : JobState) : decode s.toJson = .ok s :=
  decode_eq_ok_iff.mpr (.name s)

theorem JobId.ofParams_toParams (i : JobId) : ofParams i.toParams = .ok i :=
  ofMembers_eq_ok_iff.mpr ((read_required_iff exact_decode).mpr rfl)

/-! ## Submissions -/

namespace Submission

theorem names_members_sublist (s : Submission) :
    (Keyed.names s.members).Sublist ["moleQueueId", "workingDirectory"] := by
  rw [members, Keyed.names_append]
  exact (List.Sublist.refl ["moleQueueId"]).append
    (names_present_sublist "workingDirectory" .str s.workingDirectory)

theorem decode_obj_iff {m : Keyed Json} {s : Submission} : decode (.obj m) = .ok s ↔
    m.get? "moleQueueId" = some s.job.toJson ∧
      GivenIfAny m "workingDirectory" .str s.workingDirectory := by
  refine ofMembers_eq_ok_iff.trans (Reading.eq_ok_iff_exists.trans ?_)
  simp only [Reading.exists_seq, Reading.exists_map, read_required_iff JobId.exact_decode,
    read_nullable_iff Decoder.exact_string (by simp)]
  constructor
  · rintro ⟨_, hdirectory, _, hjob, rfl⟩
    exact ⟨hjob, hdirectory⟩
  · rintro ⟨hjob, hdirectory⟩
    exact ⟨_, hdirectory, _, hjob, rfl⟩

theorem decode_toJson (s : Submission) : decode s.toJson = .ok s := by
  have hget : ∀ k, (Keyed.ofList s.members).get? k = Keyed.get? s.members k :=
    Keyed.get?_ofList_of_nodup (s.names_members_sublist.nodup (by decide))
  refine decode_obj_iff.mpr ⟨?_, .inl ?_⟩
  · rw [hget]
    rfl
  · rw [hget]
    simp [members, JobId.members]

end Submission

/-! ## Changes of state -/

namespace StateChange

theorem decode_obj_iff {m : Keyed Json} {c : StateChange} : decode (.obj m) = .ok c ↔
    m.get? "moleQueueId" = some c.job.toJson ∧
      ((∃ v, m.get? "oldState" = some v ∧ JobState.Denotes v c.old) ∨
        m.get? "oldState" = none ∧ c.old = .none) ∧
      ∃ v, m.get? "newState" = some v ∧ JobState.Denotes v c.new := by
  refine ofMembers_eq_ok_iff.trans (Reading.eq_ok_iff_exists.trans ?_)
  simp only [Reading.exists_seq, Reading.exists_map, read_required_iff JobId.exact_decode,
    required_eq_ok_iff, optional_eq_ok_iff, JobState.decode_eq_ok_iff]
  constructor
  · rintro ⟨_, hnew, _, hold, _, hjob, rfl⟩
    exact ⟨hjob, hold, hnew⟩
  · rintro ⟨hjob, hold, hnew⟩
    exact ⟨_, hnew, _, hold, _, hjob, rfl⟩

theorem decode_toJson (c : StateChange) : decode c.toJson = .ok c := by
  have hnodup : (Keyed.names c.members).Nodup := by
    show ["moleQueueId", "oldState", "newState"].Nodup
    decide
  have hget := Keyed.get?_ofList_of_nodup hnodup
  refine decode_obj_iff.mpr ⟨?_, .inl ⟨c.old.toJson, ?_, .name c.old⟩,
    c.new.toJson, ?_, .name c.new⟩
  · rw [hget]
    rfl
  · rw [hget]
    rfl
  · rw [hget]
    rfl

end StateChange

/-! ## Descriptions -/

namespace JobInfo

theorem names_members_sublist (i : JobInfo) : (Keyed.names i.members).Sublist fieldNames := by
  rw [members, Keyed.names_append, Keyed.names_append]
  exact ((List.Sublist.refl ["moleQueueId", "jobState"]).append
    (names_present_sublist "queueId" (fun n => .int n.toNat) i.queueId)).append
    i.request.names_members_sublist

theorem member?_toJson (i : JobInfo) (k : String) :
    i.toJson.member? k = Keyed.get? i.members k :=
  Keyed.get?_ofList_of_nodup (i.names_members_sublist.nodup (by decide)) k

/-- The members of the request stand in the description as they are. -/
theorem member?_request (i : JobInfo) {k : String} (hk : k ∈ JobRequest.fieldNames) :
    i.toJson.member? k = i.request.toJson.member? k := by
  have hown : k ∉ ownNames := by
    revert k
    decide
  have hnone : Keyed.get? (i.job.members ++ [("jobState", i.state.toJson)]
      ++ present "queueId" (fun n => .int n.toNat) i.queueId) k = none := by
    simp only [ownNames, List.mem_cons, List.not_mem_nil, or_false, not_or] at hown
    simp [JobId.members, Ne.symm hown.1, Ne.symm hown.2.1, Ne.symm hown.2.2]
  rw [member?_toJson, JobRequest.member?_toJson, members, Keyed.get?_append, hnone, Option.none_or]

theorem decode_toJson (i : JobInfo) : decode i.toJson = .ok i := by
  refine decode_obj_iff.mpr ⟨?_, .inl ⟨i.state.toJson, ?_, .name i.state⟩, .inl ?_, ?_⟩
  · refine (i.member?_toJson _).trans ?_
    simp [members, JobId.members]
  · refine (i.member?_toJson _).trans ?_
    simp [members, JobId.members]
  · refine (i.member?_toJson _).trans ?_
    simp [members, JobId.members, JobRequest.members]
  · exact JobRequest.decode_obj_iff.mpr fun k hk => .own (i.member?_request hk)

end JobInfo

/-- What is written of a value of the protocol is read as this value, but for an
error with data that is `null`, which is read as the error without data.

And whatever JSON value has been read, in whatever way it says what it says, its
meaning is read again of what is written of it. -/
theorem values_read_back :
    (∀ i : JobInfo, JobInfo.decode i.toJson = .ok i) ∧
    (∀ c : StateChange, StateChange.decode c.toJson = .ok c) ∧
    (∀ s : Submission, Submission.decode s.toJson = .ok s) ∧
    (∀ i : JobId, JobId.ofParams i.toParams = .ok i) ∧
    (∀ s : JobState, JobState.decode s.toJson = .ok s) ∧
    (∀ i : PacketId, PacketId.decode i.toJson = .ok i) ∧
    (∀ i : JobId, JobId.decode i.toJson = .ok i) ∧
    (∀ e : RemoteError,
      (e.data ≠ some .null → RemoteError.decode e.toJson = .ok e) ∧
      (e.data = some .null → RemoteError.decode e.toJson = .ok { e with data := none })) ∧
    JobInfo.decode.Settles JobInfo.toJson ∧
    StateChange.decode.Settles StateChange.toJson ∧
    Submission.decode.Settles Submission.toJson ∧
    JobId.ofParams.Settles JobId.toParams ∧
    JobState.decode.Settles JobState.toJson ∧
    PacketId.decode.Settles PacketId.toJson ∧
    JobId.decode.Settles JobId.toJson ∧
    RemoteError.decode.Settles RemoteError.toJson := by
  refine ⟨JobInfo.decode_toJson, StateChange.decode_toJson, Submission.decode_toJson,
    JobId.ofParams_toParams, JobState.decode_toJson, PacketId.decode_toJson,
    JobId.exact_decode.decode_write, fun e => ⟨fun hdata => ?_, fun hdata => ?_⟩,
    fun _ i _ => i.decode_toJson, fun _ c _ => c.decode_toJson, fun _ s _ => s.decode_toJson,
    fun _ i _ => i.ofParams_toParams, fun _ s _ => s.decode_toJson, fun _ i _ => i.decode_toJson,
    fun _ i _ => JobId.exact_decode.decode_write i, fun v e he => ?_⟩
  · rw [RemoteError.decode_toJson, RemoteError.withoutNull_eq_self hdata]
  · rw [RemoteError.decode_toJson, RemoteError.withoutNull, hdata]
  · rw [RemoteError.decode_toJson, RemoteError.withoutNull_eq_self (RemoteError.data_of_decode he)]

/-- A change that is told by a number, by an older name and with a member that
does not count, and an error with data that is `null`. -/
theorem values_read_back_of_older_names :
    let c : StateChange := ⟨⟨7⟩, .runningLocal, .error⟩
    let e : RemoteError := ⟨-32000, "no such queue", some .null⟩
    StateChange.decode (.obj [("at", .null), ("moleQueueId", .int 7),
        ("newState", .str "ErrorState"), ("oldState", .int 5)]) = .ok c ∧
      StateChange.decode c.toJson = .ok c ∧
      RemoteError.decode e.toJson = .ok ⟨-32000, "no such queue", none⟩ ∧
      RemoteError.decode (RemoteError.toJson ⟨-32000, "no such queue", none⟩) =
        .ok ⟨-32000, "no such queue", none⟩ := by
  intro c e
  obtain ⟨-, -, -, -, -, -, -, herror, -, hchange, -, -, -, -, -, hsettled⟩ := values_read_back
  have hread : StateChange.decode (.obj [("at", .null), ("moleQueueId", .int 7),
      ("newState", .str "ErrorState"), ("oldState", .int 5)]) = .ok c := rfl
  have hdata := (herror e).2 rfl
  exact ⟨hread, hchange _ c hread, hdata, hsettled _ _ hdata⟩

end RemoteJobs
