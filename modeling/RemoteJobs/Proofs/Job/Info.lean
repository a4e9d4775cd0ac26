import RemoteJobs.Job.Info
import RemoteJobs.Proofs.Job.Request
import RemoteJobs.Proofs.Job.State

/-!
# Descriptions of jobs out of objects

A description has three members of its own and those of a request in the same
object. The reader takes it for what its own members say, together with the
request that the object itself is read as; the two readings do not disturb each
other, since none of their names is the same, and members with other names
disturb neither.
-/

namespace RemoteJobs

open Schema

theorem JobId.exact_decode : JobId.decode.Exact JobId.toJson :=
  Decoder.exact_word64.map (fun _ => rfl) fun _ => rfl

/-- A request is read out of its own members. -/
theorem JobRequest.looksAt_reading : JobRequest.reading.LooksAt JobRequest.fieldNames := by
  unfold JobRequest.reading
  repeat refine .seq ?_ (looksAt_optional (by decide))
  exact .seq (.map (looksAt_required (by decide))) (looksAt_required (by decide))

namespace JobInfo

/-- All members that a description may have. -/
def fieldNames : List String := ownNames ++ JobRequest.fieldNames

theorem looksAt_reading : reading.LooksAt ownNames :=
  .seq (.seq (.map (looksAt_required (by decide))) (looksAt_optional (by decide)))
    (looksAt_optional (by decide))

/-- The request is read of the members that are left just as of the object itself,
since none of its names is one of a description's own. -/
theorem ofMembers_request (m : Keyed Json) :
    ofMembers JobRequest.reading (m.filter (·.1 ∉ ownNames)) =
      JobRequest.decode (.obj m) := by
  refine JobRequest.looksAt_reading.ofMembers fun k hk => ?_
  have hother : k ∉ ownNames := by
    revert k
    decide
  rw [Keyed.get?_filter (fun k => k ∉ ownNames), if_pos (decide_eq_true hother)]

/-- What an object is read as is a matter of the members that a description may
have, and so is what speaks against it. -/
theorem decode_congr {m m' : Keyed Json} (h : ∀ k ∈ fieldNames, m.get? k = m'.get? k) :
    decode (.obj m) = decode (.obj m') := by
  obtain ⟨hown, hrequest⟩ := List.forall_mem_append.mp h
  have hsame : JobRequest.decode (.obj m) = JobRequest.decode (.obj m') :=
    JobRequest.looksAt_reading.ofMembers hrequest
  rw [decode, decode, looksAt_reading.ofMembers hown, ofMembers_request, ofMembers_request, hsame]

/-- The member names or numbers the state, or there is none and neither is there
a state. -/
def StateGiven (m : Keyed Json) (s : JobState) : Prop :=
  (∃ v, m.get? "jobState" = some v ∧ JobState.Denotes v s) ∨
    m.get? "jobState" = none ∧ s = .none

theorem read_state_iff {m : Keyed Json} {s : JobState} :
    (optional "jobState" 1 .none JobState.decode).read (.named m) = .ok s ↔ StateGiven m s := by
  rw [optional_eq_ok_iff]
  simp only [JobState.decode_eq_ok_iff]
  rfl

theorem decode_obj_iff {m : Keyed Json} {info : JobInfo} : decode (.obj m) = .ok info ↔
    m.get? "moleQueueId" = some info.job.toJson ∧ StateGiven m info.state ∧
      GivenIfAny m "queueId" (.int ·.toNat) info.queueId ∧
      JobRequest.decode (.obj m) = .ok info.request := by
  have hparts : decode (.obj m) = .ok info ↔ ∃ f, reading.read (.named m) = .ok f ∧
      ∃ r, JobRequest.decode (.obj m) = .ok r ∧ f r = info := by
    rw [decode, ofMembers_request]
    simp only [← ofMembers_eq_ok_iff]
    cases ofMembers reading m with
    | error e => simp
    | ok f =>
        cases JobRequest.decode (.obj m) with
        | error e => simp [Except.map]
        | ok r => simp [Except.map]
  rw [hparts]
  simp only [reading, Reading.exists_seq, Reading.exists_map, read_state_iff,
    read_required_iff JobId.exact_decode, read_nullable_iff Decoder.exact_word64 (by simp)]
  constructor
  · rintro ⟨_, hqueue, _, hstate, _, hjob, _, hrequest, rfl⟩
    exact ⟨hjob, hstate, hqueue, hrequest⟩
  · rintro ⟨hjob, hstate, hqueue, hrequest⟩
    exact ⟨_, hqueue, _, hstate, _, hjob, _, hrequest, rfl⟩

/-! ## Which objects are descriptions -/

section

variable {m : Keyed Json} {name : String}

theorem exists_word_iff {v : Json} : (∃ a : UInt64, v = .int a.toNat) ↔
    ∃ n : Int, 0 ≤ n ∧ n ≤ 18446744073709551615 ∧ v = .int n := by
  constructor
  · rintro ⟨a, rfl⟩
    have ha := a.toNat_lt
    exact ⟨a.toNat, by omega, by omega, rfl⟩
  · rintro ⟨n, hlo, hhi, rfl⟩
    obtain ⟨k, rfl⟩ := Int.eq_ofNat_of_zero_le hlo
    have hk : k < UInt64.size := by
      show k < 18446744073709551616
      omega
    exact ⟨UInt64.ofNat k, by rw [UInt64.toNat_ofNat_of_lt' hk]⟩

theorem exists_job_iff : (∃ job : JobId, m.get? name = some job.toJson) ↔
    ∃ n : Int, 0 ≤ n ∧ n ≤ 18446744073709551615 ∧ m.get? name = some (.int n) := by
  cases hm : m.get? name with
  | none => simp
  | some v =>
      simp only [Option.some.injEq, ← exists_word_iff]
      constructor
      · rintro ⟨job, rfl⟩
        exact ⟨job.number, rfl⟩
      · rintro ⟨a, rfl⟩
        exact ⟨⟨a⟩, rfl⟩

theorem exists_state_iff : (∃ s, StateGiven m s) ↔ m.get? "jobState" = none ∨
    (∃ t, m.get? "jobState" = some (.str t)) ∨ ∃ n, m.get? "jobState" = some (.int n) := by
  unfold StateGiven
  cases hm : m.get? "jobState" with
  | none => simp
  | some v => simp [← JobState.decode_eq_ok_iff, JobState.exists_decode_iff]

theorem exists_wordIfAny_iff : (∃ o : Option UInt64, GivenIfAny m name (.int ·.toNat) o) ↔
    m.get? name = none ∨ m.get? name = some .null ∨
      ∃ n : Int, 0 ≤ n ∧ n ≤ 18446744073709551615 ∧ m.get? name = some (.int n) := by
  constructor
  · rintro ⟨o, h | ⟨h, -⟩⟩
    · cases o with
      | none => exact .inl h
      | some a =>
          obtain ⟨n, hlo, hhi, hn⟩ := exists_word_iff.mp ⟨a, rfl⟩
          exact .inr (.inr ⟨n, hlo, hhi, h.trans (congrArg some hn)⟩)
    · exact .inr (.inl h)
  · rintro (h | h | ⟨n, hlo, hhi, h⟩)
    · exact ⟨none, .inl h⟩
    · exact ⟨none, .inr ⟨h, rfl⟩⟩
    · obtain ⟨a, ha⟩ := exists_word_iff.mpr ⟨n, hlo, hhi, rfl⟩
      exact ⟨some a, .inl (h.trans (congrArg some ha))⟩

end

/-- An object is read as a description if and only if it has an id, a word of 64
bits, its member for the state, if it has one, is a text or an integer, its
member for the id in the remote queue, if it has one that is not `null`, is such
a word again, and the object itself is read as a request.

The description then holds what these members say and the request that is read
of the object. The state is the one that is named or numbered, the unknown one
if the name or the number is nobody's, and none without a member for it. Members
with other names than those of a description change nothing, neither in what is
read nor in what speaks against it. And nothing but an object is read as a
description. -/
theorem infos_of_objects :
    (∀ m : Keyed Json,
      ((∃ info, decode (.obj m) = .ok info) ↔
        (∃ n : Int, 0 ≤ n ∧ n ≤ 18446744073709551615 ∧ m.get? "moleQueueId" = some (.int n)) ∧
        (m.get? "jobState" = none ∨ (∃ t, m.get? "jobState" = some (.str t)) ∨
          ∃ n, m.get? "jobState" = some (.int n)) ∧
        (m.get? "queueId" = none ∨ m.get? "queueId" = some .null ∨
          ∃ n : Int, 0 ≤ n ∧ n ≤ 18446744073709551615 ∧ m.get? "queueId" = some (.int n)) ∧
        ∃ r, JobRequest.decode (.obj m) = .ok r) ∧
      (∀ info, decode (.obj m) = .ok info ↔
        m.get? "moleQueueId" = some (.int info.job.number.toNat) ∧
        ((∃ v, m.get? "jobState" = some v ∧ JobState.Denotes v info.state) ∨
          m.get? "jobState" = none ∧ info.state = .none) ∧
        (m.get? "queueId" = info.queueId.map (.int ·.toNat) ∨
          m.get? "queueId" = some .null ∧ info.queueId = none) ∧
        JobRequest.decode (.obj m) = .ok info.request) ∧
      ∀ m' : Keyed Json, (∀ k ∈ fieldNames, m'.get? k = m.get? k) →
        decode (.obj m') = decode (.obj m)) ∧
    ∀ v info, decode v = .ok info → ∃ m, v = .obj m := by
  refine ⟨fun m => ⟨⟨?_, ?_⟩, fun info => decode_obj_iff, fun m' hm => decode_congr hm⟩, ?_⟩
  · rintro ⟨info, hinfo⟩
    obtain ⟨hjob, hstate, hqueue, hrequest⟩ := decode_obj_iff.mp hinfo
    exact ⟨exists_job_iff.mp ⟨_, hjob⟩, exists_state_iff.mp ⟨_, hstate⟩,
      exists_wordIfAny_iff.mp ⟨_, hqueue⟩, _, hrequest⟩
  · rintro ⟨hjob, hstate, hqueue, r, hrequest⟩
    obtain ⟨job, hjob⟩ := exists_job_iff.mpr hjob
    obtain ⟨s, hstate⟩ := exists_state_iff.mpr hstate
    obtain ⟨o, hqueue⟩ := exists_wordIfAny_iff.mpr hqueue
    exact ⟨⟨job, s, o, r⟩, decode_obj_iff.mpr ⟨hjob, hstate, hqueue, hrequest⟩⟩
  · intro v info h
    cases v with
    | obj m => exact ⟨m, rfl⟩
    | _ => cases h

/-- The state has a number, the id is the largest, and there is one member that
is nobody's. -/
theorem infos_of_numbered_state :
    let m : Keyed Json := [("jobState", .int 6), ("moleQueueId", .int 18446744073709551615),
      ("numberOfCores", .int 8), ("program", .str "gamess"), ("queue", .str "cluster"),
      ("queueId", .null)]
    decode (.obj m) = .ok ⟨⟨18446744073709551615⟩, .runningRemote, none,
        { queue := "cluster", program := "gamess", numberOfCores := 8 }⟩ ∧
      decode (.obj (m ++ [("state", .bool true)])) = decode (.obj m) := by
  intro m
  obtain ⟨hobjects, -⟩ := infos_of_objects
  obtain ⟨-, hinfo, hothers⟩ := hobjects m
  refine ⟨(hinfo _).mpr ⟨rfl, .inl ⟨_, rfl, .number rfl⟩, .inr ⟨rfl, rfl⟩, rfl⟩, ?_⟩
  refine hothers _ fun k hk => ?_
  have hstate : Keyed.get? [("state", Json.bool true)] k = none := by
    rw [Keyed.get?_eq_none_iff]
    intro h
    rw [List.mem_singleton.mp h] at hk
    exact absurd hk (by decide)
  rw [Keyed.get?_append, hstate, Option.or_none]

end JobInfo

end RemoteJobs
