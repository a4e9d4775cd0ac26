import RemoteJobs.Job.Request
import RemoteJobs.Proofs.Schema

/-!
# Requests for jobs as JSON and back

The same request may be written in many ways: a member may be left out if its
value is the one that holds anyway, `null` may stand for a value that is not
there, and members with other names do not count. For this to work what is
written, what holds if nothing is written, and what a request has of which only
the queue and the program are said must agree, field by field.

`Variant` speaks of the members of an object alone and not of the reader. The
reader takes an object for a request if and only if it is a variant of the
request's own.
-/

namespace RemoteJobs.JobRequest

open Schema

/-! ## Variants -/

/-- The members that every request has. -/
def constantNames : List String :=
  ["queue", "program", "description", "cleanRemoteFiles", "retrieveOutput",
    "cleanLocalWorkingDirectory", "hideFromGui", "popupOnStateChange", "numberOfCores"]

/-- The members that may be left out for want of a value. -/
def optionalNames : List String :=
  ["inputAsPath", "inputAsString", "outputDirectory", "localWorkingDirectory", "maxWallTime"]

/-- The members without which there is no request. -/
def neededNames : List String := ["queue", "program"]

/-- All fields in their order. -/
def fieldNames : List String :=
  ["queue", "program", "description", "inputAsPath", "inputAsString", "outputDirectory",
    "localWorkingDirectory", "cleanRemoteFiles", "retrieveOutput", "cleanLocalWorkingDirectory",
    "hideFromGui", "popupOnStateChange", "numberOfCores", "maxWallTime"]

/-- The member has the value that a request for the same program on the same
queue has if nothing else is said of it. -/
def Dispensable (r : JobRequest) (k : String) : Prop :=
  k ∉ neededNames ∧ r.toJson.member? k = (plain r.queue r.program).toJson.member? k

/-- The members may stand for the request's own as far as this name goes. -/
inductive Tells (r : JobRequest) (m : Keyed Json) (k : String) : Prop where
  | own : m.get? k = r.toJson.member? k → Tells r m k
  | omitted : m.get? k = none → r.Dispensable k → Tells r m k
  | null : m.get? k = some .null → k ∈ optionalNames → r.toJson.member? k = none → Tells r m k

/-- The members may stand for the request's own. -/
def Variant (r : JobRequest) (m : Keyed Json) : Prop := ∀ k ∈ fieldNames, r.Tells m k

/-- The members of the request without those of some names, then `null` under
other names, and at last other members. -/
def edited (r : JobRequest) (gone nulls : List String) (others : List (String × Json)) :
    List (String × Json) :=
  r.members.filter (·.1 ∉ gone) ++ nulls.map (·, .null) ++ others

/-! ## What is written -/

theorem names_members_sublist (r : JobRequest) : (Keyed.names r.members).Sublist fieldNames := by
  simp only [members, Keyed.names_append]
  exact (((((((List.Sublist.refl ["queue", "program", "description"]).append
    (names_present_sublist "inputAsPath" .str r.inputAsPath)).append
    (names_present_sublist "inputAsString" .str r.inputAsString)).append
    (names_present_sublist "outputDirectory" .str r.outputDirectory)).append
    (names_present_sublist "localWorkingDirectory" .str r.localWorkingDirectory)).append
    (List.Sublist.refl ["cleanRemoteFiles", "retrieveOutput", "cleanLocalWorkingDirectory",
      "hideFromGui", "popupOnStateChange", "numberOfCores"])).append
    (names_present_sublist "maxWallTime" (fun n => .int n.toNat) r.maxWallTime))

theorem nodup_members (r : JobRequest) : (Keyed.names r.members).Nodup :=
  r.names_members_sublist.nodup (by decide)

theorem member?_toJson (r : JobRequest) (k : String) :
    r.toJson.member? k = Keyed.get? r.members k := Keyed.get?_ofList_of_nodup r.nodup_members k

/-- A request is written with the members that every request has and those that
have a value. -/
theorem mem_names_members (r : JobRequest) (k : String) :
    k ∈ Keyed.names r.members ↔ k ∈ constantNames ∨
      k = "inputAsPath" ∧ r.inputAsPath.isSome ∨
      k = "inputAsString" ∧ r.inputAsString.isSome ∨
      k = "outputDirectory" ∧ r.outputDirectory.isSome ∨
      k = "localWorkingDirectory" ∧ r.localWorkingDirectory.isSome ∨
      k = "maxWallTime" ∧ r.maxWallTime.isSome := by
  have hpresent : ∀ {α : Type} (name : String) (write : α → Json) (o : Option α),
      k ∈ Keyed.names (present name write o) ↔ k = name ∧ o.isSome := by
    intro α name write o
    cases o with
    | none => simp [present, Keyed.names]
    | some a => simp [present, Keyed.names]
  simp only [members, Keyed.names_append, List.mem_append, hpresent]
  simp only [Keyed.names, List.map_cons, List.map_nil, List.mem_cons, List.not_mem_nil, or_false,
    constantNames]
  grind

/-! ## What is read -/

theorem reading_eq_ok_iff {r : JobRequest} {s : Source} : reading.read s = .ok r ↔
    (required "queue" 0 .string).read s = .ok r.queue ∧
    (required "program" 1 .string).read s = .ok r.program ∧
    (optional "description" 2 "" .string).read s = .ok r.description ∧
    (optional "inputAsPath" 3 none (.nullable .string)).read s = .ok r.inputAsPath ∧
    (optional "inputAsString" 4 none (.nullable .string)).read s = .ok r.inputAsString ∧
    (optional "outputDirectory" 5 none (.nullable .string)).read s = .ok r.outputDirectory ∧
    (optional "localWorkingDirectory" 6 none (.nullable .string)).read s =
      .ok r.localWorkingDirectory ∧
    (optional "cleanRemoteFiles" 7 false .bool).read s = .ok r.cleanRemoteFiles ∧
    (optional "retrieveOutput" 8 true .bool).read s = .ok r.retrieveOutput ∧
    (optional "cleanLocalWorkingDirectory" 9 false .bool).read s =
      .ok r.cleanLocalWorkingDirectory ∧
    (optional "hideFromGui" 10 false .bool).read s = .ok r.hideFromGui ∧
    (optional "popupOnStateChange" 11 true .bool).read s = .ok r.popupOnStateChange ∧
    (optional "numberOfCores" 12 1 .word32).read s = .ok r.numberOfCores ∧
    (optional "maxWallTime" 13 none (.nullable .word32)).read s = .ok r.maxWallTime := by
  refine Reading.eq_ok_iff_exists.trans ?_
  simp only [reading, Reading.exists_seq, Reading.exists_map]
  constructor
  · rintro ⟨_, h13, _, h12, _, h11, _, h10, _, h9, _, h8, _, h7, _, h6, _, h5, _, h4, _, h3, _, h2,
      _, h1, _, h0, rfl⟩
    exact ⟨h0, h1, h2, h3, h4, h5, h6, h7, h8, h9, h10, h11, h12, h13⟩
  · rintro ⟨h0, h1, h2, h3, h4, h5, h6, h7, h8, h9, h10, h11, h12, h13⟩
    exact ⟨_, h13, _, h12, _, h11, _, h10, _, h9, _, h8, _, h7, _, h6, _, h5, _, h4, _, h3, _, h2,
      _, h1, _, h0, rfl⟩

section

variable {α : Type} {r : JobRequest} {m : Keyed Json} {k : String} {place : Nat}
  {d : Decoder α} {write : α → Json}

theorem read_needed_iff (hd : d.Exact write) (hk : k ∈ neededNames) {a : α}
    (ha : Keyed.get? r.members k = some (write a)) :
    (required k place d).read (.named m) = .ok a ↔ r.Tells m k := by
  rw [read_required_iff hd, ← ha, ← member?_toJson]
  constructor
  · exact .own
  · rintro (h | ⟨-, hneeded, -⟩ | ⟨-, -, hnone⟩)
    · exact h
    · exact absurd hk hneeded
    · rw [member?_toJson, ha] at hnone
      cases hnone

theorem read_default_iff (hd : d.Exact write) (hk : k ∉ neededNames) {absent a : α}
    (ha : Keyed.get? r.members k = some (write a))
    (habsent : Keyed.get? (plain r.queue r.program).members k = some (write absent)) :
    (optional k place absent d).read (.named m) = .ok a ↔ r.Tells m k := by
  have hsame : a = absent ↔ r.Dispensable k := by
    rw [Dispensable, member?_toJson, member?_toJson, ha, habsent, Option.some.injEq,
      ← hd (write a) absent, (hd (write a) a).mpr rfl, Except.ok.injEq]
    exact (and_iff_right hk).symm
  rw [read_optional_iff hd, Given, ← ha, ← member?_toJson, hsame]
  constructor
  · rintro (h | ⟨hnone, h⟩)
    · exact .own h
    · exact .omitted hnone h
  · rintro (h | ⟨hnone, h⟩ | ⟨-, -, hnone⟩)
    · exact .inl h
    · exact .inr ⟨hnone, h⟩
    · rw [member?_toJson, ha] at hnone
      cases hnone

theorem read_ifAny_iff (hd : d.Exact write) (hnull : ∀ a, write a ≠ .null) (hk : k ∈ optionalNames)
    {o : Option α} (ho : Keyed.get? r.members k = o.map write)
    (habsent : Keyed.get? (plain r.queue r.program).members k = none) :
    (optional k place none (.nullable d)).read (.named m) = .ok o ↔ r.Tells m k := by
  have hnone : r.toJson.member? k = none ↔ o = none := by
    rw [member?_toJson, ho, Option.map_eq_none_iff]
  rw [read_nullable_iff hd hnull, GivenIfAny, ← ho, ← member?_toJson, ← hnone]
  constructor
  · rintro (h | ⟨h, he⟩)
    · exact .own h
    · exact .null h hk he
  · rintro (h | ⟨h, -, he⟩ | ⟨h, -, he⟩)
    · exact .inl h
    · rw [member?_toJson (plain _ _), habsent] at he
      exact .inl (h.trans he.symm)
    · exact .inr ⟨h, he⟩

/-- The reader takes an object for the request if and only if the object is a
variant of the request's own. -/
theorem decode_obj_iff : decode (.obj m) = .ok r ↔ r.Variant m := by
  rw [decode, record, ofMembers_eq_ok_iff, reading_eq_ok_iff, Variant]
  simp only [fieldNames, List.forall_mem_cons, List.not_mem_nil, false_implies, implies_true,
    and_true]
  exact
    and_congr (read_needed_iff Decoder.exact_string (by decide) (by simp [members])) <|
    and_congr (read_needed_iff Decoder.exact_string (by decide) (by simp [members])) <|
    and_congr (read_default_iff Decoder.exact_string (by decide) (by simp [members])
      (by simp [members, plain])) <|
    and_congr (read_ifAny_iff Decoder.exact_string (by simp) (by decide) (by simp [members])
      (by simp [members, plain])) <|
    and_congr (read_ifAny_iff Decoder.exact_string (by simp) (by decide) (by simp [members])
      (by simp [members, plain])) <|
    and_congr (read_ifAny_iff Decoder.exact_string (by simp) (by decide) (by simp [members])
      (by simp [members, plain])) <|
    and_congr (read_ifAny_iff Decoder.exact_string (by simp) (by decide) (by simp [members])
      (by simp [members, plain])) <|
    and_congr (read_default_iff Decoder.exact_bool (by decide) (by simp [members])
      (by simp [members, plain])) <|
    and_congr (read_default_iff Decoder.exact_bool (by decide) (by simp [members])
      (by simp [members, plain])) <|
    and_congr (read_default_iff Decoder.exact_bool (by decide) (by simp [members])
      (by simp [members, plain])) <|
    and_congr (read_default_iff Decoder.exact_bool (by decide) (by simp [members])
      (by simp [members, plain])) <|
    and_congr (read_default_iff Decoder.exact_bool (by decide) (by simp [members])
      (by simp [members, plain])) <|
    and_congr (read_default_iff Decoder.exact_word32 (by decide) (by simp [members])
      (by simp [members, plain]))
      (read_ifAny_iff Decoder.exact_word32 (by simp) (by decide) (by simp [members])
        (by simp [members, plain]))

end

/-! ## Members left out and added -/

theorem get?_edited (r : JobRequest) (gone nulls : List String) {others : List (String × Json)}
    {k : String} (hk : k ∉ Keyed.names others) :
    (Keyed.ofList (r.edited gone nulls others)).get? k =
      if k ∈ nulls then some .null else if k ∈ gone then none else r.toJson.member? k := by
  have hothers : (Keyed.ofList others).get? k = none :=
    Keyed.get?_eq_none_iff.mpr (Keyed.not_mem_names_ofList hk)
  have hnulls : (Keyed.ofList (nulls.map (·, Json.null))).get? k =
      if k ∈ nulls then some .null else none := by
    rw [Keyed.get?_ofList, ← List.map_reverse, Keyed.get?_map_pair]
    simp only [List.mem_reverse]
  have hkept : (Keyed.ofList (r.members.filter (·.1 ∉ gone))).get? k =
      if k ∈ gone then none else r.toJson.member? k := by
    have hnodup : (Keyed.names (r.members.filter (·.1 ∉ gone))).Nodup :=
      (List.filter_sublist.map Prod.fst).nodup r.nodup_members
    rw [Keyed.get?_ofList_of_nodup hnodup, member?_toJson]
    refine (Keyed.get?_filter (fun i => i ∉ gone) r.members k).trans ?_
    by_cases hgone : k ∈ gone
    · simp [hgone]
    · simp [hgone]
  rw [edited, Keyed.get?_ofList_append, Keyed.get?_ofList_append, hothers, hnulls, hkept]
  by_cases h : k ∈ nulls
  · simp [h]
  · simp [h]

theorem variant_edited {r : JobRequest} {gone nulls : List String} {others : List (String × Json)}
    (hgone : ∀ k ∈ gone, r.Dispensable k)
    (hnulls : ∀ k ∈ nulls, k ∈ optionalNames ∧ r.toJson.member? k = none)
    (hothers : ∀ e ∈ others, e.1 ∉ fieldNames) :
    r.Variant (Keyed.ofList (r.edited gone nulls others)) := by
  intro k hk
  have hother : k ∉ Keyed.names others := by
    intro h
    obtain ⟨e, he, rfl⟩ := List.mem_map.mp h
    exact hothers e he hk
  have hget := r.get?_edited gone nulls hother
  by_cases hn : k ∈ nulls
  · rw [if_pos hn] at hget
    exact .null hget (hnulls k hn).1 (hnulls k hn).2
  · rw [if_neg hn] at hget
    by_cases hg : k ∈ gone
    · rw [if_pos hg] at hget
      exact .omitted hget (hgone k hg)
    · rw [if_neg hg] at hget
      exact .own hget

/-- A request is written as an object with nine members that every request has
and, of five others, those that have a value.

The objects that are read as this request are the variants of its own, and no
others. So it is read back, whatever members are left out that say what holds
anyway, whatever members without a value are written as `null`, and whatever
members with other names are added. -/
theorem requests_of_variants (r : JobRequest) :
    (∃ m : Keyed Json, r.toJson = .obj m ∧ m.Ordered ∧
      ∀ k, k ∈ m.names ↔ k ∈ constantNames ∨
        k = "inputAsPath" ∧ r.inputAsPath.isSome ∨
        k = "inputAsString" ∧ r.inputAsString.isSome ∨
        k = "outputDirectory" ∧ r.outputDirectory.isSome ∨
        k = "localWorkingDirectory" ∧ r.localWorkingDirectory.isSome ∨
        k = "maxWallTime" ∧ r.maxWallTime.isSome) ∧
    (∀ m : Keyed Json, decode (.obj m) = .ok r ↔ r.Variant m) ∧
    ∀ (gone nulls : List String) (others : List (String × Json)),
      (∀ k ∈ gone, r.Dispensable k) →
      (∀ k ∈ nulls, k ∈ optionalNames ∧ r.toJson.member? k = none) →
      (∀ e ∈ others, e.1 ∉ fieldNames) →
      decode (.object (r.edited gone nulls others)) = .ok r := by
  refine ⟨⟨Keyed.ofList r.members, rfl, Keyed.ordered_ofList _, fun k => ?_⟩,
    fun m => decode_obj_iff, fun gone nulls others hgone hnulls hothers => ?_⟩
  · rw [Keyed.mem_names_ofList]
    exact r.mem_names_members k
  · exact decode_obj_iff.mpr (variant_edited hgone hnulls hothers)

/-- A request that is built from wishes. The number of cores is left out, since
the last wish for it is the one that holds anyway; the wish to hide the job is
not, and there is `null` for the input file. -/
theorem requests_of_wishes :
    let r := build "cluster" "gamess"
      [.numberOfCores 8, .inputAsString "H2O", .hidden, .numberOfCores 1]
    (r.edited ["numberOfCores"] ["inputAsPath"] [("jobState", .int 3)]).length = 11 ∧
      r.Dispensable "numberOfCores" ∧ ¬ r.Dispensable "hideFromGui" ∧
      decode (.object (r.edited ["numberOfCores"] ["inputAsPath"] [("jobState", .int 3)])) =
        .ok r := by
  intro r
  have hcores : r.Dispensable "numberOfCores" := by
    refine ⟨by decide, ?_⟩
    rw [member?_toJson, member?_toJson]
    rfl
  have hshown : ¬ r.Dispensable "hideFromGui" := by
    rintro ⟨-, h⟩
    rw [member?_toJson, member?_toJson] at h
    cases h
  have hpath : r.toJson.member? "inputAsPath" = none := by
    rw [member?_toJson]
    rfl
  refine ⟨rfl, hcores, hshown, ?_⟩
  exact (requests_of_variants r).2.2 ["numberOfCores"] ["inputAsPath"] [("jobState", .int 3)]
    (List.forall_mem_singleton.mpr hcores)
    (List.forall_mem_singleton.mpr ⟨by decide, hpath⟩)
    (List.forall_mem_singleton.mpr (by decide))

end RemoteJobs.JobRequest
