import RemoteJobs.Job.Queues
import RemoteJobs.Proofs.Json.Ordered

/-!
# Queues out of objects

Whatever an object says of its queues, no queue is lost: the reader keeps each
name in its place, with the texts of the list that stands under it. What is
neither a list nor `null` counts as a list without programs, and is told of. What
is written of the queues says nothing but lists of texts, so that it is read as
it is meant and nothing is told of.
-/

namespace RemoteJobs

def Json.isText : Json → Bool
  | .str _ => true
  | _ => false

namespace Queues

variable {v w : Json} {m : Keyed Json} {q : Queues} {queue program : String}

/-- The programs that a value under a queue's name speaks of: the texts of a list,
as they follow each other, and none if the value is no list. -/
inductive Lists : Json → List String → Prop where
  | texts {items : List Json} {ps : List String} :
      ps.map .str = items.filter Json.isText → Lists (.arr items) ps
  | nothing {w : Json} : (∀ items, w ≠ .arr items) → Lists w []

/-- The value is there and is no list. -/
def isIllFormed : Json → Bool
  | .null | .arr _ => false
  | _ => true

/-! ## The programs of one queue -/

theorem map_programsOf_arr (items : List Json) :
    (programsOf (.arr items)).map .str = items.filter Json.isText := by
  induction items with
  | nil => rfl
  | cons item items ih =>
      rw [programsOf] at ih
      cases item with
      | _ => simp [programsOf, List.filter_cons, Json.isText, ih]

theorem lists_programsOf (w : Json) : Lists w (programsOf w) := by
  cases w with
  | arr items => exact .texts (map_programsOf_arr items)
  | _ => exact .nothing (by simp)

theorem mem_programsOf_iff :
    program ∈ programsOf w ↔ ∃ items, w = .arr items ∧ .str program ∈ items := by
  cases w with
  | arr items =>
      have hmem : program ∈ programsOf (.arr items) ↔
          Json.str program ∈ (programsOf (.arr items)).map .str := by simp
      rw [hmem, map_programsOf_arr]
      simp [Json.isText]
  | _ => simp [programsOf]

theorem programsOf_strings (ps : List String) : programsOf (.strings ps) = ps := by
  induction ps with
  | nil => rfl
  | cons p ps ih => exact congrArg (p :: ·) ih

theorem noticesOf_eq (queue : String) (w : Json) :
    noticesOf queue w = if isIllFormed w then [.programsIgnored queue w] else [] := by
  cases w with
  | _ => rfl

/-! ## All queues -/

/-- The queues of an object. -/
def ofMembers (m : Keyed Json) : Queues := ⟨m.map fun e => (e.1, programsOf e.2)⟩

theorem flatMap_noticesOf (m : Keyed Json) : m.flatMap (fun e => noticesOf e.1 e.2) =
    (m.filter (isIllFormed ·.2)).map fun e => .programsIgnored e.1 e.2 := by
  induction m with
  | nil => rfl
  | cons e m ih =>
      rw [List.flatMap_cons, ih, noticesOf_eq, List.filter_cons]
      split
      · rfl
      · rfl

theorem decode_obj (m : Keyed Json) : decode (.obj m) = (.ok (ofMembers m),
    (m.filter (isIllFormed ·.2)).map fun e => .programsIgnored e.1 e.2) := by
  rw [← flatMap_noticesOf]
  rfl

@[simp] theorem names_ofMembers (m : Keyed Json) : (ofMembers m).names = m.names :=
  Keyed.names_map programsOf m

theorem ordered_ofMembers (h : m.Ordered) : (ofMembers m).programs.Ordered := by
  show (ofMembers m).names.Pairwise (· < ·)
  rw [names_ofMembers]
  exact h

@[simp] theorem programs?_ofMembers (m : Keyed Json) (queue : String) :
    (ofMembers m).programs? queue = (m.get? queue).map programsOf :=
  Keyed.get?_map programsOf m queue

theorem contains_iff :
    q.contains queue program = true ↔ ∃ ps, q.programs? queue = some ps ∧ program ∈ ps := by
  rw [contains]
  cases q.programs? queue with
  | none => simp
  | some ps => simp

theorem contains_ofMembers_iff : (ofMembers m).contains queue program = true ↔
    ∃ items, m.get? queue = some (.arr items) ∧ .str program ∈ items := by
  simp only [contains_iff, programs?_ofMembers, Option.map_eq_some_iff]
  constructor
  · rintro ⟨_, ⟨w, hw, rfl⟩, hp⟩
    obtain ⟨items, rfl, hitem⟩ := mem_programsOf_iff.mp hp
    exact ⟨items, hw, hitem⟩
  · rintro ⟨items, hw, hp⟩
    exact ⟨_, ⟨_, hw, rfl⟩, mem_programsOf_iff.mpr ⟨items, rfl, hp⟩⟩

/-- Queues whose names increase are read as they are written. -/
theorem decode_toJson (h : q.programs.Ordered) : decode q.toJson = (.ok q, []) := by
  have hmembers : Keyed.Ordered q.members := by
    have hnames : Keyed.names q.members = q.programs.names := Keyed.names_map Json.strings _
    rwa [Keyed.Ordered, hnames]
  rw [toJson, Json.object, Keyed.ofList_of_ordered hmembers, decode_obj, members]
  congr 1
  · rw [ofMembers, List.map_map]
    simp [programsOf_strings, Function.comp_def]
  · rw [List.map_eq_nil_iff, List.filter_eq_nil_iff]
    intro e he
    obtain ⟨_, -, rfl⟩ := List.mem_map.mp he
    exact Bool.false_ne_true

/-- A value is read as queues if and only if it is an object.

The queues are then those that the object names, in increasing order, and each
has the programs that its member lists. For each member that is neither `null`
nor a list, and for no other, there is one warning, in the same order. A queue
has a program if and only if the program is among the items of the list under
the queue's name. And what is written of the queues is read as these queues, with
no warning. -/
theorem queues_of_members (h : v.Ordered) :
    ((∃ q, (decode v).1 = .ok q) ↔ ∃ m, v = .obj m) ∧
    ((∀ m, v ≠ .obj m) → (decode v).2 = []) ∧
    ∀ q m, (decode v).1 = .ok q → v = .obj m →
      q.names = Keyed.names m ∧
      q.names.Pairwise (· < ·) ∧
      (∀ queue w, (queue, w) ∈ m → ∃ ps, q.programs? queue = some ps ∧ Lists w ps) ∧
      (decode v).2 = (m.filter (isIllFormed ·.2)).map (fun e => .programsIgnored e.1 e.2) ∧
      (∀ n ∈ (decode v).2, n.severity = .warning ∧ n.headline = "Ill-formed program list") ∧
      (∀ queue program, q.contains queue program = true ↔
        ∃ items, (queue, .arr items) ∈ m ∧ .str program ∈ items) ∧
      decode q.toJson = (.ok q, []) := by
  refine ⟨⟨?_, ?_⟩, fun hv => ?_, ?_⟩
  · rintro ⟨q, hq⟩
    cases v with
    | obj m => exact ⟨m, rfl⟩
    | _ => cases hq
  · rintro ⟨m, rfl⟩
    exact ⟨ofMembers m, rfl⟩
  · cases v with
    | obj m => exact absurd rfl (hv m)
    | _ => rfl
  · rintro q m hq rfl
    obtain rfl : ofMembers m = q := Except.ok.inj hq
    have hm : Keyed.Ordered m := (Json.ordered_obj_iff.mp h).1
    have hnotices : (decode (.obj m)).2 =
        (m.filter (isIllFormed ·.2)).map fun e => .programsIgnored e.1 e.2 := by
      rw [decode_obj]
    refine ⟨names_ofMembers m, ordered_ofMembers hm, fun queue w hw => ?_, hnotices,
      fun n hn => ?_, fun queue program => ?_, decode_toJson (ordered_ofMembers hm)⟩
    · refine ⟨programsOf w, ?_, lists_programsOf w⟩
      rw [programs?_ofMembers, (Keyed.get?_eq_some_iff hm).mpr hw]
      rfl
    · rw [hnotices] at hn
      obtain ⟨e, -, rfl⟩ := List.mem_map.mp hn
      exact ⟨rfl, rfl⟩
    · simp only [contains_ofMembers_iff, Keyed.get?_eq_some_iff hm]

/-- One member of each kind: a text, an empty list, `null`, and a list with a
number among its texts. -/
theorem queues_of_members_of_each_kind :
    let m : Keyed Json := [("broken", .str "sleep"), ("cluster", .arr []), ("empty", .null),
      ("local", .arr [.str "sleep", .str "gamess", .int 3])]
    let q : Queues := ⟨[("broken", []), ("cluster", []), ("empty", []),
      ("local", ["sleep", "gamess"])]⟩
    (Json.obj m).Ordered ∧ decode (.obj m) = (.ok q, [.programsIgnored "broken" (.str "sleep")]) ∧
      q.contains "local" "gamess" = true ∧ ¬ q.contains "cluster" "gamess" = true ∧
      decode q.toJson = (.ok q, []) := by
  intro m q
  have hordered : (Json.obj m).Ordered := Json.ordered_obj_iff.mpr ⟨by decide, by simp [m]⟩
  obtain ⟨-, -, hread⟩ := queues_of_members hordered
  obtain ⟨-, -, -, hnotices, -, hcontains, hagain⟩ := hread q m rfl rfl
  have hlocal : q.contains "local" "gamess" = true :=
    (hcontains _ _).mpr ⟨[.str "sleep", .str "gamess", .int 3], by simp [m], by simp⟩
  have hcluster : ¬ q.contains "cluster" "gamess" = true := by
    rw [hcontains]
    rintro ⟨items, hitems, hitem⟩
    obtain rfl : items = [] := by simpa [m] using hitems
    cases hitem
  exact ⟨hordered, Prod.ext rfl hnotices, hlocal, hcluster, hagain⟩

end Queues

end RemoteJobs
