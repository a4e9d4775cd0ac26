import RemoteJobs.Schema.Record
import RemoteJobs.Proofs.Keyed

/-!
# What the members of a record say

Readings are put together from those of the single fields, and so is what is
known of them: a reading of several fields comes to a value if and only if each
of its parts does, and it looks at those members that its parts look at.

Most decoders are exact: they take one JSON value for each value of their type,
namely the one that is written for it. For such a decoder the members tell what
is read of a field, without a word about the decoder.
-/

namespace RemoteJobs.Schema

variable {α β : Type}

theorem map_eq_ok_iff {r : Except Mismatch α} {f : α → β} {b : β} :
    r.map f = .ok b ↔ ∃ a, r = .ok a ∧ f a = b := by
  cases r with
  | error e => simp [Except.map]
  | ok a => simp [Except.map]

/-! ## Exact decoders -/

namespace Decoder

/-- The decoder takes what is written of a value for that value, and takes
nothing else. -/
def Exact (d : Decoder α) (write : α → Json) : Prop := ∀ v a, d v = .ok a ↔ v = write a

theorem exact_string : string.Exact .str := by
  intro v a
  cases v with
  | str t => simp [string]
  | _ => simp [string]

theorem exact_bool : bool.Exact .bool := by
  intro v a
  cases v with
  | bool b => simp [bool]
  | _ => simp [bool]

theorem exact_integer (lo hi : Int) (wanted : Wanted) :
    (integer lo hi wanted).Exact (.int ·.val) := by
  intro v a
  cases v with
  | int n =>
      rw [integer]
      split
      · simp [Subtype.ext_iff]
      · next hn =>
          have hne : n ≠ a.val := fun he => hn (he ▸ a.property)
          simp [hne]
  | _ => simp [integer]

/-- Another name for the same values. -/
theorem Exact.map {d : Decoder α} {write : α → Json} (h : d.Exact write) {f : α → β} {g : β → α}
    (hf : ∀ b, f (g b) = b) (hg : ∀ a, g (f a) = a) :
    Exact (fun v => (d v).map f) fun b => write (g b) := by
  intro v b
  show (d v).map f = .ok b ↔ v = write (g b)
  simp only [map_eq_ok_iff, h v _]
  constructor
  · rintro ⟨a, rfl, rfl⟩
    rw [hg]
  · rintro rfl
    exact ⟨g b, rfl, hf b⟩

theorem exact_word64 : word64.Exact (.int ·.toNat) := by
  refine (exact_integer 0 18446744073709551615 .word64).map
    (g := fun n : UInt64 => ⟨n.toNat, by have := n.toNat_lt; omega⟩) (fun n => ?_) fun n => ?_
  · exact UInt64.ofNat_toNat
  · have hn := n.property
    ext
    simp only [UInt64.toNat_ofNat']
    omega

theorem exact_word32 : word32.Exact (.int ·.toNat) := by
  refine (exact_integer 0 4294967295 .word32).map
    (g := fun n : UInt32 => ⟨n.toNat, by have := n.toNat_lt; omega⟩) (fun n => ?_) fun n => ?_
  · exact UInt32.ofNat_toNat
  · have hn := n.property
    ext
    simp only [UInt32.toNat_ofNat']
    omega

theorem exact_signed64 : signed64.Exact (.int ·.toInt) := by
  refine (exact_integer (-9223372036854775808) 9223372036854775807 .signed64).map
    (g := fun n : Int64 => ⟨n.toInt, by
      have := n.le_toInt
      have := n.toInt_lt
      omega⟩) (fun n => ?_) fun n => ?_
  · exact Int64.ofInt_toInt n
  · have hn := n.property
    ext
    exact Int64.toInt_ofInt_of_le (by omega) (by omega)

theorem nullable_eq_ok_iff {d : Decoder α} {v : Json} {o : Option α} :
    nullable d v = .ok o ↔ v = .null ∧ o = none ∨ v ≠ .null ∧ ∃ a, d v = .ok a ∧ o = some a := by
  have hmap : (d v).map some = .ok o ↔ ∃ a, d v = .ok a ∧ o = some a := by
    rw [map_eq_ok_iff]
    simp only [eq_comm]
  cases v with
  | null => simp [nullable, eq_comm]
  | _ => simp [nullable, hmap]

end Decoder

/-! ## Parts of a reading

A reading of many fields is taken apart from its last part on; what is said of
its value moves to the values of the parts. -/

section

variable {s : Source} {x : Reading α} {p : β → Prop}

theorem Reading.eq_ok_iff_exists {b : β} {y : Reading β} :
    y.read s = .ok b ↔ ∃ c, y.read s = .ok c ∧ c = b := by
  simp only [exists_eq_right]

theorem Reading.exists_seq {f : Reading (α → β)} : (∃ b, (f <*> x).read s = .ok b ∧ p b) ↔
    ∃ a, x.read s = .ok a ∧ ∃ g, f.read s = .ok g ∧ p (g a) := by
  show (∃ b, (Reading.seq f x).read s = .ok b ∧ p b) ↔ _
  rw [Reading.seq]
  cases hf : f.read s with
  | error e =>
      cases hx : x.read s with
      | error e' => simp [hf, hx]
      | ok a => simp [hf, hx]
  | ok g =>
      cases hx : x.read s with
      | error e' => simp [hf, hx]
      | ok a => simp [hf, hx]

theorem Reading.exists_map {g : α → β} : (∃ b, (g <$> x).read s = .ok b ∧ p b) ↔
    ∃ a, x.read s = .ok a ∧ p (g a) := by
  have hpure : (pure g : Reading (α → β)).read s = .ok g := rfl
  refine (exists_seq (f := pure g)).trans ?_
  simp [hpure]

end

theorem decodeAt_eq_ok_iff {name : String} {place : Nat} {d : Decoder α} {v : Json} {a : α} :
    decodeAt name place d v = .ok a ↔ d v = .ok a := by
  rw [decodeAt]
  split
  · next h => simp [h]
  · next h => simp [h]

theorem required_eq_ok_iff {s : Source} {name : String} {place : Nat} {d : Decoder α} {a : α} :
    (required name place d).read s = .ok a ↔ ∃ v, s.find? name place = some v ∧ d v = .ok a := by
  rw [required]
  cases hs : s.find? name place with
  | none => simp [hs]
  | some v => simp [hs, decodeAt_eq_ok_iff]

theorem optional_eq_ok_iff {s : Source} {name : String} {place : Nat} {absent : α}
    {d : Decoder α} {a : α} : (optional name place absent d).read s = .ok a ↔
      (∃ v, s.find? name place = some v ∧ d v = .ok a) ∨
        s.find? name place = none ∧ a = absent := by
  rw [optional]
  cases hs : s.find? name place with
  | none => simp [hs, eq_comm]
  | some v => simp [hs, decodeAt_eq_ok_iff]

theorem ofMembers_eq_ok_iff {r : Reading α} {m : Keyed Json} {a : α} :
    ofMembers r m = .ok a ↔ r.read (.named m) = .ok a := by
  rw [ofMembers]
  split
  · next h => simp [h]
  · next h => simp [h]
  · next h => simp [h]

theorem ofItems_eq_ok_iff {shape : Shape} {r : Reading α} {items : List Json} {a : α} :
    ofItems shape r items = .ok a ↔
      r.read (.listed items) = .ok a ∧ items.length ≤ shape.size := by
  rw [ofItems]
  split
  · next h =>
      split
      · next hsize => simp [h, hsize]
      · next hsize => simp [hsize]
  · next h => simp [h]
  · next h => simp [h]

/-- What is decoded as a record has been read, whichever way it was written. -/
theorem exists_source_of_record {shape : Shape} {r : Reading α} {v : Json} {a : α}
    (h : record shape r v = .ok a) : ∃ s, r.read s = .ok a := by
  cases v with
  | obj m => exact ⟨.named m, ofMembers_eq_ok_iff.mp h⟩
  | arr items => exact ⟨.listed items, (ofItems_eq_ok_iff.mp h).1⟩
  | _ => cases h

/-! ## What the members say of a field -/

/-- The members give the field its value, or leave it out and the value is the
one that holds in this case. -/
def Given (m : Keyed Json) (name : String) (write : α → Json) (absent a : α) : Prop :=
  m.get? name = some (write a) ∨ m.get? name = none ∧ a = absent

/-- The members give the field its value, if it has one. If it has none there
may be `null` in its place. -/
def GivenIfAny (m : Keyed Json) (name : String) (write : α → Json) (o : Option α) : Prop :=
  m.get? name = o.map write ∨ m.get? name = some .null ∧ o = none

section

variable {m : Keyed Json} {name : String} {place : Nat} {d : Decoder α} {write : α → Json}

theorem read_required_iff (hd : d.Exact write) {a : α} :
    (required name place d).read (.named m) = .ok a ↔ m.get? name = some (write a) := by
  rw [required_eq_ok_iff]
  simp only [hd _ a, exists_eq_right]
  rfl

theorem read_optional_iff (hd : d.Exact write) {absent a : α} :
    (optional name place absent d).read (.named m) = .ok a ↔ Given m name write absent a := by
  rw [optional_eq_ok_iff, Given]
  show (∃ v, m.get? name = some v ∧ d v = .ok a) ∨ _ ↔ _
  simp only [hd _ a, exists_eq_right]
  rfl

theorem read_nullable_iff (hd : d.Exact write) (hnull : ∀ a, write a ≠ .null) {o : Option α} :
    (optional name place none (.nullable d)).read (.named m) = .ok o ↔
      GivenIfAny m name write o := by
  rw [optional_eq_ok_iff, GivenIfAny]
  show (∃ v, m.get? name = some v ∧ _) ∨ m.get? name = none ∧ _ ↔ _
  cases o with
  | none => simp [Decoder.nullable_eq_ok_iff, or_comm]
  | some a =>
      have hv : ∀ v, v ≠ .null ∧ v = write a ↔ v = write a :=
        fun v => ⟨And.right, fun he => ⟨he ▸ hnull a, he⟩⟩
      simp [Decoder.nullable_eq_ok_iff, hd _ _, hv]

end

/-! ## Members that nobody looks at -/

/-- Of the members of an object the reading looks at those with these names. -/
def Reading.LooksAt (names : List String) (x : Reading α) : Prop :=
  ∀ m m' : Keyed Json, (∀ k ∈ names, m.get? k = m'.get? k) → x.read (.named m) = x.read (.named m')

section

variable {names : List String} {name : String} {place : Nat} {d : Decoder α}

theorem looksAt_required (h : name ∈ names) : (required name place d).LooksAt names := by
  intro m m' hm
  have hfind : (Source.named m).find? name place = (Source.named m').find? name place := hm name h
  simp only [required, hfind]

theorem looksAt_optional {absent : α} (h : name ∈ names) :
    (optional name place absent d).LooksAt names := by
  intro m m' hm
  have hfind : (Source.named m).find? name place = (Source.named m').find? name place := hm name h
  simp only [optional, hfind]

/-- Which of two objections the reader comes upon first is a matter of their
names and places alone. -/
theorem sooner_named (m m' : Keyed Json) (a b : Objection) :
    (Source.named m).sooner a b = (Source.named m').sooner a b := by
  cases a with
  | misfit => cases b with | _ => rfl
  | absent => cases b with | _ => rfl

theorem Reading.LooksAt.seq {f : Reading (α → β)} {x : Reading α} (hf : f.LooksAt names)
    (hx : x.LooksAt names) : (f <*> x).LooksAt names := by
  intro m m' hm
  show (Reading.seq f x).read _ = (Reading.seq f x).read _
  simp only [Reading.seq, hf m m' hm, hx m m' hm, sooner_named m m']

theorem Reading.LooksAt.map {g : α → β} {x : Reading α} (hx : x.LooksAt names) :
    (g <$> x).LooksAt names := LooksAt.seq (f := pure g) (fun _ _ _ => rfl) hx

theorem Reading.LooksAt.ofMembers {x : Reading α} (hx : x.LooksAt names) {m m' : Keyed Json}
    (hm : ∀ k ∈ names, m.get? k = m'.get? k) : ofMembers x m = Schema.ofMembers x m' := by
  rw [Schema.ofMembers, Schema.ofMembers, hx m m' hm]

end

/-! ## Members that are written only with a value -/

@[simp] theorem get?_present (name : String) (write : α → Json) (o : Option α) (k : String) :
    Keyed.get? (present name write o) k = if name = k then o.map write else none := by
  cases o with
  | none => simp [present]
  | some a => simp [present]

theorem names_present_sublist (name : String) (write : α → Json) (o : Option α) :
    (Keyed.names (present name write o)).Sublist [name] := by
  cases o with
  | none => exact List.nil_sublist _
  | some a => exact List.Sublist.refl _

end RemoteJobs.Schema
