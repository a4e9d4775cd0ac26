import RemoteJobs.Envelope.Inbound
import RemoteJobs.Proofs.Json.Ordered

/-!
# What a frame may hold

`Envelope` is the grammar of what comes in: which JSON values are envelopes, and
what they hold. It speaks of the members of an object only, and not of the order
in which the reader looks for them. An envelope may have other members beside
those that it names.

The grammar and the reader agree since the objects of a text have each name
once. So every frame that is no envelope is refused, and all refusals are of one
kind.
-/

namespace RemoteJobs.Inbound

/-- The members name the version of the protocol, or none. -/
def Versioned (m : Keyed Json) : Prop :=
  "jsonrpc" ∉ m.names ∨ ("jsonrpc", .str protocolVersion) ∈ m

inductive Envelope : Json → Inbound → Prop where
  | result {m : Keyed Json} {id : PacketId} {v : Json} : Versioned m →
      ("id", .int id.number) ∈ m → ("result", v) ∈ m → "error" ∉ m.names →
      Envelope (.obj m) (.reply ⟨id, .ok v⟩)
  | error {m : Keyed Json} {id : PacketId} {w : Json} {e : RemoteError} : Versioned m →
      ("id", .int id.number) ∈ m → "result" ∉ m.names → ("error", w) ∈ m →
      RemoteError.decode w = .ok e → Envelope (.obj m) (.reply ⟨id, .error e⟩)
  | notification {m : Keyed Json} {method : String} {params : Json} : Versioned m →
      "id" ∉ m.names ∨ ("id", .null) ∈ m → ("method", .str method) ∈ m →
      ("params", params) ∈ m ∨ "params" ∉ m.names ∧ params = .null →
      Envelope (.obj m) (.notification ⟨method, params⟩)

/-! ## The parts of an envelope -/

section

variable {m : Keyed Json}

theorem checkVersion_eq_ok_iff (h : m.Ordered) : checkVersion m = .ok () ↔ Versioned m := by
  rw [Versioned, ← Keyed.get?_eq_none_iff, ← Keyed.get?_eq_some_iff h, checkVersion]
  split
  · next hv => simp [hv]
  · next t hv =>
      rw [hv]
      by_cases ht : t = protocolVersion
      · simp [ht]
      · simp [ht]
  · next v hne hv =>
      rw [hv]
      have hs : v ≠ .str protocolVersion := fun hs => hne _ hs
      simp [hs]

theorem packetId?_eq_some_iff {v : Json} {id : PacketId} :
    packetId? v = some id ↔ v = .int id.number := by
  have hid : 0 < id.number ∧ id.number < 18446744073709551616 := ⟨id.positive, id.small⟩
  constructor
  · intro h
    cases v with
    | int n =>
        rw [packetId?, PacketId.ofNat?] at h
        split at h
        · next hn =>
            injection h with h
            have hnum : n.toNat = id.number := by rw [← h]
            rw [← hnum, Int.toNat_of_nonneg (by omega)]
        · cases h
    | _ => cases h
  · intro he
    subst he
    rw [packetId?, Int.toNat_natCast, PacketId.ofNat?, dif_pos hid]

theorem ofReply_eq_ok_iff (h : m.Ordered) {id : PacketId} {r : Reply} :
    ofReply m id = .ok r ↔
      (∃ v, ("result", v) ∈ m ∧ "error" ∉ m.names ∧ r = ⟨id, .ok v⟩) ∨
        ∃ w e, "result" ∉ m.names ∧ ("error", w) ∈ m ∧ RemoteError.decode w = .ok e ∧
          r = ⟨id, .error e⟩ := by
  simp only [← Keyed.get?_eq_none_iff, ← Keyed.get?_eq_some_iff h]
  rw [ofReply]
  cases hr : m.get? "result" with
  | some v =>
      cases he : m.get? "error" with
      | none => simp [eq_comm]
      | some w => simp
  | none =>
      cases he : m.get? "error" with
      | some w =>
          cases hd : RemoteError.decode w with
          | ok e => simp [hd, eq_comm]
          | error x => simp [hd]
      | none =>
          dsimp only
          split
          · simp
          · simp

theorem ofNotification_eq_ok_iff (h : m.Ordered) {n : Notification} :
    ofNotification m = .ok n ↔ ("method", .str n.method) ∈ m ∧
      (("params", n.params) ∈ m ∨ "params" ∉ m.names ∧ n.params = .null) := by
  simp only [← Keyed.get?_eq_none_iff, ← Keyed.get?_eq_some_iff h]
  obtain ⟨method, params⟩ := n
  rw [ofNotification]
  split
  · next t ht =>
      rw [ht]
      cases hp : m.get? "params" with
      | none => simp [eq_comm]
      | some v => simp
  · next v hne hv =>
      rw [hv]
      have hs : v ≠ .str method := fun hs => hne _ hs
      simp [hs]
  · next hv =>
      rw [hv]
      split
      · simp
      · simp

/-! ## Whole envelopes -/

theorem ofMembers_of_anonymous (h : m.Ordered) (hv : Versioned m)
    (hid : "id" ∉ m.names ∨ ("id", .null) ∈ m) :
    ofMembers m = (ofNotification m).map .notification := by
  rw [← Keyed.get?_eq_none_iff, ← Keyed.get?_eq_some_iff h] at hid
  rw [ofMembers, (checkVersion_eq_ok_iff h).mpr hv]
  rcases hid with hid | hid
  · simp only [hid]
    cases ofNotification m with
    | ok n => rfl
    | error e => rfl
  · simp only [hid]
    cases ofNotification m with
    | ok n => rfl
    | error e => rfl

theorem ofMembers_of_id (h : m.Ordered) (hv : Versioned m) {id : PacketId}
    (hid : ("id", .int id.number) ∈ m) : ofMembers m = (ofReply m id).map .reply := by
  rw [← Keyed.get?_eq_some_iff h] at hid
  rw [ofMembers, (checkVersion_eq_ok_iff h).mpr hv]
  simp only [hid, packetId?_eq_some_iff.mpr rfl]
  cases ofReply m id with
  | ok r => rfl
  | error e => rfl

/-- What the reader takes has one of the two kinds of ids. -/
theorem id_of_ofMembers (h : m.Ordered) {i : Inbound} (hi : ofMembers m = .ok i) :
    Versioned m ∧ (("id" ∉ m.names ∨ ("id", .null) ∈ m) ∨
      ∃ id : PacketId, ("id", .int id.number) ∈ m) := by
  rw [ofMembers] at hi
  cases hc : checkVersion m with
  | error e =>
      rw [hc] at hi
      cases hi
  | ok u =>
      refine ⟨(checkVersion_eq_ok_iff h).mp hc, ?_⟩
      rw [hc] at hi
      rw [← Keyed.get?_eq_none_iff, ← Keyed.get?_eq_some_iff h]
      simp only [bind, Except.bind] at hi
      split at hi
      · next hid => exact .inl (.inl hid)
      · next hid => exact .inl (.inr hid)
      · next v hne hid =>
          split at hi
          · next id hp =>
              rw [packetId?_eq_some_iff.mp hp] at hid
              exact .inr ⟨id, Keyed.mem_of_get? hid⟩
          · cases hi

/-- The reader takes an object in order exactly if it is an envelope. -/
theorem ofMembers_eq_ok_iff (h : m.Ordered) {i : Inbound} :
    ofMembers m = .ok i ↔ Envelope (.obj m) i := by
  constructor
  · intro hi
    obtain ⟨hv, hid | ⟨id, hid⟩⟩ := id_of_ofMembers h hi
    · rw [ofMembers_of_anonymous h hv hid] at hi
      cases hn : ofNotification m with
      | error e =>
          rw [hn] at hi
          cases hi
      | ok n =>
          rw [hn] at hi
          cases hi
          obtain ⟨hmethod, hparams⟩ := (ofNotification_eq_ok_iff h).mp hn
          exact .notification hv hid hmethod hparams
    · rw [ofMembers_of_id h hv hid] at hi
      cases hr : ofReply m id with
      | error e =>
          rw [hr] at hi
          cases hi
      | ok r =>
          rw [hr] at hi
          cases hi
          rcases (ofReply_eq_ok_iff h).mp hr with ⟨v, hres, herr, rfl⟩ | ⟨w, e, hres, herr, he, rfl⟩
          · exact .result hv hid hres herr
          · exact .error hv hid hres herr he
  · intro hi
    cases hi with
    | result hv hid hres herr =>
        rw [ofMembers_of_id h hv hid, (ofReply_eq_ok_iff h).mpr (.inl ⟨_, hres, herr, rfl⟩)]
        rfl
    | error hv hid hres herr he =>
        rw [ofMembers_of_id h hv hid, (ofReply_eq_ok_iff h).mpr (.inr ⟨_, _, hres, herr, he, rfl⟩)]
        rfl
    | notification hv hid hmethod hparams =>
        rw [ofMembers_of_anonymous h hv hid,
          (ofNotification_eq_ok_iff (n := ⟨_, _⟩) h).mpr ⟨hmethod, hparams⟩]
        rfl

end

theorem ofJson_eq_ok_iff {v : Json} (h : v.Ordered) {i : Inbound} :
    ofJson v = .ok i ↔ Envelope v i := by
  cases h with
  | obj hm _ => exact ofMembers_eq_ok_iff hm
  | _ =>
      constructor
      · intro hi
        cases hi
      · intro hi
        cases hi

theorem decode_eq_ok_iff {frame : Bytes} {i : Inbound} :
    decode frame = .ok i ↔ ∃ v, Json.parse frame = .ok v ∧ Envelope v i := by
  rw [decode]
  cases hp : Json.parse frame with
  | error e =>
      constructor
      · intro hi
        cases hi
      · intro hex
        obtain ⟨v, hv, -⟩ := hex
        cases hv
  | ok v =>
      have hj := ofJson_eq_ok_iff (i := i) (Json.ordered_of_parse hp)
      constructor
      · intro hi
        exact ⟨v, rfl, hj.mp hi⟩
      · intro hex
        obtain ⟨w, hw, hi⟩ := hex
        cases hw
        exact hj.mpr hi

/-- A frame is taken for what the grammar says that it holds. Every other frame
is refused, and a refusal is always that of a malformed frame. -/
theorem decode_iff_envelope (frame : Bytes) :
    (∀ i, decode frame = .ok i ↔ ∃ v, Json.parse frame = .ok v ∧ Envelope v i) ∧
      ((∀ v i, Json.parse frame = .ok v → ¬ Envelope v i) →
        ∃ e text, decode frame = .error e ∧ e.failure = .malformedFrame text) := by
  refine ⟨fun i => decode_eq_ok_iff, fun hnone => ?_⟩
  cases hd : decode frame with
  | ok i =>
      obtain ⟨v, hv, hi⟩ := decode_eq_ok_iff.mp hd
      exact absurd hi (hnone v i hv)
  | error e => exact ⟨e, e.message, rfl, rfl⟩

end RemoteJobs.Inbound
