import RemoteJobs.Envelope.Reader
import RemoteJobs.Proofs.Json.RoundTrip

/-!
# Requests as text and back

The reader of requests goes through the members in the order of the text, in
which a request has its fields in their order. Each member enters its value into
the draft, and at the brace the draft is the request.
-/

namespace RemoteJobs.Request

open Json

/-! ## Keys -/

theorem key_memberTail (e : String × Json) (rest : Bytes) :
    nextKey.key (ascii '"' :: memberTail e rest) =
      .ok (some e.1, ascii ':' :: (e.2.bytes ++ rest)) := by
  rw [nextKey.key, if_pos rfl, memberTail, string_encodeChars]
  rfl

theorem nextKey_memberTail (e : String × Json) (rest : Bytes) :
    nextKey true (ascii '"' :: memberTail e rest) =
      .ok (some e.1, ascii ':' :: (e.2.bytes ++ rest)) := by
  rw [nextKey, skipBlanks_cons rfl]
  exact key_memberTail e rest

theorem nextKey_membersTail (e : String × Json) (es : List (String × Json)) (rest : Bytes) :
    nextKey false (membersTail (e :: es) rest) =
      .ok (some e.1, ascii ':' :: (e.2.bytes ++ membersTail es rest)) := by
  rw [membersTail, nextKey, skipBlanks_cons rfl]
  dsimp only
  rw [if_neg (by decide), if_neg (by decide), if_pos rfl, skipBlanks_cons rfl]
  exact key_memberTail e (membersTail es rest)

theorem nextKey_end (rest : Bytes) :
    nextKey false (membersTail [] rest) = .ok (none, rest) := by
  rw [membersTail, nextKey, skipBlanks_cons rfl]
  rfl

/-! ## Values -/

theorem part_bytes {α : Type} {d : Schema.Decoder α} {v : Json} {a : α} (hv : Scalar v)
    (hd : d v = .ok a) {rest : Bytes} (hrest : Closes rest) :
    part d (v.bytes ++ rest) = .ok (a, rest) := by
  obtain ⟨b, s, hb, hstarts⟩ := hv.exists_bytes
  have hs := scalar_bytes hv hrest
  rw [hb] at hs ⊢
  rw [part, List.cons_append, skipBlanks_cons hstarts.not_blank]
  dsimp only
  rw [if_neg hstarts.ne_list, if_neg hstarts.ne_object]
  rw [List.cons_append] at hs
  rw [hs]
  dsimp only
  rw [part.fit, hd]

theorem whole_bytes {v : Json} (hv : Fits room v) {rest : Bytes} (hrest : Closes rest) :
    whole (v.bytes ++ rest) = .ok (v, rest) := by
  obtain ⟨h, hvalue⟩ := hv.readsBack.reads hrest rfl
  rw [whole, hvalue]
  rfl

theorem fresh_colon {α : Type} {key : String} {read : Bytes → Except Fault (α × Bytes)}
    {put : α → Draft} {s r : Bytes} {a : α} (h : read s = .ok (a, r)) :
    enter.fresh key (ascii ':' :: s) false read put = .ok (put a, r) := by
  have hcolon : takeColon (ascii ':' :: s) = .ok s := by
    rw [takeColon, skipBlanks_cons rfl]
    exact if_pos rfl
  rw [enter.fresh, if_neg (by decide), hcolon]
  dsimp only
  rw [h]
  rfl

/-! ## Members -/

theorem takeMembers_key {d d' : Draft} {first : Bool} {key : String} {s r r' : Bytes}
    (hk : nextKey first s = .ok (some key, r)) (he : enter d key r = .ok (d', r')) :
    takeMembers d first s = takeMembers d' false r' := by
  rw [takeMembers]
  split
  · next hk' =>
      rw [hk] at hk'
      cases hk'
  · next hk' =>
      rw [hk] at hk'
      cases hk'
  · next hk' =>
      rw [hk] at hk'
      cases hk'
      split
      · next he' =>
          rw [he] at he'
          cases he'
      · next he' =>
          rw [he] at he'
          cases he'
          rfl

theorem takeMembers_end {d : Draft} {first : Bool} {q : Request} {s r : Bytes}
    (hk : nextKey first s = .ok (none, r)) (hq : d.request = .ok q) :
    takeMembers d first s = .ok (q, r) := by
  rw [takeMembers]
  split
  · next hk' =>
      rw [hk] at hk'
      cases hk'
  · next hk' =>
      rw [hk] at hk'
      cases hk'
      rw [hq]
  · next hk' =>
      rw [hk] at hk'
      cases hk'

section

variable {d : Draft} {rest : Bytes}

theorem enter_version (hd : d.version = none) (t : String) (hrest : Closes rest) :
    enter d "jsonrpc" (ascii ':' :: ((Json.str t).bytes ++ rest)) =
      .ok ({ d with version := some t }, rest) := by
  rw [enter, if_pos rfl, hd]
  exact fresh_colon (part_bytes (d := .string) (.str t) rfl hrest)

theorem enter_id (hd : d.id = none) (i : PacketId) (hrest : Closes rest) :
    enter d "id" (ascii ':' :: (i.toJson.bytes ++ rest)) =
      .ok ({ d with id := some i }, rest) := by
  have hi : Scalar i.toJson := .int ⟨by omega, by have := i.small; omega⟩
  rw [enter, if_neg (by decide), if_pos rfl, hd]
  exact fresh_colon (part_bytes hi (PacketId.decode_toJson i) hrest)

theorem enter_method (hd : d.method = none) (t : String) (hrest : Closes rest) :
    enter d "method" (ascii ':' :: ((Json.str t).bytes ++ rest)) =
      .ok ({ d with method := some t }, rest) := by
  rw [enter, if_neg (by decide), if_neg (by decide), if_pos rfl, hd]
  exact fresh_colon (part_bytes (d := .string) (.str t) rfl hrest)

theorem enter_params (hd : d.params = none) {v : Json} (hv : Fits room v)
    (hrest : Closes rest) :
    enter d "params" (ascii ':' :: (v.bytes ++ rest)) =
      .ok ({ d with params := some v }, rest) := by
  rw [enter, if_neg (by decide), if_neg (by decide), if_neg (by decide), if_pos rfl, hd]
  exact fresh_colon (whole_bytes hv hrest)

end

theorem take_bytes (q : Request) (h : Fits room q.params) (rest : Bytes) :
    take (q.bytes ++ rest) = .ok (q, rest) := by
  rw [bytes, members, bytes_obj_cons, take, skipBlanks_cons rfl]
  dsimp only
  rw [if_neg (by decide), if_pos (by decide),
    takeMembers_key (nextKey_memberTail _ _) (enter_version rfl _ (closes_membersTail _ _)),
    takeMembers_key (nextKey_membersTail _ _ _) (enter_id rfl _ (closes_membersTail _ _)),
    takeMembers_key (nextKey_membersTail _ _ _) (enter_method rfl _ (closes_membersTail _ _)),
    takeMembers_key (nextKey_membersTail _ _ _) (enter_params rfl h (closes_membersTail _ _))]
  exact takeMembers_end (nextKey_end rest) rfl

/-- A request is read back from its text. -/
theorem parse_bytes (q : Request) (h : Fits room q.params) : parse q.bytes = .ok q := by
  have htake := take_bytes q h []
  rw [List.append_nil] at htake
  rw [parse, htake]
  rfl

end RemoteJobs.Request
