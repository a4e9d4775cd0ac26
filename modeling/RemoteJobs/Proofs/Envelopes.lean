import RemoteJobs.Proofs.Inbound
import RemoteJobs.Proofs.Inbox
import RemoteJobs.Proofs.RemoteError
import RemoteJobs.Proofs.Request

/-!
# Envelopes as text and back

The two sides of a connection understand each other: what one of them writes the
other one reads. The members of an envelope reach the reader in the order of
their names, so what it reads is told by the grammar of envelopes.

A request has an id, but neither a result nor an error; so a client that gets
one, be it its own, drops the frame, and no call and no observer notices.
-/

namespace RemoteJobs

/-! ## Values that fit -/

/-- The members of an object that is put together from values that fit. -/
theorem Json.fits_object {room : Nat} {entries : List (String × Json)}
    (h : ∀ e ∈ entries, Fits room e.2) : Fits (room + 1) (.object entries) :=
  .obj (Keyed.ordered_ofList entries) fun e he => h e (Keyed.mem_of_mem_ofList he)

theorem PacketId.fits_toJson (i : PacketId) (room : Nat) : i.toJson.Fits room :=
  .scalar (.int ⟨by omega, by have := i.small; omega⟩)

theorem Json.fits_str (t : String) (room : Nat) : (Json.str t).Fits room := .scalar (.str t)

theorem RemoteError.fits_toJson {e : RemoteError} {room : Nat}
    (h : ∀ v, e.data = some v → v.Fits room) : e.toJson.Fits (room + 1) := by
  have hcode : (Json.int e.code.toInt).Fits room := by
    have hlo := Int64.le_toInt e.code
    have hhi := Int64.toInt_lt e.code
    exact .scalar (.int ⟨by omega, by omega⟩)
  refine Json.fits_object (List.forall_mem_append.mpr ⟨?_, ?_⟩)
  · simp only [List.forall_mem_cons, List.not_mem_nil, false_implies, implies_true, and_true]
    exact ⟨hcode, Json.fits_str _ _⟩
  · cases hd : e.data with
    | none => exact fun x hx => by cases hx
    | some v =>
        intro x hx
        rw [List.mem_singleton.mp hx]
        exact h v hd

/-! ## Envelopes -/

namespace Inbound

/-- An object is put together for a text if its values leave room for it. -/
theorem decode_object {entries : List (String × Json)}
    (h : ∀ e ∈ entries, e.2.Fits (Json.depth - 1)) {i : Inbound}
    (hi : Envelope (.object entries) i) : decode (Json.object entries).bytes = .ok i :=
  decode_eq_ok_iff.mpr ⟨_, Json.parse_bytes (Json.fits_object h), hi⟩

theorem decode_result (id : PacketId) {v : Json} (hv : v.Fits (Json.depth - 1)) :
    decode (Reply.mk id (.ok v)).envelope.bytes = .ok (.reply ⟨id, .ok v⟩) := by
  have hnodup : ["jsonrpc", "id", "result"].Nodup := by decide
  have herror : "error" ∉ ["jsonrpc", "id", "result"] := by decide
  refine decode_object ?_ (.result (.inr ?_) ?_ ?_ ?_)
  · simp only [List.forall_mem_cons, List.not_mem_nil, false_implies, implies_true, and_true]
    exact ⟨Json.fits_str _ _, id.fits_toJson _, hv⟩
  · exact Keyed.mem_ofList_of_mem hnodup (.head _)
  · exact Keyed.mem_ofList_of_mem hnodup (.tail _ (.head _))
  · exact Keyed.mem_ofList_of_mem hnodup (.tail _ (.tail _ (.head _)))
  · exact Keyed.not_mem_names_ofList herror

theorem decode_error (id : PacketId) {e : RemoteError}
    (he : ∀ v, e.data = some v → v.Fits (Json.depth - 2)) :
    decode (Reply.mk id (.error e)).envelope.bytes = .ok (.reply ⟨id, .error e.withoutNull⟩) := by
  have hnodup : ["jsonrpc", "id", "error"].Nodup := by decide
  have hresult : "result" ∉ ["jsonrpc", "id", "error"] := by decide
  refine decode_object ?_ (.error (.inr ?_) ?_ ?_ ?_ (RemoteError.decode_toJson e))
  · simp only [List.forall_mem_cons, List.not_mem_nil, false_implies, implies_true, and_true]
    exact ⟨Json.fits_str _ _, id.fits_toJson _, RemoteError.fits_toJson he⟩
  · exact Keyed.mem_ofList_of_mem hnodup (.head _)
  · exact Keyed.mem_ofList_of_mem hnodup (.tail _ (.head _))
  · exact Keyed.not_mem_names_ofList hresult
  · exact Keyed.mem_ofList_of_mem hnodup (.tail _ (.tail _ (.head _)))

theorem decode_notification {n : Notification} (hn : n.params.Fits (Json.depth - 1)) :
    decode n.envelope.bytes = .ok (.notification n) := by
  have hnodup : ["jsonrpc", "method", "params"].Nodup := by decide
  have hid : "id" ∉ ["jsonrpc", "method", "params"] := by decide
  refine decode_object ?_ (.notification (.inr ?_) (.inl ?_) ?_ (.inl ?_))
  · simp only [Notification.members, List.forall_mem_cons, List.not_mem_nil, false_implies,
      implies_true, and_true]
    exact ⟨Json.fits_str _ _, Json.fits_str _ _, hn⟩
  · exact Keyed.mem_ofList_of_mem hnodup (.head _)
  · exact Keyed.not_mem_names_ofList hid
  · exact Keyed.mem_ofList_of_mem hnodup (.tail _ (.head _))
  · exact Keyed.mem_ofList_of_mem hnodup (.tail _ (.tail _ (.head _)))

/-- A request is no envelope from a server. -/
theorem decode_request {q : Request} (hversion : q.version = protocolVersion)
    (hq : q.params.Fits (Json.depth - 1)) : decode q.bytes = .error (.request q.id) := by
  have hfits : ∀ e ∈ q.members, e.2.Fits (Json.depth - 1) := by
    simp only [Request.members, List.forall_mem_cons, List.not_mem_nil, false_implies,
      implies_true, and_true]
    exact ⟨Json.fits_str _ _, q.id.fits_toJson _, Json.fits_str _ _, hq⟩
  have hnodup : ["jsonrpc", "id", "method", "params"].Nodup := by decide
  have hresult : "result" ∉ ["jsonrpc", "id", "method", "params"] := by decide
  have herror : "error" ∉ ["jsonrpc", "id", "method", "params"] := by decide
  have hordered := Keyed.ordered_ofList q.members
  have hmem : ∀ {e : String × Json}, e ∈ q.members → e ∈ Keyed.ofList q.members := fun he =>
    Keyed.mem_ofList_of_mem hnodup he
  have hmethod : (Keyed.ofList q.members).get? "method" = some (.str q.method) :=
    (Keyed.get?_eq_some_iff hordered).mpr (hmem (.tail _ (.tail _ (.head _))))
  have hreply : ofReply (Keyed.ofList q.members) q.id = .error (.request q.id) := by
    rw [ofReply, Keyed.get?_eq_none_iff.mpr (Keyed.not_mem_names_ofList hresult),
      Keyed.get?_eq_none_iff.mpr (Keyed.not_mem_names_ofList herror), hmethod]
    rfl
  rw [decode, Request.bytes, Json.parse_obj_bytes hfits]
  show ofMembers _ = _
  rw [ofMembers_of_id hordered (.inr (hversion ▸ hmem (.head _))) (hmem (.tail _ (.head _))),
    hreply]
  rfl

end Inbound

/-- What each side writes, the other side reads, whatever the texts and values in
it are, as long as the values can be written to a text and read back. The bytes
of a request are no frame from a server: a client drops them and stays what it
is. -/
theorem envelopes_round_trip (id : PacketId) (method : String) :
    (∀ params : Json, params.Fits (Json.depth - 1) →
      Request.parse (Request.call id method params).bytes = .ok (Request.call id method params) ∧
      Inbound.decode (Request.call id method params).bytes = .error (.request id) ∧
      ∀ {μ : Type} (c : Scene (Desk μ)), Inbox.handle c (Request.call id method params).bytes =
        c.tell [.frameDropped (.malformedFrame (Malformation.request id).message)
          (Request.call id method params).bytes.length]) ∧
    (∀ v : Json, v.Fits (Json.depth - 1) →
      Inbound.decode (Reply.mk id (.ok v)).envelope.bytes = .ok (.reply ⟨id, .ok v⟩)) ∧
    (∀ e : RemoteError, (∀ v, e.data = some v → v.Fits (Json.depth - 2)) →
      Inbound.decode (Reply.mk id (.error e)).envelope.bytes =
        .ok (.reply ⟨id, .error e.withoutNull⟩)) ∧
    ∀ params : Json, params.Fits (Json.depth - 1) →
      Inbound.decode (Notification.mk method params).envelope.bytes =
        .ok (.notification ⟨method, params⟩) := by
  refine ⟨fun params hparams => ⟨?_, ?_, fun c => ?_⟩, fun v hv => ?_, fun e he => ?_,
    fun params hparams => ?_⟩
  · exact Request.parse_bytes _ hparams
  · exact Inbound.decode_request rfl hparams
  · rw [Inbox.handle, Inbound.decode_request rfl hparams]
    rfl
  · exact Inbound.decode_result id hv
  · exact Inbound.decode_error id he
  · exact Inbound.decode_notification hparams

/-- The params have members with names of an envelope's own, and the smallest
integer; the method has quotes, a control character and a character outside the
basic plane. -/
theorem envelopes_round_trip_of_nested_members :
    let method := "say \"\x01\" 😀"
    let params := Json.obj [("error", .null), ("id", .arr [.int (-9223372036854775808)]),
      ("result", .obj [])]
    let e : RemoteError := ⟨-32601, method, some .null⟩
    Request.parse (Request.call .first method params).bytes = .ok (.call .first method params) ∧
      Inbound.decode (Reply.mk .first (.ok params)).envelope.bytes =
        .ok (.reply ⟨.first, .ok params⟩) ∧
      Inbound.decode (Reply.mk .first (.error e)).envelope.bytes =
        .ok (.reply ⟨.first, .error ⟨-32601, method, none⟩⟩) := by
  intro method params e
  have hlist : Json.Fits 125 (.arr [.int (-9223372036854775808)]) := by
    refine .arr fun v hv => ?_
    rw [List.mem_singleton.mp hv]
    exact .scalar (.int ⟨by decide, by decide⟩)
  have hparams : params.Fits (Json.depth - 1) := by
    have hordered : ["error", "id", "result"].Pairwise (· < ·) := by decide
    refine Json.Fits.obj hordered ?_
    simp only [List.forall_mem_cons, List.not_mem_nil, false_implies, implies_true, and_true]
    exact ⟨.scalar .null, hlist, .obj .nil fun _ h => by cases h⟩
  have hdata : ∀ v, e.data = some v → v.Fits (Json.depth - 2) := by
    intro v hv
    cases hv
    exact .scalar .null
  obtain ⟨hrequest, hresult, herror, -⟩ := envelopes_round_trip .first method
  exact ⟨(hrequest params hparams).1, hresult params hparams, herror e hdata⟩

end RemoteJobs
