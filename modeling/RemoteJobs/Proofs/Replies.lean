import Mathlib.Data.List.Perm.Basic
import RemoteJobs.Proofs.Inbox
import RemoteJobs.Proofs.Slots.Commute

/-!
# Replies in any order

Frames with replies to different calls are acts on different slots, so they may
come in any order: the table is the same after them, and every call that waits
comes back with the same, whoever waits first. A call comes back with the reply
that has been in its slot before, or else with the one that the frames bring; a
call without a slot comes back with nothing, even if they bring a reply for it.
-/

namespace RemoteJobs

theorem Inbound.reply?_eq_some_iff {frame : Bytes} {r : Reply} :
    Inbound.reply? frame = some r ↔ Inbound.decode frame = .ok (.reply r) := by
  unfold Inbound.reply?
  split
  · next r' h =>
      rw [h]
      simp
  · next h =>
      constructor
      · intro hr
        cases hr
      · intro hr
        exact absurd hr (h r)

theorem Inbound.replyTo_eq_bind (id : PacketId) (frame : Bytes) :
    Inbound.replyTo id frame = (Inbound.reply? frame).bind (·.to? id) := by
  unfold Inbound.replyTo Inbound.reply?
  split
  · rfl
  · rfl

/-- The reply goes into its slot. -/
def Reply.act (r : Reply) : Slots.Act := .store r.id r

theorem Reply.apart_acts {rs : List Reply} (h : (rs.map Reply.id).Nodup) :
    (rs.map Reply.act).Pairwise Slots.Act.Apart := Slots.apart_map (fun _ => rfl) h

namespace Slots

theorem closed_acts (s : Slots) (rs : List Reply) :
    (s.run (rs.map Reply.act)).closed = s.closed := by
  induction rs generalizing s with
  | nil => rfl
  | cons r rs ih => exact (ih (s.fill r).2).trans (closed_fill s r)

theorem find?_acts (s : Slots) (rs : List Reply) (id : PacketId) :
    (s.run (rs.map Reply.act)).find? id =
      (s.find? id).map (·.or (rs.findSome? (·.to? id))) := by
  induction rs generalizing s with
  | nil => exact (map_or_none _).symm
  | cons r rs ih =>
      have hrest := ih (s.fill r).2
      rw [find?_fill] at hrest
      rw [List.findSome?_cons]
      refine hrest.trans ?_
      cases s.find? id with
      | none => rfl
      | some o =>
          cases o with
          | some r' => rfl
          | none =>
              cases r.to? id with
              | none => rfl
              | some r' => rfl

/-- What a call comes back with that waits for its reply when these frames have
come. -/
def foundAfter (s : Slots) (fs : List Bytes) (id : PacketId) : Finding :=
  match s.find? id with
  | none => .nothing
  | some (some r) => .reply r
  | some none =>
    match fs.findSome? (Inbound.replyTo id) with
    | some r => .reply r
    | none => .nothing

theorem look_foundAfter {s t : Slots} {fs : List Bytes} {id : PacketId}
    (h : t.find? id = (s.find? id).map (·.or (fs.findSome? (Inbound.replyTo id)))) :
    (t.look id true).1 = s.foundAfter fs id := by
  rw [foundAfter]
  cases hs : s.find? id with
  | none =>
      rw [hs] at h
      rw [look_of_none h]
  | some o =>
      rw [hs] at h
      cases o with
      | some r => rw [look_of_reply h]
      | none =>
          cases hr : fs.findSome? (Inbound.replyTo id) with
          | none =>
              rw [hr] at h
              rw [look_expired h]
          | some r =>
              rw [hr] at h
              rw [look_of_reply h]

end Slots

namespace Inbox

variable {μ : Type} {c : Scene (Desk μ)}

/-- Replies only fill slots. -/
theorem foldl_handle_replies {fs : List Bytes} (h : ∀ f ∈ fs, (Inbound.reply? f).isSome) :
    (fs.foldl handle c).state =
        ⟨c.state.slots.run ((fs.filterMap Inbound.reply?).map Reply.act), c.state.memory⟩ ∧
      (fs.foldl handle c).observers = c.observers := by
  induction fs generalizing c with
  | nil => exact ⟨rfl, rfl⟩
  | cons f fs ih =>
      obtain ⟨hf, hfs⟩ := List.forall_mem_cons.mp h
      obtain ⟨r, hr⟩ := Option.isSome_iff_exists.mp hf
      have hd := Inbound.reply?_eq_some_iff.mp hr
      obtain ⟨hstate, hobservers⟩ := ih (c := handle c f) hfs
      rw [state_handle_reply hd] at hstate
      rw [observers_handle_reply hd] at hobservers
      rw [List.filterMap_cons_some hr]
      exact ⟨hstate, hobservers⟩

theorem findSome?_replyTo (fs : List Bytes) (id : PacketId) :
    (fs.filterMap Inbound.reply?).findSome? (·.to? id) = fs.findSome? (Inbound.replyTo id) := by
  induction fs with
  | nil => rfl
  | cons f fs ih =>
      rw [List.findSome?_cons, Inbound.replyTo_eq_bind]
      cases hr : Inbound.reply? f with
      | none =>
          rw [List.filterMap_cons_none hr]
          exact ih
      | some r =>
          rw [List.filterMap_cons_some hr, List.findSome?_cons, ih]
          rfl

/-- Frames bring replies to different calls. Whatever is in the slots, and open
or closed, the table is the same in whatever order the frames come. Then calls
for different replies wait, each looking at its slot as often as it likes before
its time is over: a call comes back with the reply that has been in its slot
before, or else with the one that the frames bring, or else, or if it has no
slot, with nothing, whoever waits first; and the table after them is the same.

More generally, to fill a slot, to look at it or to remove it may change places
with any such act on another slot, in what the threads are told and in what is
left of the table. To make a slot may change places with it if the table is
closed, or has room before as well as after, or no slot is taken away, and in no
other case. -/
theorem findings_of_replies {fs : List Bytes} (hreplies : ∀ f ∈ fs, (Inbound.reply? f).isSome)
    (hids : ((fs.filterMap Inbound.reply?).map Reply.id).Nodup) :
    (∀ fs' : List Bytes, fs'.Perm fs →
        (fs'.foldl handle c).state = (fs.foldl handle c).state ∧
          (fs'.foldl handle c).observers = (fs.foldl handle c).observers) ∧
      (let s := c.state.slots
        let t := (fs.foldl handle c).state.slots
        t.closed = s.closed ∧
          (∀ id, t.find? id = (s.find? id).map (·.or (fs.findSome? (Inbound.replyTo id)))) ∧
          ∀ ws : List (PacketId × Nat), (ws.map Prod.fst).Nodup →
            (t.waitAll ws).1 = ws.map (fun w => s.foundAfter fs w.1) ∧
            ∀ ws' : List (PacketId × Nat), ws'.Perm ws →
              (t.waitAll ws').1 = ws'.map (fun w => s.foundAfter fs w.1) ∧
                (t.waitAll ws').2 = (t.waitAll ws).2) ∧
      ∀ (s : Slots) (i j : PacketId) (b : Slots.Act), i ≠ j → b.slot? = some j →
        (∀ a : Slots.Act, a.slot? = some i → Slots.Commute s a b) ∧
        (Slots.Commute s (.register i) b ↔
          s.closed = true ∨ s.size < s.capacity ∨ (s.act b).2.size = s.size) := by
  obtain ⟨hstate, hobservers⟩ := foldl_handle_replies (c := c) hreplies
  refine ⟨fun fs' hperm => ?_, ?_, fun s i j b hij hb => ?_⟩
  · have hreplies' : ∀ f ∈ fs', (Inbound.reply? f).isSome :=
      fun f hf => hreplies f (hperm.mem_iff.mp hf)
    obtain ⟨hstate', hobservers'⟩ := foldl_handle_replies (c := c) hreplies'
    have hacts := (hperm.filterMap Inbound.reply?).map Reply.act
    rw [hstate, hstate', Slots.run_perm (Reply.apart_acts hids) hacts]
    exact ⟨rfl, hobservers'.trans hobservers.symm⟩
  · intro s t
    have ht : t = s.run ((fs.filterMap Inbound.reply?).map Reply.act) :=
      congrArg Desk.slots hstate
    have hfind : ∀ id, t.find? id =
        (s.find? id).map (·.or (fs.findSome? (Inbound.replyTo id))) := by
      intro id
      rw [ht, Slots.find?_acts, findSome?_replyTo]
    have hfound : ∀ ws : List (PacketId × Nat), (ws.map Prod.fst).Nodup →
        (t.waitAll ws).1 = ws.map fun w => s.foundAfter fs w.1 := by
      intro ws hws
      rw [Slots.waitAll_eq hws]
      exact List.map_congr_left fun w _ => Slots.look_foundAfter (hfind w.1)
    refine ⟨by rw [ht, Slots.closed_acts], hfind, fun ws hws => ⟨hfound ws hws, ?_⟩⟩
    intro ws' hperm
    have hws' : (ws'.map Prod.fst).Nodup := (hperm.map Prod.fst).nodup_iff.mpr hws
    refine ⟨hfound ws' hws', ?_⟩
    rw [Slots.waitAll_eq hws', Slots.waitAll_eq hws]
    exact Slots.run_perm (Slots.apart_looks hws) (hperm.map _) t
  · exact ⟨fun a ha => Slots.commute_of_ne ha hb hij s, Slots.commute_register_iff hb hij s⟩

/-- Replies to three calls. The first call has had its reply before, the second
has none, and the third has no slot any more. -/
theorem findings_of_three_replies :
    let second := PacketId.first.successor
    let third := second.successor
    let c : Scene (Desk Unit) :=
      { state := ⟨⟨4, false, [(.first, some ⟨.first, .ok .null⟩), (second, none)]⟩, ()⟩ }
    let one := Utf8.encode "\x7b\"id\":1,\"result\":7\x7d"
    let two := Utf8.encode "\x7b\"id\":2,\"result\":7\x7d"
    let three := Utf8.encode "\x7b\"id\":3,\"result\":7\x7d"
    let t := ([three, one, two].foldl handle c).state.slots
    ([two, three, one].foldl handle c).state.slots = t ∧
      (t.waitAll [(third, 0), (second, 2), (.first, 1)]).1 =
        [.nothing, .reply ⟨second, .ok (.int 7)⟩, .reply ⟨.first, .ok .null⟩] ∧
      Slots.Commute t (.register third) (.remove second) := by
  intro second third c one two three t
  have hreplies : ∀ f ∈ [three, one, two], (Inbound.reply? f).isSome := by
    simp only [List.forall_mem_cons, List.not_mem_nil, false_implies, implies_true, and_true]
    exact ⟨by with_unfolding_all rfl, by with_unfolding_all rfl, by with_unfolding_all rfl⟩
  have hthree : ([three, one, two].filterMap Inbound.reply?).map Reply.id =
      [third, .first, second] := by
    with_unfolding_all rfl
  have hids : (([three, one, two].filterMap Inbound.reply?).map Reply.id).Nodup := by
    rw [hthree]
    decide
  obtain ⟨horder, ⟨-, -, hwaits⟩, hcommute⟩ := findings_of_replies (c := c) hreplies hids
  have hperm : [two, three, one].Perm [three, one, two] :=
    List.perm_append_singleton two [three, one] |>.symm
  refine ⟨congrArg Desk.slots (horder _ hperm).1, ?_, ?_⟩
  · rw [(hwaits _ (by decide)).1]
    with_unfolding_all rfl
  · exact (hcommute t third second (.remove second) (by decide) rfl).2.mpr
      (.inr (.inl (by with_unfolding_all decide)))

/-- A reply to a call without a slot is lost: the call comes back with nothing,
and not with the reply that the frame brings. -/
theorem finding_without_slot :
    let c : Scene (Desk Unit) := { state := ⟨.empty 1, ()⟩ }
    let frame := Utf8.encode "\x7b\"id\":1,\"result\":7\x7d"
    let r : Reply := ⟨.first, .ok (.int 7)⟩
    Inbound.replyTo .first frame = some r ∧
      c.state.slots.find? .first = none ∧
      (([frame].foldl handle c).state.slots.wait .first 0).1 = .nothing ∧
      (([frame].foldl handle c).state.slots.wait .first 0).1 ≠ .reply r := by
  intro c frame r
  have hwait : (([frame].foldl handle c).state.slots.wait .first 0).1 = .nothing := by
    with_unfolding_all rfl
  refine ⟨by with_unfolding_all rfl, rfl, hwait, ?_⟩
  rw [hwait]
  intro h
  cases h

end Inbox

end RemoteJobs
