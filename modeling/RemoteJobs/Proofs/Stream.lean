import RemoteJobs.Client.Memory
import RemoteJobs.Client.Socket
import RemoteJobs.Proofs.Frame.Codec
import RemoteJobs.Proofs.Observer.Alike
import RemoteJobs.Proofs.Observer.Keeps

/-!
# Clients on a stream

As long as its client does not disconnect, the thread of a socket is a reader of
frames and nothing else: it reports the payloads that the reader gives, each with
the reader between two frames, and it reports that it has stopped where the
reader stops. So what a stream does to the client is seen from the stream as a
whole, cut into frames, and not from the pieces in which it comes.

The thread never reports anything behind the report that it has stopped, and at
the end of the stream that report has been made.

A payload that is handed on is handled as one that a channel in memory hands
over, and clients that differ in their links only stay alike.
-/

namespace RemoteJobs

namespace Client

variable {N : Type} {c : Client Socket N}

/-- The client with its reader at another place. -/
def withReader (c : Client Socket N) (reader : Frame.Reader) : Client Socket N :=
  c.withLink fun k => { k with reader }

theorem withReader_withReader (c : Client Socket N) (r r' : Frame.Reader) :
    (c.withReader r).withReader r' = c.withReader r' := rfl

theorem withReader_self {r : Frame.Reader} (h : c.session.link.reader = r) :
    c.withReader r = c := by
  rw [← h]
  rfl

/-! ## The thread at rest -/

/-- A frame comes back from the observers of a client that is still connected
with the thread as it was. -/
theorem Stays.handOn (h : c.Stays Socket.reading) (hidle : c.session.link.handling = false)
    (p : Bytes) : Session.Stays Socket.reading c.session (c.handOn p).session ∧
      (c.handOn p).Stays Socket.reading := by
  obtain ⟨hstays, hnext⟩ :=
    Stays.handle (c := c.withLink fun k => { k with handling := true }) h p
  refine ⟨fun hconnected => ?_, hnext⟩
  obtain ⟨hbefore, hlink⟩ := hstays hconnected
  have hback : (c.handOn p).session.link.reading =
      { c.session.link with handling := false, sent := [] } :=
    congrArg (fun k : Socket => { k with handling := false }) hlink
  refine ⟨hbefore, ?_⟩
  rw [hback, ← hidle]
  rfl

/-- A client that has disconnected does not come back. -/
theorem Stays.connected_of_handOn (h : c.Stays Socket.reading)
    (hidle : c.session.link.handling = false) {ps : List Bytes}
    (hps : (ps.foldl Client.handOn c).session.connected = true) : c.session.connected = true := by
  induction ps generalizing c with
  | nil => exact hps
  | cons p ps ih =>
      obtain ⟨hstays, hnext⟩ := h.handOn hidle p
      exact (hstays (ih hnext rfl hps)).1

/-- The thread reads and hands on no frame, and it stays as it is as long as no
observer disconnects the client. -/
structure Listening (c : Client Socket N) : Prop where
  connected : c.session.connected = true
  running : c.session.link.running = true
  idle : c.session.link.handling = false
  stays : c.Stays Socket.reading

namespace Listening

theorem withReader (h : c.Listening) (r : Frame.Reader) : (c.withReader r).Listening :=
  ⟨h.connected, h.running, h.idle, h.stays⟩

section

variable {p : Bytes} {ps : List Bytes} (h : c.Listening)
  (hps : (ps.foldl Client.handOn (c.handOn p)).session.connected = true)

include h hps

theorem reading_handOn : (c.handOn p).session.link.reading = c.session.link.reading := by
  obtain ⟨hstays, hnext⟩ := h.stays.handOn h.idle p
  exact (hstays (hnext.connected_of_handOn rfl hps)).2

/-- After a payload has been handed on the thread listens again. -/
theorem handOn : (c.handOn p).Listening := by
  obtain ⟨-, hnext⟩ := h.stays.handOn h.idle p
  have hrunning := congrArg Socket.running (h.reading_handOn hps)
  exact ⟨hnext.connected_of_handOn rfl hps, hrunning.trans h.running, rfl, hnext⟩

theorem reader_handOn : (c.handOn p).session.link.reader = c.session.link.reader := by
  have hreader := congrArg Socket.reader (h.reading_handOn hps)
  exact hreader

theorem limit_handOn : (c.handOn p).session.link.limit = c.session.link.limit := by
  have hlimit := congrArg Socket.limit (h.reading_handOn hps)
  exact hlimit

end

theorem foldl_handOn (h : c.Listening) {ps : List Bytes}
    (hps : (ps.foldl Client.handOn c).session.connected = true) :
    (ps.foldl Client.handOn c).Listening := by
  induction ps generalizing c with
  | nil => exact h
  | cons p ps ih => exact ih (h.handOn hps) hps

end Listening

/-! ## What the thread reports -/

/-- What the thread reports while it reads bytes. -/
def reports (c : Client Socket N) : Bytes → List Socket.Report
  | [] => []
  | b :: s => (c.session.link.take b).1.toList ++ (c.receiveByte b).reports s

/-- What the thread reports of the place where its reader has come to. -/
def verdict : Frame.Reader → List Socket.Report
  | .stopped reason => [.closed (some reason)]
  | _ => []

/-! ## A thread that has stopped -/

section

variable (h : c.session.link.running = false)

include h

theorem receiveByte_of_stopped (b : UInt8) :
    c.session.link.take b = (none, c.session.link) ∧ c.receiveByte b = c := by
  have htake : c.session.link.take b = (none, c.session.link) := if_neg (ne_true_of_eq_false h)
  refine ⟨htake, ?_⟩
  rw [receiveByte, follow, htake]
  rfl

theorem endStream_of_stopped :
    c.session.link.finish = (none, c.session.link) ∧ c.endStream = c := by
  have hfinish : c.session.link.finish = (none, c.session.link) := if_neg (ne_true_of_eq_false h)
  refine ⟨hfinish, ?_⟩
  rw [endStream, follow, hfinish]
  rfl

theorem receive_of_stopped (s : Bytes) : c.reports s = [] ∧ c.receive s = c := by
  induction s with
  | nil => exact ⟨rfl, rfl⟩
  | cons b s ih =>
      obtain ⟨htake, hb⟩ := receiveByte_of_stopped h b
      rw [reports, receive, List.foldl_cons, htake, hb]
      exact ih

end

/-! ## Reading -/

/-- The pieces in which a stream comes make no difference. -/
theorem foldl_receive (c : Client Socket N) (chunks : List Bytes) :
    chunks.foldl receive c = c.receive chunks.flatten := by
  induction chunks generalizing c with
  | nil => rfl
  | cons s chunks ih =>
      rw [List.foldl_cons, ih, List.flatten_cons, receive, receive, receive, List.foldl_append]

/-- The client whose thread has stopped with this reader: it is told what is
wrong with the stream, and the slots are closed. -/
def stoppedAt (c : Client Socket N) (reader : Frame.Reader) : Client Socket N :=
  Inbox.hangUp ((c.withLink fun k => { k with reader, running := false }).tell
    (reader.close.toList.map .readFailed))

/-- The client where its reader has come to, which has heard of it if the reader
is stopped. -/
def settleAt (c : Client Socket N) (reader : Frame.Reader) : Client Socket N :=
  match reader with
  | .stopped _ => c.stoppedAt reader
  | _ => c.withReader reader

theorem settleAt_going {r : Frame.Reader} (h : ∀ reason, r ≠ .stopped reason)
    (c : Client Socket N) : verdict r = [] ∧ c.settleAt r = c.withReader r := by
  cases r with
  | header got => exact ⟨rfl, rfl⟩
  | payload missing got => exact ⟨rfl, rfl⟩
  | stopped reason => exact absurd rfl (h reason)

theorem receiveByte_none (h : c.session.link.running = true) {b : UInt8} {r : Frame.Reader}
    (ht : c.session.link.reader.take c.session.link.limit b = (r, none)) :
    (c.session.link.take b).1.toList = verdict r ∧ c.receiveByte b = c.settleAt r := by
  rw [receiveByte, follow, Socket.take, if_pos h, ht]
  cases r with
  | header got => exact ⟨rfl, rfl⟩
  | payload missing got => exact ⟨rfl, rfl⟩
  | stopped reason => exact ⟨rfl, rfl⟩

theorem receiveByte_some (h : c.session.link.running = true) {b : UInt8} {p : Bytes}
    (ht : c.session.link.reader.take c.session.link.limit b = (.start, some p)) :
    (c.session.link.take b).1.toList = [.frame p] ∧
      c.receiveByte b = (c.withReader .start).handOn p := by
  rw [receiveByte, follow, Socket.take, if_pos h, ht]
  exact ⟨rfl, rfl⟩

/-- The thread reports what its reader gives, and the client hands it on. -/
theorem receive_eq (h : c.Listening) {r : Frame.Reader} {limit : Nat}
    (hr : c.session.link.reader = r) (hlimit : c.session.link.limit = limit)
    (hgoing : ∀ reason, r ≠ .stopped reason) (s : Bytes)
    (hs : ((Frame.Reader.feed limit r s).2.foldl handOn (c.withReader .start)).session.connected =
      true) :
    c.reports s =
        (Frame.Reader.feed limit r s).2.map .frame ++ verdict (Frame.Reader.feed limit r s).1 ∧
      c.receive s =
        ((Frame.Reader.feed limit r s).2.foldl handOn (c.withReader .start)).settleAt
          (Frame.Reader.feed limit r s).1 := by
  induction s generalizing c r with
  | nil =>
      obtain ⟨hverdict, hsettle⟩ := settleAt_going hgoing (c.withReader .start)
      rw [Frame.Reader.feed, List.foldl_nil, hsettle, hverdict, withReader_withReader,
        withReader_self hr]
      exact ⟨rfl, rfl⟩
  | cons b s ih =>
      have ht : c.session.link.reader.take c.session.link.limit b = r.take limit b := by
        rw [hr, hlimit]
      rw [Frame.Reader.feed] at hs ⊢
      rw [reports, receive, List.foldl_cons]
      cases htake : r.take limit b with
      | mk r' p? =>
          rw [htake] at ht hs
          cases p? with
          | some p =>
              have hstart := Frame.Reader.take_start (congrArg (·.2) htake)
              rw [htake] at hstart
              cases hstart
              have hlistening := h.withReader .start
              have hreader : ((c.withReader .start).handOn p).session.link.reader = .start :=
                hlistening.reader_handOn hs
              have hnext := hlistening.handOn hs
              have hlimit' := (hlistening.limit_handOn hs).trans hlimit
              obtain ⟨hreport, hbyte⟩ := receiveByte_some h.running ht
              rw [hreport, hbyte]
              have hrest := ih hnext hreader hlimit' (fun _ hstopped => by cases hstopped)
              rw [withReader_self hreader] at hrest
              obtain ⟨hreports, hreceive⟩ := hrest hs
              rw [hreports]
              exact ⟨rfl, hreceive⟩
          | none =>
              obtain ⟨hreport, hbyte⟩ := receiveByte_none h.running ht
              rw [hreport, hbyte]
              by_cases hstop : ∃ reason, r' = .stopped reason
              · -- Neither the reader nor the thread does anything with what follows.
                obtain ⟨reason, rfl⟩ := hstop
                simp only [Frame.Reader.feed_stopped]
                obtain ⟨hreports, hreceive⟩ :=
                  receive_of_stopped (c := c.settleAt (.stopped reason)) rfl s
                rw [hreports]
                exact ⟨rfl, hreceive⟩
              · have hgoing' : ∀ reason, r' ≠ .stopped reason := not_exists.mp hstop
                obtain ⟨hverdict, hsettle⟩ := settleAt_going hgoing' c
                rw [hverdict, hsettle]
                exact ih (h.withReader r') rfl hlimit hgoing' hs

/-! ## A whole stream -/

/-- The client where a stream with this tail ends or breaks off, behind reports
that its thread has made before. -/
theorem settleAt_reader (c : Client Socket N) (limit : Nat) (before : List Socket.Report)
    (tail : Frame.Tail) :
    match tail with
    | .oversized _ =>
      before ++ verdict (tail.reader limit) = before ++ [.closed (tail.reader limit).close] ∧
        c.settleAt (tail.reader limit) = c.stoppedAt (tail.reader limit)
    | _ =>
      before ++ verdict (tail.reader limit) = before ∧
        c.settleAt (tail.reader limit) = c.withReader (tail.reader limit) := by
  cases tail with
  | header rest => exact ⟨List.append_nil before, rfl⟩
  | payload length rest => exact ⟨List.append_nil before, rfl⟩
  | oversized length => exact ⟨rfl, rfl⟩

/-- At the end of the stream the thread has stopped, and has reported so once. -/
theorem endStream_settleAt (h : c.session.link.running = true) (r : Frame.Reader) :
    verdict r ++ (c.settleAt r).session.link.finish.1.toList = [.closed r.close] ∧
      (c.settleAt r).endStream = c.stoppedAt r := by
  by_cases hstop : ∃ reason, r = .stopped reason
  · obtain ⟨reason, rfl⟩ := hstop
    obtain ⟨hfinish, hend⟩ := endStream_of_stopped (c := c.settleAt (.stopped reason)) rfl
    rw [hfinish, hend]
    exact ⟨rfl, rfl⟩
  · obtain ⟨hverdict, hsettle⟩ := settleAt_going (not_exists.mp hstop) c
    have hfinish : (c.withReader r).session.link.finish =
        (some (.closed r.close), { c.session.link with reader := r, running := false }) :=
      if_pos h
    rw [hverdict, hsettle, endStream, follow, hfinish]
    exact ⟨rfl, rfl⟩

/-- What a stream does to a client that waits for its first byte. -/
theorem receive_cut (h : c.Listening) {limit : Nat} (hstart : c.session.link.reader = .start)
    (hlimit : c.session.link.limit = limit) {s : Bytes}
    (hs : ((Frame.cut limit s).1.foldl handOn c).session.connected = true) :
    c.reports s =
        (Frame.cut limit s).1.map .frame ++ verdict ((Frame.cut limit s).2.reader limit) ∧
      c.receive s =
        ((Frame.cut limit s).1.foldl handOn c).settleAt
          ((Frame.cut limit s).2.reader limit) := by
  have hreceive := receive_eq h hstart hlimit (fun _ hstopped => by cases hstopped) s
  rw [Frame.feed_start, withReader_self hstart] at hreceive
  exact hreceive hs

/-! ## Frames of a channel -/

/-- Hands frames to the client, and says of each whether it still listened. -/
def injectAll (e : Client (Channel Unit) N) : List Bytes → List Bool × Client (Channel Unit) N
  | [] => ([], e)
  | p :: ps => ((e.inject p).1 :: ((e.inject p).2.injectAll ps).1, ((e.inject p).2.injectAll ps).2)

theorem Stays.connected_of_handle {L α : Type} {q : L → α} {e : Client L N} (h : e.Stays q)
    {ps : List Bytes} (hps : (ps.foldl Inbox.handle e).state.memory.connected = true) :
    e.session.connected = true := by
  induction ps generalizing e with
  | nil => exact hps
  | cons p ps ih =>
      obtain ⟨hstays, hnext⟩ := h.handle p
      exact (hstays (ih hnext hps)).1

theorem injectAll_eq {e : Client (Channel Unit) N} (hstays : e.Stays Channel.sink)
    (hsink : e.session.link.sink.isSome = true) {ps : List Bytes}
    (hps : (ps.foldl Inbox.handle e).state.memory.connected = true) :
    e.injectAll ps = (ps.map fun _ => true, ps.foldl Inbox.handle e) := by
  induction ps generalizing e with
  | nil => rfl
  | cons p ps ih =>
      have hp : e.inject p = (true, Inbox.handle e p) := if_pos hsink
      obtain ⟨hlink, hnext⟩ := hstays.handle p
      have hsink' : (Inbox.handle e p).state.memory.link.sink.isSome = true :=
        (congrArg Option.isSome (hlink (hnext.connected_of_handle hps)).2).trans hsink
      rw [injectAll, hp, ih hnext hsink' hps]
      rfl

theorem Alike.handOn {L : Type} {e : Client L N} (h : Alike c e) (p : Bytes) :
    Alike (c.handOn p) (Inbox.handle e p) :=
  ((h.withLink_left fun k => { k with handling := true }).handle p).withLink_left
    fun k => { k with handling := false }

theorem Alike.foldl_handOn {L : Type} {e : Client L N} (h : Alike c e) (ps : List Bytes) :
    Alike (ps.foldl Client.handOn c) (ps.foldl Inbox.handle e) := by
  induction ps generalizing c e with
  | nil => exact h
  | cons p ps ih => exact ih (h.handOn p)

/-- As long as no payload has disconnected the client, its thread reports the
payloads of the frames of a stream, in their order, and the client hands them on
and does nothing else. Before the stream ends the thread reports that it has
stopped only if a frame is beyond the limit, behind the payloads and with the
reason for it; at the end of the stream it has reported so once, behind the last
payload, and for no reason if that is where the stream ends. Where it has, the
client has been told of the reason and the slots are closed, and from then on
nothing is reported and nothing happens.

So payloads within the limit that are written to a stream do to the client what
they do to one that is like it and gets them over a channel in memory. -/
theorem frames_of_stream (hc : c.Listening) (hstart : c.session.link.reader = .start)
    (hlimit : c.session.link.limit = c.session.settings.maxFrame)
    (hsettings : c.session.settings.check = .ok ()) :
    (∀ chunks : List Bytes,
      let cutting := Frame.cut c.session.settings.maxFrame chunks.flatten
      let reader := cutting.2.reader c.session.settings.maxFrame
      let handed := cutting.1.foldl handOn c
      let stopped : Client Socket N := Inbox.hangUp
        ((handed.withLink fun k => { k with reader, running := false }).tell
          (reader.close.toList.map .readFailed))
      let read := chunks.foldl receive c
      let reported := c.reports chunks.flatten
      handed.session.connected = true →
        handed.session.link.running = true ∧
        (match cutting.2 with
          | .oversized _ =>
            reported = cutting.1.map .frame ++ [.closed reader.close] ∧ read = stopped
          | _ => reported = cutting.1.map .frame ∧ read = handed.withReader reader) ∧
        reported ++ read.session.link.finish.1.toList =
          cutting.1.map .frame ++ [.closed reader.close] ∧
        read.endStream = stopped ∧
        stopped.state.slots = handed.state.slots.close.2 ∧ stopped.state.slots.closed = true ∧
        (∀ more : List Bytes,
          stopped.reports more.flatten = [] ∧ more.foldl receive stopped = stopped) ∧
        stopped.session.link.finish.1 = none ∧ stopped.endStream = stopped) ∧
    ∀ {e : Client (Channel Unit) N}, Alike c e → e.Stays Channel.sink →
      e.session.link.sink.isSome = true →
      ∀ {ps : List Bytes}, (∀ p ∈ ps, p.length ≤ c.session.settings.maxFrame) →
      (ps.foldl handOn c).session.connected = true →
      ∀ {k : Frame.Sink}, k.taken = [] → 0 < k.step → (Frame.stream ps).length ≤ k.room →
        (k.writeFrames ps).1 = (ps.map fun _ => .ok ()) ∧
        (e.injectAll ps).1 = (ps.map fun _ => true) ∧
        ∀ chunks : List Bytes, chunks.flatten = (k.writeFrames ps).2.taken →
          Alike (chunks.foldl receive c) (e.injectAll ps).2 := by
  refine ⟨fun chunks => ?_,
    fun {e} ha hstays hsink {ps} hps hconnected {k} htaken hstep hroom => ?_⟩
  · intro cutting reader handed stopped read reported hconnected
    have hrunning : handed.session.link.running = true := (hc.foldl_handOn hconnected).running
    obtain ⟨hreports, hreceive⟩ := receive_cut hc hstart hlimit hconnected
    have hreported : reported = cutting.1.map .frame ++ verdict reader := hreports
    have hread : read = handed.settleAt reader := (foldl_receive c chunks).trans hreceive
    obtain ⟨hfinish, hend⟩ := endStream_settleAt hrunning reader
    have hstopped : stopped.session.link.running = false := rfl
    obtain ⟨hdone, hdone'⟩ := endStream_of_stopped hstopped
    refine ⟨hrunning, ?_, ?_, by rw [hread]; exact hend, rfl, Slots.closed_close _, fun more => ?_,
      congrArg Prod.fst hdone, hdone'⟩
    · rw [hread, hreported]
      exact settleAt_reader handed c.session.settings.maxFrame _ cutting.2
    · rw [hread, hreported, List.append_assoc, hfinish]
    · rw [foldl_receive]
      exact receive_of_stopped hstopped more.flatten
  · have hlarge : c.session.settings.maxFrame < Frame.nullMark := Settings.maxFrame_lt hsettings
    have hwritten := Frame.Sink.writeFrames_of_room hstep hroom
      fun p hp => Nat.lt_of_le_of_lt (hps p hp) hlarge
    have hhanded := ha.foldl_handOn ps
    rw [hwritten, injectAll_eq hstays hsink (hhanded.state.connected.symm.trans hconnected)]
    refine ⟨rfl, rfl, fun chunks hchunks => ?_⟩
    have hflatten : chunks.flatten = Frame.stream ps := by
      rw [hchunks]
      show k.taken ++ Frame.stream ps = Frame.stream ps
      rw [htaken, List.nil_append]
    have hcut := Frame.cut_stream hlarge hps
    have hreceive := (receive_cut hc hstart hlimit (by rwa [hcut])).2
    rw [foldl_receive, hflatten, hreceive, hcut]
    exact hhanded.withLink_left fun k => { k with reader := .header [] }

/-- A client with an observer that counts the notifications, one that makes a
call for each, and one that disconnects the client when it is told to quit. -/
def counting {L : Type} [Link L] (link : L) : Client L Nat where
  state := ⟨.empty 1, { endpoint := ⟨"s", "/tmp/s"⟩, settings := {}, link, notes := 0 }⟩
  observers :=
    [fun _ => (Reaction.change (· + 1) .returns).onNotes,
      fun n => .call "next" (.str n.method) fun _ => .returns,
      Observer.only "quit" fun _ => .disconnect .returns]

theorem stays_counting {L α : Type} [Link L] {q : L → α}
    (hq : ∀ {k k' : L} {frame : Bytes}, Link.send k frame = .ok k' → q k' = q k) (link : L) :
    (counting link).Stays q := by
  have hquit : Observer.Keeps (fun d d' : Desk (Session L Nat) =>
      Session.Stays q d.memory d'.memory) fun _ => .disconnect .returns :=
    fun _ => Reaction.keeps_disconnect fun _ => trivial
  show ∀ o ∈ _, _
  simp only [counting, List.forall_mem_cons, List.not_mem_nil, false_implies, implies_true,
    and_true]
  exact ⟨fun _ => Reaction.keeps_onNotes _, fun _ => Reaction.keeps_call hq fun _ _ => trivial,
    hquit.only "quit"⟩

theorem alike_counting {L L' : Type} [Link L] [Link L'] (link : L) (link' : L') :
    Alike (counting link) (counting link') where
  state := ⟨rfl, rfl⟩
  observers := .cons (fun _ => Reaction.alike_onNotes _)
    (.cons (fun n => Reaction.alike_call "next" (.str n.method) fun _ _ => .returns)
      (.cons (Observer.Alike.only (fun _ => Reaction.alike_disconnect .returns) "quit") .nil))
  notices := rfl

/-- A notification and a text that is no envelope come in two pieces, and then
the stream ends. -/
theorem frames_of_stream_of_two_pieces :
    let c := counting ({ limit := 16777216 } : Socket)
    let e := counting ({ sink := some () } : Channel Unit)
    let ps := [Utf8.encode "\x7b\"method\":\"tick\"\x7d", Utf8.encode "null"]
    let k : Frame.Sink := { step := 5, room := 100 }
    let stream := (k.writeFrames ps).2.taken
    let read := [stream.take 3, stream.drop 3].foldl receive c
    (k.writeFrames ps).1 = [.ok (), .ok ()] ∧ Alike read (e.injectAll ps).2 ∧
      (e.injectAll ps).2.session.notes = 1 ∧ c.reports stream = ps.map .frame ∧
      c.reports stream ++ read.session.link.finish.1.toList = ps.map .frame ++ [.closed none] ∧
      read.state.slots.closed = false ∧ read.endStream.state.slots.closed = true := by
  intro c e ps k stream read
  have hc : c.Listening := ⟨rfl, rfl, rfl, stays_counting Socket.reading_send _⟩
  obtain ⟨hstream, hframes⟩ := frames_of_stream hc rfl rfl rfl
  have hps : ∀ p ∈ ps, p.length ≤ c.session.settings.maxFrame := by decide
  have hconnected : (ps.foldl handOn c).session.connected = true := by with_unfolding_all rfl
  obtain ⟨hwritten, -, hread⟩ := hframes (e := e) (k := k) (alike_counting _ _)
    (stays_counting Channel.sink_send _) rfl hps hconnected rfl (by decide) (by decide)
  have hflatten : [stream.take 3, stream.drop 3].flatten = stream := by
    simp only [List.flatten_cons, List.flatten_nil, List.append_nil]
    exact List.take_append_drop 3 stream
  have hcut : Frame.cut c.session.settings.maxFrame stream = (ps, .header []) := by
    have hlarge : c.session.settings.maxFrame < Frame.nullMark := Settings.maxFrame_lt rfl
    have htaken : stream = Frame.stream ps := by
      have hall := Frame.Sink.writeFrames_of_room (k := k) (by decide) (by decide)
        fun p hp => Nat.lt_of_le_of_lt (hps p hp) hlarge
      exact congrArg (·.2.taken) hall
    rw [htaken]
    exact Frame.cut_stream hlarge hps
  have hends := hstream [stream.take 3, stream.drop 3]
  rw [hflatten, hcut] at hends
  obtain ⟨-, ⟨hreported, hgoing⟩, hfinished, hend, -, hclosed, -⟩ := hends hconnected
  refine ⟨hwritten, hread _ hflatten, ?_, hreported, hfinished, ?_, ?_⟩
  · with_unfolding_all rfl
  · show (List.foldl receive c _).state.slots.closed = false
    rw [hgoing]
    with_unfolding_all rfl
  · show (endStream _).state.slots.closed = true
    rw [hend]
    exact hclosed

end Client

end RemoteJobs
