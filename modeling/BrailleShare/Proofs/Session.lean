import BrailleShare.Proofs.Frame.Calls
import BrailleShare.Proofs.Server.Waiting
import BrailleShare.Session

/-!
# Whole sessions

The octets that a client sends reach the server in reads that may end anywhere, within a frame or
with several frames in one read. What becomes of the session is told by the octets alone: their
frames are handled one by one up to the first that closes the connection, and the octets behind the
last whole frame are forgotten.

Main statements: a read makes the server handle the frames that it completes (`onStream_chunk`) and
takes the session on to where the octets received so far say (`Course.read_progress`); so any reads
do (`Course.foldl_read_progress`), and from this follow what a client gets, what is left of it and
that the reads do not matter (`session_well_served`).
-/

namespace BrailleShare

open BrailleShare.Frame (parse first?)

namespace Server

variable {σ : Type} [Driver σ] {s t u v : Server σ} {id : ClientId}

/-! ### Frames one by one -/

/-- What came of the frames of a connection. -/
structure Handling (σ : Type) where
  /-- The frames that were handled, the oldest first. -/
  frames : List Frame
  /-- Whether the connection is to close after the last of them. -/
  closes : Bool
  server : Server σ

/-- Handles frames one by one, up to the first after which the connection is to close. -/
def handle (s : Server σ) (id : ClientId) : List Frame → Handling σ
  | [] => ⟨[], false, s⟩
  | f :: fs =>
    match s.onFrame id f with
    | (.close, t) => ⟨[f], true, t⟩
    | (.proceed, t) => { t.handle id fs with frames := f :: (t.handle id fs).frames }

/-- A frame after which the connection is to close is the last to be handled. -/
theorem handle_of_close {f : Frame} (h : s.onFrame id f = (.close, t)) (fs : List Frame) :
    s.handle id (f :: fs) = ⟨[f], true, t⟩ := by
  simp only [handle, h]

/-- A frame after which the connection goes on is followed by the others. -/
theorem handle_of_proceed {f : Frame} (h : s.onFrame id f = (.proceed, t)) (fs : List Frame) :
    s.handle id (f :: fs) =
      { t.handle id fs with frames := f :: (t.handle id fs).frames } := by
  simp only [handle, h]

/-- More frames are handled only if the connection is not to close after those before them. -/
theorem handle_append (s : Server σ) (id : ClientId) (fs gs : List Frame) :
    s.handle id (fs ++ gs) =
      let r := s.handle id fs
      let q := r.server.handle id gs
      if r.closes then r else ⟨r.frames ++ q.frames, q.closes, q.server⟩ := by
  induction fs generalizing s with
  | nil => rfl
  | cons f fs ih =>
    rcases hf : s.onFrame id f with ⟨_ | _, t⟩
    · rw [List.cons_append, handle_of_proceed hf, handle_of_proceed hf, ih]
      by_cases hcloses : (t.handle id fs).closes <;> simp [hcloses]
    · rw [List.cons_append, handle_of_close hf, handle_of_close hf]
      rfl

/-- The server is where the frames that were handled have brought it. -/
theorem server_handle (s : Server σ) (id : ClientId) (fs : List Frame) :
    (s.handle id fs).server = s.run ((s.handle id fs).frames.map (.frame id)) := by
  induction fs generalizing s with
  | nil => rfl
  | cons f fs ih =>
    rcases hf : s.onFrame id f with ⟨_ | _, t⟩
    · have hstep : s.step (.frame id f) = t := congrArg (·.2) hf
      rw [handle_of_proceed hf]
      simp [hstep, ih]
    · have hstep : s.step (.frame id f) = t := congrArg (·.2) hf
      rw [handle_of_close hf]
      simp [hstep]

/-- What is handled is the front of what there is. -/
theorem frames_handle (s : Server σ) (id : ClientId) (fs : List Frame) :
    (s.handle id fs).frames <+: fs ∧
      ((s.handle id fs).closes = false → (s.handle id fs).frames = fs) := by
  induction fs generalizing s with
  | nil => exact ⟨List.prefix_rfl, fun _ => rfl⟩
  | cons f fs ih =>
    rcases hf : s.onFrame id f with ⟨_ | _, t⟩
    · rw [handle_of_proceed hf]
      obtain ⟨hfront, hall⟩ := ih t
      exact ⟨List.prefix_cons_inj f |>.2 hfront, fun h => congrArg (f :: ·) (hall h)⟩
    · rw [handle_of_close hf]
      exact ⟨⟨fs, rfl⟩, nofun⟩

/-! ### The frames of a source -/

/-- The frames that are handled of those that a source completes. -/
def handledOf (s : Server σ) (id : ClientId) (f : Framer) (source : List Read) : List Frame :=
  match h : f.pull source with
  | (.frame frame, f', rest) =>
    have : Read.totalWeight rest < Read.totalWeight source := by
      have lt := @Framer.totalWeight_pull_lt f source frame
      rw [h] at lt
      exact lt rfl
    match s.onFrame id frame with
    | (.close, _) => [frame]
    | (.proceed, s) => frame :: s.handledOf id f' rest
  | _ => []
  termination_by Read.totalWeight source

variable {f f' : Framer} {frame : Frame} {source rest : List Read}

/-- While a call has to wait, nothing is handled. -/
theorem onStream_of_pending (h : f.pull source = (.pending, f', rest)) :
    s.onStream id f source = ([], f', s) ∧ s.handledOf id f source = [] := by
  constructor
  · rw [onStream]
    split <;> simp_all
  · rw [handledOf]
    split <;> simp_all

/-- A frame after which the connection is to close ends the stream. -/
theorem onStream_of_close (h : f.pull source = (.frame frame, f', rest))
    (hf : s.onFrame id frame = (.close, t)) :
    s.onStream id f source = ([.close], f', t) ∧ s.handledOf id f source = [frame] := by
  constructor
  · rw [onStream]
    split <;> simp_all
  · rw [handledOf]
    split <;> simp_all

/-- A frame after which the connection goes on is followed by what the stream still brings. -/
theorem onStream_of_proceed (h : f.pull source = (.frame frame, f', rest))
    (hf : s.onFrame id frame = (.proceed, t)) :
    s.onStream id f source =
        (.proceed :: (t.onStream id f' rest).1, (t.onStream id f' rest).2) ∧
      s.handledOf id f source = frame :: t.handledOf id f' rest := by
  constructor
  · rw [onStream]
    split <;> simp_all
  · rw [handledOf]
    split <;> simp_all

/-- What becomes of a connection when octets arrive within a frame of which `p` has been read. -/
structure Streams (s : Server σ) (id : ClientId) (p bs : Octets) (r : Handling σ) : Prop where
  frames : s.handledOf id (.after p) (Read.chunk bs) = r.frames
  closes : (s.onStream id (.after p) (Read.chunk bs)).1.contains .close = r.closes
  /-- The framer waits for the next frame, or for the rest of the one that has been begun. -/
  framer : (s.onStream id (.after p) (Read.chunk bs)).2.1 =
    if r.closes then .idle else .after (parse (p ++ bs)).2
  server : (s.onStream id (.after p) (Read.chunk bs)).2.2 = r.server

namespace Streams

variable {p bs left : Octets} (h : first? p = none)

include h in
/-- Octets that make no frame are kept. -/
theorem of_short (hshort : first? (p ++ bs) = none) : Streams s id p bs ⟨[], false, s⟩ := by
  have hpull := Framer.pull_chunk h bs
  rw [hshort] at hpull
  obtain ⟨hstream, hnone⟩ :
      s.onStream id (.after p) (Read.chunk bs) = ([], .after (p ++ bs), s) ∧
        s.handledOf id (.after p) (Read.chunk bs) = [] := onStream_of_pending hpull
  refine ⟨hnone, ?_, ?_, ?_⟩
  · rw [hstream]
    rfl
  · rw [hstream, Frame.parse_of_none hshort]
    rfl
  · rw [hstream]

include h in
/-- If the first frame closes the connection, the rest of the octets is not read. -/
theorem of_close (hfirst : first? (p ++ bs) = some (frame, left))
    (hf : s.onFrame id frame = (.close, t)) : Streams s id p bs ⟨[frame], true, t⟩ := by
  have hpull := Framer.pull_chunk h bs
  rw [hfirst] at hpull
  obtain ⟨hstream, hsome⟩ := onStream_of_close hpull hf
  refine ⟨hsome, ?_, ?_, ?_⟩
  · rw [hstream]
    rfl
  · rw [hstream]
    rfl
  · rw [hstream]

include h in
/-- If the connection goes on after the first frame, the rest of the octets is read as if it came
now. -/
theorem of_proceed (hfirst : first? (p ++ bs) = some (frame, left))
    (hf : s.onFrame id frame = (.proceed, t)) {r : Handling σ} (hmore : Streams t id [] left r) :
    Streams s id p bs { r with frames := frame :: r.frames } := by
  have hpull := Framer.pull_chunk h bs
  rw [hfirst] at hpull
  obtain ⟨hstream, hsome⟩ := onStream_of_proceed hpull hf
  obtain ⟨hframes, hcloses, hframer, hserver⟩ := hmore
  rw [show Framer.after [] = Framer.idle from rfl] at hframes hcloses hframer hserver
  refine ⟨?_, ?_, ?_, ?_⟩
  · rw [hsome, hframes]
  · rw [hstream]
    simpa using hcloses
  · rw [hstream, Frame.parse_of_some hfirst]
    exact hframer
  · rw [hstream]
    exact hserver

end Streams

/-- Octets that arrive make the server handle the frames that they complete. -/
theorem onStream_chunk {p : Octets} (h : first? p = none) (s : Server σ) (id : ClientId)
    (bs : Octets) : Streams s id p bs (s.handle id (parse (p ++ bs)).1) := by
  generalize hall : (parse (p ++ bs)).1 = frames
  induction frames generalizing p bs s with
  | nil =>
    cases hfirst : first? (p ++ bs) with
    | none => exact .of_short h hfirst
    | some r => simp [Frame.parse_of_some hfirst] at hall
  | cons frame frames ih =>
    cases hfirst : first? (p ++ bs) with
    | none => simp [Frame.parse_of_none hfirst] at hall
    | some r =>
      obtain ⟨whole, left⟩ := r
      rw [Frame.parse_of_some hfirst] at hall
      obtain ⟨rfl, hframes⟩ : whole = frame ∧ (parse left).1 = frames := by simpa using hall
      rcases hf : s.onFrame id whole with ⟨_ | _, t⟩
      · rw [handle_of_proceed hf]
        exact .of_proceed h hfirst hf (ih (p := []) rfl t left hframes)
      · rw [handle_of_close hf]
        exact .of_close h hfirst hf

/-! ### What is on the line -/

/-- The packets among effects that are for a client, the oldest first. -/
def outboxIn (id : ClientId) (es : List Effect) : List Packet :=
  ((packetsIn es).filter fun q => decide (q.1 = id)).map (·.2)

omit [Driver σ] in
/-- The outbox of a client is told by the effects. -/
theorem outbox_eq (s : Server σ) (id : ClientId) : s.outbox id = outboxIn id s.effects :=
  rfl

/-- What has been done at two times is queued at two times. -/
theorem outboxIn_append (id : ClientId) (es es' : List Effect) :
    outboxIn id (es ++ es') = outboxIn id es ++ outboxIn id es' := by
  simp [outboxIn, packetsIn, List.filterMap_append]

/-- The packets that have been queued for a client between two states. -/
def queued (id : ClientId) (s t : Server σ) : List Packet :=
  outboxIn id (t.effects.drop s.effects.length)

omit [Driver σ] in
/-- Nothing is queued where nothing is done. -/
theorem queued_self (id : ClientId) (s : Server σ) : queued id s s = [] := by
  simp [queued, outboxIn, packetsIn]

omit [Driver σ] in
/-- What has been queued meanwhile stands after what was there. -/
theorem outbox_of_grows (h : s.effects <+: t.effects) :
    t.outbox id = s.outbox id ++ queued id s t := by
  obtain ⟨more, hmore⟩ := h
  rw [queued, outbox_eq, outbox_eq, ← hmore, List.drop_left, outboxIn_append]

omit [Driver σ] in
/-- What is queued on the way is queued on the two parts of the way. -/
theorem queued_trans (h : s.effects <+: t.effects) (h' : t.effects <+: u.effects) :
    queued id s t ++ queued id t u = queued id s u := by
  have hall : u.outbox id = s.outbox id ++ queued id s u := outbox_of_grows (h.trans h')
  rw [outbox_of_grows h', outbox_of_grows h, List.append_assoc] at hall
  exact List.append_cancel_left hall

/-- A history only adds effects. -/
theorem effects_run (hs : s.Consistent) (events : List (Event σ)) :
    s.effects <+: (s.run events).effects := by
  induction events generalizing s with
  | nil => exact List.prefix_rfl
  | cons e events ih =>
    have hfirst : s.effects <+: (s.step e).effects := ⟨_, (effects_step hs e).symm⟩
    exact hfirst.trans (ih (hs.step e))

/-- Frames that are handled leave what was done before as it is. -/
theorem effects_handle (hs : s.Consistent) (id : ClientId) (fs : List Frame) :
    s.effects <+: (s.handle id fs).server.effects := by
  rw [server_handle]
  exact effects_run hs _

/-- Frames that are handled keep a state consistent. -/
theorem Consistent.handle (hs : s.Consistent) (id : ClientId) (fs : List Frame) :
    (s.handle id fs).server.Consistent := by
  rw [server_handle]
  exact hs.run _

/-- The end of a connection leaves what was done before as it is. -/
theorem effects_disconnect (s : Server σ) (id : ClientId) :
    s.effects <+: (s.disconnect id).effects :=
  (disconnect_changes s id).effects_grow

end Server

/-! ### Sessions -/

/-- How far a session has come. -/
structure Course (σ : Type) where
  session : Session
  server : Server σ
  /-- The frames that have been handled for the client, the oldest first. -/
  handled : List Frame

namespace Course

open Server

variable {σ : Type} [Driver σ] {s t : Server σ} {id : ClientId}

omit [Driver σ] in
/-- Sends what has been queued for the client since an earlier state. -/
def flush (x : Course σ) (since : Server σ) : Course σ :=
  { x with session := x.session.collect (x.server.effects.drop since.effects.length) }

/-- The frames that are handled of a read. -/
def handles (x : Course σ) (bs : Octets) : List Frame :=
  match x.session.id with
  | none => []
  | some id =>
    if x.session.ended then [] else x.server.handledOf id x.session.framer (Read.chunk bs)

/-- A read brings octets. -/
def read (x : Course σ) (bs : Octets) : Course σ :=
  let r := x.session.receive x.server bs
  flush ⟨r.1, r.2, x.handled ++ x.handles bs⟩ x.server

/-- The client sends no more. -/
def finish (x : Course σ) : Course σ :=
  let r := x.session.finish x.server
  flush ⟨r.1, r.2, x.handled⟩ x.server

/-- The session of a client that has just come. -/
def begin (s : Server σ) (peer : String) (now : Nat) : Course σ :=
  ⟨(Session.connect s peer now).1, (Session.connect s peer now).2, []⟩

/-- The whole session of a client that comes, sends what these reads bring, and sends no more, while
nothing else happens to the server. -/
def serve (s : Server σ) (peer : String) (now : Nat) (reads : List Octets) : Course σ :=
  (reads.foldl read (begin s peer now)).finish

/-- The session of a connection that was let in at one state, has had these frames handled and has
left these octets behind them, with the server as it is now. -/
def after (t : Server σ) (id : ClientId) (r : Handling σ) (left : Octets) (ended : Bool)
    (u : Server σ) : Course σ where
  session :=
    { id := some id
      framer := if r.closes then .idle else .after left
      ended
      listening := true
      sent := (queued id t u).flatMap Packet.encode
      endSeen := false }
  server := u
  handled := r.frames

/-- The session of a connection that has brought these octets and may bring more. -/
def progress (t : Server σ) (id : ClientId) (bs : Octets) : Course σ :=
  let r := t.handle id (parse bs).1
  after t id r (parse bs).2 r.closes (if r.closes then r.server.disconnect id else r.server)

/-- The session of a connection that has brought these octets and brings no more. -/
def outcome (t : Server σ) (id : ClientId) (bs : Octets) : Course σ :=
  let r := t.handle id (parse bs).1
  after t id r (parse bs).2 true
    ((if r.closes then r.server else r.server.note (.clientLeft id)).disconnect id)

omit [Driver σ] in
/-- What a client is sent are the packets queued for it, encoded. -/
theorem collect_eq {x : Session} (hid : x.id = some id) (es : List Effect) :
    x.collect es = { x with sent := x.sent ++ (outboxIn id es).flatMap Packet.encode } := by
  simp only [Session.collect]
  congr 2
  induction es with
  | nil => rfl
  | cons e es ih =>
    rw [List.flatMap_cons, ih, hid]
    cases e with
    | packet a p =>
      by_cases ha : a = id
      · simp [outboxIn, packetsIn, Effect.packet?, ha]
      · simp [outboxIn, packetsIn, Effect.packet?, ha, Ne.symm ha]
    | driver | restart | notice => rfl

omit [Driver σ] in
/-- What is sent in the course of a session is what is queued in the course of it. -/
theorem flush_after {u v : Server σ} (htu : t.effects <+: u.effects) (huv : u.effects <+: v.effects)
    (id : ClientId) (r : Handling σ) (left : Octets) (ended : Bool) :
    flush { after t id r left ended u with server := v } u = after t id r left ended v := by
  rw [flush, collect_eq (by rfl)]
  simp only [after, ← queued_trans htu huv, List.flatMap_append]
  rfl

/-- Octets that come leave what was done before as it is. -/
theorem effects_progress (ht : t.Consistent) (id : ClientId) (bs : Octets) :
    t.effects <+: (progress t id bs).server.effects := by
  have hhandle := effects_handle ht id (parse bs).1
  rw [progress, after]
  dsimp only
  split
  · exact hhandle.trans (effects_disconnect _ id)
  · exact hhandle

/-- Nothing is read once the connection is to close. -/
theorem read_of_closes (ht : t.Consistent) {bs : Octets}
    (h : (t.handle id (parse bs).1).closes = true) (more : Octets) :
    (progress t id bs).read more = progress t id bs := by
  have hgrows := effects_progress ht id bs
  have hended : (progress t id bs).session.ended = true := h
  have hread : (progress t id bs).read more =
      flush (progress t id bs) (progress t id bs).server := by
    simp only [read, Session.receive, handles]
    rw [hended]
    simp [progress, after]
  rw [hread]
  exact flush_after hgrows List.prefix_rfl ..

omit [Driver σ] in
/-- What is left over behind a frame that closes the connection does not matter. -/
theorem after_of_closes {r : Handling σ} (h : r.closes = true) (t u : Server σ) (id : ClientId)
    (left left' : Octets) (ended : Bool) :
    after t id r left ended u = after t id r left' ended u := by
  simp [after, h]

/-- Octets may be handled in two portions: those that make frames now, and the rest with what comes
later. -/
theorem handle_parse_append (t : Server σ) (id : ClientId) (bs more : Octets) :
    t.handle id (parse (bs ++ more)).1 =
      let r := t.handle id (parse bs).1
      let q := r.server.handle id (parse ((parse bs).2 ++ more)).1
      if r.closes then r else ⟨r.frames ++ q.frames, q.closes, q.server⟩ := by
  rw [Frame.parse_append, handle_append]

/-- What is read is handled frame by frame, and the session ends if the connection is to close. -/
theorem receive_eq {x : Session} (hid : x.id = some id) (hopen : x.ended = false) {p : Octets}
    (hframer : x.framer = .after p) (hp : first? p = none) (s : Server σ) (bs : Octets) :
    let q := s.handle id (parse (p ++ bs)).1
    x.receive s bs =
      ({ x with framer := if q.closes then .idle else .after (parse (p ++ bs)).2
                ended := q.closes },
        if q.closes then q.server.disconnect id else q.server) := by
  obtain ⟨-, hcloses, hafter, hserver⟩ := onStream_chunk hp s id bs
  simp only [Session.receive, hid, hopen, hframer, hcloses, hafter, hserver]
  by_cases hc : (s.handle id (parse (p ++ bs)).1).closes <;> simp [hc]

/-- What is read of an open session goes behind the octets that were left over. -/
theorem read_of_open {r : Handling σ} (hr : r.server.Consistent)
    (htr : t.effects <+: r.server.effects) (hopen : r.closes = false) {p : Octets}
    (hp : first? p = none) (id : ClientId) (more : Octets) :
    let q := r.server.handle id (parse (p ++ more)).1
    (after t id r p false r.server).read more =
      after t id ⟨r.frames ++ q.frames, q.closes, q.server⟩ (parse (p ++ more)).2 q.closes
        (if q.closes then q.server.disconnect id else q.server) := by
  have hgrows := effects_handle hr id (parse (p ++ more)).1
  have hframes := (onStream_chunk hp r.server id more).frames
  have hreceive := receive_eq (x := (after t id r p false r.server).session) rfl rfl
    (by simp [after, hopen]) hp r.server more
  dsimp only at hreceive ⊢
  generalize r.server.handle id (parse (p ++ more)).1 = q at *
  have hmore : r.server.effects <+:
      (if q.closes then q.server.disconnect id else q.server).effects := by
    split
    · exact hgrows.trans (effects_disconnect q.server id)
    · exact hgrows
  rw [← flush_after htr hmore, read]
  rw [show (after t id r p false r.server).server = r.server from rfl, hreceive]
  simp [handles, after, hopen, hframes]

/-- One more read takes the session on. -/
theorem read_progress (ht : t.Consistent) (id : ClientId) (bs more : Octets) :
    (progress t id bs).read more = progress t id (bs ++ more) := by
  have hhandle := handle_parse_append t id bs more
  have hleft : (parse (bs ++ more)).2 = (parse ((parse bs).2 ++ more)).2 := by
    rw [Frame.parse_append bs more]
  cases hcloses : (t.handle id (parse bs).1).closes with
  | true =>
    rw [read_of_closes ht hcloses]
    simp only [progress, hhandle, hcloses, if_true]
    exact after_of_closes hcloses ..
  | false =>
    have hread := read_of_open (ht.handle id _) (effects_handle ht id _) hcloses
      (Frame.first?_parse bs) id more
    simp only [progress, hhandle, hcloses, hleft, Bool.false_eq_true, if_false]
    exact hread

/-- However octets are cut into reads, they take the session where they say. -/
theorem foldl_read_progress (ht : t.Consistent) (id : ClientId) (bs : Octets)
    (reads : List Octets) :
    reads.foldl read (progress t id bs) = progress t id (bs ++ reads.flatten) := by
  induction reads generalizing bs with
  | nil => simp
  | cons more reads ih =>
    rw [List.foldl_cons, read_progress ht, ih, List.flatten_cons, List.append_assoc]

/-- A session that has not ended by then ends when the client sends no more. -/
theorem finish_progress (ht : t.Consistent) (id : ClientId) (bs : Octets) :
    (progress t id bs).finish = outcome t id bs := by
  have htr := effects_handle ht id (parse bs).1
  simp only [progress, outcome]
  generalize t.handle id (parse bs).1 = r at *
  cases hcloses : r.closes with
  | true =>
    have hgrows := htr.trans (effects_disconnect r.server id)
    have hfinish : ∀ x : Course σ, x.session.id = some id → x.session.ended = true →
        x.finish = flush x x.server := fun x hid hended => by
      simp [finish, Session.finish, hid, hended]
    simp only [if_true]
    rw [hfinish _ rfl rfl]
    exact flush_after hgrows List.prefix_rfl ..
  | false =>
    have hnote : r.server.effects <+: (r.server.note (.clientLeft id)).effects :=
      List.prefix_append ..
    simp only [Bool.false_eq_true, if_false]
    rw [← flush_after htr (hnote.trans (effects_disconnect _ id))]
    simp [finish, Session.finish, after]

/-- Nor do octets behind such a frame. -/
theorem outcome_of_closes {bs : Octets} (h : (t.handle id (parse bs).1).closes = true)
    (more : Octets) : outcome t id (bs ++ more) = outcome t id bs := by
  have hhandle := handle_parse_append t id bs more
  simp only [h, if_true] at hhandle
  simp only [outcome, hhandle]
  exact after_of_closes h ..

/-! ### Coming -/

omit [Driver σ] in
/-- Nothing but the log tells that a client was not let in. -/
theorem accept_of_error {peer : String} {now : Nat} {e : AdmissionError}
    (h : (s.accept peer now).1 = .error e) : ∃ refusalNoted effects,
      (s.accept peer now).2 = { s with refusalNoted, effects } := by
  unfold accept at h ⊢
  split
  · exact ⟨_, _, rfl⟩
  · split
    · dsimp only
      split
      · exact ⟨_, _, rfl⟩
      · exact ⟨_, _, rfl⟩
    · simp_all

/-- A session that is let in starts without octets. -/
theorem begin_of_ok {peer : String} {now : Nat} (h : (s.accept peer now).1 = .ok id) :
    begin s peer now = progress (s.accept peer now).2 id [] := by
  rcases hs : s.accept peer now with ⟨a, t⟩
  rw [hs] at h
  subst h
  simp [begin, Session.connect, hs, progress, after, Frame.parse_nil, handle, queued_self]
  rfl

omit [Driver σ] in
/-- A session that is turned away is told so, and nothing is read from it. -/
theorem begin_of_error {peer : String} {now : Nat} {e : AdmissionError}
    (h : (s.accept peer now).1 = .error e) :
    begin s peer now =
      ⟨⟨none, .idle, true, true, (Packet.error .connectionRefused).encode, false⟩,
        (s.accept peer now).2.note (.connectionRefused e peer), []⟩ := by
  rcases hs : s.accept peer now with ⟨a, t⟩
  rw [hs] at h
  subst h
  simp [begin, Session.connect, hs]

/-- The session of a client that is let in is told by the octets that it sends. -/
theorem serve_of_ok (hs : s.Consistent) {peer : String} {now : Nat}
    (h : (s.accept peer now).1 = .ok id) (reads : List Octets) :
    serve s peer now reads = outcome (s.accept peer now).2 id reads.flatten := by
  have ht : (s.accept peer now).2.Consistent := hs.step (.arrival peer now)
  rw [serve, begin_of_ok h, foldl_read_progress ht, finish_progress ht, List.nil_append]

/-- The session of a client that is not let in ends as it begins. -/
theorem serve_of_error {peer : String} {now : Nat} {e : AdmissionError}
    (h : (s.accept peer now).1 = .error e) (reads : List Octets) :
    serve s peer now reads = begin s peer now := by
  have hid : (begin s peer now).session.id = none := by rw [begin_of_error h]
  have hflush : ∀ x : Course σ, flush x x.server = x := fun x => by
    simp [flush, Session.collect]
  have hread : ∀ bs, (begin s peer now).read bs = begin s peer now := fun bs => by
    simp only [read, Session.receive, handles, hid, List.append_nil]
    exact hflush _
  have hreads : reads.foldl read (begin s peer now) = begin s peer now := by
    induction reads with
    | nil => rfl
    | cons bs reads ih => rw [List.foldl_cons, hread, ih]
  simp only [serve, hreads, finish, Session.finish, hid]
  exact hflush _

/-! ### Main result -/

/-- What holds of the session of a client that was let in under this id, at this state, and brought
these octets. -/
structure LetIn (s t : Server σ) (id : ClientId) (bs : Octets) (x : Course σ) : Prop where
  /-- The frames of the octets are handled one by one, up to the first that closes the
  connection. -/
  handled : x.handled = (t.handle id (parse bs).1).frames
  /-- These are the first frames of the octets, and all of them if none closes the connection. -/
  front : x.handled <+: (parse bs).1 ∧
    ((t.handle id (parse bs).1).closes = false → x.handled = (parse bs).1)
  /-- Nothing happens to the server but that these frames arrive and that the connection ends. -/
  server : let u := t.run (x.handled.map (.frame id))
    x.server = (if (t.handle id (parse bs).1).closes then u else u.note (.clientLeft id)).disconnect
      id
  /-- The connection is known no more. -/
  unknown : x.server.client? id = none
  /-- It has left its tty, and it does not sit in the lobby either. -/
  seat : ∀ tty, id ∉ x.server.tree.clientsOf tty
  /-- It does not have the device to itself. -/
  device : x.server.rawHolder ≠ some id
  /-- It does not count as the one that was shown last. -/
  display : x.server.lastShown ≠ some id
  /-- The client reads what has been queued for it, in order, and then the end of the line. -/
  line : ∃ packets, x.server.outbox id = s.outbox id ++ packets ∧
    x.session.read = (packets.flatMap Packet.encode, { x.session with sent := [], endSeen := true })

/-- What holds of the session of a client that was not let in. -/
structure TurnedAway (s : Server σ) (x : Course σ) : Prop where
  handled : x.handled = []
  /-- The client reads that it is refused, and then the end of the line. -/
  line : x.session.read = ((Packet.error .connectionRefused).encode,
    { x.session with sent := [], endSeen := true })
  clients : x.server.clients = s.clients
  tree : x.server.tree = s.tree
  waiting : x.server.waiting = s.waiting
  nextId : x.server.nextId = s.nextId
  packets : x.server.packets = s.packets
  device : Offstage s x.server

/-- What holds of the session of a client that comes and brings these reads. -/
structure WellServed (s : Server σ) (peer : String) (now : Nat) (reads : List Octets) : Prop where
  /-- Other reads of the same octets make no difference: the frames that are handled, the server
  with all that it has done, and the line are the same. -/
  uncut : ∀ reads', reads'.flatten = reads.flatten →
    serve s peer now reads' = serve s peer now reads
  /-- Octets behind the last whole frame make no difference to the server or to the client. -/
  dropped : ∀ reads', (parse reads'.flatten).1 = (parse reads.flatten).1 →
    (serve s peer now reads').handled = (serve s peer now reads).handled ∧
      (serve s peer now reads').server = (serve s peer now reads).server ∧
      (serve s peer now reads').session.read.1 = (serve s peer now reads).session.read.1
  /-- Octets behind a frame that closes the connection make no difference at all, not even if they
  come with it. -/
  closed : ∀ id, (s.accept peer now).1 = .ok id →
    ((s.accept peer now).2.handle id (parse reads.flatten).1).closes = true →
    ∀ reads' more, reads'.flatten = reads.flatten ++ more →
      serve s peer now reads' = serve s peer now reads
  letIn : ∀ id, (s.accept peer now).1 = .ok id →
    LetIn s (s.accept peer now).2 id reads.flatten (serve s peer now reads)
  turnedAway : ∀ e, (s.accept peer now).1 = .error e →
    TurnedAway s (serve s peer now reads)

/-- What a session that was let in comes to is what is due to it. -/
theorem outcome_letIn (ht : t.Consistent) (hst : t.outbox id = s.outbox id) (bs : Octets) :
    LetIn s t id bs (outcome t id bs) := by
  have hr := ht.handle id (parse bs).1
  have hgrows := effects_handle ht id (parse bs).1
  -- whether or not the connection is to close, it ends at a state that fits together
  obtain ⟨u, hu, hcons, hmore⟩ : ∃ u : Server σ, (outcome t id bs).server = u.disconnect id ∧
      u.Consistent ∧ t.effects <+: u.effects := by
    refine ⟨_, rfl, ?_⟩
    split
    · exact ⟨hr, hgrows⟩
    · exact ⟨hr.of_changes (.note ..), hgrows.trans (List.prefix_append ..)⟩
  have hend : (u.disconnect id).Consistent := hcons.step (.departure id)
  have hunknown : (u.disconnect id).client? id = none := by simp [client?_disconnect]
  have habsent := hend.absent hunknown
  rw [← hu] at habsent
  constructor
  case handled => rfl
  case front => exact frames_handle t id (parse bs).1
  case server =>
    dsimp only
    rw [outcome, after, ← server_handle]
  case unknown => rw [hu, hunknown]
  case seat => exact habsent.seat
  case device => exact habsent.device
  case display => exact habsent.display
  case line =>
    refine ⟨queued id t (u.disconnect id), ?_, ?_⟩
    · rw [hu, ← hst]
      exact outbox_of_grows (hmore.trans (effects_disconnect u id))
    · rw [← hu]
      rfl

omit [Driver σ] in
/-- A client that is not let in leaves the server as it was, but for the log. -/
theorem begin_turnedAway {peer : String} {now : Nat} {e : AdmissionError}
    (h : (s.accept peer now).1 = .error e) : TurnedAway s (begin s peer now) := by
  have hoff := (accept_offstage s peer now).trans (.note _ (.connectionRefused e peer))
  have hpackets := packets_accept s peer now
  obtain ⟨noted, effects, hsame⟩ := accept_of_error h
  rw [begin_of_error h]
  rw [hsame] at hoff hpackets ⊢
  exact ⟨rfl, rfl, rfl, rfl, rfl, rfl, (packets_note ..).trans hpackets, hoff⟩

/-- In every reachable state: whatever octets a client sends and however they are cut into reads,
its session depends on their frames alone, and it leaves nothing behind. -/
theorem session_well_served (h : s.Reachable) (peer : String) (now : Nat) (reads : List Octets) :
    WellServed s peer now reads := by
  obtain ⟨given, h⟩ := h
  have hs := h.consistent
  cases haccept : (s.accept peer now).1 with
  | error e =>
    -- nobody was let in, so whatever is sent is not read
    have hall := serve_of_error haccept
    refine ⟨?_, ?_, ?_, ?_, ?_⟩
    · exact fun reads' _ => (hall reads').trans (hall reads).symm
    · intro reads' _
      rw [hall, hall]
      exact ⟨rfl, rfl, rfl⟩
    · intro id hid
      cases haccept.symm.trans hid
    · intro id hid
      cases haccept.symm.trans hid
    · intro _ _
      rw [hall]
      exact begin_turnedAway haccept
  | ok id =>
    have ht : (s.accept peer now).2.Consistent := hs.step (.arrival peer now)
    have hall := serve_of_ok hs haccept
    refine ⟨?_, ?_, ?_, ?_, ?_⟩
    · intro reads' hreads
      rw [hall, hall, hreads]
    · intro reads' hframes
      rw [hall, hall]
      simp only [outcome, hframes]
      exact ⟨rfl, rfl, rfl⟩
    · intro id' hid hcloses reads' more hreads
      obtain rfl : id = id' := Except.ok.inj (haccept.symm.trans hid)
      rw [hall, hall, hreads, outcome_of_closes hcloses]
    · intro id' hid
      obtain rfl : id = id' := Except.ok.inj (haccept.symm.trans hid)
      rw [hall]
      refine outcome_letIn ht ?_ reads.flatten
      rw [outbox, packets_accept, outbox]
    · intro e he
      cases haccept.symm.trans he

/-- The first packets of a client that takes a tty. -/
def visit : List Packet :=
  [.login [], ⟨PacketKind.getTty.code, Request.encodeTty ⟨[4], ""⟩⟩]

/-- These packets in one read, with the beginning of a third behind them. -/
def visitAtOnce : List Octets :=
  [visit.flatMap Packet.encode ++ [0, 0, 0]]

/-- The same octets in three reads, the second of which brings the end of the first packet and the
beginning of the second. -/
def visitInPieces : List Octets :=
  let octets := visitAtOnce.flatten
  [octets.take 9, (octets.drop 9).take 8, octets.drop 17]

/-- A visit in pieces comes to the same as at once, and both are well served. -/
theorem session_well_served_visit : rehearsed.Reachable ∧
    (serve rehearsed "c" 5 visitInPieces).handled = visit.map .packet ∧
    serve rehearsed "c" 5 visitInPieces = serve rehearsed "c" 5 visitAtOnce ∧
    WellServed rehearsed "c" 5 visitAtOnce := by
  have hserved := session_well_served ⟨_, rehearsed_reachable⟩ "c" 5 visitAtOnce
  refine ⟨⟨_, rehearsed_reachable⟩, ?_, ?_, hserved⟩
  · decide +kernel
  · exact hserved.uncut visitInPieces (by decide)

-- a login with the wrong key closes the connection, and what comes with it is not looked at
example : (serve rehearsed "c" 5 [(Packet.login [1]).encode ++ visitAtOnce.flatten]).handled =
    [.packet (.login [1])] := by
  decide +kernel

end Course

end BrailleShare
