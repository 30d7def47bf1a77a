import BrailleShare.Proofs.Frame.Calls

/-!
# Packets on the wire and off it

A sender writes packets one behind the other; what arrives comes in chunks that may end anywhere. A
framer is given chunk by chunk, and is called on each until it has nothing more to give.

Main statements: encoded packets in a row are just the frames that they announce
(`Frame.parse_flatMap_encode`), and octets whose frames are all packets are these packets encoded
(`Frame.flatMap_encode_of_parse`); chunks lead where their octets in one piece lead
(`Framer.feed_eq`); so writing packets and cutting a stream undo each other, however the stream
is divided (`Framer.feed_undoes_encode`).
-/

namespace BrailleShare

namespace Frame

variable {bs rest : Octets} {p : Packet} {ps : List Packet}

/-! ### Packets in a row -/

/-- What arrives of a packet: itself, or its type and length if it is beyond the limit. -/
def ofPacket (p : Packet) : Frame :=
  ofPayload p.type p.payload.length p.payload

/-- A packet with a payload within the limit comes as it is. -/
theorem ofPacket_of_le (hp : p.payload.length ≤ maxPayload) : ofPacket p = .packet p :=
  if_pos hp

/-- A packet with a longer payload comes as its type and size. -/
theorem ofPacket_of_lt (hp : maxPayload < p.payload.length) :
    ofPacket p = .oversized p.type p.payload.length :=
  if_neg (Nat.not_le_of_lt hp)

/-- A packet whose length fits its header is the first frame of its octets, whatever follows. -/
theorem first?_encode_append (hp : p.payload.length < UInt32.size) (rest : Octets) :
    first? (p.encode ++ rest) = some (ofPacket p, rest) := by
  have hsize : (UInt32.ofNat p.payload.length).toNat = p.payload.length :=
    UInt32.toNat_ofNat_of_lt' hp
  have hle : p.payload.length ≤ (p.payload ++ rest).length := by
    rw [List.length_append]
    exact Nat.le_add_right ..
  rw [Packet.encode, List.append_assoc, first?_words, hsize, if_pos hle, List.take_left,
    List.drop_left, ofPacket]

/-- Packets that are written one after the other are read one after the other, and nothing is
left. -/
theorem parse_flatMap_encode (hps : ∀ p ∈ ps, p.payload.length < UInt32.size) :
    parse (ps.flatMap Packet.encode) = (ps.map ofPacket, []) := by
  induction ps with
  | nil => exact parse_nil
  | cons p ps ih =>
    obtain ⟨hp, hps⟩ := List.forall_mem_cons.1 hps
    rw [List.flatMap_cons, parse_of_some (first?_encode_append hp _), ih hps]
    rfl

/-- Octets that begin with a packet begin with its encoding. -/
theorem eq_encode_of_first? (h : first? bs = some (.packet p, rest)) : bs = p.encode ++ rest := by
  rcases short_or_header bs with hs | ⟨a, b, c, d, e, f, g, i, payload, rfl⟩
  · simp [first?_of_short hs] at h
  · rw [first?_header] at h
    split at h
    · rename_i hle
      obtain ⟨hframe, rfl⟩ : _ ∧ _ := by simpa using h
      unfold ofPayload at hframe
      split at hframe
      · obtain rfl := Frame.packet.inj hframe
        have hlen : (payload.take (Octets.word a b c d).toNat).length =
            (Octets.word a b c d).toNat := List.length_take_of_le hle
        simp only [Packet.encode, hlen, UInt32.ofNat_toNat, Octets.ofWord_word, List.cons_append,
          List.nil_append, List.take_append_drop]
      · cases hframe
    · cases h

/-- Octets that are packets and nothing else are these packets encoded. -/
theorem flatMap_encode_of_parse (h : parse bs = (ps.map .packet, [])) :
    bs = ps.flatMap Packet.encode := by
  induction ps generalizing bs with
  | nil =>
    cases hf : first? bs with
    | none =>
      rw [parse_of_none hf] at h
      exact congrArg Prod.snd h
    | some r => simp [parse_of_some hf] at h
  | cons p ps ih =>
    cases hf : first? bs with
    | none => simp [parse_of_none hf] at h
    | some r =>
      obtain ⟨frame, rest⟩ := r
      rw [parse_of_some hf] at h
      obtain ⟨⟨rfl, hframes⟩, hleft⟩ :
          (frame = .packet p ∧ (parse rest).1 = ps.map .packet) ∧ (parse rest).2 = [] := by
        simpa using h
      rw [eq_encode_of_first? hf, ih (Prod.ext hframes hleft), List.flatMap_cons]

end Frame

namespace Framer

open BrailleShare.Frame (parse first?)

variable {p : Octets}

/-! ### Chunk by chunk -/

/-- What came of calls on a source: the frames given, the framer after that, the answer of the last
call, and what is left in the source. -/
structure Drained where
  frames : List Frame
  framer : Framer
  answer : FrameAnswer
  left : List Read
  deriving DecidableEq, Repr

/-- Calls on a source, one after the other, up to the first that gives no frame. -/
def drain (f : Framer) (source : List Read) : Drained :=
  match h : f.pull source with
  | (.frame frame, f', rest) =>
    have : Read.totalWeight rest < Read.totalWeight source := by
      have lt := @totalWeight_pull_lt f source frame
      rw [h] at lt
      exact lt rfl
    { f'.drain rest with frames := frame :: (f'.drain rest).frames }
  | (answer, f', rest) => ⟨[], f', answer, rest⟩
  termination_by Read.totalWeight source

/-- A drain gives the frame of its first call and goes on. -/
theorem drain_of_frame {f f' : Framer} {source rest : List Read} {frame : Frame}
    (h : f.pull source = (.frame frame, f', rest)) :
    f.drain source = { f'.drain rest with frames := frame :: (f'.drain rest).frames } := by
  rw [drain]
  split <;> simp_all

/-- A drain ends with a call that has to wait. -/
theorem drain_of_pending {f f' : Framer} {source rest : List Read}
    (h : f.pull source = (.pending, f', rest)) : f.drain source = ⟨[], f', .pending, rest⟩ := by
  rw [drain]
  split <;> simp_all

/-- Of a chunk every frame is given that it completes, and the last call takes what is left. -/
theorem drain_chunk (h : first? p = none) (bs : Octets) :
    (after p).drain (Read.chunk bs) =
      ⟨(parse (p ++ bs)).1, after (parse (p ++ bs)).2, .pending, []⟩ := by
  generalize hall : (parse (p ++ bs)).1 = frames
  induction frames generalizing p bs with
  | nil =>
    cases hfirst : first? (p ++ bs) with
    | none =>
      have hpull := pull_chunk h bs
      rw [hfirst] at hpull
      rw [drain_of_pending hpull, Frame.parse_of_none hfirst]
    | some r => simp [Frame.parse_of_some hfirst] at hall
  | cons frame frames ih =>
    cases hfirst : first? (p ++ bs) with
    | none => simp [Frame.parse_of_none hfirst] at hall
    | some r =>
      obtain ⟨whole, rest⟩ := r
      have hpull := pull_chunk h bs
      rw [hfirst] at hpull
      rw [Frame.parse_of_some hfirst] at hall ⊢
      obtain ⟨rfl, hframes⟩ : whole = frame ∧ (parse rest).1 = frames := by simpa using hall
      have hmore : idle.drain (Read.chunk rest) = ⟨frames, after (parse rest).2, .pending, []⟩ :=
        ih (p := []) rfl rest hframes
      rw [drain_of_frame hpull, hmore]

/-- What came of chunks that a framer was given one after the other. -/
structure Feeding where
  /-- The frames that were given, the oldest first. -/
  frames : List Frame
  framer : Framer
  /-- For each chunk the answer of the last call on it, and what was left of it then. -/
  ends : List (FrameAnswer × List Read)
  deriving DecidableEq, Repr

/-- Gives a framer chunk by chunk. -/
def feed (f : Framer) : List Octets → Feeding
  | [] => ⟨[], f, []⟩
  | chunk :: chunks =>
    let r := f.drain (Read.chunk chunk)
    let more := r.framer.feed chunks
    ⟨r.frames ++ more.frames, more.framer, (r.answer, r.left) :: more.ends⟩

/-- Chunks lead where their octets in one piece lead, and each is used up. -/
theorem feed_eq (h : first? p = none) (chunks : List Octets) :
    (after p).feed chunks =
      ⟨(parse (p ++ chunks.flatten)).1, after (parse (p ++ chunks.flatten)).2,
        chunks.map fun _ => (.pending, [])⟩ := by
  induction chunks generalizing p with
  | nil => simp [feed, Frame.parse_of_none h]
  | cons chunk chunks ih =>
    rw [feed, drain_chunk h, ih (Frame.first?_parse _), List.flatten_cons, ← List.append_assoc,
      Frame.parse_append (p ++ chunk)]
    rfl

/-- The same for a framer that is between two frames. -/
theorem feed_idle (chunks : List Octets) :
    idle.feed chunks = ⟨(parse chunks.flatten).1, after (parse chunks.flatten).2,
      chunks.map fun _ => (.pending, [])⟩ :=
  feed_eq (p := []) rfl chunks

/-! ### Main result -/

/-- What packets have come to that were written one behind the other and arrive in chunks. -/
structure Delivered (ps : List Packet) (chunks : List Octets) : Prop where
  /-- Each packet arrives in its turn, whole or, if it is beyond the limit, by type and length. -/
  frames : (idle.feed chunks).frames = ps.map Frame.ofPacket
  /-- The framer waits for the next packet. -/
  idle : (idle.feed chunks).framer.isIdle = true
  /-- The last call on each chunk finds nothing more, and nothing is left of the chunk. -/
  drained : (Framer.idle.feed chunks).ends = chunks.map fun _ => (.pending, [])

/-- Packets that are written one behind the other arrive one by one in whatever chunks, and if
chunks hold packets within the limit and nothing else, then they hold these packets written one
behind the other. -/
theorem feed_undoes_encode (chunks : List Octets) (ps : List Packet) :
    ((∀ p ∈ ps, p.payload.length < UInt32.size) → chunks.flatten = ps.flatMap Packet.encode →
      Delivered ps chunks) ∧
    ((idle.feed chunks).frames = ps.map .packet → (idle.feed chunks).framer.isIdle = true →
      chunks.flatten = ps.flatMap Packet.encode) := by
  have hfeed := feed_idle chunks
  constructor
  · intro hps hflat
    rw [hflat, Frame.parse_flatMap_encode hps] at hfeed
    constructor
    · rw [hfeed]
    · rw [hfeed]
      rfl
    · rw [hfeed]
  · intro hframes hidle
    rw [hfeed] at hframes hidle
    exact Frame.flatMap_encode_of_parse (Prod.ext hframes (isIdle_after.1 hidle))

/-- A payload that is a single octet beyond the limit. -/
def excess : Octets :=
  List.replicate (maxPayload + 1) 7

/-- The payload is one octet too long. -/
theorem length_excess : excess.length = 513 :=
  List.length_replicate

/-- An empty packet, one beyond the limit, and one of a single octet. -/
def assorted : List Packet :=
  [⟨65, []⟩, ⟨119, excess⟩, ⟨107, [1]⟩]

/-- The octets of the three packets, cut within the second header. -/
def assortedChunks : List Octets :=
  [(assorted.flatMap Packet.encode).take 11, [], (assorted.flatMap Packet.encode).drop 11]

/-- Three packets in pieces, of which the second is too long, are read back, and so is one in two
pieces. -/
theorem feed_undoes_encode_assorted :
    Delivered assorted assortedChunks ∧
      assorted.map Frame.ofPacket =
        [.packet ⟨65, []⟩, .oversized 119 513, .packet ⟨107, [1]⟩] ∧
      (idle.feed [[0, 0, 0, 1, 0], [0, 0, 107, 1]]).frames = [.packet ⟨107, [1]⟩] ∧
      [[0, 0, 0, 1, 0], [0, 0, 107, 1]].flatten = [⟨107, [1]⟩].flatMap Packet.encode := by
  have hsmall : ∀ p ∈ assorted, p.payload.length < UInt32.size := by
    simp [assorted, length_excess, UInt32.size]
  have hflat : assortedChunks.flatten = assorted.flatMap Packet.encode := by
    simp [assortedChunks]
  have hframes : (idle.feed [[0, 0, 0, 1, 0], [0, 0, 107, 1]]).frames = [.packet ⟨107, [1]⟩] := by
    decide +kernel
  have hidle : (idle.feed [[0, 0, 0, 1, 0], [0, 0, 107, 1]]).framer.isIdle = true := by
    decide +kernel
  refine ⟨(feed_undoes_encode assortedChunks assorted).1 hsmall hflat, ?_, hframes, ?_⟩
  · have hempty := Frame.ofPacket_of_le (p := ⟨65, []⟩) (Nat.zero_le _)
    have hexcess := Frame.ofPacket_of_lt (p := ⟨119, excess⟩) (by simp [length_excess, maxPayload])
    have hone := Frame.ofPacket_of_le (p := ⟨107, [1]⟩) (by simp [maxPayload])
    simp only [assorted, List.map_cons, List.map_nil, hempty, hexcess, hone, length_excess]
  · exact (feed_undoes_encode _ [⟨107, [1]⟩]).2 hframes hidle

end Framer

end BrailleShare
