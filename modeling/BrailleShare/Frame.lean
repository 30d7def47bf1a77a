import BrailleShare.Packet

/-!
# Frames

A stream of octets is cut into frames: a header of two words, the payload's length and the type,
then as many octets as the length says. A payload within the limit makes a packet; a longer one is
let go by and only reported.

A `Framer` remembers how far it has come in the current frame, so that it can be given a source
that has nothing more to say for now and be asked again later. Before each read it says how many
octets it asks for, never more than the current frame still needs, and so never takes an octet of
the next one.
-/

namespace BrailleShare

/-- What one frame of a stream amounts to. -/
inductive Frame where
  /-- A packet with its whole payload. -/
  | packet (p : Packet)
  /-- A payload beyond the limit has gone by. -/
  | oversized (type : UInt32) (size : Nat)
  deriving DecidableEq, Repr

/-- How far the current frame has come. -/
inductive Framer where
  /-- Some octets of the header are there, fewer than all. -/
  | header (got : Octets)
  /-- Some octets of a payload of the given size are there, fewer than all. -/
  | content (type : UInt32) (size : Nat) (got : Octets)
  /-- A payload beyond the limit goes by; some of it is still to come. -/
  | discarding (type : UInt32) (size remaining : Nat)
  deriving DecidableEq, Repr

namespace Framer

/-- The framer between two frames. -/
def idle : Framer := .header []

/-- Whether no octet of a frame has been read. -/
def isIdle : Framer → Bool
  | .header got => got.isEmpty
  | _ => false

/-- The most octets that the next read may bring. -/
def asks : Framer → Nat
  | .header got => headerSize - got.length
  | .content _ size got => size - got.length
  | .discarding _ _ remaining => min remaining maxPayload

/-- What a whole header leads to: an empty payload is complete at once. -/
def afterHeader (size : Nat) (type : UInt32) : Framer × Option Frame :=
  if size = 0 then (idle, some (.packet ⟨type, []⟩))
  else if size ≤ maxPayload then (.content type size [], none)
  else (.discarding type size size, none)

/-- Takes in the octets of one read, at most as many as were asked for. -/
def absorb (f : Framer) (bs : Octets) : Framer × Option Frame :=
  match f with
  | .header got =>
    match got ++ bs with
    | [a, b, c, d, e, g, h, i] => afterHeader (Octets.word a b c d).toNat (Octets.word e g h i)
    | got => (.header got, none)
  | .content type size got =>
    let got := got ++ bs
    if got.length < size then (.content type size got, none)
    else (idle, some (.packet ⟨type, got⟩))
  | .discarding type size remaining =>
    let remaining := remaining - bs.length
    if 0 < remaining then (.discarding type size remaining, none)
    else (idle, some (.oversized type size))

end Framer

/-! ## Sources -/

/-- What a source of octets has in store for a read. -/
inductive Read where
  /-- Octets; a read takes as many as it asked for and leaves the rest in front. No octets at all
  stand for the end of the stream. -/
  | data (bs : Octets)
  /-- Nothing for now. -/
  | wouldBlock
  /-- The read was interrupted and may be tried again. -/
  | interrupted
  /-- The end of the stream. -/
  | endOfStream
  /-- The read failed. -/
  | failed (reason : String)
  deriving DecidableEq, Repr

namespace Read

/-- What is left of some octets after a read, in front of the rest of the source. -/
def leave (bs : Octets) (rest : List Read) : List Read :=
  if bs = [] then rest else .data bs :: rest

/-- An upper bound for the number of reads an entry can answer. -/
def weight : Read → Nat
  | .data bs => bs.length + 1
  | _ => 1

/-- An upper bound for the number of reads a source can answer. -/
def totalWeight : List Read → Nat
  | [] => 0
  | r :: rest => r.weight + totalWeight rest

/-- The first read counts for itself, the rest as before. -/
@[simp] theorem totalWeight_cons (r : Read) (rest : List Read) :
    totalWeight (r :: rest) = r.weight + totalWeight rest :=
  rfl

/-- What is left of a read weighs no more than its octets and one. -/
theorem totalWeight_leave_le (bs : Octets) (rest : List Read) :
    totalWeight (leave bs rest) ≤ bs.length + 1 + totalWeight rest := by
  unfold leave
  split
  · omega
  · simp [weight]

/-- A read that brings something makes the source smaller. -/
theorem totalWeight_leave_lt {bs front : Octets} {n : Nat} {rest : List Read} {b : UInt8}
    (h : bs.take n = b :: front) :
    totalWeight (leave (bs.drop n) rest) < totalWeight (.data bs :: rest) := by
  have hlen : (bs.take n).length = front.length + 1 := by rw [h]; rfl
  have := totalWeight_leave_le (bs.drop n) rest
  simp only [List.length_take, List.length_drop, totalWeight_cons, weight] at *
  omega

end Read

/-- The answer to one call for a frame. -/
inductive FrameAnswer where
  /-- The source has nothing for now. -/
  | pending
  | frame (f : Frame)
  /-- The stream has ended. -/
  | endOfStream
  /-- The source failed. -/
  | failed (reason : String)
  deriving DecidableEq, Repr

/-- A failure to give a frame, in words. -/
def FrameAnswer.message : FrameAnswer → String
  | .endOfStream => "end of stream"
  | .failed reason => s!"read failed: {reason}"
  | .pending => "pending"
  | .frame _ => "frame"

namespace Framer

/-- Reads from a source until a frame is whole or the source has nothing, ends or fails. Whatever
was read towards a frame is kept for the next call. -/
def pull (f : Framer) : List Read → FrameAnswer × Framer × List Read
  | [] => (.pending, f, [])
  | .wouldBlock :: rest => (.pending, f, rest)
  | .interrupted :: rest => f.pull rest
  | .endOfStream :: rest => (.endOfStream, f, rest)
  | .failed reason :: rest => (.failed reason, f, rest)
  | .data bs :: rest =>
    let source := Read.leave (bs.drop f.asks) rest
    match h : bs.take f.asks with
    | [] => (.endOfStream, f, source)
    | b :: front =>
      have := @Read.totalWeight_leave_lt bs front f.asks rest b h
      match f.absorb (b :: front) with
      | (f', some frame) => (.frame frame, f', source)
      | (f', none) => f'.pull source
  termination_by source => Read.totalWeight source
  decreasing_by
    · simp [Read.weight]
    · exact this

/-- A call that gives a frame has taken something from the source. -/
theorem totalWeight_pull_lt {f : Framer} {source : List Read} {frame : Frame}
    (h : (f.pull source).1 = .frame frame) :
    Read.totalWeight (f.pull source).2.2 < Read.totalWeight source := by
  fun_induction f.pull source with
  | case1 => cases h
  | case2 => cases h
  | case3 f rest ih => exact Nat.lt_trans (ih h) (by simp [Read.weight])
  | case4 => cases h
  | case5 => cases h
  | case6 => cases h
  | case7 => assumption
  | case8 _ _ _ _ _ _ _ lt _ _ ih => exact Nat.lt_trans (ih h) lt

end Framer

/-- The source that holds octets already received and nothing more for now. -/
def Read.chunk (bs : Octets) : List Read :=
  Read.leave bs []

end BrailleShare
