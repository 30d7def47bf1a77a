import BrailleShare.Server.Requests

/-!
# Sessions

A session is the server's end of the line to one client. The octets that arrive are cut into frames
and each frame is handled in turn, up to the first after which the connection is to close; what
follows that one is never looked at. Whatever the server queues for the client is sent in order, and
the line is closed after it.

A session ends when the client leaves, when a packet closes the connection, or when the server has
ended the connection by itself. In each case the connection is gone from the server.

A line that fails while queued packets are written to it is left out: what is queued counts as sent.
-/

namespace BrailleShare

namespace Server

variable {σ : Type} [Driver σ]

/-- Handles the frames that a source completes, one by one, until the source has nothing more or the
connection is to close. Gives what each frame led to. -/
def onStream (s : Server σ) (id : ClientId) (f : Framer) (source : List Read) :
    List Verdict × Framer × Server σ :=
  match h : f.pull source with
  | (.frame frame, f', rest) =>
    have : Read.totalWeight rest < Read.totalWeight source := by
      have lt := @Framer.totalWeight_pull_lt f source frame
      rw [h] at lt
      exact lt rfl
    match s.onFrame id frame with
    | (.close, s) => ([.close], f', s)
    | (.proceed, s) =>
      let r := s.onStream id f' rest
      (.proceed :: r.1, r.2)
  | (_, f', _) => ([], f', s)
  termination_by Read.totalWeight source

end Server

/-- The line to one client. -/
structure Session where
  /-- The connection, or none if it was not let in. -/
  id : Option ClientId
  framer : Framer
  /-- Whether the server has closed its end. -/
  ended : Bool
  /-- Whether the client still listens. -/
  listening : Bool
  /-- What is on its way to the client. -/
  sent : Octets
  /-- Whether the client has seen the end of the line. -/
  endSeen : Bool
  deriving DecidableEq, Repr

namespace Session

variable {σ : Type} [Driver σ]

/-- Lets a client in. One that is refused is sent an error, and that is the end of it. -/
def connect (s : Server σ) (peer : String) (now : Nat) : Session × Server σ :=
  match s.accept peer now with
  | (.ok id, s) => (⟨some id, .idle, false, true, [], false⟩, s)
  | (.error e, s) =>
    (⟨none, .idle, true, true, (Packet.error .connectionRefused).encode, false⟩,
      s.note (.connectionRefused e peer))

/-- Takes octets from the client. -/
def receive (x : Session) (s : Server σ) (bs : Octets) : Session × Server σ :=
  match x.id with
  | none => (x, s)
  | some id =>
    if x.ended then (x, s)
    else
      let r := s.onStream id x.framer (Read.chunk bs)
      let x := { x with framer := r.2.1 }
      if r.1.contains .close then ({ x with ended := true }, r.2.2.disconnect id)
      else (x, r.2.2)

/-- The client sends no more. -/
def finish (x : Session) (s : Server σ) : Session × Server σ :=
  match x.id with
  | none => (x, s)
  | some id =>
    if x.ended then (x, s)
    else ({ x with ended := true }, (s.note (.clientLeft id)).disconnect id)

/-- The client goes away: it sends no more and hears no more. -/
def hangUp (x : Session) (s : Server σ) : Session × Server σ :=
  ({ x with listening := false } : Session).finish s

omit [Driver σ] in
/-- Ends the session if the server has ended the connection by itself. -/
def settle (x : Session) (s : Server σ) : Session × Server σ :=
  match x.id with
  | none => (x, s)
  | some id =>
    if x.ended || (s.client? id).isSome then (x, s)
    else ({ x with ended := true }, s.note (.sessionDropped id))

/-- Sends what has been queued for the client. -/
def collect (x : Session) (effects : List Effect) : Session :=
  { x with
    sent := x.sent ++ effects.flatMap fun e =>
      match e with
      | .packet id p => if x.id = some id then p.encode else []
      | _ => [] }

/-- The client reads what has been sent, and after that the end of the line if there is one. -/
def read (x : Session) : Octets × Session :=
  if x.listening then (x.sent, { x with sent := [], endSeen := x.endSeen || x.ended })
  else ([], { x with sent := [] })

end Session

end BrailleShare
