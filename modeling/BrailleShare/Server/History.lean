import BrailleShare.Server.Host
import BrailleShare.Server.Requests

/-!
# Histories

Everything that can happen to a server, as data, and the state that a history of events leads to.
What the device does by itself, such as a key that is pressed, is an event too: the driver's state
has become another one. A state is reachable if some history leads to it from the start.

A history also tells which ttys clients were given, by the paths that they asked for; these *grants*
are what a client could know from its own requests and the answers to them.

Main statements: a history may be cut anywhere (`run_append`, `grantsOf_append`), and what holds at
the start and survives each event holds in every reachable state (`ReachableWith.invariant`,
`Reachable.invariant`).
-/

namespace BrailleShare

/-- Something that happens to a server with a driver `σ`. -/
inductive Event (σ : Type) where
  /-- A client asks to be let in. -/
  | arrival (peer : String) (now : Nat)
  /-- A frame has arrived from a connection. -/
  | frame (id : ClientId) (f : Frame)
  /-- A connection has ended. -/
  | departure (id : ClientId)
  /-- It is time to look for connections that have waited too long. -/
  | clock (now : Nat)
  /-- Connections that have waited too long are to end, without a word on how many there were. -/
  | expiry (now : Nat)
  /-- The server is to close. -/
  | closing
  /-- The host shows another console. -/
  | console (number : UInt32)
  /-- Somebody asks whose window is to be shown. -/
  | ownerAsked
  /-- Somebody asks who would take a key event. -/
  | recipientAsked (command : UInt32) (keycode : Option UInt32)
  /-- The host asks for a command. -/
  | cycle
  /-- The host shows a window. -/
  | hostWindow (cells : Octets)
  /-- The host shows status cells. -/
  | hostStatus (cells : Octets)
  /-- The host resets the device. -/
  | hostReset
  /-- The host has started another driver. -/
  | replacement (driver : σ)
  /-- The device has done something by itself. -/
  | device (driver : σ)

/-- A tty that a client was given. -/
structure Grant where
  client : ClientId
  /-- The path that the client asked for. -/
  path : List UInt32
  deriving DecidableEq, Repr

namespace Grant

/-- The path of the last tty that a client was given. -/
def lastPath? (given : List Grant) (id : ClientId) : Option (List UInt32) :=
  (given.reverse.find? fun g => g.client == id).map (·.path)

/-- The last tty given to one client was given before the last one given to another. -/
def Earlier (given : List Grant) (a b : ClientId) : Prop :=
  ∃ before path after, given = before ++ ⟨a, path⟩ :: after ∧
    (∀ g ∈ after, g.client ≠ a) ∧ ∃ g ∈ after, g.client = b

end Grant

namespace Server

variable {σ : Type} [Driver σ]

/-- The state after an event. -/
def step (s : Server σ) : Event σ → Server σ
  | .arrival peer now => (s.accept peer now).2
  | .frame id f => (s.onFrame id f).2
  | .departure id => s.disconnect id
  | .clock now => s.maintain now
  | .expiry now => (s.expire now).2
  | .closing => s.shutdown
  | .console number => s.switchConsole number
  | .ownerAsked => s.displayOwner.2
  | .recipientAsked command keycode => (s.keyRecipient command keycode).2
  | .cycle => s.cycle.2
  | .hostWindow cells => (s.hostWindow cells).2
  | .hostStatus cells => (s.hostStatus cells).2
  | .hostReset => s.hostReset.2
  | .replacement driver => (s.changeDriver driver).2
  | .device driver => { s with driver }

/-- The state after a history, the oldest event first. -/
def run (s : Server σ) (events : List (Event σ)) : Server σ :=
  events.foldl step s

/-- Without events a state stays as it is. -/
@[simp]
theorem run_nil (s : Server σ) : s.run [] = s :=
  rfl

/-- A history begins with its first event. -/
@[simp]
theorem run_cons (s : Server σ) (e : Event σ) (events : List (Event σ)) :
    s.run (e :: events) = (s.step e).run events :=
  rfl

/-- A history may be cut anywhere. -/
theorem run_append (s : Server σ) (before after : List (Event σ)) :
    s.run (before ++ after) = (s.run before).run after :=
  List.foldl_append

/-! ## Grants -/

/-- The effects that an event adds to those there are. -/
def added (s : Server σ) (e : Event σ) : List Effect :=
  (s.step e).effects.drop s.effects.length

/-- What an event grants: the tty that a client asks for, if the client is told that it has it. -/
def grants (s : Server σ) (e : Event σ) : List Grant :=
  match e with
  | .frame id (.packet p) =>
    match p.kind?, Request.decodeTty p.payload with
    | some .getTty, .ok request =>
      if .packet id .ack ∈ s.added e then [⟨id, request.path⟩] else []
    | _, _ => []
  | _ => []

/-- What a history grants, the oldest grant first. -/
def grantsOf (s : Server σ) : List (Event σ) → List Grant
  | [] => []
  | e :: events => s.grants e ++ (s.step e).grantsOf events

/-- The grants of two histories, one after the other. -/
theorem grantsOf_append (s : Server σ) (before after : List (Event σ)) :
    s.grantsOf (before ++ after) = s.grantsOf before ++ (s.run before).grantsOf after := by
  induction before generalizing s with
  | nil => rfl
  | cons e before ih => simp only [List.cons_append, grantsOf, run_cons, ih, List.append_assoc]

/-! ## Reachable states -/

/-- A state that a server may come to after its start, and what has been granted on the way. -/
def ReachableWith (s : Server σ) (given : List Grant) : Prop :=
  ∃ settings driver console table events,
    s = ((start settings driver console : Server σ).withTable table).run events ∧
      given = ((start settings driver console : Server σ).withTable table).grantsOf events

/-- A state that a server may come to after its start. -/
def Reachable (s : Server σ) : Prop :=
  ∃ given, s.ReachableWith given

/-- What survives each event survives a history, with what is granted on the way. -/
theorem run_invariant {P : Server σ → List Grant → Prop}
    (keeps : ∀ s given e, P s given → P (step s e) (given ++ s.grants e)) {s : Server σ}
    {given : List Grant} (h : P s given) (events : List (Event σ)) :
    P (s.run events) (given ++ s.grantsOf events) := by
  induction events generalizing s given with
  | nil => simpa [grantsOf] using h
  | cons e events ih => simpa [grantsOf] using ih (keeps s given e h)

/-- What holds at the start and survives each event holds in every reachable state. -/
theorem ReachableWith.invariant {P : Server σ → List Grant → Prop}
    (begins : ∀ settings driver console table,
      P ((start settings driver console).withTable table) [])
    (keeps : ∀ s given e, P s given → P (step s e) (given ++ s.grants e))
    {s : Server σ} {given : List Grant} (h : s.ReachableWith given) : P s given := by
  obtain ⟨settings, driver, console, table, events, rfl, rfl⟩ := h
  exact run_invariant keeps (begins settings driver console table) events

/-- What holds at the start and survives each event holds in every reachable state. -/
theorem Reachable.invariant {P : Server σ → Prop}
    (begins : ∀ settings driver console table, P ((start settings driver console).withTable table))
    (keeps : ∀ s e, P s → P (step s e)) {s : Server σ} (h : s.Reachable) : P s := by
  obtain ⟨given, h⟩ := h
  exact h.invariant (P := fun s _ => P s) begins fun s _ e => keeps s e

/-- One event more keeps a state reachable, with the grants that it brings. -/
theorem ReachableWith.step {s : Server σ} {given : List Grant} (h : s.ReachableWith given)
    (e : Event σ) : (s.step e).ReachableWith (given ++ s.grants e) := by
  obtain ⟨settings, driver, console, table, events, rfl, rfl⟩ := h
  exact ⟨settings, driver, console, table, events ++ [e], by simp [run_append],
    by simp [grantsOf_append, grantsOf]⟩

end Server

end BrailleShare
