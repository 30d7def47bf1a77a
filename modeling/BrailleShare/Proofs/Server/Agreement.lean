import BrailleShare.Driver.Rehearsal
import BrailleShare.Proofs.Server.Steps

/-!
# Records and tree agree

What a server knows of its connections it keeps in four places: the records, the clients in the
tree, the client that has the device to itself and the client that was shown last. This file says
what the four have to do with each other, in terms of the state alone.

Main statement: in every reachable state the four agree, and so no request comes upon a tty that is
not there (`records_match_tree`).
-/

namespace BrailleShare.Server

variable {σ : Type} {s : Server σ}

/-! ### Records and tree -/

/-- The records of the connections and the tree of ttys tell the same. -/
structure InStep [Driver σ] (s : Server σ) : Prop where
  /-- No two records have the same id. -/
  distinct : (s.clients.map (·.id)).Nodup
  /-- A connection is found once among the clients of all ttys. -/
  once : ∀ c ∈ s.clients, s.tree.allClients.count c.id = 1
  /-- A client without a tty sits in the lobby. -/
  lobby : ∀ c ∈ s.clients, c.holding = none → c.id ∈ s.tree.clientsOf TtyTree.lobby
  /-- A client with a tty sits there; the tty exists and is not the lobby. -/
  tty : ∀ c ∈ s.clients, ∀ h, c.holding = some h →
    c.id ∈ s.tree.clientsOf h.tty ∧ s.tree.live h.tty ∧ h.tty ≠ TtyTree.lobby
  /-- Whoever sits in a tty is known. -/
  known : ∀ id ∈ s.tree.allClients, ∃ c ∈ s.clients, c.id = id
  /-- The client that has the device to itself is known and has logged in. -/
  raw : ∀ id, s.rawHolder = some id → ∃ c ∈ s.clients, c.id = id ∧ c.loggedIn = true
  /-- The client that was shown last is known and holds a tty. -/
  shown : ∀ id, s.lastShown = some id → ∃ c ∈ s.clients, c.id = id ∧ c.holding ≠ none
  /-- No request comes upon a tty that is not there. -/
  requests : ∀ c ∈ s.clients, c.loggedIn = true → ∀ p id,
    (s.carryOut c p).refusal ≠ some (.tty (.noSuchTty id))
  /-- A newcomer finds the lobby. -/
  newcomer : ∀ id e, s.tree.attach TtyTree.lobby id ≠ .error e
  /-- The console finds the root. -/
  console : ∀ focus e, s.tree.setFocus TtyTree.root focus ≠ .error e

/-- In every reachable state the records and the tree tell the same. -/
theorem records_match_tree [Driver σ] (h : s.Reachable) : s.InStep := by
  obtain ⟨given, h⟩ := h
  have hs := h.consistent
  have hknown : ∀ {id c}, s.client? id = some c → ∃ c' ∈ s.clients, c'.id = id ∧ c' = c :=
    fun hc => ⟨_, List.mem_of_find?_eq_some hc, id_of_client? hc, rfl⟩
  have hseated : ∀ c ∈ s.clients, c.id ∈ s.tree.clientsOf c.seat := fun c hc =>
    hs.seats.mem_iff.2 (place_of_client? (hs.client?_of_mem hc))
  constructor
  case distinct =>
    refine List.pairwise_map.2 (hs.ids.imp fun hlt he => ?_)
    exact Nat.ne_of_lt hlt (congrArg ClientId.val he)
  case once =>
    intro c hc
    refine List.count_eq_one_of_mem (hs.seats.allClients_nodup hs.tree.ordered) ?_
    exact (hs.seats.mem_allClients_iff hs.tree.ordered).2
      ⟨_, place_of_client? (hs.client?_of_mem hc)⟩
  case lobby =>
    intro c hc hh
    exact Client.seat_of_none hh ▸ hseated c hc
  case tty =>
    intro c hc h hh
    have hc' := hs.client?_of_mem hc
    exact ⟨Client.seat_of_holding hh ▸ hseated c hc, hs.live_of_holding hc' hh, (hs.held hc' hh).1⟩
  case known =>
    intro id hid
    obtain ⟨tty, hplace⟩ := (hs.seats.mem_allClients_iff hs.tree.ordered).1 hid
    obtain ⟨c, hc, -⟩ := Option.map_eq_some_iff.1 hplace
    obtain ⟨c', hmem, hid, -⟩ := hknown hc
    exact ⟨c', hmem, hid⟩
  case raw =>
    intro id hr
    have hlogin := hs.raw hr
    cases hc : s.client? id with
    | none => simp [isLoggedIn, hc] at hlogin
    | some c =>
      obtain ⟨c', hmem, hid, rfl⟩ := hknown hc
      exact ⟨c', hmem, hid, by simpa [isLoggedIn, hc] using hlogin⟩
  case shown =>
    intro id hl
    obtain ⟨h, hh⟩ := Option.isSome_iff_exists.1 (hs.shown hl)
    obtain ⟨c, hc, hh⟩ := holding?_eq_some_iff.1 hh
    obtain ⟨c', hmem, hid, rfl⟩ := hknown hc
    exact ⟨c', hmem, hid, by simp [hh]⟩
  case requests =>
    intro c hc hl p id href
    -- all that the tree ever refuses is a tty beyond the limit
    cases carryOut_refusal hs (hs.client?_of_mem hc) hl href
  case newcomer =>
    intro id e
    simp [TtyTree.attach, hs.tree.live_lobby]
  case console =>
    intro focus e
    simp [TtyTree.setFocus, hs.tree.live_root]

/-! ### A rehearsal -/

/-- A packet arrives from a client. -/
def packetEvent (id : Nat) (kind : PacketKind) (payload : Octets) : Event BareDriver :=
  .frame ⟨id⟩ (.packet ⟨kind.code, payload⟩)

/-- Two clients log in and take ttys, the second one inside that of the first, which gives it
focus; the second one then shows its cursor. -/
def rehearsal : List (Event BareDriver) :=
  [.arrival "a" 0, .arrival "b" 0,
    packetEvent 1 .auth (Request.encodeLogin ⟨protocolVersion, []⟩),
    packetEvent 2 .auth (Request.encodeLogin ⟨protocolVersion, []⟩),
    packetEvent 1 .getTty (Request.encodeTty ⟨[3], ""⟩),
    packetEvent 2 .getTty (Request.encodeTty ⟨[3, 5], ""⟩),
    packetEvent 1 .setFocus (Request.encodeFocus 5),
    packetEvent 2 .write (Octets.ofWord Request.WriteFlag.cursor ++ Octets.ofWord 1)]

/-- A server on a display of two cells, with the third console on the screen. -/
def rehearsalStart : Server BareDriver :=
  (start ⟨[], 4, 30, 8⟩ ⟨⟨"ba", "Bare", ⟨2, 1⟩, false, false⟩⟩ 3).withTable .plain

/-- The server after the rehearsal. -/
def rehearsed : Server BareDriver :=
  rehearsalStart.run rehearsal

/-- The ttys that the rehearsal grants. -/
def rehearsalGrants : List Grant :=
  [⟨⟨1⟩, [3]⟩, ⟨⟨2⟩, [3, 5]⟩]

/-- The rehearsal can be reached, with the grants that it brings. -/
theorem rehearsed_reachable : rehearsed.ReachableWith rehearsalGrants :=
  ⟨_, _, _, _, rehearsal, rfl, by decide⟩

/-- In the rehearsal, with two clients in nested ttys, the records match the tree. -/
theorem records_match_tree_rehearsed :
    rehearsed.clients.length = 2 ∧ rehearsed.Reachable ∧ rehearsed.InStep :=
  ⟨by decide, ⟨_, rehearsed_reachable⟩, records_match_tree ⟨_, rehearsed_reachable⟩⟩

end BrailleShare.Server
