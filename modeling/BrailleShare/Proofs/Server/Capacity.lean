import BrailleShare.Proofs.Server.DriverNames
import BrailleShare.Proofs.Server.HeldPaths
import Mathlib.Order.Interval.Finset.Nat

/-!
# Whether there is room for a tty

A tty that a client asks for is there, or it has to be made together with those above it. That is
done one by one, and each counts against the limit. What a client can tell beforehand is which
beginnings of the path are held by nobody, and that these are what has to be made.

Main statements: the ttys to be made are as many as the beginnings of the path that nobody holds
(`Accounted.card_missingPrefixes`), so that there is room for a path if these can be added to the
ttys that are (`Accounted.roomFor_iff`); where there is none, nothing is made
(`refused_of_no_room`); and a client that has a tty is refused whatever it asks for
(`refused_of_holding`). Path, mode and room decide about every request (`getTty_decided`).
-/

namespace BrailleShare.Server

variable {σ : Type} {s : Server σ} {given : List Grant} {c : Client} {p : Packet} {id : ClientId}
  {path q : List UInt32} {mode : KeyMode} {h : Holding}

/-! ### Counting what is missing -/

/-- The beginnings of a path, the empty one left out, that are not the beginning of any path that
is held. -/
def missingPrefixes (s : Server σ) (given : List Grant) (path : List UInt32) :
    Finset (List UInt32) :=
  path.inits.toFinset.erase [] \ s.heldPrefixes given

namespace Accounted

variable (hs : s.Accounted given)
include hs

/-- A beginning of a path is missing if it leads nowhere. -/
theorem mem_missingPrefixes_iff :
    q ∈ s.missingPrefixes given path ↔ q <+: path ∧ ¬ ∃ id, s.tree.lookup q = .found id := by
  rw [hs.lookup_eq_found_iff, missingPrefixes, Finset.mem_sdiff, mem_heldPrefixes_iff]
  by_cases hq : q = [] <;> simp [hq]

/-- Of a path that leads to a tty nothing is missing. -/
theorem missingPrefixes_of_found {tty : TtyId} (hfound : s.tree.lookup path = .found tty) :
    s.missingPrefixes given path = ∅ := by
  have htree := hs.consistent.tree
  obtain ⟨hl, hne, hpath⟩ := htree.lookup_eq_found_iff.1 hfound
  apply Finset.eq_empty_of_forall_notMem
  intro q hq
  obtain ⟨hpre, hnot⟩ := hs.mem_missingPrefixes_iff.1 hq
  obtain ⟨a, ha⟩ := htree.exists_of_prefix_path hl hne (hpath ▸ hpre)
  exact hnot ⟨a, htree.lookup_eq_found_iff.2 ha⟩

/-- What is missing of a path are its beginnings beyond what can be followed. -/
theorem missingPrefixes_of_missing {d : TtyId} {m : Nat}
    (hmissing : s.tree.lookup path = .missing d m) :
    s.missingPrefixes given path = (Finset.Ioc m path.length).image path.take := by
  ext q
  simp only [hs.mem_missingPrefixes_iff, Finset.mem_image, Finset.mem_Ioc]
  constructor
  · rintro ⟨hpre, hnot⟩
    rw [hs.consistent.tree.lookup_beginning_iff hmissing hpre] at hnot
    exact ⟨q.length, ⟨Nat.lt_of_not_le hnot, hpre.length_le⟩, (List.prefix_iff_eq_take.1 hpre).symm⟩
  · rintro ⟨n, ⟨hlt, hle⟩, rfl⟩
    have hpre := List.take_prefix n path
    refine ⟨hpre, ?_⟩
    rw [hs.consistent.tree.lookup_beginning_iff hmissing hpre, List.length_take_of_le hle]
    exact Nat.not_le_of_lt hlt

/-- Missing beginnings are told apart by their length. -/
theorem card_missingPrefixes {d : TtyId} {m : Nat}
    (hmissing : s.tree.lookup path = .missing d m) :
    (s.missingPrefixes given path).card = path.length - m := by
  have hinj : Set.InjOn path.take (Finset.Ioc m path.length) := by
    intro a ha b hb he
    have hlength := congrArg List.length he
    rwa [List.length_take_of_le (Finset.mem_Ioc.1 ha).2,
      List.length_take_of_le (Finset.mem_Ioc.1 hb).2] at hlength
  rw [hs.missingPrefixes_of_missing hmissing, Finset.card_image_of_injOn hinj, Nat.card_Ioc]

/-- There is room for a path if what is missing of it can be added to the ttys that are. -/
theorem roomFor_iff : s.RoomFor path ↔
    s.tree.size + (s.missingPrefixes given path).card ≤ s.settings.maxTtys := by
  unfold RoomFor
  cases hlookup : s.tree.lookup path with
  | found tty =>
    have hsize := hs.consistent.tree.size_le
    rw [hs.consistent.limit] at hsize
    simpa [hs.missingPrefixes_of_found hlookup] using hsize
  | missing d m => rw [hs.card_missingPrefixes hlookup]

end Accounted

/-! ### No room -/

/-- Without room a tty is refused by the tree. -/
theorem takeTty_of_no_room (hs : s.Consistent) (hraw : s.isRaw c.id = false) {payload : Octets}
    {r : TtyRequest} (hd : Request.decodeTty payload = .ok r)
    (hmode : KeyMode.ofName? r.mode s.info.name s.info.keycodes = some mode)
    (hnone : c.holding = none) (hroom : ¬ s.RoomFor r.path) :
    ∃ t, s.takeTty c payload = ⟨t, some (.tty (.limitReached s.tree.limit))⟩ ∧
      t.packets = s.packets := by
  unfold RoomFor at hroom
  rw [takeTty, hraw]
  simp only [Bool.false_eq_true, if_false, hd, hmode, hnone]
  cases hlookup : s.tree.lookup r.path with
  | found tty => simp [hlookup] at hroom
  | missing deepest matched =>
    rw [hlookup, ← hs.limit] at hroom
    have hlive := (hs.tree.lookup_missing hlookup).1
    dsimp only
    split
    · rename_i e he
      obtain rfl := TtyTree.create_error_eq hlive he
      refine ⟨_, rfl, ?_⟩
      rw [packets_note]
      exact packets_noteMade ..
    · exact absurd (TtyTree.SoundBut.room_of_made hs.tree hlookup ‹_›) hroom

/-! ### A tty already -/

/-- What a client that holds a tty is told when it asks for one: that it has it, that it has it in
the other mode, or that it may not have another. -/
def holderRefusal (held path : List UInt32) (heldMode mode : KeyMode) : ErrorCode :=
  if path = held then if heldMode = mode then .illegalInstruction else .notSupported
  else .invalidParameter

/-- Whoever holds a tty gets none, be its path there or not. -/
theorem takeTty_of_holding (hs : s.Consistent) (hc : s.client? c.id = some c)
    (hraw : s.isRaw c.id = false) {payload : Octets} {r : TtyRequest}
    (hd : Request.decodeTty payload = .ok r)
    (hmode : KeyMode.ofName? r.mode s.info.name s.info.keycodes = some mode)
    (hh : c.holding = some h) :
    s.takeTty c payload = s.refuse (holderRefusal (s.tree.path h.tty) r.path h.mode mode) := by
  have htty := tty?_of_holding hc hh
  have hown := hs.tree.lookup_path (hs.live_of_tty? htty) (hs.tty_ne_lobby htty)
  rw [takeTty, hraw]
  simp only [Bool.false_eq_true, if_false, hd, hmode, hh, holderRefusal]
  cases hlookup : s.tree.lookup r.path with
  | found tty =>
    have hiff : tty = h.tty ↔ r.path = s.tree.path h.tty := by
      constructor
      · rintro rfl
        exact (hs.tree.lookup_eq_found_iff.1 hlookup).2.2.symm
      · intro hpath
        rw [hpath, hown] at hlookup
        exact (TtyTree.Lookup.found.inj hlookup).symm
    dsimp only
    by_cases heq : tty = h.tty
    · rw [if_pos heq, if_pos (hiff.1 heq)]
    · rw [if_neg heq, if_neg (mt hiff.2 heq)]
  | missing d m =>
    have hne : r.path ≠ s.tree.path h.tty := by
      intro hpath
      rw [hpath, hown] at hlookup
      cases hlookup
    rw [if_neg hne]

section driver

variable [Driver σ]

/-! ### What comes of a request -/

/-- What comes of a request for a tty that there is no room for. -/
structure CrowdedOut (s : Server σ) (id : ClientId) (p : Packet) : Prop where
  reply : packetsIn (s.added (.frame id (.packet p))) = [(id, .error .noMemory)]
  /-- No tty is made, and nothing else changes. -/
  rest : s.OnlyReported id p

/-- What comes of a request for a tty by a client that has one. -/
structure KeptOut (s : Server σ) (id : ClientId) (p : Packet) (code : ErrorCode) : Prop where
  reply : packetsIn (s.added (.frame id (.packet p))) = [(id, .error code)]
  /-- The state is what it was, but for what is to be sent and logged. -/
  rest : s.step (.frame id (.packet p)) =
    { s with effects := s.effects ++ s.added (.frame id (.packet p)) }

section request

variable (hs : s.Consistent) (hc : s.client? c.id = some c) (hraw : s.isRaw c.id = false)
  (hstep : s.step (.frame c.id (.packet p)) = s.answer c p) (hk : p.kind? = some .getTty)
  {r : TtyRequest} (hd : Request.decodeTty p.payload = .ok r)
  (hmode : KeyMode.ofName? r.mode s.info.name s.info.keycodes = some mode)
include hs hc hraw hstep hk hd hmode

/-- A path for which there is no room is refused for want of room. -/
theorem refused_of_no_room (hnone : c.holding = none) (hroom : ¬ s.RoomFor r.path) :
    s.CrowdedOut c.id p := by
  obtain ⟨t, htake, hpackets⟩ := takeTty_of_no_room hs hraw hd hmode hnone hroom
  have hcarry : s.carryOut c p = s.takeTty c p.payload := by simp [carryOut, hk]
  rw [htake] at hcarry
  constructor
  · refine packetsIn_added hs ?_
    rw [hstep, answer_eq_of_refusal hcarry, packets_send, packets_note, hpackets, hk]
    rfl
  · exact onlyReported_of_refusal hs hc hstep (by rw [hcarry])

/-- A client that holds a tty is kept out, for a reason that depends on what it holds and what it
asks for. -/
theorem refused_of_holding (hh : c.holding = some h) :
    s.KeptOut c.id p (holderRefusal (s.tree.path h.tty) r.path h.mode mode) := by
  have hcarry : s.carryOut c p = s.takeTty c p.payload := by simp [carryOut, hk]
  rw [takeTty_of_holding hs hc hraw hd hmode hh] at hcarry
  have hanswer := hstep.trans (answer_eq_of_refusal hcarry)
  constructor
  · refine packetsIn_added hs ?_
    rw [hanswer, packets_send, packets_note, hk]
    rfl
  · rw [← effects_step hs, hanswer]
    rfl

end request

/-! ### Main result -/

/-- What a request for a tty comes to that names a path and a mode. -/
structure TtyDecided (s : Server σ) (given : List Grant) (id : ClientId) (p : Packet)
    (path : List UInt32) (mode : KeyMode) : Prop where
  /-- A client without a tty is told that it has one if what is missing of its path can be added to
  the ttys that are, and only then. -/
  acked_iff : s.holding? id = none →
    (packetsIn (s.added (.frame id (.packet p))) = [(id, .ack)] ↔
      s.tree.size + (s.missingPrefixes given path).card ≤ s.settings.maxTtys)
  /-- It then holds the path, with a blank window and the mode's own mask. -/
  seated : s.holding? id = none →
    s.tree.size + (s.missingPrefixes given path).card ≤ s.settings.maxTtys →
      s.Seated id path mode p ∧
        Grant.lastPath? (given ++ s.grants (.frame id (.packet p))) id = some path
  /-- Otherwise it is told that there is no room, and nothing is made. -/
  crowdedOut : s.holding? id = none →
    s.settings.maxTtys < s.tree.size + (s.missingPrefixes given path).card → s.CrowdedOut id p
  /-- A client that holds a path is refused, and nothing changes. -/
  keptOut : ∀ h, s.holding? id = some h → ∃ held, Grant.lastPath? given id = some held ∧
    s.KeptOut id p (holderRefusal held path h.mode mode)

/-- Whether a client gets the tty that it asks for is decided by its path, its mode and the room
that there is. -/
theorem getTty_decided (hreach : s.ReachableWith given) (hl : s.isLoggedIn id = true)
    (hfree : s.rawHolder ≠ some id) (hk : p.kind? = some .getTty) {r : TtyRequest}
    (hd : Request.decodeTty p.payload = .ok r)
    (hmode : KeyMode.ofName? r.mode s.info.name s.info.keycodes = some mode) :
    s.TtyDecided given id p r.path mode := by
  have hacc := hreach.accounted
  have hs := hacc.consistent
  obtain ⟨c, hc, rfl, hstep⟩ := step_frame_of_isLoggedIn hl p
  have hraw : s.isRaw c.id = false := Bool.eq_false_iff.2 (mt isRaw_iff.1 hfree)
  have hholding : s.holding? c.id = c.holding := by rw [holding?, hc, Option.bind_some]
  have hroom : s.RoomFor r.path ↔
      s.tree.size + (s.missingPrefixes given r.path).card ≤ s.settings.maxTtys := hacc.roomFor_iff
  -- there is room or there is not, and either way the outcome is known as a whole
  have hyes (hnone : c.holding = none) (h : s.RoomFor r.path) : s.Seated c.id r.path mode p :=
    seated_of_room hs hc hraw hstep hk hd hmode hnone h
  have hno (hnone : c.holding = none) (h : ¬ s.RoomFor r.path) : s.CrowdedOut c.id p :=
    refused_of_no_room hs hc hraw hstep hk hd hmode hnone h
  rw [← hholding] at hyes hno
  constructor
  · intro hnone
    rw [← hroom]
    constructor
    · intro hack
      by_contra hfull
      rw [(hno hnone hfull).reply] at hack
      exact absurd hack (by simp [error_ne_ack])
    · intro h
      exact (hyes hnone h).reply
  · intro hnone hle
    have hseated := hyes hnone (hroom.2 hle)
    refine ⟨hseated, ?_⟩
    have hack : .packet c.id .ack ∈ s.added (.frame c.id (.packet p)) := by
      rw [← mem_packetsIn_iff, hseated.reply]
      exact List.mem_singleton_self _
    rw [grants_of_mem hk hd hack, Grant.lastPath?_concat]
  · intro hnone hlt
    apply hno hnone
    intro h
    exact Nat.not_le_of_lt hlt (hroom.1 h)
  · intro h hh
    rw [hholding] at hh
    exact ⟨s.tree.path h.tty, hacc.paths (tty?_of_holding hc hh),
      refused_of_holding hs hc hraw hstep hk hd hmode hh⟩

end driver

/-- A path of which as much is missing as can be made. -/
def pathThatFits : Packet :=
  ⟨PacketKind.getTty.code, Request.encodeTty ⟨[3, 6, 1, 1, 1, 1, 1], ""⟩⟩

/-- A path that is not there. -/
def pathElsewhere : Packet :=
  ⟨PacketKind.getTty.code, Request.encodeTty ⟨[9], ""⟩⟩

/-- There are two ttys of at most eight. Six more can be made for the third client, and eight
cannot; the second client keeps the tty that it has. -/
theorem getTty_decided_crowded : crowded.ReachableWith rehearsalGrants ∧
    crowded.heldPaths rehearsalGrants = [[3], [3, 5]] ∧
    crowded.Seated ⟨3⟩ [3, 6, 1, 1, 1, 1, 1] .commands pathThatFits ∧
    crowded.CrowdedOut ⟨3⟩ pathTooDeep ∧ crowded.KeptOut ⟨2⟩ pathElsewhere .invalidParameter := by
  have hreach : crowded.ReachableWith rehearsalGrants := ⟨_, _, _, _, _, rfl, by decide⟩
  have hfits : crowded.TtyDecided rehearsalGrants ⟨3⟩ pathThatFits [3, 6, 1, 1, 1, 1, 1]
      .commands :=
    getTty_decided (r := ⟨[3, 6, 1, 1, 1, 1, 1], ""⟩) hreach (by decide) (by decide) (by decide)
      (by decide) (by decide)
  have hdeep : crowded.TtyDecided rehearsalGrants ⟨3⟩ pathTooDeep [3, 6, 1, 1, 1, 1, 1, 1, 1]
      .commands :=
    getTty_decided (r := ⟨[3, 6, 1, 1, 1, 1, 1, 1, 1], ""⟩) hreach (by decide) (by decide)
      (by decide) (by decide) (by decide)
  have helsewhere : crowded.TtyDecided rehearsalGrants ⟨2⟩ pathElsewhere [9] .commands :=
    getTty_decided (r := ⟨[9], ""⟩) hreach (by decide) (by decide) (by decide) (by decide)
      (by decide)
  have hholds : (crowded.holding? ⟨2⟩).isSome = true := by decide
  obtain ⟨h, hh⟩ := Option.isSome_iff_exists.1 hholds
  refine ⟨hreach, by decide, ?_, ?_, ?_⟩
  · exact (hfits.seated (by decide) (by decide)).1
  · exact hdeep.crowdedOut (by decide) (by decide)
  · obtain ⟨held, hheld, hkept⟩ := helsewhere.keptOut h hh
    have hpath : Grant.lastPath? rehearsalGrants ⟨2⟩ = some [3, 5] := by decide
    rwa [Option.some.inj (hheld.symm.trans hpath)] at hkept

end BrailleShare.Server
