import BrailleShare.Proofs.Request.DriverNames
import BrailleShare.Proofs.Server.Login
import BrailleShare.Proofs.Server.RawMode

/-!
# Clients that quote the driver's name

The server tells its driver's name to whoever asks, and wants to hear it again from a client that
asks for the device or for the driver's keycodes. A client that sends back the octets that it was
told is understood only if the name is ASCII. A driver with any other name refuses such a client,
and one with a character beyond `U+00FF` refuses everybody for good.

Main statements: a client that asks for a tty in a proper mode gets it if there is room for its path
(`seated_of_room`), one that names another driver gets nothing (`nameRefused_of_raw`,
`nameRefused_of_tty`), and which of the two a client is that quotes the name
(`driver_name_quoted`).
-/

namespace BrailleShare

/-- A name that asks for keycodes or gets nothing. -/
theorem KeyMode.ofName?_of_ne {name driver : String} (hname : name ≠ "") (hne : name ≠ driver)
    (keycodes : Bool) : KeyMode.ofName? name driver keycodes = none := by
  rw [ofName?, if_neg hname, if_neg fun h => hne h.2]

/-- The name of a driver that is not empty asks for its keycodes. -/
theorem KeyMode.ofName?_self {driver : String} (hname : driver ≠ "") :
    KeyMode.ofName? driver driver true = some .keycodes := by
  rw [ofName?, if_neg hname, if_pos ⟨rfl, rfl⟩]

namespace Server

variable {σ : Type} {s : Server σ} {c : Client} {p : Packet} {id : ClientId}
  {path : List UInt32}

/-! ### Proper names -/

/-- The tty of a path is there, or there is room for what is missing of it. -/
def RoomFor (s : Server σ) (path : List UInt32) : Prop :=
  match s.tree.lookup path with
  | .found _ => True
  | .missing _ matched => s.tree.size + (path.length - matched) ≤ s.settings.maxTtys

/-- A client without a tty that asks for one in a proper mode is seated if there is room. -/
theorem takeTty_of_room (hs : s.Consistent) (hraw : s.isRaw c.id = false) {payload : Octets}
    {r : TtyRequest} (hd : Request.decodeTty payload = .ok r) {mode : KeyMode}
    (hmode : KeyMode.ofName? r.mode s.info.name s.info.keycodes = some mode)
    (hnone : c.holding = none) (hroom : s.RoomFor r.path) :
    ∃ tree tty made, s.tree.Opens r.path tree tty ∧ s.takeTty c payload =
      (({ s with tree } : Server σ).noteMade made).seatClient c tty r.path mode := by
  unfold RoomFor at hroom
  rw [takeTty, hraw]
  simp only [Bool.false_eq_true, if_false, hd, hmode, hnone]
  cases hlookup : s.tree.lookup r.path with
  | found tty => exact ⟨s.tree, tty, [], .found hlookup, rfl⟩
  | missing deepest matched =>
    rw [hlookup, ← hs.limit] at hroom
    dsimp only at hroom
    have hlive := (hs.tree.lookup_missing hlookup).1
    have hrest : (r.path.drop matched).length = r.path.length - matched := List.length_drop
    obtain ⟨tty, htty⟩ := TtyTree.create_of_room hlive (hrest ▸ hroom)
    dsimp only
    split
    · rename_i e he
      cases htty.symm.trans he
    · exact ⟨_, _, _, .made hlookup ‹_›, rfl⟩

/-! ### Other names -/

/-- A request for the device under another name is refused. -/
theorem takeRaw_of_other_name (hraw : s.isRaw c.id = false) {payload : Octets} {name : String}
    (hd : Request.decodeRaw payload = .ok name) (hne : name ≠ s.info.name) :
    s.takeRaw c payload = s.refuse .notSupported := by
  rw [takeRaw, hraw]
  simp only [Bool.false_eq_true, if_false, hd]
  rw [if_pos (Or.inl hne)]

/-- A request for the keycodes of a driver of another name is refused. -/
theorem takeTty_of_other_name (hraw : s.isRaw c.id = false) {payload : Octets} {r : TtyRequest}
    (hd : Request.decodeTty payload = .ok r) (hname : r.mode ≠ "") (hne : r.mode ≠ s.info.name) :
    s.takeTty c payload = s.refuse .notSupported := by
  rw [takeTty, hraw]
  simp only [Bool.false_eq_true, if_false, hd, KeyMode.ofName?_of_ne hname hne]

section driver

variable [Driver σ]

/-! ### What comes of a request -/

/-- What a client gets that asks for the device. -/
structure GetsDevice (s : Server σ) (id : ClientId) (p : Packet) : Prop where
  reply : packetsIn (s.added (.frame id (.packet p))) = [(id, .ack)]
  rawHolder : (s.step (.frame id (.packet p))).rawHolder = some id

/-- What a client gets that asks for a tty in keycodes mode. -/
structure GetsKeycodes (s : Server σ) (id : ClientId) (path : List UInt32) (p : Packet) : Prop where
  reply : packetsIn (s.added (.frame id (.packet p))) = [(id, .ack)]
  held : ∃ h, (s.step (.frame id (.packet p))).holding? id = some h ∧ h.mode = .keycodes ∧
    (s.step (.frame id (.packet p))).tree.path h.tty = path

/-- What a client gets that asks for a tty in some mode. -/
structure Seated (s : Server σ) (id : ClientId) (path : List UInt32) (mode : KeyMode) (p : Packet) :
    Prop where
  reply : packetsIn (s.added (.frame id (.packet p))) = [(id, .ack)]
  /-- It holds the tty of the path, with the mode's own mask and a blank window. -/
  held : ∃ tty, (s.step (.frame id (.packet p))).holding? id =
      some ⟨tty, mode, mode.defaultMask, .blank s.info.size.cells, .empty⟩ ∧
    (s.step (.frame id (.packet p))).tree.path tty = path

/-- A client is told that its request is not supported, and nothing else changes. -/
structure NameRefused (s : Server σ) (id : ClientId) (p : Packet) : Prop where
  reply : packetsIn (s.added (.frame id (.packet p))) = [(id, .error .notSupported)]
  rest : s.OnlyReported id p

section request

variable (hs : s.Consistent) (hc : s.client? c.id = some c) (hraw : s.isRaw c.id = false)
  (hstep : s.step (.frame c.id (.packet p)) = s.answer c p)

include hs hraw hstep in
/-- Whoever asks is told the driver's name. -/
theorem told_driverName (hk : p.kind? = some .getDriverName) (hp : p.payload = []) :
    packetsIn (s.added (.frame c.id (.packet p))) =
      [(c.id, .driverText .getDriverName s.info.name)] := by
  have htell : s.carryOut c p = (s.send c.id (.driverText .getDriverName s.info.name)).done := by
    simp [carryOut, hk, tell, hp, hraw]
  refine packetsIn_added hs ?_
  rw [hstep, answer_of_none htell, packets_send]

include hs hstep in
/-- Who gives the name of the driver gets the device. -/
theorem getsDevice_of_name (hk : p.kind? = some .getRaw)
    (hd : Request.decodeRaw p.payload = .ok s.info.name) (hable : s.info.raw = true)
    (hnobody : s.rawHolder = none) : s.GetsDevice c.id p := by
  have hgrant := answer_of_none (carryOut_of_free (c := c) hk hd hable hnobody)
  constructor
  · refine packetsIn_added hs ?_
    rw [hstep, hgrant, packets_send, packets_note]
    rfl
  · rw [hstep, hgrant]
    rfl

include hs hc hraw hstep in
/-- Whoever asks for a tty in a proper mode, and has none, is seated if there is room. -/
theorem seated_of_room (hk : p.kind? = some .getTty) {r : TtyRequest}
    (hd : Request.decodeTty p.payload = .ok r) {mode : KeyMode}
    (hmode : KeyMode.ofName? r.mode s.info.name s.info.keycodes = some mode)
    (hnone : c.holding = none) (hroom : s.RoomFor r.path) : s.Seated c.id r.path mode p := by
  obtain ⟨tree, tty, made, ho, htake⟩ := takeTty_of_room hs hraw hd hmode hnone hroom
  obtain ⟨-, hlive, -, hpath, -⟩ := TtyTree.Opens.sound hs.tree ho
  have hopen : (({ s with tree } : Server σ).noteMade made).tree.live tty := by
    rw [noteMade_eq]
    exact hlive
  have hcarry : s.carryOut c p = s.takeTty c p.payload := by simp [carryOut, hk]
  rw [htake, seatClient_of_live hopen] at hcarry
  rw [answer_of_none hcarry] at hstep
  constructor
  · refine packetsIn_added hs ?_
    rw [hstep, packets_send, packets_note]
    exact congrArg (· ++ [(c.id, Packet.ack)]) (packets_noteMade ({ s with tree } : Server σ) made)
  · rw [hstep, noteMade_eq]
    refine ⟨tty, ?_, ?_⟩
    · exact (holding?_setHolding hc _ c.id).trans (if_pos rfl)
    · exact (TtyTree.path_seat ..).trans ((TtyTree.path_detach ..).trans hpath)

include hs hc hraw hstep in
/-- Who gives the name of the driver gets its keycodes with a tty. -/
theorem getsKeycodes_of_name (hk : p.kind? = some .getTty)
    (hd : Request.decodeTty p.payload = .ok ⟨path, s.info.name⟩) (hname : s.info.name ≠ "")
    (hable : s.info.keycodes = true) (hnone : c.holding = none) (hroom : s.RoomFor path) :
    s.GetsKeycodes c.id path p := by
  have hmode : KeyMode.ofName? s.info.name s.info.name s.info.keycodes = some .keycodes := by
    rw [hable]
    exact KeyMode.ofName?_self hname
  obtain ⟨hreply, tty, hheld, hpath⟩ := seated_of_room hs hc hraw hstep hk hd hmode hnone hroom
  exact ⟨hreply, _, hheld, rfl, hpath⟩

include hs hc hstep in
/-- A request that is refused so brings the error and changes nothing. -/
theorem nameRefused_of_refuse (hcarry : s.carryOut c p = s.refuse .notSupported)
    (hstyle : ReplyStyle.ofKind p.kind? = .error) : s.NameRefused c.id p := by
  constructor
  · refine packetsIn_added hs ?_
    rw [hstep, answer_eq_of_refusal hcarry, packets_send, packets_note, hstyle]
    rfl
  · exact onlyReported_of_refusal hs hc hstep (by rw [hcarry]; rfl)

include hs hc hraw hstep in
/-- The wrong name gets nobody the device. -/
theorem nameRefused_of_raw (hk : p.kind? = some .getRaw) {name : String}
    (hd : Request.decodeRaw p.payload = .ok name) (hne : name ≠ s.info.name) :
    s.NameRefused c.id p := by
  have hcarry : s.carryOut c p = s.takeRaw c p.payload := by simp [carryOut, hk]
  rw [takeRaw_of_other_name hraw hd hne] at hcarry
  exact nameRefused_of_refuse hs hc hstep hcarry (by rw [hk]; rfl)

include hs hc hraw hstep in
/-- The wrong name gets nobody keycodes. -/
theorem nameRefused_of_tty (hk : p.kind? = some .getTty) {r : TtyRequest}
    (hd : Request.decodeTty p.payload = .ok r) (hname : r.mode ≠ "") (hne : r.mode ≠ s.info.name) :
    s.NameRefused c.id p := by
  have hcarry : s.carryOut c p = s.takeTty c p.payload := by simp [carryOut, hk]
  rw [takeTty_of_other_name hraw hd hname hne] at hcarry
  exact nameRefused_of_refuse hs hc hstep hcarry (by rw [hk]; rfl)

end request

/-! ### Main result -/

/-- What comes of it when a client quotes the driver's name by the octets that it was told. -/
structure NameQuoted (s : Server σ) (id : ClientId) : Prop where
  /-- The client is told the name, with a zero octet behind it. -/
  told : packetsIn (s.added (.frame id (.packet (.ofKind .getDriverName [])))) =
    [(id, .ofKind .getDriverName (Octets.ofText s.info.name ++ [0]))]
  /-- An ASCII name gets the device for it if the driver allows that and nobody has it, -/
  device : Octets.isAscii s.info.name = true → s.info.raw = true → s.rawHolder = none →
    s.GetsDevice id (.ofKind .getRaw (Request.rawNaming (Octets.ofText s.info.name)))
  /-- and a tty in keycodes mode if the driver reports keycodes and there is room. -/
  keycodes : Octets.isAscii s.info.name = true → s.info.keycodes = true →
    s.holding? id = none → ∀ path : List UInt32, path.length < UInt32.size → s.RoomFor path →
      s.GetsKeycodes id path
        (.ofKind .getTty (Request.ttyNaming path (Octets.ofText s.info.name)))
  /-- Any other name is refused, whatever the driver is capable of, -/
  deviceRefused : Octets.isAscii s.info.name = false →
    s.NameRefused id (.ofKind .getRaw (Request.rawNaming (Octets.ofText s.info.name)))
  keycodesRefused : Octets.isAscii s.info.name = false →
    ∀ path : List UInt32, path.length < UInt32.size → s.NameRefused id
      (.ofKind .getTty (Request.ttyNaming path (Octets.ofText s.info.name)))
  /-- and with a character beyond `U+00FF` no request names the driver at all. -/
  unnameable : (∃ ch ∈ s.info.name.toList, 256 ≤ ch.toNat) → ∀ payload,
    Request.decodeRaw payload ≠ .ok s.info.name ∧
      ∀ r, Request.decodeTty payload = .ok r → r.mode ≠ s.info.name

/-- A client that quotes the name of the driver, as it was told it, is understood if and only if the
name is ASCII. -/
theorem driver_name_quoted (h : s.Reachable) (hl : s.isLoggedIn id = true)
    (hfree : s.rawHolder ≠ some id) (hname : 1 ≤ (Octets.ofText s.info.name).length)
    (hlength : (Octets.ofText s.info.name).length ≤ maxName) : s.NameQuoted id := by
  obtain ⟨given, h⟩ := h
  have hs := h.consistent
  -- UTF-8 read as Latin-1 is the name again only if no character takes two octets
  have hread : String.ofList (Octets.latin1 (Octets.ofText s.info.name)) = s.info.name ↔
      Octets.isAscii s.info.name = true := Octets.latin1_ofText_iff
  have hdriver : s.info.name ≠ "" := by
    intro hempty
    rw [hempty, Octets.ofText_eq] at hname
    exact absurd hname (by decide)
  obtain ⟨c, hc, rfl, -⟩ := step_frame_of_isLoggedIn hl .ack
  have hstep : ∀ p, s.step (.frame c.id (.packet p)) = s.answer c p := by
    intro p
    obtain ⟨d, hd, hid, hstep⟩ := step_frame_of_isLoggedIn hl p
    rw [hid, hc] at hd
    rw [hstep, Option.some.inj hd]
  have hfree : s.isRaw c.id = false := Bool.eq_false_iff.2 (mt isRaw_iff.1 hfree)
  have hraw := Request.decodeRaw_rawNaming hlength
  have htty : ∀ path : List UInt32, path.length < UInt32.size →
      Request.decodeTty (Request.ttyNaming path (Octets.ofText s.info.name)) =
        .ok ⟨path, String.ofList (Octets.latin1 (Octets.ofText s.info.name))⟩ :=
    fun path hpath => Request.decodeTty_ttyNaming hlength hpath
  constructor
  case told => exact told_driverName hs hfree (hstep _) (Packet.kind?_ofKind ..) rfl
  case device =>
    intro hascii hable hnobody
    rw [hread.2 hascii] at hraw
    exact getsDevice_of_name hs (hstep _) (Packet.kind?_ofKind ..) hraw hable hnobody
  case keycodes =>
    intro hascii hable hnone path hpath hroom
    have hd := htty path hpath
    rw [hread.2 hascii] at hd
    rw [holding?, hc] at hnone
    exact getsKeycodes_of_name hs hc hfree (hstep _) (Packet.kind?_ofKind ..) hd hdriver hable hnone
      hroom
  case deviceRefused =>
    intro hascii
    have hne := mt hread.1 (Bool.eq_false_iff.1 hascii)
    exact nameRefused_of_raw hs hc hfree (hstep _) (Packet.kind?_ofKind ..) hraw hne
  case keycodesRefused =>
    intro hascii path hpath
    have hne := mt hread.1 (Bool.eq_false_iff.1 hascii)
    exact nameRefused_of_tty hs hc hfree (hstep _) (Packet.kind?_ofKind ..) (htty path hpath)
      (Octets.latin1_ne_empty hname) hne
  case unnameable =>
    rintro ⟨ch, hch, hcode⟩ payload
    have hbeyond := Octets.ne_latin1_of_beyond hch hcode
    constructor
    · intro hd
      obtain ⟨bs, hbs, -⟩ := Request.decodeRaw_eq_ok_iff.1 hd
      exact hbeyond bs hbs
    · intro r hd hmode
      obtain ⟨bs, hbs, -⟩ := Request.decodeTty_eq_ok_iff.1 hd
      exact hbeyond bs (hmode ▸ hbs)

end driver

/-- A driver of this name, capable of everything, and a client that has logged in. -/
def introduced (name : String) : Server ScriptedDriver :=
  ((start ⟨[], 4, 30, 8⟩ (ScriptedDriver.new ⟨"ba", name, ⟨2, 1⟩, true, true⟩) 3).withTable
    .plain).run [.arrival "a" 0, .frame ⟨1⟩ (.packet (.login []))]

/-- The client has been let in by a history from the start. -/
theorem introduced_reachable (name : String) : (introduced name).Reachable :=
  ⟨_, _, _, _, _, _, rfl, rfl⟩

/-- A name in ASCII is quoted back and gets the device and the keycodes. -/
theorem driver_name_quoted_introduced :
    (introduced "Bare").Reachable ∧ (introduced "Bare").NameQuoted ⟨1⟩ ∧
      (introduced "Bare").GetsDevice ⟨1⟩
        (.ofKind .getRaw (Request.rawNaming (Octets.ofText "Bare"))) ∧
      (introduced "Bare").GetsKeycodes ⟨1⟩ [3]
        (.ofKind .getTty (Request.ttyNaming [3] (Octets.ofText "Bare"))) := by
  have hlength : (Octets.ofText "Bare").length = 4 := by
    rw [Octets.ofText_eq]
    decide
  have hquoted : (introduced "Bare").NameQuoted ⟨1⟩ := by
    refine driver_name_quoted (introduced_reachable "Bare") (by decide) (by decide) ?_ ?_
    · exact hlength.symm ▸ (by decide : 1 ≤ 4)
    · exact hlength.symm ▸ (by decide : 4 ≤ maxName)
  have hascii : Octets.isAscii "Bare" = true := by decide
  refine ⟨introduced_reachable "Bare", hquoted, ?_, ?_⟩
  · exact hquoted.device hascii rfl (by decide)
  · exact hquoted.keycodes hascii rfl (by decide) [3] (by decide) (by decide : 0 + (1 - 0) ≤ 8)

/-- A driver called `Né` tells its name in three octets. A client that sends these back is refused
the device, although the driver allows it and nobody has it, and a tty, although the driver reports
keycodes and there is room. -/
theorem accented_name_refused :
    (introduced "N\u00e9").Reachable ∧ (introduced "N\u00e9").isLoggedIn ⟨1⟩ = true ∧
      (introduced "N\u00e9").info.raw = true ∧ (introduced "N\u00e9").info.keycodes = true ∧
      (introduced "N\u00e9").rawHolder = none ∧ (introduced "N\u00e9").holding? ⟨1⟩ = none ∧
      (introduced "N\u00e9").RoomFor [3] ∧
      packetsIn ((introduced "N\u00e9").added
        (.frame ⟨1⟩ (.packet (.ofKind .getDriverName [])))) =
          [(⟨1⟩, .ofKind .getDriverName [0x4e, 0xc3, 0xa9, 0])] ∧
      packetsIn ((introduced "N\u00e9").added
        (.frame ⟨1⟩ (.packet (.ofKind .getRaw (Request.rawNaming [0x4e, 0xc3, 0xa9]))))) =
          [(⟨1⟩, .error .notSupported)] ∧
      packetsIn ((introduced "N\u00e9").added
        (.frame ⟨1⟩ (.packet (.ofKind .getTty (Request.ttyNaming [3] [0x4e, 0xc3, 0xa9]))))) =
          [(⟨1⟩, .error .notSupported)] :=
  ⟨introduced_reachable _, by decide, rfl, rfl, by decide, by decide,
    (by decide : 0 + (1 - 0) ≤ 8), by decide +kernel, by decide +kernel, by decide +kernel⟩

end Server

end BrailleShare
