import BrailleShare.Proofs.Server.Registry
import BrailleShare.Proofs.Split.Basic

/-!
# Stores that agree

The stores of a server with separate stores agree at any time: a connection has a window behind its
handle exactly if its entry has a tty, without one there is nothing to be shown and no key is
wanted, and the open handles are those of the connections in the list (`Tidy`). Read together, such
stores amount to the state of a server that keeps all of a connection in one place (`Matches`).

Main statements: what is changed beside the connections is changed on both sides alike
(`Matches.onCommon`), and so is what one connection has (`Matches.revise`), even if its stores are
changed one after the other.
-/

namespace BrailleShare

/-- What is behind a handle fits the entry of the connection. -/
structure Handle.Suits (h : Handle) (r : Registration) : Prop where
  isOpen : h.isOpen = true
  /-- There is a window exactly if the client holds a tty. -/
  window : h.window.isSome = r.tty.isSome
  /-- Without a tty nothing is to be shown and no key is wanted. -/
  bare : r.tty = none → h.freshness = .empty ∧ h.mask = .empty

/-- The client that an entry tells of has its id. -/
@[simp]
theorem Registration.client_id (r : Registration) (h : Handle) : (r.client h).id = r.id :=
  rfl

/-- A client with a tty and a window holds all that its entry and its handle tell. -/
theorem Registration.holding_client {r : Registration} {h : Handle} {tty : TtyId} {w : Window}
    (htty : r.tty = some tty) (hw : h.window = some w) :
    (r.client h).holding = some ⟨tty, r.mode, h.mask, w, h.freshness⟩ := by
  simp [client, htty, hw]

/-- A client without a tty holds nothing, whatever is behind its handle. -/
theorem Registration.holding_client_of_none {r : Registration} (h : Handle) (htty : r.tty = none) :
    (r.client h).holding = none := by
  simp [client, htty]

namespace SplitServer

variable {σ α : Type} {d : SplitServer σ} {s : Server σ} {r : Registration} {id : ClientId}

/-! ### Stores that agree -/

/-- The stores agree. -/
structure Tidy (d : SplitServer σ) : Prop where
  alone : d.common.clients = []
  /-- No two entries are of one connection. -/
  known : ∀ r ∈ d.records, d.record? r.id = some r
  below : ∀ r ∈ d.records, r.id.val < d.common.nextId
  suits : ∀ r ∈ d.records, (d.handle r.id).Suits r
  closed : ∀ id, d.record? id = none → (d.handle id).isOpen = false

/-- The stores agree, and together they amount to the state of a server. -/
structure Matches (d : SplitServer σ) (s : Server σ) : Prop where
  tidy : d.Tidy
  server : d.server = s

/-- The same came of something for either, and the states match after it. -/
structure Agrees (a : α × SplitServer σ) (b : α × Server σ) : Prop where
  answer : a.1 = b.1
  state : Matches a.2 b.2

/-- An entry that is found by an id has this id. -/
theorem id_of_record? (h : d.record? id = some r) : r.id = id := by
  simpa using List.find?_some h

/-- An entry that is found is in the list. -/
theorem mem_of_record? (h : d.record? id = some r) : r ∈ d.records :=
  List.mem_of_find?_eq_some h

/-- What is behind the handle of an entry that is found fits this entry. -/
theorem Tidy.suits_of_record? (ht : d.Tidy) (h : d.record? id = some r) :
    (d.handle id).Suits r :=
  id_of_record? h ▸ ht.suits r (mem_of_record? h)

/-- The open handles are those of the connections in the list. -/
theorem Tidy.isOpen_eq (ht : d.Tidy) (id : ClientId) :
    (d.handle id).isOpen = (d.record? id).isSome := by
  cases h : d.record? id with
  | none => exact ht.closed id h
  | some r => exact (ht.suits_of_record? h).isOpen

namespace Matches

/-- A connection is known on both sides or on neither. -/
theorem client? (h : Matches d s) (id : ClientId) :
    s.client? id = (d.record? id).map d.client := by
  rw [← h.server, Server.client?, SplitServer.server, List.find?_map]
  rfl

/-- The tree is the same. -/
theorem tree (h : Matches d s) : s.tree = d.common.tree := by
  rw [← h.server]; rfl

/-- The console is the same. -/
theorem console (h : Matches d s) : s.console = d.common.console := by
  rw [← h.server]; rfl

/-- The facts about the driver are the same. -/
theorem info (h : Matches d s) : s.info = d.common.info := by
  rw [← h.server]; rfl

/-- The settings are the same. -/
theorem settings (h : Matches d s) : s.settings = d.common.settings := by
  rw [← h.server]; rfl

/-- As many wait to log in. -/
theorem waiting (h : Matches d s) : s.waiting = d.common.waiting := by
  rw [← h.server]; rfl

/-- Whether a refusal has been noted is the same. -/
theorem refusalNoted (h : Matches d s) : s.refusalNoted = d.common.refusalNoted := by
  rw [← h.server]; rfl

/-- Whether the server has been closed is the same. -/
theorem closed (h : Matches d s) : s.closed = d.common.closed := by
  rw [← h.server]; rfl

/-- The next id is the same. -/
theorem nextId (h : Matches d s) : s.nextId = d.common.nextId := by
  rw [← h.server]; rfl

/-- The client that was written last is the same. -/
theorem lastShown (h : Matches d s) : s.lastShown = d.common.lastShown := by
  rw [← h.server]; rfl

/-- The client that has the device is the same. -/
theorem rawHolder (h : Matches d s) : s.rawHolder = d.common.rawHolder := by
  rw [← h.server]; rfl

/-- Whether a client has the device is the same. -/
theorem isRaw (h : Matches d s) (id : ClientId) : s.isRaw id = d.isRaw id := by
  rw [← h.server]; rfl

/-- The clients are those that the entries and the handles tell of. -/
theorem clients (h : Matches d s) : s.clients = d.records.map d.client := by
  rw [← h.server]; rfl

end Matches

/-! ### What a client holds -/

/-- What a client holds is told by its entry and its handle. -/
theorem Tidy.holding_client (ht : d.Tidy) (hr : d.record? r.id = some r) :
    r.tty = none ∧ (d.client r).holding = none ∨
      ∃ tty w, r.tty = some tty ∧ (d.handle r.id).window = some w ∧ (d.client r).holding =
        some ⟨tty, r.mode, (d.handle r.id).mask, w, (d.handle r.id).freshness⟩ := by
  have hsuits := ht.suits_of_record? hr
  cases htty : r.tty with
  | none => exact .inl ⟨rfl, Registration.holding_client_of_none _ htty⟩
  | some tty =>
    obtain ⟨w, hw⟩ := Option.isSome_iff_exists.1 (hsuits.window.trans (congrArg _ htty))
    exact .inr ⟨tty, w, rfl, hw, Registration.holding_client htty hw⟩

/-- What a client holds is behind its entry and its handle. -/
theorem Matches.of_holding? (h : Matches d s) {held : Holding} (hh : s.holding? id = some held) :
    ∃ r tty w, d.record? id = some r ∧ r.tty = some tty ∧ (d.handle id).window = some w ∧
      held = ⟨tty, r.mode, (d.handle id).mask, w, (d.handle id).freshness⟩ := by
  rw [Server.holding?, h.client?] at hh
  cases hr : d.record? id with
  | none => simp [hr] at hh
  | some r =>
    obtain rfl := id_of_record? hr
    rcases h.tidy.holding_client hr with ⟨-, hnone⟩ | ⟨tty, w, htty, hw, hsome⟩
    · simp [hr, hnone] at hh
    · refine ⟨r, tty, w, rfl, htty, hw, ?_⟩
      simpa [hr, hsome] using hh.symm

/-! ### Changes of what is not kept with a connection -/

/-- A function that neither looks at the connections nor changes them. -/
structure Aloof (f : Server σ → Server σ) : Prop where
  clients : ∀ s clients, f { s with clients } = { f s with clients }
  nextId : ∀ s, (f s).nextId = s.nextId

/-- What is done beside the connections may be done on either side. -/
theorem Matches.onCommon (h : Matches d s) {f : Server σ → Server σ} (hf : Aloof f) :
    Matches (d.onCommon f) (f s) := by
  obtain ⟨ht, rfl⟩ := h
  refine ⟨⟨?_, ht.known, fun r hr => ?_, ht.suits, ht.closed⟩, (hf.clients _ _).symm⟩
  · exact (congrArg Server.clients (hf.clients d.common d.common.clients)).trans ht.alone
  · exact (hf.nextId d.common).symm ▸ ht.below r hr

/-- The same answer comes of it, if it depends on nothing else. -/
theorem Matches.through (h : Matches d s) {f : Server σ → α × Server σ}
    (hf : Aloof fun s => (f s).2) (hread : ∀ s clients, (f { s with clients }).1 = (f s).1) :
    Agrees (d.through f) (f s) := by
  refine ⟨?_, h.onCommon hf⟩
  rw [← h.server]
  exact (hread d.common (d.records.map d.client)).symm

/-- A line in the log does not concern the connections. -/
theorem aloof_note (n : Notice) : Aloof (σ := σ) (·.note n) :=
  ⟨fun _ _ => rfl, fun _ => rfl⟩

/-- Nor does a call to the driver. -/
theorem aloof_called (call : DeviceCall) (a : DriverAnswer σ α) : Aloof (·.called call a) :=
  ⟨fun _ _ => rfl, fun _ => rfl⟩

/-- Nor does a change of the tree. -/
theorem aloof_tree (f : TtyTree ClientId → TtyTree ClientId) :
    Aloof (σ := σ) fun s => { s with tree := f s.tree } :=
  ⟨fun _ _ => rfl, fun _ => rfl⟩

/-- Nor does the clearing of a tty. -/
theorem aloof_clearTty (tty : TtyId) : Aloof (σ := σ) fun s => (s.clearTty tty).1 :=
  ⟨fun _ _ => by simp only [Server.clearTty_eq], fun _ => by simp only [Server.clearTty_eq]⟩

/-- Nor do the lines about ttys that were made. -/
theorem aloof_noteMade (made : List (UInt32 × TtyId)) : Aloof (σ := σ) (·.noteMade made) :=
  ⟨fun _ _ => by simp only [Server.noteMade_eq], fun _ => by simp only [Server.noteMade_eq]⟩

/-- Nor does forgetting who was written last. -/
theorem aloof_forgetShown (id : ClientId) : Aloof (σ := σ) (·.forgetShown id) :=
  ⟨fun _ _ => by simp only [Server.forgetShown_eq], fun _ => by simp only [Server.forgetShown_eq]⟩

/-- Nor does it who has the device. -/
theorem aloof_rawHolder (holder : Option ClientId) :
    Aloof (σ := σ) fun s => { s with rawHolder := holder } :=
  ⟨fun _ _ => rfl, fun _ => rfl⟩

/-- Nor does it that one waits less. -/
theorem aloof_releaseWaiting : Aloof (σ := σ) (·.releaseWaiting) :=
  ⟨fun _ _ => rfl, fun _ => rfl⟩

/-- Nor does bringing the tree's focus to the console that the host shows. -/
theorem aloof_syncConsole : Aloof (σ := σ) (·.syncConsole) := by
  constructor
  · intro s clients
    unfold Server.syncConsole
    split <;> rfl
  · intro s
    unfold Server.syncConsole
    split <;> rfl

/-- Nor does a reset of the device. -/
theorem aloof_resetDevice [Driver σ] : Aloof (σ := σ) (·.resetDevice) := by
  constructor
  · intro s clients
    dsimp only [Server.resetDevice]
    cases (Driver.reset s.driver).outcome <;> rfl
  · intro s
    dsimp only [Server.resetDevice]
    cases (Driver.reset s.driver).outcome <;> rfl

/-- Nor does reading an event. -/
theorem aloof_readEvent [Driver σ] : Aloof (σ := σ) fun s => s.readEvent.2 := by
  constructor
  · intro s clients
    unfold Server.readEvent
    split <;> rfl
  · intro s
    unfold Server.readEvent
    split <;> rfl

/-- Nor do the host's status cells. -/
theorem aloof_hostStatus [Driver σ] (cells : Octets) :
    Aloof (σ := σ) fun s => (s.hostStatus cells).2 := by
  constructor
  · intro s clients
    unfold Server.hostStatus
    split <;> rfl
  · intro s
    unfold Server.hostStatus
    split <;> rfl

/-- Nor does another driver. -/
theorem aloof_changeDriver [Driver σ] (driver : σ) :
    Aloof (σ := σ) fun s => (s.changeDriver driver).2 := by
  constructor
  · intro s clients
    dsimp only [Server.changeDriver]
    split <;> rfl
  · intro s
    dsimp only [Server.changeDriver]
    split <;> rfl

/-- Nor do two such things, one after the other. -/
theorem Aloof.comp {f g : Server σ → Server σ} (hg : Aloof g) (hf : Aloof f) :
    Aloof fun s => g (f s) :=
  ⟨fun s clients => (congrArg g (hf.clients s clients)).trans (hg.clients (f s) clients),
    fun s => (hg.nextId (f s)).trans (hf.nextId s)⟩

/-- A line in the log is written on both sides. -/
theorem Matches.note (h : Matches d s) (n : Notice) : Matches (d.note n) (s.note n) :=
  h.onCommon (aloof_note n)

/-- Where a handle is open, a packet is queued. -/
theorem send_of_isOpen (h : (d.handle id).isOpen = true) (p : Packet) :
    d.send id p = d.onCommon (·.send id p) := by
  rw [send, if_pos h]

/-- Where a handle is closed, a packet is dropped. -/
theorem send_of_closed (h : (d.handle id).isOpen = false) (p : Packet) : d.send id p = d := by
  rw [send, if_neg (by simp [h])]

/-- A packet is queued on both sides, if the handle is open. -/
theorem Matches.send (h : Matches d s) (hopen : (d.handle id).isOpen = true) (p : Packet) :
    Matches (d.send id p) (s.send id p) := by
  rw [send_of_isOpen hopen]
  exact h.onCommon ⟨fun _ _ => rfl, fun _ => rfl⟩

/-! ### Changes of one connection -/

/-- Another entry for a connection is found in the place of the old one. -/
theorem record?_modifyRecord {f : Registration → Registration} (hr : d.record? r.id = some r)
    (hf : ∀ q, q.id = r.id → (f q).id = r.id) (x : ClientId) :
    (d.modifyRecord r.id f).record? x = if x = r.id then some (f r) else d.record? x := by
  have hid : ∀ q : Registration, (if q.id = r.id then f q else q).id = q.id := by
    intro q
    split
    · rename_i hq
      rw [hf q hq, hq]
    · rfl
  have hfind : (d.modifyRecord r.id f).record? x =
      (d.record? x).map fun q => if q.id = r.id then f q else q := by
    simp only [record?, modifyRecord, List.find?_map]
    congr 2
    funext q
    simp [hid]
  rw [hfind]
  by_cases hx : x = r.id
  · simp [hx, hr]
  · cases hq : d.record? x with
    | none => simp [hx]
    | some q => simp [hx, id_of_record? hq]

/-- What one connection has is changed on both sides. -/
theorem Matches.revise (h : Matches d s) (hr : d.record? r.id = some r)
    {f : Registration → Registration} {g : Handle → Handle} {F : Client → Client}
    (hf : ∀ q, q.id = r.id → (f q).id = r.id) (hsuits : (g (d.handle r.id)).Suits (f r))
    (hclient : (f r).client (g (d.handle r.id)) = F (d.client r)) :
    Matches ((d.modifyRecord r.id f).modifyHandle r.id g) (s.modifyClient r.id F) := by
  obtain ⟨ht, rfl⟩ := h
  -- an entry of this connection is the one that is looked up
  have honly : ∀ q ∈ d.records, q.id = r.id → q = r := fun q hq hid =>
    Option.some.inj ((ht.known q hq).symm.trans (hid ▸ hr))
  have hrecord := record?_modifyRecord hr hf
  have hmem : ∀ q ∈ (d.modifyRecord r.id f).records, q.id = r.id ∧ q = f r ∨
      q.id ≠ r.id ∧ q ∈ d.records := by
    intro q hq
    obtain ⟨p, hp, rfl⟩ := List.mem_map.1 hq
    by_cases hid : p.id = r.id
    · obtain rfl := honly p hp hid
      exact .inl (by simp [hf p rfl])
    · exact .inr (by simp [hid, hp])
  refine ⟨⟨ht.alone, ?_, ?_, ?_, ?_⟩, ?_⟩
  · intro q hq
    refine (hrecord q.id).trans ?_
    rcases hmem q hq with ⟨hid, rfl⟩ | ⟨hid, hq⟩
    · rw [if_pos hid]
    · rw [if_neg hid, ht.known q hq]
  · intro q hq
    rcases hmem q hq with ⟨hid, -⟩ | ⟨-, hq⟩
    · exact hid ▸ ht.below r (mem_of_record? hr)
    · exact ht.below q hq
  · intro q hq
    rcases hmem q hq with ⟨hid, rfl⟩ | ⟨hid, hq⟩
    · simpa [modifyHandle, modifyRecord, hid] using hsuits
    · simpa [modifyHandle, modifyRecord, hid] using ht.suits q hq
  · intro x hx
    have hx := (hrecord x).symm.trans hx
    split at hx
    · cases hx
    · rename_i hid
      simpa [modifyHandle, modifyRecord, hid] using ht.closed x hx
  · simp only [SplitServer.server, Server.modifyClient, modifyHandle, modifyRecord, List.map_map]
    congr 1
    refine List.map_congr_left fun q hq => ?_
    by_cases hid : q.id = r.id
    · obtain rfl := honly q hq hid
      simpa [client, hf q rfl] using hclient
    · simp [client, hid]

/-- An entry that is changed into itself leaves the state as it is. -/
theorem modifyRecord_self (d : SplitServer σ) (id : ClientId) :
    d.modifyRecord id (fun r => r) = d := by
  simp [modifyRecord]

/-- What is behind a handle may be changed in two steps or in one. -/
theorem modifyHandle_modifyHandle (d : SplitServer σ) (id : ClientId) (f g : Handle → Handle) :
    (d.modifyHandle id f).modifyHandle id g = d.modifyHandle id fun h => g (f h) := by
  simp [modifyHandle]

/-- A client that stays where it is gets another mask or another window. -/
theorem Matches.rehold (h : Matches d s) (hr : d.record? r.id = some r) {g : Handle → Handle}
    {held : Holding} (hsuits : (g (d.handle r.id)).Suits r)
    (hheld : (r.client (g (d.handle r.id))).holding = some held) :
    Matches (d.modifyHandle r.id g) (s.setHolding r.id (some held)) := by
  have hclient : r.client (g (d.handle r.id)) = { d.client r with holding := some held } := by
    rw [← hheld]
    rfl
  have hrevise := h.revise hr (f := fun q => q) (fun _ hq => hq) hsuits
    (F := fun c => { c with holding := some held }) hclient
  rwa [modifyRecord_self] at hrevise

end SplitServer

end BrailleShare
