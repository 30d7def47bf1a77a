import BrailleShare.Proofs.Server.Device

/-!
# Clients are apart

What one connection does stays with it. A request may make a branch of the tree, unwind one or free
one, and a connection that ends may give back the device and the display; none of this reaches what
another client has.

Main statements: whatever a request, a login or the end of a connection does, the records of all
others, their seats and their order, the device and the display are as they were, and packets go to
this connection alone (`step_confined`); the other clients keep their ttys with the paths that they
have (`Changes.path_of_tty?`); both together for a state that can be reached
(`others_undisturbed`).
-/

namespace BrailleShare

/-- Something that a connection does: a frame arrives from it, or it ends. -/
inductive Event.IsOf {σ : Type} (a : ClientId) : Event σ → Prop
  | frame (f : Frame) : IsOf a (.frame a f)
  | departure : IsOf a (.departure a)

/-- No report of a failure looks like a key. -/
theorem ReplyStyle.kind?_report_ne_key (style : ReplyStyle) (code : ErrorCode) (p : Packet) :
    (style.report code p).kind? ≠ some .key := by
  cases style with
  | error => simp [report, Packet.error]
  | exception => simp [report, Packet.exception]

/-! ### The others in a list -/

/-- The clients of a list but for one, in their order. -/
def others (a : ClientId) (ids : List ClientId) : List ClientId :=
  ids.filter fun x => !decide (x = a)

/-- Who comes last is left out of the others. -/
theorem others_append_self (a : ClientId) (ids : List ClientId) :
    others a (ids ++ [a]) = others a ids := by
  simp [others]

/-- Taking a client away does not concern the others. -/
theorem others_filter_self (a : ClientId) (ids : List ClientId) :
    others a (ids.filter fun x => !decide (x = a)) = others a ids := by
  simp [others]

namespace TtyTree

variable {t : TtyTree ClientId} {a : ClientId} {tty : TtyId}

/-- A client that sits down leaves the others in their order. -/
theorem others_clientsOf_seat (h : t.live tty) (x : TtyId) :
    others a ((t.seat tty a).clientsOf x) = others a (t.clientsOf x) := by
  rw [clientsOf_seat _ _ _ h]
  split
  · exact others_append_self ..
  · rfl

/-- A client that gets up leaves the others in their order. -/
theorem others_clientsOf_detach (t : TtyTree ClientId) (a : ClientId) (tty x : TtyId) :
    others a ((t.detach tty a).clientsOf x) = others a (t.clientsOf x) := by
  rw [clientsOf_detach]
  split
  · exact others_filter_self ..
  · rfl

end TtyTree

namespace Server

variable {σ : Type} {s t u : Server σ} {a b x : ClientId} {c : Client} {p : Packet}

/-! ### What may come of a request -/

/-- What comes of a request for a tty. -/
inductive Allotment (s : Server σ) (c : Client) : Outcome σ → Prop
  /-- It is refused out of hand. -/
  | refused (code : ErrorCode) : Allotment s c (s.refuse code)
  /-- The tree has no room for its path, and nobody has moved in it. -/
  | crowded {tree : TtyTree ClientId} (made : List (UInt32 × TtyId)) (e : TtyError)
      (hseats : ∀ x, tree.clientsOf x = s.tree.clientsOf x) : Allotment s c
        (((({ s with tree } : Server σ).noteMade made).note (.pathRefused c.id e)).refuseTty e)
  /-- The client sits down at the end of its path. -/
  | seated {path : List UInt32} {tree : TtyTree ClientId} {tty : TtyId} (mode : KeyMode)
      (made : List (UInt32 × TtyId)) (ho : s.tree.Opens path tree tty) : Allotment s c
        ((({ s with tree } : Server σ).noteMade made).seatClient c tty path mode)

/-- A request for a tty ends in one of these ways. -/
theorem takeTty_allotment (s : Server σ) (c : Client) (payload : Octets) :
    Allotment s c (s.takeTty c payload) := by
  unfold takeTty
  split
  · exact .refused _
  · split
    · exact .refused _
    · split
      · exact .refused _
      · rename_i mode _
        split
        · split <;> exact .refused _
        · exact .refused _
        · rename_i hfound _
          exact .seated mode [] (.found hfound)
        · rename_i hmissing _
          dsimp only
          split
          · rename_i e he
            have httys := (TtyTree.create_of_error he).1
            exact .crowded _ e fun x => by simp only [TtyTree.clientsOf, TtyTree.find?, httys]
          · exact .seated mode _ (.made hmissing ‹_›)

/-- A first packet is turned away, or it is a login that succeeds. -/
theorem logIn_cases (s : Server σ) (a : ClientId) (p : Packet) :
    (∃ code n, s.logIn a p = s.turnAway a code n) ∨
      p.kind? = some .auth ∧ s.logIn a p = (.proceed,
        (((s.modifyClient a fun d => { d with loggedIn := true }).releaseWaiting).note
          (.loggedIn a)).send a .ack) := by
  unfold logIn
  split
  · exact .inl ⟨_, _, rfl⟩
  · rename_i hk
    split
    · exact .inl ⟨_, _, rfl⟩
    · split
      · exact .inl ⟨_, _, rfl⟩
      · split
        · exact .inl ⟨_, _, rfl⟩
        · exact .inr ⟨not_not.1 hk, rfl⟩

/-! ### What is confined to one connection -/

/-- The packets queued for a client, the oldest first. -/
def outbox (s : Server σ) (id : ClientId) : List Packet :=
  (s.packets.filter fun q => decide (q.1 = id)).map (·.2)

/-- Between the two states nothing has become of anybody but one connection. -/
structure Confined (a : ClientId) (s t : Server σ) : Prop where
  /-- The records of the others, in their order. -/
  records : (t.clients.filter fun d => !decide (d.id = a)) =
    s.clients.filter fun d => !decide (d.id = a)
  /-- The others in each tty, in their order. -/
  seats : ∀ tty, others a (t.tree.clientsOf tty) = others a (s.tree.clientsOf tty)
  /-- Nobody else has been given the device or has lost it. -/
  rawHolder : ∀ {x}, x ≠ a → (t.rawHolder = some x ↔ s.rawHolder = some x)
  /-- Nobody else has become the last writer or is so no more. -/
  lastShown : ∀ {x}, x ≠ a → (t.lastShown = some x ↔ s.lastShown = some x)
  /-- Packets are for this connection, and none of them is a key. -/
  packets : ∃ replies : List Packet, t.packets = s.packets ++ replies.map (fun q => (a, q)) ∧
    ∀ q ∈ replies, q.kind? ≠ some .key

namespace Confined

/-- Nothing becomes of anybody where nothing happens. -/
theorem refl (a : ClientId) (s : Server σ) : Confined a s s :=
  ⟨rfl, fun _ => rfl, fun _ => .rfl, fun _ => .rfl, [], by simp, by simp⟩

/-- What concerns one connection twice concerns it alone. -/
theorem trans (h : Confined a s t) (h' : Confined a t u) : Confined a s u := by
  obtain ⟨ps, hps, hkeys⟩ := h.packets
  obtain ⟨qs, hqs, hkeys'⟩ := h'.packets
  refine ⟨h'.records.trans h.records, fun tty => (h'.seats tty).trans (h.seats tty),
    fun hx => (h'.rawHolder hx).trans (h.rawHolder hx),
    fun hx => (h'.lastShown hx).trans (h.lastShown hx), ps ++ qs, by simp [hqs, hps], ?_⟩
  intro q hq
  rcases List.mem_append.1 hq with hq | hq
  · exact hkeys q hq
  · exact hkeys' q hq

/-- What concerns clients, ttys, device and display not at all, and queues no packet. -/
theorem of_eq (hclients : t.clients = s.clients) (htree : t.tree = s.tree)
    (hraw : t.rawHolder = s.rawHolder) (hshown : t.lastShown = s.lastShown)
    (hpackets : t.packets = s.packets) : Confined a s t where
  records := by rw [hclients]
  seats _ := by rw [htree]
  rawHolder _ := by rw [hraw]
  lastShown _ := by rw [hshown]
  packets := ⟨[], by simpa using hpackets, by simp⟩

/-- A line in the log concerns nobody else. -/
theorem note (s : Server σ) (n : Notice) : Confined a s (s.note n) :=
  .of_eq rfl rfl rfl rfl (packets_note s n)

/-- A call to the driver concerns nobody else. -/
theorem called {α : Type} (s : Server σ) (call : DeviceCall) (r : DriverAnswer σ α) :
    Confined a s (s.called call r) :=
  .of_eq rfl rfl rfl rfl (packets_called s call r)

/-- A packet that is no key concerns nobody but the one it is for. -/
theorem send (s : Server σ) (hk : p.kind? ≠ some .key) : Confined a s (s.send a p) :=
  ⟨rfl, fun _ => rfl, fun _ => .rfl, fun _ => .rfl, [p], packets_send s a p, by simpa using hk⟩

/-- That one waits less concerns nobody else. -/
theorem releaseWaiting (s : Server σ) : Confined a s s.releaseWaiting :=
  .of_eq rfl rfl rfl rfl rfl

/-- The lines about ttys that were made concern nobody else. -/
theorem noteMade (s : Server σ) (made : List (UInt32 × TtyId)) :
    Confined a s (s.noteMade made) := by
  have hpackets := packets_noteMade s made
  rw [noteMade_eq] at hpackets ⊢
  exact .of_eq rfl rfl rfl rfl hpackets

/-- The ttys become others, and nobody but the connection moves. -/
theorem withTree {tree : TtyTree ClientId}
    (h : ∀ tty, others a (tree.clientsOf tty) = others a (s.tree.clientsOf tty)) :
    Confined a s { s with tree } :=
  ⟨rfl, h, fun _ => .rfl, fun _ => .rfl, [], (List.append_nil _).symm, by simp⟩

/-- Only ttys without clients are cleared away. -/
theorem clearTty (s : Server σ) (tty : TtyId) : Confined a s (s.clearTty tty).1 := by
  have hpackets := packets_clearTty s tty
  rw [clearTty_eq] at hpackets ⊢
  have htree : Confined a s { s with tree := (s.tree.collect tty).1 } :=
    withTree fun x => by rw [TtyTree.clientsOf_collect]
  exact htree.trans (.of_eq rfl rfl rfl rfl hpackets)

/-- A record that changes concerns its own client. -/
theorem modifyClient (s : Server σ) {f : Client → Client} (hf : ∀ d, (f d).id = d.id) :
    Confined a s (s.modifyClient a f) := by
  refine ⟨?_, fun _ => rfl, fun _ => .rfl, fun _ => .rfl, [], (List.append_nil _).symm, by simp⟩
  simp only [Server.modifyClient, List.filter_map]
  -- the records that are kept are those that are not changed
  have htest : ((fun d : Client => !decide (d.id = a)) ∘ fun d => if d.id = a then f d else d) =
      fun d => !decide (d.id = a) := by
    funext d
    by_cases hd : d.id = a <;> simp [hd, hf]
  rw [htest]
  refine (List.map_congr_left fun d hd => ?_).trans (List.map_id _)
  have hne : d.id ≠ a := by simpa using (List.mem_filter.1 hd).2
  simp [hne]

/-- What a client holds concerns this client. -/
theorem setHolding (s : Server σ) (a : ClientId) (h : Option Holding) :
    Confined a s (s.setHolding a h) :=
  modifyClient s fun _ => rfl

/-- Being forgotten as the last writer concerns this client. -/
theorem forgetShown (s : Server σ) (a : ClientId) : Confined a s (s.forgetShown a) := by
  rw [forgetShown_eq]
  refine ⟨rfl, fun _ => rfl, fun _ => .rfl, fun hx => ?_, [], (List.append_nil _).symm, by simp⟩
  dsimp only
  split
  · rename_i hshown
    simp [hshown, hx.symm]
  · exact .rfl

/-- The device goes to the connection from nobody. -/
theorem takeRaw (h : s.rawHolder = none) : Confined a s { s with rawHolder := some a } :=
  ⟨rfl, fun _ => rfl, fun hx => by simp [h, hx.symm], fun _ => .rfl, [], (List.append_nil _).symm,
    by simp⟩

/-- The connection gives the device back. -/
theorem returnRaw (h : s.rawHolder = some a) : Confined a s { s with rawHolder := none } :=
  ⟨rfl, fun _ => rfl, fun hx => by simp [h, hx.symm], fun _ => .rfl, [], (List.append_nil _).symm,
    by simp⟩

/-- The connection moves from one tty to another. -/
theorem reseat (s : Server σ) (source : TtyId) {target : TtyId} (hl : s.tree.live target) :
    Confined a s { s with tree := (s.tree.detach source a).seat target a } := by
  refine withTree fun tty => ?_
  rw [TtyTree.others_clientsOf_seat (by simpa using hl), TtyTree.others_clientsOf_detach]

/-! ### What it leaves to the others -/

/-- Whoever else is asked for is found with all that is known of it. -/
theorem client?_eq (h : Confined a s t) (hx : x ≠ a) : t.client? x = s.client? x := by
  have hfind : ∀ r : Server σ, r.client? x =
      (r.clients.filter fun d => !decide (d.id = a)).find? fun d => d.id == x := by
    intro r
    rw [List.find?_filter, client?]
    congr 1
    funext d
    by_cases hd : d.id = x <;> simp [hd, hx]
  rw [hfind t, hfind s, h.records]

/-- The outboxes of the others are as they were. -/
theorem outbox_eq (h : Confined a s t) (hx : x ≠ a) : t.outbox x = s.outbox x := by
  obtain ⟨replies, hreplies, -⟩ := h.packets
  simp [outbox, hreplies, hx.symm]

end Confined

/-! ### Requests -/

/-- A request is confined to its client. -/
abbrev Outcome.Confined (a : ClientId) (s : Server σ) (o : Outcome σ) : Prop :=
  s.Confined a o.server

/-- An acknowledgement concerns the one it is for. -/
theorem acknowledge_confined (s : Server σ) (a : ClientId) : (s.acknowledge a).Confined a s :=
  .send s (by simp [Packet.ack])

/-- An answer concerns the one it is for. -/
theorem tell_confined (s : Server σ) (c : Client) (payload : Octets) {answer : Packet}
    (hk : answer.kind? ≠ some .key) : (s.tell c payload answer).Confined c.id s := by
  unfold tell
  split
  · exact .refl ..
  · split
    · exact .refl ..
    · exact .send s hk

/-- What depends on the tty of a client concerns it alone if it does so for any tty. -/
theorem withHolding_confined {f : Holding → Outcome σ}
    (hf : ∀ h, c.holding = some h → (f h).Confined c.id s) :
    (s.withHolding c f).Confined c.id s := by
  unfold withHolding
  split
  · exact .refl ..
  · split
    · exact .refl ..
    · exact hf _ ‹_›

/-- Opening a path moves nobody, and only the client sits down there. -/
theorem seatClient_confined (hs : s.tree.Sound) (c : Client) {path : List UInt32}
    {tree : TtyTree ClientId} {tty : TtyId} (ho : s.tree.Opens path tree tty) (mode : KeyMode)
    (made : List (UInt32 × TtyId)) :
    ((({ s with tree } : Server σ).noteMade made).seatClient c tty path mode).Confined c.id s := by
  obtain ⟨-, hlive, -, -, hgrown⟩ := TtyTree.Opens.sound hs ho
  have hopen : Confined c.id s { s with tree } := .withTree fun x => by rw [hgrown.clients]
  have hmade := hopen.trans (.noteMade _ made)
  have hlive : (({ s with tree } : Server σ).noteMade made).tree.live tty := by
    rw [noteMade_eq]
    exact hlive
  rw [seatClient_of_live hlive]
  refine ((hmade.trans (.reseat _ TtyTree.lobby hlive)).trans ?_).trans (acknowledge_confined ..)
  exact (Confined.setHolding _ c.id _).trans (.note _ _)

/-- A request for a tty concerns its client alone. -/
theorem takeTty_confined (hs : s.tree.Sound) (c : Client) (payload : Octets) :
    (s.takeTty c payload).Confined c.id s := by
  have hallot := takeTty_allotment s c payload
  generalize s.takeTty c payload = o at hallot ⊢
  cases hallot with
  | refused code => exact .refl ..
  | crowded made e hseats =>
    exact (Confined.trans (.withTree fun x => by rw [hseats]) (.noteMade _ _)).trans (.note _ _)
  | seated mode made ho => exact seatClient_confined hs c ho mode made

/-- A change of focus concerns its client alone. -/
theorem focusChild_confined (s : Server σ) (c : Client) (payload : Octets) :
    (s.focusChild c payload).Confined c.id s := by
  apply withHolding_confined
  intro h hh
  split
  · exact .refl ..
  · unfold TtyTree.setFocus
    split
    · exact .refl ..
    · rename_i htree
      split at htree
      · cases htree
        exact .withTree fun x => by rw [TtyTree.clientsOf_adjust_focus]
      · cases htree

/-- Giving a tty back concerns its client alone. -/
theorem returnTty_confined (hs : s.tree.Sound) (c : Client) :
    (s.returnTty c).Confined c.id s := by
  apply withHolding_confined
  intro h hh
  rw [TtyTree.move_of_live hs.live_lobby]
  have hup := (Confined.reseat (a := c.id) s h.tty hs.live_lobby).trans
    (.setHolding _ c.id none)
  refine ((hup.trans (.clearTty _ h.tty)).trans ?_).trans (acknowledge_confined ..)
  exact (Confined.note _ _).trans (.forgetShown _ c.id)

/-- A new mask concerns its client alone. -/
theorem putMask_confined (s : Server σ) (c : Client) (h : Holding) (mask : RangeSet) :
    (s.putMask c h mask).Confined c.id s :=
  (Confined.setHolding s c.id _).trans (acknowledge_confined ..)

/-- A change of a range of keys concerns its client alone. -/
theorem changeRange_confined (s : Server σ) (c : Client) (payload : Octets) (change : MaskEdit) :
    (s.changeRange c payload change).Confined c.id s := by
  apply withHolding_confined
  intro h hh
  split
  · exact .refl ..
  · split
    · exact .refl ..
    · exact putMask_confined ..

/-- A change of a set of keys concerns its client alone. -/
theorem changeSet_confined (s : Server σ) (c : Client) (payload : Octets) (change : MaskEdit) :
    (s.changeSet c payload change).Confined c.id s := by
  apply withHolding_confined
  intro h hh
  split
  · exact .refl ..
  · exact putMask_confined ..

/-- A request to write concerns its client alone. -/
theorem write_confined (s : Server σ) (c : Client) (payload : Octets) :
    (s.write c payload).Confined c.id s := by
  unfold write
  split
  · exact .refl ..
  · apply withHolding_confined
    intro h hh
    split
    · exact .refl ..
    · exact .setHolding s c.id _
    · exact .setHolding s c.id _

/-- A request for the device concerns its client alone. -/
theorem takeRaw_confined (s : Server σ) (c : Client) (payload : Octets) :
    (s.takeRaw c payload).Confined c.id s := by
  unfold takeRaw
  split
  · exact .refl ..
  · split
    · exact .refl ..
    · split
      · exact .refl ..
      · split
        · exact .note s _
        · exact ((Confined.takeRaw ‹_›).trans (.note _ _)).trans (acknowledge_confined ..)

/-- Giving the device back concerns its client alone. -/
theorem returnRaw_confined (s : Server σ) (c : Client) : (s.returnRaw c).Confined c.id s := by
  unfold returnRaw
  split
  · rename_i hraw
    have hback := Confined.returnRaw (isRaw_iff.1 hraw)
    exact (hback.trans (.note _ _)).trans (acknowledge_confined ..)
  · exact .refl ..

/-! ### Coming and going -/

/-- Being turned away concerns the one that is turned away. -/
theorem turnAway_confined (s : Server σ) (a : ClientId) (code : ErrorCode) (n : Notice) :
    Confined a s (s.turnAway a code n).2 :=
  (Confined.note s n).trans (.send _ (by simp [Packet.error]))

/-- A login concerns its client alone. -/
theorem logIn_confined (s : Server σ) (a : ClientId) (p : Packet) :
    Confined a s (s.logIn a p).2 := by
  rcases logIn_cases s a p with ⟨code, n, hturned⟩ | ⟨-, hin⟩
  · rw [hturned]
    exact turnAway_confined ..
  · have hlogin : Confined a s (s.modifyClient a fun d => { d with loggedIn := true }) :=
      .modifyClient s fun _ => rfl
    have hcounted := hlogin.trans (.releaseWaiting _)
    rw [hin]
    exact (hcounted.trans (.note _ _)).trans (acknowledge_confined ..)

/-- Of the records, the device and the display only what is the connection's own is taken back. -/
theorem strikeOff_confined (s : Server σ) (c : Client) : Confined c.id s (s.strikeOff c) := by
  rw [strikeOff_eq]
  refine ⟨?_, fun _ => rfl, fun hx => ?_, fun hx => ?_, [], (List.append_nil _).symm, by simp⟩
  · rw [List.filter_filter]
    congr 1
    funext d
    by_cases hd : d.id = c.id <;> simp [hd]
  · dsimp only
    split
    · simp [‹s.rawHolder = some c.id›, hx.symm]
    · exact .rfl
  · dsimp only
    split
    · simp [‹s.lastShown = some c.id›, hx.symm]
    · exact .rfl

/-- Giving up a seat concerns its client alone. -/
theorem unseat_confined (s : Server σ) (c : Client) : Confined c.id s (s.unseat c) := by
  have hup : ∀ tty, Confined c.id s { s with tree := s.tree.detach tty c.id } := fun tty =>
    .withTree fun x => TtyTree.others_clientsOf_detach ..
  unfold unseat
  split
  · rename_i h _
    exact ((hup h.tty).trans (.clearTty _ h.tty)).trans (.note _ _)
  · exact hup _

/-! ### Any request and any end -/

section driver

variable [Driver σ]

/-- Octets for the device concern their client alone. -/
theorem passRaw_confined (s : Server σ) (c : Client) (payload : Octets) :
    (s.passRaw c payload).Confined c.id s := by
  unfold passRaw
  split
  · dsimp only
    split
    · exact .called s _ _
    · exact (Confined.called s _ _).trans (.note _ _)
  · exact .refl ..

/-- Every request is confined to its client. -/
theorem carryOut_confined (hs : s.tree.Sound) (c : Client) (p : Packet) :
    (s.carryOut c p).Confined c.id s := by
  unfold carryOut
  split
  · exact tell_confined s c _ (by simp [Packet.driverText])
  · exact tell_confined s c _ (by simp [Packet.driverText])
  · exact tell_confined s c _ (by simp [Packet.displaySize])
  · exact takeTty_confined hs c _
  · exact focusChild_confined ..
  · exact returnTty_confined hs c
  · exact changeRange_confined ..
  · exact changeRange_confined ..
  · exact changeSet_confined ..
  · exact changeSet_confined ..
  · exact write_confined ..
  · exact takeRaw_confined ..
  · exact returnRaw_confined ..
  · exact passRaw_confined ..
  · exact .refl ..

/-- A refusal is reported to nobody else. -/
theorem answer_confined (hs : s.tree.Sound) (c : Client) (p : Packet) :
    Confined c.id s (s.answer c p) := by
  have hcarry := carryOut_confined hs c p
  unfold answer
  dsimp only
  split
  · exact hcarry
  · exact (hcarry.trans (.note _ _)).trans (.send _ (ReplyStyle.kind?_report_ne_key _ _ _))

/-- A reset of the device concerns no connection. -/
theorem resetDevice_confined (s : Server σ) : Confined a s s.resetDevice := by
  unfold resetDevice
  have hcalled := Confined.called (a := a) s .reset (Driver.reset s.driver)
  dsimp only
  split
  · exact hcalled
  · refine hcalled.trans (.of_eq rfl rfl rfl rfl ?_)
    simp [packets, packetsIn, note, emit, Effect.packet?]

/-- The end of a connection is confined to it. -/
theorem disconnect_confined (s : Server σ) (a : ClientId) : Confined a s (s.disconnect a) := by
  unfold disconnect
  split
  · exact .refl ..
  · rename_i c hc
    obtain rfl := id_of_client? hc
    have hgone := ((strikeOff_confined s c).trans (unseat_confined _ c)).trans
      (.note _ (.disconnected c.id c.peer))
    dsimp only
    split
    · exact (hgone.trans (.note _ _)).trans (resetDevice_confined _)
    · exact hgone

/-- A frame concerns its client alone. -/
theorem onFrame_confined (hs : s.tree.Sound) (a : ClientId) (f : Frame) :
    Confined a s (s.onFrame a f).2 := by
  cases f with
  | packet p =>
    simp only [onFrame, onPacket]
    split
    · exact .refl ..
    · rename_i c hc
      obtain rfl := id_of_client? hc
      split
      · exact answer_confined hs c p
      · exact logIn_confined s c.id p
  | oversized type size =>
    simp only [onFrame, onOversized]
    split
    · exact .refl ..
    · split
      · exact .note s _
      · exact turnAway_confined ..

/-- What a connection does is confined to it. -/
theorem step_confined (hs : s.tree.Sound) {e : Event σ} (he : e.IsOf a) :
    Confined a s (s.step e) := by
  cases he with
  | frame f => exact onFrame_confined hs a f
  | departure => exact disconnect_confined s a

/-- What a connection does grants ttys to nobody else. -/
theorem client_eq_of_mem_grants {e : Event σ} (he : e.IsOf a) :
    ∀ g ∈ s.grants e, g.client = a := by
  intro g hg
  cases he with
  | departure => exact absurd hg List.not_mem_nil
  | frame f =>
    cases f with
    | oversized type size => exact absurd hg List.not_mem_nil
    | packet p =>
      simp only [grants] at hg
      split at hg
      · split at hg
        · exact congrArg Grant.client (List.mem_singleton.1 hg)
        · cases hg
      · cases hg

end driver

/-! ### Paths -/

/-- Changes keep a state consistent. -/
theorem Consistent.of_changes {g : List Grant} (hs : s.Consistent) (h : Changes s g t) :
    t.Consistent := by
  induction h with
  | refl => exact hs
  | tail _ h' ih => exact ih.of_change h'

/-- An event keeps a state consistent. -/
theorem Consistent.step [Driver σ] (hs : s.Consistent) (e : Event σ) : (s.step e).Consistent :=
  hs.of_changes (step_changes hs e)

/-- A history keeps a state consistent. -/
theorem Consistent.run [Driver σ] (hs : s.Consistent) (events : List (Event σ)) :
    (s.run events).Consistent := by
  induction events generalizing s with
  | nil => exact hs
  | cons e events ih => exact ih (hs.step e)

/-- A client that is granted no tty and holds one at the end has held it all along, and it has the
path that it had. -/
theorem Changes.path_of_tty? {g : List Grant} {tty : TtyId} (h : Changes s g t)
    (hs : s.Consistent) (hg : ∀ e ∈ g, e.client ≠ b) (hb : t.tty? b = some tty) :
    s.tty? b = some tty ∧ t.tree.path tty = s.tree.path tty := by
  induction h with
  | refl => exact ⟨hb, rfl⟩
  | @tail g g' t u h h' ih =>
    have ht : t.Consistent := hs.of_changes h
    have hnot : ∀ e ∈ g, e.client ≠ b := fun e he => hg e (List.mem_append_left _ he)
    obtain ⟨hheld, hpath, -⟩ | ⟨path, rfl, -⟩ := ht.tty?_of_change h' hb
    · obtain ⟨hold, hsame⟩ := ih hnot hheld
      exact ⟨hold, hpath.trans hsame⟩
    · exact absurd rfl (hg ⟨b, path⟩ (List.mem_append_right _ List.mem_cons_self))

/-- No path leads to the lobby. -/
theorem Consistent.path_lobby (hs : s.Consistent) : s.tree.path TtyTree.lobby = [] :=
  TtyTree.path_of_top hs.tree.lobby_link

/-! ### The others -/

/-- All that a client has is as it was. -/
structure Undisturbed (c : Client) (s t : Server σ) : Prop where
  /-- Whether it has logged in, and what it holds: tty, mode, mask, window and freshness. -/
  known : t.client? c.id = some c
  /-- The packets that wait for it. -/
  outbox : t.outbox c.id = s.outbox c.id
  /-- The tty that it sits in, the lobby if it holds none, is there. -/
  live : t.tree.live c.seat
  /-- The numbers from the root to this tty. -/
  path : t.tree.path c.seat = s.tree.path c.seat
  /-- The device, if it has it to itself. -/
  raw : s.rawHolder = some c.id → t.rawHolder = some c.id
  /-- The display, if it was written last. -/
  shown : s.lastShown = some c.id → t.lastShown = some c.id

/-- In every reachable state, whatever a connection does, successful or not: every other client has
what it had, and in every tty the others are in the order in which they were. -/
theorem others_undisturbed [Driver σ] (h : s.Reachable) {e : Event σ} (he : e.IsOf a) :
    (∀ c ∈ s.clients, c.id ≠ a → Undisturbed c s (s.step e)) ∧
      ∀ tty, others a ((s.step e).tree.clientsOf tty) = others a (s.tree.clientsOf tty) := by
  obtain ⟨given, h⟩ := h
  have hs := h.consistent
  have ht := hs.step e
  have hconf := step_confined hs.tree he
  refine ⟨fun c hc hne => ?_, hconf.seats⟩
  have hknown : (s.step e).client? c.id = some c :=
    (hconf.client?_eq hne).trans (hs.client?_of_mem hc)
  refine ⟨hknown, hconf.outbox_eq hne, ?_, ?_, (hconf.rawHolder hne).2, (hconf.lastShown hne).2⟩
  · cases hh : c.holding with
    | none => exact Client.seat_of_none hh ▸ ht.tree.live_lobby
    | some hd => exact Client.seat_of_holding hh ▸ ht.live_of_holding hknown hh
  · cases hh : c.holding with
    | none => rw [Client.seat_of_none hh, hs.path_lobby, ht.path_lobby]
    | some hd =>
      have hnot : ∀ g ∈ s.grants e, g.client ≠ c.id := fun g hg hgc =>
        hne (hgc.symm.trans (client_eq_of_mem_grants he g hg))
      rw [Client.seat_of_holding hh]
      exact ((step_changes hs e).path_of_tty? hs hnot (tty?_of_holding hknown hh)).2

/-- The rehearsal, after which the second client, inside the tty of the first, is shown. -/
def onStage : Server BareDriver :=
  rehearsed.step .cycle

/-- The two clients are on stage after a history from the start. -/
theorem onStage_reachable : onStage.Reachable :=
  ⟨_, rehearsed_reachable.step .cycle⟩

/-- One of two clients leaves, and the other, in a tty below its own, is left undisturbed. -/
theorem others_undisturbed_onStage : onStage.Reachable ∧
    Event.IsOf ⟨1⟩ (.departure ⟨1⟩ : Event BareDriver) ∧ onStage.lastShown = some ⟨2⟩ ∧
    (∃ c ∈ onStage.clients, c.id = ⟨2⟩ ∧ onStage.tree.path c.seat = [3, 5] ∧
      Undisturbed c onStage (onStage.step (.departure ⟨1⟩))) ∧
    ∀ tty, others ⟨1⟩ ((onStage.step (.departure ⟨1⟩)).tree.clientsOf tty) =
      others ⟨1⟩ (onStage.tree.clientsOf tty) := by
  have hof : Event.IsOf ⟨1⟩ (.departure ⟨1⟩ : Event BareDriver) := .departure
  obtain ⟨hothers, horder⟩ := others_undisturbed onStage_reachable hof
  have hsecond : ∃ c ∈ onStage.clients, c.id = ⟨2⟩ ∧ onStage.tree.path c.seat = [3, 5] := by
    decide +kernel
  obtain ⟨c, hc, hid, hpath⟩ := hsecond
  refine ⟨onStage_reachable, hof, by decide +kernel, ⟨c, hc, hid, hpath, ?_⟩, horder⟩
  exact hothers c hc (by simp [hid])

end Server

end BrailleShare
