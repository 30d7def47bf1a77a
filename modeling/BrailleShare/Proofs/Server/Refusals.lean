import BrailleShare.Proofs.Server.Agreement
import BrailleShare.Proofs.Server.Outward

/-!
# Refused requests

A request of a client that has logged in is carried out or refused, and the client learns which. Of
what a request does to the world outside there are six kinds: this file says which request is of
which kind, and under what conditions.

Main statements: a request is handled in one of six ways (`carryOut_handled`), and one that is
refused leaves everything as it was, but for the report to the client, for what the log tells, for
the ids of ttys and for an attempt to hand octets to the device (`refusal_changes_nothing`).
-/

namespace BrailleShare

/-- A packet tells a client that its request was refused. -/
def Packet.Refuses (p : Packet) : Prop :=
  p.kind? = some .error ∨ p.kind? = some .exception

/-- A report in either style is a refusal. -/
theorem ReplyStyle.refuses_report (style : ReplyStyle) (code : ErrorCode) (p : Packet) :
    (style.report code p).Refuses := by
  cases style with
  | error => exact .inl (Packet.kind?_ofKind ..)
  | exception => exact .inr (Packet.kind?_ofKind ..)

/-- No other kind of packet is a refusal. -/
theorem Packet.not_refuses_ofKind {k : PacketKind} (payload : Octets)
    (hk : k ≠ .error ∧ k ≠ .exception) : ¬ (ofKind k payload).Refuses := by
  simp [Refuses, hk]

namespace Server

variable {σ : Type} {s t u : Server σ} {c : Client} {p : Packet} {id : ClientId}

/-! ### Nothing changed -/

/-- The second state is as the first one was, but for the driver, the effects and the ids that ttys
will get. -/
structure AsBefore (s t : Server σ) : Prop where
  /-- The ttys, with their numbers and clients, their focus and their order. -/
  ttys : t.tree.ttys = s.tree.ttys
  limit : t.tree.limit = s.tree.limit
  /-- The clients with all they hold, the count of those that wait, the raw mode, the last writer
  and whatever else there is. -/
  rest : t = { s with tree := t.tree, driver := t.driver, effects := t.effects }

namespace AsBefore

/-- Effects and another driver make no difference. -/
theorem of_rest (h : t = { s with driver := t.driver, effects := t.effects }) : AsBefore s t := by
  refine ⟨?_, ?_, ?_⟩
  · rw [h]
  · rw [h]
  · rw [h]

/-- A state is as it was. -/
theorem refl (s : Server σ) : AsBefore s s :=
  of_rest rfl

/-- A line in the log leaves a state as it was. -/
theorem note (s : Server σ) (n : Notice) : AsBefore s (s.note n) :=
  of_rest rfl

/-- A packet that is queued leaves a state as it was. -/
theorem send (s : Server σ) (id : ClientId) (p : Packet) : AsBefore s (s.send id p) :=
  of_rest rfl

/-- What leaves a state as it was twice leaves it as it was. -/
theorem trans (h : AsBefore s t) (h' : AsBefore t u) : AsBefore s u := by
  refine ⟨h'.ttys.trans h.ttys, h'.limit.trans h.limit, ?_⟩
  rw [h'.rest, h.rest]

end AsBefore

/-! ### How requests are handled -/

/-- A client has the device exactly if it is the one that has it. -/
theorem isRaw_iff : s.isRaw id = true ↔ s.rawHolder = some id := by
  simp [isRaw]

section driver

variable [Driver σ]

/-- What comes of a request of a client that has logged in. -/
inductive Handled (s : Server σ) (c : Client) (p : Packet) : Outcome σ → Prop
  /-- It is refused without the device having been asked. -/
  | refused {t : Server σ} (r : Refusal) (hsame : AsBefore s t) (hoff : Offstage s t)
      (hpackets : t.packets = s.packets) : Handled s c p ⟨t, some r⟩
  /-- It is carried out without the device; the client does not have the device to itself. -/
  | served {t : Server σ} (replies : List Packet) (hfree : s.rawHolder ≠ some c.id)
      (hoff : Offstage s t) (hpackets : t.packets = s.packets ++ replies.map fun q => (c.id, q))
      (hreplies : ∀ q ∈ replies, ¬ q.Refuses) : Handled s c p ⟨t, none⟩
  /-- The client gets the device, which nobody has. -/
  | tookRaw {t : Server σ} (hk : p.kind? = some .getRaw) (hfree : s.rawHolder = none)
      (hable : s.info.raw = true) (hoff : Offstage { s with rawHolder := some c.id } t)
      (hpackets : t.packets = s.packets ++ [(c.id, .ack)]) : Handled s c p ⟨t, none⟩
  /-- The client gives back the device, which it has. -/
  | returnedRaw {t : Server σ} (hk : p.kind? = some .leaveRaw) (hheld : s.rawHolder = some c.id)
      (hclients : t.clients = s.clients) (hoff : Offstage { s with rawHolder := none } t)
      (hpackets : t.packets = s.packets ++ [(c.id, .ack)]) : Handled s c p ⟨t, none⟩
  /-- The driver takes the octets of the client that has the device. -/
  | passedRaw (hk : p.kind? = some .packet) (hheld : s.rawHolder = some c.id)
      (hok : (Driver.writePacket s.driver p.payload).outcome.isOk = true) :
      Handled s c p
        ⟨s.called (.writePacket p.payload) (Driver.writePacket s.driver p.payload), none⟩
  /-- The driver does not take the octets of the client that has the device. -/
  | failedRaw (e : DriverError) (hk : p.kind? = some .packet) (hheld : s.rawHolder = some c.id)
      (herror : (Driver.writePacket s.driver p.payload).outcome = .error e) :
      Handled s c p
        ⟨(s.called (.writePacket p.payload) (Driver.writePacket s.driver p.payload)).note
          (.rawWriteFailed c.id e), some (.request .driverError)⟩

namespace Handled

/-- A refusal leaves everything as it was. -/
theorem of_refuse (s : Server σ) (c : Client) (p : Packet) (code : ErrorCode) :
    Handled s c p (s.refuse code) :=
  .refused _ (.refl s) (.refl s) rfl

/-- A request is carried out, and the client is not told so. -/
theorem of_done (hfree : s.rawHolder ≠ some c.id) (hoff : Offstage s t)
    (hpackets : t.packets = s.packets) : Handled s c p t.done :=
  .served [] hfree hoff (by simpa using hpackets) (by simp)

/-- A request is carried out, and the client gets an answer. -/
theorem of_answer (hfree : s.rawHolder ≠ some c.id) (hoff : Offstage s t)
    (hpackets : t.packets = s.packets) {q : Packet} (hq : ¬ q.Refuses) :
    Handled s c p (t.send c.id q).done :=
  .served [q] hfree (hoff.trans (.send _ _ _)) (by simp [hpackets]) (by simpa using hq)

/-- A request is carried out, and the client is told so. -/
theorem of_acknowledge (hfree : s.rawHolder ≠ some c.id) (hoff : Offstage s t)
    (hpackets : t.packets = s.packets) : Handled s c p (t.acknowledge c.id) :=
  of_answer hfree hoff hpackets (Packet.not_refuses_ofKind [] (by decide))

end Handled

/-- A request for facts is handled properly, if the answer is no refusal. -/
theorem tell_handled (s : Server σ) (c : Client) (p : Packet) {answer : Packet}
    (ha : ¬ answer.Refuses) : Handled s c p (s.tell c p.payload answer) := by
  unfold tell
  split
  · exact .of_refuse ..
  · split
    · exact .of_refuse ..
    · rename_i hraw
      exact .of_answer (mt isRaw_iff.2 hraw) (.refl s) rfl ha

/-- What depends on the tty of a client is handled properly if it is so for every tty and while the
client does not have the device. -/
theorem withHolding_handled {f : Holding → Outcome σ}
    (hf : s.rawHolder ≠ some c.id → ∀ h, c.holding = some h → Handled s c p (f h)) :
    Handled s c p (s.withHolding c f) := by
  unfold withHolding
  split
  · exact .of_refuse ..
  · rename_i hraw
    split
    · exact .of_refuse ..
    · exact hf (mt isRaw_iff.2 hraw) _ ‹_›

/-! ### Requests for ttys -/

/-- Whoever can be seated is told so. -/
theorem seatClient_handled (hs : s.tree.Sound) (hfree : s.rawHolder ≠ some c.id)
    {path : List UInt32} {tree : TtyTree ClientId} {tty : TtyId} (ho : s.tree.Opens path tree tty)
    (mode : KeyMode) (made : List (UInt32 × TtyId)) :
    Handled s c p ((({ s with tree } : Server σ).noteMade made).seatClient c tty path mode) := by
  obtain ⟨-, hlive, -⟩ := TtyTree.Opens.sound hs ho
  have hmade := (Offstage.withTree s tree).trans (.noteMade _ made)
  have hlive : (({ s with tree } : Server σ).noteMade made).tree.live tty := by
    rw [noteMade_eq]
    exact hlive
  rw [seatClient_of_live hlive]
  refine .of_acknowledge hfree (hmade.trans ?_) ?_
  · exact ((Offstage.withTree _ _).trans (.setHolding _ _ _)).trans (.note _ _)
  · rw [packets_note]
    exact packets_noteMade ..

/-- Where a path cannot be made, what was made of it is taken away again. -/
theorem create_refused {deepest : TtyId} {path : List UInt32} {e : TtyError}
    (he : (s.tree.create deepest path).result = .error e) (n : Notice) :
    let t := ({ s with tree := (s.tree.create deepest path).tree } : Server σ).noteMade
      (s.tree.create deepest path).made
    Handled s c p ((t.note n).refuseTty e) := by
  obtain ⟨httys, hlimit⟩ := TtyTree.create_of_error he
  have hmade := (Offstage.withTree s (s.tree.create deepest path).tree).trans
    (.noteMade _ (s.tree.create deepest path).made)
  refine .refused _ (.trans ?_ (.note _ n)) ?_ ?_
  · rw [noteMade_eq]
    exact ⟨httys, hlimit, rfl⟩
  · exact hmade.trans (.note _ n)
  · rw [packets_note]
    exact packets_noteMade ..

/-- A request for a tty is handled properly. -/
theorem takeTty_handled (hs : s.tree.Sound) (c : Client) (p : Packet) :
    Handled s c p (s.takeTty c p.payload) := by
  unfold takeTty
  split
  · exact .of_refuse ..
  · rename_i hraw
    have hfree := mt isRaw_iff.2 hraw
    split
    · exact .of_refuse ..
    · split
      · exact .of_refuse ..
      · rename_i mode _
        split
        · split
          · exact .of_refuse ..
          · exact .of_refuse ..
        · exact .of_refuse ..
        · rename_i hfound _
          exact seatClient_handled hs hfree (.found hfound) mode []
        · rename_i hmissing _
          dsimp only
          split
          · exact create_refused ‹_› _
          · exact seatClient_handled hs hfree (.made hmissing ‹_›) mode _

/-- A change of focus is handled properly. -/
theorem focusChild_handled (hs : s.Consistent) (hc : s.client? c.id = some c) (p : Packet) :
    Handled s c p (s.focusChild c p.payload) := by
  apply withHolding_handled
  intro hfree h hh
  have hlive := hs.live_of_holding hc hh
  split
  · exact .of_refuse ..
  · rw [TtyTree.setFocus_of_live hlive]
    exact .of_done hfree (.of_eq rfl rfl rfl) rfl

/-- Giving a tty back is handled properly. -/
theorem returnTty_handled (hs : s.Consistent) (p : Packet) : Handled s c p (s.returnTty c) := by
  apply withHolding_handled
  intro hfree h hh
  rw [TtyTree.move_of_live hs.tree.live_lobby]
  have hleave := (Offstage.withTree s ((s.tree.detach h.tty c.id).seat TtyTree.lobby c.id)).trans
    (.setHolding _ c.id none)
  have hclear := hleave.trans (.clearTty _ h.tty)
  refine .of_acknowledge hfree ((hclear.trans (.note _ _)).trans (.forgetShown _ _)) ?_
  rw [packets_forgetShown, packets_note, packets_clearTty]
  rfl

/-! ### Masks and windows -/

/-- A new mask is handled properly. -/
theorem putMask_handled (hfree : s.rawHolder ≠ some c.id) (h : Holding) (mask : RangeSet) :
    Handled s c p (s.putMask c h mask) :=
  .of_acknowledge hfree (.of_eq rfl rfl rfl) rfl

/-- A change of a range of keys is handled properly. -/
theorem changeRange_handled (s : Server σ) (c : Client) (p : Packet) (change : MaskEdit) :
    Handled s c p (s.changeRange c p.payload change) := by
  apply withHolding_handled
  intro hfree h hh
  split
  · exact .of_refuse ..
  · split
    · exact .of_refuse ..
    · exact putMask_handled hfree h _

/-- A change of a set of keys is handled properly. -/
theorem changeSet_handled (s : Server σ) (c : Client) (p : Packet) (change : MaskEdit) :
    Handled s c p (s.changeSet c p.payload change) := by
  apply withHolding_handled
  intro hfree h hh
  split
  · exact .of_refuse ..
  · exact putMask_handled hfree h _

/-- A request to write is handled properly. -/
theorem write_handled (s : Server σ) (c : Client) (p : Packet) :
    Handled s c p (s.write c p.payload) := by
  unfold write
  split
  · exact .of_refuse ..
  · apply withHolding_handled
    intro hfree h hh
    split
    · exact .of_refuse ..
    · exact .of_done hfree (.of_eq rfl rfl rfl) rfl
    · exact .of_done hfree (.of_eq rfl rfl rfl) rfl

/-! ### Raw mode -/

/-- A request for the device is handled properly. -/
theorem takeRaw_handled (s : Server σ) (c : Client) {p : Packet} (hk : p.kind? = some .getRaw) :
    Handled s c p (s.takeRaw c p.payload) := by
  unfold takeRaw
  split
  · exact .of_refuse ..
  · split
    · exact .of_refuse ..
    · split
      · exact .of_refuse ..
      · rename_i hable
        split
        · exact .refused _ (.note s _) (.note s _) (packets_note s _)
        · rename_i hfree
          simp only [not_or, Bool.not_eq_false] at hable
          refine .tookRaw hk hfree hable.2 ((Offstage.note _ _).trans (.send _ _ _)) ?_
          rw [packets_send, packets_note]
          rfl

/-- Giving the device back is handled properly. -/
theorem returnRaw_handled (s : Server σ) (c : Client) {p : Packet}
    (hk : p.kind? = some .leaveRaw) : Handled s c p (s.returnRaw c) := by
  unfold returnRaw
  split
  · rename_i hraw
    have hheld := isRaw_iff.1 hraw
    refine .returnedRaw hk hheld rfl ((Offstage.note _ _).trans (.send _ _ _)) ?_
    rw [packets_send, packets_note]
    rfl
  · exact .of_refuse ..

/-- Octets for the device are handled properly. -/
theorem passRaw_handled (s : Server σ) (c : Client) {p : Packet} (hk : p.kind? = some .packet) :
    Handled s c p (s.passRaw c p.payload) := by
  unfold passRaw
  split
  · rename_i hraw
    have hheld := isRaw_iff.1 hraw
    dsimp only
    split
    · rename_i hok
      exact .passedRaw hk hheld (by rw [hok]; rfl)
    · exact .failedRaw _ hk hheld ‹_›
  · exact .of_refuse ..

/-! ### Any request -/

/-- Every request is handled in one of the six ways. -/
theorem carryOut_handled (hs : s.Consistent) (hc : s.client? c.id = some c) (p : Packet) :
    Handled s c p (s.carryOut c p) := by
  unfold carryOut
  split
  · exact tell_handled s c p (Packet.not_refuses_ofKind _ (by decide))
  · exact tell_handled s c p (Packet.not_refuses_ofKind _ (by decide))
  · exact tell_handled s c p (Packet.not_refuses_ofKind _ (by decide))
  · exact takeTty_handled hs.tree c p
  · exact focusChild_handled hs hc p
  · exact returnTty_handled hs p
  · exact changeRange_handled s c p .ignore
  · exact changeRange_handled s c p .unignore
  · exact changeSet_handled s c p .ignore
  · exact changeSet_handled s c p .unignore
  · exact write_handled s c p
  · exact takeRaw_handled s c ‹_›
  · exact returnRaw_handled s c ‹_›
  · exact passRaw_handled s c ‹_›
  · exact .of_refuse ..

/-- A refused request is reported to its client. -/
theorem answer_eq_of_refusal {r : Refusal} (h : s.carryOut c p = ⟨t, some r⟩) :
    s.answer c p = (t.note (.requestFailed c.id p.type r.code (.ofKind p.kind?))).send c.id
      ((ReplyStyle.ofKind p.kind?).report r.code p) := by
  simp [answer, h]

/-- That a request was refused is reported in one packet, and that is all. -/
theorem answer_of_refusal {r : Refusal} (h : s.carryOut c p = ⟨t, some r⟩) :
    AsBefore t (s.answer c p) ∧
      ∃ q, (s.answer c p).packets = t.packets ++ [(c.id, q)] ∧ q.Refuses := by
  rw [answer_eq_of_refusal h]
  refine ⟨(AsBefore.note _ _).trans (.send _ _ _), ?_⟩
  exact ⟨_, by rw [packets_send, packets_note], ReplyStyle.refuses_report ..⟩

/-- Reporting a refusal does not concern the device. -/
theorem answer_offstage (s : Server σ) (c : Client) (p : Packet) :
    Offstage (s.carryOut c p).server (s.answer c p) := by
  unfold answer
  dsimp only
  split
  · exact .refl _
  · exact (Offstage.note _ _).trans (.send _ _ _)

/-- A request that is not refused is answered by what it has done. -/
theorem answer_of_none (h : s.carryOut c p = ⟨t, none⟩) : s.answer c p = t := by
  simp [answer, h]

/-- A packet from a client that has logged in is a request. -/
theorem step_frame_of_isLoggedIn (hl : s.isLoggedIn id = true) (p : Packet) :
    ∃ c, s.client? c.id = some c ∧ c.id = id ∧
      s.step (.frame id (.packet p)) = s.answer c p := by
  cases hc : s.client? id with
  | none => simp [isLoggedIn, hc] at hl
  | some c =>
    have hid := id_of_client? hc
    refine ⟨c, hid ▸ hc, hid, ?_⟩
    have hlogin : c.loggedIn = true := by simpa [isLoggedIn, hc] using hl
    simp [step, onFrame, onPacket, hc, hlogin]

/-! ### A crowded rehearsal -/

/-- The rehearsal, to which a third client has come and logged in. -/
def crowded : Server BareDriver :=
  rehearsalStart.run (rehearsal ++ [.arrival "c" 0,
    packetEvent 3 .auth (Request.encodeLogin ⟨protocolVersion, []⟩)])

/-- The crowd has come together by a history from the start. -/
theorem crowded_reachable : crowded.Reachable :=
  ⟨_, _, _, _, _, _, rfl, rfl⟩

/-- A path of which only a part can be made. -/
def pathTooDeep : Packet :=
  ⟨PacketKind.getTty.code, Request.encodeTty ⟨[3, 6, 1, 1, 1, 1, 1, 1, 1], ""⟩⟩

/-! ### Refusals -/

/-- What a refused request of a client leaves behind. -/
structure OnlyReported (s : Server σ) (id : ClientId) (p : Packet) : Prop where
  asBefore : AsBefore s (s.step (.frame id (.packet p)))
  effects : (s.step (.frame id (.packet p))).effects =
    s.effects ++ s.added (.frame id (.packet p))
  /-- The report to the client is the one packet that is queued. -/
  report : ∃ q, packetsIn (s.added (.frame id (.packet p))) = [(id, q)] ∧ q.Refuses
  noRestart : restartsIn (s.added (.frame id (.packet p))) = 0
  /-- The driver was not called, or it was asked once to take octets from the client that has the
  device, and refused. -/
  device : callsIn (s.added (.frame id (.packet p))) = [] ∧
      (s.step (.frame id (.packet p))).driver = s.driver ∨
    callsIn (s.added (.frame id (.packet p))) = [.writePacket p.payload] ∧
      p.kind? = some .packet ∧ s.rawHolder = some id ∧
      (s.step (.frame id (.packet p))).driver = (Driver.writePacket s.driver p.payload).driver ∧
      ∃ e, (Driver.writePacket s.driver p.payload).outcome = .error e

/-- A refused request leaves its report behind and nothing else. -/
theorem onlyReported_of_refusal (hs : s.Consistent) (hc : s.client? c.id = some c)
    (hstep : s.step (.frame c.id (.packet p)) = s.answer c p) {r : Refusal}
    (hr : (s.carryOut c p).refusal = some r) : s.OnlyReported c.id p := by
  have hhandled := carryOut_handled hs hc p
  have hanswer := answer_offstage s c p
  generalize ho : s.carryOut c p = o at hhandled hanswer hr
  rw [← hstep] at hanswer
  cases hhandled with
  | refused r hsame hoff hpackets =>
    obtain ⟨hsame', q, hreport, hq⟩ := answer_of_refusal ho
    rw [← hstep] at hsame' hreport
    have hoff := hoff.trans hanswer
    constructor
    · exact hsame.trans hsame'
    · exact effects_step hs _
    · exact ⟨q, packetsIn_added hs (hpackets ▸ hreport), hq⟩
    · exact restartsIn_added hs hoff.restarts
    · exact .inl ⟨callsIn_added hs (hoff.calls.trans (List.append_nil _).symm), hoff.driver⟩
  | failedRaw e hk hheld herror =>
    obtain ⟨hsame, q, hreport, hq⟩ := answer_of_refusal ho
    rw [← hstep] at hsame hreport
    have hoff := (Offstage.note _ _).trans hanswer
    constructor
    · exact ((AsBefore.of_rest rfl).trans (.note _ _)).trans hsame
    · exact effects_step hs _
    · rw [packets_note, packets_called] at hreport
      exact ⟨q, packetsIn_added hs hreport, hq⟩
    · exact restartsIn_added hs (hoff.restarts.trans (restarts_called ..))
    · exact .inr ⟨callsIn_added hs (hoff.calls.trans (calls_called ..)), hk, hheld, hoff.driver, e,
        herror⟩
  | served | tookRaw | returnedRaw | passedRaw => cases hr

/-- A request that is carried out is answered by nothing that would report a refusal. -/
theorem not_refuses_of_done (hs : s.Consistent) (hc : s.client? c.id = some c)
    (hstep : s.step (.frame c.id (.packet p)) = s.answer c p)
    (hr : (s.carryOut c p).refusal = none) {receiver : ClientId} {q : Packet}
    (hq : .packet receiver q ∈ s.added (.frame c.id (.packet p))) : ¬ q.Refuses := by
  have hhandled := carryOut_handled hs hc p
  generalize ho : s.carryOut c p = o at hhandled hr
  rw [← mem_packetsIn_iff] at hq
  have hreplies : ∀ (t : Server σ) (replies : List Packet), o = ⟨t, none⟩ →
      t.packets = s.packets ++ replies.map (fun q => (c.id, q)) → q ∈ replies := by
    rintro t replies rfl hpackets
    rw [packetsIn_added hs (hstep ▸ answer_of_none ho ▸ hpackets)] at hq
    obtain ⟨q', hq', heq⟩ := List.mem_map.1 hq
    obtain rfl : q' = q := congrArg Prod.snd heq
    exact hq'
  cases hhandled with
  | served replies _ _ hpackets hkinds => exact hkinds q (hreplies _ _ rfl hpackets)
  | tookRaw _ _ _ _ hpackets | returnedRaw _ _ _ _ hpackets =>
    have hack := hreplies _ [.ack] rfl hpackets
    rw [List.mem_singleton.1 hack]
    exact Packet.not_refuses_ofKind [] (by decide)
  | passedRaw => cases hreplies _ [] rfl (by simp)
  | refused | failedRaw => cases hr

/-- If a packet that reports a refusal is queued in answer to a packet of a client that has logged
in, it is the only one, it goes to this client, and nothing else has changed. -/
theorem refusal_changes_nothing (h : s.Reachable) (hl : s.isLoggedIn id = true) (p : Packet)
    {receiver : ClientId} {q : Packet}
    (hq : .packet receiver q ∈ s.added (.frame id (.packet p))) (hrefuses : q.Refuses) :
    s.OnlyReported id p := by
  obtain ⟨given, h⟩ := h
  obtain ⟨c, hc, rfl, hstep⟩ := step_frame_of_isLoggedIn hl p
  cases hr : (s.carryOut c p).refusal with
  | some r => exact onlyReported_of_refusal h.consistent hc hstep hr
  | none => exact absurd hrefuses (not_refuses_of_done h.consistent hc hstep hr hq)

/-- A path too deep for the room that is left is refused, after several ttys were made and taken
back, and nothing is changed but the ids to come. -/
theorem refusal_changes_nothing_crowded :
    crowded.Reachable ∧ crowded.isLoggedIn ⟨3⟩ = true ∧
      .packet ⟨3⟩ (.error .noMemory) ∈ crowded.added (.frame ⟨3⟩ (.packet pathTooDeep)) ∧
      (crowded.step (.frame ⟨3⟩ (.packet pathTooDeep))).tree.nextId = crowded.tree.nextId + 6 ∧
      crowded.OnlyReported ⟨3⟩ pathTooDeep :=
  have hlogin : crowded.isLoggedIn ⟨3⟩ = true := by decide
  have hreport : .packet ⟨3⟩ (.error .noMemory) ∈
      crowded.added (.frame ⟨3⟩ (.packet pathTooDeep)) := by decide
  ⟨crowded_reachable, hlogin, hreport, by decide,
    refusal_changes_nothing crowded_reachable hlogin pathTooDeep hreport (.inl (by decide))⟩

end driver

end Server

end BrailleShare
