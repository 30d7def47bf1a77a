import BrailleShare.Proofs.Server.KeyEvents
import BrailleShare.Proofs.Server.MaskRequests
import BrailleShare.Proofs.Server.Screen

/-!
# Masks tell what was asked for

What a client wants of keys is decided by its own requests that were acknowledged, from the one by
which it got its tty onwards. Nothing that others do, that happened before, or that was refused has
a part in it.

Main statements: of each event a client hears of its own requests alone (`heard_step`), so after any
history its mask holds what the acknowledged requests since its tty say, and it takes the events
whose value is among that (`masks_tell_requests`).
-/

namespace BrailleShare.Server

variable {σ : Type} {s t u : Server σ} {id x : ClientId} {c : Client} {p : Packet}
  {packets more : List Packet} {mode : KeyMode} {mask : RangeSet}

/-! ### No new wishes -/

/-- What a client wishes once it has another holding. -/
theorem wishes_of_setHolding (hc : s.client? c.id = some c) (h : Option Holding)
    (hclients : t.clients = (s.setHolding c.id h).clients) :
    t.wishes c.id = h.map fun h => (h.mode, h.mask) := by
  have hheld : t.holding? c.id = (s.setHolding c.id h).holding? c.id := by
    rw [holding?, client?_congr hclients, holding?]
  rw [wishes, hheld, holding?_setHolding hc, if_pos rfl]

/-- A client with a tty wishes what its mode and its mask tell. -/
theorem wishes_of_holding (hc : s.client? c.id = some c) {h : Holding} (hh : c.holding = some h) :
    s.wishes c.id = some (h.mode, h.mask) := by
  simp [wishes, holding?, hc, hh]

/-- Whatever a client wishes in the second state it wished in the first one. -/
def Spares (id : ClientId) (s t : Server σ) : Prop :=
  ∀ w, t.wishes id = some w → s.wishes id = some w

namespace Spares

/-- A client whose wishes are the same wishes nothing new. -/
theorem of_wishes (h : t.wishes id = s.wishes id) : Spares id s t := by
  intro w hw
  rwa [← h]

/-- A client whose record is the same wishes nothing new. -/
theorem of_client? (h : t.client? id = s.client? id) : Spares id s t :=
  of_wishes (by rw [wishes, holding?, h, wishes, holding?])

/-- If the records are the same, nobody wishes anything new. -/
theorem of_clients (h : t.clients = s.clients) : Spares id s t :=
  of_client? (client?_congr h id)

/-- Who is gone wishes nothing. -/
theorem of_gone (h : t.client? id = none) : Spares id s t := by
  intro w hw
  simp [wishes, holding?, h] at hw

/-- Nobody wishes anything new where nothing happens. -/
theorem refl (id : ClientId) (s : Server σ) : Spares id s s :=
  of_clients rfl

/-- A client that gives its tty back wishes nothing. -/
theorem of_setHolding_none (hc : s.client? c.id = some c)
    (hclients : t.clients = (s.setHolding c.id none).clients) : Spares c.id s t := by
  intro w hw
  rw [wishes_of_setHolding hc none hclients] at hw
  cases hw

/-- What is not new in two steps is not new. -/
theorem trans (h : Spares id s t) (h' : Spares id t u) : Spares id s u :=
  fun w hw => h w (h' w hw)

end Spares

/-! ### What a request does -/

/-- What comes of a request for the wishes of its client. -/
inductive Heeded (s : Server σ) (c : Client) (p : Packet) : Outcome σ → Prop
  /-- It is refused. -/
  | refused {t : Server σ} (r : Refusal) : Heeded s c p ⟨t, some r⟩
  /-- It is about something else. -/
  | beside {t : Server σ} (hk : p.kind? ≠ some .getTty) (hnone : MaskRequest.ofPacket? p = none)
      (h : Spares c.id s t) : Heeded s c p ⟨t, none⟩
  /-- The client gets a tty, and the mask of the mode that it asked for. -/
  | granted {t : Server σ} (mode : KeyMode) (hk : p.kind? = some .getTty)
      (hw : t.wishes c.id = some (mode, mode.defaultMask))
      (hack : t.packets = s.packets ++ [(c.id, .ack)]) : Heeded s c p ⟨t, none⟩
  /-- The mask is changed as the client asks. -/
  | revised {t : Server σ} {r : MaskRequest} {mode : KeyMode} {mask : RangeSet}
      (hr : MaskRequest.ofPacket? p = some r) (hspans : ∀ x ∈ r.spans, x.Ordered)
      (hold : s.wishes c.id = some (mode, mask))
      (hw : t.wishes c.id = some (mode, r.revise mask))
      (hack : t.packets = s.packets ++ [(c.id, .ack)]) : Heeded s c p ⟨t, none⟩

namespace Heeded

/-- A refusal is heeded: it leaves the wishes as they were. -/
theorem of_refuse (s t : Server σ) (c : Client) (p : Packet) (code : ErrorCode) :
    Heeded s c p (t.refuse code) :=
  .refused _

/-- A request beside the keys is heeded if it brings no new wishes. -/
theorem of_spares {k : PacketKind} (hk : p.kind? = some k)
    (hbeside : MaskRequest.concernsKeys k = false) (h : Spares c.id s t) :
    Heeded s c p t.done := by
  obtain ⟨htty, hnone⟩ := MaskRequest.ofPacket?_eq_none hk hbeside
  exact .beside htty hnone h

/-- A request about something else that leaves the clients alone. -/
theorem of_clients {k : PacketKind} (hk : p.kind? = some k)
    (hbeside : MaskRequest.concernsKeys k = false) {o : Outcome σ}
    (h : o.server.clients = s.clients) : Heeded s c p o := by
  obtain ⟨t, r⟩ := o
  cases r with
  | some r => exact .refused r
  | none => exact .of_spares hk hbeside (.of_clients h)

end Heeded

/-- What depends on the tty of a client is heeded if it is so for the tty that it holds. -/
theorem withHolding_heeded {f : Holding → Outcome σ}
    (hf : ∀ h, c.holding = some h → Heeded s c p (f h)) : Heeded s c p (s.withHolding c f) := by
  unfold withHolding
  split
  · exact .of_refuse ..
  · split
    · exact .of_refuse ..
    · exact hf _ ‹_›

/-- Whoever is seated wants what its mode wants. -/
theorem seatClient_heeded (hs : s.tree.Sound) (hc : s.client? c.id = some c)
    (hk : p.kind? = some .getTty) {path : List UInt32} {tree : TtyTree ClientId} {tty : TtyId}
    (ho : s.tree.Opens path tree tty) (mode : KeyMode) (made : List (UInt32 × TtyId)) :
    Heeded s c p ((({ s with tree } : Server σ).noteMade made).seatClient c tty path mode) := by
  obtain ⟨-, hlive, -⟩ := TtyTree.Opens.sound hs ho
  have hpackets := packets_noteMade ({ s with tree } : Server σ) made
  rw [noteMade_eq] at hpackets ⊢
  rw [seatClient_of_live (by exact hlive)]
  refine .granted mode hk (wishes_of_setHolding hc _ rfl) ?_
  rw [packets_send, packets_note]
  exact congrArg (· ++ [(c.id, Packet.ack)]) hpackets

/-- A request for a tty is heeded: its client starts with the wishes of its mode. -/
theorem takeTty_heeded (hs : s.tree.Sound) (hc : s.client? c.id = some c)
    (hk : p.kind? = some .getTty) : Heeded s c p (s.takeTty c p.payload) := by
  have hallot := takeTty_allotment s c p.payload
  generalize s.takeTty c p.payload = o at hallot ⊢
  cases hallot with
  | refused code => exact .of_refuse ..
  | crowded made e => exact .refused _
  | seated mode made ho => exact seatClient_heeded hs hc hk ho mode made

/-- A client without a tty wishes nothing. -/
theorem returnTty_heeded (hs : s.tree.Sound) (hc : s.client? c.id = some c)
    (hk : p.kind? = some .leaveTty) : Heeded s c p (s.returnTty c) := by
  apply withHolding_heeded
  intro h hh
  rw [TtyTree.move_of_live hs.live_lobby]
  simp only [forgetShown_eq, clearTty_eq]
  exact .of_spares hk rfl (.of_setHolding_none hc rfl)

/-- Another mask is what the client asks for. -/
theorem putMask_heeded (hc : s.client? c.id = some c) {h : Holding} (hh : c.holding = some h)
    {r : MaskRequest} (hr : MaskRequest.ofPacket? p = some r)
    (hspans : ∀ x ∈ r.spans, x.Ordered) : Heeded s c p (s.putMask c h (r.revise h.mask)) :=
  .revised hr hspans (wishes_of_holding hc hh) (wishes_of_setHolding hc _ rfl) (packets_send ..)

/-- A change of a range of keys is heeded. -/
theorem changeRange_heeded (hc : s.client? c.id = some c) {edit : MaskEdit}
    (hr : MaskRequest.ofPacket? p = MaskRequest.ofRange? edit p.payload) :
    Heeded s c p (s.changeRange c p.payload edit) := by
  apply withHolding_heeded
  intro h hh
  split
  · exact .of_refuse ..
  · rename_i lo hi hd
    split
    · exact .of_refuse ..
    · rename_i mask hmask
      obtain ⟨hspan, rfl⟩ := MaskRequest.of_onRange hmask
      rw [MaskRequest.ofRange?, hd] at hr
      exact putMask_heeded hc hh hr (by simpa using hspan)

/-- A change of a set of keys is heeded. -/
theorem changeSet_heeded (hc : s.client? c.id = some c) {edit : MaskEdit}
    (hr : MaskRequest.ofPacket? p = MaskRequest.ofKeys? edit p.payload) :
    Heeded s c p (s.changeSet c p.payload edit) := by
  apply withHolding_heeded
  intro h hh
  split
  · exact .of_refuse ..
  · rename_i keys hd
    rw [MaskRequest.ofKeys?, hd] at hr
    rw [MaskRequest.foldl_onValue]
    refine putMask_heeded hc hh hr fun x hx => ?_
    obtain ⟨key, -, rfl⟩ := List.mem_map.1 hx
    exact UInt32.le_refl key

/-- A window makes no difference to the keys. -/
theorem write_heeded (hc : s.client? c.id = some c) (hk : p.kind? = some .write) :
    Heeded s c p (s.write c p.payload) := by
  have hkeep : ∀ {h d : Holding}, c.holding = some h → d.mode = h.mode → d.mask = h.mask →
      Heeded s c p (s.setHolding c.id (some d)).done := by
    intro h d hh hmode hmask
    refine .of_spares hk rfl (.of_wishes ?_)
    rw [wishes_of_setHolding hc (some d) rfl, wishes_of_holding hc hh, Option.map_some, hmode,
      hmask]
  unfold write
  split
  · exact .of_refuse ..
  · apply withHolding_heeded
    intro h hh
    split
    · exact .of_refuse ..
    · exact hkeep hh rfl rfl
    · exact hkeep hh rfl rfl

/-! ### Requests that leave the clients alone -/

/-- A request for facts leaves the records as they are. -/
theorem tell_clients (s : Server σ) (c : Client) (payload : Octets) (answer : Packet) :
    (s.tell c payload answer).server.clients = s.clients := by
  unfold tell
  split
  · rfl
  · split <;> rfl

/-- A change of focus leaves the records as they are. -/
theorem focusChild_clients (s : Server σ) (c : Client) (payload : Octets) :
    (s.focusChild c payload).server.clients = s.clients := by
  unfold focusChild withHolding
  split
  · rfl
  · split
    · rfl
    · dsimp only
      split
      · rfl
      · split <;> rfl

/-- A request for the device leaves the records as they are. -/
theorem takeRaw_clients (s : Server σ) (c : Client) (payload : Octets) :
    (s.takeRaw c payload).server.clients = s.clients := by
  unfold takeRaw
  split
  · rfl
  · split
    · rfl
    · split
      · rfl
      · split <;> rfl

/-- Giving the device back leaves the records as they are. -/
theorem returnRaw_clients (s : Server σ) (c : Client) :
    (s.returnRaw c).server.clients = s.clients := by
  unfold returnRaw
  split <;> rfl

/-- Octets for the device leave the records as they are. -/
theorem passRaw_clients [Driver σ] (s : Server σ) (c : Client) (payload : Octets) :
    (s.passRaw c payload).server.clients = s.clients := by
  unfold passRaw
  split
  · dsimp only
    split <;> rfl
  · rfl

section driver

variable [Driver σ]

/-- A connection that ends gives nobody new wishes. -/
theorem disconnect_spares (s : Server σ) (a : ClientId) : Spares id s (s.disconnect a) := by
  have hends := client?_disconnect s a id
  split at hends
  · exact .of_gone hends
  · exact .of_client? hends

/-- Connections that waited too long give nobody new wishes. -/
theorem expire_spares (s : Server σ) (now : Nat) : Spares id s (s.expire now).2 := by
  refine List.foldlRecOn (motive := Spares id s) _ _ (.refl id s) fun t ht c _ => ?_
  have hnote : Spares id t (t.note (.overdue c.id)) := .of_clients rfl
  exact (ht.trans hnote).trans (disconnect_spares _ c.id)

/-- A cycle gives nobody new wishes. -/
theorem cycle_spares (s : Server σ) : Spares id s s.cycle.2 := by
  have hsync : Spares id s s.syncConsole := .of_clients (syncConsole_clients s)
  cases hr : s.rawHolder with
  | none =>
    have hshow : Spares id s.syncConsole s.syncConsole.updateDisplay.2 :=
      .of_wishes ((updateDisplay_unasked _).wishes id)
    exact (hsync.trans hshow).trans (.of_clients (cycle_keeps hr).1)
  | some owner =>
    have hraw := (syncConsole_offstage s).rawHolder
    simp only [cycle, hraw, hr]
    refine hsync.trans (.of_clients ?_)
    unfold forwardRaw
    split
    · rfl
    · dsimp only
      split <;> rfl

/-- No event but a packet of its own gives a client another wish. -/
theorem step_spares (hs : s.Consistent) {e : Event σ} (he : ∀ p, e ≠ .frame id (.packet p)) :
    Spares id s (s.step e) := by
  cases e with
  | arrival peer now =>
    simp only [step, accept]
    split
    · exact .of_clients rfl
    · split
      · split <;> exact .of_clients rfl
      · refine .of_wishes ?_
        rw [wishes, note, emit, holding?_of_append rfl hs.client?_next rfl, wishes]
  | frame a f =>
    by_cases ha : id = a
    · subst ha
      cases f with
      | packet p => exact absurd rfl (he p)
      | oversized type size =>
        simp only [step, onFrame, onOversized]
        split
        · exact .of_clients rfl
        · split <;> exact .of_clients rfl
    -- what other clients send leaves this one alone
    · exact .of_client? ((step_confined hs.tree (.frame f)).client?_eq ha)
  | departure a => exact disconnect_spares s a
  | clock now =>
    simp only [step, maintain]
    split
    · exact (expire_spares s now).trans (.of_clients rfl)
    · exact expire_spares s now
  | expiry now => exact expire_spares s now
  | closing => exact .of_gone (client?_shutdown s id)
  | ownerAsked | recipientAsked => exact .of_clients (syncConsole_clients s)
  | cycle => exact cycle_spares s
  | hostWindow cells =>
    simp only [step, hostWindow]
    split
    · exact .of_clients rfl
    · split
      · exact .of_clients (syncConsole_clients s)
      · exact .of_clients (syncConsole_clients s)
  | hostStatus cells =>
    simp only [step, hostStatus]
    split <;> exact .of_clients rfl
  | replacement driver =>
    simp only [step, changeDriver]
    split <;> exact .of_clients rfl
  | console | hostReset | device => exact .of_clients rfl

/-! ### What a client hears of an event -/

/-- A request is heeded in one of these ways. -/
theorem carryOut_heeded (hs : s.Consistent) (hc : s.client? c.id = some c) (p : Packet) :
    Heeded s c p (s.carryOut c p) := by
  unfold carryOut
  split
  · exact .of_clients ‹_› rfl (tell_clients ..)
  · exact .of_clients ‹_› rfl (tell_clients ..)
  · exact .of_clients ‹_› rfl (tell_clients ..)
  · exact takeTty_heeded hs.tree hc ‹_›
  · exact .of_clients ‹_› rfl (focusChild_clients ..)
  · exact returnTty_heeded hs.tree hc ‹_›
  · rename_i hk
    exact changeRange_heeded hc (by simp [MaskRequest.ofPacket?, hk])
  · rename_i hk
    exact changeRange_heeded hc (by simp [MaskRequest.ofPacket?, hk])
  · rename_i hk
    exact changeSet_heeded hc (by simp [MaskRequest.ofPacket?, hk])
  · rename_i hk
    exact changeSet_heeded hc (by simp [MaskRequest.ofPacket?, hk])
  · exact write_heeded hc ‹_›
  · exact .of_clients ‹_› rfl (takeRaw_clients ..)
  · exact .of_clients ‹_› rfl (returnRaw_clients ..)
  · exact .of_clients ‹_› rfl (passRaw_clients ..)
  · exact .of_refuse ..

/-- The packet of a client that an event is, if the client is told that it was carried out. -/
def acknowledgedTo (id : ClientId) (s : Server σ) : Event σ → List Packet
  | .frame a (.packet p) =>
    if a = id ∧ .packet id .ack ∈ s.added (.frame a (.packet p)) then [p] else []
  | _ => []

/-- A request has been acknowledged if the acknowledgement is among the new packets. -/
theorem acknowledgedTo_of_mem (hs : s.Consistent) {more : List (ClientId × Packet)}
    (h : (s.step (.frame id (.packet p))).packets = s.packets ++ more)
    (hack : (id, .ack) ∈ more) : acknowledgedTo id s (.frame id (.packet p)) = [p] := by
  rw [← packetsIn_added hs h, mem_packetsIn_iff] at hack
  simp [acknowledgedTo, hack]

/-- A request has not been acknowledged if no acknowledgement is among the new packets. -/
theorem acknowledgedTo_of_not_mem (hs : s.Consistent) {more : List (ClientId × Packet)}
    (h : (s.step (.frame id (.packet p))).packets = s.packets ++ more)
    (hno : (id, .ack) ∉ more) : acknowledgedTo id s (.frame id (.packet p)) = [] := by
  rw [← packetsIn_added hs h, mem_packetsIn_iff] at hno
  simp [acknowledgedTo, hno]

/-- What an event means for the wishes of a client, by the packets that it acknowledges. -/
inductive Heard (id : ClientId) (s t : Server σ) : List Packet → Prop
  /-- Nothing is acknowledged, and nothing is new. -/
  | nothing (h : Spares id s t) : Heard id s t []
  /-- What is acknowledged has nothing to do with keys. -/
  | beside {p : Packet} (hk : p.kind? ≠ some .getTty) (hnone : MaskRequest.ofPacket? p = none)
      (h : Spares id s t) : Heard id s t [p]
  /-- A tty is given. -/
  | granted {p : Packet} {mode : KeyMode} (hk : p.kind? = some .getTty)
      (hw : t.wishes id = some (mode, mode.defaultMask)) : Heard id s t [p]
  /-- A mask is changed. -/
  | revised {p : Packet} {r : MaskRequest} {mode : KeyMode} {mask : RangeSet}
      (hr : MaskRequest.ofPacket? p = some r) (hspans : ∀ x ∈ r.spans, x.Ordered)
      (hold : s.wishes id = some (mode, mask))
      (hw : t.wishes id = some (mode, r.revise mask)) : Heard id s t [p]

/-- A packet that has nothing to do with keys, whether it is acknowledged or not. -/
theorem heard_of_spares (htty : p.kind? ≠ some .getTty)
    (hnone : MaskRequest.ofPacket? p = none)
    (h : Spares id s (s.step (.frame id (.packet p)))) :
    Heard id s (s.step (.frame id (.packet p))) (acknowledgedTo id s (.frame id (.packet p))) := by
  by_cases hack : .packet id .ack ∈ s.added (.frame id (.packet p))
  · simp only [acknowledgedTo, hack, and_self, if_true]
    exact .beside htty hnone h
  · simp only [acknowledgedTo, hack, and_false, if_false]
    exact .nothing h

/-- A login gives no client another wish, and no other packet counts before it. -/
theorem heard_of_login (hs : s.Consistent) (hc : s.client? c.id = some c)
    (hl : c.loggedIn = false) (p : Packet) :
    Heard c.id s (s.step (.frame c.id (.packet p)))
      (acknowledgedTo c.id s (.frame c.id (.packet p))) := by
  have hstep : s.step (.frame c.id (.packet p)) = (s.logIn c.id p).2 := by
    simp [step, onFrame, onPacket, hc, hl]
  rcases logIn_cases s c.id p with ⟨code, n, hturned⟩ | ⟨hk, hin⟩
  · rw [hturned, turnAway] at hstep
    have hpackets : (s.step (.frame c.id (.packet p))).packets =
        s.packets ++ [(c.id, .error code)] := by
      rw [hstep, packets_send, packets_note]
    rw [acknowledgedTo_of_not_mem hs hpackets (by simp [(error_ne_ack _).symm]), hstep]
    exact .nothing (.of_clients rfl)
  · obtain ⟨htty, hnone⟩ := MaskRequest.ofPacket?_eq_none hk rfl
    refine heard_of_spares htty hnone (.of_wishes ?_)
    rw [hstep, hin]
    exact congrArg (Option.map fun h => (h.mode, h.mask)) (holding?_logIn hc c.id)

/-- A request of a client that has logged in is heard as it is heeded. -/
theorem heard_of_request (hs : s.Consistent) (hc : s.client? c.id = some c)
    (hstep : s.step (.frame c.id (.packet p)) = s.answer c p) :
    Heard c.id s (s.step (.frame c.id (.packet p)))
      (acknowledgedTo c.id s (.frame c.id (.packet p))) := by
  have hheeded := carryOut_heeded hs hc p
  have hack : ∀ {t : Server σ}, s.carryOut c p = ⟨t, none⟩ →
      t.packets = s.packets ++ [(c.id, .ack)] →
      acknowledgedTo c.id s (.frame c.id (.packet p)) = [p] := by
    intro t ho hpackets
    rw [← answer_of_none ho, ← hstep] at hpackets
    exact acknowledgedTo_of_mem hs hpackets List.mem_cons_self
  generalize ho : s.carryOut c p = o at hheeded
  cases hheeded with
  | refused r =>
    have hreported := onlyReported_of_refusal hs hc hstep (by rw [ho])
    obtain ⟨q, hq, hrefuses⟩ := hreported.report
    -- the report is no acknowledgement, so the request does not count
    have hne : q ≠ .ack := by
      rintro rfl
      exact Packet.not_refuses_ofKind [] (by decide) hrefuses
    have hpackets := packets_step hs (.frame c.id (.packet p))
    rw [hq] at hpackets
    rw [acknowledgedTo_of_not_mem hs hpackets (by simp [hne.symm])]
    exact .nothing (.of_clients (by rw [hreported.asBefore.rest]))
  | beside htty hnone h =>
    refine heard_of_spares htty hnone ?_
    rw [hstep, answer_of_none ho]
    exact h
  | granted mode hk hw hpackets =>
    rw [hack ho hpackets, hstep, answer_of_none ho]
    exact .granted hk hw
  | revised hr hspans hold hw hpackets =>
    rw [hack ho hpackets, hstep, answer_of_none ho]
    exact .revised hr hspans hold hw

/-- Of each event a client hears of its own requests that are acknowledged, and of nothing else. -/
theorem heard_step (hs : s.Consistent) (id : ClientId) (e : Event σ) :
    Heard id s (s.step e) (acknowledgedTo id s e) := by
  by_cases he : ∃ p, e = .frame id (.packet p)
  · obtain ⟨p, rfl⟩ := he
    cases hc : s.client? id with
    | none =>
      have hstep : s.step (.frame id (.packet p)) = s := by simp [step, onFrame, onPacket, hc]
      have hpackets : (s.step (.frame id (.packet p))).packets = s.packets ++ [] := by simp [hstep]
      rw [acknowledgedTo_of_not_mem hs hpackets List.not_mem_nil, hstep]
      exact .nothing (.refl id s)
    | some c =>
      obtain rfl := id_of_client? hc
      cases hl : c.loggedIn with
      | false => exact heard_of_login hs hc hl p
      | true =>
        refine heard_of_request hs hc ?_
        simp [step, onFrame, onPacket, hc, hl]
  · have hnone : acknowledgedTo id s e = [] := by
      unfold acknowledgedTo
      split
      · rename_i a p
        refine if_neg fun h => he ⟨p, ?_⟩
        rw [h.1]
      · rfl
    rw [hnone]
    exact .nothing (step_spares hs fun p hp => he ⟨p, hp⟩)

omit [Driver σ] in
/-- What a client hears keeps its mask telling what it asked for. -/
theorem Heard.tells (h : Heard id s t more) (hs : ∀ w, s.wishes id = some w → Tells packets w) :
    ∀ w, t.wishes id = some w → Tells (packets ++ more) w := by
  intro w hw
  cases h with
  | nothing h =>
    rw [List.append_nil]
    exact hs w (h w hw)
  | beside hk hnone h => exact (hs w (h w hw)).of_kind hk hnone
  | granted hk hgranted =>
    obtain rfl := Option.some.inj (hgranted.symm.trans hw)
    exact Tells.granted packets _ hk
  | revised hr hspans hold hrevised =>
    obtain rfl := Option.some.inj (hrevised.symm.trans hw)
    exact (hs _ hold).revised hr hspans

/-- After any history a mask tells what was asked for before it and in it. -/
theorem tells_run (hs : s.Consistent) (h : ∀ w, s.wishes id = some w → Tells packets w)
    (events : List (Event σ)) : ∀ w, (s.run events).wishes id = some w →
      Tells (packets ++ s.along (acknowledgedTo id) events) w := by
  induction events generalizing s packets with
  | nil => simpa [along] using h
  | cons e events ih =>
    have hheard := (heard_step hs id e).tells h
    have hrest := ih (hs.step e) hheard
    rwa [List.append_assoc] at hrest

/-- After any history, the mask of every client that holds a tty holds the values that are wanted by
its requests that were acknowledged since it got this tty. The client takes an event if the low 16
bits of the command, or the keycode if there is one, is among them, whichever its mode looks at. -/
theorem masks_tell_requests (settings : Settings) (driver : σ) (console : UInt32)
    (table : DotTable) (events : List (Event σ)) :
    let first := (start settings driver console).withTable table
    ∀ c ∈ (first.run events).clients, ∀ h, c.holding = some h →
      let requests := maskRequests (first.along (acknowledgedTo c.id) events)
      (∀ v, h.mask.contains v = true ↔ MaskRequest.Wanted h.mode requests v) ∧
        ∀ command keycode, c.accepts command keycode = true ↔
          match h.mode with
          | .commands => MaskRequest.Wanted h.mode requests (low16 command)
          | .keycodes => ∃ key, keycode = some key ∧ MaskRequest.Wanted h.mode requests key := by
  intro first c hc h hh requests
  have hs : first.Consistent := start_consistent settings driver console table
  have hreach : (first.run events).Reachable := ⟨_, _, _, _, _, events, rfl, rfl⟩
  obtain ⟨given, hreach⟩ := hreach
  have hwish := wishes_of_holding (hreach.consistent.client?_of_mem hc) hh
  have hnone : ∀ w, first.wishes c.id = some w → Tells [] w := fun w hw => nomatch hw
  have htells : Tells (first.along (acknowledgedTo c.id) events) (h.mode, h.mask) :=
    tells_run hs hnone events _ hwish
  refine ⟨htells.contains_iff, fun command keycode => ?_⟩
  have haccepts : c.accepts command keycode = h.mode.accepts h.mask command keycode := by
    simp only [Client.accepts, hh]
  rw [haccepts]
  exact accepts_iff htells command keycode

/-- Two stays in one tty: what is asked for during the first is forgotten, and of the second stay
a reversed range is refused, while the other requests overlap. -/
def maskHistory : List (Event BareDriver) :=
  [.arrival "a" 0, packetEvent 1 .auth (Request.encodeLogin ⟨protocolVersion, []⟩),
    packetEvent 1 .getTty (Request.encodeTty ⟨[3], ""⟩),
    packetEvent 1 .unignoreKeyRange (Request.encodeKeyRange 63 64),
    packetEvent 1 .leaveTty [],
    packetEvent 1 .getTty (Request.encodeTty ⟨[3], ""⟩),
    packetEvent 1 .ignoreKeyRange (Request.encodeKeyRange 9 5),
    packetEvent 1 .ignoreKeyRange (Request.encodeKeyRange 0 100),
    packetEvent 1 .unignoreKeySet (Request.encodeKeySet [65, 67])]

/-- A client changes its mask several times, and the mask tells its requests. -/
theorem masks_tell_requests_maskHistory :
    ∃ c ∈ (rehearsalStart.run maskHistory).clients, ∃ h, c.holding = some h ∧
      let requests := maskRequests (rehearsalStart.along (acknowledgedTo c.id) maskHistory)
      requests = [⟨.ignore, [⟨0, 100⟩]⟩, ⟨.unignore, [⟨65, 65⟩, ⟨67, 67⟩]⟩] ∧
      (∀ v, h.mask.contains v = true ↔ MaskRequest.Wanted h.mode requests v) ∧
      ∀ command keycode, c.accepts command keycode = true ↔
        match h.mode with
        | .commands => MaskRequest.Wanted h.mode requests (low16 command)
        | .keycodes => ∃ key, keycode = some key ∧ MaskRequest.Wanted h.mode requests key := by
  have hfound : ∃ c ∈ (rehearsalStart.run maskHistory).clients, c.holding.isSome = true ∧
      maskRequests (rehearsalStart.along (acknowledgedTo c.id) maskHistory) =
        [⟨.ignore, [⟨0, 100⟩]⟩, ⟨.unignore, [⟨65, 65⟩, ⟨67, 67⟩]⟩] := by
    decide +kernel
  obtain ⟨c, hc, hholds, hrequests⟩ := hfound
  obtain ⟨h, hh⟩ := Option.isSome_iff_exists.1 hholds
  exact ⟨c, hc, h, hh, hrequests, masks_tell_requests _ _ _ _ maskHistory c hc h hh⟩

end driver

end BrailleShare.Server
