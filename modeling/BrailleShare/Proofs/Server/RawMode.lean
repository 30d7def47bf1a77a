import BrailleShare.Proofs.Server.Device

/-!
# Raw mode

A client that has asked for raw mode has the device to itself: what it sends goes to the device,
what the device sends goes to it, and nobody else's output reaches the device until the client gives
the device back or its connection ends. In the latter case the device is reset.

Main statements: there are eight ways in which an event can deal with the device
(`step_conducted`); from them it follows what becomes of the driver (`driver_step`, `driver_run`),
how often the device is reset over a whole history (`count_reset_run`), who gets the device and how
it is lost, and what the driver is called for meanwhile (`raw_mode_rules`).
-/

namespace BrailleShare

/-- In this event the device is called whoever has it. -/
def Event.callsDevice {σ : Type} : Event σ → Bool
  | .cycle | .hostReset => true
  | _ => false

/-- This event leaves it to the calls what becomes of the driver: no other driver takes its place,
and its device does nothing by itself. -/
def Event.keepsDriver {σ : Type} : Event σ → Bool
  | .replacement _ | .device _ => false
  | _ => true

namespace Server

variable {σ : Type} [Driver σ] {s t : Server σ} {e : Event σ} {c : Client} {p : Packet}
  {id : ClientId}

/-! ### Ways to deal with the device -/

/-- An event ends the connection of a client. -/
def ends (s : Server σ) (e : Event σ) (id : ClientId) : Bool :=
  (s.client? id).isSome && ((s.step e).client? id).isNone

/-- An event ends the connection of the client that has the device. -/
def abandons (s : Server σ) (e : Event σ) : Bool :=
  s.rawHolder.any (s.ends e)

/-- An event is a request of a client that is of this kind and that is acknowledged. -/
def Acknowledges (s : Server σ) (e : Event σ) (id : ClientId) (k : PacketKind) : Prop :=
  ∃ p, e = .frame id (.packet p) ∧ p.kind? = some k ∧ .packet id .ack ∈ s.added e

/-- The driver at which the calls of an event begin: the one that takes its place in this event, if
it is for a display of the same size. -/
def driverAt (s : Server σ) : Event σ → σ
  | .replacement driver => if (Driver.info driver).size ≠ s.info.size then s.driver else driver
  | .device driver => driver
  | _ => s.driver

/-- The calls begin at the driver that there is, if no other takes its place. -/
theorem driverAt_of_keepsDriver (he : e.keepsDriver = true) : s.driverAt e = s.driver := by
  cases e with
  | replacement | device => cases he
  | _ => rfl

/-- How an event deals with the device: which calls it makes, how many restarts it asks for, and who
has the device afterwards. -/
inductive Conduct (s : Server σ) :
    Event σ → List DeviceCall → Nat → Option ClientId → Prop
  /-- Not at all. -/
  | apart {e : Event σ} (he : e.callsDevice = false) : Conduct s e [] 0 s.rawHolder
  /-- Nobody has the device, and it is called for the display or the keys. -/
  | shared {e : Event σ} {calls : List DeviceCall} (hfree : s.rawHolder = none)
      (hcalls : ∀ call ∈ calls, call.isOrdinary = true) : Conduct s e calls 0 none
  /-- A client gets the device, which nobody has. -/
  | taken {id : ClientId} {p : Packet} (hl : s.isLoggedIn id = true)
      (hable : s.info.raw = true) (hfree : s.rawHolder = none)
      (hack : s.Acknowledges (.frame id (.packet p)) id .getRaw) :
      Conduct s (.frame id (.packet p)) [] 0 (some id)
  /-- The client that has the device gives it back. -/
  | returned {id : ClientId} {p : Packet} (hheld : s.rawHolder = some id)
      (hack : s.Acknowledges (.frame id (.packet p)) id .leaveRaw)
      (hstays : s.ends (.frame id (.packet p)) id = false) :
      Conduct s (.frame id (.packet p)) [] 0 none
  /-- Octets of the client that has the device are handed on to it. -/
  | passed {id : ClientId} {p : Packet} (hk : p.kind? = some .packet)
      (hheld : s.rawHolder = some id) :
      Conduct s (.frame id (.packet p)) [.writePacket p.payload] 0 s.rawHolder
  /-- The device is read for the client that has it. -/
  | forwarded {id : ClientId} (hheld : s.rawHolder = some id)
      (hpackets : (s.step .cycle).packets = s.packets ++ s.forwarded id) :
      Conduct s .cycle [.readPacket] 0 s.rawHolder
  /-- The host resets the device. -/
  | reset : Conduct s .hostReset [.reset] 0 s.rawHolder
  /-- The connection of the client that has the device ends. -/
  | abandoned {e : Event σ} {id : ClientId} (he : e = .departure id ∨ e = .closing)
      (hheld : s.rawHolder = some id) (hends : s.ends e id = true) :
      Conduct s e [.reset] s.restartsOfReset none

/-- How an event deals with the device, and that it is so. -/
def Conducted (s : Server σ) (e : Event σ) : Prop :=
  ∃ calls restarts holder, s.Conduct e calls restarts holder ∧
    Dealing { s with driver := s.driverAt e } (s.step e) calls restarts holder

namespace Conducted

variable {calls : List DeviceCall} {n : Nat} {a : Option ClientId}

/-- A dealing with the driver that there is tells how an event goes. -/
theorem of_dealing (hkeeps : e.keepsDriver = true) (hconduct : s.Conduct e calls n a)
    (h : Dealing s (s.step e) calls n a) : s.Conducted e := by
  refine ⟨_, _, _, hconduct, ?_⟩
  rw [driverAt_of_keepsDriver hkeeps]
  exact h

/-- An event without the device calls nothing. -/
theorem of_offstage (hkeeps : e.keepsDriver = true) (he : e.callsDevice = false)
    (h : Offstage s (s.step e)) : s.Conducted e :=
  .of_dealing hkeeps (.apart he) (.of_offstage h)

/-- An event while nobody has the device may call it for the display and the keys. -/
theorem of_ordinary (hkeeps : e.keepsDriver = true) (hfree : s.rawHolder = none)
    (h : Ordinary s (s.step e)) : s.Conducted e := by
  obtain ⟨calls, hdealing, hcalls⟩ := h
  exact .of_dealing hkeeps (.shared hfree hcalls) (hfree ▸ hdealing)

end Conducted

/-! ### Requests -/

/-- A client that has logged in deals with the device by its requests for raw mode alone. -/
theorem request_conducted (hs : s.Consistent) (hl : s.isLoggedIn id = true) (p : Packet) :
    s.Conducted (.frame id (.packet p)) := by
  obtain ⟨c, hc, rfl, hstep⟩ := step_frame_of_isLoggedIn hl p
  have hhandled := carryOut_handled hs hc p
  have hanswer := answer_offstage s c p
  generalize ho : s.carryOut c p = o at hhandled hanswer
  rw [← hstep] at hanswer
  have hacknowledged : ∀ {k}, p.kind? = some k →
      (s.step (.frame c.id (.packet p))).packets = s.packets ++ [(c.id, .ack)] →
      s.Acknowledges (.frame c.id (.packet p)) c.id k := by
    intro k hk hpackets
    refine ⟨p, rfl, hk, mem_packetsIn_iff.1 ?_⟩
    rw [packetsIn_added hs hpackets]
    exact List.mem_singleton_self _
  cases hhandled with
  | refused r _ hoff _ => exact .of_offstage rfl rfl (hoff.trans hanswer)
  | served _ _ hoff _ _ => exact .of_offstage rfl rfl (hoff.trans hanswer)
  | tookRaw hk hfree hable hoff hpackets =>
    rw [← answer_of_none ho, ← hstep] at hpackets
    have hdealing := Dealing.of_offstage (hoff.trans hanswer)
    exact ⟨_, _, _, .taken hl hable hfree (hacknowledged hk hpackets),
      hdealing.driver, hdealing.calls, hdealing.restarts, hdealing.rawHolder⟩
  | returnedRaw hk hheld hclients hoff hpackets =>
    rw [← answer_of_none ho, ← hstep] at hclients hpackets
    have hdealing := Dealing.of_offstage (hoff.trans hanswer)
    -- the packet does not end the connection, so the device is given back but once
    have hstays : s.ends (.frame c.id (.packet p)) c.id = false := by
      simp [ends, client?_congr hclients, hc]
    exact ⟨_, _, _, .returned hheld (hacknowledged hk hpackets) hstays,
      hdealing.driver, hdealing.calls, hdealing.restarts, hdealing.rawHolder⟩
  | passedRaw hk hheld _ =>
    exact .of_dealing rfl (.passed hk hheld) ((Dealing.called s rfl).before hanswer)
  | failedRaw e hk hheld _ =>
    have hnoted := (Offstage.note _ (.rawWriteFailed c.id e)).trans hanswer
    exact .of_dealing rfl (.passed hk hheld) ((Dealing.called s rfl).before hnoted)

/-- A frame deals with the device as a request does, or not at all. -/
theorem frame_conducted (hs : s.Consistent) (id : ClientId) (f : Frame) :
    s.Conducted (.frame id f) := by
  cases f with
  | packet p =>
    cases hl : s.isLoggedIn id with
    | true => exact request_conducted hs hl p
    | false =>
      refine .of_offstage rfl rfl ?_
      unfold isLoggedIn at hl
      simp only [step, onFrame, onPacket]
      split at hl
      · rename_i c hc
        simp only [hc, hl]
        exact logIn_offstage s id p
      · rename_i hc
        simp only [hc]
        exact .refl s
  | oversized type size =>
    refine .of_offstage rfl rfl ?_
    simp only [step, onFrame, onOversized]
    split
    · exact .refl s
    · split
      · exact .note s _
      · exact turnAway_offstage ..

/-! ### Any event -/

/-- The connection that ends may be the one that has the device. -/
theorem departure_conducted (hs : s.Consistent) (id : ClientId) :
    s.Conducted (.departure id) := by
  by_cases hraw : s.rawHolder = some id
  · obtain ⟨c, hc, rfl⟩ := client?_of_rawHolder hs hraw
    have hends : s.ends (.departure c.id) c.id = true := by
      simp [ends, hc, step, client?_disconnect]
    exact .of_dealing rfl (.abandoned (.inl rfl) hraw hends) (disconnect_dealing hc hraw)
  · exact .of_offstage rfl rfl (disconnect_offstage hraw)

/-- Among the connections that end when the server closes may be the one that has the device. -/
theorem closing_conducted (hs : s.Consistent) : s.Conducted .closing := by
  cases hraw : s.rawHolder with
  | none => exact .of_offstage rfl rfl (shutdown_offstage hraw)
  | some id =>
    obtain ⟨c, hc, rfl⟩ := client?_of_rawHolder hs hraw
    have hends : s.ends .closing c.id = true := by
      simp [ends, hc, step, client?_shutdown]
    exact .of_dealing rfl (.abandoned (.inr rfl) hraw hends) (shutdown_dealing hc hraw)

/-- A cycle deals with the device for the one that has it, or for the display and the keys. -/
theorem cycle_conducted (hs : s.Consistent) : s.Conducted .cycle := by
  cases hraw : s.rawHolder with
  | none => exact .of_ordinary rfl hraw (cycle_ordinary hraw)
  | some id =>
    obtain ⟨c, hc, rfl⟩ := client?_of_rawHolder hs hraw
    obtain ⟨hdealing, hpackets⟩ := cycle_forwards hc hraw
    exact .of_dealing rfl (.forwarded hraw hpackets) (hraw ▸ hdealing)

/-- The host's output reaches the device only while nobody has it. -/
theorem hostWindow_conducted (s : Server σ) (cells : Octets) :
    s.Conducted (.hostWindow cells) := by
  cases hraw : s.rawHolder with
  | some owner =>
    refine .of_offstage rfl rfl ?_
    simp only [step, hostWindow, hraw]
    exact .refl s
  | none =>
    refine .of_ordinary rfl hraw ?_
    simp only [step, hostWindow, hraw]
    have hsync := Ordinary.of_offstage (syncConsole_offstage s)
    split
    · contradiction
    · split
      · exact hsync
      · refine hsync.trans (.trans (.of_offstage ?_) (.called _ rfl rfl))
        exact .of_eq rfl rfl rfl

/-- The host's status cells reach the device only while nobody has it. -/
theorem hostStatus_conducted (s : Server σ) (cells : Octets) :
    s.Conducted (.hostStatus cells) := by
  cases hraw : s.rawHolder with
  | some owner =>
    refine .of_offstage rfl rfl ?_
    simp only [step, hostStatus, hraw]
    exact .refl s
  | none =>
    refine .of_ordinary rfl hraw ?_
    simp only [step, hostStatus, hraw]
    exact .called s rfl rfl

/-- A driver is not called for being replaced. -/
theorem replacement_conducted (s : Server σ) (driver : σ) :
    s.Conducted (.replacement driver) := by
  refine ⟨_, _, _, .apart rfl, .of_offstage ?_⟩
  simp only [step, changeDriver, driverAt]
  split
  · exact .refl s
  · exact .note _ _

/-- Every event deals with the device in one of the eight ways. -/
theorem step_conducted (hs : s.Consistent) (e : Event σ) : s.Conducted e := by
  cases e with
  | arrival peer now => exact .of_offstage rfl rfl (accept_offstage s peer now)
  | frame id f => exact frame_conducted hs id f
  | departure id => exact departure_conducted hs id
  | clock now => exact .of_offstage rfl rfl (maintain_offstage hs now)
  | expiry now => exact .of_offstage rfl rfl (expire_offstage hs now)
  | closing => exact closing_conducted hs
  | console number => exact .of_offstage rfl rfl (.of_eq rfl rfl rfl)
  | ownerAsked => exact .of_offstage rfl rfl (syncConsole_offstage s)
  | recipientAsked command keycode => exact .of_offstage rfl rfl (syncConsole_offstage s)
  | cycle => exact cycle_conducted hs
  | hostWindow cells => exact hostWindow_conducted s cells
  | hostStatus cells => exact hostStatus_conducted s cells
  | hostReset => exact .of_dealing rfl .reset (.called s rfl)
  | replacement driver => exact replacement_conducted s driver
  | device driver => exact ⟨_, _, _, .apart rfl, .of_offstage (.refl _)⟩

/-! ### What becomes of the driver -/

/-- The calls of an event tell what it makes of the driver. -/
theorem driver_step (hs : s.Consistent) (e : Event σ) :
    (s.step e).driver = DeviceCall.replay (s.driverAt e) (callsIn (s.added e)) := by
  obtain ⟨calls, n, a, -, hdealing⟩ := step_conducted hs e
  rw [callsIn_added hs hdealing.calls]
  exact hdealing.driver

/-- Over a history in which the driver is left to itself, the calls tell what becomes of it. -/
theorem driver_run {events : List (Event σ)} (h : s.Reachable)
    (hkeeps : ∀ e ∈ events, e.keepsDriver = true) :
    ∃ calls, (s.run events).calls = s.calls ++ calls ∧
      (s.run events).driver = DeviceCall.replay s.driver calls := by
  induction events generalizing s with
  | nil => exact ⟨[], (List.append_nil _).symm, rfl⟩
  | cons e events ih =>
    obtain ⟨given, h⟩ := h
    obtain ⟨calls, hcalls, hdriver⟩ :=
      ih ⟨_, h.step e⟩ fun e' he' => hkeeps e' (List.mem_cons_of_mem _ he')
    refine ⟨callsIn (s.added e) ++ calls, ?_, ?_⟩
    · rw [run_cons, hcalls, calls_step h.consistent, List.append_assoc]
    · rw [run_cons, hdriver, driver_step h.consistent,
        driverAt_of_keepsDriver (hkeeps e List.mem_cons_self), DeviceCall.replay_append]

/-! ### Consequences -/

variable {calls : List DeviceCall} {n : Nat} {a : Option ClientId}

namespace Conduct

/-- The device is reset for the host, or because the connection of the client that has it ends. -/
theorem resets (h : s.Conduct e calls n a) (ht : (s.step e).Consistent)
    (ha : (s.step e).rawHolder = a) :
    s.abandons e = true ∧ e ≠ .hostReset ∧ calls = [.reset] ∧ n = s.restartsOfReset ∨
      s.abandons e = false ∧ (.reset ∈ calls → e = .hostReset) ∧ n = 0 := by
  -- Whoever has the device after the event is known then, so that its connection has not ended.
  have hkept : (s.step e).rawHolder = s.rawHolder → s.abandons e = false := by
    intro hsame
    cases hraw : s.rawHolder with
    | none => simp [abandons, hraw]
    | some id =>
      obtain ⟨c, hc, rfl⟩ := client?_of_rawHolder ht (hsame.trans hraw)
      simp [abandons, ends, hraw, hc]
  have hnobody : s.rawHolder = none → s.abandons e = false := by
    intro hfree
    simp [abandons, hfree]
  cases h with
  | abandoned hlast hheld hends =>
    refine .inl ⟨?_, ?_, rfl, rfl⟩
    · rw [abandons, hheld]
      exact hends
    · rcases hlast with rfl | rfl <;> simp
  | apart => exact .inr ⟨hkept ha, fun hmem => absurd hmem List.not_mem_nil, rfl⟩
  | shared hfree hcalls =>
    exact .inr ⟨hnobody hfree, fun hmem => (nomatch hcalls _ hmem), rfl⟩
  | taken _ _ hfree =>
    exact .inr ⟨hnobody hfree, fun hmem => absurd hmem List.not_mem_nil, rfl⟩
  | returned hheld _ hstays =>
    refine .inr ⟨?_, fun hmem => absurd hmem List.not_mem_nil, rfl⟩
    rw [abandons, hheld]
    exact hstays
  | passed | forwarded =>
    exact .inr ⟨hkept ha, fun hmem => (nomatch List.mem_singleton.1 hmem), rfl⟩
  | reset => exact .inr ⟨hkept ha, fun _ => rfl, rfl⟩

end Conduct

/-! ### How often the device is reset -/

/-- How many resets of the device an event calls for: one if the host resets it, and one if the
connection of the client that has it ends. -/
def resetsDue (s : Server σ) : Event σ → Nat
  | .hostReset => 1
  | e => if s.abandons e then 1 else 0

/-- Without a reset by the host, one reset is due if the client that has the device goes. -/
theorem resetsDue_of_ne (he : e ≠ .hostReset) :
    s.resetsDue e = if s.abandons e then 1 else 0 := by
  unfold resetsDue
  split
  · contradiction
  · rfl

/-- In each event the device is reset as often as is due. -/
theorem count_reset_step (h : s.Reachable) (e : Event σ) :
    (callsIn (s.added e)).count .reset = s.resetsDue e := by
  obtain ⟨given, h⟩ := h
  have hs := h.consistent
  by_cases he : e = .hostReset
  · subst he
    have hcalls : (s.step .hostReset).calls = s.calls ++ [.reset] := calls_called ..
    rw [callsIn_added hs hcalls]
    rfl
  · obtain ⟨calls, n, a, hconduct, hdealing⟩ := step_conducted hs e
    rw [callsIn_added hs hdealing.calls, resetsDue_of_ne he]
    rcases hconduct.resets (h.step e).consistent hdealing.rawHolder with
      ⟨hends, -, rfl, -⟩ | ⟨hends, hreset, -⟩
    · rw [hends]
      rfl
    · rw [hends, List.count_eq_zero.2 fun hmem => he (hreset hmem)]
      rfl

/-- How many resets of the device a history calls for. -/
def resetsDueIn (s : Server σ) : List (Event σ) → Nat
  | [] => 0
  | e :: events => s.resetsDue e + (s.step e).resetsDueIn events

/-- Over a whole history the device is reset as often as the host resets it and the connection of a
client that has it ends. -/
theorem count_reset_run (h : s.Reachable) (events : List (Event σ)) :
    (s.run events).calls.count .reset = s.calls.count .reset + s.resetsDueIn events := by
  induction events generalizing s with
  | nil => rfl
  | cons e events ih =>
    have hstep := count_reset_step h e
    obtain ⟨given, h⟩ := h
    rw [run_cons, ih ⟨_, h.step e⟩, calls_step h.consistent, List.count_append, hstep,
      Nat.add_assoc]
    rfl

/-! ### A rehearsal with raw mode -/

/-- A request for the device that is in order while nobody has it. -/
theorem carryOut_of_free (hk : p.kind? = some .getRaw)
    (hd : Request.decodeRaw p.payload = .ok s.info.name) (hable : s.info.raw = true)
    (hfree : s.rawHolder = none) :
    s.carryOut c p = (({ s with rawHolder := some c.id } : Server σ).note
      (.rawModeGranted c.id)).acknowledge c.id := by
  have hraw : s.isRaw c.id = false := by simp [isRaw, hfree]
  simp [carryOut, hk, takeRaw, hraw, hd, hable, hfree]

end Server

end BrailleShare
