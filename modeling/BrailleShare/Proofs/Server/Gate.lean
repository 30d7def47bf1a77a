import BrailleShare.Proofs.Server.Waiting

/-!
# The only gate

Nobody but a client that shows the key gets past the login. Whether a connection has logged in can
be told from the frames that the server has handled for it: the proper login is among them, or it is
not. Nothing else that happens, to this connection or to others, has a part in it.

Main statements: of the connections that are there after an event, each was let in by the event, or
it has logged in if it had before or if the event is its login (`flagged_step`); so after
any history the connections that have logged in are those that have shown the key, and the frames of
all others are turned away (`login_is_the_only_gate`).
-/

namespace BrailleShare

/-- A move by which nobody comes and nobody logs in leaves no member that was not there. -/
theorem Roster.mem_of_parting {r : Roster} {ms : List Move} {n : ClientId × Bool}
    (h : ∀ m ∈ ms, m ≠ .enter ∧ ∀ id, m ≠ .logIn id) (hn : n ∈ (ms.foldl move r).members) :
    n ∈ r.members := by
  induction ms generalizing r with
  | nil => exact hn
  | cons m ms ih =>
    have hfirst := h m List.mem_cons_self
    have hmem := ih (fun m hm => h m (List.mem_cons_of_mem _ hm)) hn
    cases m with
    | enter => exact absurd rfl hfirst.1
    | logIn id => exact absurd rfl (hfirst.2 id)
    | part id => exact (List.mem_filter.1 hmem).1
    | close => exact hmem

namespace Server

variable {σ : Type} {s : Server σ} {c d : Client} {e : Event σ} {id : ClientId}

/-! ### Frames of a connection -/

/-- The frame of a connection that the server handles in an event. -/
def framesOf (id : ClientId) (s : Server σ) : Event σ → List Frame
  | .frame a f => if a = id ∧ (s.client? a).isSome then [f] else []
  | _ => []

/-- The frames of a connection are those that reach it while it is known. -/
theorem mem_framesOf_iff {f : Frame} :
    f ∈ s.framesOf id e ↔ e = .frame id f ∧ (s.client? id).isSome = true := by
  cases e with
  | frame a g =>
    by_cases ha : a = id
    · subst ha
      by_cases hs : (s.client? a).isSome <;> simp [framesOf, hs, eq_comm]
    · simp [framesOf, ha]
  | arrival | departure | clock | expiry | closing | console | ownerAsked | recipientAsked | cycle
  | hostWindow | hostStatus | hostReset | replacement | device => simp [framesOf]

/-- Nothing is handled for a connection that is not there. -/
theorem framesOf_of_none (hc : s.client? id = none) (e : Event σ) : s.framesOf id e = [] := by
  refine List.eq_nil_iff_forall_not_mem.2 fun f hf => ?_
  simpa [hc] using (mem_framesOf_iff.1 hf).2

/-- Whoever is known is on the roster. -/
theorem mem_roster (hc : c ∈ s.clients) : (c.id, c.loggedIn) ∈ s.roster.members :=
  List.mem_map.2 ⟨c, hc, rfl⟩

/-- Whoever is on the roster is known. -/
theorem exists_of_mem_roster {n : ClientId × Bool} (hn : n ∈ s.roster.members) :
    ∃ c ∈ s.clients, c.id = n.1 ∧ c.loggedIn = n.2 := by
  obtain ⟨c, hc, rfl⟩ := List.mem_map.1 hn
  exact ⟨c, hc, rfl, rfl⟩

/-- An id that has not been given yet is nobody's. -/
theorem client?_of_next_le (hs : s.roster.Sound) (hid : s.nextId ≤ id.val) :
    s.client? id = none := by
  rw [← flag?_eq_none_iff, Roster.flag?_eq_none_iff]
  rintro m hm rfl
  exact absurd (hs.next m hm) (Nat.not_lt.2 hid)

/-! ### Flags -/

/-- What an event makes of a connection that is there after it. -/
inductive Flagged (s : Server σ) (e : Event σ) (d : Client) : Prop
  /-- It is a new one. -/
  | newcomer (hid : d.id.val = s.nextId) (hl : d.loggedIn = false) (hnone : s.framesOf d.id e = [])
  /-- It was there, and it has logged in if it had before or if the event is its login. -/
  | known (c : Client) (hc : c ∈ s.clients) (hid : c.id = d.id)
      (hl : d.loggedIn = true ↔
        c.loggedIn = true ∨ .packet (.login s.settings.key) ∈ s.framesOf d.id e)

section driver

variable [Driver σ]

/-- Whoever is there after an event that brings nobody and is no frame was there with the same
flag. -/
theorem Flagged.of_parting (hmoves : ∀ m ∈ s.moves e, m ≠ .enter ∧ ∀ id, m ≠ .logIn id)
    (hnone : s.framesOf d.id e = []) (hd : d ∈ (s.step e).clients) : Flagged s e d := by
  have hmem := mem_roster hd
  rw [roster_step] at hmem
  obtain ⟨c, hc, hid, hl⟩ := exists_of_mem_roster (Roster.mem_of_parting hmoves hmem)
  exact .known c hc hid (by simp [hl, hnone])

/-- A frame makes a difference to its own connection alone, and only if it is the proper login. -/
theorem flagged_frame (hs : s.roster.Sound) {a : ClientId} {f : Frame}
    (hd : d ∈ (s.step (.frame a f)).clients) : Flagged s (.frame a f) d := by
  have hmem := mem_roster hd
  simp only [step, onFrame_roster] at hmem
  split at hmem
  · rename_i hin
    obtain ⟨hflag, rfl⟩ := hin
    have hthere : (s.client? a).isSome = true := by
      rw [flag?_roster] at hflag
      exact Option.isSome_map.symm.trans (by rw [hflag]; rfl)
    obtain ⟨n, hn, heq⟩ := List.mem_map.1 hmem
    obtain ⟨c, hc, hid, hl⟩ := exists_of_mem_roster hn
    by_cases hna : n.1 = a
    · rw [if_pos hna] at heq
      obtain ⟨hdid, hdl⟩ := Prod.mk.inj heq
      refine .known c hc (hid.trans hdid) ?_
      simp [mem_framesOf_iff, ← hdl, ← hdid, hna, hthere]
    · rw [if_neg hna] at heq
      subst heq
      refine .known c hc hid ?_
      have hne : a ≠ d.id := fun h => hna h.symm
      simp [mem_framesOf_iff, hne, hl]
  · rename_i hout
    obtain ⟨c, hc, hid, hl⟩ := exists_of_mem_roster hmem
    refine .known c hc hid ?_
    -- a login that changes no flag comes from a client that is logged in already
    have hlate : .packet (.login s.settings.key) ∈ s.framesOf d.id (.frame a f) →
        d.loggedIn = true := by
      intro hheard
      obtain ⟨heq, -⟩ := mem_framesOf_iff.1 hheard
      obtain ⟨rfl, rfl⟩ := Event.frame.inj heq
      have hflag := hs.flag?_eq_some_iff.2 hmem
      have hne : d.loggedIn ≠ false := fun hfalse => hout ⟨hfalse ▸ hflag, rfl⟩
      simpa using hne
    rw [show c.loggedIn = d.loggedIn from hl]
    exact ⟨.inl, fun h => h.elim (fun h => h) hlate⟩

/-- An event lets a connection in, logs it in if it is its login, and makes no difference to it
otherwise. -/
theorem flagged_step (hs : s.roster.Sound) (hd : d ∈ (s.step e).clients) : Flagged s e d := by
  cases e with
  | arrival peer now =>
    have hmem := mem_roster hd
    simp only [step, accept_roster] at hmem
    split at hmem
    · rcases List.mem_append.1 hmem with hold | hnew
      · obtain ⟨c, hc, hid, hl⟩ := exists_of_mem_roster hold
        exact .known c hc hid (by simp [hl, framesOf])
      · obtain ⟨hid, hl⟩ := Prod.mk.inj (List.mem_singleton.1 hnew)
        exact .newcomer (congrArg ClientId.val hid) hl rfl
    · obtain ⟨c, hc, hid, hl⟩ := exists_of_mem_roster hmem
      exact .known c hc hid (by simp [hl, framesOf])
  | frame a f => exact flagged_frame hs hd
  | clock | expiry =>
    refine .of_parting (fun m hm => ?_) rfl hd
    obtain ⟨c, -, rfl⟩ := List.mem_map.1 hm
    simp
  | closing =>
    refine .of_parting (fun m hm => ?_) rfl hd
    rcases List.mem_cons.1 hm with rfl | hm
    · simp
    · obtain ⟨c, -, rfl⟩ := List.mem_map.1 hm
      simp
  | departure | console | ownerAsked | recipientAsked | cycle | hostWindow | hostStatus | hostReset
  | replacement | device => exact .of_parting (by simp [moves]) rfl hd

/-- After a history, the connections that have logged in are those that have shown the key, before
it or in it. -/
theorem loggedIn_run (past : ClientId → List Frame) (hs : s.roster.Sound)
    (hpast : ∀ c ∈ s.clients,
      c.loggedIn = true ↔ .packet (.login s.settings.key) ∈ past c.id)
    (hnew : ∀ id : ClientId, s.nextId ≤ id.val → past id = []) (events : List (Event σ)) :
    ∀ c ∈ (s.run events).clients, c.loggedIn = true ↔
      .packet (.login s.settings.key) ∈ past c.id ++ s.along (framesOf c.id) events := by
  induction events generalizing s past with
  | nil => simpa [along] using hpast
  | cons e events ih =>
    have hsettings : (s.step e).settings = s.settings := settings_run s [e]
    have hnext : s.nextId ≤ (s.step e).nextId := nextId_le_run s [e]
    have hlater := ih (fun id => past id ++ s.framesOf id e) (sound_step hs e) ?_ ?_
    · simpa only [hsettings, List.append_assoc, run_cons, along] using hlater
    · intro d hd
      rw [hsettings]
      cases flagged_step hs hd with
      | newcomer hid hl hnone => simp [hl, hnone, hnew d.id (Nat.le_of_eq hid.symm)]
      | known c hc hid hl => rw [hl, hpast c hc, hid, List.mem_append]
    · intro id hid
      have hle := Nat.le_trans hnext hid
      rw [hnew id hle, framesOf_of_none (client?_of_next_le hs hle)]
      rfl

omit [Driver σ] in
/-- The record tells whether a client has logged in. -/
theorem loggedIn_eq_isLoggedIn (hs : s.Consistent) (hc : c ∈ s.clients) :
    c.loggedIn = s.isLoggedIn c.id := by
  simp [isLoggedIn, hs.client?_of_mem hc]

omit [Driver σ] in
/-- A client that logs in has logged in. -/
theorem isLoggedIn_logIn (hc : s.client? id = some c) :
    (s.modifyClient id fun c => { c with loggedIn := true }).releaseWaiting.isLoggedIn id =
      true := by
  have hmap := client?_of_map (s := s)
    (t := (s.modifyClient id fun c => { c with loggedIn := true }).releaseWaiting)
    (f := fun d => { d with loggedIn := true }) (fun _ => rfl) rfl id
  rw [if_pos rfl, hc] at hmap
  simp [isLoggedIn, hmap]

/-- Whoever has logged in stays so for as long as it is there. -/
theorem loggedIn_lasts (hs : s.Consistent) (hr : s.roster.Sound) (hl : s.isLoggedIn id = true)
    {more : List (Event σ)} (hd : d ∈ (s.run more).clients) (hid : d.id = id) :
    d.loggedIn = true := by
  let past (x : ClientId) : List Frame :=
    if s.isLoggedIn x then [.packet (.login s.settings.key)] else []
  have hpast : ∀ c ∈ s.clients,
      c.loggedIn = true ↔ .packet (.login s.settings.key) ∈ past c.id := by
    intro c hc
    rw [loggedIn_eq_isLoggedIn hs hc]
    by_cases h : s.isLoggedIn c.id <;> simp [past, h]
  have hnew : ∀ x : ClientId, s.nextId ≤ x.val → past x = [] := by
    intro x hx
    simp [past, isLoggedIn, client?_of_next_le hr hx]
  refine (loggedIn_run past hr hpast hnew more d hd).2 (List.mem_append_left _ ?_)
  simp [past, hid, hl]

/-! ### Main result -/

/-- What becomes of the frames of a connection, by whether it has logged in. -/
structure GateKept (key : Octets) (s : Server σ) (c : Client) : Prop where
  /-- The proper login is acknowledged, and lets the connection in. -/
  opens : c.loggedIn = false → ∃ t,
    s.onFrame c.id (.packet (.login key)) = (.proceed, t) ∧
      t.packets = s.packets ++ [(c.id, .ack)] ∧ t.isLoggedIn c.id = true
  /-- Every other frame closes the connection. Of the rest of the server nothing changes but for the
  error and a line in the log. -/
  shut : c.loggedIn = false → ∀ f, f ≠ .packet (.login key) → ∃ n,
    s.onFrame c.id f = (.close,
      { s with effects := s.effects ++ [.notice n, .packet c.id (.error f.refusalCode)] })
  /-- Whoever has logged in stays so. -/
  lasts : c.loggedIn = true → ∀ more, ∀ d ∈ (s.run more).clients, d.id = c.id → d.loggedIn = true
  /-- A further login is an unknown instruction, and nothing else comes of it. -/
  again : c.loggedIn = true → ∀ p, p.kind? = some .auth → ∃ n,
    s.onFrame c.id (.packet p) = (.proceed,
      { s with effects :=
        s.effects ++ [.notice n, .packet c.id (.exception .unknownInstruction p)] })

/-- The gate is kept for every client that is known. -/
theorem gateKept (hs : s.roster.Sound) (hcons : s.Consistent) (hc : c ∈ s.clients) :
    GateKept s.settings.key s c := by
  have hfound := hcons.client?_of_mem hc
  constructor
  · intro hl
    refine ⟨_, onFrame_login hfound hl, ?_, ?_⟩
    · rw [packets_send, packets_note]
      rfl
    · exact isLoggedIn_logIn hfound
  · intro hl f hf
    obtain ⟨n, -, hn⟩ := onFrame_of_waiting hfound hl hf
    exact ⟨n, by simp [hn, turnAway, note, send, emit]⟩
  · intro hl more d hd hid
    rw [loggedIn_eq_isLoggedIn hcons hc] at hl
    exact loggedIn_lasts hcons hs hl hd hid
  · intro hl p hk
    exact ⟨_, by rw [onFrame_of_loggedIn hfound hl hk]; simp [note, send, emit]; rfl⟩

/-- After any history, a connection has logged in if and only if the server has handled its proper
login: an authentication with the version that the server speaks, followed by the key and nothing
else. Until then every other frame is turned away, and from then on the connection is in. -/
theorem login_is_the_only_gate (settings : Settings) (driver : σ) (console : UInt32)
    (table : DotTable) (events : List (Event σ)) :
    let first := (start settings driver console).withTable table
    ∀ c ∈ (first.run events).clients,
      (c.loggedIn = true ↔ .packet (.login settings.key) ∈ first.along (framesOf c.id) events) ∧
        GateKept settings.key (first.run events) c := by
  intro first c hc
  have hstart : first.roster.Sound := sound_start settings driver console table
  have hreach : (first.run events).Reachable := ⟨_, _, _, _, _, events, rfl, rfl⟩
  obtain ⟨given, hreach⟩ := hreach
  have hkey : (first.run events).settings.key = settings.key :=
    congrArg Settings.key (settings_run first events)
  refine ⟨?_, hkey ▸ gateKept (sound_run hstart events) hreach.consistent hc⟩
  exact loggedIn_run (fun _ => []) hstart (fun c hc => nomatch hc) (fun _ _ => rfl) events c hc

/-- A server whose key has two octets, and that nobody has connected to. -/
def lockedStart : Server BareDriver :=
  (start ⟨[1, 2], 4, 30, 8⟩ ⟨⟨"ba", "Bare", ⟨2, 1⟩, false, false⟩⟩ 3).withTable .plain

/-- Two clients try: the first with a part of the key, with more than the key, for another version
and at last with the key; the second with a packet that is too long. -/
def attempts : List (Event BareDriver) :=
  [.arrival "a" 0, .arrival "b" 0,
    packetEvent 1 .auth (Octets.ofWord protocolVersion ++ [1]),
    packetEvent 1 .auth (Octets.ofWord protocolVersion ++ [1, 2, 3]),
    packetEvent 1 .auth (Octets.ofWord 8 ++ [1, 2]),
    .frame ⟨2⟩ (.oversized PacketKind.auth.code 1000),
    packetEvent 1 .auth (Octets.ofWord protocolVersion ++ [1, 2])]

/-- Of two clients the first shows the key at last and is let in, the second gives up, and for both
the gate was kept. -/
theorem login_is_the_only_gate_attempts :
    (lockedStart.run attempts).outbox ⟨1⟩ = [.error .connectionRefused, .error .connectionRefused,
      .error .protocolVersion, .ack] ∧
    (lockedStart.run attempts).outbox ⟨2⟩ = [.error .connectionRefused] ∧
    (∃ c ∈ (lockedStart.run attempts).clients, c.id = ⟨1⟩ ∧ c.loggedIn = true ∧
      .packet (.login [1, 2]) ∈ lockedStart.along (framesOf c.id) attempts ∧
      GateKept [1, 2] (lockedStart.run attempts) c) ∧
    ∃ c ∈ (lockedStart.run attempts).clients, c.id = ⟨2⟩ ∧ c.loggedIn = false ∧
      .packet (.login [1, 2]) ∉ lockedStart.along (framesOf c.id) attempts ∧
      GateKept [1, 2] (lockedStart.run attempts) c := by
  have hfirst : ∃ c ∈ (lockedStart.run attempts).clients, c.id = ⟨1⟩ ∧ c.loggedIn = true := by
    decide +kernel
  have hsecond : ∃ c ∈ (lockedStart.run attempts).clients, c.id = ⟨2⟩ ∧ c.loggedIn = false := by
    decide +kernel
  obtain ⟨c, hc, hid, hl⟩ := hfirst
  obtain ⟨d, hd, hid', hl'⟩ := hsecond
  have hgate := login_is_the_only_gate _ _ _ _ attempts c hc
  have hgate' := login_is_the_only_gate _ _ _ _ attempts d hd
  refine ⟨by decide +kernel, by decide +kernel, ?_, ?_⟩
  · exact ⟨c, hc, hid, hl, hgate.1.1 hl, hgate.2⟩
  · exact ⟨d, hd, hid', hl', fun hmem => by simp [hgate'.1.2 hmem] at hl', hgate'.2⟩

end driver

end Server

end BrailleShare
