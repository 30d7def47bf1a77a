import BrailleShare.Proofs.Server.Registry

/-!
# Events as changes

Each operation of a server, and so each event, is a sequence of changes.

Main statements: a request for a tty either grants what it asks for or grants nothing, and the
client is told which (`takeTty_answer`); the tree refuses no request but one for a tty for which
there is no room (`carryOut_refusal`); an event is a sequence of changes that grants what the event
grants (`step_changes`); what holds at the start and survives each change holds in every reachable
state (`ReachableWith.of_changes`), and consistency is of that kind (`ReachableWith.consistent`).
-/

namespace BrailleShare.Server

variable {σ : Type}

/-! ### Coming and going -/

/-- A connection comes by changes. -/
theorem accept_changes (s : Server σ) (peer : String) (now : Nat) :
    Changes s [] (s.accept peer now).2 := by
  unfold accept
  split
  · exact .refl
  · split
    · split
      · exact .refl
      · exact .one (.quiet s.driver s.console true s.closed [.notice _] (by simp [Effect.window?]))
    · exact (Changes.one (.arrive peer now)).andThen (.note _ _)

/-- A client is turned away by changes. -/
theorem turnAway_changes (s : Server σ) (id : ClientId) (code : ErrorCode) (n : Notice) :
    Changes s [] (s.turnAway id code n).2 :=
  (Changes.note s n).andThen (.send _ _ _)

/-- A client logs in by changes. -/
theorem logIn_changes {s : Server σ} {c : Client} (hc : s.client? c.id = some c)
    (hl : c.loggedIn = false) (p : Packet) : Changes s [] (s.logIn c.id p).2 := by
  unfold logIn
  split
  · exact turnAway_changes ..
  · split
    · exact turnAway_changes ..
    · split
      · exact turnAway_changes ..
      · split
        · exact turnAway_changes ..
        · exact ((Changes.one (.logIn hc hl)).andThen (.note _ _)).andThen (.send _ _ _)

section driver

variable [Driver σ]

/-- The device is reset by changes. -/
theorem resetDevice_changes (s : Server σ) : Changes s [] s.resetDevice := by
  unfold resetDevice
  have h := Changes.called s .reset (Driver.reset s.driver) rfl
  dsimp only
  split
  · exact h
  · exact ((h.andThen (.note _ _)).andThen (.note _ _)).andThen
      (.effects _ [.restart] (by simp [Effect.window?]))

/-- A connection ends by changes. -/
theorem disconnect_changes (s : Server σ) (id : ClientId) : Changes s [] (s.disconnect id) := by
  unfold disconnect
  split
  · exact .refl
  · rename_i c hc
    have hc : s.client? c.id = some c := id_of_client? hc ▸ hc
    have hunseat : Changes s [] ((s.strikeOff c).unseat c) := by
      have hd := Changes.one (Change.depart hc)
      rw [strikeOff_eq]
      unfold unseat
      split
      · rename_i h hh
        rw [Client.seat_of_holding hh] at hd
        dsimp only
        rw [clearTty_eq]
        exact (hd.andThen (.freed _ _)).andThen (.note _ _)
      · rename_i hh
        rwa [Client.seat_of_none hh, TtyTree.collect_of_permanent rfl] at hd
    have hnote := hunseat.andThen (.note _ (.disconnected id c.peer))
    dsimp only
    split
    · exact (hnote.andThen (.note _ _)).andThen (resetDevice_changes _)
    · exact hnote

/-- Connections that waited too long end by changes. -/
theorem expire_changes (s : Server σ) (now : Nat) : Changes s [] (s.expire now).2 := by
  simp only [expire]
  generalize s.clients.filter (s.overdue now) = late
  induction late generalizing s with
  | nil => exact .refl
  | cons c late ih =>
    exact ((Changes.note s _).andThen (disconnect_changes _ _)).andThen (ih _)

/-- The regular look after the connections is made of changes. -/
theorem maintain_changes (s : Server σ) (now : Nat) : Changes s [] (s.maintain now) := by
  unfold maintain
  dsimp only
  split
  · exact (expire_changes s now).andThen (.note _ _)
  · exact expire_changes s now

/-- A server closes by changes. -/
theorem shutdown_changes (s : Server σ) : Changes s [] s.shutdown := by
  have hends : ∀ (cs : List Client) (t : Server σ),
      Changes t [] (cs.foldl (fun s c => s.disconnect c.id) t) := by
    intro cs
    induction cs with
    | nil => exact fun t => .refl
    | cons c cs ih => exact fun t => (disconnect_changes t c.id).andThen (ih _)
  exact (Changes.one (.quiet s.driver s.console s.refusalNoted true [.notice _]
    (by simp [Effect.window?]))).andThen (hends _ _)

end driver

/-! ### Requests -/

/-- What comes of a request that grants nothing and that the tree does not refuse. -/
structure Plain (s : Server σ) (o : Outcome σ) : Prop where
  changes : Changes s [] o.server
  refusal : ∀ {e}, o.refusal ≠ some (.tty e)

/-- A refusal is plain if what went before is made of changes. -/
theorem Plain.of_refuse {s t : Server σ} (h : Changes s [] t) (code : ErrorCode) :
    Plain s (t.refuse code) :=
  ⟨h, by simp [refuse]⟩

/-- What is done is plain if it is made of changes. -/
theorem Plain.of_done {s t : Server σ} (h : Changes s [] t) : Plain s t.done :=
  ⟨h, by simp [done]⟩

/-- An acknowledgement is plain if what went before is made of changes. -/
theorem Plain.of_acknowledge {s t : Server σ} (h : Changes s [] t) (id : ClientId) :
    Plain s (t.acknowledge id) :=
  .of_done (h.andThen (.send _ _ _))

/-- What depends on the tty of a client is plain if it is so for the tty that it holds. -/
theorem withHolding_plain {s : Server σ} {c : Client} {f : Holding → Outcome σ}
    (hf : ∀ h, c.holding = some h → Plain s (f h)) : Plain s (s.withHolding c f) := by
  unfold withHolding
  split
  · exact .of_refuse .refl _
  · split
    · exact .of_refuse .refl _
    · exact hf _ ‹_›

/-- A request for facts is plain. -/
theorem tell_plain (s : Server σ) (c : Client) (payload : Octets) (answer : Packet) :
    Plain s (s.tell c payload answer) := by
  unfold tell
  split
  · exact .of_refuse .refl _
  · split
    · exact .of_refuse .refl _
    · exact .of_done (.send _ _ _)

/-- A client holds a tty that is there, so that its focus can be pointed anywhere. -/
theorem focusChild_plain {s : Server σ} {c : Client} (hs : s.Consistent)
    (hc : s.client? c.id = some c) (payload : Octets) : Plain s (s.focusChild c payload) := by
  apply withHolding_plain
  intro h hh
  have hlive := hs.live_of_holding hc hh
  split
  · exact .of_refuse .refl _
  · rename_i number _
    rw [TtyTree.setFocus_of_live hlive]
    exact .of_done (.one (.point h.tty number))

/-- The lobby is always there to go back to. -/
theorem returnTty_plain {s : Server σ} {c : Client} (hs : s.Consistent)
    (hc : s.client? c.id = some c) : Plain s (s.returnTty c) := by
  apply withHolding_plain
  intro h hh
  have hleave := Changes.one (Change.leave hc hh)
  rw [TtyTree.move_of_live hs.tree.live_lobby]
  simp only [forgetShown_eq, clearTty_eq]
  refine .of_acknowledge ?_ c.id
  exact (hleave.andThen (.freed _ _)).andThen (.note _ _)

/-- A new mask is plain. -/
theorem putMask_plain {s : Server σ} {c : Client} {h : Holding} (hc : s.client? c.id = some c)
    (hh : c.holding = some h) (mask : RangeSet) : Plain s (s.putMask c h mask) :=
  .of_acknowledge (.one (.remask mask hc hh)) c.id

/-- A change of a range of keys is plain. -/
theorem changeRange_plain {s : Server σ} {c : Client} (hc : s.client? c.id = some c)
    (payload : Octets) (change : MaskEdit) : Plain s (s.changeRange c payload change) := by
  apply withHolding_plain
  intro h hh
  split
  · exact .of_refuse .refl _
  · split
    · exact .of_refuse .refl _
    · exact putMask_plain hc hh _

/-- A change of a set of keys is plain. -/
theorem changeSet_plain {s : Server σ} {c : Client} (hc : s.client? c.id = some c)
    (payload : Octets) (change : MaskEdit) : Plain s (s.changeSet c payload change) := by
  apply withHolding_plain
  intro h hh
  split
  · exact .of_refuse .refl _
  · exact putMask_plain hc hh _

/-- A request to write is plain. -/
theorem write_plain {s : Server σ} {c : Client} (hc : s.client? c.id = some c)
    (payload : Octets) : Plain s (s.write c payload) := by
  unfold write
  split
  · exact .of_refuse .refl _
  · apply withHolding_plain
    intro h hh
    split
    · exact .of_refuse .refl _
    · exact .of_done (.one (.blank hc hh))
    · exact .of_done (.one (.draw payload hc hh ‹_›))

/-- A request for the device is plain. -/
theorem takeRaw_plain {s : Server σ} {c : Client} (hc : s.client? c.id = some c)
    (hl : c.loggedIn = true) (payload : Octets) : Plain s (s.takeRaw c payload) := by
  unfold takeRaw
  split
  · exact .of_refuse .refl _
  · split
    · exact .of_refuse .refl _
    · split
      · exact .of_refuse .refl _
      · split
        · exact .of_refuse (.note _ _) _
        · exact .of_acknowledge ((Changes.one (.takeRaw hc hl ‹_›)).andThen (.note _ _)) c.id

/-- Giving the device back is plain. -/
theorem returnRaw_plain (s : Server σ) (c : Client) : Plain s (s.returnRaw c) := by
  unfold returnRaw
  split
  · exact .of_acknowledge ((Changes.one .returnRaw).andThen (.note _ _)) c.id
  · exact .of_refuse .refl _

/-- Octets for the device are plain. -/
theorem passRaw_plain [Driver σ] (s : Server σ) (c : Client) (payload : Octets) :
    Plain s (s.passRaw c payload) := by
  unfold passRaw
  split
  · have h := Changes.called s (.writePacket payload) (Driver.writePacket s.driver payload) rfl
    dsimp only
    split
    · exact .of_done h
    · exact .of_refuse (h.andThen (.note _ _)) _
  · exact .of_refuse .refl _

/-! ### Asking for a tty -/

/-- A client that is seated in a tty that is there is told so. -/
theorem seatClient_of_live {s : Server σ} {tty : TtyId} (hl : s.tree.live tty) (c : Client)
    (path : List UInt32) (mode : KeyMode) :
    s.seatClient c tty path mode =
      ((({ s with tree := (s.tree.detach TtyTree.lobby c.id).seat tty c.id } : Server σ).setHolding
        c.id (some ⟨tty, mode, mode.defaultMask, .blank s.info.size.cells, .empty⟩)).note
          (.ttyAcquired c.id path mode)).acknowledge c.id := by
  rw [seatClient, TtyTree.move_of_live hl]

/-- Once a path has been opened, the client that asked for it can be seated there. -/
theorem seatClient_changes {s : Server σ} {c : Client} (hc : s.client? c.id = some c)
    (hl : c.loggedIn = true) (hh : c.holding = none) (hs : s.tree.Sound) {path : List UInt32}
    {tree : TtyTree ClientId} {tty : TtyId} (ho : s.tree.Opens path tree tty) (mode : KeyMode)
    (made : List (UInt32 × TtyId)) :
    let o := (({ s with tree } : Server σ).noteMade made).seatClient c tty path mode
    o.refusal = none ∧ Changes s [⟨c.id, path⟩] o.server ∧
      ∃ more, o.server.effects = s.effects ++ more ∧ Effect.packet c.id .ack ∈ more := by
  obtain ⟨-, hlive, -, -, -⟩ := TtyTree.Opens.sound hs ho
  rw [noteMade_eq]
  dsimp only
  rw [seatClient_of_live (by exact hlive)]
  refine ⟨rfl, ?_, ?_⟩
  · have hset := Changes.one (Change.settle mode hc hl hh ho)
    exact ((hset.andThen (.made _ made)).andThen (.note _ _)).andThen (.send _ _ _)
  · refine ⟨(made.map fun m => .notice (.ttyMade m.1 m.2)) ++
      [.notice (.ttyAcquired c.id path mode)] ++ [.packet c.id .ack], ?_, by simp⟩
    simp [acknowledge, done, send, note, emit, setHolding, modifyClient]

/-- What comes of a request for a tty. -/
inductive TtyAnswer (s : Server σ) (c : Client) (payload : Octets) (o : Outcome σ) : Prop
  /-- It is refused, by the tree only for want of room. Nothing is granted, and the client is not
  told that it was. -/
  | refused {r : Refusal} (more : List Effect) (href : o.refusal = some r)
      (hroom : ∀ {e}, r = .tty e → e = .limitReached s.tree.limit) (hch : Changes s [] o.server)
      (he : o.server.effects = s.effects ++ more) (hno : Effect.packet c.id .ack ∉ more)
  /-- The client is given the tty that it asks for, and is told so. -/
  | granted {request : TtyRequest} (more : List Effect)
      (hd : Request.decodeTty payload = .ok request) (href : o.refusal = none)
      (hch : Changes s [⟨c.id, request.path⟩] o.server)
      (he : o.server.effects = s.effects ++ more) (hack : Effect.packet c.id .ack ∈ more)

/-- A refusal is one of the answers to a request for a tty. -/
theorem TtyAnswer.of_refuse (s : Server σ) (c : Client) (payload : Octets) (code : ErrorCode) :
    TtyAnswer s c payload (s.refuse code) :=
  .refused [] rfl (fun h => by cases h) .refl (List.append_nil _).symm List.not_mem_nil

/-- A client that can be seated is granted its tty. -/
theorem TtyAnswer.of_seatClient {s : Server σ} {c : Client} (hc : s.client? c.id = some c)
    (hl : c.loggedIn = true) (hh : c.holding = none) (hs : s.tree.Sound) {payload : Octets}
    {request : TtyRequest} (hd : Request.decodeTty payload = .ok request)
    {tree : TtyTree ClientId} {tty : TtyId} (ho : s.tree.Opens request.path tree tty)
    (mode : KeyMode) (made : List (UInt32 × TtyId)) :
    TtyAnswer s c payload
      ((({ s with tree } : Server σ).noteMade made).seatClient c tty request.path mode) := by
  obtain ⟨href, hch, more, he, hack⟩ := seatClient_changes hc hl hh hs ho mode made
  exact .granted more hd href hch he hack

/-- A request for a tty is refused, or the client is given the tty. -/
theorem takeTty_answer {s : Server σ} {c : Client} (hc : s.client? c.id = some c)
    (hl : c.loggedIn = true) (hs : s.tree.Sound) (payload : Octets) :
    TtyAnswer s c payload (s.takeTty c payload) := by
  unfold takeTty
  split
  · exact .of_refuse ..
  · split
    · exact .of_refuse ..
    · rename_i request hd
      split
      · exact .of_refuse ..
      · rename_i mode _
        split
        · split
          · exact .of_refuse ..
          · exact .of_refuse ..
        · exact .of_refuse ..
        · rename_i tty hfound hh
          exact .of_seatClient hc hl hh hs hd (.found hfound) mode []
        · rename_i deepest matched hmissing hh
          dsimp only
          split
          · rename_i e he
            obtain ⟨htt, hlimit⟩ := TtyTree.create_of_error he
            have hlive := (hs.lookup_missing hmissing).1
            rw [noteMade_eq]
            refine .refused (((s.tree.create deepest (request.path.drop matched)).made.map
                fun m => .notice (.ttyMade m.1 m.2)) ++ [.notice (.pathRefused c.id e)])
              rfl ?_ ?_ ?_ ?_
            · intro e' heq
              cases heq
              exact TtyTree.create_error_eq hlive he
            · exact ((Changes.one (.spend _ htt hlimit)).andThen (.made _ _)).andThen (.note _ _)
            · exact List.append_assoc ..
            · simp
          · rename_i tty htty
            exact .of_seatClient hc hl hh hs hd (.made hmissing htty) mode _

/-! ### Packets -/

/-- No error is an acknowledgement. -/
theorem error_ne_ack (code : ErrorCode) : Packet.error code ≠ .ack := by
  intro h
  have htype : PacketKind.error.code = PacketKind.ack.code := congrArg Packet.type h
  exact absurd htype (by decide)

/-- A packet that is too long brings changes. -/
theorem onOversized_changes (s : Server σ) (id : ClientId) (type : UInt32) (size : Nat) :
    Changes s [] (s.onOversized id type size).2 := by
  unfold onOversized
  split
  · exact .refl
  · split
    · exact .note _ _
    · exact turnAway_changes ..

section driver

variable [Driver σ]

/-- Requests other than that for a tty grant nothing, and the tree refuses none of them. -/
theorem carryOut_plain {s : Server σ} {c : Client} (hs : s.Consistent)
    (hc : s.client? c.id = some c) (hl : c.loggedIn = true) {p : Packet}
    (hk : p.kind? ≠ some .getTty) : Plain s (s.carryOut c p) := by
  unfold carryOut
  split
  · exact tell_plain ..
  · exact tell_plain ..
  · exact tell_plain ..
  · exact absurd ‹_› hk
  · exact focusChild_plain hs hc _
  · exact returnTty_plain hs hc
  · exact changeRange_plain hc ..
  · exact changeRange_plain hc ..
  · exact changeSet_plain hc ..
  · exact changeSet_plain hc ..
  · exact write_plain hc _
  · exact takeRaw_plain hc hl _
  · exact returnRaw_plain ..
  · exact passRaw_plain ..
  · exact .of_refuse .refl _

/-- The tree refuses nothing but a tty for which there is no room. -/
theorem carryOut_refusal {s : Server σ} {c : Client} (hs : s.Consistent)
    (hc : s.client? c.id = some c) (hl : c.loggedIn = true) {p : Packet} {e : TtyError}
    (h : (s.carryOut c p).refusal = some (.tty e)) : e = .limitReached s.tree.limit := by
  by_cases hk : p.kind? = some .getTty
  · have hcarry : s.carryOut c p = s.takeTty c p.payload := by simp [carryOut, hk]
    rw [hcarry] at h
    cases takeTty_answer hc hl hs.tree p.payload with
    | refused _ href hroom => exact hroom (Option.some.inj (href.symm.trans h))
    | granted _ _ href => simp [href] at h
  · exact absurd h (carryOut_plain hs hc hl hk).refusal

/-- Reporting a refusal grants nothing. -/
theorem answer_changes {s : Server σ} {c : Client} {p : Packet} {g : List Grant}
    (h : Changes s g (s.carryOut c p).server) : Changes s g (s.answer c p) := by
  unfold answer
  dsimp only
  split
  · exact h
  · exact (h.andThen (.note _ _)).andThen (.send _ _ _)

/-! ### What a frame grants -/

/-- A packet of another kind grants nothing. -/
theorem grants_of_kind_ne (s : Server σ) (id : ClientId) {p : Packet}
    (hk : p.kind? ≠ some .getTty) : s.grants (.frame id (.packet p)) = [] := by
  simp only [grants]
  split
  · contradiction
  · rfl

/-- What stands behind the earlier effects is what an event has added. -/
theorem added_eq {s : Server σ} {e : Event σ} {more : List Effect}
    (h : (s.step e).effects = s.effects ++ more) : s.added e = more := by
  rw [added, h, List.drop_left]

/-- A client that is not told that its request was carried out is granted nothing. -/
theorem grants_of_not_mem {s : Server σ} {id : ClientId} {p : Packet}
    (h : Effect.packet id .ack ∉ s.added (.frame id (.packet p))) :
    s.grants (.frame id (.packet p)) = [] := by
  simp only [grants]
  split
  · rw [if_neg h]
  · rfl

/-- A request for a tty that is acknowledged grants its path. -/
theorem grants_of_mem {s : Server σ} {id : ClientId} {p : Packet} {request : TtyRequest}
    (hk : p.kind? = some .getTty) (hd : Request.decodeTty p.payload = .ok request)
    (h : Effect.packet id .ack ∈ s.added (.frame id (.packet p))) :
    s.grants (.frame id (.packet p)) = [⟨id, request.path⟩] := by
  simp only [grants, hk, hd]
  rw [if_pos h]

/-- What a packet grants is what its event grants. -/
theorem onPacket_changes {s : Server σ} (hs : s.Consistent) (id : ClientId) (p : Packet) :
    Changes s (s.grants (.frame id (.packet p))) (s.onPacket id p).2 := by
  cases hcl : s.client? id with
  | none =>
    have hadded : s.added (.frame id (.packet p)) = [] :=
      added_eq (by simp [step, onFrame, onPacket, hcl])
    rw [grants_of_not_mem (by simp [hadded])]
    simp only [onPacket, hcl]
    exact .refl
  | some c =>
    obtain rfl := id_of_client? hcl
    have hstep : s.step (.frame c.id (.packet p)) = (s.onPacket c.id p).2 := rfl
    by_cases hl : c.loggedIn = true
    · have hanswer : (s.onPacket c.id p).2 = s.answer c p := by simp [onPacket, hcl, hl]
      rw [hanswer] at hstep ⊢
      -- a grant is read off the log, so in each case the log is needed beside the change
      by_cases hk : p.kind? = some .getTty
      · have hcarry : s.carryOut c p = s.takeTty c p.payload := by simp [carryOut, hk]
        cases takeTty_answer hcl hl hs.tree p.payload with
        | @refused r more href _ hch he hno =>
          have hadded : s.added (.frame c.id (.packet p)) = more ++
              [.notice (.requestFailed c.id p.type r.code .error), .packet c.id (.error r.code)] :=
            added_eq (by
              simp [hstep, answer, hcarry, href, he, send, note, emit, hk, ReplyStyle.ofKind,
                ReplyStyle.report])
          have hnot : Effect.packet c.id .ack ∉ s.added (.frame c.id (.packet p)) := by
            simp [hadded, hno, (error_ne_ack r.code).symm]
          rw [grants_of_not_mem hnot]
          exact answer_changes (hcarry ▸ hch)
        | @granted request more hd href hch he hack =>
          have hadded : s.added (.frame c.id (.packet p)) = more :=
            added_eq (by simp [hstep, answer, hcarry, href, he])
          rw [grants_of_mem hk hd (hadded ▸ hack)]
          exact answer_changes (hcarry ▸ hch)
      · rw [grants_of_kind_ne s c.id hk]
        exact answer_changes (carryOut_plain hs hcl hl hk).changes
    · have hlogin : s.onPacket c.id p = s.logIn c.id p := by simp [onPacket, hcl, hl]
      rw [hlogin] at hstep ⊢
      have hl : c.loggedIn = false := by simpa using hl
      have hgrants : s.grants (.frame c.id (.packet p)) = [] := by
        by_cases hk : p.kind? = some .getTty
        · have hadded : s.added (.frame c.id (.packet p)) =
              [.notice (.notALogin c.id p.type), .packet c.id (.error .connectionRefused)] :=
            added_eq (by simp [hstep, logIn, hk, turnAway, send, note, emit])
          refine grants_of_not_mem ?_
          simp [hadded, (error_ne_ack _).symm]
        · exact grants_of_kind_ne s c.id hk
      rw [hgrants]
      exact logIn_changes hcl hl p

end driver

/-! ### The output cycle -/

/-- The console is followed by changes. -/
theorem syncConsole_changes (s : Server σ) : Changes s [] s.syncConsole := by
  unfold syncConsole
  split
  · exact .refl
  · exact (Changes.note s (.consoleChanged s.console)).andThen
      (.one (.point TtyTree.root s.console))

/-- A client holds what is in its record. -/
theorem holding?_eq_some_iff {s : Server σ} {id : ClientId} {h : Holding} :
    s.holding? id = some h ↔ ∃ c, s.client? id = some c ∧ c.holding = some h := by
  simp [holding?, Option.bind_eq_some_iff]

/-- A key is delivered by changes. -/
theorem deliver_changes (s : Server σ) (e : KeyEvent) : Changes s [] (s.deliver e).2 := by
  unfold deliver
  split
  · exact .refl
  · split
    · exact .refl
    · split
      · exact .refl
      · exact (Changes.note s _).andThen (.send _ _ _)

section driver

variable [Driver σ]

/-- A window that was written last and has not changed since is left alone. -/
theorem showWindow_of_shown {s : Server σ} {id : ClientId} {h : Holding}
    (hl : s.lastShown = some id) (hf : h.freshness ≠ .pending) :
    s.showWindow id h = (.ok (), s) := by
  have hsame : ({ s with lastShown := some id } : Server σ) = s := by rw [← hl]
  simp [showWindow, hl, hf, hsame]

/-- Any other window is given to the driver. -/
theorem showWindow_of_stale {s : Server σ} {id : ClientId} {h : Holding}
    (hw : s.lastShown ≠ some id ∨ h.freshness = .pending) :
    s.showWindow id h =
      let a := Driver.writeWindow s.driver (h.window.render s.table)
      let t := if s.lastShown = some id then s else s.note (.ownerChanged id)
      (a.outcome, called { t.setHolding id (some { h with freshness := .displayed }) with
        lastShown := some id } (.writeWindow (h.window.render s.table)) a) := by
  unfold showWindow
  by_cases hl : s.lastShown = some id
  · have hf := hw.resolve_left fun hne => hne hl
    simp [hl, hf, writeWindow, setHolding, modifyClient]
  · simp [hl, writeWindow, setHolding, modifyClient, note, emit]

/-- Showing a window is presenting it, or nothing if it is shown already. -/
theorem showWindow_changes {s : Server σ} {id : ClientId} {h : Holding}
    (hheld : s.holding? id = some h) : Changes s [] (s.showWindow id h).2 := by
  obtain ⟨c, hc, hh⟩ := holding?_eq_some_iff.1 hheld
  obtain rfl := id_of_client? hc
  by_cases hw : s.lastShown ≠ some c.id ∨ h.freshness = .pending
  · rw [showWindow_of_stale hw]
    dsimp only
    split
    · exact .one (.present _ hc hh)
    · exact (Changes.note s (.ownerChanged c.id)).andThen
        (.one (.present (s := s.note (.ownerChanged c.id)) _ hc hh))
  · simp only [not_or, not_not] at hw
    rw [showWindow_of_shown hw.1 hw.2]
    exact .refl

/-- The display is brought up to date by changes. -/
theorem updateDisplay_changes (s : Server σ) : Changes s [] s.updateDisplay.2 := by
  unfold updateDisplay
  split
  · exact .refl
  · split
    · exact .refl
    · exact showWindow_changes ‹_›

/-- An event is read by changes. -/
theorem readEvent_changes (s : Server σ) : Changes s [] s.readEvent.2 := by
  unfold readEvent
  split
  · exact .called s .readKey _ rfl
  · exact .called s .readCommand _ rfl

/-- An event is read and delivered by changes. -/
theorem nextCommand_changes (s : Server σ) : Changes s [] s.nextCommand.2 := by
  have h := readEvent_changes s
  unfold nextCommand
  split <;> simp_all only
  exact h.andThen (deliver_changes _ _)

/-- The device is read for a client by changes. -/
theorem forwardRaw_changes (s : Server σ) (owner : ClientId) :
    Changes s [] (s.forwardRaw owner) := by
  unfold forwardRaw
  split
  · exact .refl
  · have h := Changes.called s .readPacket (Driver.readPacket s.driver) rfl
    dsimp only
    split
    · exact h
    · exact h.andThen (.send _ _ _)
    · exact (h.andThen (.note _ _)).andThen (.send _ _ _)

/-- A cycle is made of changes. -/
theorem cycle_changes (s : Server σ) : Changes s [] s.cycle.2 := by
  have hsync := syncConsole_changes s
  unfold cycle
  dsimp only
  split
  · exact hsync.andThen (forwardRaw_changes _ _)
  · have hupdate := updateDisplay_changes s.syncConsole
    split <;> simp_all only
    · exact hsync.andThen hupdate
    · exact (hsync.andThen hupdate).andThen (nextCommand_changes _)

/-- The host's own window is a change. -/
theorem hostWindow_changes (s : Server σ) (cells : Octets) :
    Changes s [] (s.hostWindow cells).2 := by
  have hsync := syncConsole_changes s
  unfold hostWindow
  split
  · exact .refl
  · dsimp only
    split
    · exact hsync
    · refine hsync.andThen (.one ?_)
      exact .presentHost (Driver.writeWindow s.syncConsole.driver cells) cells

/-- The host's status cells are a change. -/
theorem hostStatus_changes (s : Server σ) (cells : Octets) :
    Changes s [] (s.hostStatus cells).2 := by
  unfold hostStatus
  split
  · exact .refl
  · exact .called s (.writeStatus cells) _ rfl

/-- Another driver is a change. -/
theorem changeDriver_changes (s : Server σ) (driver : σ) :
    Changes s [] (s.changeDriver driver).2 := by
  unfold changeDriver
  dsimp only
  split
  · exact .refl
  · exact .one (.quiet driver s.console s.refusalNoted s.closed [.notice .driverReplaced]
      (by simp [Effect.window?]))

/-! ### Events -/

/-- An event is a sequence of changes that grants what the event grants. -/
theorem step_changes {s : Server σ} (hs : s.Consistent) (e : Event σ) :
    Changes s (s.grants e) (s.step e) := by
  cases e with
  | arrival peer now => exact accept_changes s peer now
  | frame id f =>
    cases f with
    | packet p => exact onPacket_changes hs id p
    | oversized type size => exact onOversized_changes s id type size
  | departure id => exact disconnect_changes s id
  | clock now => exact maintain_changes s now
  | expiry now => exact expire_changes s now
  | closing => exact shutdown_changes s
  | console number => exact .outside s s.driver number
  | ownerAsked => exact syncConsole_changes s
  | recipientAsked command keycode => exact syncConsole_changes s
  | cycle => exact cycle_changes s
  | hostWindow cells => exact hostWindow_changes s cells
  | hostStatus cells => exact hostStatus_changes s cells
  | hostReset => exact .called s .reset _ rfl
  | replacement driver => exact changeDriver_changes s driver
  | device driver => exact .outside s driver s.console

/-- What holds at the start and survives each change holds in every reachable state. -/
theorem ReachableWith.of_changes {P : Server σ → List Grant → Prop}
    (consistent : ∀ {s given}, P s given → s.Consistent)
    (begins : ∀ settings driver console table,
      P ((start settings driver console).withTable table) [])
    (keeps : ∀ {s t given g}, P s given → Change s g t → P t (given ++ g))
    {s : Server σ} {given : List Grant} (h : s.ReachableWith given) : P s given :=
  h.invariant begins fun _ _ e hs => (step_changes (consistent hs) e).invariant keeps hs

/-- Records and tree agree in every reachable state. -/
theorem ReachableWith.consistent {s : Server σ} {given : List Grant} (h : s.ReachableWith given) :
    s.Consistent :=
  h.of_changes (P := fun s _ => s.Consistent) (fun hs => hs) start_consistent
    fun hs hc => hs.of_change hc

end driver

end BrailleShare.Server
