import BrailleShare.Proofs.Server.Isolation

/-!
# Requests that commute

Most requests read and change nothing but what their own client has: its window, its mask, or the
focus below its tty. Of two such requests from different clients it does not matter which is handled
first, be they carried out or refused.

Main statements: what such a request does depends on its client and on what the other requests leave
as it is (`answer_acts`), what two of them do can be done in either order (`Deed.on_comm`), and so
two requests in a reachable state lead to the same state and the same replies in either order
(`independent_requests_commute`).
-/

namespace BrailleShare

/-- A request of this kind reads and changes what its own client has, and nothing else. -/
def PacketKind.independent : PacketKind → Bool
  | .write | .ignoreKeyRange | .unignoreKeyRange | .ignoreKeySet | .unignoreKeySet
  | .getDriverId | .getDriverName | .getDisplaySize | .setFocus => true
  | _ => false

namespace Server

variable {σ : Type} {s t : Server σ} {a b : ClientId} {c : Client} {p q : Packet}

/-! ### What a request does -/

/-- All that a request does: its client holds something else, a child has focus in a tty, and there
are effects. -/
structure Deed where
  /-- What the client holds from now on, if that has changed. -/
  holding : Option Holding
  /-- The tty in which a child has been given focus, and the number of the child. -/
  focus : Option (TtyId × UInt32)
  effects : List Effect

namespace Deed

/-- Nothing is done. -/
def nothing : Deed :=
  ⟨none, none, []⟩

/-- The client with what it holds from now on. -/
def record (d : Deed) (c : Client) : Client :=
  { c with holding := d.holding.or c.holding }

/-- The tree with the focus where it has been set. -/
def pointed (d : Deed) (t : TtyTree ClientId) : TtyTree ClientId :=
  match d.focus with
  | none => t
  | some (tty, number) => t.adjust tty (fun _ => some number) fun cs => cs

/-- The server once a client has done something. -/
def on (d : Deed) (a : ClientId) (s : Server σ) : Server σ :=
  { s.modifyClient a d.record with tree := d.pointed s.tree, effects := s.effects ++ d.effects }

/-- The same with more effects. -/
def followedBy (d : Deed) (more : List Effect) : Deed :=
  { d with effects := d.effects ++ more }

variable {d e : Deed}

/-- A deed that changes nothing a client holds leaves the records as they are. -/
theorem modifyClient_of_none (h : d.holding = none) (a : ClientId) (s : Server σ) :
    s.modifyClient a d.record = s := by
  have hrecord : ∀ c : Client, (if c.id = a then d.record c else c) = c := by
    intro c
    rw [record, h]
    exact ite_self c
  simp only [modifyClient, hrecord, List.map_id']

/-- Nothing is done by the deed that is none. -/
theorem nothing_on (a : ClientId) (s : Server σ) : nothing.on a s = s := by
  rw [on, modifyClient_of_none rfl, pointed]
  simp [nothing]

/-- A deed may set the focus of a tty. -/
theorem focus_on (tty : TtyId) (number : UInt32) (a : ClientId) (s : Server σ) :
    (⟨none, some (tty, number), []⟩ : Deed).on a s =
      { s with tree := s.tree.adjust tty (fun _ => some number) fun cs => cs } := by
  rw [on, modifyClient_of_none rfl, pointed]
  simp

/-- A deed may change what a client holds. -/
theorem holding_on (h : Holding) (a : ClientId) (s : Server σ) :
    (⟨some h, none, []⟩ : Deed).on a s = s.setHolding a (some h) := by
  rw [on, pointed, List.append_nil]
  rfl

/-- More effects may follow those of a deed. -/
theorem followedBy_on (d : Deed) (more : List Effect) (a : ClientId) (s : Server σ) :
    (d.followedBy more).on a s = { d.on a s with effects := (d.on a s).effects ++ more } := by
  simp only [on, followedBy, List.append_assoc]
  rfl

/-! ### Deeds of different clients -/

/-- A deed changes the record of its client alone. -/
theorem client?_on (d : Deed) (a : ClientId) (s : Server σ) (x : ClientId) :
    (d.on a s).client? x = if x = a then (s.client? x).map d.record else s.client? x :=
  client?_of_map (f := d.record) (fun _ => rfl) rfl x

/-- A deed makes no tty and takes none away. -/
theorem live_on (d : Deed) (a : ClientId) (s : Server σ) (tty : TtyId) :
    (d.on a s).tree.live tty = s.tree.live tty := by
  show (d.pointed s.tree).live tty = s.tree.live tty
  unfold pointed
  split
  · rfl
  · exact TtyTree.live_adjust ..

/-- Focus is set in different ttys. -/
def Apart (d e : Deed) : Prop :=
  ∀ tty k m, d.focus = some (tty, k) → e.focus ≠ some (tty, m)

/-- Two deeds that set the focus of different ttys may set it in either order. -/
theorem pointed_comm (h : d.Apart e) (t : TtyTree ClientId) :
    e.pointed (d.pointed t) = d.pointed (e.pointed t) := by
  unfold pointed
  cases hd : d.focus with
  | none => cases e.focus <;> rfl
  | some f =>
    cases he : e.focus with
    | none => rfl
    | some g =>
      refine TtyTree.adjust_comm t (fun hsame => ?_) _ _ _ _
      exact h f.1 f.2 g.2 hd (by rw [he, hsame])

/-- Two clients' records may change in either order. -/
theorem modifyClient_comm (hab : a ≠ b) (d e : Deed) (s : Server σ) :
    ((s.modifyClient a d.record).modifyClient b e.record).clients =
      ((s.modifyClient b e.record).modifyClient a d.record).clients := by
  simp only [modifyClient, List.map_map]
  refine List.map_congr_left fun c _ => ?_
  by_cases ha : c.id = a
  · simp [record, ha, hab]
  · by_cases hb : c.id = b <;> simp [record, ha, hb, hab.symm]

/-- What different clients do can be done in either order. -/
theorem on_comm (hab : a ≠ b) (h : d.Apart e) (s : Server σ) :
    (e.on b (d.on a s)).settled = (d.on a (e.on b s)).settled := by
  have hclients := modifyClient_comm hab d e s
  have htree := pointed_comm h s.tree
  simp only [on, settled, modifyClient] at hclients ⊢
  rw [hclients, htree]

/-- The packets of a deed for one client. -/
def replies (d : Deed) (x : ClientId) : List Packet :=
  ((packetsIn d.effects).filter fun q => decide (q.1 = x)).map (·.2)

/-- A deed queues its replies and nothing else. -/
theorem outbox_on (d : Deed) (a : ClientId) (s : Server σ) (x : ClientId) :
    (d.on a s).outbox x = s.outbox x ++ d.replies x := by
  have hpackets : (d.on a s).packets = s.packets ++ packetsIn d.effects := List.filterMap_append
  rw [outbox, hpackets, List.filter_append, List.map_append]
  rfl

end Deed

/-! ### Requests that do the same -/

/-- Nothing that such requests read has changed, but for what clients hold. -/
structure Akin (s t : Server σ) : Prop where
  info : t.info = s.info
  rawHolder : t.rawHolder = s.rawHolder
  live : ∀ tty, t.tree.live tty = s.tree.live tty

namespace Akin

/-- A state is akin to itself. -/
theorem refl (s : Server σ) : Akin s s :=
  ⟨rfl, rfl, fun _ => rfl⟩

/-- Deeds change nothing of that. -/
theorem on (s : Server σ) (d : Deed) (a : ClientId) : Akin s (d.on a s) :=
  ⟨rfl, rfl, d.live_on a s⟩

/-- In states that are akin the same client has the device. -/
theorem isRaw_eq (h : Akin s t) (x : ClientId) : t.isRaw x = s.isRaw x := by
  rw [isRaw, isRaw, h.rawHolder]

end Akin

/-- In all states that are akin a request of a client comes to the same deed and the same refusal.
It may set the focus of one tty. -/
def ActsAlike (s : Server σ) (c : Client) (own : Option TtyId) (f : Server σ → Outcome σ) : Prop :=
  ∃ d r, (∀ t, Akin s t → f t = ⟨Deed.on d c.id t, r⟩) ∧
    ∀ tty number, d.focus = some (tty, number) → own = some tty

namespace ActsAlike

variable {f g : Server σ → Outcome σ} {own : Option TtyId}

/-- What does the same in states that are akin acts alike. -/
theorem congr (h : ActsAlike s c own g) (hfg : ∀ t, Akin s t → f t = g t) :
    ActsAlike s c own f := by
  obtain ⟨d, r, hd, hown⟩ := h
  exact ⟨d, r, fun t ht => (hfg t ht).trans (hd t ht), hown⟩

/-- A request that does a deed by which no focus is set. -/
theorem of_deed {d : Deed} {r : Option Refusal} (hnone : d.focus = none)
    (h : ∀ t, Akin s t → f t = ⟨d.on c.id t, r⟩) : ActsAlike s c own f := by
  refine ⟨d, r, h, ?_⟩
  intro tty number hf
  rw [hnone] at hf
  cases hf

/-- A refusal does nothing. -/
theorem of_refusal (s : Server σ) (c : Client) (r : Refusal) :
    ActsAlike s c own fun t => ⟨t, some r⟩ := by
  apply of_deed (d := .nothing) rfl
  intro t _
  rw [Deed.nothing_on]

/-- A client is sent an answer. -/
theorem of_send (s : Server σ) (c : Client) (answer : Packet) :
    ActsAlike s c own fun t => (t.send c.id answer).done := by
  apply of_deed (d := Deed.nothing.followedBy [.packet c.id answer]) rfl
  intro t _
  rw [Deed.followedBy_on, Deed.nothing_on]
  rfl

/-- A client is given another holding. -/
theorem of_setHolding (s : Server σ) (c : Client) (h : Holding) :
    ActsAlike s c own fun t => (t.setHolding c.id (some h)).done := by
  apply of_deed (d := ⟨some h, none, []⟩) rfl
  intro t _
  rw [Deed.holding_on]
  rfl

end ActsAlike

/-! ### The requests in question -/

section requests

variable {own : Option TtyId}

/-- A request for facts acts alike. -/
theorem tell_acts (s : Server σ) (c : Client) (payload : Octets) (answer : DriverInfo → Packet) :
    ActsAlike s c own fun t => t.tell c payload (answer t.info) := by
  by_cases hp : payload ≠ []
  · exact (ActsAlike.of_refusal s c (.request .invalidPacket)).congr fun t _ => if_pos hp
  · by_cases hraw : s.isRaw c.id = true
    · apply (ActsAlike.of_refusal s c (.request .illegalInstruction)).congr
      intro t ht
      rw [tell, if_neg hp, ht.isRaw_eq, if_pos hraw]
      rfl
    · apply (ActsAlike.of_send s c (answer s.info)).congr
      intro t ht
      rw [tell, if_neg hp, ht.isRaw_eq, if_neg hraw, ht.info]

/-- Whether the client has the device and what it holds is the same in states that are akin. -/
theorem withHolding_acts {f : Server σ → Holding → Outcome σ}
    (hf : ∀ h, c.holding = some h → ActsAlike s c own fun t => f t h) :
    ActsAlike s c own fun t => t.withHolding c (f t) := by
  by_cases hraw : s.isRaw c.id = true
  · apply (ActsAlike.of_refusal s c (.request .illegalInstruction)).congr
    intro t ht
    rw [withHolding, ht.isRaw_eq, if_pos hraw]
    rfl
  · cases hh : c.holding with
    | none =>
      apply (ActsAlike.of_refusal s c (.request .illegalInstruction)).congr
      intro t ht
      rw [withHolding, ht.isRaw_eq, if_neg hraw, hh]
      rfl
    | some h =>
      apply (hf h hh).congr
      intro t ht
      rw [withHolding, ht.isRaw_eq, if_neg hraw, hh]

/-- Focus is set in the client's own tty, if it is there. -/
theorem focusChild_acts (s : Server σ) (c : Client) (payload : Octets) :
    ActsAlike s c (c.holding.map (·.tty)) fun t => t.focusChild c payload := by
  apply withHolding_acts
  intro h hh
  cases Request.decodeFocus payload with
  | error e => exact .of_refusal s c (.request e.code)
  | ok number =>
    by_cases hl : s.tree.live h.tty = true
    · refine ⟨⟨none, some (h.tty, number), []⟩, none, ?_, ?_⟩
      · intro t ht
        dsimp only
        rw [Deed.focus_on, TtyTree.setFocus_of_live ((ht.live h.tty).trans hl)]
        rfl
      · intro tty k hf
        cases hf
        rw [hh]
        rfl
    · apply (ActsAlike.of_refusal s c (.tty (.noSuchTty h.tty))).congr
      intro t ht
      dsimp only
      rw [TtyTree.setFocus, ht.live, if_neg hl]
      rfl

/-- A new mask acts alike. -/
theorem putMask_acts (s : Server σ) (c : Client) (h : Holding) (mask : RangeSet) :
    ActsAlike s c own fun t => t.putMask c h mask := by
  apply ActsAlike.of_deed
    (d := Deed.followedBy ⟨some { h with mask }, none, []⟩ [.packet c.id .ack]) rfl
  intro t _
  rw [Deed.followedBy_on, Deed.holding_on]
  rfl

/-- A change of a range of keys acts alike. -/
theorem changeRange_acts (s : Server σ) (c : Client) (payload : Octets) (change : MaskEdit) :
    ActsAlike s c own fun t => t.changeRange c payload change := by
  apply withHolding_acts
  intro h _
  cases Request.decodeRange payload with
  | error e => exact .of_refusal s c (.request e.code)
  | ok bounds =>
    cases hm : change.onRange h.mask bounds.1 bounds.2 with
    | error e =>
      apply (ActsAlike.of_refusal s c (.request .invalidParameter)).congr
      intro t _
      simp only [hm]
      rfl
    | ok mask =>
      apply (putMask_acts s c h mask).congr
      intro t _
      simp only [hm]

/-- A change of a set of keys acts alike. -/
theorem changeSet_acts (s : Server σ) (c : Client) (payload : Octets) (change : MaskEdit) :
    ActsAlike s c own fun t => t.changeSet c payload change := by
  apply withHolding_acts
  intro h _
  cases Request.decodeKeys payload with
  | error e => exact .of_refusal s c (.request e.code)
  | ok keys => exact putMask_acts s c h (keys.foldl change.onValue h.mask)

/-- A request to write acts alike. -/
theorem write_acts (s : Server σ) (c : Client) (payload : Octets) :
    ActsAlike s c own fun t => t.write c payload := by
  by_cases hp : payload.length < 4
  · exact (ActsAlike.of_refusal s c (.request .invalidPacket)).congr fun t _ => if_pos hp
  · refine ActsAlike.congr ?_ fun t _ => if_neg hp
    apply withHolding_acts
    intro h _
    cases hd : Request.decodeWindow s.info.size.cells payload with
    | error e =>
      apply (ActsAlike.of_refusal s c (.request e.code)).congr
      intro t ht
      simp only [ht.info, hd]
      rfl
    | ok w =>
      cases w with
      | clear =>
        apply (ActsAlike.of_setHolding s c { h with freshness := .empty }).congr
        intro t ht
        simp only [ht.info, hd]
      | update u =>
        apply (ActsAlike.of_setHolding s c
          { h with window := h.window.apply u, freshness := .pending }).congr
        intro t ht
        simp only [ht.info, hd]

end requests

/-- The tty in which a request may set the focus. -/
def ownFocus (c : Client) (p : Packet) : Option TtyId :=
  if p.kind? = some .setFocus then c.holding.map (·.tty) else none

section driver

variable [Driver σ]

/-- Every request of an independent kind acts alike, but for the focus of the tty that it may
set. -/
theorem carryOut_acts (s : Server σ) (c : Client) {k : PacketKind} (hk : p.kind? = some k)
    (hind : k.independent = true) : ActsAlike s c (ownFocus c p) fun t => t.carryOut c p := by
  cases k with
  | getDriverId =>
    refine (tell_acts s c p.payload fun info => .driverText .getDriverId info.code).congr ?_
    exact fun t _ => by simp only [carryOut, hk]
  | getDriverName =>
    refine (tell_acts s c p.payload fun info => .driverText .getDriverName info.name).congr ?_
    exact fun t _ => by simp only [carryOut, hk]
  | getDisplaySize =>
    refine (tell_acts s c p.payload fun info =>
      .displaySize info.size.columns info.size.rows).congr ?_
    exact fun t _ => by simp only [carryOut, hk]
  | setFocus =>
    rw [ownFocus, if_pos hk]
    exact (focusChild_acts s c p.payload).congr fun t _ => by simp only [carryOut, hk]
  | ignoreKeyRange =>
    exact (changeRange_acts s c p.payload .ignore).congr fun t _ => by simp only [carryOut, hk]
  | unignoreKeyRange =>
    exact (changeRange_acts s c p.payload .unignore).congr fun t _ => by simp only [carryOut, hk]
  | ignoreKeySet =>
    exact (changeSet_acts s c p.payload .ignore).congr fun t _ => by simp only [carryOut, hk]
  | unignoreKeySet =>
    exact (changeSet_acts s c p.payload .unignore).congr fun t _ => by simp only [carryOut, hk]
  | write =>
    exact (write_acts s c p.payload).congr fun t _ => by simp only [carryOut, hk]
  | _ => cases hind

/-- A request that is refused is reported, which is a deed of its own. -/
theorem answer_acts (s : Server σ) (c : Client) {k : PacketKind} (hk : p.kind? = some k)
    (hind : k.independent = true) : ∃ d : Deed, (∀ t, Akin s t → t.answer c p = d.on c.id t) ∧
      ∀ tty number, d.focus = some (tty, number) → ownFocus c p = some tty := by
  obtain ⟨d, r, hd, hown⟩ := carryOut_acts s c hk hind
  cases r with
  | none => exact ⟨d, fun t ht => answer_of_none (hd t ht), hown⟩
  | some r =>
    refine ⟨d.followedBy [.notice (.requestFailed c.id p.type r.code (.ofKind p.kind?)),
      .packet c.id ((ReplyStyle.ofKind p.kind?).report r.code p)], fun t ht => ?_, hown⟩
    rw [answer_eq_of_refusal (hd t ht), Deed.followedBy_on]
    simp only [note, send, emit, List.append_assoc]
    rfl

/-! ### Main result -/

/-- Two requests may be handled in either order. -/
structure Commute (s : Server σ) (a : ClientId) (p : Packet) (b : ClientId) (q : Packet) :
    Prop where
  /-- Both orders lead to the same state, but for the order of what is to be sent and logged. -/
  state : ((s.step (.frame a (.packet p))).step (.frame b (.packet q))).settled =
    ((s.step (.frame b (.packet q))).step (.frame a (.packet p))).settled
  /-- What waits for each client is the same. -/
  replies : ∀ x, ((s.step (.frame a (.packet p))).step (.frame b (.packet q))).outbox x =
    ((s.step (.frame b (.packet q))).step (.frame a (.packet p))).outbox x
  /-- Each request brings forth what it does without the other. -/
  first : (s.step (.frame b (.packet q))).added (.frame a (.packet p)) =
    s.added (.frame a (.packet p))
  second : (s.step (.frame a (.packet p))).added (.frame b (.packet q)) =
    s.added (.frame b (.packet q))

/-- What such a request does at present it does in every state that is akin. -/
theorem exists_deed (hl : s.isLoggedIn a = true) {k : PacketKind} (hk : p.kind? = some k)
    (hind : k.independent = true) : ∃ d : Deed,
      (∀ t, Akin s t → t.client? a = s.client? a → t.step (.frame a (.packet p)) = d.on a t) ∧
      ∀ tty number, d.focus = some (tty, number) → k = .setFocus ∧ s.tty? a = some tty := by
  obtain ⟨c, hc, rfl, -⟩ := step_frame_of_isLoggedIn hl p
  obtain ⟨d, hd, hown⟩ := answer_acts s c hk hind
  refine ⟨d, fun t ht hsame => ?_, fun tty number hf => ?_⟩
  · have hlt : t.isLoggedIn c.id = true := by rwa [isLoggedIn, hsame]
    obtain ⟨c', hc', hid, hstep⟩ := step_frame_of_isLoggedIn hlt p
    rw [hid, hsame, hc] at hc'
    rw [hstep, ← Option.some.inj hc', hd t ht]
  · have htty := hown tty number hf
    rw [ownFocus, hk] at htty
    split at htty
    · rename_i hfocus
      refine ⟨Option.some.inj hfocus, ?_⟩
      rw [tty?, holding?, hc, Option.bind_some]
      exact htty
    · cases htty

/-- In every reachable state, of two requests from different clients of which each reads and changes
what its own client has, either may be handled first, unless both set the focus of one tty. -/
theorem independent_requests_commute (h : s.Reachable) (hla : s.isLoggedIn a = true)
    (hlb : s.isLoggedIn b = true) (hab : a ≠ b) {k m : PacketKind} (hk : p.kind? = some k)
    (hp : k.independent = true) (hm : q.kind? = some m) (hq : m.independent = true)
    (hfocus : k = .setFocus → m = .setFocus → ∀ tty, s.tty? a = some tty → s.tty? b ≠ some tty) :
    s.Commute a p b q := by
  obtain ⟨given, h⟩ := h
  have hs := h.consistent
  obtain ⟨d, hd, hdfocus⟩ := exists_deed hla hk hp
  obtain ⟨e, he, hefocus⟩ := exists_deed hlb hm hq
  have hapart : d.Apart e := by
    intro tty number number' hdtty hetty
    obtain ⟨hset, hta⟩ := hdfocus tty number hdtty
    obtain ⟨hset', htb⟩ := hefocus tty number' hetty
    exact hfocus hset hset' tty hta htb
  have hfirst := hd s (.refl s) rfl
  have hsecond := he s (.refl s) rfl
  have hboth : (s.step (.frame a (.packet p))).step (.frame b (.packet q)) = e.on b (d.on a s) := by
    rw [hfirst]
    exact he _ (.on s d a) ((d.client?_on a s b).trans (if_neg hab.symm))
  have hother : (s.step (.frame b (.packet q))).step (.frame a (.packet p)) =
      d.on a (e.on b s) := by
    rw [hsecond]
    exact hd _ (.on s e b) ((e.client?_on b s a).trans (if_neg hab))
  constructor
  · rw [hboth, hother]
    exact Deed.on_comm hab hapart s
  · intro x
    rw [hboth, hother]
    simp only [Deed.outbox_on, List.append_assoc]
    -- at least one of the two requests is not from the client in question, and sends it nothing
    by_cases hx : x = a
    · have hnone := (step_confined hs.tree (.frame (.packet q))).outbox_eq (hx.trans_ne hab)
      rw [hsecond, Deed.outbox_on, List.append_right_eq_self] at hnone
      rw [hnone, List.nil_append, List.append_nil]
    · have hnone := (step_confined hs.tree (.frame (.packet p))).outbox_eq hx
      rw [hfirst, Deed.outbox_on, List.append_right_eq_self] at hnone
      rw [hnone, List.nil_append, List.append_nil]
  · have hadded : s.added (.frame a (.packet p)) = d.effects := added_eq (by rw [hfirst]; rfl)
    rw [hadded]
    exact added_eq (by rw [hother, hsecond]; rfl)
  · have hadded : s.added (.frame b (.packet q)) = e.effects := added_eq (by rw [hsecond]; rfl)
    rw [hadded]
    exact added_eq (by rw [hboth, hfirst]; rfl)

end driver

/-- The first client of the rehearsal gives focus to another child of its tty, and the second one,
which sits inside that tty, to a child of its own. -/
theorem independent_requests_commute_rehearsed :
    rehearsed.Reachable ∧ rehearsed.tty? ⟨1⟩ = some ⟨2⟩ ∧ rehearsed.tty? ⟨2⟩ = some ⟨3⟩ ∧
      rehearsed.Commute ⟨1⟩ (.ofKind .setFocus (Request.encodeFocus 6))
        ⟨2⟩ (.ofKind .setFocus (Request.encodeFocus 1)) := by
  have hreach : rehearsed.Reachable := ⟨_, rehearsed_reachable⟩
  have hfirst : rehearsed.tty? ⟨1⟩ = some ⟨2⟩ := by decide
  have hsecond : rehearsed.tty? ⟨2⟩ = some ⟨3⟩ := by decide
  refine ⟨hreach, hfirst, hsecond, ?_⟩
  refine independent_requests_commute hreach (by decide) (by decide) (by decide)
    (Packet.kind?_ofKind ..) rfl (Packet.kind?_ofKind ..) rfl fun _ _ tty htty => ?_
  rw [hfirst] at htty
  rw [hsecond, ← htty]
  decide

end Server

end BrailleShare
