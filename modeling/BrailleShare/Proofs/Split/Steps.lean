import BrailleShare.Proofs.Server.Agreement
import BrailleShare.Proofs.Server.KeyEvents
import BrailleShare.Proofs.Server.Roster
import BrailleShare.Proofs.Server.Screen
import BrailleShare.Proofs.Split.Stores

/-!
# Events on separate stores

Every event keeps the stores of a server in agreement, and does to them what it does to the state
that they amount to.

Main statements: each function does what its namesake does (`Matches.accept`, `Matches.disconnect`,
`Matches.carryOut`, `Matches.cycle` and so on), so an event does (`Matches.step`), and so does a
history (`Matches.run`); the reachable states are the same (`Reachable.faithful`, `exists_split`).
-/

namespace BrailleShare.SplitServer

variable {σ α : Type} {d : SplitServer σ} {s : Server σ} {r : Registration} {id : ClientId}

/-! ### Coming and going -/

/-- A connection is put into both. -/
theorem Matches.arrive (h : Matches d s) (peer : String) (now : Nat) :
    Matches
      { common := { d.common with
          nextId := d.common.nextId + 1
          tree := d.common.tree.seat TtyTree.lobby ⟨d.common.nextId⟩
          waiting := d.common.waiting + 1 }
        records := d.records ++ [⟨⟨d.common.nextId⟩, peer, now, false, none, .commands⟩]
        handle := Function.update d.handle ⟨d.common.nextId⟩ .fresh }
      { s with
        nextId := s.nextId + 1
        tree := s.tree.seat TtyTree.lobby ⟨s.nextId⟩
        clients := s.clients ++ [(⟨⟨s.nextId⟩, peer, now, false, none⟩ : Client)]
        waiting := s.waiting + 1 } := by
  obtain ⟨ht, rfl⟩ := h
  have hother : ∀ q ∈ d.records, q.id ≠ ⟨d.common.nextId⟩ := fun q hq he =>
    Nat.lt_irrefl _ (he ▸ ht.below q hq)
  have hnew : d.record? ⟨d.common.nextId⟩ = none :=
    List.find?_eq_none.2 fun q hq => by simpa using hother q hq
  have hnew : d.records.find? (fun q => q.id == ⟨d.common.nextId⟩) = none := hnew
  refine ⟨⟨ht.alone, ?_, ?_, ?_, ?_⟩, ?_⟩
  · intro q hq
    rcases List.mem_append.1 hq with hq | hq
    · simp [record?, List.find?_append, show d.records.find? (fun p => p.id == q.id) = some q from
        ht.known q hq]
    · obtain rfl := List.mem_singleton.1 hq
      simp [record?, List.find?_append, hnew]
  · intro q hq
    rcases List.mem_append.1 hq with hq | hq
    · exact Nat.lt_succ_of_lt (ht.below q hq)
    · obtain rfl := List.mem_singleton.1 hq
      exact Nat.lt_succ_self _
  · intro q hq
    rcases List.mem_append.1 hq with hq | hq
    · simpa [hother q hq] using ht.suits q hq
    · obtain rfl := List.mem_singleton.1 hq
      simpa using ⟨rfl, rfl, fun _ => ⟨rfl, rfl⟩⟩
  · intro x hx
    simp only [record?, List.find?_append, Option.or_eq_none_iff] at hx
    have hid : x ≠ ⟨d.common.nextId⟩ := by
      rintro rfl
      simp at hx
    simpa [hid] using ht.closed x hx.1
  · simp only [SplitServer.server, List.map_append]
    congr 2
    refine List.map_congr_left fun q hq => ?_
    simp [client, hother q hq]

/-- A connection is let in or turned away on both sides. -/
theorem Matches.accept (h : Matches d s) (peer : String) (now : Nat) :
    Agrees (d.accept peer now) (s.accept peer now) := by
  unfold SplitServer.accept Server.accept
  by_cases hclosed : d.common.closed = true
  · rw [if_pos hclosed, if_pos (h.closed.trans hclosed)]
    exact ⟨rfl, h⟩
  have hclosed' : ¬ s.closed = true := by rwa [h.closed]
  rw [if_neg hclosed, if_neg hclosed']
  by_cases hfull : d.common.settings.maxWaiting ≤ d.common.waiting
  · have hfull' : s.settings.maxWaiting ≤ s.waiting := by rwa [h.settings, h.waiting]
    rw [if_pos hfull, if_pos hfull', h.settings, h.refusalNoted]
    refine ⟨rfl, ?_⟩
    by_cases hnoted : d.common.refusalNoted = true
    · simpa only [if_pos hnoted] using h
    · simp only [if_neg hnoted]
      exact h.onCommon ⟨fun _ _ => rfl, fun _ => rfl⟩
  · have hfull' : ¬ s.settings.maxWaiting ≤ s.waiting := by rwa [h.settings, h.waiting]
    rw [if_neg hfull, if_neg hfull']
    have harrive := (h.arrive peer now).note (.accepted ⟨d.common.nextId⟩ peer)
    rw [h.nextId] at harrive ⊢
    exact ⟨rfl, harrive⟩

/-- Striking a connection off takes its entry and what is in its name beside the tree. -/
theorem strikeOff_eq (d : SplitServer σ) (r : Registration) : d.strikeOff r =
    { d with
      common := { d.common with
        waiting := if r.loggedIn then d.common.waiting else d.common.waiting - 1
        refusalNoted :=
          if r.loggedIn ∨ d.common.settings.maxWaiting ≤ d.common.waiting - 1 then
            d.common.refusalNoted
          else false
        rawHolder := if d.common.rawHolder = some r.id then none else d.common.rawHolder
        lastShown := if d.common.lastShown = some r.id then none else d.common.lastShown }
      records := d.records.filter fun q => q.id != r.id } := by
  simp only [strikeOff, onCommon, isRaw, Server.forgetShown_eq, Server.isRaw,
    Server.releaseWaiting, beq_iff_eq]
  by_cases hl : r.loggedIn <;> by_cases hr : d.common.rawHolder = some r.id <;>
    by_cases hw : d.common.settings.maxWaiting ≤ d.common.waiting - 1 <;> simp [hl, hr, hw]

/-- A connection is taken out of both lists, and its handle is closed. -/
theorem Matches.strikeOff (h : Matches d s) (r : Registration) :
    Matches ((d.strikeOff r).close r.id) (s.strikeOff (d.client r)) := by
  obtain ⟨ht, rfl⟩ := h
  have hrecord : ∀ x, (d.records.filter fun q => q.id != r.id).find? (fun q => q.id == x) =
      if x = r.id then none else d.record? x := by
    intro x
    simp only [record?, List.find?_filter]
    split
    · exact List.find?_eq_none.2 fun q _ => by simp [*]
    · congr 1
      funext q
      by_cases hq : q.id = x <;> simp [*]
  have hmem : ∀ q ∈ d.records.filter fun q => q.id != r.id, q ∈ d.records ∧ q.id ≠ r.id :=
    fun q hq => by simpa using List.mem_filter.1 hq
  rw [strikeOff_eq, Server.strikeOff_eq]
  refine ⟨⟨ht.alone, fun q hq => ?_, fun q hq => ht.below q (hmem q hq).1, fun q hq => ?_,
    fun x hx => ?_⟩, ?_⟩
  · have hq := hmem q hq
    exact (hrecord q.id).trans ((if_neg hq.2).trans (ht.known q hq.1))
  · have hq := hmem q hq
    simpa [close, modifyHandle, hq.2] using ht.suits q hq.1
  · have hx := (hrecord x).symm.trans hx
    by_cases hid : x = r.id
    · simp [close, modifyHandle, hid]
    · simpa [close, modifyHandle, hid] using ht.closed x (by simpa [hid] using hx)
  · simp only [SplitServer.server, close, modifyHandle, List.filter_map]
    congr 1
    refine List.map_congr_left fun q hq => ?_
    simp [client, (hmem q hq).2]

/-- A client gives up its seat on both sides. -/
theorem Matches.unseat (h : Matches d s) {r : Registration} {c : Client} (hid : c.id = r.id)
    (htty : c.holding.map (·.tty) = r.tty) : Matches (d.unseat r) (s.unseat c) := by
  unfold SplitServer.unseat Server.unseat
  cases hh : c.holding with
  | none =>
    simp only [hh, Option.map_none] at htty
    rw [← htty, hid]
    exact h.onCommon (aloof_tree fun t => t.detach TtyTree.lobby r.id)
  | some held =>
    simp only [hh, Option.map_some] at htty
    rw [← htty, hid]
    have hdetach : Aloof fun s : Server σ => { s with tree := s.tree.detach held.tty r.id } :=
      aloof_tree fun t => t.detach held.tty r.id
    obtain ⟨hfreed, hstate⟩ := h.through
      (f := fun s =>
        ((({ s with tree := s.tree.detach held.tty r.id } : Server σ).clearTty held.tty).2,
          (({ s with tree := s.tree.detach held.tty r.id } : Server σ).clearTty held.tty).1))
      ((aloof_clearTty held.tty).comp hdetach) (fun _ _ => rfl)
    simp only at hfreed ⊢
    rw [hfreed]
    exact hstate.note _

section driver

variable [Driver σ]

/-- A connection ends on both sides. -/
theorem Matches.disconnect (h : Matches d s) (id : ClientId) :
    Matches (d.disconnect id) (s.disconnect id) := by
  unfold SplitServer.disconnect Server.disconnect
  rw [h.client? id, h.isRaw]
  cases hr : d.record? id with
  | none => exact h
  | some r =>
    obtain rfl := id_of_record? hr
    have htty : (d.client r).holding.map (·.tty) = r.tty := by
      rcases h.tidy.holding_client hr with ⟨htty, hh⟩ | ⟨tty, w, htty, -, hh⟩ <;> simp [hh, htty]
    have hgone : Matches ((((d.strikeOff r).unseat r).close r.id).note (.disconnected r.id r.peer))
        (((s.strikeOff (d.client r)).unseat (d.client r)).note
          (.disconnected r.id (d.client r).peer)) := by
      -- closing the handle does not depend on what becomes of the tree
      have hswap : ((d.strikeOff r).unseat r).close r.id =
          ((d.strikeOff r).close r.id).unseat r := by
        unfold SplitServer.unseat
        cases r.tty <;> rfl
      rw [hswap]
      exact ((h.strikeOff r).unseat rfl htty).note _
    simp only [Option.map_some]
    by_cases hraw : d.isRaw r.id = true
    · simpa only [if_pos hraw] using (hgone.note _).onCommon aloof_resetDevice
    · simpa only [if_neg hraw] using hgone

omit [Driver σ] in
/-- Ending several connections, each with something before, matches if each end does. -/
theorem Matches.foldl {ι κ : Type} {f : SplitServer σ → ι → SplitServer σ}
    {g : Server σ → κ → Server σ} {m : ι → κ} (hfg : ∀ {d s}, Matches d s → ∀ i,
      Matches (f d i) (g s (m i))) (h : Matches d s) (is : List ι) :
    Matches (is.foldl f d) ((is.map m).foldl g s) := by
  induction is generalizing d s with
  | nil => exact h
  | cons i is ih => exact ih (hfg h i)

/-- The same connections are late, and they end on both sides. -/
theorem Matches.expire (h : Matches d s) (now : Nat) :
    Agrees (d.expire now) (s.expire now) := by
  have hlate :
      s.clients.filter (s.overdue now) = (d.records.filter (d.overdue now)).map d.client := by
    rw [h.clients, List.filter_map]
    congr 1
    refine List.filter_congr fun r _ => ?_
    simp [Server.overdue, SplitServer.overdue, h.settings, client, Registration.client]
  unfold SplitServer.expire Server.expire
  rw [hlate]
  refine ⟨(List.length_map _).symm, ?_⟩
  exact h.foldl (fun h r => (h.note _).disconnect r.id) _

/-- The regular look after the connections comes to the same. -/
theorem Matches.maintain (h : Matches d s) (now : Nat) :
    Matches (d.maintain now) (s.maintain now) := by
  obtain ⟨hnumber, hstate⟩ := h.expire now
  unfold SplitServer.maintain Server.maintain
  simp only [hnumber]
  split
  · exact hstate.note _
  · exact hstate

omit [Driver σ] in
/-- The door is closed on both sides. -/
theorem Matches.closeDoor (h : Matches d s) : Matches d.closeDoor
    (({ s with closed := true } : Server σ).note (.closingAll s.clients.length)) := by
  have hlength : s.clients.length = d.records.length := by rw [h.clients, List.length_map]
  rw [hlength]
  exact (h.onCommon (f := fun s => { s with closed := true }) ⟨fun _ _ => rfl, fun _ => rfl⟩).note _

/-- The server closes on both sides. -/
theorem Matches.shutdown (h : Matches d s) : Matches d.shutdown s.shutdown := by
  unfold SplitServer.shutdown Server.shutdown
  rw [h.clients]
  have hend := h.closeDoor.foldl (f := fun d r => d.disconnect r.id)
    (g := fun s c => s.disconnect c.id) (m := d.client) (fun h r => h.disconnect r.id) d.records
  rwa [h.clients] at hend

end driver

/-! ### Logging in -/

/-- A client that is turned away is told the same. -/
theorem Matches.turnAway (h : Matches d s) (hopen : (d.handle id).isOpen = true)
    (code : ErrorCode) (n : Notice) : Agrees (d.turnAway id code n) (s.turnAway id code n) :=
  ⟨rfl, (h.note n).send hopen _⟩

/-- A login is taken or refused on both sides. -/
theorem Matches.logIn (h : Matches d s) (hr : d.record? r.id = some r) (p : Packet) :
    Agrees (d.logIn r.id p) (s.logIn r.id p) := by
  have hsuits := h.tidy.suits_of_record? hr
  unfold SplitServer.logIn Server.logIn
  rw [h.settings]
  split
  · exact h.turnAway hsuits.isOpen _ _
  cases Request.decodeLogin p.payload with
  | error e => exact h.turnAway hsuits.isOpen _ _
  | ok login =>
    simp only
    split
    · exact h.turnAway hsuits.isOpen _ _
    split
    · exact h.turnAway hsuits.isOpen _ _
    · have hshown := h.revise hr (f := fun q => { q with loggedIn := true }) (g := fun x => x)
        (F := fun c => { c with loggedIn := true }) (fun _ hq => hq)
        ⟨hsuits.isOpen, hsuits.window, hsuits.bare⟩ rfl
      have hself : ∀ e : SplitServer σ, e.modifyHandle r.id (fun x => x) = e := fun e => by
        simp [modifyHandle]
      rw [hself] at hshown
      exact ⟨rfl, ((hshown.onCommon aloof_releaseWaiting).note _).send hsuits.isOpen _⟩

/-! ### Requests -/

/-- What came of a request, as a pair. -/
def outcome (o : Server.Outcome σ) : Option Server.Refusal × Server σ :=
  (o.refusal, o.server)

/-- A request without an answer comes to the same. -/
theorem Matches.done (h : Matches d s) : Agrees d.done (outcome s.done) :=
  ⟨rfl, h⟩

/-- A refusal is the same. -/
theorem Matches.refuse (h : Matches d s) (code : ErrorCode) :
    Agrees (d.refuse code) (outcome (s.refuse code)) :=
  ⟨rfl, h⟩

/-- A refusal because of a tty is the same. -/
theorem Matches.refuseTty (h : Matches d s) (e : TtyError) :
    Agrees (d.refuseTty e) (outcome (s.refuseTty e)) :=
  ⟨rfl, h⟩

/-- An acknowledgement goes out on both sides. -/
theorem Matches.acknowledge (h : Matches d s) (hopen : (d.handle id).isOpen = true) :
    Agrees (d.acknowledge id) (outcome (s.acknowledge id)) :=
  (h.send hopen .ack).done

section requests

variable (h : Matches d s) (hr : d.record? r.id = some r) (payload : Octets)

include h hr

/-- A request for facts is answered with the same packet. -/
theorem Matches.tell (answer : Packet) :
    Agrees (d.tell r payload answer) (outcome (s.tell (d.client r) payload answer)) := by
  unfold SplitServer.tell Server.tell
  split
  · exact h.refuse _
  rw [show (d.client r).id = r.id from rfl, h.isRaw]
  split
  · exact h.refuse _
  · exact (h.send (h.tidy.suits_of_record? hr).isOpen answer).done

/-- What depends on the tty of a client comes to the same if it does so for a client that has
one. -/
theorem Matches.withTty {f : TtyId → Outcome σ} {g : Holding → Server.Outcome σ}
    (hfg : ∀ tty w, r.tty = some tty → (d.handle r.id).window = some w →
      Agrees (f tty)
        (outcome (g ⟨tty, r.mode, (d.handle r.id).mask, w, (d.handle r.id).freshness⟩))) :
    Agrees (d.withTty r f) (outcome (s.withHolding (d.client r) g)) := by
  unfold SplitServer.withTty Server.withHolding
  rw [show (d.client r).id = r.id from rfl, h.isRaw]
  split
  · exact h.refuse _
  rcases h.tidy.holding_client hr with ⟨htty, hh⟩ | ⟨tty, w, htty, hw, hh⟩
  · simpa only [htty, hh] using h.refuse _
  · simpa only [htty, hh] using hfg tty w htty hw

/-- A client is seated on both sides, and its stores are filled one after the other. -/
theorem Matches.seatClient (tty : TtyId) (path : List UInt32) (mode : KeyMode) :
    Agrees (d.seatClient r tty path mode) (outcome (s.seatClient (d.client r) tty path mode)) := by
  have hopen := (h.tidy.suits_of_record? hr).isOpen
  unfold SplitServer.seatClient Server.seatClient
  rw [show (d.client r).id = r.id from rfl, h.tree]
  cases d.common.tree.move r.id TtyTree.lobby tty with
  | error e => exact (h.onCommon (aloof_clearTty tty)).refuseTty e
  | ok tree =>
    obtain rfl := h.server
    simp only [modifyHandle_modifyHandle]
    let blank := Window.blank d.common.info.size.cells
    have hseated := (h.onCommon (aloof_tree fun _ => tree)).revise (r := r) hr
      (f := ({ · with tty := some tty, mode }))
      (g := ({ · with mask := mode.defaultMask, window := some blank, freshness := .empty }))
      (F := ({ · with holding := some ⟨tty, mode, mode.defaultMask, blank, .empty⟩ }))
      (fun _ hq => hq) ⟨hopen, rfl, fun hnone => nomatch hnone⟩ rfl
    exact (hseated.note (.ttyAcquired r.id path mode)).acknowledge (by simpa using hopen)

/-- A request for a tty comes to the same. -/
theorem Matches.takeTty :
    Agrees (d.takeTty r payload) (outcome (s.takeTty (d.client r) payload)) := by
  obtain rfl := h.server
  unfold SplitServer.takeTty Server.takeTty
  rw [show (d.client r).id = r.id from rfl, h.isRaw]
  split
  · exact h.refuse _
  cases Request.decodeTty payload with
  | error e => exact h.refuse _
  | ok request =>
    simp only [h.info]
    cases KeyMode.ofName? request.mode d.common.info.name d.common.info.keycodes with
    | none => exact h.refuse _
    | some mode =>
      simp only [h.tree]
      rcases h.tidy.holding_client hr with ⟨htty, hh⟩ | ⟨tty, w, htty, -, hh⟩
      · -- a client from the lobby
        simp only [htty, hh]
        cases d.common.tree.lookup request.path with
        | found target => exact h.seatClient hr target request.path mode
        | missing deepest matched =>
          have hmade := h.onCommon ((aloof_noteMade
            (d.common.tree.create deepest (request.path.drop matched)).made).comp
            (aloof_tree fun _ => (d.common.tree.create deepest (request.path.drop matched)).tree))
          simp only
          cases (d.common.tree.create deepest (request.path.drop matched)).result with
          | error e => exact (hmade.note _).refuseTty e
          | ok target => exact hmade.seatClient hr target request.path mode
      · -- a client that holds a tty
        simp only [htty, hh]
        cases d.common.tree.lookup request.path with
        | missing deepest matched => exact h.refuse _
        | found target =>
          have hmode : (d.record? r.id).any (·.mode == mode) = decide (r.mode = mode) := by
            rw [hr]
            rfl
          simp only [hmode, decide_eq_true_eq]
          split
          · exact h.refuse _
          · exact h.refuse _

/-- A change of focus comes to the same. -/
theorem Matches.focusChild :
    Agrees (d.focusChild r payload) (outcome (s.focusChild (d.client r) payload)) := by
  refine h.withTty hr fun tty w htty hw => ?_
  cases Request.decodeFocus payload with
  | error e => exact h.refuse _
  | ok number =>
    simp only [h.tree]
    cases d.common.tree.setFocus tty (some number) with
    | error e => exact h.refuseTty e
    | ok tree => exact (h.onCommon (aloof_tree fun _ => tree)).done

/-- A tty is given back on both sides, and its stores are emptied one after the other. -/
theorem Matches.returnTty :
    Agrees (d.returnTty r) (outcome (s.returnTty (d.client r))) := by
  have hopen := (h.tidy.suits_of_record? hr).isOpen
  obtain rfl := h.server
  refine h.withTty hr fun tty w htty hw => ?_
  rw [show (d.client r).id = r.id from rfl, h.tree]
  cases d.common.tree.move r.id tty TtyTree.lobby with
  | error e => exact h.refuseTty e
  | ok tree =>
    -- the handle may as well be emptied before the tree is cleared
    have hleft := (h.onCommon (aloof_tree fun _ => tree)).revise (r := r) hr
      (f := ({ · with tty := none }))
      (g := ({ · with mask := .empty, window := none, freshness := .empty }))
      (F := ({ · with holding := none }))
      (fun _ hq => hq) ⟨hopen, rfl, fun _ => ⟨rfl, rfl⟩⟩ rfl
    have hcleared := hleft.onCommon (aloof_clearTty tty)
    simp only [modifyHandle_modifyHandle]
    exact ((hcleared.note (.ttyReleased r.id (tree.collect tty).2.length)).onCommon
      (aloof_forgetShown r.id)).acknowledge (by simpa using hopen)

/-- A change of a range of keys comes to the same. -/
theorem Matches.changeRange (change : Server.MaskEdit) : Agrees (d.changeRange r payload change)
    (outcome (s.changeRange (d.client r) payload change)) := by
  have hsuits := h.tidy.suits_of_record? hr
  refine h.withTty hr fun tty w htty hw => ?_
  cases Request.decodeRange payload with
  | error e => exact h.refuse _
  | ok range =>
    simp only
    cases change.onRange (d.handle r.id).mask range.1 range.2 with
    | error e => exact h.refuse _
    | ok mask =>
      have hmask := h.rehold hr (g := ({ · with mask }))
        ⟨hsuits.isOpen, hsuits.window, fun hnone => by simp [htty] at hnone⟩
        (Registration.holding_client htty hw)
      exact hmask.acknowledge (by simpa using hsuits.isOpen)

/-- A change of a set of keys comes to the same. -/
theorem Matches.changeSet (change : Server.MaskEdit) : Agrees (d.changeSet r payload change)
    (outcome (s.changeSet (d.client r) payload change)) := by
  have hsuits := h.tidy.suits_of_record? hr
  refine h.withTty hr fun tty w htty hw => ?_
  cases Request.decodeKeys payload with
  | error e => exact h.refuse _
  | ok keys =>
    have hmask := h.rehold hr (g := fun x => { x with mask := keys.foldl change.onValue x.mask })
      ⟨hsuits.isOpen, hsuits.window, fun hnone => by simp [htty] at hnone⟩
      (Registration.holding_client htty hw)
    exact hmask.acknowledge (by simpa using hsuits.isOpen)

/-- The window of a client that may write is there, so that its absence is never told. -/
theorem Matches.write : Agrees (d.write r payload) (outcome (s.write (d.client r) payload)) := by
  have hsuits := h.tidy.suits_of_record? hr
  unfold SplitServer.write Server.write
  split
  · exact h.refuse _
  refine h.withTty hr fun tty w htty hw => ?_
  rw [h.info]
  cases Request.decodeWindow d.common.info.size.cells payload with
  | error e => exact h.refuse _
  | ok request =>
    cases request with
    | clear =>
      exact (h.rehold hr (g := ({ · with freshness := .empty }))
        ⟨hsuits.isOpen, hsuits.window, fun hnone => by simp [htty] at hnone⟩
        (Registration.holding_client htty hw)).done
    | update u =>
      simp only [hw]
      exact (h.rehold hr (g := ({ · with window := some (w.apply u), freshness := .pending }))
        ⟨hsuits.isOpen, by simp [htty], fun hnone => by simp [htty] at hnone⟩
        (Registration.holding_client htty rfl)).done

/-- A request for the device comes to the same. -/
theorem Matches.takeRaw :
    Agrees (d.takeRaw r payload) (outcome (s.takeRaw (d.client r) payload)) := by
  have hopen := (h.tidy.suits_of_record? hr).isOpen
  obtain rfl := h.server
  unfold SplitServer.takeRaw Server.takeRaw
  rw [show (d.client r).id = r.id from rfl, h.isRaw]
  split
  · exact h.refuse _
  cases Request.decodeRaw payload with
  | error e => exact h.refuse _
  | ok name =>
    simp only [h.info, h.rawHolder]
    split
    · exact h.refuse _
    cases d.common.rawHolder with
    | some owner => exact (h.note _).refuse _
    | none => exact ((h.onCommon (aloof_rawHolder (some r.id))).note _).acknowledge hopen

omit payload in
/-- The device is given back on both sides. -/
theorem Matches.returnRaw :
    Agrees (d.returnRaw r) (outcome (s.returnRaw (d.client r))) := by
  unfold SplitServer.returnRaw Server.returnRaw
  rw [show (d.client r).id = r.id from rfl, h.isRaw]
  split
  · exact ((h.onCommon (aloof_rawHolder none)).note _).acknowledge
      (h.tidy.suits_of_record? hr).isOpen
  · exact h.refuse _

variable [Driver σ]

omit hr in
/-- Octets for the device are handed on on both sides. -/
theorem Matches.passRaw :
    Agrees (d.passRaw r payload) (outcome (s.passRaw (d.client r) payload)) := by
  obtain rfl := h.server
  unfold SplitServer.passRaw Server.passRaw
  rw [show (d.client r).id = r.id from rfl, h.isRaw]
  split
  · have hpassed := h.onCommon
      (aloof_called (.writePacket payload) (Driver.writePacket d.common.driver payload))
    dsimp only [SplitServer.server]
    cases (Driver.writePacket d.common.driver payload).outcome with
    | ok _ => exact hpassed.done
    | error e => exact (hpassed.note _).refuse _
  · exact h.refuse _

omit payload in
/-- Every request does what its namesake does. -/
theorem Matches.carryOut (p : Packet) :
    Agrees (d.carryOut r p) (outcome (s.carryOut (d.client r) p)) := by
  unfold SplitServer.carryOut Server.carryOut
  rw [h.info]
  cases p.kind? with
  | none => exact h.refuse _
  | some kind =>
    cases kind with
    | getDriverId | getDriverName | getDisplaySize => exact h.tell hr _ _
    | getTty => exact h.takeTty hr _
    | setFocus => exact h.focusChild hr _
    | leaveTty => exact h.returnTty hr
    | ignoreKeyRange | unignoreKeyRange => exact h.changeRange hr _ _
    | ignoreKeySet | unignoreKeySet => exact h.changeSet hr _ _
    | write => exact h.write hr _
    | getRaw => exact h.takeRaw hr _
    | leaveRaw => exact h.returnRaw hr
    | packet => exact h.passRaw _
    | _ => exact h.refuse _

end requests

/-! ### Packets -/

section packets

variable [Driver σ]

/-- No request closes a handle: the connections in the list are the same after it. -/
theorem isOpen_carryOut (h : Matches d s) (hr : d.record? r.id = some r) (p : Packet) :
    ((d.carryOut r p).2.handle r.id).isOpen = true := by
  have hstate := (h.carryOut hr p).state
  have hroster := congrArg (Roster.flag? · r.id) (Server.carryOut_seated s (d.client r) p).roster
  simp only [Server.flag?_roster, h.client?, hr, Option.map_some] at hroster
  have hthere := congrArg Option.isSome (hstate.client? r.id)
  have hsome := congrArg Option.isSome hroster
  rw [hstate.tidy.isOpen_eq, ← Option.isSome_map, ← hthere]
  simpa [outcome] using hsome

/-- The answer to any request is the same. -/
theorem Matches.answer (h : Matches d s) (hr : d.record? r.id = some r) (p : Packet) :
    Matches (d.answer r p) (s.answer (d.client r) p) := by
  obtain ⟨hrefusal, hstate⟩ := h.carryOut hr p
  unfold SplitServer.answer Server.answer
  dsimp only [outcome] at hrefusal hstate ⊢
  rw [hrefusal]
  cases (s.carryOut (d.client r) p).refusal with
  | none => exact hstate
  | some e => exact (hstate.note _).send (isOpen_carryOut h hr p) _

/-- Any packet comes to the same. -/
theorem Matches.onPacket (h : Matches d s) (id : ClientId) (p : Packet) :
    Agrees (d.onPacket id p) (s.onPacket id p) := by
  unfold SplitServer.onPacket Server.onPacket
  rw [h.client?]
  cases hr : d.record? id with
  | none => exact ⟨rfl, h⟩
  | some r =>
    obtain rfl := id_of_record? hr
    show Agrees (if r.loggedIn then _ else _) (if r.loggedIn then _ else _)
    split
    · exact ⟨rfl, h.answer hr p⟩
    · exact h.logIn hr p

omit [Driver σ] in
/-- A packet that is too long comes to the same. -/
theorem Matches.onOversized (h : Matches d s) (id : ClientId) (type : UInt32) (size : Nat) :
    Agrees (d.onOversized id type size) (s.onOversized id type size) := by
  unfold SplitServer.onOversized Server.onOversized
  rw [h.client?]
  cases hr : d.record? id with
  | none => exact ⟨rfl, h⟩
  | some r =>
    show Agrees (if r.loggedIn then _ else _) (if r.loggedIn then _ else _)
    split
    · exact ⟨rfl, h.note _⟩
    · exact h.turnAway (h.tidy.suits_of_record? hr).isOpen _ _

/-- Any frame comes to the same. -/
theorem Matches.onFrame (h : Matches d s) (id : ClientId) (f : Frame) :
    Agrees (d.onFrame id f) (s.onFrame id f) := by
  cases f with
  | packet p => exact h.onPacket id p
  | oversized type size => exact h.onOversized id type size

end packets

/-! ### Precedence -/

/-- The tree's focus follows the console on both sides. -/
theorem Matches.syncConsole (h : Matches d s) : Matches d.syncConsole s.syncConsole :=
  h.onCommon aloof_syncConsole

/-- Tests that say the same of either pick the same client. -/
theorem Matches.firstWhere (h : Matches d s) {test : Registration → Bool} {test' : Client → Bool}
    (htest : ∀ id r, d.record? id = some r → test r = test' (d.client r)) (ids : List ClientId) :
    d.firstWhere test ids = s.firstWhere test' ids := by
  unfold SplitServer.firstWhere Server.firstWhere
  congr 1
  funext id
  rw [h.client?]
  cases hr : d.record? id with
  | none => rfl
  | some r => simpa using htest id r hr

/-- The same client is to be shown. -/
theorem Matches.shownClient (h : Matches d s) : d.shownClient = s.shownClient := by
  unfold SplitServer.shownClient Server.shownClient
  rw [h.tree, h.console]
  congr 1
  funext ids
  refine h.firstWhere (fun id r hr => ?_) ids
  obtain rfl := id_of_record? hr
  rcases h.tidy.holding_client hr with ⟨htty, hh⟩ | ⟨tty, w, -, -, hh⟩
  · simp [Client.hasContent, hh, ((h.tidy.suits_of_record? hr).bare htty).1]
  · simp [Client.hasContent, hh]

/-- An empty mask takes no key. -/
theorem accepts_empty (mode : KeyMode) (command : UInt32) (keycode : Option UInt32) :
    mode.accepts .empty command keycode = false := by
  cases mode <;> cases keycode <;> rfl

/-- The same client is to have a key. -/
theorem Matches.keyTaker (h : Matches d s) (command : UInt32) (keycode : Option UInt32) :
    d.keyTaker command keycode = s.keyTaker command keycode := by
  unfold SplitServer.keyTaker Server.keyTaker
  rw [h.tree, h.console]
  congr 1
  funext ids
  refine h.firstWhere (fun id r hr => ?_) ids
  obtain rfl := id_of_record? hr
  rcases h.tidy.holding_client hr with ⟨htty, hh⟩ | ⟨tty, w, -, -, hh⟩
  · simp [Client.accepts, hh, ((h.tidy.suits_of_record? hr).bare htty).2, accepts_empty]
  · simp [Client.accepts, hh]

/-! ### The output cycle -/

section cycle

variable [Driver σ]

/-- A window reaches the driver on both sides. -/
theorem Matches.writeWindow (h : Matches d s) (cells : Octets) :
    Agrees (d.through (·.writeWindow cells)) (s.writeWindow cells) :=
  h.through ⟨fun _ _ => rfl, fun _ => rfl⟩ fun _ _ => rfl

/-- The window of a client with a tty is shown on both sides, or on neither if it is on the
display. -/
theorem Matches.showWindow (h : Matches d s) (hr : d.record? r.id = some r) {tty : TtyId}
    {w : Window} (htty : r.tty = some tty) (hw : (d.handle r.id).window = some w) :
    Agrees (d.showWindow r.id)
      (s.showWindow r.id ⟨tty, r.mode, (d.handle r.id).mask, w, (d.handle r.id).freshness⟩) := by
  have hsuits := h.tidy.suits_of_record? hr
  obtain rfl := h.server
  have hshown := h.onCommon (f := ({ · with lastShown := some r.id }))
    ⟨fun _ _ => rfl, fun _ => rfl⟩
  have hdrawn := hshown.rehold (r := r) hr (g := ({ · with freshness := .displayed }))
    ⟨hsuits.isOpen, hsuits.window, fun hnone => by simp [htty] at hnone⟩
    (Registration.holding_client htty hw)
  unfold SplitServer.showWindow Server.showWindow
  rw [h.lastShown]
  simp only [handle_onCommon, handle_modifyHandle, hw]
  split
  · split
    · exact (hdrawn.note _).writeWindow _
    · exact hdrawn.writeWindow _
  · exact ⟨rfl, hshown⟩

/-- The display is brought up to date on both sides. -/
theorem Matches.updateDisplay (h : Matches d s) : Agrees d.updateDisplay s.updateDisplay := by
  unfold SplitServer.updateDisplay Server.updateDisplay
  rw [h.shownClient]
  cases hid : s.shownClient with
  | none => exact ⟨rfl, h⟩
  | some id =>
    obtain ⟨held, hh, -⟩ := Server.hasContent_of_shownClient hid
    obtain ⟨r, tty, w, hr, htty, hw, rfl⟩ := h.of_holding? hh
    obtain rfl := id_of_record? hr
    simp only [hh]
    exact h.showWindow hr htty hw

omit [Driver σ] in
/-- A key is delivered to the same client, or to none. -/
theorem Matches.deliver (h : Matches d s) (e : Server.KeyEvent) :
    Agrees (d.deliver e) (s.deliver e) := by
  unfold SplitServer.deliver Server.deliver
  rw [h.keyTaker]
  cases hid : s.keyTaker e.command e.keycode with
  | none => exact ⟨rfl, h⟩
  | some id =>
    obtain ⟨held, hh, -⟩ := Server.accepts_of_keyTaker hid
    obtain ⟨r, tty, w, hr, -, -, rfl⟩ := h.of_holding? hh
    obtain rfl := id_of_record? hr
    simp only [hh, hr, Option.bind_some]
    split
    · exact ⟨rfl, h⟩
    · exact ⟨rfl, (h.note _).send (h.tidy.suits_of_record? hr).isOpen _⟩

/-- What the device sends goes to the same client. -/
theorem Matches.forwardRaw (h : Matches d s) (owner : ClientId) :
    Matches (d.forwardRaw owner) (s.forwardRaw owner) := by
  obtain rfl := h.server
  unfold SplitServer.forwardRaw Server.forwardRaw
  rw [h.client?]
  cases hr : d.record? owner with
  | none => exact h
  | some r =>
    obtain rfl := id_of_record? hr
    have hopen := (h.tidy.suits_of_record? hr).isOpen
    have hread := h.onCommon (aloof_called .readPacket (Driver.readPacket d.common.driver))
    dsimp only [SplitServer.server, Option.map_some]
    cases (Driver.readPacket d.common.driver).outcome with
    | error e => exact (hread.note _).send hopen _
    | ok data =>
      cases data with
      | none => exact hread
      | some data => exact hread.send hopen _

/-- The same event is read. -/
theorem Matches.readEvent (h : Matches d s) : Agrees (d.through (·.readEvent)) s.readEvent := by
  refine h.through aloof_readEvent fun s clients => ?_
  unfold Server.readEvent
  split <;> rfl

/-- The same command comes of it. -/
theorem Matches.nextCommand (h : Matches d s) : Agrees d.nextCommand s.nextCommand := by
  obtain ⟨hevent, hstate⟩ := h.readEvent
  unfold SplitServer.nextCommand Server.nextCommand
  generalize d.through (·.readEvent) = a at hevent hstate
  generalize s.readEvent = b at hevent hstate
  obtain ⟨event, d'⟩ := a
  obtain ⟨event', s'⟩ := b
  obtain rfl : event = event' := hevent
  cases event with
  | error e => exact ⟨rfl, hstate⟩
  | ok event =>
    cases event with
    | none => exact ⟨rfl, hstate⟩
    | some e =>
      obtain ⟨hleft, hstate⟩ := Matches.deliver hstate e
      exact ⟨congrArg _ (congrArg _ hleft), hstate⟩

/-- A cycle comes to the same. -/
theorem Matches.cycle (h : Matches d s) : Agrees d.cycle s.cycle := by
  have hsync := h.syncConsole
  obtain ⟨houtcome, hstate⟩ := hsync.updateDisplay
  unfold SplitServer.cycle Server.cycle
  dsimp only
  rw [hsync.rawHolder]
  cases d.syncConsole.common.rawHolder with
  | some owner => exact ⟨rfl, hsync.forwardRaw owner⟩
  | none =>
    dsimp only
    generalize d.syncConsole.updateDisplay = a at houtcome hstate
    generalize s.syncConsole.updateDisplay = b at houtcome hstate
    obtain ⟨outcome, d'⟩ := a
    obtain ⟨outcome', s'⟩ := b
    obtain rfl : outcome = outcome' := houtcome
    cases outcome with
    | error e => exact ⟨rfl, hstate⟩
    | ok _ => exact Matches.nextCommand hstate

/-- The host's own window passes on both sides or on neither. -/
theorem Matches.hostWindow (h : Matches d s) (cells : Octets) :
    Agrees (d.hostWindow cells) (s.hostWindow cells) := by
  have hsync := h.syncConsole
  unfold SplitServer.hostWindow Server.hostWindow
  rw [h.rawHolder]
  split
  · exact ⟨rfl, h⟩
  dsimp only
  rw [hsync.shownClient]
  split
  · exact ⟨rfl, hsync⟩
  · exact (hsync.onCommon (f := ({ · with lastShown := none }))
      ⟨fun _ _ => rfl, fun _ => rfl⟩).writeWindow cells

end cycle

/-! ### Histories -/

section driver

variable [Driver σ]

/-- A server starts with stores that match. -/
theorem Matches.start (settings : Settings) (driver : σ) (console : UInt32) (table : DotTable) :
    Matches (SplitServer.start settings driver console table)
      ((Server.start settings driver console).withTable table) := by
  refine ⟨⟨rfl, ?_, ?_, ?_, fun _ _ => rfl⟩, rfl⟩
  · exact fun r hr => nomatch hr
  · exact fun r hr => nomatch hr
  · exact fun r hr => nomatch hr

/-- Every event keeps the stores in agreement and does what it does to the state that they amount
to. -/
theorem Matches.step (h : Matches d s) (e : Event σ) : Matches (d.step e) (s.step e) := by
  cases e with
  | arrival peer now => exact (h.accept peer now).state
  | frame id f => exact (h.onFrame id f).state
  | departure id => exact h.disconnect id
  | clock now => exact h.maintain now
  | expiry now => exact (h.expire now).state
  | closing => exact h.shutdown
  | console number =>
    exact h.onCommon (f := (·.switchConsole number)) ⟨fun _ _ => rfl, fun _ => rfl⟩
  | ownerAsked => exact h.syncConsole
  | recipientAsked => exact h.syncConsole
  | cycle => exact h.cycle.state
  | hostWindow cells => exact (h.hostWindow cells).state
  | hostStatus cells => exact h.onCommon (aloof_hostStatus cells)
  | hostReset => exact h.onCommon (f := (·.hostReset.2)) ⟨fun _ _ => rfl, fun _ => rfl⟩
  | replacement driver => exact h.onCommon (aloof_changeDriver driver)
  | device driver => exact h.onCommon (f := ({ · with driver })) ⟨fun _ _ => rfl, fun _ => rfl⟩

/-- After any history the stores still match. -/
theorem Matches.run (h : Matches d s) (events : List (Event σ)) :
    Matches (d.run events) (s.run events) := by
  induction events generalizing d s with
  | nil => exact h
  | cons e events ih => exact ih (h.step e)

/-- The stores amount to a server in a reachable state, and go on as this server does. -/
structure Faithful (d : SplitServer σ) : Prop where
  reachable : d.server.Reachable
  run : ∀ events, (d.run events).server = d.server.run events

/-- In a state that can be reached, the stores amount to the server that is read from them. -/
theorem Reachable.matches (h : d.Reachable) : Matches d d.server := by
  obtain ⟨settings, driver, console, table, events, rfl⟩ := h
  have hrun := (Matches.start settings driver console table).run events
  exact ⟨hrun.tidy, rfl⟩

/-- Such a server can be reached itself, and it goes the same way from there. -/
theorem Reachable.faithful (h : d.Reachable) : d.Faithful := by
  refine ⟨?_, fun events => (h.matches.run events).server⟩
  obtain ⟨settings, driver, console, table, events, rfl⟩ := h
  have hrun := (Matches.start settings driver console table).run events
  exact ⟨_, settings, driver, console, table, events, hrun.server, rfl⟩

/-- Every reachable state of a server is that of one with separate stores. -/
theorem exists_split (h : s.Reachable) : ∃ d : SplitServer σ, d.Reachable ∧ d.server = s := by
  obtain ⟨_, settings, driver, console, table, events, rfl, -⟩ := h
  exact ⟨_, ⟨settings, driver, console, table, events, rfl⟩,
    ((Matches.start settings driver console table).run events).server⟩

end driver

/-! ### A rehearsal -/

/-- A server with separate stores after the rehearsal. -/
def rehearsed : SplitServer BareDriver :=
  (start ⟨[], 4, 30, 8⟩ ⟨⟨"ba", "Bare", ⟨2, 1⟩, false, false⟩⟩ 3 .plain).run Server.rehearsal

/-- The rehearsal is a history from the start. -/
theorem rehearsed_reachable : rehearsed.Reachable :=
  ⟨_, _, _, _, Server.rehearsal, rfl⟩

end BrailleShare.SplitServer
