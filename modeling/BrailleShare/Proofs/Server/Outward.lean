import BrailleShare.Proofs.Server.Steps

/-!
# What a server does outwardly

A server's effects tell what it has done to the world outside. This file reads three things off
them, the packets that were queued, the calls that reached the driver and the restarts that the host
was asked for, and leaves out the log.

Main statements: an event only adds effects to those there are (`effects_step`), and so it adds
packets, calls and restarts to those there were (`packets_step`, `calls_step`, `restarts_step`).
-/

namespace BrailleShare

/-- The packet that an effect queues, and for whom. -/
def Effect.packet? : Effect → Option (ClientId × Packet)
  | .packet id p => some (id, p)
  | _ => none

/-- The call to the driver that an effect is. -/
def Effect.call? : Effect → Option DeviceCall
  | .driver call => some call
  | _ => none

namespace Server

variable {σ : Type} {s t u : Server σ}

/-! ### Packets, calls and restarts -/

/-- The packets among effects, each with the client that it is for, the oldest first. -/
def packetsIn (es : List Effect) : List (ClientId × Packet) :=
  es.filterMap Effect.packet?

/-- The calls to the driver among effects, the oldest first. -/
def callsIn (es : List Effect) : List DeviceCall :=
  es.filterMap Effect.call?

/-- How often effects ask the host for a restart. -/
def restartsIn (es : List Effect) : Nat :=
  es.count .restart

/-- A packet is among those that are queued if it is among the effects. -/
theorem mem_packetsIn_iff {es : List Effect} {id : ClientId} {p : Packet} :
    (id, p) ∈ packetsIn es ↔ .packet id p ∈ es := by
  rw [packetsIn, List.mem_filterMap]
  constructor
  · rintro ⟨e, he, heq⟩
    cases e with
    | packet =>
      cases heq
      exact he
    | driver | restart | notice => cases heq
  · exact fun h => ⟨_, h, rfl⟩

/-- Lines for the log are nothing that a client, the device or the host gets to see. -/
theorem outward_notices {α : Type} (line : α → Notice) (as : List α) :
    packetsIn (as.map fun a => .notice (line a)) = [] ∧
      callsIn (as.map fun a => .notice (line a)) = [] ∧
      restartsIn (as.map fun a => .notice (line a)) = 0 := by
  refine ⟨?_, ?_, ?_⟩
  · simp [packetsIn, Effect.packet?]
  · simp [callsIn, Effect.call?]
  · simp [restartsIn, List.count_eq_zero]

/-- The packets that a server has queued. -/
def packets (s : Server σ) : List (ClientId × Packet) :=
  packetsIn s.effects

/-- The calls that a server has made to its driver. -/
def calls (s : Server σ) : List DeviceCall :=
  callsIn s.effects

/-- How often a server has asked for a restart. -/
def restarts (s : Server σ) : Nat :=
  restartsIn s.effects

/-- A line in the log is no packet. -/
@[simp] theorem packets_note (s : Server σ) (n : Notice) : (s.note n).packets = s.packets := by
  simp [packets, packetsIn, note, emit, Effect.packet?]

/-- A packet that is sent is queued last. -/
@[simp] theorem packets_send (s : Server σ) (id : ClientId) (p : Packet) :
    (s.send id p).packets = s.packets ++ [(id, p)] := by
  simp [packets, packetsIn, send, emit, Effect.packet?]

/-- A call to the driver is no packet. -/
@[simp] theorem packets_called {α : Type} (s : Server σ) (call : DeviceCall)
    (a : DriverAnswer σ α) : (s.called call a).packets = s.packets := by
  simp [packets, packetsIn, called, Effect.packet?]

/-- A call to the driver is the last of the calls. -/
@[simp] theorem calls_called {α : Type} (s : Server σ) (call : DeviceCall)
    (a : DriverAnswer σ α) : (s.called call a).calls = s.calls ++ [call] := by
  simp [calls, callsIn, called, Effect.call?]

/-- A call to the driver asks for no restart. -/
@[simp] theorem restarts_called {α : Type} (s : Server σ) (call : DeviceCall)
    (a : DriverAnswer σ α) : (s.called call a).restarts = s.restarts := by
  simp [restarts, restartsIn, called, List.count_eq_zero]

/-! ### Off the stage -/

/-- The second state comes from the first one without a word to the device: the driver is what it
was, it was not called and no restart was asked for, and the device has gone to nobody. -/
structure Offstage (s t : Server σ) : Prop where
  driver : t.driver = s.driver
  calls : t.calls = s.calls
  restarts : t.restarts = s.restarts
  rawHolder : t.rawHolder = s.rawHolder

namespace Offstage

/-- Where nothing happens the device is left alone. -/
theorem refl (s : Server σ) : Offstage s s :=
  ⟨rfl, rfl, rfl, rfl⟩

/-- What leaves the device alone twice leaves it alone. -/
theorem trans (h : Offstage s t) (h' : Offstage t u) : Offstage s u :=
  ⟨h'.driver.trans h.driver, h'.calls.trans h.calls, h'.restarts.trans h.restarts,
    h'.rawHolder.trans h.rawHolder⟩

/-- A line in the log leaves the device alone. -/
theorem note (s : Server σ) (n : Notice) : Offstage s (s.note n) := by
  refine ⟨rfl, ?_, ?_, rfl⟩
  · simp [Server.calls, callsIn, Server.note, emit, Effect.call?]
  · simp [Server.restarts, restartsIn, Server.note, emit]

/-- A packet that is queued leaves the device alone. -/
theorem send (s : Server σ) (id : ClientId) (p : Packet) : Offstage s (s.send id p) := by
  refine ⟨rfl, ?_, ?_, rfl⟩
  · simp [Server.calls, callsIn, Server.send, emit, Effect.call?]
  · simp [Server.restarts, restartsIn, Server.send, emit]

/-- What concerns neither the driver nor the device nor the effects happens off the stage. -/
theorem of_eq (hdriver : t.driver = s.driver) (heffects : t.effects = s.effects)
    (hraw : t.rawHolder = s.rawHolder) : Offstage s t :=
  ⟨hdriver, congrArg callsIn heffects, congrArg restartsIn heffects, hraw⟩

/-- A change of the tree leaves the device alone. -/
theorem withTree (s : Server σ) (tree : TtyTree ClientId) : Offstage s { s with tree } :=
  of_eq rfl rfl rfl

/-- A change of what a client holds leaves the device alone. -/
theorem setHolding (s : Server σ) (id : ClientId) (h : Option Holding) :
    Offstage s (s.setHolding id h) :=
  of_eq rfl rfl rfl

/-- Forgetting the last writer leaves the device alone. -/
theorem forgetShown (s : Server σ) (id : ClientId) : Offstage s (s.forgetShown id) := by
  rw [forgetShown_eq]
  exact of_eq rfl rfl rfl

/-- Lines for the log. -/
theorem notes {α : Type} (s : Server σ) (line : α → Notice) (as : List α) :
    Offstage s { s with effects := s.effects ++ as.map fun a => .notice (line a) } := by
  obtain ⟨-, hcalls, hrestarts⟩ := outward_notices line as
  refine ⟨rfl, ?_, ?_, rfl⟩
  · simp only [Server.calls, callsIn, List.filterMap_append] at hcalls ⊢
    rw [hcalls, List.append_nil]
  · simp only [Server.restarts, restartsIn, List.count_append] at hrestarts ⊢
    rw [hrestarts, Nat.add_zero]

/-- The lines about ttys that were made leave the device alone. -/
theorem noteMade (s : Server σ) (made : List (UInt32 × TtyId)) : Offstage s (s.noteMade made) := by
  rw [noteMade_eq]
  exact notes s (fun m : UInt32 × TtyId => .ttyMade m.1 m.2) made

/-- Clearing a tty leaves the device alone. -/
theorem clearTty (s : Server σ) (tty : TtyId) : Offstage s (s.clearTty tty).1 := by
  rw [clearTty_eq]
  exact (withTree s (s.tree.collect tty).1).trans
    (notes _ (fun m : UInt32 × TtyId => .ttyFreed m.1 m.2) (s.tree.collect tty).2)

/-- What happens off the stage step by step happens off the stage. -/
theorem foldl {α : Type} {f : Server σ → α → Server σ} (as : List α)
    (hf : ∀ t a, a ∈ as → Offstage s t → Offstage t (f t a)) : Offstage s (as.foldl f s) := by
  induction as generalizing s with
  | nil => exact refl s
  | cons a as ih =>
    have hfirst := hf s a List.mem_cons_self (refl s)
    refine hfirst.trans (ih fun t b hb ht => ?_)
    exact hf t b (List.mem_cons_of_mem a hb) (hfirst.trans ht)

end Offstage

/-! ### Packets of the helpers -/

/-- Forgetting the last writer queues nothing. -/
@[simp] theorem packets_forgetShown (s : Server σ) (id : ClientId) :
    (s.forgetShown id).packets = s.packets := by
  rw [forgetShown_eq]
  rfl

/-- The lines about ttys that were made are no packets. -/
@[simp] theorem packets_noteMade (s : Server σ) (made : List (UInt32 × TtyId)) :
    (s.noteMade made).packets = s.packets := by
  obtain ⟨hpackets, -, -⟩ := outward_notices (fun m : UInt32 × TtyId => .ttyMade m.1 m.2) made
  simp only [noteMade_eq, packets, packetsIn, List.filterMap_append] at hpackets ⊢
  rw [hpackets, List.append_nil]

/-- Clearing a tty queues nothing. -/
@[simp] theorem packets_clearTty (s : Server σ) (tty : TtyId) :
    (s.clearTty tty).1.packets = s.packets := by
  obtain ⟨hpackets, -, -⟩ :=
    outward_notices (fun m : UInt32 × TtyId => .ttyFreed m.1 m.2) (s.tree.collect tty).2
  simp only [clearTty_eq, packets, packetsIn, List.filterMap_append] at hpackets ⊢
  rw [hpackets, List.append_nil]

/-! ### What an event adds -/

/-- A change only adds effects. -/
theorem Change.effects_grow {g : List Grant} (h : Change s g t) : s.effects <+: t.effects := by
  cases h with
  | quiet | present | presentHost => exact List.prefix_append ..
  | point | spend | arrive | logIn | settle | leave | remask | blank | draw | takeRaw | returnRaw
  | depart => exact List.prefix_rfl

/-- Changes take no effect back. -/
theorem Changes.effects_grow {g : List Grant} (h : Changes s g t) : s.effects <+: t.effects := by
  induction h with
  | refl => exact List.prefix_rfl
  | tail _ h' ih => exact ih.trans h'.effects_grow

section driver

variable [Driver σ]

/-- An event only adds effects. -/
theorem effects_step (hs : s.Consistent) (e : Event σ) :
    (s.step e).effects = s.effects ++ s.added e := by
  obtain ⟨more, hmore⟩ := (step_changes hs e).effects_grow
  rw [added_eq hmore.symm, hmore]

/-- After an event its packets stand behind those that were queued. -/
theorem packets_step (hs : s.Consistent) (e : Event σ) :
    (s.step e).packets = s.packets ++ packetsIn (s.added e) := by
  rw [packets, effects_step hs, packetsIn, List.filterMap_append]
  rfl

/-- After an event its calls stand behind those that were made. -/
theorem calls_step (hs : s.Consistent) (e : Event σ) :
    (s.step e).calls = s.calls ++ callsIn (s.added e) := by
  rw [calls, effects_step hs, callsIn, List.filterMap_append]
  rfl

/-- After an event as many restarts more have been asked for as it asks for. -/
theorem restarts_step (hs : s.Consistent) (e : Event σ) :
    (s.step e).restarts = s.restarts + restartsIn (s.added e) := by
  rw [restarts, effects_step hs, restartsIn, List.count_append]
  rfl

/-- The packets of an event are those that stand behind the earlier ones. -/
theorem packetsIn_added (hs : s.Consistent) {e : Event σ} {more : List (ClientId × Packet)}
    (h : (s.step e).packets = s.packets ++ more) : packetsIn (s.added e) = more :=
  List.append_cancel_left ((packets_step hs e).symm.trans h)

/-- The calls of an event are those that stand behind the earlier ones. -/
theorem callsIn_added (hs : s.Consistent) {e : Event σ} {more : List DeviceCall}
    (h : (s.step e).calls = s.calls ++ more) : callsIn (s.added e) = more :=
  List.append_cancel_left ((calls_step hs e).symm.trans h)

/-- The restarts of an event are those beyond the earlier ones. -/
theorem restartsIn_added (hs : s.Consistent) {e : Event σ} {n : Nat}
    (h : (s.step e).restarts = s.restarts + n) : restartsIn (s.added e) = n :=
  Nat.add_left_cancel ((restarts_step hs e).symm.trans h)

end driver

end Server

end BrailleShare
