import BrailleShare.Proofs.RangeSet
import BrailleShare.Server.Requests
import Mathlib.Algebra.Group.Nat.Defs
import Mathlib.Data.List.DropRight

/-!
# Requests about masks

A client says which keys it wants by requests that each cover some values, and the last one that
covers a value decides. Where none does, the mode of the client decides.

Main statements: a client that has said nothing wants what its mode's own mask holds
(`represents_defaultMask`); a request that is carried out decides about the values that it covers
and about no others (`represents_revise`); so a mask that holds what was asked for since the client
got its tty goes on doing so (`Tells.of_kind`, `Tells.granted`, `Tells.revised`).
-/

namespace BrailleShare.Server

variable {mode : KeyMode} {mask : RangeSet} {v : UInt32} {p : Packet}

/-! ### Masks of modes -/

/-- What is wanted before anything has been said: in the mode of commands every value of 16 bits,
but for those that change the console or restart a driver; in the mode of keycodes nothing. -/
def WantedAtFirst (mode : KeyMode) (v : UInt32) : Prop :=
  mode = .commands ∧ v ≤ 0xFFFF ∧ v ∉ [63, 64, 67, 68] ∧ ¬ (0x600 ≤ v ∧ v ≤ 0x6FF)

/-- The mask of a mode holds what is wanted at first. -/
theorem represents_defaultMask (mode : KeyMode) :
    mode.defaultMask.Represents (WantedAtFirst mode) := by
  cases mode with
  | keycodes => exact RangeSet.Represents.empty.congr fun v => by simp [WantedAtFirst]
  | commands =>
    have hall := RangeSet.Represents.empty.insert (r := ⟨0, Command.greatest⟩) (by decide)
    have hconsoles := hall.erase (r := ⟨Command.previousConsole, Command.nextConsole⟩) (by decide)
    have hrestarts := hconsoles.erase (r := ⟨Command.restartBraille, Command.restartSpeech⟩)
      (by decide)
    have hswitches := hrestarts.erase
      (r := ⟨Command.switchConsole, Command.switchConsole ||| Command.argumentMask⟩) (by decide)
    refine hswitches.congr fun v => ?_
    have hlast : (Command.switchConsole ||| Command.argumentMask).toNat = 0x6FF := by decide
    simp only [Span.has_iff, hlast, WantedAtFirst, List.mem_cons, List.not_mem_nil, true_and,
      or_false, UInt32.le_iff_toNat_le, ← UInt32.toNat_inj]
    simp only [Command.greatest, Command.previousConsole, Command.nextConsole,
      Command.restartBraille, Command.restartSpeech, Command.switchConsole, UInt32.reduceToNat]
    omega

/-! ### Requests -/

/-- What a request about a mask says: whether keys are wanted, and which. -/
structure MaskRequest where
  edit : MaskEdit
  spans : List Span
  deriving DecidableEq, Repr

namespace MaskRequest

/-- The request is about a value. -/
def Covers (r : MaskRequest) (v : UInt32) : Prop :=
  ∃ x ∈ r.spans, x.Has v

instance (r : MaskRequest) (v : UInt32) : Decidable (r.Covers v) :=
  inferInstanceAs (Decidable (∃ x ∈ r.spans, x.Has v))

/-- A request about a range, if it can be read. -/
def ofRange? (edit : MaskEdit) (payload : Octets) : Option MaskRequest :=
  match Request.decodeRange payload with
  | .ok (lo, hi) => some ⟨edit, [⟨lo, hi⟩]⟩
  | .error _ => none

/-- A request about single values, if it can be read. -/
def ofKeys? (edit : MaskEdit) (payload : Octets) : Option MaskRequest :=
  match Request.decodeKeys payload with
  | .ok keys => some ⟨edit, keys.map fun key => ⟨key, key⟩⟩
  | .error _ => none

/-- What a packet says about masks, if it is about one. -/
def ofPacket? (p : Packet) : Option MaskRequest :=
  match p.kind? with
  | some .ignoreKeyRange => ofRange? .ignore p.payload
  | some .unignoreKeyRange => ofRange? .unignore p.payload
  | some .ignoreKeySet => ofKeys? .ignore p.payload
  | some .unignoreKeySet => ofKeys? .unignore p.payload
  | _ => none

/-- A packet is about the keys that a client wants: it asks for a tty, or it is about the mask. -/
def concernsKeys : PacketKind → Bool
  | .getTty | .ignoreKeyRange | .unignoreKeyRange | .ignoreKeySet | .unignoreKeySet => true
  | _ => false

/-- A packet beside the keys is no request about a mask, and none for a tty. -/
theorem ofPacket?_eq_none {k : PacketKind} (hk : p.kind? = some k)
    (hbeside : concernsKeys k = false) : p.kind? ≠ some .getTty ∧ ofPacket? p = none := by
  cases k <;> simp_all [concernsKeys, ofPacket?]

/-- What a request does to a mask, one range after the other. -/
def revise (r : MaskRequest) (mask : RangeSet) : RangeSet :=
  r.spans.foldl (fun mask x =>
    match r.edit with
    | .ignore => mask.erase x
    | .unignore => mask.insert x) mask

/-- A change of a range that is carried out is a request about this range. -/
theorem of_onRange {edit : MaskEdit} {mask' : RangeSet} {lo hi : UInt32}
    (h : edit.onRange mask lo hi = .ok mask') :
    (Span.mk lo hi).Ordered ∧ mask' = revise ⟨edit, [⟨lo, hi⟩]⟩ mask := by
  cases edit with
  | ignore =>
    simp only [MaskEdit.onRange, RangeSet.remove] at h
    split at h
    · cases h
    · rename_i hle
      cases h
      exact ⟨UInt32.not_lt.1 hle, rfl⟩
  | unignore =>
    simp only [MaskEdit.onRange, RangeSet.add] at h
    split at h
    · cases h
    · rename_i hle
      cases h
      exact ⟨UInt32.not_lt.1 hle, rfl⟩

/-- A change of single values is a request about ranges of one value each. -/
theorem foldl_onValue (edit : MaskEdit) (keys : List UInt32) (mask : RangeSet) :
    keys.foldl edit.onValue mask = revise ⟨edit, keys.map fun key => ⟨key, key⟩⟩ mask := by
  rw [revise, List.foldl_map]
  cases edit <;> rfl

/-- Whether a value is wanted: the last request about it decides, and if there is none it is as it
was at first. -/
def Wanted (mode : KeyMode) (requests : List MaskRequest) (v : UInt32) : Prop :=
  match requests.reverse.find? fun r => decide (r.Covers v) with
  | some r => r.edit = .unignore
  | none => WantedAtFirst mode v

/-- Without requests the keys are wanted that the mode asks for. -/
theorem wanted_nil : Wanted mode [] v ↔ WantedAtFirst mode v :=
  .rfl

/-- The last request that covers a key decides about it. -/
theorem wanted_concat (requests : List MaskRequest) (r : MaskRequest) :
    Wanted mode (requests ++ [r]) v ↔
      if r.Covers v then r.edit = .unignore else Wanted mode requests v := by
  by_cases hv : r.Covers v <;> simp [Wanted, hv]

/-- A request decides about the values that it covers, and about no others. -/
theorem represents_revise {P : UInt32 → Prop} {r : MaskRequest} (h : mask.Represents P)
    (hr : ∀ x ∈ r.spans, x.Ordered) :
    (r.revise mask).Represents fun v => if r.Covers v then r.edit = .unignore else P v := by
  obtain ⟨edit, spans⟩ := r
  unfold revise
  induction spans generalizing mask P with
  | nil => exact h.congr fun v => by simp [Covers]
  | cons x spans ih =>
    have hx := hr x List.mem_cons_self
    have hrest : ∀ y ∈ spans, y.Ordered := fun y hy => hr y (List.mem_cons_of_mem x hy)
    have hcovers : ∀ v, Covers ⟨edit, x :: spans⟩ v ↔ x.Has v ∨ Covers ⟨edit, spans⟩ v := by
      simp [Covers]
    cases edit with
    | ignore =>
      refine (ih (h.erase hx) hrest).congr fun v => ?_
      by_cases hv : x.Has v <;> by_cases hc : Covers ⟨.ignore, spans⟩ v <;> simp [hcovers, hv, hc]
    | unignore =>
      refine (ih (h.insert hx) hrest).congr fun v => ?_
      by_cases hv : x.Has v <;> by_cases hc : Covers ⟨.unignore, spans⟩ v <;> simp [hcovers, hv, hc]

end MaskRequest

/-! ### What a mask tells -/

/-- The packets after the last one by which a tty was asked for. -/
def sinceTty (packets : List Packet) : List Packet :=
  packets.rtakeWhile fun p => decide (p.kind? ≠ some .getTty)

/-- The requests about masks among the packets since the last tty, the oldest first. -/
def maskRequests (packets : List Packet) : List MaskRequest :=
  (sinceTty packets).filterMap MaskRequest.ofPacket?

/-- A tty that is granted makes earlier requests void. -/
theorem maskRequests_concat_getTty (packets : List Packet) (hk : p.kind? = some .getTty) :
    maskRequests (packets ++ [p]) = [] := by
  rw [maskRequests, sinceTty, List.rtakeWhile_concat_neg _ _ _ (by simp [hk])]
  rfl

/-- Any other packet adds what it says about a mask. -/
theorem maskRequests_concat (packets : List Packet) (hk : p.kind? ≠ some .getTty) :
    maskRequests (packets ++ [p]) =
      maskRequests packets ++ (MaskRequest.ofPacket? p).toList := by
  rw [maskRequests, sinceTty, List.rtakeWhile_concat_pos _ _ _ (by simp [hk]),
    List.filterMap_append]
  cases hr : MaskRequest.ofPacket? p <;> simp [hr, maskRequests, sinceTty]

/-- A mask holds what is wanted by the requests among the packets that were acknowledged. -/
def Tells (packets : List Packet) (w : KeyMode × RangeSet) : Prop :=
  w.2.Represents (MaskRequest.Wanted w.1 (maskRequests packets))

namespace Tells

variable {packets : List Packet} {w : KeyMode × RangeSet}

/-- Packets that ask for no tty and are about no mask make no difference. -/
theorem of_kind (h : Tells packets w) (hk : p.kind? ≠ some .getTty)
    (hnone : MaskRequest.ofPacket? p = none) : Tells (packets ++ [p]) w := by
  rw [Tells, maskRequests_concat packets hk, hnone, Option.toList_none, List.append_nil]
  exact h

/-- With a tty a client gets its mode's own mask, whatever was asked for before. -/
theorem granted (packets : List Packet) (mode : KeyMode) (hk : p.kind? = some .getTty) :
    Tells (packets ++ [p]) (mode, mode.defaultMask) := by
  rw [Tells, maskRequests_concat_getTty packets hk]
  exact (represents_defaultMask mode).congr fun v => MaskRequest.wanted_nil.symm

/-- A request about the mask decides from then on. -/
theorem revised (h : Tells packets (mode, mask)) {r : MaskRequest}
    (hr : MaskRequest.ofPacket? p = some r) (hspans : ∀ x ∈ r.spans, x.Ordered) :
    Tells (packets ++ [p]) (mode, r.revise mask) := by
  have hk : p.kind? ≠ some .getTty := by
    intro hk
    simp [MaskRequest.ofPacket?, hk] at hr
  rw [Tells, maskRequests_concat packets hk, hr]
  refine (MaskRequest.represents_revise h hspans).congr fun v => ?_
  exact (MaskRequest.wanted_concat ..).symm

end Tells

/-! ### Events that are taken -/

/-- The low 16 bits of a command, which name it. -/
def low16 (command : UInt32) : UInt32 :=
  UInt32.ofNat (command.toNat % 2 ^ 16)

/-- The name of a command is its lower half. -/
theorem and_nameMask (command : UInt32) : command &&& Command.nameMask = low16 command := by
  have hlt : command.toNat % 2 ^ 16 < UInt32.size :=
    Nat.lt_trans (Nat.mod_lt _ (by decide)) (by decide)
  rw [← UInt32.toNat_inj, UInt32.toNat_and, low16, UInt32.toNat_ofNat_of_lt' hlt]
  exact Nat.and_two_pow_sub_one_eq_mod command.toNat 16

/-- An event is taken if the value that the mode looks at is wanted; without a keycode there is
none in the mode of keycodes. -/
theorem accepts_iff {P : UInt32 → Prop} (h : mask.Represents P) (command : UInt32)
    (keycode : Option UInt32) : mode.accepts mask command keycode = true ↔
      match mode with
      | .commands => P (low16 command)
      | .keycodes => ∃ key, keycode = some key ∧ P key := by
  cases mode with
  | commands =>
    simp only [KeyMode.accepts, KeyMode.maskValue, and_nameMask]
    exact h.contains_iff _
  | keycodes =>
    cases keycode with
    | none => simp [KeyMode.accepts]
    | some key => simpa [KeyMode.accepts, KeyMode.maskValue] using h.contains_iff key

end BrailleShare.Server
