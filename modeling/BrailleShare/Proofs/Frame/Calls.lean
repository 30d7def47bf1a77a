import BrailleShare.Proofs.Frame.Parse

/-!
# Calls on a framer

A framer is asked for frames call by call, and its source may divide the octets into reads as it
likes, with anything else that a source can answer in between. What the source holds is therefore
compared as a *flow*: octet after octet, and the answers that are no octets where they stand. A read
that was interrupted leaves no trace in it.

Main statements: a call takes octets up to the end of a frame or up to the first answer that is no
octet, and nothing beyond (`pull_call`), this determines the call (`Call.unique`), and any number of
calls give the frames of the octets that they have taken (`frames_of_flow`).
-/

namespace BrailleShare

/-! ### Flows -/

/-- Why a source gives no octet. -/
inductive Stop where
  /-- It has nothing for now. -/
  | wouldBlock
  | endOfStream
  | failed (reason : String)
  deriving DecidableEq, Repr

/-- What a source holds at one place. -/
inductive Item where
  | octet (b : UInt8)
  | stop (s : Stop)
  deriving DecidableEq, Repr

/-- The answer to a call that a source brings to a stop. -/
def Stop.answer : Stop → FrameAnswer
  | wouldBlock => .pending
  | endOfStream => .endOfStream
  | failed reason => .failed reason

/-- The octet at a place, if there is one. -/
def Item.octet? : Item → Option UInt8
  | octet b => some b
  | stop _ => none

/-- The frame that a call has given, if it has given one. -/
def FrameAnswer.frame? : FrameAnswer → Option Frame
  | frame f => some f
  | _ => none

/-- What stops a source is no frame. -/
theorem Stop.frame?_answer (s : Stop) : s.answer.frame? = none := by
  cases s <;> rfl

namespace Read

/-- What an entry of a source holds. A read of no octets is the end of the stream; an interrupted
read holds nothing. -/
def items : Read → List Item
  | .data [] => [.stop .endOfStream]
  | .data bs => bs.map .octet
  | .wouldBlock => [.stop .wouldBlock]
  | .interrupted => []
  | .endOfStream => [.stop .endOfStream]
  | .failed reason => [.stop (.failed reason)]

/-- What a source holds. -/
def flow (source : List Read) : List Item :=
  source.flatMap items

/-- The octets among what a source holds. -/
def octets (items : List Item) : Octets :=
  items.filterMap Item.octet?

variable {bs : Octets} {rest : List Read}

/-- A read of some octets brings these octets. -/
theorem items_data (h : bs ≠ []) : items (.data bs) = bs.map .octet := by
  cases bs with
  | nil => exact absurd rfl h
  | cons b bs => rfl

/-- What a read leaves behind is what it has not taken. -/
theorem flow_leave (bs : Octets) (rest : List Read) :
    flow (leave bs rest) = bs.map .octet ++ flow rest := by
  unfold leave
  split
  · rename_i h
    simp [h]
  · rename_i h
    rw [flow, List.flatMap_cons, items_data h, ← flow]

/-- A read takes octets from the front of what the source holds. -/
theorem flow_data {b : UInt8} {front : Octets} {n : Nat} (h : bs.take n = b :: front) :
    flow (.data bs :: rest) = (b :: front).map .octet ++ flow (leave (bs.drop n) rest) := by
  have hne : bs ≠ [] := by
    rintro rfl
    simp at h
  rw [flow_leave, ← List.append_assoc, ← List.map_append, ← h, List.take_append_drop, flow,
    List.flatMap_cons, items_data hne, ← flow]

/-- A chunk flows as its octets. -/
theorem flow_chunk (bs : Octets) : flow (chunk bs) = bs.map .octet := by
  rw [chunk, flow_leave]
  exact List.append_nil _

/-- The octets of two stretches are those of either. -/
theorem octets_append (xs ys : List Item) : octets (xs ++ ys) = octets xs ++ octets ys :=
  List.filterMap_append

/-- Octets by themselves are all octets. -/
theorem octets_map (bs : Octets) : octets (bs.map .octet) = bs := by
  induction bs with
  | nil => rfl
  | cons b bs ih => exact congrArg (b :: ·) ih

/-- A stop brings no octet. -/
theorem octets_stop (s : Stop) : octets [.stop s] = [] :=
  rfl

end Read

open Read

/-! ### One call -/

/-- How a call ends that has read all octets up to the end of `p`: at a whole frame, at an answer
that is no octet, or with nothing left to read. Gives the octets that are kept for the next call and
what the source still holds. -/
inductive Ends (p : Octets) : List Item → FrameAnswer → Octets → List Item → Prop
  | frame {frame : Frame} {rest : List Item} (h : Frame.first? p = some (frame, [])) :
      Ends p rest (.frame frame) [] rest
  | stop {s : Stop} {rest : List Item} (h : Frame.first? p = none) :
      Ends p (.stop s :: rest) s.answer p rest
  | exhausted (h : Frame.first? p = none) : Ends p [] .pending p []

/-- A call within a frame of which `p` has been read: it takes octets and comes to an end. -/
def Call (p : Octets) (items : List Item) (a : FrameAnswer) (p' : Octets) (rest : List Item) :
    Prop :=
  ∃ bs tail, items = bs.map .octet ++ tail ∧ Ends (p ++ bs) tail a p' rest

section

variable {p p' p'' q : Octets} {items rest rest' : List Item} {a a' : FrameAnswer}

/-- A call that ends so is one that the source allows. -/
theorem Ends.call (h : Ends p items a p' rest) : Call p items a p' rest :=
  ⟨[], items, rfl, by rwa [List.append_nil]⟩

/-- Octets that complete no frame may come first. -/
theorem Call.prepend (h : Call (p ++ q) items a p' rest) :
    Call p (q.map .octet ++ items) a p' rest := by
  obtain ⟨bs, tail, rfl, hends⟩ := h
  refine ⟨q ++ bs, tail, by simp, ?_⟩
  rwa [← List.append_assoc]

/-- A call that has come to an end does not go on: what might be read after that is no octet. -/
theorem Ends.eq_nil {m : Octets} {tail : List Item}
    (h : Ends p (m.map .octet ++ tail) a p' rest) (h' : Ends (p ++ m) tail a' p'' rest') :
    m = [] := by
  generalize hitems : m.map Item.octet ++ tail = items at h
  cases h with
  | frame hw =>
    have hmore := Frame.first?_append hw m
    cases h' with
    | frame hw' => exact (by simpa [hmore] using hw' : _ ∧ m = []).2
    | stop hn => simp [hmore] at hn
    | exhausted hn => simp [hmore] at hn
  | stop hn =>
    cases m with
    | nil => rfl
    | cons b m => simp at hitems
  | exhausted hn => simpa using (List.append_eq_nil_iff.1 hitems).1

/-- A call ends in one way only. -/
theorem Ends.unique (h : Ends p items a p' rest) (h' : Ends p items a' p'' rest') :
    a = a' ∧ p' = p'' ∧ rest = rest' := by
  cases h with
  | frame hw =>
    cases h' with
    | frame hw' =>
      have hframe := congrArg (·.1) (Option.some.inj (hw.symm.trans hw'))
      exact ⟨congrArg FrameAnswer.frame hframe, rfl, rfl⟩
    | stop hn => simp [hw] at hn
    | exhausted hn => simp [hw] at hn
  | stop hn =>
    cases h' with
    | frame hw' => simp [hw'] at hn
    | stop => exact ⟨rfl, rfl, rfl⟩
  | exhausted hn =>
    cases h' with
    | frame hw' => simp [hw'] at hn
    | exhausted => exact ⟨rfl, rfl, rfl⟩

/-- Whether some octets have come before the call or come in it makes no difference to how it
ends. -/
theorem Ends.unique_append {m : Octets} {tail : List Item}
    (h : Ends p (m.map .octet ++ tail) a p' rest) (h' : Ends (p ++ m) tail a' p'' rest') :
    a = a' ∧ p' = p'' ∧ rest = rest' := by
  obtain rfl := h.eq_nil h'
  rw [List.append_nil] at h'
  exact h.unique h'

/-- The octets that one call takes begin with those that another takes. -/
theorem exists_of_map_octet_eq {bs bs' : Octets} {m : List Item}
    (h : bs'.map Item.octet = bs.map .octet ++ m) : ∃ ms, bs' = bs ++ ms ∧ m = ms.map .octet := by
  obtain ⟨front, ms, rfl, hfront, rfl⟩ := List.map_eq_append_iff.1 h
  have hfront : front = bs := List.map_inj_right (fun _ _ => Item.octet.inj) |>.1 hfront
  exact ⟨ms, by rw [hfront], rfl⟩

/-- The octets that a call takes make the frame that it gives, if it gives one, and what it
keeps. -/
theorem Call.parse (h : Call p items a p' rest) :
    ∃ taken, items = taken ++ rest ∧ Frame.parse (p ++ octets taken) = (a.frame?.toList, p') ∧
      (a.frame?.isSome → p' = []) := by
  obtain ⟨bs, tail, rfl, hends⟩ := h
  cases hends with
  | frame hw =>
    refine ⟨bs.map .octet, rfl, ?_, fun _ => rfl⟩
    rw [octets_map, Frame.parse_of_whole hw]
    rfl
  | @stop s rest hn =>
    refine ⟨bs.map .octet ++ [.stop s], by simp, ?_, by simp [s.frame?_answer]⟩
    rw [octets_append, octets_map, octets_stop, List.append_nil, Frame.parse_of_none hn,
      s.frame?_answer]
    rfl
  | exhausted hn =>
    refine ⟨bs.map .octet, rfl, ?_, by simp [FrameAnswer.frame?]⟩
    rw [octets_map, Frame.parse_of_none hn]
    rfl

/-- What has been read and what the source holds determine how a call ends. -/
theorem Call.unique (h : Call p items a p' rest) (h' : Call p items a' p'' rest') :
    a = a' ∧ p' = p'' ∧ rest = rest' := by
  obtain ⟨bs, tail, rfl, hends⟩ := h
  obtain ⟨bs', tail', heq, hends'⟩ := h'
  rcases List.append_eq_append_iff.1 heq with ⟨m, hm, rfl⟩ | ⟨m, hm, rfl⟩
  · obtain ⟨ms, rfl, rfl⟩ := exists_of_map_octet_eq hm
    rw [← List.append_assoc] at hends'
    exact hends.unique_append hends'
  · obtain ⟨ms, rfl, rfl⟩ := exists_of_map_octet_eq hm
    rw [← List.append_assoc] at hends
    obtain ⟨rfl, rfl, rfl⟩ := hends'.unique_append hends
    exact ⟨rfl, rfl, rfl⟩

end

namespace Framer

/-! ### The framer's calls -/

/-- A framer within a frame answers as a call is to end, and keeps what is to be kept. -/
theorem pull_call {p : Octets} (h : Frame.first? p = none) (source : List Read) :
    ∃ p', Call p (flow source) ((after p).pull source).1 p' (flow ((after p).pull source).2.2) ∧
      ((after p).pull source).2.1 = after p' := by
  generalize hf : after p = f
  fun_induction f.pull source generalizing p with
  | case1 f => exact ⟨p, (Ends.exhausted h).call, hf.symm⟩
  | case2 f rest => exact ⟨p, (Ends.stop (s := .wouldBlock) h).call, hf.symm⟩
  | case3 f rest ih => exact ih h hf
  | case4 f rest => exact ⟨p, (Ends.stop (s := .endOfStream) h).call, hf.symm⟩
  | case5 f reason rest => exact ⟨p, (Ends.stop (s := .failed reason) h).call, hf.symm⟩
  | case6 f bs rest source =>
    rename_i htake
    subst hf
    -- something was asked for, so an empty answer is the end
    have hempty : bs = [] := by
      rcases List.take_eq_nil_iff.1 htake with hzero | hempty
      · exact absurd (asks_after_pos h) (by omega)
      · exact hempty
    subst hempty
    have hsource : source = rest := by simp [source, leave]
    rw [hsource]
    exact ⟨p, (Ends.stop (s := .endOfStream) h).call, rfl⟩
  | case7 f bs rest source b front =>
    rename_i htake _ f' frame habsorb
    subst hf
    have hlen : (b :: front).length ≤ (after p).asks := htake ▸ List.length_take_le ..
    rw [absorb_after h hlen] at habsorb
    split at habsorb
    · cases habsorb
    · rename_i whole more hw
      cases habsorb
      -- no more was asked for than the frame still wanted, so nothing is left behind it
      obtain rfl := rest_eq_nil h hlen hw
      refine ⟨[], ?_, rfl⟩
      rw [flow_data htake]
      exact Call.prepend (Ends.frame hw).call
  | case8 f bs rest source b front =>
    rename_i htake _ f' habsorb ih
    subst hf
    have hlen : (b :: front).length ≤ (after p).asks := htake ▸ List.length_take_le ..
    rw [absorb_after h hlen] at habsorb
    split at habsorb
    · rename_i hn
      cases habsorb
      obtain ⟨p', hcall, hafter⟩ := ih hn rfl
      refine ⟨p', ?_, hafter⟩
      rw [flow_data htake]
      exact hcall.prepend
    · cases habsorb

/-- So many calls, one after the other: their answers, and what the framer and the source are
then. -/
def calls (f : Framer) (source : List Read) : Nat → List FrameAnswer × Framer × List Read
  | 0 => ([], f, source)
  | n + 1 =>
    let r := f.calls source n
    let one := r.2.1.pull r.2.2
    (r.1 ++ [one.1], one.2)

/-- No call leaves all as it is. -/
theorem calls_zero (f : Framer) (source : List Read) : f.calls source 0 = ([], f, source) :=
  rfl

/-- One call more is made where the others have ended. -/
theorem calls_succ (f : Framer) (source : List Read) (n : Nat) :
    f.calls source (n + 1) =
      ((f.calls source n).1 ++ [((f.calls source n).2.1.pull (f.calls source n).2.2).1],
        ((f.calls source n).2.1.pull (f.calls source n).2.2).2) :=
  rfl

/-- The first of several calls may be made by itself. -/
theorem calls_succ_left (f : Framer) (source : List Read) (n : Nat) :
    f.calls source (n + 1) =
      ((f.pull source).1 :: ((f.pull source).2.1.calls (f.pull source).2.2 n).1,
        ((f.pull source).2.1.calls (f.pull source).2.2 n).2) := by
  induction n with
  | zero => rfl
  | succ n ih => rw [calls_succ, ih, calls_succ]; rfl

/-- After any number of calls the frames given are those of the octets taken, and the framer is
where these octets leave it. If the last call gave a frame, they end with it. -/
theorem calls_flow (source : List Read) (n : Nat) :
    ∃ taken, flow source = taken ++ flow (idle.calls source n).2.2 ∧
      (idle.calls source n).1.filterMap FrameAnswer.frame? = (Frame.parse (octets taken)).1 ∧
      (idle.calls source n).2.1 = after (Frame.parse (octets taken)).2 ∧
      ∀ frame, (idle.calls source n).1.getLast? = some (.frame frame) →
        (Frame.parse (octets taken)).2 = [] := by
  induction n with
  | zero => exact ⟨[], by simp [calls, octets, after, idle]⟩
  | succ n ih =>
    obtain ⟨taken, hflow, hframes, hframer, -⟩ := ih
    obtain ⟨p, hcall, hafter⟩ :=
      pull_call (Frame.first?_parse (octets taken)) (idle.calls source n).2.2
    rw [← hframer] at hcall hafter
    obtain ⟨more, hmore, hparse, hwhole⟩ := hcall.parse
    refine ⟨taken ++ more, ?_, ?_, ?_, ?_⟩
    · rw [calls_succ, hflow, hmore, List.append_assoc]
    · rw [calls_succ, octets_append, Frame.parse_append, hparse, List.filterMap_append, hframes]
      congr 1
    · rw [calls_succ, octets_append, Frame.parse_append, hparse, hafter]
    · intro frame hlast
      rw [calls_succ, List.getLast?_concat, Option.some.injEq] at hlast
      rw [octets_append, Frame.parse_append, hparse]
      exact hwhole (by rw [hlast]; rfl)

/-- However a source divides its octets into reads, the calls give the same answers and lead to the
same framer. -/
theorem calls_congr {source source' : List Read} (h : flow source' = flow source) (n : Nat) :
    (idle.calls source' n).1 = (idle.calls source n).1 ∧
      (idle.calls source' n).2.1 = (idle.calls source n).2.1 ∧
      flow (idle.calls source' n).2.2 = flow (idle.calls source n).2.2 := by
  induction n with
  | zero => exact ⟨rfl, rfl, h⟩
  | succ n ih =>
    obtain ⟨hanswers, hframer, hleft⟩ := ih
    obtain ⟨taken, -, -, hafter, -⟩ := calls_flow source n
    have hpartial := Frame.first?_parse (octets taken)
    obtain ⟨p, hcall, hp⟩ := pull_call hpartial (idle.calls source n).2.2
    obtain ⟨p', hcall', hp'⟩ := pull_call hpartial (idle.calls source' n).2.2
    rw [hleft] at hcall'
    obtain ⟨hanswer, rfl, hrest⟩ := hcall'.unique hcall
    simp only [calls_succ, hanswers, hframer, hafter]
    exact ⟨by rw [hanswer], hp'.trans hp.symm, hrest⟩

/-! ### Octets that are there already -/

/-- Nothing comes after the read of a chunk. -/
theorem eq_of_chunk {bs bs' : Octets} {rest : List Read} (h : chunk bs = .data bs' :: rest) :
    rest = [] := by
  unfold chunk leave at h
  split at h
  · cases h
  · exact (List.cons.inj h).2.symm

/-- A call on octets that are there already leaves octets that are there already. -/
theorem exists_chunk (f : Framer) (bs : Octets) : ∃ r, (f.pull (chunk bs)).2.2 = chunk r := by
  generalize hs : chunk bs = source
  fun_induction f.pull source generalizing bs with
  | case1 => exact ⟨[], rfl⟩
  | case2 | case3 | case4 | case5 =>
    unfold chunk leave at hs
    split at hs <;> simp at hs
  | case6 f bs' rest source =>
    obtain rfl := eq_of_chunk hs
    exact ⟨_, rfl⟩
  | case7 f bs' rest source =>
    obtain rfl := eq_of_chunk hs
    exact ⟨_, rfl⟩
  | case8 f bs' rest source =>
    rename_i ih
    obtain rfl := eq_of_chunk hs
    exact ih (bs'.drop f.asks) rfl

/-- A call on octets that are there already gives the first frame that they complete, or it takes
them all. -/
theorem pull_chunk {p : Octets} (h : Frame.first? p = none) (bs : Octets) :
    (after p).pull (chunk bs) =
      match Frame.first? (p ++ bs) with
      | none => (.pending, after (p ++ bs), [])
      | some (frame, rest) => (.frame frame, idle, chunk rest) := by
  obtain ⟨r, hr⟩ := exists_chunk (after p) bs
  obtain ⟨p', ⟨taken, tail, hitems, hends⟩, hafter⟩ := pull_call h (chunk bs)
  rw [hr, flow_chunk] at hends
  rw [flow_chunk] at hitems
  obtain ⟨ms, rfl, rfl⟩ := exists_of_map_octet_eq hitems
  rw [← List.append_assoc]
  rcases hpull : (after p).pull (chunk (taken ++ ms)) with ⟨a, f', left⟩
  rw [hpull] at hr hafter hends
  obtain rfl : left = chunk r := hr
  obtain rfl : f' = after p' := hafter
  generalize hms : ms.map Item.octet = items at hends
  generalize hrest : r.map Item.octet = rest at hends
  cases hends with
  | @frame frame _ hw =>
    obtain rfl : r = ms := (List.map_inj_right fun _ _ => Item.octet.inj).1 (hrest.trans hms.symm)
    rw [Frame.first?_append hw]
    rfl
  | stop hn => cases ms <;> simp at hms
  | exhausted hn =>
    obtain rfl : ms = [] := List.map_eq_nil_iff.1 hms
    obtain rfl : r = [] := List.map_eq_nil_iff.1 hrest
    simp [hn, chunk, leave]

/-- Calls on octets that are there already give every frame that they complete, and then take what
is left of them. -/
theorem calls_chunk {p : Octets} (h : Frame.first? p = none) (bs : Octets) :
    let all := Frame.parse (p ++ bs)
    (after p).calls (chunk bs) (all.1.length + 1) =
      (all.1.map .frame ++ [.pending], after all.2, []) := by
  dsimp only
  generalize hall : Frame.parse (p ++ bs) = all
  obtain ⟨frames, left⟩ := all
  induction frames generalizing p bs with
  | nil =>
    have hfirst : Frame.first? (p ++ bs) = none := by
      cases hf : Frame.first? (p ++ bs) with
      | none => rfl
      | some r => simp [Frame.parse_of_some hf] at hall
    rw [Frame.parse_of_none hfirst] at hall
    cases hall
    simp [calls_succ, calls_zero, pull_chunk h, hfirst]
  | cons frame frames ih =>
    cases hf : Frame.first? (p ++ bs) with
    | none => simp [Frame.parse_of_none hf] at hall
    | some r =>
      obtain ⟨whole, rest⟩ := r
      rw [Frame.parse_of_some hf] at hall
      obtain ⟨⟨rfl, hframes⟩, hleft⟩ : (whole = frame ∧ (Frame.parse rest).1 = frames) ∧
          (Frame.parse rest).2 = left := by simpa using hall
      have hmore : (after []).calls (chunk rest) (frames.length + 1) =
          (frames.map .frame ++ [.pending], after left, []) :=
        ih (p := []) rfl rest (Prod.ext hframes hleft)
      have hfirst : (after p).pull (chunk bs) = (.frame whole, after [], chunk rest) := by
        rw [pull_chunk h, hf]
        rfl
      rw [List.length_cons, calls_succ_left, hfirst, hmore]
      rfl

/-- A call on a source asks it, in one of its reads, for so many octets: in the first one, or in one
that follows an interrupted read or octets that complete no frame. -/
inductive Asks : Framer → List Read → Nat → Prop
  | first (f : Framer) (source : List Read) : Asks f source f.asks
  | again {f : Framer} {rest : List Read} {n : Nat} (h : Asks f rest n) :
      Asks f (.interrupted :: rest) n
  | more {f f' : Framer} {bs front : Octets} {b : UInt8} {rest : List Read} {n : Nat}
      (htake : bs.take f.asks = b :: front) (habsorb : f.absorb (b :: front) = (f', none))
      (h : Asks f' (leave (bs.drop f.asks) rest) n) : Asks f (.data bs :: rest) n

/-- Every read asks for something, and for no more than the longest payload. -/
theorem Asks.bounds {p : Octets} {source : List Read} {n : Nat} (h : Frame.first? p = none)
    (ha : Asks (after p) source n) : 0 < n ∧ n ≤ maxPayload := by
  generalize hf : after p = f at ha
  induction ha generalizing p with
  | first f source =>
    subst hf
    exact ⟨asks_after_pos h, asks_after_le p⟩
  | again _ ih => exact ih h hf
  | @more f f' bs front b rest n htake habsorb _ ih =>
    subst hf
    have hlen : (b :: front).length ≤ (after p).asks := htake ▸ List.length_take_le ..
    rw [absorb_after h hlen] at habsorb
    split at habsorb
    · exact ih ‹_› (congrArg (·.1) habsorb)
    · cases habsorb

/-! ### Main result -/

/-- A framer has kept up with a stream: of what the source held so much has been taken, these
answers have been given for it, and this is left. -/
structure KeepsUp (source : List Read) (taken : List Item) (given : List FrameAnswer) (f : Framer)
    (left : List Read) : Prop where
  /-- What has been taken is the front of what the source held, and the rest is still there. -/
  order : flow source = taken ++ flow left
  /-- The frames given are those of the octets taken. -/
  frames : given.filterMap FrameAnswer.frame? = (Frame.parse (octets taken)).1
  /-- A call that has given a frame has taken nothing beyond it. -/
  boundary : ∀ frame, given.getLast? = some (.frame frame) → (Frame.parse (octets taken)).2 = []
  /-- The framer is idle between two frames and only there. -/
  between : f.isIdle = true ↔ (Frame.parse (octets taken)).2 = []
  /-- The next call takes octets up to the end of the frame that has been begun, and gives this
  frame, or up to the first answer that is no octet, and gives this answer. -/
  next : ∃ kept, Call (Frame.parse (octets taken)).2 (flow left) (f.pull left).1 kept
    (flow (f.pull left).2.2)
  /-- Each read of the next call asks for something, and for no more than the longest payload. -/
  asks : ∀ n, Asks f left n → 0 < n ∧ n ≤ maxPayload
  /-- Of octets that are there already each frame that they complete is given by a call of its own,
  and the call after these takes what is left of them and waits for more. -/
  chunk : ∀ bs, let all := Frame.parse ((Frame.parse (octets taken)).2 ++ bs)
    f.calls (Read.chunk bs) (all.1.length + 1) =
      (all.1.map .frame ++ [.pending], after all.2, [])

/-- Whatever a source holds, a new framer keeps up with it for any number of calls; and a source
that holds the same but divides it into other reads, or interrupts other reads, makes no
difference. -/
theorem frames_of_flow (source : List Read) (n : Nat) :
    (∃ taken, KeepsUp source taken (idle.calls source n).1 (idle.calls source n).2.1
      (idle.calls source n).2.2) ∧
    ∀ source', flow source' = flow source →
      (idle.calls source' n).1 = (idle.calls source n).1 ∧
        (idle.calls source' n).2.1 = (idle.calls source n).2.1 ∧
        flow (idle.calls source' n).2.2 = flow (idle.calls source n).2.2 := by
  refine ⟨?_, fun _ h => calls_congr h n⟩
  obtain ⟨taken, hflow, hframes, hframer, hboundary⟩ := calls_flow source n
  have hpartial := Frame.first?_parse (octets taken)
  obtain ⟨kept, hcall, -⟩ := pull_call hpartial (idle.calls source n).2.2
  refine ⟨taken, hflow, hframes, hboundary, ?_, ?_, ?_, ?_⟩
  · rw [hframer]
    exact isIdle_after
  · rw [hframer]
    exact ⟨kept, hcall⟩
  · rw [hframer]
    exact fun _ => Asks.bounds hpartial
  · rw [hframer]
    exact calls_chunk hpartial

/-- A frame that comes in one piece, and the same frame in three. -/
theorem frames_of_flow_cut :
    flow [.data [0, 0, 0, 1, 0], .interrupted, .data [0, 0, 65], .data [7]] =
        flow [.data [0, 0, 0, 1, 0, 0, 0, 65, 7]] ∧
      (idle.calls [.data [0, 0, 0, 1, 0], .interrupted, .data [0, 0, 65], .data [7]] 1).1 =
        (idle.calls [.data [0, 0, 0, 1, 0, 0, 0, 65, 7]] 1).1 :=
  have hflow : flow [.data [0, 0, 0, 1, 0], .interrupted, .data [0, 0, 65], .data [7]] =
      flow [.data [0, 0, 0, 1, 0, 0, 0, 65, 7]] := rfl
  ⟨hflow, ((frames_of_flow _ 1).2 _ hflow).1⟩

-- a frame with one octet of payload, cut within its header; what follows it stays where it is
example : idle.calls [.data [0, 0, 0, 1, 0, 0], .wouldBlock, .interrupted, .data [0, 65, 7, 9]] 2 =
    ([.pending, .frame (.packet ⟨65, [7]⟩)], idle, [.data [9]]) := by
  decide +kernel

end Framer

end BrailleShare
