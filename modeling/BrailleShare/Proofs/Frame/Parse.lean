import BrailleShare.Frame

/-!
# The frames of a stream

What the frames of a string of octets are, said of the whole string at once: a header, as many
octets as it announces, and so on, until what is left is no whole frame. The framer, which is given
the same octets a few at a time, is then described by the octets of the frame that it is in
(`Framer.after`).

Main statements: the frames of a longer string are those of its front and those of what the front
leaves over with the rest (`parse_append`); an encoded packet is one frame (`parse_encode`); a
framer within a frame asks for something (`Framer.asks_after_pos`); and what it takes in brings it
to where the octets read so far say, or completes just the frame that they make
(`Framer.absorb_after`, `Framer.rest_eq_nil`).
-/

namespace BrailleShare

namespace Frame

/-! ### Whole frames -/

/-- What a header and the payload behind it amount to. -/
def ofPayload (type : UInt32) (size : Nat) (payload : Octets) : Frame :=
  if size ≤ maxPayload then .packet ⟨type, payload⟩ else .oversized type size

/-- The first frame of a string of octets and what follows it, if that frame is whole. -/
def first? : Octets → Option (Frame × Octets)
  | a :: b :: c :: d :: e :: f :: g :: h :: rest =>
    let size := (Octets.word a b c d).toNat
    if size ≤ rest.length then
      some (ofPayload (Octets.word e f g h) size (rest.take size), rest.drop size)
    else none
  | _ => none

variable {bs rest : Octets} {frame : Frame}

/-- A string of octets is too short for a header, or it begins with one. -/
theorem short_or_header (bs : Octets) : bs.length < headerSize ∨
    ∃ a b c d e f g h rest, bs = a :: b :: c :: d :: e :: f :: g :: h :: rest := by
  rcases bs with _ | ⟨a, _ | ⟨b, _ | ⟨c, _ | ⟨d, _ | ⟨e, _ | ⟨f, _ | ⟨g, _ | ⟨h, rest⟩⟩⟩⟩⟩⟩⟩⟩
  all_goals first
    | exact .inr ⟨_, _, _, _, _, _, _, _, _, rfl⟩
    | exact .inl (by simp [headerSize])

/-- Without a whole header there is no frame. -/
theorem first?_of_short (h : bs.length < headerSize) : first? bs = none := by
  unfold first?
  split
  · simp only [List.length_cons, headerSize] at h
    omega
  · rfl

/-- With a whole header the frame is there as soon as its payload is. -/
theorem first?_header (a b c d e f g h : UInt8) (rest : Octets) :
    first? (a :: b :: c :: d :: e :: f :: g :: h :: rest) =
      if (Octets.word a b c d).toNat ≤ rest.length then
        some (ofPayload (Octets.word e f g h) (Octets.word a b c d).toNat
          (rest.take (Octets.word a b c d).toNat), rest.drop (Octets.word a b c d).toNat)
      else none :=
  rfl

/-- Behind its header a frame that is not whole has fewer octets than the header announces. -/
theorem first?_header_eq_none_iff {a b c d e f g h : UInt8} :
    first? (a :: b :: c :: d :: e :: f :: g :: h :: rest) = none ↔
      rest.length < (Octets.word a b c d).toNat := by
  rw [first?_header]
  split
  · simp [*]
  · simpa using Nat.lt_of_not_le ‹_›

/-- A whole frame stays the first one whatever follows. -/
theorem first?_append (h : first? bs = some (frame, rest)) (more : Octets) :
    first? (bs ++ more) = some (frame, rest ++ more) := by
  rcases short_or_header bs with hs | ⟨a, b, c, d, e, f, g, i, payload, rfl⟩
  · simp [first?_of_short hs] at h
  · simp only [List.cons_append, first?_header] at h ⊢
    split at h
    · rename_i hle
      obtain ⟨rfl, rfl⟩ : _ ∧ _ := by simpa using h
      have hle' : (Octets.word a b c d).toNat ≤ (payload ++ more).length := by
        rw [List.length_append]
        omega
      rw [if_pos hle', List.take_append_of_le_length hle, List.drop_append_of_le_length hle]
    · cases h

/-- A whole frame takes up its header at least. -/
theorem length_lt_of_first? (h : first? bs = some (frame, rest)) : rest.length < bs.length := by
  rcases short_or_header bs with hs | ⟨a, b, c, d, e, f, g, i, payload, rfl⟩
  · simp [first?_of_short hs] at h
  · rw [first?_header] at h
    split at h
    · obtain ⟨-, rfl⟩ : _ ∧ _ := by simpa using h
      simp only [List.length_drop, List.length_cons]
      omega
    · cases h

/-! ### All frames -/

/-- The frames of a string of octets, and the octets behind the last whole one. -/
def parse (bs : Octets) : List Frame × Octets :=
  match h : first? bs with
  | none => ([], bs)
  | some (frame, rest) =>
    have := length_lt_of_first? h
    (frame :: (parse rest).1, (parse rest).2)
  termination_by bs.length

/-- Octets without a frame are left as they are. -/
theorem parse_of_none (h : first? bs = none) : parse bs = ([], bs) := by
  rw [parse]
  split
  · rfl
  · simp_all

/-- Nothing is read from nothing. -/
@[simp] theorem parse_nil : parse [] = ([], []) :=
  parse_of_none rfl

/-- The first frame is read, and then the rest. -/
theorem parse_of_some (h : first? bs = some (frame, rest)) :
    parse bs = (frame :: (parse rest).1, (parse rest).2) := by
  rw [parse]
  split
  · simp_all
  · rename_i heq
    obtain ⟨rfl, rfl⟩ : _ ∧ _ := by simpa using heq.symm.trans h
    rfl

/-- What is left over is no whole frame. -/
theorem first?_parse (bs : Octets) : first? (parse bs).2 = none := by
  fun_induction parse bs with
  | case1 bs h => exact h
  | case2 bs frame rest h lt ih => exact ih

/-- A string of octets may be parsed in two parts: what the first part leaves over goes before the
second. -/
theorem parse_append (bs more : Octets) :
    parse (bs ++ more) =
      ((parse bs).1 ++ (parse ((parse bs).2 ++ more)).1, (parse ((parse bs).2 ++ more)).2) := by
  fun_induction parse bs with
  | case1 bs h => rfl
  | case2 bs frame rest h lt ih =>
    rw [parse_of_some (first?_append h more), ih]
    rfl

/-- Octets that complete just one frame. -/
theorem parse_of_whole (h : first? bs = some (frame, [])) : parse bs = ([frame], []) := by
  rw [parse_of_some h, parse_nil]

/-! ### Packets on the wire -/

/-- A header of two words tells the size and the type. -/
theorem first?_words (size type : UInt32) (rest : Octets) :
    first? (Octets.ofWord size ++ Octets.ofWord type ++ rest) =
      if size.toNat ≤ rest.length then
        some (ofPayload type size.toNat (rest.take size.toNat), rest.drop size.toNat)
      else none := by
  simp only [Octets.ofWord, List.cons_append, List.nil_append, first?_header, Octets.word_ofWord]

end Frame

/-! ### The framer within a frame -/

namespace Framer

open BrailleShare.Frame

variable {p q : Octets} {frame : Frame} {rest : Octets}

/-- The framer that has read these octets of a frame that is not whole yet. -/
def after : Octets → Framer
  | a :: b :: c :: d :: e :: f :: g :: h :: got =>
    let size := (Octets.word a b c d).toNat
    if size ≤ maxPayload then .content (Octets.word e f g h) size got
    else .discarding (Octets.word e f g h) size (size - got.length)
  | got => .header got

/-- A header that is not whole is kept. -/
theorem after_of_short (h : p.length < headerSize) : after p = .header p := by
  unfold after
  split
  · simp only [List.length_cons, headerSize] at h
    omega
  · rfl

/-- After a whole header the payload is collected, or thrown away if it is too long. -/
theorem after_header (a b c d e f g h : UInt8) (got : Octets) :
    after (a :: b :: c :: d :: e :: f :: g :: h :: got) =
      if (Octets.word a b c d).toNat ≤ maxPayload then
        .content (Octets.word e f g h) (Octets.word a b c d).toNat got
      else .discarding (Octets.word e f g h) (Octets.word a b c d).toNat
        ((Octets.word a b c d).toNat - got.length) :=
  rfl

/-- The framer asks for octets as long as the frame is not whole. -/
theorem asks_after_pos (h : first? p = none) : 0 < (after p).asks := by
  rcases short_or_header p with hs | ⟨a, b, c, d, e, f, g, i, got, rfl⟩
  · rw [after_of_short hs, asks]
    omega
  · have hlt := first?_header_eq_none_iff.1 h
    rw [after_header]
    split <;> simp only [asks, maxPayload] <;> omega

/-- No read asks for more than the longest payload. -/
theorem asks_after_le (p : Octets) : (after p).asks ≤ maxPayload := by
  rcases short_or_header p with hs | ⟨a, b, c, d, e, f, g, i, got, rfl⟩
  · rw [after_of_short hs]
    simp only [asks, headerSize, maxPayload]
    omega
  · rw [after_header]
    split <;> simp only [asks] <;> omega

/-- A framer is between two frames if it has read nothing of the next. -/
theorem isIdle_after : (after p).isIdle = true ↔ p = [] := by
  rcases short_or_header p with hs | ⟨a, b, c, d, e, f, g, i, got, rfl⟩
  · rw [after_of_short hs]
    simp [isIdle]
  · rw [after_header]
    split <;> simp [isIdle]

/-! ### Taking octets in -/

/-- A header that is still not whole is kept with what has come. -/
theorem absorb_header_of_short (h : (p ++ q).length < headerSize) :
    (Framer.header p).absorb q = (.header (p ++ q), none) := by
  unfold absorb
  dsimp only
  split
  · simp_all [headerSize]
  · rfl

/-- The last octet of a header decides what comes next. -/
theorem absorb_header {a b c d e f g h : UInt8} (heq : p ++ q = [a, b, c, d, e, f, g, h]) :
    (Framer.header p).absorb q =
      afterHeader (Octets.word a b c d).toNat (Octets.word e f g h) := by
  simp [absorb, heq]

/-- The end of a header leads into the payload, or to the end of the frame if there is none. -/
theorem afterHeader_eq (a b c d e f g h : UInt8) :
    afterHeader (Octets.word a b c d).toNat (Octets.word e f g h) =
      match first? [a, b, c, d, e, f, g, h] with
      | none => (after [a, b, c, d, e, f, g, h], none)
      | some (frame, _) => (idle, some frame) := by
  rw [first?_header, after_header, afterHeader]
  by_cases hzero : (Octets.word a b c d).toNat = 0
  · simp [hzero, ofPayload]
  · have hne : ¬ (Octets.word a b c d).toNat ≤ ([] : Octets).length := by
      simpa using hzero
    rw [if_neg hzero, if_neg hne]
    split <;> rfl

/-- What is taken in leads to where all octets read so far say, or completes the frame that they
make. -/
theorem absorb_after (h : first? p = none) (hq : q.length ≤ (after p).asks) :
    (after p).absorb q =
      match first? (p ++ q) with
      | none => (after (p ++ q), none)
      | some (frame, _) => (idle, some frame) := by
  rcases short_or_header p with hs | ⟨a, b, c, d, e, f, g, i, got, rfl⟩
  · rw [after_of_short hs] at hq ⊢
    have hle : (p ++ q).length ≤ headerSize := by
      rw [List.length_append]
      rw [asks] at hq
      omega
    -- within the header; `q` may complete it, and is not longer than that
    rcases short_or_header (p ++ q) with hs' | ⟨a, b, c, d, e, f, g, i, r, hr⟩
    · rw [absorb_header_of_short hs', first?_of_short hs', after_of_short hs']
    · obtain rfl : r = [] := by
        rw [hr] at hle
        simp only [List.length_cons, headerSize] at hle
        exact List.eq_nil_of_length_eq_zero (by omega)
      rw [absorb_header hr, hr, afterHeader_eq]
  · have hlt := first?_header_eq_none_iff.1 h
    rw [after_header] at hq ⊢
    simp only [List.cons_append, first?_header, after_header, ofPayload]
    by_cases hsize : (Octets.word a b c d).toNat ≤ maxPayload
    · rw [if_pos hsize] at hq ⊢
      simp only [asks] at hq
      rw [absorb]
      by_cases hmore : (got ++ q).length < (Octets.word a b c d).toNat
      · rw [if_pos hmore, if_neg (by omega), if_pos hsize]
      · have hall : (got ++ q).take (Octets.word a b c d).toNat = got ++ q := by
          refine List.take_of_length_le ?_
          rw [List.length_append] at hmore ⊢
          omega
        rw [if_neg hmore, if_pos (by omega), if_pos hsize, hall]
    · rw [if_neg hsize] at hq ⊢
      simp only [asks] at hq
      rw [absorb, List.length_append]
      by_cases hmore : 0 < (Octets.word a b c d).toNat - got.length - q.length
      · rw [if_pos hmore, if_neg (by omega), if_neg hsize, Nat.sub_sub]
      · rw [if_neg hmore, if_pos (by omega), if_neg hsize]

/-- A read that completes a frame brings nothing beyond it. -/
theorem rest_eq_nil (h : first? p = none) (hq : q.length ≤ (after p).asks)
    (hw : first? (p ++ q) = some (frame, rest)) : rest = [] := by
  rcases short_or_header p with hs | ⟨a, b, c, d, e, f, g, i, got, rfl⟩
  · rw [after_of_short hs, asks] at hq
    rcases short_or_header (p ++ q) with hs' | ⟨a, b, c, d, e, f, g, i, r, hr⟩
    · simp [first?_of_short hs'] at hw
    · have hlen := congrArg List.length hr
      simp only [List.length_append, List.length_cons, headerSize] at hlen hq hs
      obtain rfl : r = [] := List.eq_nil_of_length_eq_zero (by omega)
      rw [hr, first?_header] at hw
      split at hw
      · simpa using (congrArg (·.2) (Option.some.inj hw)).symm
      · cases hw
  · have hlt := first?_header_eq_none_iff.1 h
    rw [after_header] at hq
    simp only [List.cons_append, first?_header] at hw
    split at hw
    · obtain ⟨-, rfl⟩ : _ ∧ _ := by simpa using hw
      refine List.drop_of_length_le ?_
      rw [List.length_append]
      split at hq <;> simp only [asks] at hq <;> omega
    · cases hw

end Framer

end BrailleShare
