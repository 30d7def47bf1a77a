import BrailleShare.Request.Write

/-!
# The grammar of writes

A write on the wire is a word of flags and the fields that the flags announce, one behind the other.
This file says which strings of octets are writes and what each asks for, field by field and without
a word on how they are read.

Main statements: reading an optional field takes what the field is written as, if its flag is set,
and nothing otherwise (`Written.optional`), and the decoder accepts just the writes
(`decodeWindow_iff_grammar`).
-/

namespace BrailleShare

/-! ### Steps that may fail -/

/-- Two steps succeed if the first does and the second does with what came of it. -/
theorem Except.bind_eq_ok_iff {ε α β : Type} {x : Except ε α} {f : α → Except ε β} {b : β} :
    (x >>= f) = .ok b ↔ ∃ a, x = .ok a ∧ f a = .ok b := by
  cases x with
  | error e => simp [bind, Except.bind]
  | ok a => simp [bind, Except.bind]

/-- What is given without a step is given as it is. -/
theorem Except.pure_eq_ok_iff {ε α : Type} {a b : α} : (pure a : Except ε α) = .ok b ↔ a = b := by
  simp [pure, Except.pure]

/-! ### Reading from a cursor -/

namespace Cursor

variable {c c' : Cursor}

/-- A word is read if it stands at the cursor. -/
theorem word_eq_ok_iff {w : UInt32} :
    c.word = .ok (w, c') ↔ c.rest = Octets.ofWord w ++ c'.rest ∧ c'.whole = c.whole := by
  obtain ⟨whole, rest⟩ := c
  obtain ⟨whole', rest'⟩ := c'
  constructor
  · intro h
    unfold word at h
    split at h
    · rename_i a b d e r hr
      simp only [Except.ok.injEq, Prod.mk.injEq, Cursor.mk.injEq] at h
      obtain ⟨rfl, rfl, rfl⟩ := h
      exact ⟨by rw [hr, Octets.ofWord_word]; rfl, rfl⟩
    · cases h
  · rintro ⟨hrest, hwhole⟩
    simp only [Octets.ofWord, List.cons_append, List.nil_append] at hrest hwhole
    simp only [word, hrest, hwhole, Octets.word_ofWord]

/-- Some octets are taken if as many stand at the cursor. -/
theorem take_eq_ok_iff {field : String} {size : Nat} {bs : Octets} :
    c.take field size = .ok (bs, c') ↔
      c.rest = bs ++ c'.rest ∧ c'.whole = c.whole ∧ bs.length = size := by
  obtain ⟨whole, rest⟩ := c
  obtain ⟨whole', rest'⟩ := c'
  unfold take
  split
  · rename_i hle
    simp only [Except.ok.injEq, Prod.mk.injEq, Cursor.mk.injEq]
    constructor
    · rintro ⟨rfl, rfl, rfl⟩
      exact ⟨(List.take_append_drop ..).symm, rfl, List.length_take_of_le hle⟩
    · rintro ⟨rfl, rfl, rfl⟩
      simp
  · rename_i hle
    simp only [reduceCtorEq, false_iff, not_and]
    rintro hrest - hsize
    simp only [hrest, List.length_append] at hle
    omega

/-- A name is read if its octets stand at the cursor, with their number before them. -/
theorem name_eq_ok_iff {s : String} :
    c.name = .ok (s, c') ↔ ∃ bs : Octets, s = String.ofList (Octets.latin1 bs) ∧
      c.rest = UInt8.ofNat bs.length :: bs ++ c'.rest ∧ c'.whole = c.whole ∧
      bs.length ≤ maxName := by
  obtain ⟨whole, rest⟩ := c
  unfold name
  cases rest with
  | nil => simp
  | cons size rest =>
    simp only
    split
    · rename_i hlong
      simp only [reduceCtorEq, false_iff, not_exists, not_and, maxName] at hlong ⊢
      rintro bs - hrest - hle
      have hsize : size = UInt8.ofNat bs.length := (List.cons.inj hrest).1
      rw [hsize, UInt8.toNat_ofNat'] at hlong
      omega
    · rename_i hshort
      simp only [Except.bind_eq_ok_iff, Except.pure_eq_ok_iff, Prod.exists, take_eq_ok_iff,
        Prod.mk.injEq, maxName, List.cons_append, List.cons.injEq] at hshort ⊢
      constructor
      · rintro ⟨bs, d, ⟨rfl, hwhole, hlen⟩, rfl, rfl⟩
        refine ⟨bs, rfl, ⟨?_, rfl⟩, hwhole, by omega⟩
        rw [hlen, UInt8.ofNat_toNat]
      · rintro ⟨bs, rfl, ⟨rfl, rfl⟩, hwhole, hle⟩
        refine ⟨bs, c', ⟨rfl, hwhole, ?_⟩, rfl, rfl⟩
        rw [UInt8.toNat_ofNat']
        omega

/-- A request ends where nothing is left. -/
theorem done_eq_ok_iff {u : Unit} : c.done = .ok u ↔ c.rest = [] := by
  unfold done
  split <;> simp [*]

end Cursor

namespace Request

/-! ### Fields -/

/-- A reader takes values as they are written: it accepts a string of octets if it begins with what
some value is written as and this value fits what follows. -/
def Written {α β : Type} (field : Cursor → Except RequestError (α × Cursor)) (octets : β → Octets)
    (value : β → α) (fits : β → Octets → Prop) : Prop :=
  ∀ c a c', field c = .ok (a, c') ↔ ∃ b, a = value b ∧ c.rest = octets b ++ c'.rest ∧
    c'.whole = c.whole ∧ fits b c'.rest

/-- An optional field is written as its value, or not at all. -/
theorem Written.optional {α β : Type} {field : Cursor → Except RequestError (α × Cursor)}
    {octets : β → Octets} {value : β → α} {fits : β → Octets → Prop}
    (h : Written field octets value fits) (present : Bool) :
    Written (optional present field) (fun o : Option β => o.elim [] octets) (Option.map value)
      fun o rest => present = o.isSome ∧ ∀ b, o = some b → fits b rest := by
  intro c o c'
  cases present with
  | false =>
    simp only [Request.optional, Bool.false_eq_true, if_false, Except.ok.injEq, Prod.mk.injEq]
    constructor
    · rintro ⟨rfl, rfl⟩
      exact ⟨none, rfl, rfl, rfl, rfl, by simp⟩
    · rintro ⟨b, rfl, hrest, hwhole, hnone, -⟩
      obtain rfl : b = none := by simpa using hnone
      refine ⟨rfl, ?_⟩
      cases c
      cases c'
      simp_all
  | true =>
    simp only [Request.optional, if_true, Except.bind_eq_ok_iff, Except.pure_eq_ok_iff,
      Prod.exists, h _ _ _, Prod.mk.injEq]
    constructor
    · rintro ⟨a, d, ⟨b, rfl, hrest, hwhole, hfits⟩, rfl, rfl⟩
      exact ⟨some b, rfl, hrest, hwhole, rfl, by simpa using hfits⟩
    · rintro ⟨b, rfl, hrest, hwhole, hsome, hfits⟩
      obtain ⟨b, rfl⟩ := Option.isSome_iff_exists.1 hsome.symm
      exact ⟨value b, c', ⟨b, rfl, hrest, hwhole, hfits b rfl⟩, rfl, rfl⟩

/-- A region is written in two words and lies within the display. -/
theorem readRegion_written (cells : Nat) :
    Written (readRegion cells) (fun r : UInt32 × UInt32 => Octets.ofWord r.1 ++ Octets.ofWord r.2)
      (fun r => (r.1.toNat, r.2.toNat)) fun r rest => rest ≠ [] ∧ 1 ≤ r.1.toNat ∧ 1 ≤ r.2.toNat ∧
        r.1.toNat + r.2.toNat - 1 ≤ cells := by
  intro c a c'
  constructor
  · intro h
    unfold readRegion at h
    split at h
    · cases h
    · rename_i hlong
      simp only [Except.bind_eq_ok_iff, Prod.exists, Cursor.word_eq_ok_iff] at h
      obtain ⟨first, d, ⟨hfirst, hd⟩, size, d', ⟨hsize, hd'⟩, h⟩ := h
      split at h
      · rename_i hin
        obtain ⟨rfl, rfl⟩ := Prod.mk.inj (Except.pure_eq_ok_iff.1 h)
        refine ⟨(first, size), rfl, ?_, hd'.trans hd, ?_, hin⟩
        · rw [hfirst, hsize, List.append_assoc]
        · rintro hnil
          simp [hfirst, hsize, hnil] at hlong
      · cases h
  · rintro ⟨⟨first, size⟩, rfl, hrest, hwhole, hne, hin⟩
    have hlong : ¬ c.rest.length ≤ 8 := by
      have hpos := List.length_pos_iff.2 hne
      simp only [hrest, List.length_append, Octets.length_ofWord]
      omega
    unfold readRegion
    rw [if_neg hlong]
    simp only [Except.bind_eq_ok_iff, Prod.exists, Cursor.word_eq_ok_iff]
    refine ⟨first, ⟨c.whole, Octets.ofWord size ++ c'.rest⟩, ⟨?_, rfl⟩, size, c', ⟨rfl, hwhole⟩, ?_⟩
    · rw [hrest, List.append_assoc]
    · rw [if_pos hin]
      rfl

/-- A text is written with its length before it. -/
theorem readText_written :
    Written readText (fun bs : Octets => Octets.ofWord (UInt32.ofNat bs.length) ++ bs) id
      fun bs _ => bs.length < UInt32.size := by
  intro c bs c'
  simp only [readText, Except.bind_eq_ok_iff, Prod.exists, Cursor.word_eq_ok_iff,
    Cursor.take_eq_ok_iff, id]
  constructor
  · rintro ⟨size, d, ⟨hsize, hd⟩, hbs, hwhole, hlen⟩
    refine ⟨bs, rfl, ?_, hwhole.trans hd, hlen ▸ size.toNat_lt⟩
    rw [hlen, UInt32.ofNat_toNat, hsize, hbs, List.append_assoc]
  · rintro ⟨_, rfl, hrest, hwhole, hlen⟩
    refine ⟨UInt32.ofNat bs.length, ⟨c.whole, bs ++ c'.rest⟩, ⟨?_, rfl⟩, rfl, hwhole, ?_⟩
    · rw [hrest, List.append_assoc]
    · exact (UInt32.toNat_ofNat_of_lt' hlen).symm

/-- Octets of a known number are written as they are. -/
theorem take_written (field : String) (size : Nat) :
    Written (·.take field size) (fun bs : Octets => bs) id fun bs _ => bs.length = size := by
  intro c bs c'
  simp only [Cursor.take_eq_ok_iff, id]
  constructor
  · rintro h
    exact ⟨bs, rfl, h⟩
  · rintro ⟨_, rfl, h⟩
    exact h

/-- A cursor is written in a word and lies within the display. -/
theorem readCursor_written (cells : Nat) :
    Written (readCursor cells) Octets.ofWord UInt32.toNat fun v _ => v.toNat ≤ cells := by
  intro c a c'
  simp only [readCursor, Except.bind_eq_ok_iff, Prod.exists, Cursor.word_eq_ok_iff]
  constructor
  · rintro ⟨v, d, ⟨hrest, hwhole⟩, h⟩
    split at h
    · obtain ⟨rfl, rfl⟩ := Prod.mk.inj (Except.pure_eq_ok_iff.1 h)
      exact ⟨v, rfl, hrest, hwhole, ‹_›⟩
    · cases h
  · rintro ⟨v, rfl, hrest, hwhole, hle⟩
    refine ⟨v, c', ⟨hrest, hwhole⟩, ?_⟩
    rw [if_pos hle]
    rfl

/-- A charset is written as a name, and only beside a text. -/
theorem readCharset_written (hasText : Bool) :
    Written (readCharset hasText) (fun bs : Octets => UInt8.ofNat bs.length :: bs)
      (fun bs => String.ofList (Octets.latin1 bs)) fun bs _ =>
        hasText = true ∧ bs.length ≤ maxName := by
  intro c s c'
  cases hasText with
  | false => simp [readCharset]
  | true =>
    have hname : readCharset true c = .ok (s, c') ↔ c.name = .ok (s, c') := by
      simp only [readCharset, if_true]
      split
      · simp [*]
      · rfl
    rw [hname, Cursor.name_eq_ok_iff]
    simp

/-! ### Writes -/

/-- The fields of a write, as they stand in its payload. -/
structure WriteFields where
  /-- The first cell and the number of cells. -/
  region : Option (UInt32 × UInt32)
  text : Option Octets
  andMask : Option Octets
  orMask : Option Octets
  cursor : Option UInt32
  charset : Option Octets

namespace WriteFields

/-- The fields behind the region, one behind the other. -/
def behindRegion (f : WriteFields) : Octets :=
  f.text.elim [] (fun bs => Octets.ofWord (UInt32.ofNat bs.length) ++ bs) ++
    (f.andMask.elim [] (fun bs => bs) ++
      (f.orMask.elim [] (fun bs => bs) ++
        (f.cursor.elim [] Octets.ofWord ++
          f.charset.elim [] fun name => UInt8.ofNat name.length :: name)))

/-- The fields, the region first. -/
def octets (f : WriteFields) : Octets :=
  f.region.elim [] (fun r => Octets.ofWord r.1 ++ Octets.ofWord r.2) ++ f.behindRegion

/-- The first cell that is written, counted from one, and the number of cells: those of the region,
or the whole display. -/
def span (f : WriteFields) (cells : Nat) : Nat × Nat :=
  (f.region.map fun r => (r.1.toNat, r.2.toNat)).getD (1, cells)

/-- The fields are those that the flags announce, and each may be what it is. -/
structure Fits (f : WriteFields) (flags : UInt32) (cells : Nat) : Prop where
  noDisplayNumber : hasFlag flags 0x01 = false
  region : hasFlag flags 0x02 = f.region.isSome
  text : hasFlag flags 0x04 = f.text.isSome
  andMask : hasFlag flags 0x08 = f.andMask.isSome
  orMask : hasFlag flags 0x10 = f.orMask.isSome
  cursor : hasFlag flags 0x20 = f.cursor.isSome
  charset : hasFlag flags 0x40 = f.charset.isSome
  /-- A region lies within the display and is not empty. -/
  inside : ∀ r, f.region = some r →
    1 ≤ r.1.toNat ∧ 1 ≤ r.2.toNat ∧ r.1.toNat + r.2.toNat - 1 ≤ cells
  /-- A region does not stand alone. -/
  followed : f.region.isSome →
    f.text.isSome ∨ f.andMask.isSome ∨ f.orMask.isSome ∨ f.cursor.isSome ∨ f.charset.isSome
  textLength : ∀ bs, f.text = some bs → bs.length < UInt32.size
  /-- A mask has an octet for each cell. -/
  andLength : ∀ bs, f.andMask = some bs → bs.length = (f.span cells).2
  orLength : ∀ bs, f.orMask = some bs → bs.length = (f.span cells).2
  onDisplay : ∀ v, f.cursor = some v → v.toNat ≤ cells
  /-- A character set is that of a text, and its name is short. -/
  forText : ∀ name, f.charset = some name → f.text.isSome = true ∧ name.length ≤ 31

/-- What the fields ask for. -/
structure AskFor (f : WriteFields) (cells : Nat) (u : Update) : Prop where
  start : u.start = (f.span cells).1
  size : u.size = (f.span cells).2
  noText : f.text = none → u.text = none
  /-- A text is read in its character set and has a character for each cell. -/
  text : ∀ bs, f.text = some bs → ∃ characters, u.text = some characters ∧
    Charset.decode (f.charset.map fun name => String.ofList (Octets.latin1 name)) bs =
      .ok characters ∧ characters.length = (f.span cells).2
  andMask : u.andMask = f.andMask
  orMask : u.orMask = f.orMask
  cursor : u.cursor = f.cursor.map UInt32.toNat

end WriteFields

/-- A payload is a write of this update. -/
def IsWrite (cells : Nat) (payload : Octets) (u : Update) : Prop :=
  ∃ flags f, payload = Octets.ofWord flags ++ WriteFields.octets f ∧ flags ≠ 0 ∧
    f.Fits flags cells ∧ f.AskFor cells u

namespace WriteFields

variable {f : WriteFields} {flags : UInt32} {cells : Nat} {u : Update}

/-- If there are octets behind the region there is a field behind it. -/
theorem followed_of_ne_nil (h : f.behindRegion ≠ []) :
    f.text.isSome ∨ f.andMask.isSome ∨ f.orMask.isSome ∨ f.cursor.isSome ∨ f.charset.isSome := by
  refine Decidable.byContradiction fun hnone => ?_
  simp only [not_or, Bool.not_eq_true, Option.isSome_eq_false_iff, Option.isNone_iff_eq_none]
    at hnone
  obtain ⟨htext, hand, hor, hcursor, hcharset⟩ := hnone
  simp [behindRegion, htext, hand, hor, hcursor, hcharset] at h

/-- Each field behind a region takes up an octet at least: a mask because the region is not
empty. -/
theorem Fits.behindRegion_ne_nil (h : f.Fits flags cells) {r : UInt32 × UInt32}
    (hr : f.region = some r) : f.behindRegion ≠ [] := by
  have hsize : 1 ≤ (f.span cells).2 := by
    simpa [span, hr] using (h.inside r hr).2.1
  have hmask : ∀ {bs : Octets}, bs.length = (f.span cells).2 → bs ≠ [] := by
    rintro bs hlen rfl
    simp [← hlen] at hsize
  intro hnil
  simp only [behindRegion, List.append_eq_nil_iff] at hnil
  obtain ⟨htext, hand, hor, hcursor, hcharset⟩ := hnil
  rcases h.followed (by simp [hr]) with hs | hs | hs | hs | hs <;>
    obtain ⟨x, hx⟩ := Option.isSome_iff_exists.1 hs
  · simp [hx, Octets.ofWord] at htext
  · exact hmask (h.andLength x hx) (by simpa [hx] using hand)
  · exact hmask (h.orLength x hx) (by simpa [hx] using hor)
  · simp [hx, Octets.ofWord] at hcursor
  · simp [hx] at hcharset

/-- No flag announces no field. -/
theorem Fits.octets_zero (h : f.Fits 0 cells) : f.octets = [] := by
  have hnone {α : Type} {o : Option α} {flag : UInt32} (ho : hasFlag 0 flag = o.isSome) :
      o = none := by
    rw [hasFlag, UInt32.zero_and] at ho
    simpa using ho.symm
  simp [octets, behindRegion, hnone h.region, hnone h.text, hnone h.andMask, hnone h.orMask,
    hnone h.cursor, hnone h.charset]

/-- The fields settle everything but the characters of the text. -/
theorem AskFor.eq (h : f.AskFor cells u) : u = ⟨(f.span cells).1, (f.span cells).2, u.text,
    f.andMask, f.orMask, f.cursor.map UInt32.toNat⟩ := by
  obtain ⟨start, size, text, andMask, orMask, cursor⟩ := u
  obtain ⟨rfl, rfl, -, -, rfl, rfl, rfl⟩ := h
  rfl

end WriteFields

/-- Octets make a text for some cells if the charset turns them into as many characters. -/
theorem textFor_eq_ok_iff {cells : Nat} {charset : Option String} {bs : Octets}
    {characters : List Char} : textFor cells charset bs = .ok characters ↔
      Charset.decode charset bs = .ok characters ∧ characters.length = cells := by
  unfold textFor
  split
  · simp [*]
  · rename_i text htext
    rw [htext]
    split <;> simp <;> grind

/-- What an update was read from are the fields of a write that fit the flags and the display, and
the update is what they ask for. -/
theorem exists_fields_of_decodeUpdate {flags : UInt32} {cells : Nat} {c : Cursor} {u : Update}
    (h : decodeUpdate flags cells c = .ok u) :
    ∃ f : WriteFields, c.rest = f.octets ∧ f.Fits flags cells ∧ f.AskFor cells u := by
  unfold decodeUpdate at h
  split at h
  · cases h
  rename_i hdisplay
  simp only [Except.bind_eq_ok_iff, Prod.exists] at h
  obtain ⟨_, c₁, hregion, _, c₂, htext, _, c₃, hand, _, c₄, hor, _, c₅, hcursor, _, c₆, hcharset,
    _, hdone, h⟩ := h
  obtain ⟨region, rfl, hr₁, -, hflag₁, hfits₁⟩ :=
    ((readRegion_written cells).optional _ _ _ _).1 hregion
  obtain ⟨text, rfl, hr₂, -, hflag₂, hfits₂⟩ := (readText_written.optional _ _ _ _).1 htext
  obtain ⟨andMask, rfl, hr₃, -, hflag₃, hfits₃⟩ := ((take_written _ _).optional _ _ _ _).1 hand
  obtain ⟨orMask, rfl, hr₄, -, hflag₄, hfits₄⟩ := ((take_written _ _).optional _ _ _ _).1 hor
  obtain ⟨cursor, rfl, hr₅, -, hflag₅, hfits₅⟩ :=
    ((readCursor_written cells).optional _ _ _ _).1 hcursor
  obtain ⟨charset, rfl, hr₆, -, hflag₆, hfits₆⟩ :=
    ((readCharset_written _).optional _ _ _ _).1 hcharset
  rw [Cursor.done_eq_ok_iff] at hdone
  -- nothing is left at the end, so what stood behind the region are the other fields
  have hbehind : c₁.rest =
      (WriteFields.mk region text andMask orMask cursor charset).behindRegion := by
    rw [hr₂, hr₃, hr₄, hr₅, hr₆, hdone, List.append_nil]
    rfl
  refine ⟨⟨region, text, andMask, orMask, cursor, charset⟩, ?_, ?_, ?_⟩
  · rw [hr₁, hbehind]
    rfl
  · constructor
    case noDisplayNumber => exact (Bool.not_eq_true _).mp hdisplay
    case region => exact hflag₁
    case text => exact hflag₂
    case andMask => exact hflag₃
    case orMask => exact hflag₄
    case cursor => exact hflag₅
    case charset => exact hflag₆
    case inside => exact fun r hr => (hfits₁ r hr).2
    case followed =>
      intro hsome
      obtain ⟨r, hr⟩ := Option.isSome_iff_exists.1 hsome
      exact WriteFields.followed_of_ne_nil (hbehind ▸ (hfits₁ r hr).1)
    case textLength => exact hfits₂
    case andLength => exact hfits₃
    case orLength => exact hfits₄
    case onDisplay => exact hfits₅
    case forText =>
      intro name hname
      simpa [maxName] using hfits₆ name hname
  · cases text with
    | none =>
      obtain rfl := Except.pure_eq_ok_iff.1 h
      exact ⟨rfl, rfl, fun _ => rfl, by simp, congrFun Option.map_id _,
        congrFun Option.map_id _, rfl⟩
    | some bs =>
      simp only [Option.map_some, Except.bind_eq_ok_iff, textFor_eq_ok_iff] at h
      obtain ⟨characters, ⟨hdecode, hlen⟩, h⟩ := h
      obtain rfl := Except.pure_eq_ok_iff.1 h
      refine ⟨rfl, rfl, by simp, ?_, congrFun Option.map_id _, congrFun Option.map_id _, rfl⟩
      rintro _ ⟨⟩
      exact ⟨characters, rfl, hdecode, hlen⟩

/-- The fields of a write that fit the flags and the display are read as the update that they ask
for. -/
theorem decodeUpdate_of_fits {flags : UInt32} {cells : Nat} {c : Cursor} {u : Update}
    {f : WriteFields} (hrest : c.rest = f.octets) (hfits : f.Fits flags cells)
    (hasks : f.AskFor cells u) : decodeUpdate flags cells c = .ok u := by
  have hdisplay : ¬ hasFlag flags WriteFlag.displayNumber = true :=
    (Bool.not_eq_true _).mpr hfits.noDisplayNumber
  rw [decodeUpdate, if_neg hdisplay]
  simp only [Except.bind_eq_ok_iff, Prod.exists]
  -- each field is taken from the front of those behind it
  have hregion := ((readRegion_written cells).optional (hasFlag flags WriteFlag.region) c
    (f.region.map fun r => (r.1.toNat, r.2.toNat)) ⟨c.whole, f.behindRegion⟩).2
    ⟨f.region, rfl, hrest, rfl, hfits.region, fun r hr =>
      ⟨hfits.behindRegion_ne_nil hr, hfits.inside r hr⟩⟩
  refine ⟨_, _, hregion, ?_⟩
  refine ⟨_, ⟨c.whole, _⟩, (readText_written.optional _ _ _ _).2
    ⟨f.text, rfl, rfl, rfl, hfits.text, hfits.textLength⟩, ?_⟩
  refine ⟨_, ⟨c.whole, _⟩, ((take_written _ _).optional _ _ _ _).2
    ⟨f.andMask, rfl, rfl, rfl, hfits.andMask, hfits.andLength⟩, ?_⟩
  refine ⟨_, ⟨c.whole, _⟩, ((take_written _ _).optional _ _ _ _).2
    ⟨f.orMask, rfl, rfl, rfl, hfits.orMask, hfits.orLength⟩, ?_⟩
  refine ⟨_, ⟨c.whole, _⟩, ((readCursor_written cells).optional _ _ _ _).2
    ⟨f.cursor, rfl, rfl, rfl, hfits.cursor, hfits.onDisplay⟩, ?_⟩
  refine ⟨_, ⟨c.whole, []⟩, ((readCharset_written _).optional _ _ _ _).2
    ⟨f.charset, rfl, (List.append_nil _).symm, rfl, hfits.charset, ?_⟩, ?_⟩
  · intro name hname
    simpa [maxName] using hfits.forText name hname
  refine ⟨(), Cursor.done_eq_ok_iff.2 rfl, ?_⟩
  rw [hasks.eq]
  cases htext : f.text with
  | none =>
    rw [hasks.noText htext]
    simp [WriteFields.span, pure, Except.pure]
  | some bs =>
    obtain ⟨characters, hcharacters, hdecode, hlen⟩ := hasks.text bs htext
    rw [hcharacters]
    have htextFor := textFor_eq_ok_iff.2 ⟨hdecode, hlen⟩
    simp only [Option.map_some, id, Except.bind_eq_ok_iff]
    refine ⟨characters, htextFor, ?_⟩
    simp [WriteFields.span, pure, Except.pure]

/-- An update is read from the fields that it is written in, if they fit the flags and the display,
and from nothing else. -/
theorem decodeUpdate_eq_ok_iff {flags : UInt32} {cells : Nat} {c : Cursor} {u : Update} :
    decodeUpdate flags cells c = .ok u ↔
      ∃ f : WriteFields, c.rest = f.octets ∧ f.Fits flags cells ∧ f.AskFor cells u :=
  ⟨exists_fields_of_decodeUpdate, fun ⟨_, hrest, hfits, hasks⟩ =>
    decodeUpdate_of_fits hrest hfits hasks⟩

/-- A payload is a clear if it is four zero octets, it is an update if it is a write of it, and it
is refused if it is neither. No payload is a write of two updates. -/
theorem decodeWindow_iff_grammar (cells : Nat) (payload : Octets) :
    (decodeWindow cells payload = .ok .clear ↔ payload = [0, 0, 0, 0]) ∧
      (∀ u, decodeWindow cells payload = .ok (.update u) ↔ IsWrite cells payload u) ∧
      ((∃ e, decodeWindow cells payload = .error e) ↔
        payload ≠ [0, 0, 0, 0] ∧ ∀ u, ¬ IsWrite cells payload u) ∧
      ∀ u u', IsWrite cells payload u → IsWrite cells payload u' → u = u' := by
  have hclear : decodeWindow cells payload = .ok .clear ↔ payload = [0, 0, 0, 0] := by
    rw [show [0, 0, 0, 0] = Octets.ofWord 0 from rfl]
    simp only [decodeWindow, Except.bind_eq_ok_iff, Prod.exists, Cursor.word_eq_ok_iff]
    constructor
    · rintro ⟨flags, c, ⟨hpayload, -⟩, h⟩
      split at h
      · rename_i hempty
        rw [← hempty.2, ← List.append_nil (Octets.ofWord flags), ← hempty.1]
        exact hpayload
      · obtain ⟨u, -, hu⟩ := Except.bind_eq_ok_iff.1 h
        cases Except.pure_eq_ok_iff.1 hu
    · rintro rfl
      refine ⟨0, ⟨_, []⟩, ⟨(List.append_nil _).symm, rfl⟩, ?_⟩
      rw [if_pos ⟨rfl, rfl⟩]
      rfl
  have hupdate : ∀ u, decodeWindow cells payload = .ok (.update u) ↔ IsWrite cells payload u := by
    intro u
    simp only [decodeWindow, Except.bind_eq_ok_iff, Prod.exists, Cursor.word_eq_ok_iff]
    constructor
    · rintro ⟨flags, c, ⟨hpayload, -⟩, h⟩
      split at h
      · cases Except.pure_eq_ok_iff.1 h
      · rename_i hfull
        obtain ⟨u', hdecode, hu⟩ := Except.bind_eq_ok_iff.1 h
        obtain rfl := WindowRequest.update.inj (Except.pure_eq_ok_iff.1 hu)
        obtain ⟨f, hrest, hfits, hasks⟩ := decodeUpdate_eq_ok_iff.1 hdecode
        refine ⟨flags, f, hrest ▸ hpayload, ?_, hfits, hasks⟩
        rintro rfl
        -- flags of zero announce no field, and four zero octets are a clear
        exact hfull ⟨hrest.trans hfits.octets_zero, rfl⟩
    · rintro ⟨flags, f, rfl, hflags, hfits, hasks⟩
      refine ⟨flags, ⟨_, f.octets⟩, ⟨rfl, rfl⟩, ?_⟩
      rw [if_neg fun hempty => hflags hempty.2, Except.bind_eq_ok_iff]
      exact ⟨u, decodeUpdate_eq_ok_iff.2 ⟨f, rfl, hfits, hasks⟩, rfl⟩
  refine ⟨hclear, hupdate, ?_, ?_⟩
  · simp only [ne_eq, ← hclear, ← hupdate]
    rcases hd : decodeWindow cells payload with e | (_ | u)
    · simp
    · simp
    · simp
  · intro u u' h h'
    have heq := ((hupdate u).2 h).symm.trans ((hupdate u').2 h')
    simpa using heq

/-- A region of two cells, its text and the cursor, on a display of eight cells. -/
theorem decodeWindow_iff_grammar_hi :
    IsWrite 8 (Octets.ofWord 0x26 ++ Octets.ofWord 2 ++ Octets.ofWord 2 ++ Octets.ofWord 2 ++
      [104, 105] ++ Octets.ofWord 1) ⟨2, 2, some ['h', 'i'], none, none, some 1⟩ :=
  ((decodeWindow_iff_grammar 8 _).2.1 _).1 (by rfl)

end Request

end BrailleShare
