import BrailleShare.Proofs.Request.Offsets

/-!
# Requests and their encodings

The encoders beside the decoders say how each of the simple requests stands on the wire: words with
the most significant octet first, a path behind its length, and a name as its length and one octet
for each character. This file says that the decoders accept these encodings and nothing else, so
that no octet of an accepted payload is ignored; and with which code the other payloads are refused.
Of all that can be wrong with a request for a tty or for the device, only a name that is too long
and a word that does not open raw mode are wrong parameters; everything else makes the packet
invalid.

A name can be told if all its characters are below `0x100` and there are at most 31 of them
(`IsShortName`): the length is one octet, and so is each character.
-/

namespace BrailleShare

/-- The first step that fails fails the rest. -/
theorem Except.bind_eq_error_iff {ε α β : Type} {x : Except ε α} {f : α → Except ε β} {e : ε} :
    (x >>= f) = .error e ↔ x = .error e ∨ ∃ a, x = .ok a ∧ f a = .error e := by
  cases x with
  | error e => simp [bind, Except.bind]
  | ok a => simp [bind, Except.bind]

/-! ### Names -/

namespace Octets

/-- A character below `0x100` is the character of its octet. -/
theorem latin1_ofNat_toNat {cs : List Char} (hcs : ∀ c ∈ cs, c.toNat < 256) :
    latin1 (cs.map fun c => UInt8.ofNat c.toNat) = cs := by
  induction cs with
  | nil => rfl
  | cons c cs ih =>
    have hc : (UInt8.ofNat c.toNat).toNat = c.toNat := by
      have hlt := hcs c List.mem_cons_self
      rw [UInt8.toNat_ofNat']
      omega
    have hrest := ih fun d hd => hcs d (List.mem_cons_of_mem c hd)
    rw [latin1] at hrest
    rw [latin1, List.map_cons, List.map_cons, hc, Char.ofNat_toNat, hrest]

/-- Octets are read back from the characters of Latin-1. -/
theorem ofNat_toNat_latin1 (bs : Octets) :
    (latin1 bs).map (fun c => UInt8.ofNat c.toNat) = bs := by
  rw [latin1, List.map_map]
  conv_rhs => rw [← List.map_id bs]
  apply List.map_congr_left
  intro b _
  show UInt8.ofNat (Char.ofNat b.toNat).toNat = b
  rw [toNat_ofNat_toNat, UInt8.ofNat_toNat]

/-- Different words are written in different octets. -/
theorem ofWord_injective : Function.Injective ofWord := by
  intro v w h
  have hwords := words_ofWord_append v []
  rw [h, words_ofWord_append] at hwords
  exact (List.cons.inj hwords).1.symm

/-- The first word of a payload and what follows it are told by the payload. -/
theorem ofWord_append_inj {w w' : UInt32} {rest rest' : Octets}
    (h : ofWord w ++ rest = ofWord w' ++ rest') : w = w' ∧ rest = rest' := by
  obtain ⟨hfirst, hrest⟩ := List.append_inj h rfl
  exact ⟨ofWord_injective hfirst, hrest⟩

end Octets

namespace Request

/-- A name that stands in requests as it is. -/
structure IsShortName (name : String) : Prop where
  latin1 : ∀ c ∈ name.toList, c.toNat < 256
  length : name.length ≤ 31

/-- A name is written with its length before it, a character an octet. -/
theorem encodeName_eq_named (name : String) :
    encodeName name = named (name.toList.map fun c => UInt8.ofNat c.toNat) := by
  rw [encodeName, named, List.length_map, String.length_toList]

/-- The names that can be told are those that are read from at most 31 octets, and the octets from
which such a name is read are those by which it is told. -/
theorem isShortName_iff {name : String} {bs : Octets} :
    (name = String.ofList (Octets.latin1 bs) ∧ bs.length ≤ maxName) ↔
      IsShortName name ∧ encodeName name = named bs := by
  constructor
  · rintro ⟨rfl, hlength⟩
    have hcount : (String.ofList (Octets.latin1 bs)).length = bs.length := by
      rw [String.length_ofList, Octets.length_latin1]
    refine ⟨⟨?_, hcount ▸ hlength⟩, ?_⟩
    · rw [String.toList_ofList]
      exact fun c hc => Octets.toNat_lt_of_mem_latin1 hc
    · rw [encodeName, hcount, String.toList_ofList, Octets.ofNat_toNat_latin1, named]
  · rintro ⟨hname, hencoded⟩
    obtain ⟨-, hoctets⟩ := List.cons.inj hencoded
    have hchars : Octets.latin1 bs = name.toList := by
      rw [← hoctets]
      exact Octets.latin1_ofNat_toNat hname.latin1
    refine ⟨by rw [hchars, String.ofList_toList], ?_⟩
    rw [← hoctets, List.length_map, String.length_toList]
    exact hname.length

/-! ### Accepted payloads -/

variable {payload : Octets}

/-- A login is read from its own encoding and from nothing else. -/
theorem decodeLogin_eq_ok_iff {l : Login} :
    decodeLogin payload = .ok l ↔ payload = encodeLogin l := by
  constructor
  · intro h
    obtain ⟨⟨version, c⟩, hversion, h⟩ := Except.bind_eq_ok_iff.1 h
    obtain rfl : ⟨version, c.rest⟩ = l := Except.pure_eq_ok_iff.1 h
    exact (Cursor.word_eq_ok_iff.1 hversion).1
  · rintro rfl
    rw [decodeLogin, encodeLogin, word_start_ofWord]
    rfl

/-- A change of focus is read from its own encoding and from nothing else. -/
theorem decodeFocus_eq_ok_iff {number : UInt32} :
    decodeFocus payload = .ok number ↔ payload = encodeFocus number := by
  constructor
  · intro h
    rw [decodeFocus] at h
    split at h
    · rename_i hlength
      obtain ⟨⟨w, c⟩, hw, h⟩ := Except.bind_eq_ok_iff.1 h
      obtain rfl : w = number := Except.pure_eq_ok_iff.1 h
      have hpayload : payload = Octets.ofWord w ++ c.rest := (Cursor.word_eq_ok_iff.1 hw).1
      rw [hpayload, List.length_append, Octets.length_ofWord] at hlength
      have hrest : c.rest = [] := List.eq_nil_of_length_eq_zero (by omega)
      rw [hpayload, hrest, List.append_nil, encodeFocus]
    · cases h
  · rintro rfl
    have hword := word_start_ofWord number []
    rw [List.append_nil] at hword
    rw [decodeFocus, encodeFocus, if_pos (Octets.length_ofWord number), hword]
    rfl

/-- A range of keys is read from its own encoding and from nothing else. -/
theorem decodeRange_eq_ok_iff {lo hi : UInt32} :
    decodeRange payload = .ok (lo, hi) ↔ payload = encodeKeyRange lo hi := by
  constructor
  · intro h
    rw [decodeRange] at h
    split at h
    · rename_i hlength
      obtain ⟨⟨l, c⟩, hl, h⟩ := Except.bind_eq_ok_iff.1 h
      obtain ⟨⟨u, c'⟩, hu, h⟩ := Except.bind_eq_ok_iff.1 h
      obtain ⟨rfl, rfl⟩ : l = lo ∧ u = hi := Prod.mk.inj (Except.pure_eq_ok_iff.1 h)
      have hpayload : payload = Octets.ofWord l ++ c.rest := (Cursor.word_eq_ok_iff.1 hl).1
      rw [(Cursor.word_eq_ok_iff.1 hu).1] at hpayload
      rw [hpayload, List.length_append, List.length_append, Octets.length_ofWord,
        Octets.length_ofWord] at hlength
      have hrest : c'.rest = [] := List.eq_nil_of_length_eq_zero (by omega)
      rw [hpayload, hrest, List.append_nil, encodeKeyRange]
    · cases h
  · rintro rfl
    have hlo := word_start_ofWord lo (Octets.ofWord hi)
    have hhi : Cursor.word ⟨(Octets.ofWord lo ++ Octets.ofWord hi).length, Octets.ofWord hi⟩ =
        .ok (hi, ⟨(Octets.ofWord lo ++ Octets.ofWord hi).length, []⟩) :=
      Cursor.word_eq_ok_iff.2 ⟨(List.append_nil _).symm, rfl⟩
    have hlength : (Octets.ofWord lo ++ Octets.ofWord hi).length = 8 := rfl
    rw [decodeRange, encodeKeyRange, if_pos hlength]
    refine Except.bind_eq_ok_iff.2 ⟨_, hlo, ?_⟩
    exact Except.bind_eq_ok_iff.2 ⟨_, hhi, rfl⟩

/-- A set of keys is read from its own encoding and from nothing else. -/
theorem decodeKeys_eq_ok_iff {keys : List UInt32} :
    decodeKeys payload = .ok keys ↔ payload = encodeKeySet keys := by
  constructor
  · intro h
    rw [decodeKeys] at h
    split at h
    · rename_i hlength
      obtain rfl : Octets.words payload = keys := Except.ok.inj h
      have hwords : payload.length = 4 * (payload.length / 4) := by omega
      exact (Octets.ofWords_words hwords).1.symm
    · cases h
  · rintro rfl
    have hlength : (encodeKeySet keys).length % 4 = 0 := by
      rw [encodeKeySet, Octets.length_ofWords]
      omega
    rw [decodeKeys, if_pos hlength, encodeKeySet, Octets.words_ofWords]

/-- A request for a tty is read from its own encoding and from nothing else, if its path can be
counted and its mode is a short name. -/
theorem decodeTty_eq_ok_iff_encodeTty {r : TtyRequest} :
    decodeTty payload = .ok r ↔
      payload = encodeTty r ∧ r.path.length < 2 ^ 32 ∧ IsShortName r.mode := by
  rw [decodeTty_eq_ok_iff, encodeTty, List.append_assoc]
  constructor
  · rintro ⟨bs, hmode, hpayload, hlength, hpath⟩
    obtain ⟨hname, hencoded⟩ := isShortName_iff.1 ⟨hmode, hlength⟩
    rw [hencoded]
    exact ⟨hpayload, hpath, hname⟩
  · rintro ⟨hpayload, hpath, hname⟩
    obtain ⟨hmode, hlength⟩ := isShortName_iff.2 ⟨hname, encodeName_eq_named r.mode⟩
    rw [encodeName_eq_named] at hpayload
    exact ⟨_, hmode, hpayload, hlength, hpath⟩

/-- A request for raw mode is read from its own encoding and from nothing else, if the driver has a
short name. -/
theorem decodeRaw_eq_ok_iff_encodeRaw {name : String} :
    decodeRaw payload = .ok name ↔ payload = encodeRaw name ∧ IsShortName name := by
  rw [decodeRaw_eq_ok_iff, encodeRaw]
  constructor
  · rintro ⟨bs, hchars, hpayload, hlength⟩
    obtain ⟨hname, hencoded⟩ := isShortName_iff.1 ⟨hchars, hlength⟩
    rw [hencoded]
    exact ⟨hpayload, hname⟩
  · rintro ⟨hpayload, hname⟩
    obtain ⟨hchars, hlength⟩ := isShortName_iff.2 ⟨hname, encodeName_eq_named name⟩
    rw [encodeName_eq_named] at hpayload
    exact ⟨_, hchars, hpayload, hlength⟩

/-! ### Refused payloads -/

/-- What follows begins with the length of a name, and the name is too long. -/
def TellsLongName (rest : Octets) : Prop :=
  ∃ size behind, rest = size :: behind ∧ 31 < size.toNat

/-- Behind the path of a request for a tty, as long as the request says it is, stands the length of
a name that is too long. -/
def HasLongMode (payload : Octets) : Prop :=
  ∃ count rest, payload = Octets.ofWord count ++ rest ∧ TellsLongName (rest.drop (4 * count.toNat))

/-- Behind the word that opens raw mode stands the length of a name that is too long. -/
def HasLongDriver (payload : Octets) : Prop :=
  ∃ rest, payload = Octets.ofWord rawMagic ++ rest ∧ TellsLongName rest

/-- A request for the device opens with another word, and does not end there. -/
def HasWrongMagic (payload : Octets) : Prop :=
  ∃ magic rest, payload = Octets.ofWord magic ++ rest ∧ rest ≠ [] ∧ magic ≠ rawMagic

/-- A refusal blames a parameter if something holds of the payload, and the packet if not. -/
def Blames (e : RequestError) (p : Prop) : Prop :=
  (p → e.code = .invalidParameter) ∧ (¬ p → e.code = .invalidPacket)

/-- A name is refused as too long, or for what is missing of it. -/
theorem blames_of_name {c : Cursor} {e : RequestError} (h : c.name = .error e) :
    Blames e (TellsLongName c.rest) := by
  obtain ⟨whole, rest⟩ := c
  cases rest with
  | nil =>
    obtain rfl := Except.error.inj h
    exact ⟨fun ⟨_, _, hrest, _⟩ => absurd hrest (List.cons_ne_nil _ _).symm, fun _ => rfl⟩
  | cons size rest =>
    rw [Cursor.name] at h
    dsimp only at h
    split at h
    · rename_i hlong
      obtain rfl := Except.error.inj h
      exact ⟨fun _ => rfl, fun hshort => absurd ⟨size, rest, rfl, hlong⟩ hshort⟩
    · rename_i hshort
      have hblame : ¬ TellsLongName (size :: rest) := by
        rintro ⟨_, _, hrest, hlong⟩
        obtain ⟨rfl, -⟩ := List.cons.inj hrest
        exact hshort hlong
      refine ⟨fun hlong => absurd hlong hblame, fun _ => ?_⟩
      rcases Except.bind_eq_error_iff.1 h with htake | ⟨_, -, h⟩
      · rw [Cursor.take] at htake
        split at htake
        · cases htake
        · obtain rfl := Except.error.inj htake
          rfl
      · cases h

/-- A payload that ends with a name is refused for the name, or for what follows it. -/
theorem blames_of_last {α : Type} {c : Cursor} (answer : String → α) {e : RequestError}
    (h : (c.name >>= fun p => p.2.done >>= fun _ => .ok (answer p.1)) = .error e) :
    Blames e (TellsLongName c.rest) := by
  rcases Except.bind_eq_error_iff.1 h with hname | ⟨⟨name, c'⟩, hname, h⟩
  · exact blames_of_name hname
  · obtain ⟨bs, -, hrest, -, hlength⟩ := Cursor.name_eq_ok_iff.1 hname
    have hblame : ¬ TellsLongName c.rest := by
      rintro ⟨size, behind, hlong, hsize⟩
      rw [hrest, List.cons_append] at hlong
      obtain ⟨rfl, -⟩ := List.cons.inj hlong
      rw [UInt8.toNat_ofNat'] at hsize
      rw [maxName] at hlength
      omega
    refine ⟨fun hlong => absurd hlong hblame, fun _ => ?_⟩
    rcases Except.bind_eq_error_iff.1 h with hdone | ⟨_, -, h⟩
    · rw [Cursor.done] at hdone
      split at hdone
      · cases hdone
      · obtain rfl := Except.error.inj hdone
        rfl
    · cases h

/-- Whether the name of a mode is too long is told by the octet after the path. -/
theorem hasLongMode_ofWord {count : UInt32} {rest : Octets} :
    HasLongMode (Octets.ofWord count ++ rest) ↔ TellsLongName (rest.drop (4 * count.toNat)) := by
  constructor
  · rintro ⟨count', rest', hpayload, hlong⟩
    obtain ⟨rfl, rfl⟩ := Octets.ofWord_append_inj hpayload
    exact hlong
  · exact fun hlong => ⟨count, rest, rfl, hlong⟩

/-- A request for a tty is refused with a wrong parameter for a long name only. -/
theorem blames_of_decodeTty {e : RequestError} (h : decodeTty payload = .error e) :
    Blames e (HasLongMode payload) := by
  cases ttyShape payload with
  | short hshort =>
    obtain rfl := Except.error.inj ((decodeTty_of_short hshort).symm.trans h)
    refine ⟨?_, fun _ => rfl⟩
    rintro ⟨count, rest, rfl, -⟩
    rw [length_ofWord_append] at hshort
    omega
  | cut hshort =>
    obtain rfl := Except.error.inj ((decodeTty_of_count hshort).symm.trans h)
    rw [hasLongMode_ofWord]
    refine ⟨?_, fun _ => rfl⟩
    rintro ⟨size, behind, hrest, -⟩
    rw [List.drop_eq_nil_of_le (by omega)] at hrest
    cases hrest
  | @whole path rest hpath hrest =>
    rw [decodeTty_of_path hpath hrest] at h
    rw [hasLongMode_ofWord, UInt32.toNat_ofNat_of_lt' hpath, ← Octets.length_ofWords,
      List.drop_left]
    exact blames_of_last (TtyRequest.mk path) h

/-- A request for the device is refused with a wrong parameter for a long name, and for another word
than the one that opens raw mode. -/
theorem blames_of_decodeRaw {e : RequestError} (h : decodeRaw payload = .error e) :
    Blames e (HasLongDriver payload ∨ HasWrongMagic payload) := by
  rw [decodeRaw] at h
  split at h
  · rename_i hshort
    obtain rfl := Except.error.inj h
    refine ⟨?_, fun _ => rfl⟩
    rintro (⟨rest, rfl, size, behind, rfl, -⟩ | ⟨magic, rest, rfl, hrest, -⟩)
    · rw [length_ofWord_append, List.length_cons] at hshort
      omega
    · have hpos := List.length_pos_iff.2 hrest
      rw [length_ofWord_append] at hshort
      omega
  · rename_i hlong
    have hopening : 4 ≤ payload.length := by omega
    obtain ⟨magic, rest, rfl⟩ := exists_eq_ofWord_append hopening
    rw [word_start_ofWord] at h
    change (if magic ≠ rawMagic then _ else _) = _ at h
    split at h
    · rename_i hwrong
      obtain rfl := Except.error.inj h
      have hrest : rest ≠ [] := by
        rintro rfl
        exact hlong (Nat.le_of_eq (Octets.length_ofWord magic))
      have hblame : HasWrongMagic (Octets.ofWord magic ++ rest) :=
        ⟨magic, rest, rfl, hrest, hwrong⟩
      exact ⟨fun _ => rfl, fun hright => absurd (.inr hblame) hright⟩
    · rename_i hopens
      obtain rfl : magic = rawMagic := Decidable.not_not.1 hopens
      have hblame : (HasLongDriver (Octets.ofWord rawMagic ++ rest) ∨
          HasWrongMagic (Octets.ofWord rawMagic ++ rest)) ↔ TellsLongName rest := by
        constructor
        · rintro (⟨rest', hpayload, hlong⟩ | ⟨magic, rest', hpayload, -, hwrong⟩)
          · obtain ⟨-, rfl⟩ := Octets.ofWord_append_inj hpayload
            exact hlong
          · exact absurd (Octets.ofWord_append_inj hpayload).1.symm hwrong
        · exact fun hlong => .inl ⟨rest, rfl, hlong⟩
      rw [hblame]
      exact blames_of_last id h

/-! ### Requests on the wire -/

/-- How the decoders take a payload: each accepts it as what it is the encoding of, a request for a
tty or for the device is refused with the code that the payload itself tells, and a path is read
without a size that does not fit or an octet that is not there, also if it is told to be longer than
the payload. -/
structure ReadsEncodings (payload : Octets) : Prop where
  login : ∀ l, decodeLogin payload = .ok l ↔ payload = encodeLogin l
  tty : ∀ r, decodeTty payload = .ok r ↔
    payload = encodeTty r ∧ r.path.length < 2 ^ 32 ∧ IsShortName r.mode
  focus : ∀ number, decodeFocus payload = .ok number ↔ payload = encodeFocus number
  range : ∀ lo hi, decodeRange payload = .ok (lo, hi) ↔ payload = encodeKeyRange lo hi
  keys : ∀ keys, decodeKeys payload = .ok keys ↔ payload = encodeKeySet keys
  raw : ∀ name, decodeRaw payload = .ok name ↔ payload = encodeRaw name ∧ IsShortName name
  ttyRefused : ∀ e, decodeTty payload = .error e → Blames e (HasLongMode payload)
  rawRefused : ∀ e, decodeRaw payload = .error e →
    Blames e (HasLongDriver payload ∨ HasWrongMagic payload)
  counted : decodeTtyChecked payload = settled (decodeTty payload)
  overcounted : ∀ count rest, payload = Octets.ofWord count ++ rest →
    rest.length < 4 * count.toNat + 1 → decodeTtyChecked payload =
      settled (.error (.malformed (.short "tty path" (4 * count.toNat + 5) (rest.length + 4))))

/-- The decoders accept the encodings of requests and nothing else. -/
theorem decoders_read_encodings (payload : Octets) : ReadsEncodings payload where
  login := fun _ => decodeLogin_eq_ok_iff
  tty := fun _ => decodeTty_eq_ok_iff_encodeTty
  focus := fun _ => decodeFocus_eq_ok_iff
  range := fun _ _ => decodeRange_eq_ok_iff
  keys := fun _ => decodeKeys_eq_ok_iff
  raw := fun _ => decodeRaw_eq_ok_iff_encodeRaw
  ttyRefused := fun _ => blames_of_decodeTty
  rawRefused := fun _ => blames_of_decodeRaw
  counted := decodeTtyChecked_eq payload
  overcounted := by
    rintro count rest rfl hshort
    rw [decodeTtyChecked_eq, decodeTty_of_count hshort]

/-- The longest path that can be told, of which nothing is there. -/
example : decodeTty [0xFF, 0xFF, 0xFF, 0xFF, 0] =
    .error (.malformed (.short "tty path" 17179869185 5)) := by decide

end Request

end BrailleShare
