import BrailleShare.Proofs.Request.WriteGrammar
import BrailleShare.Request

/-!
# Names of drivers in requests

A client names a driver in two requests, for the device and for the driver's keycodes. The name
stands there as its length and then one octet for each character, while the server tells the name
of its driver in UTF-8. The two agree on the characters below `0x80` and on no others: any other
character is told in two octets or more, each of which is read as a character of its own.

Main statements: which payloads are read as a name at all, and as which (`decodeRaw_eq_ok_iff`,
`decodeTty_eq_ok_iff`), and that the octets by which a name is told are read as this name if and
only if all its characters are ASCII (`latin1_ofText_iff`).
-/

namespace BrailleShare

namespace Octets

/-! ### Texts in UTF-8 -/

/-- The octets by which a text is told to a client, without the zero octet that closes it. -/
def ofText (text : String) : Octets :=
  text.toUTF8.toList

/-- Reading the octets of an array one by one gives those that are left, after those already
read. -/
theorem byteArray_loop (b : ByteArray) (i : Nat) (r : List UInt8) :
    ByteArray.toList.loop b i r = r.reverse ++ b.data.toList.drop i := by
  fun_induction ByteArray.toList.loop b i r with
  | case1 i r h ih =>
    have hi : i < b.data.toList.length := h
    have hget : b.get! i = b.data.toList[i] := getElem!_pos b.data i hi
    rw [ih, List.reverse_cons, List.append_assoc, List.drop_eq_getElem_cons hi, hget]
    rfl
  | case2 i r h =>
    have hi : b.data.toList.length ≤ i := Nat.le_of_not_lt h
    rw [List.drop_eq_nil_of_le hi, List.append_nil]

/-- A text is told character by character. -/
theorem ofText_eq (text : String) : ofText text = text.toList.flatMap String.utf8EncodeChar := by
  have hdata : text.toByteArray.data.toList = text.toList.flatMap String.utf8EncodeChar := by
    rw [← String.utf8Encode_toList]
    exact List.toList_data_toByteArray
  have hloop := byteArray_loop text.toByteArray 0 []
  rw [List.drop_zero, hdata] at hloop
  exact hloop

/-- All characters of a text are below `0x80`. -/
def isAscii (text : String) : Bool :=
  text.toList.all fun c => c.val ≤ 127

/-- No character is told in less than one octet. -/
theorem length_le_length_chars (cs : List Char) :
    cs.length ≤ (cs.flatMap String.utf8EncodeChar).length := by
  induction cs with
  | nil => exact Nat.le_refl 0
  | cons c cs ih =>
    have hc := c.utf8Size_pos
    rw [List.flatMap_cons, List.length_append, String.length_utf8EncodeChar, List.length_cons]
    omega

/-- Characters that are told in as many octets as they are themselves are all below `0x80`. -/
theorem val_le_of_length_chars {cs : List Char}
    (h : (cs.flatMap String.utf8EncodeChar).length = cs.length) : ∀ c ∈ cs, c.val ≤ 127 := by
  induction cs with
  | nil => exact fun c hc => absurd hc List.not_mem_nil
  | cons d cs ih =>
    have hd := d.utf8Size_pos
    have hcs := length_le_length_chars cs
    rw [List.flatMap_cons, List.length_append, String.length_utf8EncodeChar, List.length_cons] at h
    intro c hc
    rcases List.mem_cons.1 hc with rfl | hc
    · apply Char.utf8Size_eq_one_iff.1
      omega
    · apply ih _ c hc
      omega

/-- A character below `0x80` is told in one octet, which is its code. -/
theorem latin1_utf8EncodeChar {c : Char} (hc : c.val ≤ 127) :
    latin1 (String.utf8EncodeChar c) = [c] := by
  have hsize : c.utf8Size = 1 := Char.utf8Size_eq_one_iff.2 hc
  have hle : c.val.toNat ≤ 127 := hc
  have hval : c.val.toUInt8.toNat = c.val.toNat := by
    rw [UInt32.toNat_toUInt8]
    omega
  rw [String.utf8EncodeChar_eq_singleton hsize, latin1, List.map_singleton, hval]
  exact congrArg (fun d => [d]) c.ofNat_toNat

/-- A text in ASCII is read back from its octets. -/
theorem latin1_chars {cs : List Char} (h : ∀ c ∈ cs, c.val ≤ 127) :
    latin1 (cs.flatMap String.utf8EncodeChar) = cs := by
  induction cs with
  | nil => rfl
  | cons c cs ih =>
    have hc := latin1_utf8EncodeChar (h c List.mem_cons_self)
    have hcs := ih fun d hd => h d (List.mem_cons_of_mem c hd)
    rw [latin1] at hc hcs
    rw [latin1, List.flatMap_cons, List.map_append, hc, hcs]
    rfl

/-- The octets by which a text is told are read as this text, one character for each octet, if and
only if all its characters are ASCII. -/
theorem latin1_ofText_iff {text : String} :
    String.ofList (latin1 (ofText text)) = text ↔ isAscii text = true := by
  have hascii : isAscii text = true ↔ ∀ c ∈ text.toList, c.val ≤ 127 := by
    simp only [isAscii, List.all_eq_true, decide_eq_true_eq]
  rw [hascii, ofText_eq]
  constructor
  · intro h
    -- each octet is read as a character, so that there are as many of the ones as of the others
    have hchars := congrArg String.toList h
    have hlength := congrArg List.length hchars
    rw [String.toList_ofList, length_latin1] at hlength
    exact val_le_of_length_chars hlength
  · intro h
    rw [latin1_chars h, String.ofList_toList]

/-! ### Words on a path -/

/-- Four octets for each word. -/
theorem length_ofWords (ws : List UInt32) : (ofWords ws).length = 4 * ws.length := by
  induction ws with
  | nil => rfl
  | cons w ws ih =>
    rw [ofWords] at ih
    rw [ofWords, List.flatMap_cons, List.length_append, ih, length_ofWord, List.length_cons]
    omega

/-- Octets that make whole words are the octets of these. -/
theorem ofWords_words {bs : Octets} {n : Nat} (h : bs.length = 4 * n) :
    ofWords (words bs) = bs ∧ (words bs).length = n := by
  induction n generalizing bs with
  | zero =>
    obtain rfl : bs = [] := List.eq_nil_of_length_eq_zero h
    exact ⟨rfl, rfl⟩
  | succ n ih =>
    match bs, h with
    | a :: b :: c :: d :: rest, h =>
      have hrest : rest.length = 4 * n := by
        simp only [List.length_cons] at h
        omega
      obtain ⟨hwords, hnumber⟩ := ih hrest
      rw [ofWords] at hwords
      refine ⟨?_, by rw [words, List.length_cons, hnumber]⟩
      rw [words, ofWords, List.flatMap_cons, hwords, ofWord_word]
      rfl

/-- An octet made a character keeps its number. -/
theorem toNat_ofNat_toNat (b : UInt8) : (Char.ofNat b.toNat).toNat = b.toNat := by
  have hb := b.toNat_lt
  have hvalid : b.toNat.isValidChar := .inl (by omega)
  rw [Char.ofNat, dif_pos hvalid]
  rfl

/-- One octet stands for a character below `0x100`. -/
theorem toNat_lt_of_mem_latin1 {bs : Octets} {c : Char} (hc : c ∈ latin1 bs) : c.toNat < 256 := by
  obtain ⟨b, -, rfl⟩ := List.mem_map.1 hc
  rw [toNat_ofNat_toNat]
  exact b.toNat_lt

/-- A text with a character beyond these is read from no octets. -/
theorem ne_latin1_of_beyond {text : String} {c : Char} (hc : c ∈ text.toList)
    (hcode : 256 ≤ c.toNat) (bs : Octets) : text ≠ String.ofList (latin1 bs) := by
  intro h
  rw [h, String.toList_ofList] at hc
  have hlt := toNat_lt_of_mem_latin1 hc
  omega

/-- Octets make a text that is not empty. -/
theorem latin1_ne_empty {bs : Octets} (h : 1 ≤ bs.length) : String.ofList (latin1 bs) ≠ "" := by
  intro hempty
  have hlength := congrArg (fun text : String => text.toList.length) hempty
  rw [String.toList_ofList, length_latin1] at hlength
  exact absurd (hlength ▸ h) (by decide)

end Octets

namespace Request

/-! ### Payloads that name a driver -/

/-- A name as it stands in a request, by its octets. -/
def named (name : Octets) : Octets :=
  UInt8.ofNat name.length :: name

/-- A request for the device that names a driver by octets. -/
def rawNaming (name : Octets) : Octets :=
  Octets.ofWord rawMagic ++ named name

/-- A request for a tty that names a driver by octets. -/
def ttyNaming (path : List UInt32) (name : Octets) : Octets :=
  Octets.ofWord (UInt32.ofNat path.length) ++ (Octets.ofWords path ++ named name)

/-- A request for raw mode in these octets names the driver by them. -/
theorem decodeRaw_rawNaming {bs : Octets} (hlength : bs.length ≤ maxName) :
    decodeRaw (rawNaming bs) = .ok (String.ofList (Octets.latin1 bs)) := by
  let whole := (rawNaming bs).length
  have hlong : ¬ whole ≤ 4 := by
    simp only [whole, rawNaming, named, List.length_append, Octets.length_ofWord,
      List.length_cons]
    omega
  have hmagic : (Cursor.start (rawNaming bs)).word = .ok (rawMagic, ⟨whole, named bs⟩) :=
    Cursor.word_eq_ok_iff.2 ⟨rfl, rfl⟩
  have hname : Cursor.name ⟨whole, named bs⟩ =
      .ok (String.ofList (Octets.latin1 bs), ⟨whole, []⟩) :=
    Cursor.name_eq_ok_iff.2 ⟨bs, rfl, (List.append_nil _).symm, rfl, hlength⟩
  rw [decodeRaw, if_neg hlong]
  refine Except.bind_eq_ok_iff.2 ⟨_, hmagic, ?_⟩
  dsimp only
  rw [if_neg (Decidable.not_not.2 rfl)]
  exact Except.bind_eq_ok_iff.2 ⟨_, hname,
    Except.bind_eq_ok_iff.2 ⟨(), Cursor.done_eq_ok_iff.2 rfl, rfl⟩⟩

/-- Whatever is read as a request for raw mode was written so. -/
theorem eq_rawNaming_of_decodeRaw {payload : Octets} {name : String}
    (h : decodeRaw payload = .ok name) : ∃ bs : Octets,
      name = String.ofList (Octets.latin1 bs) ∧ payload = rawNaming bs ∧ bs.length ≤ maxName := by
  rw [decodeRaw] at h
  split at h
  · cases h
  · obtain ⟨⟨magic, c⟩, hmagic, h⟩ := Except.bind_eq_ok_iff.1 h
    have hpayload : payload = Octets.ofWord magic ++ c.rest := (Cursor.word_eq_ok_iff.1 hmagic).1
    dsimp only at h
    split at h
    · cases h
    · rename_i hopens
      obtain ⟨⟨n, c'⟩, hname, h⟩ := Except.bind_eq_ok_iff.1 h
      obtain ⟨_, hdone, h⟩ := Except.bind_eq_ok_iff.1 h
      obtain ⟨bs, hn, hbs, -, hlength⟩ := Cursor.name_eq_ok_iff.1 hname
      obtain rfl : n = name := Except.pure_eq_ok_iff.1 h
      refine ⟨bs, hn, ?_, hlength⟩
      rw [hpayload, Decidable.not_not.1 hopens, hbs, Cursor.done_eq_ok_iff.1 hdone,
        List.append_nil]
      rfl

/-- A payload asks for the device by this name if and only if it is written so. -/
theorem decodeRaw_eq_ok_iff {payload : Octets} {name : String} :
    decodeRaw payload = .ok name ↔ ∃ bs : Octets, name = String.ofList (Octets.latin1 bs) ∧
      payload = rawNaming bs ∧ bs.length ≤ maxName := by
  constructor
  · exact eq_rawNaming_of_decodeRaw
  · rintro ⟨bs, rfl, rfl, hlength⟩
    exact decodeRaw_rawNaming hlength

/-- A request for a tty in these octets names the driver by them. -/
theorem decodeTty_ttyNaming {path : List UInt32} {bs : Octets} (hlength : bs.length ≤ maxName)
    (hpath : path.length < UInt32.size) : decodeTty (ttyNaming path bs) =
      .ok ⟨path, String.ofList (Octets.latin1 bs)⟩ := by
  have hnumber : (UInt32.ofNat path.length).toNat = path.length :=
    UInt32.toNat_ofNat_of_lt' hpath
  let whole := (ttyNaming path bs).length
  have hlong : ¬ whole < 4 * path.length + 5 := by
    simp only [whole, ttyNaming, named, List.length_append, Octets.length_ofWord,
      Octets.length_ofWords, List.length_cons]
    omega
  have hcount : (Cursor.start (ttyNaming path bs)).word =
      .ok (UInt32.ofNat path.length, ⟨whole, Octets.ofWords path ++ named bs⟩) :=
    Cursor.word_eq_ok_iff.2 ⟨rfl, rfl⟩
  have htake : Cursor.take ⟨whole, Octets.ofWords path ++ named bs⟩ "tty path"
      (4 * path.length) = .ok (Octets.ofWords path, ⟨whole, named bs⟩) :=
    Cursor.take_eq_ok_iff.2 ⟨rfl, rfl, Octets.length_ofWords path⟩
  have hname : Cursor.name ⟨whole, named bs⟩ =
      .ok (String.ofList (Octets.latin1 bs), ⟨whole, []⟩) :=
    Cursor.name_eq_ok_iff.2 ⟨bs, rfl, (List.append_nil _).symm, rfl, hlength⟩
  refine Except.bind_eq_ok_iff.2 ⟨_, hcount, ?_⟩
  dsimp only
  rw [hnumber, if_neg hlong]
  refine Except.bind_eq_ok_iff.2 ⟨_, htake, Except.bind_eq_ok_iff.2 ⟨_, hname, ?_⟩⟩
  refine Except.bind_eq_ok_iff.2 ⟨(), Cursor.done_eq_ok_iff.2 rfl, ?_⟩
  rw [Octets.words_ofWords]
  rfl

/-- Whatever is read as a request for a tty was written so. -/
theorem eq_ttyNaming_of_decodeTty {payload : Octets} {r : TtyRequest}
    (h : decodeTty payload = .ok r) : ∃ bs : Octets, r.mode = String.ofList (Octets.latin1 bs) ∧
      payload = ttyNaming r.path bs ∧ bs.length ≤ maxName ∧ r.path.length < UInt32.size := by
  obtain ⟨⟨count, c⟩, hcount, h⟩ := Except.bind_eq_ok_iff.1 h
  have hpayload : payload = Octets.ofWord count ++ c.rest := (Cursor.word_eq_ok_iff.1 hcount).1
  dsimp only at h
  split at h
  · cases h
  · obtain ⟨⟨path, c₁⟩, hpath, h⟩ := Except.bind_eq_ok_iff.1 h
    obtain ⟨⟨n, c₂⟩, hname, h⟩ := Except.bind_eq_ok_iff.1 h
    obtain ⟨_, hdone, h⟩ := Except.bind_eq_ok_iff.1 h
    obtain ⟨hfront, -, hsize⟩ := Cursor.take_eq_ok_iff.1 hpath
    obtain ⟨bs, hn, hbs, -, hlength⟩ := Cursor.name_eq_ok_iff.1 hname
    obtain rfl : ⟨Octets.words path, n⟩ = r := Except.pure_eq_ok_iff.1 h
    obtain ⟨hwords, hnumber⟩ := Octets.ofWords_words hsize
    have hlt := count.toNat_lt
    refine ⟨bs, hn, ?_, hlength, by rw [hnumber]; exact hlt⟩
    rw [hpayload, hfront, hbs, Cursor.done_eq_ok_iff.1 hdone, List.append_nil, ttyNaming, hwords,
      hnumber, UInt32.ofNat_toNat]
    rfl

/-- A payload asks for a tty in the mode of this name if and only if it is written so. -/
theorem decodeTty_eq_ok_iff {payload : Octets} {r : TtyRequest} :
    decodeTty payload = .ok r ↔ ∃ bs : Octets, r.mode = String.ofList (Octets.latin1 bs) ∧
      payload = ttyNaming r.path bs ∧ bs.length ≤ maxName ∧ r.path.length < UInt32.size := by
  constructor
  · exact eq_ttyNaming_of_decodeTty
  · obtain ⟨path, mode⟩ := r
    rintro ⟨bs, rfl, rfl, hlength, hpath⟩
    exact decodeTty_ttyNaming hlength hpath

end Request

end BrailleShare
