/-!
# Octets and words

Everything on the wire is a string of octets, and every number in it is a 32-bit word with its
most significant octet first. Octets are kept as `List UInt8`, the form that decoders take apart
and encoders put together.

Main statements: a word is four octets long (`length_ofWord`), it reads back from them
(`word_ofWord`), and four octets are the octets of the word they spell (`ofWord_word`).
-/

namespace BrailleShare

/-- A string of octets. -/
abbrev Octets := List UInt8

namespace Octets

/-- The word that four octets spell, most significant first. -/
def word (a b c d : UInt8) : UInt32 :=
  UInt32.ofNat (((a.toNat * 256 + b.toNat) * 256 + c.toNat) * 256 + d.toNat)

/-- The four octets of a word, most significant first. -/
def ofWord (w : UInt32) : Octets :=
  [UInt8.ofNat (w.toNat / 16777216), UInt8.ofNat (w.toNat / 65536),
    UInt8.ofNat (w.toNat / 256), UInt8.ofNat w.toNat]

/-- The octets of several words, one word after the other. -/
def ofWords (ws : List UInt32) : Octets :=
  ws.flatMap ofWord

/-- The words spelled by a string of octets; a last group of fewer than four is dropped. -/
def words : Octets → List UInt32
  | a :: b :: c :: d :: rest => word a b c d :: words rest
  | _ => []

/-- One character per octet: the octet is the character's code. -/
def latin1 (bs : Octets) : List Char :=
  bs.map fun b => Char.ofNat b.toNat

/-- A word counts its octets from the highest place to the lowest. -/
theorem toNat_word (a b c d : UInt8) :
    (word a b c d).toNat = ((a.toNat * 256 + b.toNat) * 256 + c.toNat) * 256 + d.toNat := by
  have := a.toNat_lt
  have := b.toNat_lt
  have := c.toNat_lt
  have := d.toNat_lt
  simp only [word, UInt32.toNat_ofNat']
  omega

/-- A word is four octets long. -/
@[simp] theorem length_ofWord (w : UInt32) : (ofWord w).length = 4 := rfl

/-- Four octets are the octets of the word they spell. -/
theorem ofWord_word (a b c d : UInt8) : ofWord (word a b c d) = [a, b, c, d] := by
  have := a.toNat_lt
  have := b.toNat_lt
  have := c.toNat_lt
  have := d.toNat_lt
  simp only [ofWord, toNat_word, List.cons.injEq, and_true]
  refine ⟨?_, ?_, ?_, ?_⟩ <;> apply UInt8.toNat_inj.1 <;>
    simp only [UInt8.toNat_ofNat'] <;> omega

/-- A word reads back from its octets. -/
theorem word_ofWord (w : UInt32) :
    word (UInt8.ofNat (w.toNat / 16777216)) (UInt8.ofNat (w.toNat / 65536))
      (UInt8.ofNat (w.toNat / 256)) (UInt8.ofNat w.toNat) = w := by
  have := w.toNat_lt
  apply UInt32.toNat_inj.1
  simp only [toNat_word, UInt8.toNat_ofNat']
  omega

/-- The first word of a row is read back, and the rest after it. -/
theorem words_ofWord_append (w : UInt32) (rest : Octets) :
    words (ofWord w ++ rest) = w :: words rest := by
  simp only [ofWord, List.cons_append, List.nil_append, words, word_ofWord]

/-- Words read back from the octets they were written as. -/
theorem words_ofWords (ws : List UInt32) : words (ofWords ws) = ws := by
  induction ws with
  | nil => rfl
  | cons w ws ih =>
    simp only [ofWords, List.flatMap_cons] at ih ⊢
    rw [words_ofWord_append, ih]

/-- Latin-1 has one character for each octet. -/
@[simp] theorem length_latin1 (bs : Octets) : (latin1 bs).length = bs.length := by
  simp [latin1]

end Octets

end BrailleShare
