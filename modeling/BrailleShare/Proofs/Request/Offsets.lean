import BrailleShare.Proofs.Request.DriverNames
import BrailleShare.Proofs.Window.Bounds
import Mathlib.Data.List.Induction

/-!
# Reading a path at its offsets

A request for a tty says itself how many ttys its path has, and what stands behind the path is found
by counting. `Request.decodeTty` reads from the front of what is left and counts with numbers of any
size. A machine counts with sizes of 64 bits and reads an octet by its index: it has no answer where
a size does not fit, where an index is not in the payload or where a slice reaches beyond it. This
file says what such a machine does with a request for a tty, and that it always has an answer.

Main statement: whatever number of ttys a payload tells, reading it at its offsets gives what
`decodeTty` gives (`decodeTtyChecked_eq`).
-/

namespace BrailleShare

namespace Size

/-- The product of two sizes, if it is one. -/
def mul? (a b : Nat) : Option Nat :=
  if a * b < limit then some (a * b) else none

/-- A sum below the limit is exact. -/
theorem add?_of_lt {a b : Nat} (h : a + b < limit) : add? a b = some (a + b) :=
  if_pos h

/-- A product below the limit is exact. -/
theorem mul?_of_lt {a b : Nat} (h : a * b < limit) : mul? a b = some (a * b) :=
  if_pos h

end Size

namespace Request

/-- A reading that may refuse the payload, or fail to have an answer at all. -/
abbrev Reading (α : Type) : Type :=
  ExceptT RequestError Option α

/-- The octets from one index up to another. There has to be such a slice. -/
def slice? (payload : Octets) (first last : Nat) : Option Octets :=
  if first ≤ last ∧ last ≤ payload.length then some ((payload.drop first).take (last - first))
  else none

/-- Reads the octet at some distance behind an offset. -/
def octetAt (payload : Octets) (offset distance : Nat) : Option UInt8 := do
  let index ← Size.add? offset distance
  payload[index]?

/-- Reads the word at an offset. -/
def wordAt (payload : Octets) (offset : Nat) : Reading UInt32 := do
  let last ← Size.add? offset 4
  if payload.length < last then throw (.insufficient last payload.length)
  else
    let a ← octetAt payload offset 0
    let b ← octetAt payload offset 1
    let c ← octetAt payload offset 2
    let d ← octetAt payload offset 3
    return Octets.word a b c d

/-- Reads so many words in a row, each at its own offset. -/
def wordsAt (payload : Octets) (offset count : Nat) : Reading (List UInt32) :=
  (List.range count).mapM fun i => do
    let distance ← Size.mul? i 4
    let place ← Size.add? offset distance
    wordAt payload place

/-- Reads the name at an offset, and says where it ends. -/
def nameAt (payload : Octets) (offset : Nat) : Reading (String × Nat) := do
  let first ← Size.add? offset 1
  if payload.length < first then
    throw (.malformed (.short "name length" first payload.length))
  else
    let size ← octetAt payload offset 0
    if maxName < size.toNat then throw (.parameter (.longName size.toNat))
    else
      let last ← Size.add? first size.toNat
      if last ≤ payload.length then
        let bs ← slice? payload first last
        return (String.ofList (Octets.latin1 bs), last)
      else throw (.malformed (.beyond "name" size.toNat first payload.length))

/-- Reads a request for a tty at the offsets that its number of ttys makes. -/
def decodeTtyChecked (payload : Octets) : Reading TtyRequest := do
  let count ← wordAt payload 0
  let octets ← Size.mul? count.toNat 4
  let names ← Size.add? octets 4
  let needed ← Size.add? names 1
  if payload.length < needed then
    throw (.malformed (.short "tty path" needed payload.length))
  else
    let path ← wordsAt payload 4 count.toNat
    let (mode, last) ← nameAt payload names
    if last = payload.length then return ⟨path, mode⟩
    else throw (.surplus last payload.length)

/-! ### Readings with an answer -/

section settled

variable {α β : Type}

/-- The answer of a reading that does not fail. -/
def settled (answer : Except RequestError α) : Reading α :=
  ExceptT.mk (some answer)

/-- What has been settled well is handed on. -/
theorem settled_ok_bind (a : α) (f : α → Reading β) : (settled (.ok a) >>= f) = f a :=
  rfl

/-- A size or an octet that is there does not keep a reading from its answer. -/
theorem found_bind {x : Option α} {a : α} (h : x = some a) (f : α → Reading β) :
    ((liftM x : Reading α) >>= f) = f a := by
  rw [h]
  rfl

end settled

/-! ### Reading behind a front -/

variable {front rest : Octets}

/-- An octet at some distance from the start of the rest is the one at this distance in the rest. -/
theorem octetAt_append {distance : Nat} (hsize : front.length + distance < Size.limit) :
    octetAt (front ++ rest) front.length distance = rest[distance]? := by
  have hindex := Size.add?_of_lt hsize
  have hbehind : (front ++ rest)[front.length + distance]? = rest[distance]? := by
    rw [List.getElem?_append_right (Nat.le_add_right ..), Nat.add_sub_cancel_left]
  rw [octetAt, hindex]
  exact hbehind

/-- A word where the rest begins is read. -/
theorem wordAt_append (front rest : Octets) (w : UInt32)
    (hsize : front.length + 4 < Size.limit) :
    wordAt (front ++ (Octets.ofWord w ++ rest)) front.length = settled (.ok w) := by
  have hlong : ¬ (front ++ (Octets.ofWord w ++ rest)).length < front.length + 4 := by
    simp only [List.length_append, Octets.length_ofWord]
    omega
  have hoctet : ∀ distance < 4,
      octetAt (front ++ (Octets.ofWord w ++ rest)) front.length distance =
        (Octets.ofWord w ++ rest)[distance]? := by
    intro distance hdistance
    apply octetAt_append
    omega
  rw [wordAt, found_bind (Size.add?_of_lt hsize), if_neg hlong,
    found_bind (hoctet 0 (by decide)), found_bind (hoctet 1 (by decide)),
    found_bind (hoctet 2 (by decide)), found_bind (hoctet 3 (by decide))]
  show settled (.ok _) = settled (.ok w)
  rw [Octets.word_ofWord]

/-- The words of a path are found one by one, each behind those before it. -/
theorem wordsAt_append {offset : Nat} (hoffset : front.length = offset) (path : List UInt32) :
    ∀ rest, offset + 4 * path.length + 4 < Size.limit →
      wordsAt (front ++ (Octets.ofWords path ++ rest)) offset path.length =
        settled (.ok path) := by
  induction path using List.reverseRecOn with
  | nil => exact fun _ _ => rfl
  | append_singleton path w ih =>
    intro rest hsize
    rw [List.length_append, List.length_singleton] at hsize ⊢
    have hpath := ih (Octets.ofWord w ++ rest) (by omega)
    -- the last word stands behind the front and the words before it
    have hfront : (front ++ Octets.ofWords path).length = offset + path.length * 4 := by
      rw [List.length_append, Octets.length_ofWords, hoffset, Nat.mul_comm]
    have hlast := wordAt_append (front ++ Octets.ofWords path) rest w (by rw [hfront]; omega)
    rw [hfront] at hlast
    have hdistance := Size.mul?_of_lt (a := path.length) (b := 4) (by omega)
    have hplace := Size.add?_of_lt (a := offset) (b := path.length * 4) (by omega)
    have hpayload : front ++ (Octets.ofWords (path ++ [w]) ++ rest) =
        front ++ (Octets.ofWords path ++ (Octets.ofWord w ++ rest)) := by
      rw [Octets.ofWords, List.flatMap_append, List.flatMap_singleton, List.append_assoc]
      rfl
    rw [List.append_assoc] at hlast
    rw [wordsAt] at hpath
    rw [hpayload, wordsAt, List.range_succ, List.mapM_append, hpath, settled_ok_bind,
      List.mapM_cons, List.mapM_nil, found_bind hdistance, found_bind hplace, hlast]
    rfl

/-- A name is read behind a front as it is read from the front of what is left. -/
theorem nameAt_append (hsize : front.length + 256 < Size.limit) :
    nameAt (front ++ rest) front.length =
      settled ((Cursor.name ⟨(front ++ rest).length, rest⟩).map fun p => (p.1, p.2.offset)) := by
  have hfirst : Size.add? front.length 1 = some (front.length + 1) :=
    Size.add?_of_lt (by omega)
  rw [nameAt, found_bind hfirst]
  cases rest with
  | nil =>
    rw [if_pos (by rw [List.append_nil]; exact Nat.lt_succ_self _)]
    show settled (.error _) = settled (.error _)
    simp only [Cursor.offset, List.length_append, List.length_nil, Nat.add_zero, Nat.sub_zero]
  | cons size rest =>
    have hlt := size.toNat_lt
    have hlength : (front ++ size :: rest).length = front.length + 1 + rest.length := by
      rw [List.length_append, List.length_cons]
      omega
    have hoctet : octetAt (front ++ size :: rest) front.length 0 = some size :=
      octetAt_append (by omega)
    rw [if_neg (by omega), found_bind hoctet, Cursor.name]
    dsimp only
    by_cases hlong : maxName < size.toNat
    · rw [if_pos hlong, if_pos hlong]
      rfl
    · have hlast : Size.add? (front.length + 1) size.toNat =
          some (front.length + 1 + size.toNat) := Size.add?_of_lt (by omega)
      rw [if_neg hlong, if_neg hlong, found_bind hlast, Cursor.take]
      by_cases hle : size.toNat ≤ rest.length
      · have hslice : slice? (front ++ size :: rest) (front.length + 1)
            (front.length + 1 + size.toNat) = some (rest.take size.toNat) := by
          rw [slice?, if_pos (by omega), Nat.add_sub_cancel_left, List.drop_append,
            List.drop_eq_nil_of_le (Nat.le_succ _), Nat.add_sub_cancel_left]
          rfl
        have hoffset : (front ++ size :: rest).length - (rest.drop size.toNat).length =
            front.length + 1 + size.toNat := by
          rw [hlength, List.length_drop]
          omega
        rw [if_pos (by omega), if_pos hle, found_bind hslice]
        show settled (.ok (_, front.length + 1 + size.toNat)) =
          settled (.ok (_, (front ++ size :: rest).length - (rest.drop size.toNat).length))
        rw [hoffset]
      · have hoffset : (front ++ size :: rest).length - rest.length = front.length + 1 := by
          omega
        rw [if_neg (by omega), if_neg hle]
        show settled (.error _) = settled (.error _)
        rw [Cursor.offset, hoffset]

/-- A name ends a payload if nothing is left behind it. -/
theorem offset_eq_whole_iff {c c' : Cursor} {name : String} (hname : c.name = .ok (name, c'))
    (hc : c.rest.length ≤ c.whole) : c'.offset = c.whole ↔ c'.rest = [] := by
  obtain ⟨bs, -, hrest, hwhole, -⟩ := Cursor.name_eq_ok_iff.1 hname
  have hlength := congrArg List.length hrest
  rw [List.length_append, List.length_cons] at hlength
  rw [← List.length_eq_zero_iff, Cursor.offset, hwhole]
  omega

/-- A name that nothing may follow is read behind a front as it is read from the front of what is
left. -/
theorem lastNameAt_append {α : Type} (front rest : Octets) (answer : String → α)
    (hsize : front.length + 256 < Size.limit) :
    (nameAt (front ++ rest) front.length >>= fun p =>
      if p.2 = (front ++ rest).length then pure (answer p.1)
      else throw (.surplus p.2 (front ++ rest).length)) =
    settled (Cursor.name ⟨(front ++ rest).length, rest⟩ >>= fun p =>
      p.2.done >>= fun _ => .ok (answer p.1)) := by
  rw [nameAt_append hsize]
  rcases h : Cursor.name ⟨(front ++ rest).length, rest⟩ with e | ⟨name, c⟩
  · rfl
  have hrest : rest.length ≤ (front ++ rest).length := by
    rw [List.length_append]
    exact Nat.le_add_left ..
  have hoffset := offset_eq_whole_iff h hrest
  have hwhole : c.whole = (front ++ rest).length := by
    obtain ⟨-, -, -, hwhole, -⟩ := Cursor.name_eq_ok_iff.1 h
    exact hwhole
  show (if c.offset = (front ++ rest).length then _ else _) =
    settled (c.done >>= fun _ => .ok (answer name))
  by_cases hend : c.rest = []
  · rw [if_pos (hoffset.2 hend), Cursor.done, if_pos hend]
    rfl
  · rw [if_neg (mt hoffset.1 hend), Cursor.done, if_neg hend, hwhole]
    rfl

/-! ### A request for a tty -/

/-- A word before the rest makes it longer by four. -/
theorem length_ofWord_append (w : UInt32) (rest : Octets) :
    (Octets.ofWord w ++ rest).length = rest.length + 4 := by
  rw [List.length_append, Octets.length_ofWord, Nat.add_comm]

/-- A payload begins with a word if it is long enough. -/
theorem exists_eq_ofWord_append {payload : Octets} (hlong : 4 ≤ payload.length) :
    ∃ w rest, payload = Octets.ofWord w ++ rest := by
  match payload, hlong with
  | a :: b :: c :: d :: rest, _ =>
    exact ⟨Octets.word a b c d, rest, by rw [Octets.ofWord_word]; rfl⟩

/-- What follows begins with so many words if it is long enough. -/
theorem exists_eq_ofWords_append {rest : Octets} {n : Nat} (hlong : 4 * n < rest.length) :
    ∃ ws rest', rest = Octets.ofWords ws ++ rest' ∧ ws.length = n ∧ rest' ≠ [] := by
  have hfront : (rest.take (4 * n)).length = 4 * n := List.length_take_of_le (by omega)
  obtain ⟨hwords, hnumber⟩ := Octets.ofWords_words hfront
  refine ⟨_, rest.drop (4 * n), ?_, hnumber, ?_⟩
  · rw [hwords, List.take_append_drop]
  · apply List.ne_nil_of_length_pos
    rw [List.length_drop]
    omega

/-- What a payload is as a request for a tty: too short to tell a number of ttys, too short for as
many ttys as it tells and a name, or a path with something behind it. -/
inductive TtyShape : Octets → Prop
  | short {payload : Octets} (h : payload.length < 4) : TtyShape payload
  | cut {count : UInt32} {rest : Octets} (h : rest.length < 4 * count.toNat + 1) :
    TtyShape (Octets.ofWord count ++ rest)
  | whole {path : List UInt32} {rest : Octets} (hpath : path.length < UInt32.size)
    (hrest : rest ≠ []) :
    TtyShape (Octets.ofWord (UInt32.ofNat path.length) ++ (Octets.ofWords path ++ rest))

/-- Every payload is of one of these shapes. -/
theorem ttyShape (payload : Octets) : TtyShape payload := by
  rcases Nat.lt_or_ge payload.length 4 with hshort | hlong
  · exact .short hshort
  obtain ⟨count, rest, rfl⟩ := exists_eq_ofWord_append hlong
  rcases Nat.lt_or_ge rest.length (4 * count.toNat + 1) with hshort | hlong
  · exact .cut hshort
  obtain ⟨path, rest, rfl, hpath, hrest⟩ := exists_eq_ofWords_append hlong
  obtain rfl : UInt32.ofNat path.length = count := by rw [hpath, UInt32.ofNat_toNat]
  exact .whole (hpath ▸ (UInt32.ofNat path.length).toNat_lt) hrest

/-- Fewer than four octets are no word. -/
theorem word_start_of_short {payload : Octets} (hshort : payload.length < 4) :
    (Cursor.start payload).word = .error (.insufficient 4 payload.length) := by
  match payload, hshort with
  | [], _ => rfl
  | [_], _ => rfl
  | [_, _], _ => rfl
  | [_, _, _], _ => rfl

/-- A word at the start is read, and the rest is left. -/
theorem word_start_ofWord (w : UInt32) (rest : Octets) :
    (Cursor.start (Octets.ofWord w ++ rest)).word =
      .ok (w, ⟨(Octets.ofWord w ++ rest).length, rest⟩) :=
  Cursor.word_eq_ok_iff.2 ⟨rfl, rfl⟩

/-- Fewer than four octets are no request for a tty. -/
theorem decodeTty_of_short {payload : Octets} (hshort : payload.length < 4) :
    decodeTty payload = .error (.insufficient 4 payload.length) := by
  rw [decodeTty, word_start_of_short hshort]
  rfl

/-- A path that is told to be longer than what follows is refused before any of it is read. -/
theorem decodeTty_of_count {count : UInt32} {rest : Octets}
    (hshort : rest.length < 4 * count.toNat + 1) :
    decodeTty (Octets.ofWord count ++ rest) =
      .error (.malformed (.short "tty path" (4 * count.toNat + 5) (rest.length + 4))) := by
  rw [decodeTty, word_start_ofWord, length_ofWord_append]
  exact if_pos (by omega)

/-- Behind a path that is all there stands a name, and nothing else. -/
theorem decodeTty_of_path {path : List UInt32} {rest : Octets}
    (hpath : path.length < UInt32.size) (hrest : rest ≠ []) :
    decodeTty (Octets.ofWord (UInt32.ofNat path.length) ++ (Octets.ofWords path ++ rest)) =
      (Cursor.name ⟨(Octets.ofWords path ++ rest).length + 4, rest⟩ >>= fun p =>
        p.2.done >>= fun _ => .ok ⟨path, p.1⟩) := by
  have hcount : (UInt32.ofNat path.length).toNat = path.length := UInt32.toNat_ofNat_of_lt' hpath
  have hlength : (Octets.ofWords path ++ rest).length = 4 * path.length + rest.length := by
    rw [List.length_append, Octets.length_ofWords]
  have hpos := List.length_pos_iff.2 hrest
  have htake : Cursor.take ⟨(Octets.ofWords path ++ rest).length + 4, Octets.ofWords path ++ rest⟩
      "tty path" (4 * path.length) =
        .ok (Octets.ofWords path, ⟨(Octets.ofWords path ++ rest).length + 4, rest⟩) :=
    Cursor.take_eq_ok_iff.2 ⟨rfl, rfl, Octets.length_ofWords path⟩
  rw [decodeTty, word_start_ofWord, length_ofWord_append]
  show (if _ < 4 * (UInt32.ofNat path.length).toNat + 5 then _ else _) = _
  rw [hcount, if_neg (by omega)]
  show ((Cursor.take _ _ _ : Except RequestError _) >>= _) = _
  rw [htake]
  show (Cursor.name ⟨_, rest⟩ >>= fun p => p.2.done >>= fun _ =>
    .ok (TtyRequest.mk (Octets.words (Octets.ofWords path)) p.1)) = _
  rw [Octets.words_ofWords]

/-- A number of ttys has 32 bits, so that all sizes that are computed from it fit into 64. -/
theorem decodeTtyChecked_ofWord (count : UInt32) (rest : Octets) :
    decodeTtyChecked (Octets.ofWord count ++ rest) =
      if rest.length + 4 < count.toNat * 4 + 4 + 1 then
        throw (.malformed (.short "tty path" (count.toNat * 4 + 4 + 1) (rest.length + 4)))
      else
        wordsAt (Octets.ofWord count ++ rest) 4 count.toNat >>= fun path =>
          nameAt (Octets.ofWord count ++ rest) (count.toNat * 4 + 4) >>= fun p =>
            if p.2 = rest.length + 4 then pure ⟨path, p.1⟩
            else throw (.surplus p.2 (rest.length + 4)) := by
  have hlt : count.toNat < 2 ^ 32 := count.toNat_lt
  have hcount : wordAt (Octets.ofWord count ++ rest) 0 = settled (.ok count) :=
    wordAt_append [] rest count (by decide)
  have hoctets : Size.mul? count.toNat 4 = some (count.toNat * 4) :=
    Size.mul?_of_lt (by rw [Size.limit]; omega)
  have hnames : Size.add? (count.toNat * 4) 4 = some (count.toNat * 4 + 4) :=
    Size.add?_of_lt (by rw [Size.limit]; omega)
  have hneeded : Size.add? (count.toNat * 4 + 4) 1 = some (count.toNat * 4 + 4 + 1) :=
    Size.add?_of_lt (by rw [Size.limit]; omega)
  rw [decodeTtyChecked, hcount, settled_ok_bind, found_bind hoctets, found_bind hnames,
    found_bind hneeded, length_ofWord_append]

/-- Whatever number of ttys a payload tells, every size that a machine computes to read it fits, and
every octet that it reads is there; and it reads what `decodeTty` reads. -/
theorem decodeTtyChecked_eq (payload : Octets) :
    decodeTtyChecked payload = settled (decodeTty payload) := by
  cases ttyShape payload with
  | short hshort =>
    have hsize : Size.add? 0 4 = some 4 := rfl
    rw [decodeTtyChecked, wordAt, found_bind hsize, if_pos hshort, decodeTty_of_short hshort]
    rfl
  | @cut count rest hshort =>
    rw [decodeTty_of_count hshort, decodeTtyChecked_ofWord, if_pos (by omega), Nat.mul_comm]
    rfl
  | @whole path rest hpath hrest =>
    have hcount : (UInt32.ofNat path.length).toNat = path.length :=
      UInt32.toNat_ofNat_of_lt' hpath
    have hlt : path.length < 2 ^ 32 := hpath
    have hpos := List.length_pos_iff.2 hrest
    have hlong : ¬ (Octets.ofWords path ++ rest).length + 4 < path.length * 4 + 4 + 1 := by
      rw [List.length_append, Octets.length_ofWords]
      omega
    have hfront : (Octets.ofWord (UInt32.ofNat path.length) ++ Octets.ofWords path).length =
        path.length * 4 + 4 := by
      rw [length_ofWord_append, Octets.length_ofWords, Nat.mul_comm]
    have hwords := wordsAt_append (Octets.length_ofWord (UInt32.ofNat path.length)) path rest
      (by rw [Size.limit]; omega)
    have hname := lastNameAt_append
      (Octets.ofWord (UInt32.ofNat path.length) ++ Octets.ofWords path) rest (TtyRequest.mk path)
      (by rw [Size.limit]; omega)
    rw [hfront, List.append_assoc, length_ofWord_append] at hname
    rw [decodeTtyChecked_ofWord, hcount, if_neg hlong, hwords, settled_ok_bind,
      decodeTty_of_path hpath hrest]
    exact hname

end Request

end BrailleShare
