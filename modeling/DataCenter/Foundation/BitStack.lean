import Mathlib

/-! # Numbers on a stack of bits

Numbers of known widths are pushed onto a stack of bits and taken off again from
the top.  The stack is kept in words, each of which holds as many bits, the
lowest ones in the first word. -/

namespace DataCenter.BitStack

/-! ## The stack as a number -/

/-- A number with the bits that it is given. -/
structure Piece where
  value : Nat
  width : Nat
  fits : value < 2 ^ width

/-- The bits of some pieces. -/
def size (pieces : List Piece) : Nat := (pieces.map Piece.width).sum

@[simp] theorem size_nil : size [] = 0 := rfl

@[simp] theorem size_cons (piece : Piece) (pieces : List Piece) :
    size (piece :: pieces) = piece.width + size pieces := by
  simp [size]

@[simp] theorem size_append (upper lower : List Piece) :
    size (upper ++ lower) = size upper + size lower := by
  simp [size]

/-- The stack of some pieces, the topmost of which comes first. -/
def pack : List Piece → Nat
  | [] => 0
  | piece :: pieces => pack pieces ||| piece.value <<< size pieces

/-- `width` bits of a stack, above `below` others. -/
def read (stack below width : Nat) : Nat := stack >>> below % 2 ^ width

theorem testBit_read (stack below width index : Nat) :
    (read stack below width).testBit index =
      (decide (index < width) && stack.testBit (below + index)) := by
  rw [read, Nat.testBit_mod_two_pow, Nat.testBit_shiftRight]

theorem pack_lt (pieces : List Piece) : pack pieces < 2 ^ size pieces := by
  induction pieces with
  | nil => simp [pack]
  | cons piece pieces induction =>
      rw [pack, size_cons]
      apply Nat.or_lt_two_pow
      · exact induction.trans_le (Nat.pow_le_pow_right (by omega) (by omega))
      · rw [Nat.shiftLeft_eq, Nat.pow_add]
        exact Nat.mul_lt_mul_of_pos_right piece.fits (Nat.two_pow_pos _)

theorem testBit_of_size_le {pieces : List Piece} {index : Nat}
    (above : size pieces ≤ index) :
    (pack pieces).testBit index = false :=
  Nat.testBit_lt_two_pow
    ((pack_lt pieces).trans_le (Nat.pow_le_pow_right (by omega) above))

theorem testBit_pack_append {upper lower : List Piece} {index : Nat}
    (inside : index < size lower) :
    (pack (upper ++ lower)).testBit index = (pack lower).testBit index := by
  induction upper with
  | nil => rfl
  | cons piece upper induction =>
      have below : ¬ size upper + size lower ≤ index := by omega
      rw [List.cons_append, pack, Nat.testBit_or, Nat.testBit_shiftLeft, induction]
      simp [below]

/-- What has been pushed can be read, whatever lies above it. -/
theorem read_pack (upper : List Piece) (piece : Piece) (lower : List Piece) :
    read (pack (upper ++ piece :: lower)) (size lower) piece.width = piece.value := by
  apply Nat.eq_of_testBit_eq
  intro index
  rw [testBit_read]
  by_cases inside : index < piece.width
  · have present : size lower + index < size (piece :: lower) := by
      rw [size_cons]
      omega
    rw [testBit_pack_append present, pack, Nat.testBit_or, Nat.testBit_shiftLeft,
      testBit_of_size_le (Nat.le_add_right _ _)]
    simp [inside]
  · have outside : piece.value.testBit index = false :=
      Nat.testBit_lt_two_pow
        (piece.fits.trans_le (Nat.pow_le_pow_right (by omega) (by omega)))
    simp [inside, outside]

/-! ## The stack in words -/

/-- The words hold the bits of the stack. -/
def Spells (bits : Nat) (words : List Nat) (stack : Nat) : Prop :=
  ∀ i word, words[i]? = some word →
    ∀ j < bits, word.testBit j = stack.testBit (bits * i + j)

section Words

variable {bits : Nat} {words : List Nat} {stack : Nat}

/-- A word is added for what lies above the words. -/
theorem Spells.append (spells : Spells bits words stack) {word : Nat}
    (spelled : ∀ j < bits, word.testBit j = stack.testBit (bits * words.length + j)) :
    Spells bits (words ++ [word]) stack := by
  intro i other present j small
  rcases lt_trichotomy i words.length with before | same | after
  · rw [List.getElem?_append_left before] at present
    exact spells i other present j small
  · rw [same, List.getElem?_concat_length] at present
    cases present
    rw [same]
    exact spelled j small
  · rw [List.getElem?_eq_none
      (by simp only [List.length_append, List.length_singleton]; omega)] at present
    cases present

theorem Spells.of_append {more : List Nat} (spells : Spells bits (words ++ more) stack) :
    Spells bits words stack := by
  intro i word present
  have bound := (List.getElem?_eq_some_iff.mp present).1
  exact spells i word (by rw [List.getElem?_append_left bound, present])

/-- The words below the top are the same for a stack with the same bits there. -/
theorem Spells.congr (spells : Spells bits words stack) {other : Nat}
    (same : ∀ index < bits * words.length, stack.testBit index = other.testBit index) :
    Spells bits words other := by
  intro i word present j small
  have bound := (List.getElem?_eq_some_iff.mp present).1
  rw [spells i word present j small]
  apply same
  calc
    bits * i + j < bits * (i + 1) := by rw [Nat.mul_add_one]; omega
    _ ≤ bits * words.length := Nat.mul_le_mul_left bits bound

/-- Bits of one word: those above `used` bits are shifted out, and those below the ones
that are read. -/
theorem Spells.read_word (spells : Spells bits words stack) {i word used width : Nat}
    (present : words[i]? = some word) (inside : used ≤ bits) (enough : width ≤ used) :
    (word <<< (bits - used) % 2 ^ bits) >>> (bits - width) =
      read stack (bits * i + used - width) width := by
  apply Nat.eq_of_testBit_eq
  intro index
  rw [testBit_read, Nat.testBit_shiftRight, Nat.testBit_mod_two_pow,
    Nat.testBit_shiftLeft]
  by_cases small : index < width
  · have position :
        bits - width + index - (bits - used) = used - width + index := by omega
    have shifted : bits - used ≤ bits - width + index := by omega
    have spelled := spells i word present (used - width + index) (by omega)
    have place :
        bits * i + (used - width + index) = bits * i + used - width + index := by omega
    rw [place] at spelled
    have within : bits - width + index < bits := by omega
    simp [small, shifted, position, spelled, within]
  · have beyond : ¬ bits - width + index < bits := by omega
    simp [small, beyond]

/-- Bits of two words: all that are used of the upper one, and the rest of the lower
one. -/
theorem Spells.read_words (spells : Spells bits words stack)
    {i upper lower used width : Nat}
    (upperPresent : words[i + 1]? = some upper) (lowerPresent : words[i]? = some lower)
    (lowerFits : lower < 2 ^ bits) (across : used ≤ width) (inside : width ≤ bits) :
    (upper <<< (bits - used) % 2 ^ bits) >>> (bits - used - (width - used)) |||
        lower >>> (bits - (width - used)) =
      read stack (bits * (i + 1) + used - width) width := by
  apply Nat.eq_of_testBit_eq
  intro index
  rw [testBit_read, Nat.testBit_or, Nat.testBit_shiftRight, Nat.testBit_shiftRight,
    Nat.testBit_mod_two_pow, Nat.testBit_shiftLeft, Nat.mul_add_one]
  by_cases small : index < width - used
  · -- below the upper word
    have absent : ¬ bits - used ≤ bits - used - (width - used) + index := by omega
    have spelled := spells i lower lowerPresent (bits - (width - used) + index) (by omega)
    have place : bits * i + (bits - (width - used) + index) =
        bits * i + bits + used - width + index := by omega
    rw [place] at spelled
    have within : index < width := by omega
    simp [absent, spelled, within]
  · have nothing : lower.testBit (bits - (width - used) + index) = false :=
      Nat.testBit_lt_two_pow
        (lowerFits.trans_le (Nat.pow_le_pow_right (by omega) (by omega)))
    by_cases within : index < width
    · have shifted : bits - used ≤ bits - used - (width - used) + index := by omega
      have position : bits - used - (width - used) + index - (bits - used) =
          index - (width - used) := by omega
      have spelled :=
        spells (i + 1) upper upperPresent (index - (width - used)) (by omega)
      have place : bits * (i + 1) + (index - (width - used)) =
          bits * i + bits + used - width + index := by
        rw [Nat.mul_add_one]
        omega
      rw [place] at spelled
      have bound : bits - used - (width - used) + index < bits := by omega
      simp [nothing, within, shifted, position, spelled, bound]
    · have beyond : ¬ bits - used - (width - used) + index < bits := by omega
      simp [nothing, within, beyond]

end Words

end DataCenter.BitStack
