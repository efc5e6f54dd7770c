import Mathlib

/-! # Strings in buffers

Arrays of characters of a fixed size with strings that end at a zero character,
and the functions of the C library that write such strings.  A function that would
read or write outside of a buffer is undefined. -/

namespace DataCenter

/-- The character that ends a string. -/
def nul : Char := Char.ofNat 0

/-- The string at the start of some characters; `none` if it does not end among them. -/
def stringOf : List Char → Option (List Char)
  | [] => none
  | character :: rest =>
      if character = nul then some [] else (stringOf rest).map (character :: ·)

theorem stringOf_eq_some_iff {cells string : List Char} :
    stringOf cells = some string ↔
      nul ∉ string ∧ ∃ rest, cells = string ++ nul :: rest := by
  induction cells generalizing string with
  | nil => simp [stringOf]
  | cons character cells induction =>
      rw [stringOf]
      by_cases ends : character = nul
      · subst ends
        rw [if_pos rfl]
        cases string with
        | nil => simp
        | cons first string =>
            simp only [Option.some.injEq, reduceCtorEq, false_iff, List.mem_cons,
              List.cons_append, List.cons.injEq]
            intro both
            rcases both with ⟨proper, rest, same, -⟩
            exact proper (.inl same)
      · rw [if_neg ends, Option.map_eq_some_iff]
        cases string with
        | nil => simp [ends]
        | cons first string =>
            simp only [List.cons.injEq, List.mem_cons, not_or, List.cons_append,
              induction]
            constructor
            · intro tail
              rcases tail with ⟨other, ⟨proper, rest, cells⟩, same, rfl⟩
              exact ⟨⟨same ▸ Ne.symm ends, proper⟩, rest, same, cells⟩
            · intro both
              rcases both with ⟨⟨-, proper⟩, rest, same, cells⟩
              exact ⟨string, ⟨proper, rest, cells⟩, same, rfl⟩

/-- `char [size]` -/
structure CharBuffer (size : Nat) where
  cells : List Char
  length_cells : cells.length = size

namespace CharBuffer

variable {size : Nat}

/-- The string that a buffer holds. -/
def text (buffer : CharBuffer size) : Option (List Char) := stringOf buffer.cells

/-- A string and its end are written from an offset on. -/
def write (buffer : CharBuffer size) (offset : Nat) (string : List Char) :
    Option (CharBuffer size) :=
  if fits : offset + string.length < size then
    some {
      cells := buffer.cells.take offset ++
        (string ++ nul :: buffer.cells.drop (offset + string.length + 1))
      length_cells := by
        have sizeIs := buffer.length_cells
        simp only [List.length_append, List.length_take, List.length_cons,
          List.length_drop]
        omega }
  else none

def bzero (size : Nat) : CharBuffer size :=
  ⟨List.replicate size nul, List.length_replicate⟩

/-- `snprintf`, which writes fewer characters than its limit. -/
def snprintf (buffer : CharBuffer size) (limit : Nat) (printed : List Char) :
    Option (CharBuffer size) :=
  buffer.write 0 (printed.take (limit - 1))

def strcat (destination : CharBuffer size) (source : List Char) :
    Option (CharBuffer size) := do
  let string ← destination.text
  destination.write string.length source

/-- `strcat` of another buffer. -/
def strcatBuffer (destination source : CharBuffer size) : Option (CharBuffer size) := do
  let string ← source.text
  destination.strcat string

theorem text_eq_some_iff {buffer : CharBuffer size} {string : List Char} :
    buffer.text = some string ↔
      nul ∉ string ∧ ∃ rest, buffer.cells = string ++ nul :: rest :=
  stringOf_eq_some_iff

theorem text_bzero (size : Nat) : (bzero (size + 1)).text = some [] := rfl

theorem exists_snprintf (buffer : CharBuffer size) {limit : Nat} {printed : List Char}
    (fits : (printed.take (limit - 1)).length < size) (proper : nul ∉ printed) :
    ∃ final, buffer.snprintf limit printed = some final ∧
      final.text = some (printed.take (limit - 1)) := by
  have room : 0 + (printed.take (limit - 1)).length < size := by omega
  refine ⟨_, dif_pos room, text_eq_some_iff.mpr ⟨?_, _, rfl⟩⟩
  exact fun member => proper (List.mem_of_mem_take member)

/-- A string that fits is appended. -/
theorem exists_strcat {buffer : CharBuffer size} {string source : List Char}
    (holds : buffer.text = some string) (fits : string.length + source.length < size)
    (proper : nul ∉ source) :
    ∃ final, buffer.strcat source = some final ∧
      final.text = some (string ++ source) := by
  rcases text_eq_some_iff.mp holds with ⟨properString, rest, cells⟩
  have written : buffer.strcat source = buffer.write string.length source := by
    rw [strcat, holds]
    rfl
  refine ⟨_, written.trans (dif_pos fits), text_eq_some_iff.mpr ⟨?_, ?_⟩⟩
  · simp [properString, proper]
  · simp [cells]

theorem exists_strcatBuffer {buffer other : CharBuffer size} {string source : List Char}
    (holds : buffer.text = some string) (otherHolds : other.text = some source)
    (fits : string.length + source.length < size) :
    ∃ final, buffer.strcatBuffer other = some final ∧
      final.text = some (string ++ source) := by
  rcases exists_strcat holds fits (text_eq_some_iff.mp otherHolds).1 with
    ⟨final, appended, text⟩
  refine ⟨final, ?_, text⟩
  rw [strcatBuffer, otherHolds]
  exact appended

end CharBuffer

end DataCenter
