import DataCenter.Nix.NixVector

/-! # Nix-vectors in a buffer

`Serialize` writes the counters and the words of a nix-vector to a buffer of
words, and `Deserialize` reads them back. -/

namespace DataCenter.NixVector

/-- The size in bytes. -/
def getSerializedSize (vector : NixVector) : UInt32 :=
  UInt32.ofNat (4 + 4 + 4 + 4 * vector.nixVector.length)

/-- Words are written one after the other, as long as `size` stays within `maxSize`;
`none` if `Serialize` returns 0. -/
def serializeFrom (maxSize size : UInt32) : List UInt32 → Option (List UInt32)
  | [] => some []
  | word :: words =>
      if size + 4 ≤ maxSize then (serializeFrom maxSize (size + 4) words).map (word :: ·)
      else none

/-- What `Serialize` writes. -/
def serialize (vector : NixVector) (maxSize : UInt32) : Option (List UInt32) :=
  serializeFrom maxSize 0
    (vector.used :: vector.currentVectorBitSize :: vector.totalBitSize ::
      vector.nixVector)

/-- The loop of `Deserialize`; `none` if its assertion fails or the buffer ends. -/
def deserializeFrom : List UInt32 → UInt32 → Option (List UInt32)
  | [], sizeCheck => if sizeCheck > 0 then none else some []
  | nix :: buffer, sizeCheck =>
      if sizeCheck > 0 then
        if sizeCheck ≥ 4 then (deserializeFrom buffer (sizeCheck - 4)).map (nix :: ·)
        else none
      else some []

/-- `Deserialize`, where the size counts the word of the length as well. -/
def deserialize : List UInt32 → UInt32 → Option NixVector
  | used :: currentVectorBitSize :: totalBitSize :: buffer, size =>
      if size - 4 ≥ 4 ∧ size - 4 - 4 ≥ 4 ∧ size - 4 - 4 - 4 ≥ 4 then
        (deserializeFrom buffer (size - 4 - 4 - 4 - 4)).map fun nixVector =>
          { nixVector, used, currentVectorBitSize, totalBitSize }
      else none
  | _, _ => none

/-- What is written for a vector. -/
def words (vector : NixVector) : List UInt32 :=
  vector.used :: vector.currentVectorBitSize :: vector.totalBitSize :: vector.nixVector

theorem toNat_add_four {size : UInt32} (room : size.toNat + 4 < 2 ^ 32) :
    (size + 4).toNat = size.toNat + 4 := by
  rw [UInt32.toNat_add]
  exact Nat.mod_eq_of_lt room

theorem serializeFrom_eq (maxSize : UInt32) {size : UInt32} {list : List UInt32}
    (room : size.toNat + 4 * list.length < 2 ^ 32) (within : size ≤ maxSize) :
    serializeFrom maxSize size list =
      if size.toNat + 4 * list.length ≤ maxSize.toNat then some list else none := by
  induction list generalizing size with
  | nil =>
      rw [serializeFrom, if_pos (by simpa [UInt32.le_iff_toNat_le] using within)]
  | cons word list induction =>
      rw [List.length_cons] at room ⊢
      have next : (size + 4).toNat = size.toNat + 4 := toNat_add_four (by omega)
      rw [serializeFrom]
      by_cases fits : size + 4 ≤ maxSize
      · rw [if_pos fits, induction (by omega) fits, next]
        have same :
            size.toNat + 4 + 4 * list.length = size.toNat + 4 * (list.length + 1) := by
          omega
        rw [same]
        split <;> rfl
      · have small : ¬ size.toNat + 4 * (list.length + 1) ≤ maxSize.toNat := by
          rw [UInt32.le_iff_toNat_le, next] at fits
          omega
        rw [if_neg fits, if_neg small]

theorem toNat_getSerializedSize {vector : NixVector}
    (few : vector.nixVector.length + 3 < 2 ^ 30) :
    vector.getSerializedSize.toNat = 4 * vector.words.length := by
  rw [getSerializedSize, UInt32.toNat_ofNat_of_lt' (by simp only [UInt32.size]; omega),
    words]
  simp only [List.length_cons]
  omega

/-- `Serialize` writes all or nothing. -/
theorem serialize_eq {vector : NixVector} (few : vector.nixVector.length + 3 < 2 ^ 30)
    (maxSize : UInt32) :
    vector.serialize maxSize =
      if vector.getSerializedSize ≤ maxSize then some vector.words else none := by
  have room : (0 : UInt32).toNat + 4 * vector.words.length < 2 ^ 32 := by
    simp only [UInt32.toNat_zero, words, List.length_cons]
    omega
  have whole := serializeFrom_eq maxSize room UInt32.zero_le
  rw [UInt32.toNat_zero, Nat.zero_add, ← toNat_getSerializedSize few] at whole
  rw [serialize]
  exact whole

theorem toNat_sub_four {size : UInt32} (enough : size ≥ 4) :
    (size - 4).toNat = size.toNat - 4 :=
  UInt32.toNat_sub_of_le _ _ enough

theorem four_le_iff {size : UInt32} : size ≥ 4 ↔ 4 ≤ size.toNat :=
  UInt32.le_iff_toNat_le

theorem deserializeFrom_eq_some_iff {buffer list : List UInt32} {sizeCheck : UInt32} :
    deserializeFrom buffer sizeCheck = some list ↔
      (∃ rest, buffer = list ++ rest) ∧ sizeCheck.toNat = 4 * list.length := by
  have positive (size : UInt32) : size > 0 ↔ size.toNat ≠ 0 := by
    rw [gt_iff_lt, UInt32.lt_iff_toNat_lt]
    exact Nat.pos_iff_ne_zero
  induction buffer generalizing sizeCheck list with
  | nil =>
      simp only [deserializeFrom, positive]
      cases list with
      | nil => simp
      | cons nix list => simp
  | cons nix buffer induction =>
      simp only [deserializeFrom, positive]
      by_cases done : sizeCheck.toNat = 0
      · rw [if_neg (not_not.mpr done)]
        cases list with
        | nil => simp [done]
        | cons other list => simp [done]
      · rw [if_pos done]
        by_cases enough : sizeCheck ≥ 4
        · have atLeast := four_le_iff.mp enough
          rw [if_pos enough, Option.map_eq_some_iff]
          cases list with
          | nil => simp [done]
          | cons other list =>
              simp only [List.cons.injEq, List.cons_append, List.length_cons]
              constructor
              · intro read
                rcases read with ⟨words, ran, same, rfl⟩
                rcases induction.mp ran with ⟨⟨rest, split⟩, size⟩
                rw [toNat_sub_four enough] at size
                exact ⟨⟨rest, same, split⟩, by omega⟩
              · intro spelled
                rcases spelled with ⟨⟨rest, same, split⟩, size⟩
                refine ⟨list, induction.mpr ⟨⟨rest, split⟩, ?_⟩, same, rfl⟩
                rw [toNat_sub_four enough]
                omega
        · rw [if_neg enough]
          rw [four_le_iff] at enough
          cases list with
          | nil => simp [done]
          | cons other list =>
              simp only [reduceCtorEq, false_iff, List.length_cons]
              intro spelled
              omega

/-- The three counters are read before the words. -/
theorem deserialize_cons_eq_some_iff {vector : NixVector} {used current total : UInt32}
    {buffer : List UInt32} {size : UInt32} :
    deserialize (used :: current :: total :: buffer) size = some vector ↔
      (∃ rest, used :: current :: total :: buffer = vector.words ++ rest) ∧
        (size - 4).toNat = 4 * vector.words.length := by
  rw [deserialize]
  simp only [words, List.cons_append, List.cons.injEq, List.length_cons]
  by_cases enough : 12 ≤ (size - 4).toNat
  · have first : size - 4 ≥ 4 := four_le_iff.mpr (by omega)
    have second : size - 4 - 4 ≥ 4 := by
      rw [four_le_iff, toNat_sub_four first]
      omega
    have third : size - 4 - 4 - 4 ≥ 4 := by
      rw [four_le_iff, toNat_sub_four second, toNat_sub_four first]
      omega
    have left : (size - 4 - 4 - 4 - 4).toNat = (size - 4).toNat - 12 := by
      rw [toNat_sub_four third, toNat_sub_four second, toNat_sub_four first]
      omega
    rw [if_pos ⟨first, second, third⟩, Option.map_eq_some_iff]
    constructor
    · intro read
      rcases read with ⟨nixVector, ran, rfl⟩
      rcases deserializeFrom_eq_some_iff.mp ran with ⟨⟨rest, split⟩, length⟩
      exact ⟨⟨rest, rfl, rfl, rfl, split⟩, by simp only; omega⟩
    · intro spelled
      rcases spelled with ⟨⟨rest, rfl, rfl, rfl, split⟩, length⟩
      exact ⟨vector.nixVector,
        deserializeFrom_eq_some_iff.mpr ⟨⟨rest, split⟩, by omega⟩, rfl⟩
  · have short : ¬ (size - 4 ≥ 4 ∧ size - 4 - 4 ≥ 4 ∧ size - 4 - 4 - 4 ≥ 4) := by
      intro all
      rcases all with ⟨first, second, third⟩
      rw [four_le_iff, toNat_sub_four second, toNat_sub_four first] at third
      omega
    rw [if_neg short]
    constructor
    · intro read
      cases read
    · intro spelled
      exact absurd spelled.2 (by omega)

/-- `Deserialize` gives a vector exactly for a buffer that starts with what `Serialize`
writes for it, with the size of that and of the word of the length. -/
theorem deserialize_eq_some_iff {vector : NixVector}
    (few : vector.nixVector.length + 3 < 2 ^ 30) (buffer : List UInt32) (size : UInt32) :
    deserialize buffer size = some vector ↔
      size = vector.getSerializedSize + 4 ∧ ∃ written rest,
        vector.serialize vector.getSerializedSize = some written ∧
          buffer = written ++ rest := by
  have sizeIs : size = vector.getSerializedSize + 4 ↔
      (size - 4).toNat = 4 * vector.words.length := by
    rw [← toNat_getSerializedSize few, UInt32.toNat_inj]
    constructor
    · intro same
      rw [same, UInt32.add_sub_cancel]
    · intro same
      rw [← same, UInt32.sub_add_cancel]
  have whole (prop : List UInt32 → Prop) :
      (∃ written, vector.serialize vector.getSerializedSize = some written ∧
        prop written) ↔
        prop vector.words := by
    rw [serialize_eq few, if_pos (UInt32.le_refl _)]
    simp
  simp only [exists_and_left, whole, sizeIs]
  rcases buffer with _ | ⟨used, _ | ⟨current, _ | ⟨total, buffer⟩⟩⟩
  · simp [deserialize, words]
  · simp [deserialize, words]
  · simp [deserialize, words]
  · rw [deserialize_cons_eq_some_iff, and_comm]

/-- Three indices of 37 bits in all take two words, and the word that follows them in
the buffer is left there. -/
theorem deserialize_eq_some_iff_written :
    ∃ vector, addAll id {} [(3, 5), (70000, 17), (20000, 15)] = some vector ∧
      vector.words = [0, 5, 37, 2283941379, 19] ∧
      deserialize [0, 5, 37, 2283941379, 19, 7] 24 = some vector ∧
      (deserialize [0, 5, 37, 2283941379, 19, 7] 24 = some vector ↔
        24 = vector.getSerializedSize + 4 ∧ ∃ written rest,
          vector.serialize vector.getSerializedSize = some written ∧
            [0, 5, 37, 2283941379, 19, 7] = written ++ rest) :=
  ⟨{ nixVector := [2283941379, 19], currentVectorBitSize := 5, totalBitSize := 37 },
    by decide, by decide, by decide, deserialize_eq_some_iff (by decide) _ _⟩

end DataCenter.NixVector
