import DataCenter.Foundation.BitStack

/-! # Nix-vectors

A nix-vector is the route of a packet: for each node on the way the index of the
neighbor that comes next, in as many bits as the neighbors of the node need.
`NixVector` packs the bits in words of 32 bits. -/

namespace DataCenter

open BitStack

/-- `m_nixVector` and the three counters of bits. -/
structure NixVector where
  nixVector : List UInt32 := [0]
  used : UInt32 := 0
  currentVectorBitSize : UInt32 := 0
  totalBitSize : UInt32 := 0
  deriving DecidableEq, Repr

namespace NixVector

/-! ## The class -/

/-- A shift to the left, where `wide` is what becomes of a word that is shifted by all
of its bits.  The language leaves that open, and processors differ. -/
def shiftLeft (wide : UInt32 → UInt32) (word amount : UInt32) : UInt32 :=
  if amount < 32 then word <<< amount else wide word

/-- `AddNeighborIndex`; `none` if it is a fatal error. -/
def addNeighborIndex (wide : UInt32 → UInt32) (vector : NixVector)
    (newBits numberOfBits : UInt32) : Option NixVector :=
  if numberOfBits > 32 then none
  else if vector.currentVectorBitSize + numberOfBits > 32 then
    if vector.currentVectorBitSize = 32 then
      -- can't add any more to this word
      some { vector with
        nixVector := vector.nixVector ++ [newBits]
        currentVectorBitSize := numberOfBits
        totalBitSize := vector.totalBitSize + numberOfBits }
    else
      vector.nixVector.getLast?.map fun back =>
        { vector with
          nixVector := vector.nixVector.dropLast ++
            [shiftLeft wide newBits vector.currentVectorBitSize ||| back] ++
            [newBits >>> (32 - vector.currentVectorBitSize)]
          currentVectorBitSize := numberOfBits - (32 - vector.currentVectorBitSize)
          totalBitSize := vector.totalBitSize + numberOfBits }
  else
    vector.nixVector.getLast?.map fun back =>
      { vector with
        nixVector := vector.nixVector.dropLast ++
          [shiftLeft wide newBits vector.currentVectorBitSize ||| back]
        currentVectorBitSize := vector.currentVectorBitSize + numberOfBits
        totalBitSize := vector.totalBitSize + numberOfBits }

def getRemainingBits (vector : NixVector) : UInt32 := vector.totalBitSize - vector.used

/-- `ExtractNeighborIndex`; `none` if it is a fatal error or a word is out of range. -/
def extractNeighborIndex (wide : UInt32 → UInt32) (vector : NixVector)
    (numberOfBits : UInt32) :
    Option (UInt32 × NixVector) :=
  let totalRemainingBits := vector.getRemainingBits
  if numberOfBits > 32 ∨ numberOfBits > totalRemainingBits ∨ numberOfBits = 0 then none
  else do
    let vectorIndex := ((totalRemainingBits - 1) / 32).toNat
    let word ← vector.nixVector[vectorIndex]?
    if vectorIndex > 0 ∧ numberOfBits - 1 > (totalRemainingBits - 1) % 32 then
      let below ← vector.nixVector[vectorIndex - 1]?
      let extractedBits := shiftLeft wide word (32 - totalRemainingBits % 32)
      let extractedBits := extractedBits >>>
        (32 - totalRemainingBits % 32 - (numberOfBits - totalRemainingBits % 32))
      return (extractedBits ||| below >>> (32 - (numberOfBits - totalRemainingBits % 32)),
        { vector with used := vector.used + numberOfBits })
    else
      return (shiftLeft wide word (32 - totalRemainingBits % 32) >>> (32 - numberOfBits),
        { vector with used := vector.used + numberOfBits })

/-- The loop of `BitCount`.  A word is used up after 32 shifts. -/
def bitCountFrom : Nat → UInt32 → UInt32 → UInt32
  | 0, _, bitCount => bitCount
  | turns + 1, numberOfNeighbors, bitCount =>
      if numberOfNeighbors ≠ 0 then
        bitCountFrom turns (numberOfNeighbors >>> 1) (bitCount + 1)
      else bitCount

def bitCount (numberOfNeighbors : UInt32) : UInt32 :=
  if numberOfNeighbors < 2 then 1 else bitCountFrom 32 (numberOfNeighbors - 1) 0

/-! ## Numbers of bits -/

theorem size_of_ne_zero {number : Nat} (positive : number ≠ 0) :
    Nat.size number = Nat.size (number / 2) + 1 := by
  have bits := Nat.bit_bodd_div2 number
  conv_lhs => rw [← bits]
  rw [Nat.size_bit (by rwa [bits]), Nat.div2_val]

/-- The loop counts the bits of a number. -/
theorem toNat_bitCountFrom (turns : Nat) {numberOfNeighbors bitCount : UInt32}
    (enough : numberOfNeighbors.toNat < 2 ^ turns)
    (room : bitCount.toNat + turns < 2 ^ 32) :
    (bitCountFrom turns numberOfNeighbors bitCount).toNat =
      bitCount.toNat + Nat.size numberOfNeighbors.toNat := by
  induction turns generalizing numberOfNeighbors bitCount with
  | zero =>
      have none : numberOfNeighbors.toNat = 0 := by omega
      rw [none]
      rfl
  | succ turns induction =>
      rw [bitCountFrom]
      by_cases more : numberOfNeighbors = 0
      · rw [if_neg (not_not.mpr more), more]
        rfl
      · have next : (bitCount + 1).toNat = bitCount.toNat + 1 := by
          rw [UInt32.toNat_add]
          exact Nat.mod_eq_of_lt (by simp only [UInt32.toNat_one]; omega)
        have half : (numberOfNeighbors >>> 1).toNat = numberOfNeighbors.toNat / 2 := by
          rw [UInt32.toNat_shiftRight]
          exact Nat.shiftRight_eq_div_pow _ 1
        have positive : numberOfNeighbors.toNat ≠ 0 := by
          intro zero
          exact more (UInt32.toNat_inj.mp zero)
        rw [if_pos more,
          induction (by rw [half, Nat.div_lt_iff_lt_mul (by omega)]; exact enough)
          (by omega), next, half, size_of_ne_zero positive]
        omega

theorem toNat_bitCount (numberOfNeighbors : UInt32) :
    (bitCount numberOfNeighbors).toNat = max 1
      (Nat.size (numberOfNeighbors.toNat - 1)) := by
  rw [bitCount]
  split
  · next few =>
      have small : numberOfNeighbors.toNat < 2 := UInt32.lt_iff_toNat_lt.mp few
      have none : numberOfNeighbors.toNat - 1 = 0 := by omega
      rw [none]
      rfl
  · next many =>
      have two : 2 ≤ numberOfNeighbors.toNat := by
        rw [UInt32.lt_iff_toNat_lt] at many
        exact not_lt.mp many
      have less : (numberOfNeighbors - 1).toNat = numberOfNeighbors.toNat - 1 :=
        UInt32.toNat_sub_of_le _ _ (UInt32.le_iff_toNat_le.mpr (by
          simp only [UInt32.toNat_one]
          omega))
      have positive := Nat.size_pos.mpr (show 0 < numberOfNeighbors.toNat - 1 by omega)
      rw [toNat_bitCountFrom 32 (UInt32.toNat_lt _) (by decide), less]
      simp only [UInt32.toNat_zero, Nat.zero_add]
      omega

/-- `BitCount` gives the fewest bits that hold the index of each neighbor. -/
theorem bitCount_le_iff {numberOfNeighbors : UInt32} (some : 0 < numberOfNeighbors.toNat)
    {bits : Nat} (positive : 0 < bits) :
    (bitCount numberOfNeighbors).toNat ≤ bits ↔
      ∀ index < numberOfNeighbors.toNat, index < 2 ^ bits := by
  rw [toNat_bitCount, max_le_iff, Nat.size_le]
  constructor
  · intro fits index small
    have last := fits.2
    omega
  · intro fits
    exact ⟨positive, fits _ (by omega)⟩

theorem bitCount_pos (numberOfNeighbors : UInt32) :
    0 < (bitCount numberOfNeighbors).toNat := by
  rw [toNat_bitCount]
  omega

theorem bitCount_le (numberOfNeighbors : UInt32) :
    (bitCount numberOfNeighbors).toNat ≤ 32 := by
  rw [toNat_bitCount]
  have bound := numberOfNeighbors.toNat_lt
  have few : Nat.size (numberOfNeighbors.toNat - 1) ≤ 32 := Nat.size_le.mpr (by omega)
  omega

theorem lt_two_pow_bitCount {numberOfNeighbors : UInt32} {index : Nat}
    (small : index < numberOfNeighbors.toNat) :
    index < 2 ^ (bitCount numberOfNeighbors).toNat :=
  (bitCount_le_iff (by omega) (bitCount_pos _)).mp le_rfl index small

/-! ## The stack of indices -/

/-- The vector holds indices in their bits, of which those that were taken lie above the
ones that are left. -/
structure Holds (vector : NixVector) (taken left : List Piece) : Prop where
  spells : Spells 32 (vector.nixVector.map UInt32.toNat) (pack (taken ++ left))
  notEmpty : vector.nixVector ≠ []
  current : vector.currentVectorBitSize.toNat ≤ 32
  length : size (taken ++ left) + 32 =
    32 * vector.nixVector.length + vector.currentVectorBitSize.toNat
  total : vector.totalBitSize.toNat = size (taken ++ left)
  used : vector.used.toNat = size taken

theorem holds_empty : Holds {} [] [] where
  spells := by
    intro i word present j small
    cases i with
    | zero =>
        cases present
        simp [pack]
    | succ i => cases present
  notEmpty := by simp
  current := by decide
  length := rfl
  total := rfl
  used := rfl

/-- An index that fits in its bits. -/
def piece (newBits numberOfBits : UInt32)
    (fits : newBits.toNat < 2 ^ numberOfBits.toNat) : Piece :=
  ⟨newBits.toNat, numberOfBits.toNat, fits⟩

section Bits

variable {wide : UInt32 → UInt32} {vector : NixVector} {newBits numberOfBits : UInt32}
  {taken left : List Piece}

theorem toNat_shiftLeft {word amount : UInt32} (small : amount.toNat < 32) :
    (shiftLeft wide word amount).toNat = word.toNat <<< amount.toNat % 2 ^ 32 := by
  have less : amount < 32 := UInt32.lt_iff_toNat_lt.mpr small
  rw [shiftLeft, if_pos less, UInt32.toNat_shiftLeft, Nat.mod_eq_of_lt small]

theorem toNat_shiftRight {word amount : UInt32} (small : amount.toNat < 32) :
    (word >>> amount).toNat = word.toNat >>> amount.toNat := by
  rw [UInt32.toNat_shiftRight, Nat.mod_eq_of_lt small]

theorem pack_piece (fits : newBits.toNat < 2 ^ numberOfBits.toNat) (left : List Piece)
    (index : Nat) : (pack (piece newBits numberOfBits fits :: left)).testBit index =
      ((pack left).testBit index ||
        (decide (size left ≤ index) && newBits.toNat.testBit (index - size left))) := by
  rw [pack, Nat.testBit_or, Nat.testBit_shiftLeft]
  rfl

/-- The words below the last one do not change when an index is added. -/
theorem Holds.spells_init (holds : Holds vector [] left)
    (fits : newBits.toNat < 2 ^ numberOfBits.toNat) {init : List UInt32}
    (isInit : init <+: vector.nixVector) (below : 32 * init.length ≤ size left) :
    Spells 32 (init.map UInt32.toNat)
      (pack (piece newBits numberOfBits fits :: left)) := by
  rcases isInit with ⟨rest, split⟩
  have spells := holds.spells
  rw [← split, List.map_append] at spells
  apply spells.of_append.congr
  intro index small
  rw [List.length_map] at small
  have under : ¬ size left ≤ index := by omega
  rw [pack_piece]
  simp [under]

/-- The bits that are free in the last word take the lowest bits of the index. -/
theorem Holds.spells_back (holds : Holds vector [] left) (wide : UInt32 → UInt32)
    (fits : newBits.toNat < 2 ^ numberOfBits.toNat) {init : List UInt32} {back : UInt32}
    (split : vector.nixVector = init ++ [back])
    (free : vector.currentVectorBitSize.toNat < 32) :
    Spells 32 ((init ++ [shiftLeft wide newBits vector.currentVectorBitSize ||| back]).map
      UInt32.toNat) (pack (piece newBits numberOfBits fits :: left)) := by
  have length := holds.length
  rw [split, List.length_append, List.length_singleton, List.nil_append] at length
  have below := holds.spells_init fits ⟨[back], split.symm⟩ (by omega)
  rw [List.map_append]
  apply below.append
  intro j small
  have present : (vector.nixVector.map UInt32.toNat)[init.length]? = some back.toNat := by
    simp [split]
  have spelled := holds.spells init.length back.toNat present j small
  have place :
      32 * init.length + j - size left = j - vector.currentVectorBitSize.toNat := by
    omega
  have position : size left ≤ 32 * init.length + j ↔
      vector.currentVectorBitSize.toNat ≤ j := by
    omega
  rw [UInt32.toNat_or, toNat_shiftLeft free, Nat.testBit_or, Nat.testBit_mod_two_pow,
    Nat.testBit_shiftLeft, spelled, pack_piece, List.length_map, place, Bool.or_comm]
  simp [small, position]

/-- The bits of an index beyond the words that there are go into a new one. -/
theorem spells_new {words : List UInt32} {rest : UInt32}
    (fits : newBits.toNat < 2 ^ numberOfBits.toNat)
    (spells : Spells 32 (words.map UInt32.toNat)
      (pack (piece newBits numberOfBits fits :: left)))
    (full : size left ≤ 32 * words.length)
    (restIs : rest.toNat = newBits.toNat >>> (32 * words.length - size left)) :
    Spells 32 ((words ++ [rest]).map UInt32.toNat)
      (pack (piece newBits numberOfBits fits :: left)) := by
  rw [List.map_append]
  apply spells.append
  intro j small
  have place :
      32 * words.length - size left + j = 32 * words.length + j - size left := by omega
  rw [List.length_map, pack_piece, testBit_of_size_le (by omega), restIs,
    Nat.testBit_shiftRight, place]
  have above : size left ≤ 32 * words.length + j := by omega
  simp [above]

/-- An index is added on top. -/
theorem Holds.add (wide : UInt32 → UInt32) (holds : Holds vector [] left)
    (fits : newBits.toNat < 2 ^ numberOfBits.toNat) (positive : 0 < numberOfBits.toNat)
    (few : numberOfBits.toNat ≤ 32) (room : numberOfBits.toNat + size left < 2 ^ 32) :
    ∃ next, addNeighborIndex wide vector newBits numberOfBits = some next ∧
      Holds next [] (piece newBits numberOfBits fits :: left) := by
  have current := holds.current
  have length := holds.length
  have total := holds.total
  rw [List.nil_append] at length total
  have notMany : ¬ numberOfBits > 32 := by
    rw [gt_iff_lt, UInt32.lt_iff_toNat_lt]
    exact not_lt.mpr few
  have sum : (vector.currentVectorBitSize + numberOfBits).toNat =
      vector.currentVectorBitSize.toNat + numberOfBits.toNat := by
    rw [UInt32.toNat_add]
    omega
  have newTotal :
      (vector.totalBitSize + numberOfBits).toNat = numberOfBits.toNat + size left := by
    rw [UInt32.toNat_add]
    omega
  have overflow : vector.currentVectorBitSize + numberOfBits > 32 ↔
      32 < vector.currentVectorBitSize.toNat + numberOfBits.toNat := by
    rw [gt_iff_lt, UInt32.lt_iff_toNat_lt, sum]
    rfl
  have full : vector.currentVectorBitSize = 32 ↔
      vector.currentVectorBitSize.toNat = 32 := by
    rw [← UInt32.toNat_inj]
    rfl
  have split := List.dropLast_append_getLast holds.notEmpty
  have last := List.getLast?_eq_some_getLast holds.notEmpty
  have initLength : vector.nixVector.length = vector.nixVector.dropLast.length + 1 := by
    conv_lhs => rw [← split]
    simp
  rw [addNeighborIndex, if_neg notMany]
  by_cases spill : 32 < vector.currentVectorBitSize.toNat + numberOfBits.toNat
  · rw [if_pos (overflow.mpr spill)]
    by_cases noRoom : vector.currentVectorBitSize.toNat = 32
    · rw [if_pos (full.mpr noRoom)]
      have below := holds.spells_init fits (List.prefix_refl _) (by omega)
      exact ⟨_, rfl,
        { spells := spells_new fits below (by omega)
            (by rw [show 32 * vector.nixVector.length - size left = 0 by omega]; rfl)
          notEmpty := by simp
          current := few
          length := by
            simp only [List.nil_append, size_cons, List.length_append,
              List.length_singleton, piece]
            omega
          total := newTotal
          used := holds.used }⟩
    · rw [if_neg (mt full.mp noRoom), last]
      have free : vector.currentVectorBitSize.toNat < 32 := by omega
      have taken : (32 - vector.currentVectorBitSize).toNat =
          32 - vector.currentVectorBitSize.toNat :=
        UInt32.toNat_sub_of_le _ _ (UInt32.le_iff_toNat_le.mpr current)
      have restSize : (numberOfBits - (32 - vector.currentVectorBitSize)).toNat =
          numberOfBits.toNat - (32 - vector.currentVectorBitSize.toNat) := by
        rw [UInt32.toNat_sub_of_le _ _ (UInt32.le_iff_toNat_le.mpr (by omega)), taken]
      have below := holds.spells_back wide fits split.symm free
      refine ⟨_, rfl,
        { spells := spells_new fits below ?_ ?_
          notEmpty := by simp
          current := ?_
          length := ?_
          total := newTotal
          used := holds.used }⟩
      · simp only [List.length_append, List.length_singleton]
        omega
      · rw [toNat_shiftRight (by omega), taken]
        congr 1
        simp only [List.length_append, List.length_singleton]
        omega
      · rw [restSize]
        omega
      · simp only [List.nil_append, size_cons, List.length_append, List.length_singleton,
          piece, restSize]
        omega
  · rw [if_neg (mt overflow.mp spill), last]
    have free : vector.currentVectorBitSize.toNat < 32 := by omega
    refine ⟨_, rfl,
      { spells := holds.spells_back wide fits split.symm free
        notEmpty := by simp
        current := ?_
        length := ?_
        total := newTotal
        used := holds.used }⟩
    · rw [sum]
      omega
    · simp only [List.nil_append, size_cons, List.length_append, List.length_singleton,
        piece, sum]
      omega

/-- Where a word is shifted by all of its bits, it is to stay as it is. -/
theorem toNat_shiftLeft_of_wide (keeps : ∀ word, wide word = word) {word amount : UInt32}
    (small : amount.toNat ≤ 32) :
    (shiftLeft wide word amount).toNat = word.toNat <<< (amount.toNat % 32) % 2 ^ 32 := by
  by_cases less : amount.toNat < 32
  · rw [toNat_shiftLeft less, Nat.mod_eq_of_lt less]
  · have all : amount.toNat = 32 := by omega
    have notLess : ¬ amount < 32 := by
      rw [UInt32.lt_iff_toNat_lt, all]
      exact lt_irrefl _
    rw [shiftLeft, if_neg notLess, keeps, all]
    exact (Nat.mod_eq_of_lt word.toNat_lt).symm

/-- The topmost bits are in word `i`, of which `used` bits are left. -/
structure TopWord (vector : NixVector) (remaining i used : Nat) (word : UInt32) :
    Prop where
  left : vector.getRemainingBits.toNat = remaining
  bits : remaining = 32 * i + used
  positive : 0 < used
  few : used ≤ 32
  index : ((vector.getRemainingBits - 1) / 32).toNat = i
  present : vector.nixVector[i]? = some word
  last : ((vector.getRemainingBits - 1) % 32).toNat = used - 1
  rest : (vector.getRemainingBits % 32).toNat = used % 32
  free : (32 - vector.getRemainingBits % 32).toNat = 32 - used % 32

theorem Holds.topWord {top : Piece} (holds : Holds vector taken (top :: left))
    (positive : 0 < top.width) :
    ∃ i used word, TopWord vector (top.width + size left) i used word := by
  have total := holds.total
  have taken := holds.used
  have length := holds.length
  have current := holds.current
  have bound := vector.totalBitSize.toNat_lt
  simp only [size_append, size_cons] at total length
  have remaining : vector.getRemainingBits.toNat = top.width + size left := by
    rw [getRemainingBits,
      UInt32.toNat_sub_of_le _ _ (UInt32.le_iff_toNat_le.mpr (by omega))]
    omega
  have one : (1 : UInt32) ≤ vector.getRemainingBits := by
    rw [UInt32.le_iff_toNat_le, remaining]
    exact positive.trans_le (Nat.le_add_right _ _)
  have less : (vector.getRemainingBits - 1).toNat = top.width + size left - 1 := by
    rw [UInt32.toNat_sub_of_le _ _ one, remaining]
    rfl
  have rest : (vector.getRemainingBits % 32).toNat = (top.width + size left) % 32 := by
    rw [UInt32.toNat_mod, remaining]
    rfl
  have atMost : vector.getRemainingBits % 32 ≤ 32 := by
    rw [UInt32.le_iff_toNat_le, rest]
    exact (Nat.mod_lt _ (by omega)).le
  have free :
      (32 - vector.getRemainingBits % 32).toNat = 32 - (top.width + size left) % 32 := by
    rw [UInt32.toNat_sub_of_le _ _ atMost, rest]
    rfl
  have inside : (top.width + size left - 1) / 32 < vector.nixVector.length := by omega
  have same :
      (top.width + size left) % 32 = ((top.width + size left - 1) % 32 + 1) % 32 := by
    omega
  exact ⟨(top.width + size left - 1) / 32, (top.width + size left - 1) % 32 + 1,
    vector.nixVector[(top.width + size left - 1) / 32],
    { left := remaining
      bits := by omega
      positive := by omega
      few := by omega
      index := by rw [UInt32.toNat_div, less]; rfl
      present := List.getElem?_eq_getElem inside
      last := by rw [UInt32.toNat_mod, less]; rfl
      rest := by rw [rest, same]
      free := by rw [free, same] }⟩

section Extract

variable {remaining i used : Nat} {word : UInt32}

theorem TopWord.allowed (top : TopWord vector remaining i used word)
    (positive : 0 < numberOfBits.toNat) (few : numberOfBits.toNat ≤ 32)
    (enough : numberOfBits.toNat ≤ remaining) :
    ¬ (numberOfBits > 32 ∨ numberOfBits > vector.getRemainingBits ∨
      numberOfBits = 0) := by
  intro refused
  rcases refused with many | more | none
  · exact absurd (UInt32.lt_iff_toNat_lt.mp many) (not_lt.mpr few)
  · exact absurd (UInt32.lt_iff_toNat_lt.mp more)
      (not_lt.mpr (by rw [top.left]; exact enough))
  · rw [none] at positive
    exact lt_irrefl _ positive

/-- Whether an index lies in two words. -/
theorem TopWord.across_iff (top : TopWord vector remaining i used word)
    (positive : 0 < numberOfBits.toNat) (enough : numberOfBits.toNat ≤ remaining) :
    (((vector.getRemainingBits - 1) / 32).toNat > 0 ∧
        numberOfBits - 1 > (vector.getRemainingBits - 1) % 32) ↔
          used < numberOfBits.toNat := by
  have less : (numberOfBits - 1).toNat = numberOfBits.toNat - 1 :=
    UInt32.toNat_sub_of_le _ _ (UInt32.le_iff_toNat_le.mpr positive)
  have bits := top.bits
  have some := top.positive
  rw [top.index, gt_iff_lt, gt_iff_lt, UInt32.lt_iff_toNat_lt, top.last, less]
  constructor
  · omega
  · intro across
    cases i with
    | zero => omega
    | succ i => omega

theorem TopWord.shifted (top : TopWord vector remaining i used word)
    (keeps : ∀ word, wide word = word) :
    (shiftLeft wide word (32 - vector.getRemainingBits % 32)).toNat =
      word.toNat <<< (32 - used) % 2 ^ 32 := by
  have few := top.few
  have positive := top.positive
  have amount : (32 - used % 32) % 32 = 32 - used := by omega
  rw [toNat_shiftLeft_of_wide keeps (by rw [top.free]; omega), top.free, amount]

/-- An index within one word. -/
theorem TopWord.extract_within (top : TopWord vector remaining i used word)
    (keeps : ∀ word, wide word = word) (positive : 0 < numberOfBits.toNat)
    (within : numberOfBits.toNat ≤ used) :
    ∃ index, extractNeighborIndex wide vector numberOfBits =
        some (index, { vector with used := vector.used + numberOfBits }) ∧
      index.toNat =
        (word.toNat <<< (32 - used) % 2 ^ 32) >>> (32 - numberOfBits.toNat) := by
  have bits := top.bits
  have few := top.few
  have allowed := top.allowed positive (within.trans few) (by omega)
  have oneWord := mt (top.across_iff positive (by omega)).mp (not_lt.mpr within)
  have amount : (32 - numberOfBits).toNat = 32 - numberOfBits.toNat :=
    UInt32.toNat_sub_of_le _ _ (UInt32.le_iff_toNat_le.mpr (within.trans few))
  refine ⟨shiftLeft wide word (32 - vector.getRemainingBits % 32) >>> (32 - numberOfBits),
    ?_, ?_⟩
  · rw [extractNeighborIndex]
    simp only [if_neg allowed, if_neg oneWord]
    rw [top.index, top.present]
    rfl
  · rw [toNat_shiftRight (by rw [amount]; omega), top.shifted keeps, amount]

/-- An index that goes on in the word below. -/
theorem TopWord.extract_across {below : UInt32}
    (top : TopWord vector remaining (i + 1) used word)
    (present : vector.nixVector[i]? = some below)
    (keeps : ∀ word, wide word = word) (few : numberOfBits.toNat ≤ 32)
    (across : used < numberOfBits.toNat) :
    ∃ index, extractNeighborIndex wide vector numberOfBits =
        some (index, { vector with used := vector.used + numberOfBits }) ∧
      index.toNat = (word.toNat <<< (32 - used) % 2 ^ 32) >>>
          (32 - used - (numberOfBits.toNat - used)) |||
        below.toNat >>> (32 - (numberOfBits.toNat - used)) := by
  have bits := top.bits
  have some := top.positive
  have positive : 0 < numberOfBits.toNat := by omega
  have enough : numberOfBits.toNat ≤ remaining := by omega
  have allowed := top.allowed positive few enough
  have twoWords := (top.across_iff positive enough).mpr across
  have usedIs : used % 32 = used := Nat.mod_eq_of_lt (by omega)
  have rest := top.rest
  have free := top.free
  rw [usedIs] at rest free
  have further : (numberOfBits - vector.getRemainingBits % 32).toNat =
      numberOfBits.toNat - used := by
    rw [UInt32.toNat_sub_of_le _ _ (UInt32.le_iff_toNat_le.mpr (by omega)), rest]
  have upper : (32 - vector.getRemainingBits % 32 -
      (numberOfBits - vector.getRemainingBits % 32)).toNat =
      32 - used - (numberOfBits.toNat - used) := by
    rw [UInt32.toNat_sub_of_le _ _ (UInt32.le_iff_toNat_le.mpr (by omega)), free, further]
  have atMost : (numberOfBits - vector.getRemainingBits % 32).toNat ≤ 32 := by
    rw [further]
    exact (Nat.sub_le _ _).trans few
  have lower : (32 - (numberOfBits - vector.getRemainingBits % 32)).toNat =
      32 - (numberOfBits.toNat - used) := by
    rw [UInt32.toNat_sub_of_le _ _ (UInt32.le_iff_toNat_le.mpr atMost), further]
    rfl
  refine ⟨shiftLeft wide word (32 - vector.getRemainingBits % 32) >>>
      (32 - vector.getRemainingBits % 32 -
        (numberOfBits - vector.getRemainingBits % 32)) |||
    below >>> (32 - (numberOfBits - vector.getRemainingBits % 32)), ?_, ?_⟩
  · rw [extractNeighborIndex]
    simp only [if_neg allowed, if_pos twoWords]
    rw [top.index, top.present, Nat.add_sub_cancel, present]
    rfl
  · rw [UInt32.toNat_or, toNat_shiftRight (by omega), toNat_shiftRight (by omega),
      top.shifted keeps, upper, lower]

end Extract

/-- The index on top is taken. -/
theorem Holds.extract (keeps : ∀ word, wide word = word) {top : Piece}
    (holds : Holds vector taken (top :: left)) (width : numberOfBits.toNat = top.width)
    (positive : 0 < top.width) (few : top.width ≤ 32) :
    ∃ index next, extractNeighborIndex wide vector numberOfBits = some (index, next) ∧
      index.toNat = top.value ∧ Holds next (taken ++ [top]) left := by
  have onTop := read_pack taken top left
  have used : (vector.used + numberOfBits).toNat = size (taken ++ [top]) := by
    have total := holds.total
    have bound := vector.totalBitSize.toNat_lt
    simp only [size_append, size_cons] at total
    rw [UInt32.toNat_add, holds.used, width]
    simp only [size_append, size_cons, size_nil]
    omega
  have after :
      Holds { vector with used := vector.used + numberOfBits } (taken ++ [top]) left :=
    { spells := by simpa using holds.spells
      notEmpty := holds.notEmpty
      current := holds.current
      length := by simpa using holds.length
      total := by simpa using holds.total
      used }
  rcases holds.topWord positive with ⟨i, inWord, word, inTop⟩
  have bits := inTop.bits
  by_cases within : numberOfBits.toNat ≤ inWord
  · rcases inTop.extract_within keeps (width ▸ positive) within with
      ⟨index, extracted, value⟩
    refine ⟨index, _, extracted, ?_, after⟩
    have present : (vector.nixVector.map UInt32.toNat)[i]? = some word.toNat := by
      simp [inTop.present]
    have place : 32 * i + inWord - numberOfBits.toNat = size left := by omega
    rw [value, holds.spells.read_word present inTop.few within, place, width, onTop]
  · cases i with
    | zero => omega
    | succ i =>
        have inside := (List.getElem?_eq_some_iff.mp inTop.present).1
        have lower := List.getElem?_eq_getElem (l := vector.nixVector) (i := i) (by omega)
        have fewBits : numberOfBits.toNat ≤ 32 := width ▸ few
        rcases inTop.extract_across lower keeps fewBits (not_le.mp within) with
          ⟨index, extracted, value⟩
        refine ⟨index, _, extracted, ?_, after⟩
        have present : (vector.nixVector.map UInt32.toNat)[i + 1]? = some word.toNat := by
          simp [inTop.present]
        have belowPresent : (vector.nixVector.map UInt32.toNat)[i]? =
            some vector.nixVector[i].toNat := by
          simp [lower]
        have place : 32 * (i + 1) + inWord - numberOfBits.toNat = size left := by omega
        rw [value, holds.spells.read_words present belowPresent (UInt32.toNat_lt _)
          (not_le.mp within).le fewBits, place, width, onTop]

end Bits

/-! ## Sequences of indices -/

/-- `AddNeighborIndex` for some indices, each with its number of bits. -/
def addAll (wide : UInt32 → UInt32) (vector : NixVector)
    (indices : List (UInt32 × UInt32)) :
    Option NixVector :=
  indices.foldlM (fun vector index => vector.addNeighborIndex wide index.1 index.2) vector

/-- `ExtractNeighborIndex` for some numbers of bits. -/
def extractAll (wide : UInt32 → UInt32) (vector : NixVector) : List UInt32 →
    Option (List UInt32)
  | [] => some []
  | numberOfBits :: rest => do
      let (index, vector) ← vector.extractNeighborIndex wide numberOfBits
      let indices ← vector.extractAll wide rest
      return index :: indices

/-- Each index fits in its bits, and the bits can be counted. -/
structure Fit (indices : List (UInt32 × UInt32)) : Prop where
  each : ∀ index ∈ indices, 0 < index.2.toNat ∧ index.2.toNat ≤ 32 ∧
    index.1.toNat < 2 ^ index.2.toNat
  total : (indices.map fun index => index.2.toNat).sum < 2 ^ 32

/-- The piece of an index. -/
def Codes (piece : Piece) (index : UInt32 × UInt32) : Prop :=
  piece.value = index.1.toNat ∧ piece.width = index.2.toNat

section Sequences

variable {wide : UInt32 → UInt32} {vector : NixVector} {taken left : List Piece}
  {indices : List (UInt32 × UInt32)}

theorem Holds.addAll (wide : UInt32 → UInt32) (holds : Holds vector [] left)
    (each : ∀ index ∈ indices, 0 < index.2.toNat ∧ index.2.toNat ≤ 32 ∧
      index.1.toNat < 2 ^ index.2.toNat)
    (room : (indices.map fun index => index.2.toNat).sum + size left < 2 ^ 32) :
    ∃ next pieces, NixVector.addAll wide vector indices = some next ∧
      Holds next [] (pieces ++ left) ∧ List.Forall₂ Codes pieces indices.reverse := by
  induction indices generalizing vector left with
  | nil => exact ⟨vector, [], rfl, holds, List.Forall₂.nil⟩
  | cons index rest induction =>
      rcases each index List.mem_cons_self with ⟨positive, few, fits⟩
      rw [List.map_cons, List.sum_cons] at room
      rcases holds.add wide fits positive few (by omega) with ⟨next, added, more⟩
      have left : (rest.map fun index => index.2.toNat).sum +
          size (piece index.1 index.2 fits :: left) < 2 ^ 32 := by
        rw [size_cons]
        simp only [piece]
        omega
      rcases induction more
        (fun other member => each other (List.mem_cons_of_mem _ member)) left
        with ⟨final, pieces, ran, holdsAll, codes⟩
      refine ⟨final, pieces ++ [piece index.1 index.2 fits],
        ?_, by simpa using holdsAll, ?_⟩
      · rw [NixVector.addAll, List.foldlM_cons, added]
        exact ran
      · rw [List.reverse_cons]
        exact List.rel_append codes (List.Forall₂.cons ⟨rfl, rfl⟩ List.Forall₂.nil)

theorem Holds.extractAll (keeps : ∀ word, wide word = word)
    (holds : Holds vector taken left)
    (each : ∀ index ∈ indices, 0 < index.2.toNat ∧ index.2.toNat ≤ 32)
    (codes : List.Forall₂ Codes left indices) :
    NixVector.extractAll wide vector (indices.map Prod.snd) =
      some (indices.map Prod.fst) := by
  induction codes generalizing vector taken with
  | nil => rfl
  | @cons top index pieces rest code codes induction =>
      rcases each index List.mem_cons_self with ⟨positive, few⟩
      rw [← code.2] at positive few
      rcases holds.extract keeps code.2.symm positive few with
        ⟨value, next, extracted, same, after⟩
      have valueIs : value = index.1 := UInt32.toNat_inj.mp (same.trans code.1)
      have others :=
        induction after fun other member => each other (List.mem_cons_of_mem _ member)
      rw [List.map_cons, NixVector.extractAll, extracted]
      simp [others, valueIs]

end Sequences

/-- Indices can be taken out in the opposite order, whatever they are, exactly if a
shift of a word by all of its bits leaves it as it is. -/
theorem extractAll_addAll_iff (wide : UInt32 → UInt32) :
    (∀ indices, Fit indices → ∃ vector, addAll wide {} indices = some vector ∧
      extractAll wide vector (indices.reverse.map Prod.snd) =
        some (indices.reverse.map Prod.fst)) ↔
      ∀ word, wide word = word := by
  constructor
  · intro returns word
    have fit : Fit [(word, 32)] := by
      constructor
      · intro index member
        rw [List.mem_singleton.mp member]
        exact ⟨by simp, by simp, word.toNat_lt⟩
      · simp
    rcases returns _ fit with ⟨vector, added, extracted⟩
    have whole : addAll wide {} [(word, 32)] = some
        { nixVector := [word], currentVectorBitSize := 32, totalBitSize := 32 } := by
      simp [addAll, addNeighborIndex, shiftLeft]
    cases whole.symm.trans added
    simpa [extractAll, extractNeighborIndex, getRemainingBits, shiftLeft] using extracted
  · intro keeps indices fit
    rcases holds_empty.addAll wide fit.each (by simpa using fit.total) with
      ⟨vector, pieces, added, holds, codes⟩
    rw [List.append_nil] at holds
    refine ⟨vector, added, holds.extractAll keeps ?_ codes⟩
    intro index member
    rcases fit.each index (List.mem_reverse.mp member) with ⟨positive, few, -⟩
    exact ⟨positive, few⟩

end NixVector

end DataCenter
