import DataCenter.Foundation.CharBuffer
import DataCenter.Ipv4AddressHelper

/-! # The text of an address

The function `toString` of the scripts with its buffers of 30 characters, which it
fills from the right to the left. -/

namespace DataCenter.AddressText

/-- The arrays of `toString`, which hold anything at first. -/
structure Octets where
  firstOctet : CharBuffer 30
  secondOctet : CharBuffer 30
  thirdOctet : CharBuffer 30
  fourthOctet : CharBuffer 30

/-- `snprintf (buffer, 10, "%d", value)` -/
def printInto (buffer : CharBuffer 30) (value : Nat) : Option (CharBuffer 30) :=
  buffer.snprintf 10 (Nat.toDigits 10 value)

/-- `none` if the function reads or writes outside of a buffer. -/
protected def toString (octets : Octets) (a b c d : Nat) : Option (CharBuffer 30) := do
  let address := CharBuffer.bzero 30
  let firstOctet ← printInto octets.firstOctet a
  let firstOctet ← firstOctet.strcat ['.']
  let secondOctet ← printInto octets.secondOctet b
  let secondOctet ← secondOctet.strcat ['.']
  let thirdOctet ← printInto octets.thirdOctet c
  let thirdOctet ← thirdOctet.strcat ['.']
  let fourthOctet ← printInto octets.fourthOctet d
  let thirdOctet ← thirdOctet.strcatBuffer fourthOctet
  let secondOctet ← secondOctet.strcatBuffer thirdOctet
  let firstOctet ← firstOctet.strcatBuffer secondOctet
  address.strcatBuffer firstOctet

/-- The usual text of four octets. -/
def dottedDecimal (a b c d : Nat) : List Char := s!"{a}.{b}.{c}.{d}".toList

theorem dottedDecimal_eq {a b c d : Nat} (aSmall : a < 256) (bSmall : b < 256)
    (cSmall : c < 256)
    (dSmall : d < 256) : dottedDecimal a b c d = addressString a b c d := by
  rw [addressString, printDecimal_eq aSmall, printDecimal_eq bSmall,
    printDecimal_eq cSmall, printDecimal_eq dSmall]
  simp [dottedDecimal, toString, Nat.repr]

theorem length_printDecimal {octet : Nat} (small : octet < 256) :
    (printDecimal octet).length ≤ 3 := by
  rw [printDecimal_eq small, Nat.length_toDigits_le_iff (by decide) (by decide)]
  omega

theorem exists_printInto (buffer : CharBuffer 30) {octet : Nat} (small : octet < 256) :
    ∃ final, printInto buffer octet = some final ∧
      final.text = some (printDecimal octet) := by
  apply CharBuffer.exists_snprintf
  · have short := length_printDecimal small
    change (printDecimal octet).length < 30
    omega
  · intro member
    have isDigit := Nat.isDigit_of_mem_toDigits (by decide) (by decide) member
    exact absurd isDigit (by decide)

/-- An octet and its dot. -/
theorem exists_printDot (buffer : CharBuffer 30) {octet : Nat} (small : octet < 256) :
    ∃ printed dotted, printInto buffer octet = some printed ∧
      printed.strcat ['.'] = some dotted ∧
      dotted.text = some (printDecimal octet ++ ['.']) := by
  rcases exists_printInto buffer small with ⟨printed, prints, text⟩
  have short := length_printDecimal small
  have fits : (printDecimal octet).length + ['.'].length < 30 := by
    rw [List.length_singleton]
    omega
  rcases CharBuffer.exists_strcat text fits (by decide) with ⟨dotted, appends, dottedText⟩
  exact ⟨printed, dotted, prints, appends, dottedText⟩

/-- The concatenations fit their buffers and give the text. -/
theorem exists_toString (octets : Octets) {a b c d : Nat} (aSmall : a < 256)
    (bSmall : b < 256) (cSmall : c < 256) (dSmall : d < 256) :
    ∃ address, AddressText.toString octets a b c d = some address ∧
      address.text = some (addressString a b c d) := by
  have aShort := length_printDecimal aSmall
  have bShort := length_printDecimal bSmall
  have cShort := length_printDecimal cSmall
  have dShort := length_printDecimal dSmall
  rcases exists_printDot octets.firstOctet aSmall with
    ⟨a', first, printsA, dotsA, firstText⟩
  rcases exists_printDot octets.secondOctet bSmall with
    ⟨b', second, printsB, dotsB, secondText⟩
  rcases exists_printDot octets.thirdOctet cSmall with
    ⟨c', third, printsC, dotsC, thirdText⟩
  rcases exists_printInto octets.fourthOctet dSmall with ⟨fourth, printsD, fourthText⟩
  rcases CharBuffer.exists_strcatBuffer thirdText fourthText (by simp; omega) with
    ⟨lastTwo, joinsTwo, twoText⟩
  rcases CharBuffer.exists_strcatBuffer secondText twoText (by simp; omega) with
    ⟨lastThree, joinsThree, threeText⟩
  rcases CharBuffer.exists_strcatBuffer firstText threeText (by simp; omega) with
    ⟨whole, joinsFour, wholeText⟩
  rcases CharBuffer.exists_strcatBuffer (CharBuffer.text_bzero 29) wholeText
    (by simp; omega) with ⟨address, copies, text⟩
  refine ⟨address, ?_, ?_⟩
  · rw [AddressText.toString, printsA]
    simp only [Option.bind_eq_bind, Option.bind_some, dotsA, printsB, dotsB, printsC,
      dotsC, printsD, joinsTwo, joinsThree, joinsFour, copies]
  · rw [text]
    simp [addressString]

/-- The text of four octets is the usual one, whatever the buffers held, and is read as
the address of these octets; so different octets have different texts. -/
theorem toString_round_trip (octets : Octets) {a b c d : Nat} (aSmall : a < 256)
    (bSmall : b < 256) (cSmall : c < 256) (dSmall : d < 256) :
    ∃ address text, AddressText.toString octets a b c d = some address ∧
      address.text = some text ∧ text = dottedDecimal a b c d ∧
      Ipv4Address.ofString text = .ofOctets a b c d ∧
      ∀ others e f g h, e < 256 → f < 256 → g < 256 → h < 256 →
        ∀ other, AddressText.toString others e f g h = some other →
          other.text = some text →
          e = a ∧ f = b ∧ g = c ∧ h = d := by
  rcases exists_toString octets aSmall bSmall cSmall dSmall with ⟨address, written, text⟩
  refine ⟨address, _, written, text, (dottedDecimal_eq aSmall bSmall cSmall dSmall).symm,
    ofString_addressString aSmall bSmall cSmall dSmall, ?_⟩
  intro others e f g h eSmall fSmall gSmall hSmall other otherWritten same
  rcases exists_toString others eSmall fSmall gSmall hSmall with
    ⟨address', written', text'⟩
  rw [otherWritten] at written'
  cases written'
  have sameText : addressString e f g h = addressString a b c d :=
    Option.some.inj (text'.symm.trans same)
  have sameAddress := ofString_addressString eSmall fSmall gSmall hSmall
  rw [sameText, ofString_addressString aSmall bSmall cSmall dSmall] at sameAddress
  exact (Ipv4Address.ofOctets_inj eSmall fSmall gSmall hSmall aSmall bSmall cSmall
    dSmall).mp sameAddress.symm

/-- Buffers without a single end. -/
theorem toString_round_trip_garbage :
    ∃ address text, AddressText.toString
        ⟨⟨List.replicate 30 'x', rfl⟩, ⟨List.replicate 30 'x', rfl⟩,
          ⟨List.replicate 30 'x', rfl⟩,
          ⟨List.replicate 30 'x', rfl⟩⟩ 10 0 224 255 = some address ∧
      address.text = some text ∧ text = "10.0.224.255".toList := by
  rcases toString_round_trip ⟨⟨List.replicate 30 'x', rfl⟩, ⟨List.replicate 30 'x', rfl⟩,
      ⟨List.replicate 30 'x', rfl⟩, ⟨List.replicate 30 'x', rfl⟩⟩
        (show 10 < 256 by decide)
    (show 0 < 256 by decide) (show 224 < 256 by decide) (show 255 < 256 by decide) with
    ⟨address, text, written, textIs, dotted, -⟩
  exact ⟨address, text, written, textIs, dotted⟩

end DataCenter.AddressText
