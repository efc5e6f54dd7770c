import DataCenter.Address

/-! # Addresses from their text

The text form of an IPv4 address, as the scripts write it and `Ipv4Address`
reads it, and `Ipv4AddressHelper`, which hands out the addresses of a network. -/

namespace DataCenter

/-! ## Text -/

/-- `snprintf (octet, 10, "%d", value)`, which keeps nine characters. -/
def printDecimal (value : Nat) : List Char := (Nat.toDigits 10 value).take 9

/-- The function `toString` of the scripts. -/
def addressString (first second third fourth : Nat) : List Char :=
  printDecimal first ++ '.' :: (printDecimal second ++ '.' ::
    (printDecimal third ++ '.' :: printDecimal fourth))

/-- `byte *= 10; byte += *address - ASCII_ZERO` -/
def readDigit (byte : UInt8) (character : Char) : UInt8 :=
  byte * 10 + (UInt8.ofNat character.toNat - 0x30)

/-- The loop of `AsciiToIpv4Host`, with the octets read so far and the one under way. -/
def asciiToIpv4HostFrom (host : UInt32) (byte : UInt8) : List Char → UInt32
  | [] => host <<< 8 ||| byte.toUInt32
  | character :: address =>
      if character = '.' then asciiToIpv4HostFrom (host <<< 8 ||| byte.toUInt32) 0 address
      else asciiToIpv4HostFrom host (readDigit byte character) address

def asciiToIpv4Host (address : List Char) : UInt32 := asciiToIpv4HostFrom 0 0 address

/-- `Ipv4Address (char const *address)` -/
def Ipv4Address.ofString (address : List Char) : Ipv4Address := ⟨asciiToIpv4Host address⟩

/-! ## The helper -/

/-- The constructor fills the fields with ones, apart from the mask. -/
structure Ipv4AddressHelper where
  network : UInt32 := 0xffffffff
  mask : UInt32 := 0
  address : UInt32 := 0xffffffff
  base : UInt32 := 0xffffffff
  shift : UInt32 := 0xffffffff
  max : UInt32 := 0xffffffff
  deriving DecidableEq, Repr

namespace Ipv4AddressHelper

/-- The loop of `NumAddressBits`, for the bits from `i` on; `none` if its assertion
fails. -/
def numAddressBitsFrom (maskbits : UInt32) (i : UInt32) : Nat → Option UInt32
  | 0 => none
  | count + 1 =>
      if maskbits &&& 1 ≠ 0 then some i
      else numAddressBitsFrom (maskbits >>> 1) (i + 1) count

def numAddressBits (maskbits : UInt32) : Option UInt32 := numAddressBitsFrom maskbits 0 32

/-- `SetBase`; `none` if an assertion fails. -/
def setBase (network mask : Ipv4Address)
    (address : Ipv4Address := .ofString "0.0.0.1".toList) : Option Ipv4AddressHelper := do
  guard (network.address &&& ~~~ mask.address = 0)
  let shift ← numAddressBits mask.address
  guard (shift ≤ 32)
  return {
    network := network.address >>> shift
    mask := mask.address
    address := address.address
    base := address.address
    shift
    max := 1 <<< shift - 2 }

/-- `NewAddress`; `none` if the network has no address left. -/
def newAddress (helper : Ipv4AddressHelper) :
    Option (Ipv4Address × Ipv4AddressHelper) := do
  guard (helper.address ≤ helper.max)
  return (⟨helper.network <<< helper.shift ||| helper.address⟩,
    { helper with address := helper.address + 1 })

/-- `Assign`: the addresses of the devices of a container, in its order. -/
def assign {δ : Type} (helper : Ipv4AddressHelper) :
    List δ → Option (List (δ × Ipv4Address) × Ipv4AddressHelper)
  | [] => some ([], helper)
  | device :: container => do
      let (address, helper) ← helper.newAddress
      let (assigned, helper) ← helper.assign container
      return ((device, address) :: assigned, helper)

end Ipv4AddressHelper

/-! ## Octets -/

/-- The address of four octets. -/
def Ipv4Address.ofOctets (first second third fourth : Nat) : Ipv4Address :=
  ⟨UInt32.ofNat (((first * 256 + second) * 256 + third) * 256 + fourth)⟩

theorem Ipv4Address.ofOctets_inj {first second third fourth : Nat}
    (firstSmall : first < 256)
    (secondSmall : second < 256) (thirdSmall : third < 256) (fourthSmall : fourth < 256)
    {otherFirst otherSecond otherThird otherFourth : Nat}
    (otherFirstSmall : otherFirst < 256)
    (otherSecondSmall : otherSecond < 256) (otherThirdSmall : otherThird < 256)
    (otherFourthSmall : otherFourth < 256) :
    ofOctets first second third fourth =
      ofOctets otherFirst otherSecond otherThird otherFourth ↔
      first = otherFirst ∧ second = otherSecond ∧ third = otherThird ∧
        fourth = otherFourth := by
  rw [ofOctets, ofOctets, Ipv4Address.mk.injEq, ← UInt32.toNat_inj,
    UInt32.toNat_ofNat_of_lt' (by simp only [UInt32.size]; omega),
    UInt32.toNat_ofNat_of_lt' (by simp only [UInt32.size]; omega)]
  omega

theorem readDigit_ofNat {character : Char} (isDigit : character.isDigit) (value : Nat) :
    readDigit (UInt8.ofNat value) character =
      UInt8.ofNat (10 * value + (character.toNat - '0'.toNat)) := by
  have atLeast : 48 ≤ character.toNat := by
    simp only [Char.isDigit, Bool.and_eq_true, decide_eq_true_eq] at isDigit
    exact isDigit.1
  have number : character.toNat = character.toNat - 48 + 48 := by omega
  rw [readDigit]
  rw [number]
  simp only [UInt8.ofNat_add, UInt8.ofNat_mul]
  change UInt8.ofNat value * 10 + (UInt8.ofNat (character.toNat - 48) + 0x30 - 0x30) = _
  rw [UInt8.add_sub_cancel, UInt8.mul_comm]
  rfl

theorem readDigit_foldl {digits : List Char}
    (areDigits : ∀ character ∈ digits, character.isDigit) (value : Nat) :
    digits.foldl readDigit (UInt8.ofNat value) =
      UInt8.ofNat (Nat.ofDigitChars 10 digits value) := by
  induction digits generalizing value with
  | nil => rfl
  | cons character digits induction =>
      have isDigit := areDigits character List.mem_cons_self
      rw [List.foldl_cons, Nat.ofDigitChars_cons, readDigit_ofNat isDigit]
      exact induction (fun other member =>
        areDigits other (List.mem_cons_of_mem _ member)) _

theorem printDecimal_eq {value : Nat} (small : value < 256) :
    printDecimal value = Nat.toDigits 10 value := by
  apply List.take_of_length_le
  rw [Nat.length_toDigits_le_iff (by decide) (by decide)]
  omega

/-- An octet is read as it was written. -/
theorem readDigit_printDecimal {octet : Nat} (small : octet < 256) :
    (printDecimal octet).foldl readDigit 0 = UInt8.ofNat octet := by
  rw [printDecimal_eq small]
  have areDigits : ∀ character ∈ Nat.toDigits 10 octet, character.isDigit :=
    fun character member => Nat.isDigit_of_mem_toDigits (by decide) (by decide) member
  have read := readDigit_foldl areDigits 0
  rwa [Nat.ofDigitChars_ten_toDigits] at read

theorem asciiToIpv4HostFrom_append {digits : List Char} (noDot : '.' ∉ digits)
    (host : UInt32) (byte : UInt8) (address : List Char) :
    asciiToIpv4HostFrom host byte (digits ++ address) =
      asciiToIpv4HostFrom host (digits.foldl readDigit byte) address := by
  induction digits generalizing byte with
  | nil => rfl
  | cons character digits induction =>
      rw [List.mem_cons, not_or] at noDot
      rw [List.cons_append, asciiToIpv4HostFrom, if_neg (Ne.symm noDot.1),
        induction noDot.2, List.foldl_cons]

theorem dot_not_mem_printDecimal (value : Nat) : '.' ∉ printDecimal value := by
  intro member
  have isDigit := Nat.isDigit_of_mem_toDigits (b := 10) (by decide) (by decide)
    (List.mem_of_mem_take member)
  exact absurd isDigit (by decide)

/-- The host number after one more octet. -/
def appendOctet (host : UInt32) (octet : Nat) : UInt32 :=
  host <<< 8 ||| (UInt8.ofNat octet).toUInt32

theorem toNat_appendOctet (host : UInt32) (room : host.toNat < 2 ^ 24) {octet : Nat}
    (small : octet < 256) :
    (appendOctet host octet).toNat = host.toNat * 256 + octet := by
  have byteIs : (UInt8.ofNat octet).toUInt32.toNat = octet := by
    simp [Nat.mod_eq_of_lt small]
  have shifted : (host <<< 8).toNat = host.toNat <<< 8 := by
    rw [UInt32.toNat_shiftLeft]
    apply Nat.mod_eq_of_lt
    simp [Nat.shiftLeft_eq]
    omega
  rw [appendOctet, UInt32.toNat_or, shifted, byteIs,
    ← Nat.shiftLeft_add_eq_or_of_lt small, Nat.shiftLeft_eq]

theorem asciiToIpv4HostFrom_octet (host : UInt32) {octet : Nat} (small : octet < 256)
    (address : List Char) :
    asciiToIpv4HostFrom host 0 (printDecimal octet ++ '.' :: address) =
      asciiToIpv4HostFrom (appendOctet host octet) 0 address := by
  rw [asciiToIpv4HostFrom_append (dot_not_mem_printDecimal octet),
    readDigit_printDecimal small, asciiToIpv4HostFrom, if_pos rfl, appendOctet]

theorem asciiToIpv4HostFrom_last (host : UInt32) {octet : Nat} (small : octet < 256) :
    asciiToIpv4HostFrom host 0 (printDecimal octet) = appendOctet host octet := by
  have read := asciiToIpv4HostFrom_append (dot_not_mem_printDecimal octet) host 0 []
  rwa [List.append_nil, readDigit_printDecimal small] at read

/-- What `toString` writes, `Ipv4Address` reads. -/
theorem ofString_addressString {first second third fourth : Nat}
    (firstSmall : first < 256)
    (secondSmall : second < 256) (thirdSmall : third < 256) (fourthSmall : fourth < 256) :
    Ipv4Address.ofString (addressString first second third fourth) =
      .ofOctets first second third fourth := by
  have zero : (0 : UInt32).toNat = 0 := rfl
  have one := toNat_appendOctet 0 (by decide) firstSmall
  have two := toNat_appendOctet (appendOctet 0 first) (by omega) secondSmall
  have three :=
    toNat_appendOctet (appendOctet (appendOctet 0 first) second) (by omega) thirdSmall
  have four := toNat_appendOctet
    (appendOctet (appendOctet (appendOctet 0 first) second) third) (by omega) fourthSmall
  rw [Ipv4Address.ofString, asciiToIpv4Host, addressString, Ipv4Address.ofOctets]
  rw [asciiToIpv4HostFrom_octet 0 firstSmall, asciiToIpv4HostFrom_octet _ secondSmall,
    asciiToIpv4HostFrom_octet _ thirdSmall, asciiToIpv4HostFrom_last _ fourthSmall,
    Ipv4Address.mk.injEq, ← UInt32.toNat_inj, four, three, two, one,
    UInt32.toNat_ofNat_of_lt' (by simp only [UInt32.size]; omega)]
  omega

/-! ## The addresses of a container -/

section Container

/-- The helper, set to a network of 256 addresses. -/
def helperOf (first second third base next : Nat) : Ipv4AddressHelper where
  network := UInt32.ofNat ((first * 256 + second) * 256 + third)
  mask := 0xffffff00
  address := UInt32.ofNat next
  base := UInt32.ofNat base
  shift := 8
  max := 254

/-- `"255.255.255.0"` -/
def octetMask : Ipv4Address := .ofString "255.255.255.0".toList

theorem setBase_octetMask {first second third : Nat} (firstSmall : first < 256)
    (secondSmall : second < 256) (thirdSmall : third < 256) (base : Nat) :
    Ipv4AddressHelper.setBase (.ofOctets first second third 0) octetMask
      (.ofOctets 0 0 0 base) = some (helperOf first second third base base) := by
  have mask : octetMask.address = 0xffffff00 := by decide
  have shift : Ipv4AddressHelper.numAddressBits 0xffffff00 = some 8 := by decide
  have networkIs : (Ipv4Address.ofOctets first second third 0).address.toNat =
      ((first * 256 + second) * 256 + third) * 256 := by
    rw [Ipv4Address.ofOctets,
      UInt32.toNat_ofNat_of_lt' (by simp only [UInt32.size]; omega)]
    omega
  have consistent : (Ipv4Address.ofOctets first second third 0).address &&& 0xff = 0 := by
    rw [← UInt32.toNat_inj, UInt32.toNat_and, networkIs]
    change _ &&& (2 ^ 8 - 1) = 0
    rw [Nat.and_two_pow_sub_one_eq_mod]
    omega
  have shifted : (Ipv4Address.ofOctets first second third 0).address >>> 8 =
      UInt32.ofNat ((first * 256 + second) * 256 + third) := by
    rw [← UInt32.toNat_inj, UInt32.toNat_shiftRight, networkIs,
      UInt32.toNat_ofNat_of_lt' (by simp only [UInt32.size]; omega)]
    change _ >>> 8 = _
    rw [Nat.shiftRight_eq_div_pow]
    omega
  have baseIs : (Ipv4Address.ofOctets 0 0 0 base).address = UInt32.ofNat base := by
    simp [Ipv4Address.ofOctets]
  have inverse : ~~~(0xffffff00 : UInt32) = 0xff := by decide
  simp [Ipv4AddressHelper.setBase, mask, shift, inverse, consistent, shifted, baseIs,
    helperOf]
  rfl

theorem newAddress_helperOf {first second third base next : Nat}
    (firstSmall : first < 256)
    (secondSmall : second < 256) (thirdSmall : third < 256) (left : next ≤ 254) :
    (helperOf first second third base next).newAddress =
      some (.ofOctets first second third next,
        helperOf first second third base (next + 1)) := by
  have nextIs : (UInt32.ofNat next).toNat = next :=
    UInt32.toNat_ofNat_of_lt' (by simp only [UInt32.size]; omega)
  have networkIs : (UInt32.ofNat ((first * 256 + second) * 256 + third)).toNat =
      (first * 256 + second) * 256 + third :=
    UInt32.toNat_ofNat_of_lt' (by simp only [UInt32.size]; omega)
  have available : UInt32.ofNat next ≤ 254 := by
    rw [UInt32.le_iff_toNat_le, nextIs]
    exact left
  have shifted : (UInt32.ofNat ((first * 256 + second) * 256 + third) <<< 8).toNat =
      ((first * 256 + second) * 256 + third) <<< 8 := by
    rw [UInt32.toNat_shiftLeft, networkIs]
    apply Nat.mod_eq_of_lt
    simp [Nat.shiftLeft_eq]
    omega
  have addressIs : UInt32.ofNat ((first * 256 + second) * 256 + third) <<< 8 |||
      UInt32.ofNat next =
      (Ipv4Address.ofOctets first second third next).address := by
    rw [← UInt32.toNat_inj, UInt32.toNat_or, shifted, nextIs, Ipv4Address.ofOctets,
      UInt32.toNat_ofNat_of_lt' (by simp only [UInt32.size]; omega),
      ← Nat.shiftLeft_add_eq_or_of_lt (show next < 2 ^ 8 by omega), Nat.shiftLeft_eq]
  have following : UInt32.ofNat next + 1 = UInt32.ofNat (next + 1) :=
    (UInt32.ofNat_add next 1).symm
  simp only [Ipv4AddressHelper.newAddress, helperOf, available, addressIs, following,
    guard, if_true]
  rfl

/-- The devices of a container get the addresses from the next one on. -/
theorem assign_helperOf {δ : Type} {first second third base : Nat}
    (firstSmall : first < 256)
    (secondSmall : second < 256) (thirdSmall : third < 256) (container : List δ)
    {next : Nat} (enough : next + container.length ≤ 255) :
    (helperOf first second third base next).assign container =
      some ((container.zipIdx next).map fun (device, host) =>
          (device, .ofOctets first second third host),
        helperOf first second third base (next + container.length)) := by
  induction container generalizing next with
  | nil => rfl
  | cons device container induction =>
      rw [List.length_cons] at enough
      rw [Ipv4AddressHelper.assign,
        newAddress_helperOf firstSmall secondSmall thirdSmall (by omega)]
      simp only [Option.pure_def, Option.bind_eq_bind, Option.bind_some]
      rw [induction (by omega)]
      simp [Nat.add_assoc, Nat.add_comm 1]

/-- `SetBase` and `Assign`, with the subnet and the base from their octets. -/
theorem exists_assign_subnet {δ : Type} {first second third base : Nat}
    (firstSmall : first < 256)
    (secondSmall : second < 256) (thirdSmall : third < 256) (container : List δ)
    (enough : base + container.length ≤ 255) :
    ∃ helper final,
        Ipv4AddressHelper.setBase (.ofString (addressString first second third 0))
        octetMask (.ofString (addressString 0 0 0 base)) = some helper ∧
      helper.assign container = some ((container.zipIdx base).map fun (device, host) =>
        (device, .ofOctets first second third host), final) := by
  have zero : 0 < 256 := by decide
  refine ⟨helperOf first second third base base,
    helperOf first second third base (base + container.length), ?_, ?_⟩
  · rw [ofString_addressString firstSmall secondSmall thirdSmall zero,
      ofString_addressString zero zero zero (by omega)]
    exact setBase_octetMask firstSmall secondSmall thirdSmall base
  · exact assign_helperOf firstSmall secondSmall thirdSmall container enough

end Container

end DataCenter
