import Mathlib

/-! # Hardware and protocol addresses

ns-3's `Mac48Address`, `Ipv4Address` and the untyped octet string `Address`,
with the orders that `std::map` keys them by. -/

namespace DataCenter

open Std

/-- The six octets `uint8_t m_address[6]`.  The default constructor clears
them. -/
structure Mac48Address where
  octet0 : UInt8 := 0
  octet1 : UInt8 := 0
  octet2 : UInt8 := 0
  octet3 : UInt8 := 0
  octet4 : UInt8 := 0
  octet5 : UInt8 := 0
  deriving DecidableEq, Repr

/-- An address whose type is not recorded, as `ArpHeader` reads it from a
packet: its octets. -/
abbrev Address := List UInt8

namespace Mac48Address

/-- `operator <` compares the six octets with `memcmp`. -/
instance : Ord Mac48Address where
  compare := compareLex (compareOn octet0) <| compareLex (compareOn octet1) <|
    compareLex (compareOn octet2) <| compareLex (compareOn octet3) <|
    compareLex (compareOn octet4) (compareOn octet5)

instance : TransOrd Mac48Address :=
  inferInstanceAs <| TransCmp <| compareLex (compareOn octet0) <|
    compareLex (compareOn octet1) <| compareLex (compareOn octet2) <|
    compareLex (compareOn octet3) <| compareLex (compareOn octet4) (compareOn octet5)

instance : LawfulEqOrd Mac48Address where
  eq_of_compare {left right} equal := by
    have octetsEqual : compareLex (compareOn octet0) (compareLex (compareOn octet1)
        (compareLex (compareOn octet2) (compareLex (compareOn octet3)
          (compareLex (compareOn octet4) (compareOn octet5))))) left right = .eq := equal
    cases left
    cases right
    simpa [compareLex, compareOn, Ordering.then_eq_eq, LawfulEqOrd.compare_eq_iff_eq]
      using octetsEqual

/-- `ff:ff:ff:ff:ff:ff`, which the switches also use as "no such address". -/
def getBroadcast : Mac48Address := ⟨0xff, 0xff, 0xff, 0xff, 0xff, 0xff⟩

def isBroadcast (address : Mac48Address) : Bool := address = getBroadcast

/-- The group bit is the low bit of the first octet. -/
def isGroup (address : Mac48Address) : Bool := address.octet0 &&& 0x01 = 0x01

def convertTo (address : Mac48Address) : Address :=
  [address.octet0, address.octet1, address.octet2, address.octet3, address.octet4,
    address.octet5]

/-- `ConvertFrom` asserts that the address has six octets. -/
def convertFrom : Address → Option Mac48Address
  | [octet0, octet1, octet2, octet3, octet4, octet5] =>
      some ⟨octet0, octet1, octet2, octet3, octet4, octet5⟩
  | _ => none

@[simp] theorem length_convertTo (address : Mac48Address) :
    address.convertTo.length = 6 := rfl

@[simp] theorem convertFrom_convertTo (address : Mac48Address) :
    convertFrom address.convertTo = some address := rfl

theorem convertTo_injective : Function.Injective convertTo := by
  intro left right equal
  have read := congrArg convertFrom equal
  simpa using read

@[simp] theorem convertTo_inj {left right : Mac48Address} :
    left.convertTo = right.convertTo ↔ left = right :=
  convertTo_injective.eq_iff

end Mac48Address

/-- `uint32_t m_address`.  The default constructor sets 102.102.102.102. -/
structure Ipv4Address where
  address : UInt32 := 0x66666666
  deriving DecidableEq, Repr

namespace Ipv4Address

instance : Ord Ipv4Address where
  compare := compareOn address

instance : TransOrd Ipv4Address := inferInstanceAs (TransCmp (compareOn address))

instance : LawfulEqOrd Ipv4Address where
  eq_of_compare {left right} equal := by
    have wordsEqual : compareOn address left right = .eq := equal
    cases left
    cases right
    simpa [compareOn, LawfulEqOrd.compare_eq_iff_eq] using wordsEqual

end Ipv4Address

end DataCenter
