import DataCenter.Address

/-! # Packets and the headers the switches read

A packet is its octets.  `ArpHeader` and `Ipv4Header` are read and written
through an iterator as in ns-3. -/

namespace DataCenter

/-- The octets of an ns-3 `Packet`. -/
structure Packet where
  octets : List UInt8
  deriving DecidableEq, Repr

namespace Packet

def getSize (packet : Packet) : Nat := packet.octets.length

end Packet

/-! ## Buffer iterators -/

/-- A `Buffer::Iterator`, as the octets that lie ahead of it. -/
abbrev Iterator := List UInt8

namespace Iterator

/-- Read one octet.  Ahead of a short payload lie the zero octets with which
`CsmaNetDevice::AddHeader` pads it. -/
def readU8 : Iterator → UInt8 × Iterator
  | [] => (0, [])
  | octet :: rest => (octet, rest)

def readNtohU16 (start : Iterator) : UInt16 × Iterator :=
  let (high, i) := readU8 start
  let (low, i) := readU8 i
  (high.toUInt16 <<< 8 ||| low.toUInt16, i)

def readNtohU32 (start : Iterator) : UInt32 × Iterator :=
  let (octet3, i) := readU8 start
  let (octet2, i) := readU8 i
  let (octet1, i) := readU8 i
  let (octet0, i) := readU8 i
  (((octet3.toUInt32 <<< 8 ||| octet2.toUInt32) <<< 8 ||| octet1.toUInt32) <<< 8 |||
    octet0.toUInt32, i)

def read : Nat → Iterator → List UInt8 × Iterator
  | 0, i => ([], i)
  | size + 1, start =>
      let (octet, i) := readU8 start
      let (octets, i) := read size i
      (octet :: octets, i)

def next (count : Nat) (i : Iterator) : Iterator := i.drop count

def writeHtonU16 (value : UInt16) : List UInt8 := [(value >>> 8).toUInt8, value.toUInt8]

def writeHtonU32 (value : UInt32) : List UInt8 :=
  [(value >>> 24).toUInt8, (value >>> 16).toUInt8, (value >>> 8).toUInt8, value.toUInt8]

private theorem toNat_append16 (high : UInt16) (low : UInt8) (fits : high.toNat < 2 ^ 8) :
    (high <<< 8 ||| low.toUInt16).toNat = high.toNat * 2 ^ 8 + low.toNat := by
  have lowBound : low.toNat < 2 ^ 8 := low.toNat_lt
  have shifted : (high <<< 8).toNat = high.toNat <<< 8 := by
    simp [UInt16.toNat_shiftLeft, Nat.shiftLeft_eq]
    omega
  rw [UInt16.toNat_or, shifted, UInt8.toNat_toUInt16,
    ← Nat.shiftLeft_add_eq_or_of_lt lowBound, Nat.shiftLeft_eq]

private theorem toNat_append32 (high : UInt32) (low : UInt8)
    (fits : high.toNat < 2 ^ 24) :
    (high <<< 8 ||| low.toUInt32).toNat = high.toNat * 2 ^ 8 + low.toNat := by
  have lowBound : low.toNat < 2 ^ 8 := low.toNat_lt
  have shifted : (high <<< 8).toNat = high.toNat <<< 8 := by
    simp [UInt32.toNat_shiftLeft, Nat.shiftLeft_eq]
    omega
  rw [UInt32.toNat_or, shifted, UInt8.toNat_toUInt32,
    ← Nat.shiftLeft_add_eq_or_of_lt lowBound, Nat.shiftLeft_eq]

private theorem octets_of_16 (value : UInt16) :
    (value >>> 8).toUInt8.toUInt16 <<< 8 ||| value.toUInt8.toUInt16 = value := by
  have bound := value.toNat_lt
  apply UInt16.toNat_inj.mp
  rw [toNat_append16 _ _ (by simp; omega)]
  simp [Nat.shiftRight_eq_div_pow]
  omega

private theorem octets_of_32 (value : UInt32) :
    (((value >>> 24).toUInt8.toUInt32 <<< 8 ||| (value >>> 16).toUInt8.toUInt32) <<< 8 |||
      (value >>> 8).toUInt8.toUInt32) <<< 8 ||| value.toUInt8.toUInt32 = value := by
  have bound := value.toNat_lt
  have top := toNat_append32 (value >>> 24).toUInt8.toUInt32 (value >>> 16).toUInt8
    (by simp; omega)
  have middle := toNat_append32 _ (value >>> 8).toUInt8
    (show ((value >>> 24).toUInt8.toUInt32 <<< 8 |||
      (value >>> 16).toUInt8.toUInt32).toNat < 2 ^ 24 by rw [top]; simp; omega)
  apply UInt32.toNat_inj.mp
  rw [toNat_append32 _ _ (by rw [middle, top]; simp; omega), middle, top]
  simp [Nat.shiftRight_eq_div_pow]
  omega

@[simp] theorem readNtohU16_writeHtonU16 (value : UInt16) (rest : Iterator) :
    readNtohU16 (writeHtonU16 value ++ rest) = (value, rest) := by
  change ((value >>> 8).toUInt8.toUInt16 <<< 8 ||| value.toUInt8.toUInt16, rest) = _
  rw [octets_of_16]

@[simp] theorem readNtohU32_writeHtonU32 (value : UInt32) (rest : Iterator) :
    readNtohU32 (writeHtonU32 value ++ rest) = (value, rest) := by
  change ((((value >>> 24).toUInt8.toUInt32 <<< 8 |||
    (value >>> 16).toUInt8.toUInt32) <<< 8 |||
    (value >>> 8).toUInt8.toUInt32) <<< 8 ||| value.toUInt8.toUInt32, rest) = _
  rw [octets_of_32]

@[simp] theorem read_append (octets : List UInt8) (rest : Iterator) :
    read octets.length (octets ++ rest) = (octets, rest) := by
  induction octets with
  | nil => rfl
  | cons octet octets induction => simp [read, readU8, induction]

end Iterator

/-! ## ARP -/

/-- The fields of `ArpHeader`.  `m_type` may hold any 16-bit operation. -/
structure ArpHeader where
  type : UInt16
  macSource : Address
  ipv4Source : Ipv4Address
  macDest : Address
  ipv4Dest : Ipv4Address
  deriving DecidableEq, Repr

namespace ArpHeader

open Iterator

def arpTypeRequest : UInt16 := 1
def arpTypeReply : UInt16 := 2

def setRequest (sourceHardwareAddress : Address) (sourceProtocolAddress : Ipv4Address)
    (destinationHardwareAddress : Address) (destinationProtocolAddress : Ipv4Address) :
    ArpHeader where
  type := arpTypeRequest
  macSource := sourceHardwareAddress
  ipv4Source := sourceProtocolAddress
  macDest := destinationHardwareAddress
  ipv4Dest := destinationProtocolAddress

def setReply (sourceHardwareAddress : Address) (sourceProtocolAddress : Ipv4Address)
    (destinationHardwareAddress : Address) (destinationProtocolAddress : Ipv4Address) :
    ArpHeader where
  type := arpTypeReply
  macSource := sourceHardwareAddress
  ipv4Source := sourceProtocolAddress
  macDest := destinationHardwareAddress
  ipv4Dest := destinationProtocolAddress

def isRequest (header : ArpHeader) : Bool := header.type = arpTypeRequest

/-- `Serialize`, which asserts that both hardware addresses have one length. -/
def serialize (header : ArpHeader) : List UInt8 :=
  writeHtonU16 0x0001 ++ (writeHtonU16 0x0800 ++
    (header.macSource.length.toUInt8 :: 4 :: (writeHtonU16 header.type ++
      (header.macSource ++ (writeHtonU32 header.ipv4Source.address ++
        (header.macDest ++ writeHtonU32 header.ipv4Dest.address))))))

/-- `Deserialize`; `none` where it returns 0. -/
def deserialize (start : Iterator) : Option ArpHeader :=
  let i := next 2 start                                     -- skip HRD
  let (protocolType, i) := readNtohU16 i                    -- PRO
  let (hardwareAddressLen, i) := readU8 i                   -- HLN
  let (protocolAddressLen, i) := readU8 i                   -- PLN
  if protocolType ≠ 0x800 ∨ protocolAddressLen ≠ 4 then
    none
  else
    let (type, i) := readNtohU16 i                          -- OP
    let (macSource, i) := read hardwareAddressLen.toNat i   -- SHA
    let (ipv4Source, i) := readNtohU32 i                    -- SPA
    let (macDest, i) := read hardwareAddressLen.toNat i     -- THA
    let (ipv4Dest, _) := readNtohU32 i                      -- TPA
    some { type, macSource, ipv4Source := ⟨ipv4Source⟩, macDest, ipv4Dest := ⟨ipv4Dest⟩ }

/-- A header whose two hardware addresses have one length is read back from
what `Serialize` writes, whatever follows it. -/
theorem deserialize_serialize (header : ArpHeader) (rest : Iterator)
    (sameLength : header.macDest.length = header.macSource.length)
    (fits : header.macSource.length < 256) :
    deserialize (header.serialize ++ rest) = some header := by
  have lengthOctet : header.macSource.length.toUInt8.toNat = header.macSource.length :=
    UInt8.toNat_ofNat_of_lt' fits
  have sourceRead (tail : Iterator) :
      read header.macSource.length (header.macSource ++ tail) =
        (header.macSource, tail) :=
    read_append _ _
  have destRead (tail : Iterator) :
      read header.macSource.length (header.macDest ++ tail) = (header.macDest, tail) := by
    rw [← sameLength]
    exact read_append _ _
  have skipped (tail : Iterator) : next 2 (writeHtonU16 0x0001 ++ tail) = tail := rfl
  simp [deserialize, serialize, List.append_assoc, skipped, readU8, lengthOctet,
    sourceRead, destRead]

end ArpHeader

/-! ## IPv4 -/

/-- The fields of `Ipv4Header` that the switches use. -/
structure Ipv4Header where
  source : Ipv4Address
  destination : Ipv4Address
  deriving DecidableEq, Repr

namespace Ipv4Header

open Iterator

/-- `Deserialize`: the source is at octet 12 and the destination at octet 16. -/
def deserialize (start : Iterator) : Ipv4Header :=
  let i := next 12 start
  let (source, i) := readNtohU32 i
  let (destination, _) := readNtohU32 i
  { source := ⟨source⟩, destination := ⟨destination⟩ }

end Ipv4Header

namespace Packet

/-- `PeekHeader (arp_hd)`; `none` where it returns 0. -/
def peekArpHeader (packet : Packet) : Option ArpHeader :=
  ArpHeader.deserialize packet.octets

/-- `PeekHeader (ip_hd)`, whose result is never 0. -/
def peekIpv4Header (packet : Packet) : Ipv4Header := Ipv4Header.deserialize packet.octets

/-- `Create<Packet> ()` followed by `AddHeader (arp)`. -/
def ofArpHeader (header : ArpHeader) : Packet := ⟨header.serialize⟩

/-- An ARP header between two 48-bit addresses survives the wire. -/
theorem peekArpHeader_ofArpHeader (header : ArpHeader) {source dest : Mac48Address}
    (sourceIs : header.macSource = source.convertTo)
    (destIs : header.macDest = dest.convertTo) :
    (ofArpHeader header).peekArpHeader = some header := by
  have read :=
    header.deserialize_serialize [] (by simp [sourceIs, destIs]) (by simp [sourceIs])
  simpa [peekArpHeader, ofArpHeader] using read

end Packet

/-- An IPv4 packet without payload. -/
def ipv4Packet (source destination : Ipv4Address) : Packet :=
  ⟨[0x45, 0, 0, 20, 0, 0, 0, 0, 64, 17, 0, 0] ++
    (Iterator.writeHtonU32 source.address ++ Iterator.writeHtonU32 destination.address)⟩

theorem peekIpv4Header_ipv4Packet (source destination : Ipv4Address) :
    (ipv4Packet source destination).peekIpv4Header = { source, destination } := by
  have skipped (tail : Iterator) :
      Iterator.next 12 ([0x45, 0, 0, 20, 0, 0, 0, 0, 64, 17, 0, 0] ++ tail) = tail := rfl
  have last (value : UInt32) :
      Iterator.readNtohU32 (Iterator.writeHtonU32 value) = (value, []) := by
    simpa using Iterator.readNtohU32_writeHtonU32 value []
  rw [Packet.peekIpv4Header, Ipv4Header.deserialize, ipv4Packet]
  simp only [skipped, Iterator.readNtohU32_writeHtonU32, last]

end DataCenter
