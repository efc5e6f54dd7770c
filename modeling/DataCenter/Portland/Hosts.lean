import DataCenter.Portland.Fate

/-! # Hosts and the frames they send

One host with a hardware address (AMAC) and an IP address of its own is on every
lower port of every edge switch, and sends ARP and IPv4 frames with these
addresses. -/

namespace DataCenter.Portland

open PortlandSwitchNetDevice

variable {k : Nat}

/-- A device belongs to a switch. -/
def Device.IsPort (device : Device k) : Prop := ∃ place, device.port = some place

theorem Device.isPort_of_port {device : Device k} {id : SwitchId k} {isUpper : Bool}
    {index : Nat} (port : device.port = some (id, isUpper, index)) : device.IsPort :=
  ⟨_, port⟩

namespace Host

@[simp] theorem port_accessPort (host : Host k) :
    host.accessPort.port = some (host.edge, false, host.port.val) := rfl

theorem accessPort_injective : Function.Injective (accessPort (k := k)) := by
  intro first second same
  rcases first with ⟨pod, position, port⟩
  rcases second with ⟨pod', position', port'⟩
  simpa [accessPort, Link.get] using same

@[simp] theorem node_device (host : Host k) : host.device.node = .host host := rfl

theorem device_injective : Function.Injective (device (k := k)) := by
  intro first second same
  have nodes := congrArg Device.node same
  simpa using nodes

/-- The lower ports of edge switches are those that lead to hosts. -/
theorem exists_accessPort {device : Device k} {id : SwitchId k} {index : Nat}
    (port : device.port = some (id, false, index)) (isEdge : id.deviceType = .edge) :
    ∃ host : Host k, device = host.accessPort := by
  rcases device with ⟨link, place⟩
  fin_cases place <;> cases link with
  | hostEdge i j h =>
      cases port <;> exact ⟨⟨i, j, h⟩, rfl⟩
  | edgeAggregation i j h =>
      cases port <;> cases isEdge
  | aggregationCore i j h =>
      cases port <;> cases isEdge

/-- The PMAC of the port that a host is on. -/
def pmac (host : Host k) : Mac48Address :=
  pseudo (UInt8.ofNat host.pod) (UInt8.ofNat host.position) (UInt8.ofNat host.port)

theorem pmac_ne_broadcast (host : Host k) : host.pmac ≠ .getBroadcast :=
  pseudo_ne_broadcast _ _ _

end Host

/-- The addresses of the devices and hosts of a network.  A host's own hardware
address is that of no other host and of no switch port, and no switch port has a
hardware address of the form of a PMAC. -/
structure Addressing (k : Nat) where
  hardware : Device k → Mac48Address
  ip : Host k → Ipv4Address
  ip_injective : Function.Injective ip
  amac_injective : Function.Injective fun host : Host k => hardware host.device
  amac_ne_broadcast : ∀ host : Host k, hardware host.device ≠ .getBroadcast
  amac_ne_port : ∀ (host : Host k) (device : Device k), device.IsPort →
    hardware host.device ≠ hardware device
  port_ne_pseudo : ∀ device : Device k, device.IsPort →
    ∀ pod position port, hardware device ≠ pseudo pod position port

namespace Addressing

variable (network : Addressing k)

/-- The actual MAC address of a host. -/
def amac (host : Host k) : Mac48Address := network.hardware host.device

/-- No switch claims frames for the address. -/
def Unclaimed (dst : Mac48Address) : Prop :=
  ∀ device : Device k, device.IsPort → dst ≠ network.hardware device

/-- A frame that a host sends: ARP or IPv4, with its own addresses, and not to a
switch. -/
structure SentBy (host : Host k) (frame : Frame) : Prop where
  src : frame.src = network.amac host
  dst : network.Unclaimed frame.dst
  payload : (frame.protocol = ipv4Protocol ∧
      frame.packet.peekIpv4Header.source = network.ip host) ∨
    (frame.protocol = arpProtocol ∧ ∃ header, frame.packet.peekArpHeader = some header ∧
      header.macSource = (network.amac host).convertTo ∧
      header.ipv4Source = network.ip host)

/-- The frames that hosts put on their links. -/
def FromHost (message : Message k) : Prop :=
  ∃ host : Host k, message.1 = host.accessPort ∧ network.SentBy host message.2

/-- The entry that an edge switch makes for a host. -/
def entry (host : Host k) : PMACEntry where
  pmac := host.pmac
  amac := network.amac host
  ipAddress := network.ip host
  port := UInt8.ofNat host.port

variable {network}

theorem amac_eq_iff {first second : Host k} :
    network.amac first = network.amac second ↔ first = second :=
  network.amac_injective.eq_iff

theorem ip_eq_iff {first second : Host k} : network.ip first = network.ip second ↔
    first = second :=
  network.ip_injective.eq_iff

theorem unclaimed_pseudo (pod position port : UInt8) :
    network.Unclaimed (pseudo pod position port) := by
  intro device isPort same
  exact network.port_ne_pseudo device isPort pod position port same.symm

theorem unclaimed_pmac (host : Host k) : network.Unclaimed host.pmac :=
  unclaimed_pseudo _ _ _

theorem unclaimed_amac (host : Host k) : network.Unclaimed (network.amac host) :=
  fun device isPort => network.amac_ne_port host device isPort

end Addressing

/-! ## What a switch reads from a frame -/

/-- A frame whose headers can be read. -/
def Frame.Readable (frame : Frame) : Prop :=
  frame.protocol = ipv4Protocol ∨ ∃ header, frame.packet.peekArpHeader = some header

/-- Nothing is left unset for a readable frame. -/
theorem Frame.Readable.metadata_eq {frame : Frame} (readable : frame.Readable)
    (unset : Bool) :
    frame.metadata unset = frame.metadata false := by
  unfold Frame.metadata metadataFromPacket
  rcases readable with ipv4 | ⟨header, parsed⟩
  · simp [ipv4]
  · simp [parsed]

theorem arpProtocol_ne_ipv4Protocol : arpProtocol ≠ ipv4Protocol := by decide

theorem Frame.metadata_of_arp {frame : Frame} {header : ArpHeader}
    (arp : frame.protocol = arpProtocol)
    (parsed : frame.packet.peekArpHeader = some header) (unset : Bool) :
    frame.metadata unset =
      { packet := frame.packet, protocolNumber := frame.protocol, srcAmac := frame.src,
        dstPmac := frame.dst, srcIp := header.ipv4Source, dstIp := header.ipv4Dest,
        isArpRequest := header.isRequest } := by
  simp [Frame.metadata, metadataFromPacket, arp, parsed, arpProtocol_ne_ipv4Protocol]

theorem Frame.metadata_of_ipv4 {frame : Frame} (ipv4 : frame.protocol = ipv4Protocol)
    (unset : Bool) :
    frame.metadata unset =
      { packet := frame.packet, protocolNumber := frame.protocol, srcAmac := frame.src,
        dstPmac := frame.dst, srcIp := frame.packet.peekIpv4Header.source,
        dstIp := frame.packet.peekIpv4Header.destination, isArpRequest := false } := by
  simp [Frame.metadata, metadataFromPacket, ipv4]

namespace Addressing

variable {network : Addressing k} {host : Host k} {frame : Frame}

theorem SentBy.readable (sent : network.SentBy host frame) : frame.Readable := by
  rcases sent.payload with ⟨ipv4, -⟩ | ⟨-, header, parsed, -⟩
  · exact .inl ipv4
  · exact .inr ⟨header, parsed⟩

theorem SentBy.srcIp (sent : network.SentBy host frame) (unset : Bool) :
    (frame.metadata unset).srcIp = network.ip host := by
  rcases sent.payload with ⟨ipv4, source⟩ | ⟨arp, header, parsed, -, source⟩
  · rw [Frame.metadata_of_ipv4 ipv4]
    exact source
  · rw [Frame.metadata_of_arp arp parsed]
    exact source

theorem SentBy.srcAmac (sent : network.SentBy host frame) (unset : Bool) :
    (frame.metadata unset).srcAmac = network.amac host := by
  rw [metadataFromPacket_srcAmac, sent.src]

end Addressing

/-! ## Passing through -/

theorem passesAt_of_unclaimed {network : Addressing k}
    {fabric : Fabric (SwitchId k) (Device k)}
    (wired : Wired network.hardware fabric) {device : Device k} {id : SwitchId k}
    {isUpper : Bool} {index : Nat} (port : device.port = some (id, isUpper, index))
    {frame : Frame} (unclaimed : network.Unclaimed frame.dst) :
    PassesAt network.hardware fabric id device frame := by
  have notOwn := unclaimed device (Device.isPort_of_port port)
  constructor
  · rw [classify]
    rw [if_neg notOwn]
    split
    · simp
    · split <;> simp
  · intro claims
    rcases claims with ⟨-, claimed⟩
    rcases wired.address id with ⟨other, member, address⟩
    have isPort : other.IsPort := by
      rcases List.mem_append.mp member with lower | upper
      · rcases List.mem_iff_getElem?.mp lower with ⟨i, stored⟩
        have lowerSide : (id.side false)[i]? = some other := stored
        exact Device.isPort_of_port (Device.port_of_side lowerSide)
      · rcases List.mem_iff_getElem?.mp upper with ⟨i, stored⟩
        have upperSide : (id.side true)[i]? = some other := stored
        exact Device.isPort_of_port (Device.port_of_side upperSide)
    exact unclaimed other isPort (claimed.trans address)

/-! ## Frames of a host -/

namespace Addressing

variable (network : Addressing k)

/-- A datagram for an IP address. -/
def datagram (host : Host k) (dst : Mac48Address) (ip : Ipv4Address) : Frame where
  packet := ipv4Packet (network.ip host) ip
  src := network.amac host
  dst := dst
  protocol := ipv4Protocol

/-- `ArpL3Protocol::SendArpRequest` -/
def sendArpRequest (host : Host k) (toIp : Ipv4Address) : Frame where
  packet := .ofArpHeader <| .setRequest (network.amac host).convertTo (network.ip host)
    Mac48Address.getBroadcast.convertTo toIp
  src := network.amac host
  dst := .getBroadcast
  protocol := arpProtocol

/-- `ArpL3Protocol::SendArpReply` -/
def sendArpReply (host : Host k) (toIp : Ipv4Address) (toMac : Mac48Address) : Frame where
  packet := .ofArpHeader <| .setReply (network.amac host).convertTo (network.ip host)
    toMac.convertTo toIp
  src := network.amac host
  dst := toMac
  protocol := arpProtocol

variable {network}

theorem sentBy_datagram (host : Host k) {dst : Mac48Address}
    (unclaimed : network.Unclaimed dst)
    (ip : Ipv4Address) : network.SentBy host (network.datagram host dst ip) where
  src := rfl
  dst := unclaimed
  payload := by
    refine .inl ⟨rfl, ?_⟩
    rw [datagram, peekIpv4Header_ipv4Packet]

theorem sentBy_sendArpRequest (host : Host k)
    (unclaimed : network.Unclaimed .getBroadcast)
    (toIp : Ipv4Address) : network.SentBy host (network.sendArpRequest host toIp) where
  src := rfl
  dst := unclaimed
  payload := .inr ⟨rfl, _, Packet.peekArpHeader_ofArpHeader _ rfl rfl, rfl, rfl⟩

theorem sentBy_sendArpReply (host : Host k) (toIp : Ipv4Address) {toMac : Mac48Address}
    (unclaimed : network.Unclaimed toMac) :
    network.SentBy host (network.sendArpReply host toIp toMac) where
  src := rfl
  dst := unclaimed
  payload := .inr ⟨rfl, _, Packet.peekArpHeader_ofArpHeader _ rfl rfl, rfl, rfl⟩

end Addressing

/-! ## Numbered hosts -/

namespace Host

/-- The place of a host among all hosts. -/
def number (host : Host k) : Nat :=
  (host.pod * (k / 2) + host.position) * (k / 2) + host.port

theorem number_injective : Function.Injective (number (k := k)) := by
  intro first second same
  rcases first with ⟨pod, position, port⟩
  rcases second with ⟨pod', position', port'⟩
  have radix : 0 < k / 2 := Nat.lt_of_le_of_lt (Nat.zero_le _) port.isLt
  have digits (high low : Nat) (bound : low < k / 2) :
      (high * (k / 2) + low) / (k / 2) = high ∧
        (high * (k / 2) + low) % (k / 2) = low := by
    rw [Nat.mul_comm high, Nat.mul_add_div radix, Nat.mul_add_mod, Nat.div_eq_of_lt bound,
      Nat.mod_eq_of_lt bound]
    simp
  simp only [number] at same
  have outer := digits (pod * (k / 2) + position) port port.isLt
  have outer' := digits (pod' * (k / 2) + position') port' port'.isLt
  rw [same, outer'.1, outer'.2] at outer
  have inner := digits pod position position.isLt
  have inner' := digits pod' position' position'.isLt
  rw [← outer.1, inner'.1, inner'.2] at inner
  rw [Fin.ext inner.1.symm, Fin.ext inner.2.symm, Fin.ext outer.2.symm]

theorem number_lt (host : Host k) : host.number < k * (k / 2) * (k / 2) := by
  have pods : host.pod * (k / 2) + host.position < k * (k / 2) := by
    have most := Nat.mul_le_mul_right (k / 2) (Nat.succ_le_of_lt host.pod.isLt)
    rw [Nat.succ_mul] at most
    have position := host.position.isLt
    omega
  have most := Nat.mul_le_mul_right (k / 2) (Nat.succ_le_of_lt pods)
  rw [Nat.succ_mul] at most
  have port := host.port.isLt
  rw [number]
  omega

/-- The number as a word. -/
def word (host : Host k) : UInt32 := UInt32.ofNat host.number

theorem word_injective (fits : k * (k / 2) * (k / 2) ≤ 2 ^ 32) :
    Function.Injective (word (k := k)) := by
  intro first second same
  have values := congrArg UInt32.toNat same
  have bound := Nat.lt_of_lt_of_le first.number_lt fits
  have bound' := Nat.lt_of_lt_of_le second.number_lt fits
  unfold word at values
  rw [UInt32.toNat_ofNat_of_lt' bound, UInt32.toNat_ofNat_of_lt' bound'] at values
  exact number_injective values

end Host

/-- A locally administered address for a word. -/
def wordAddress (value : UInt32) : Mac48Address :=
  ⟨2, (value >>> 24).toUInt8, (value >>> 16).toUInt8, (value >>> 8).toUInt8,
    value.toUInt8, 0⟩

theorem wordAddress_injective : Function.Injective wordAddress := by
  intro first second same
  have octets : Iterator.writeHtonU32 first = Iterator.writeHtonU32 second := by
    simpa [wordAddress, Iterator.writeHtonU32] using same
  have read (value : UInt32) :
      (Iterator.readNtohU32 (Iterator.writeHtonU32 value)).1 = value := by
    simpa using congrArg Prod.fst (Iterator.readNtohU32_writeHtonU32 value [])
  rw [← read first, octets, read second]

/-- Every host has its number as its IP address and in its AMAC. -/
def Addressing.numbered (k : Nat) (fits : k * (k / 2) * (k / 2) ≤ 2 ^ 32) :
    Addressing k where
  hardware device :=
    match device.node with
    | .host host => wordAddress host.word
    | .switch _ => ⟨4, 0, 0, 0, 0, 0⟩
  ip host := ⟨host.word⟩
  ip_injective first second same := by
    have sameWord : first.word = second.word := by simpa using same
    exact Host.word_injective fits sameWord
  amac_injective first second same :=
    Host.word_injective fits (wordAddress_injective same)
  amac_ne_broadcast host := by
    simp [wordAddress, Mac48Address.getBroadcast]
  amac_ne_port := by
    intro host device isPort
    rcases isPort with ⟨⟨id, isUpper, index⟩, port⟩
    simp [Device.node_of_port port, wordAddress]
  port_ne_pseudo := by
    intro device isPort pod position inPort
    rcases isPort with ⟨⟨id, isUpper, index⟩, port⟩
    simp [Device.node_of_port port, pseudo]

theorem Addressing.numbered_unclaimed_broadcast (k : Nat)
    (fits : k * (k / 2) * (k / 2) ≤ 2 ^ 32) :
    (Addressing.numbered k fits).Unclaimed .getBroadcast := by
  intro device isPort
  rcases isPort with ⟨⟨id, isUpper, index⟩, port⟩
  simp [Addressing.numbered, Device.node_of_port port, Mac48Address.getBroadcast]

end DataCenter.Portland
