import DataCenter.Portland.Allocation
import DataCenter.Portland.Transit

/-! # PMACs and the hardware addresses of ports

Hardware addresses count the devices, and PMACs are numbers with a one in the last
octet.  In a large network a port on the way to a host can have the PMAC of the host
as its hardware address, and takes every frame for the host as its own. -/

namespace DataCenter.Portland

open Courier PortlandSwitchNetDevice

variable {k : Nat}

/-- The PMAC that the edge switch of a host assigns. -/
def Host.assigned (host : Host k) : Mac48Address :=
  ((portlandSetup (allocated k)).switches host.edge).assignedPmac (UInt8.ofNat host.port)

theorem Host.assigned_eq (host : Host k) : host.assigned = host.pmac :=
  (wired_portlandSetup (allocated k)).assignedPmac_eq host

/-- No port at which a frame for a host can arrive has the PMAC of the host, and no port
keeps such a frame for itself. -/
structure Unshadowed (k : Nat) : Prop where
  apart : ∀ (host : Host k) (device : Device k), device.IsPort →
    CanArrive (allocated k) host.assigned device → allocated k device ≠ host.assigned
  passes :
    ∀ (host : Host k) (id : SwitchId k) (isUpper : Bool) (index : Nat) fabric message,
    Carries (handle (allocated k)) Entering (start (allocated k)) fabric message →
      message.1.port = some (id, isUpper, index) → message.2.dst = host.assigned →
        PassesAt (allocated k) fabric id message.1 message.2

/-! ## Where the numbers meet -/

/-- Half the ports of a switch at which the numbers meet: on an upper port of an
aggregation switch, or on one of an edge switch. -/
def Meets (half : Nat) : Prop :=
  (∃ group < half, ∃ member < half, ∃ position < half, ∃ port < half,
    half * (2 * half ^ 2 + group * half + member) = 2 ^ 14 * (256 * position + port)) ∨
  ∃ group < half, ∃ port < half, half * (2 * half ^ 2 + group) = 2 ^ 15 * port

section Numbers

variable (fits : k ≤ 256) (even : k = 2 * (k / 2))

include fits in
theorem allocated_eq_pmac_iff (device : Device k) (host : Host k) :
    allocated k device = host.pmac ↔ device.number =
      host.pod * 2 ^ 32 + host.position * 2 ^ 24 + host.port * 2 ^ 16 + 1 := by
  have pod : (UInt8.ofNat host.pod).toNat = host.pod := by
    rw [toNat_ofNat_fin, octet_of_le fits]
  have position : (UInt8.ofNat host.position).toNat = host.position := by
    rw [toNat_ofNat_fin, octet_of_le (by omega)]
  have port : (UInt8.ofNat host.port).toNat = host.port := by
    rw [toNat_ofNat_fin, octet_of_le (by omega)]
  rw [allocated_eq_iff fits, Host.pmac, number_pseudo, pod, position, port]

include even in
theorem number_aggregation (group member : Fin (k / 2)) (pod : Fin k) :
    ((Link.aggregationCore group member pod).get 0).number =
      4 * (k / 2 * (2 * (k / 2) ^ 2 + group * (k / 2) + member)) + 2 * pod + 1 := by
  have general (half i j h : Nat) :
      2 * (2 * half * half * half +
        (2 * half * half * half + ((i * half + j) * (2 * half) + h))) =
        4 * (half * (2 * half ^ 2 + i * half + j)) + 2 * h := by ring
  have here := general (k / 2) group member pod
  rw [← even] at here
  exact congrArg Nat.succ here

include even in
theorem number_edge (pod : Fin k) (group position : Fin (k / 2)) :
    ((Link.edgeAggregation pod group position).get 0).number =
      2 * (k / 2 * (2 * (k / 2) ^ 2 + group)) + 2 * (pod * (k / 2 * (k / 2))) +
        2 * position + 1 := by
  have general (half i j h : Nat) :
      2 * (2 * half * half * half + ((i * half + j) * half + h)) =
        2 * (half * (2 * half ^ 2 + j)) + 2 * (i * (half * half)) + 2 * h := by ring
  have here := general (k / 2) pod group position
  rw [← even] at here
  exact congrArg Nat.succ here

/-- Small numbers are PMACs of the first pod only. -/
theorem first_pod {rest pod position port : Nat} (small : rest + 1 < 2 ^ 32)
    (same : rest + 1 = pod * 2 ^ 32 + position * 2 ^ 24 + port * 2 ^ 16 + 1) :
    pod = 0 ∧ rest = position * 2 ^ 24 + port * 2 ^ 16 := by
  have equal : rest = pod * 2 ^ 32 + position * 2 ^ 24 + port * 2 ^ 16 :=
    Nat.succ_injective same
  have first : pod = 0 := by
    apply Nat.eq_zero_of_not_pos
    intro later
    have high : 2 ^ 32 ≤ pod * 2 ^ 32 := Nat.le_mul_of_pos_left _ later
    have least : pod * 2 ^ 32 ≤ rest := by
      rw [equal, Nat.add_assoc]
      exact Nat.le_add_right _ _
    exact absurd (high.trans least) (Nat.not_le_of_lt (Nat.lt_of_succ_lt small))
  refine ⟨first, ?_⟩
  rw [equal, first, Nat.zero_mul, Nat.zero_add]

include fits even in
theorem shadows_at_aggregation_iff (group member : Fin (k / 2)) (host : Host k) :
    allocated k ((Link.aggregationCore group member host.pod).get 0) = host.pmac ↔
      host.pod.val = 0 ∧ k / 2 * (2 * (k / 2) ^ 2 + group * (k / 2) + member) =
        2 ^ 14 * (256 * host.position + host.port) := by
  have small := ((Link.aggregationCore group member host.pod).get 0).number_lt fits
  rw [number_aggregation even] at small
  rw [allocated_eq_pmac_iff fits, number_aggregation even]
  generalize k / 2 * (2 * (k / 2) ^ 2 + group * (k / 2) + member) = place at small ⊢
  constructor
  · intro same
    rcases first_pod small same with ⟨first, rest⟩
    refine ⟨first, Nat.eq_of_mul_eq_mul_left (show 0 < 4 by norm_num) ?_⟩
    rw [first, Nat.mul_zero, Nat.add_zero] at rest
    rw [rest]
    ring
  · intro both
    rw [both.1, both.2]
    ring

include fits even in
theorem shadows_at_edge_iff (group : Fin (k / 2)) (host : Host k) :
    allocated k ((Link.edgeAggregation host.pod group host.position).get 0) = host.pmac ↔
      host.pod.val = 0 ∧ host.position.val = 0 ∧
        k / 2 * (2 * (k / 2) ^ 2 + group.val) = 2 ^ 15 * host.port := by
  have half : k / 2 ≤ 128 := by omega
  have small := ((Link.edgeAggregation host.pod group host.position).get 0).number_lt fits
  have low : k / 2 * (2 * (k / 2) ^ 2 + group.val) ≤ 128 * (2 * 128 ^ 2 + 128) :=
    Nat.mul_le_mul half
      (Nat.add_le_add (Nat.mul_le_mul_left 2 (Nat.pow_le_pow_left half 2))
      (group.isLt.le.trans half))
  rw [number_edge even] at small
  rw [allocated_eq_pmac_iff fits, number_edge even]
  generalize k / 2 * (2 * (k / 2) ^ 2 + group.val) = place at small low ⊢
  constructor
  · intro same
    rcases first_pod small same with ⟨first, rest⟩
    rw [first, Nat.zero_mul, Nat.mul_zero, Nat.add_zero] at rest
    have least : host.position.val * 2 ^ 24 ≤ 2 * place + 2 * host.position := by
      rw [rest]
      exact Nat.le_add_right _ _
    have position : host.position.val = 0 := by omega
    refine ⟨first, position, Nat.eq_of_mul_eq_mul_left (show 0 < 2 by norm_num) ?_⟩
    rw [position, Nat.mul_zero, Nat.add_zero, Nat.zero_mul, Nat.zero_add] at rest
    rw [rest]
    ring
  · intro all
    rw [all.1, all.2.1, all.2.2]
    ring

/-! ## Ports with the PMAC of a host -/

include fits in
theorem clearBelow_allocated : ClearBelow (allocated k) := by
  intro device id index port host
  rcases device with ⟨link, place⟩
  fin_cases place
  · cases link <;> cases port
  · exact allocated_ne_pseudo_of_second fits link _ _ _

include fits even in
theorem meets_of_leadsTo {host : Host k} {device : Device k} (isPort : device.IsPort)
    (leads : LeadsTo host device) (same : allocated k device = host.pmac) :
    Meets (k / 2) := by
  rcases device with ⟨link, place⟩
  fin_cases place
  · cases link with
    | hostEdge i j h =>
        rcases isPort with ⟨place, port⟩
        cases port
    | edgeAggregation i j h =>
        rcases leads (.edge i h) j rfl with atEdge | ⟨position, atAggregation⟩
        · simp only [Host.edge, SwitchId.edge.injEq] at atEdge
          rw [atEdge.1, atEdge.2] at same
          have numbers := (shadows_at_edge_iff fits even j host).mp same
          exact .inr ⟨j, j.isLt, host.port, host.port.isLt, numbers.2.2⟩
        · cases atAggregation
    | aggregationCore i j h =>
        rcases leads (.aggregation h i) j rfl with atEdge | ⟨position, atAggregation⟩
        · cases atEdge
        · simp only [SwitchId.aggregation.injEq] at atAggregation
          rw [atAggregation.1] at same
          have numbers := (shadows_at_aggregation_iff fits even i j host).mp same
          exact .inl ⟨i, i.isLt, j, j.isLt, host.position, host.position.isLt, host.port,
            host.port.isLt, numbers.2⟩
  · exact absurd same (allocated_ne_pseudo_of_second fits link _ _ _)

include fits even in
theorem unshadowed_of_not_meets (never : ¬ Meets (k / 2)) : Unshadowed k where
  apart := by
    intro host device isPort arrives same
    rcases arrives with ⟨fabric, message, carries, rfl, addressed⟩
    rw [host.assigned_eq] at addressed same
    have leads :=
      (transit_of_carries fits (allocated_ne_empty fits) carries).2.2 host addressed
    exact never (meets_of_leadsTo fits even isPort leads same)
  passes := by
    intro host id isUpper index fabric message carries port addressed
    rw [host.assigned_eq] at addressed
    have facts := transit_of_carries fits (allocated_ne_empty fits) carries
    apply (clearBelow_allocated fits).passesAt facts.2.1 addressed
    intro same
    exact never
      (meets_of_leadsTo fits even (Device.isPort_of_port port) (facts.2.2 host addressed)
      same)

/-- Every host has its own IP address. -/
def ownIp (host : Host k) : Ipv4Address := ⟨host.word⟩

include fits in
theorem ownIp_ne {source target : Host k} (apart : source.pod ≠ target.pod) :
    ownIp source ≠ ownIp target := by
  have half : k / 2 ≤ 128 := by omega
  have hosts : k * (k / 2) * (k / 2) ≤ 256 * 128 * 128 :=
    Nat.mul_le_mul (Nat.mul_le_mul fits half) half
  intro same
  apply apart
  have words : source.word = target.word := congrArg Ipv4Address.address same
  rw [Host.word_injective (hosts.trans (by norm_num)) words]

include fits in
/-- A frame from another pod gets to a port that is named like its destination. -/
theorem exists_shadowed_at_aggregation {source target : Host k}
    (apart : source.pod ≠ target.pod) (group member : Fin (k / 2)) :
    ∃ fabric frame, frame.dst = target.pmac ∧
      Carries (handle (allocated k)) (Plain (allocated k) ownIp) (start (allocated k))
        fabric ((Link.aggregationCore group member target.pod).get 0, frame) :=
  exists_descending fits (allocated_ne_empty fits) (clearBelow_allocated fits)
    (ownIp_ne fits apart) apart group member

include fits even in
theorem not_unshadowed_of_meets (meets : Meets (k / 2)) : ¬ Unshadowed k := by
  intro unshadowed
  have arrives {host : Host k} {device : Device k} (isPort : device.IsPort)
      (carried : ∃ fabric frame, frame.dst = host.pmac ∧ Carries (handle (allocated k))
        (Plain (allocated k) ownIp) (start (allocated k)) fabric (device, frame)) :
      allocated k device ≠ host.pmac := by
    rcases carried with ⟨fabric, frame, toTarget, carries⟩
    rw [← host.assigned_eq] at toTarget ⊢
    exact unshadowed.apart host device isPort
      ⟨fabric, _, carries.mono fun _ => Plain.entering, rfl, toTarget⟩
  rcases meets with
    ⟨group, groupSmall, member, memberSmall, position, positionSmall, port,
    portSmall, numbers⟩ | ⟨group, groupSmall, port, portSmall, numbers⟩
  · have pods : 1 < k := by omega
    let target : Host k := ⟨⟨0, by omega⟩, ⟨position, positionSmall⟩, ⟨port, portSmall⟩⟩
    let source : Host k := ⟨⟨1, pods⟩, ⟨position, positionSmall⟩, ⟨port, portSmall⟩⟩
    have apart : source.pod ≠ target.pod := by simp [source, target]
    have isPort : ((Link.aggregationCore ⟨group, groupSmall⟩ ⟨member, memberSmall⟩
        target.pod).get 0).IsPort := ⟨_, rfl⟩
    apply arrives isPort (exists_shadowed_at_aggregation fits apart _ _)
    exact (shadows_at_aggregation_iff fits even _ _ target).mpr ⟨rfl, numbers⟩
  · have pods : 1 < k := by omega
    have positive : 0 < k / 2 := by omega
    let target : Host k := ⟨⟨0, by omega⟩, ⟨0, positive⟩, ⟨port, portSmall⟩⟩
    let source : Host k := ⟨⟨1, pods⟩, ⟨0, positive⟩, ⟨port, portSmall⟩⟩
    have apart : source.pod ≠ target.pod := by simp [source, target]
    let group : Fin (k / 2) := ⟨group, groupSmall⟩
    have above : ((Link.aggregationCore group group target.pod).get 0).IsPort := ⟨_, rfl⟩
    have passes := arrives above (exists_shadowed_at_aggregation fits apart group group)
    have isPort :
        ((Link.edgeAggregation target.pod group target.position).get 0).IsPort := ⟨_, rfl⟩
    apply arrives isPort (exists_arriving fits (allocated_ne_empty fits)
      (clearBelow_allocated fits) (ownIp_ne fits apart) apart group group passes)
    exact (shadows_at_edge_iff fits even group target).mpr ⟨rfl, rfl, numbers⟩

end Numbers

/-! ## The sizes at which the numbers meet -/

/-- The sizes up to 256 at which a port can have the PMAC of a host that it leads to. -/
def shadowedSizes : List Nat :=
  [64, 80, 88, 96, 108, 112, 116, 120, 124, 128, 136, 144, 152, 160, 192, 232, 236, 240,
    244, 248, 252, 256]

/-- A product of `half` with a number from a range. -/
def isMultiple (half low count value : Nat) : Bool :=
  half ∣ value ∧ low ≤ value / half ∧ value / half < low + count

/-- The numbers meet at an aggregation switch, for a host whose place in the pod is
`256 * position + port`. -/
def meetsAtAggregation (half place : Nat) : Bool :=
  isMultiple half (2 * half ^ 2) (half * half) (2 ^ 14 * place) ∧
    place / 256 < half ∧ place % 256 < half

/-- The numbers meet at an edge switch. -/
def meetsAtEdge (half port : Nat) : Bool :=
  isMultiple half (2 * half ^ 2) half (2 ^ 15 * port) ∧ port < half

/-- Both are tried where the products are in range. -/
def searchMeets (half : Nat) : Bool :=
  (List.range (half ^ 3 / 2 ^ 14 + 2)).any
      (fun more => meetsAtAggregation half (2 * half ^ 3 / 2 ^ 14 + more)) ||
    (List.range 2).any fun more => meetsAtEdge half (2 * half ^ 3 / 2 ^ 15 + more)

theorem isMultiple_iff {half : Nat} (positive : 0 < half) (low count value : Nat) :
    isMultiple half low count value = true ↔
      ∃ rest < count, half * (low + rest) = value := by
  simp only [isMultiple, decide_eq_true_eq]
  constructor
  · intro multiple
    rcases multiple with ⟨⟨factor, rfl⟩, atLeast, below⟩
    rw [Nat.mul_div_cancel_left factor positive] at atLeast below
    exact ⟨factor - low, by omega, by rw [Nat.add_sub_cancel' atLeast]⟩
  · intro product
    rcases product with ⟨rest, small, rfl⟩
    rw [Nat.mul_div_cancel_left (low + rest) positive]
    exact ⟨Nat.dvd_mul_right half (low + rest), Nat.le_add_right low rest,
      Nat.add_lt_add_left small low⟩

theorem exists_pair_iff {half : Nat} (test : Nat → Prop) :
    (∃ group < half, ∃ member < half, test (group * half + member)) ↔
      ∃ rest < half * half, test rest := by
  constructor
  · intro pair
    rcases pair with ⟨group, groupSmall, member, memberSmall, holds⟩
    have rows := Nat.mul_le_mul_right half (Nat.succ_le_of_lt groupSmall)
    rw [Nat.succ_mul] at rows
    exact ⟨group * half + member, by omega, holds⟩
  · intro single
    rcases single with ⟨rest, small, holds⟩
    have positive : 0 < half := Nat.pos_of_mul_pos_left (Nat.zero_lt_of_lt small)
    refine ⟨rest / half, Nat.div_lt_of_lt_mul small, rest % half,
      Nat.mod_lt rest positive, ?_⟩
    rwa [Nat.mul_comm, Nat.div_add_mod]

/-- A multiple of `shift` from a range is one of a few. -/
theorem exists_more {shift value low width : Nat} (positive : 0 < shift)
    (least : low ≤ shift * value) (below : shift * value < low + width) :
    ∃ more < width / shift + 2, value = low / shift + more := by
  have first : low / shift ≤ value := by
    apply (Nat.div_le_iff_le_mul_add_pred positive).mpr
    omega
  refine ⟨value - low / shift, ?_, (Nat.add_sub_cancel' first).symm⟩
  apply Nat.lt_of_not_le
  intro far
  have enough := Nat.mul_le_mul_left shift far
  rw [Nat.mul_sub, Nat.mul_add] at enough
  have lowParts := Nat.div_add_mod low shift
  have widthParts := Nat.div_add_mod width shift
  have lowRest := Nat.mod_lt low positive
  have widthRest := Nat.mod_lt width positive
  omega

theorem exists_meetsAtAggregation_iff {half : Nat} (fits : half ≤ 128) :
    (∃ group < half, ∃ member < half, ∃ position < half, ∃ port < half,
        half * (2 * half ^ 2 + group * half + member) =
          2 ^ 14 * (256 * position + port)) ↔
      ∃ place, meetsAtAggregation half place = true := by
  simp only [meetsAtAggregation, decide_eq_true_eq]
  constructor
  · intro met
    rcases met with
      ⟨group, groupSmall, member, memberSmall, position, positionSmall, port,
      portSmall, numbers⟩
    refine ⟨256 * position + port, ?_, by omega, by omega⟩
    rw [isMultiple_iff (Nat.zero_lt_of_lt groupSmall)]
    rw [Nat.add_assoc] at numbers
    exact exists_pair_iff _ |>.mp ⟨group, groupSmall, member, memberSmall, numbers⟩
  · intro met
    rcases met with ⟨place, multiple, positionSmall, portSmall⟩
    rw [isMultiple_iff (Nat.zero_lt_of_lt portSmall)] at multiple
    rcases (exists_pair_iff _).mpr multiple with
      ⟨group, groupSmall, member, memberSmall, numbers⟩
    refine ⟨group, groupSmall, member, memberSmall, place / 256, positionSmall,
      place % 256, portSmall, ?_⟩
    rwa [Nat.add_assoc, Nat.div_add_mod]

theorem exists_meetsAtEdge_iff {half : Nat} :
    (∃ group < half, ∃ port < half, half * (2 * half ^ 2 + group) = 2 ^ 15 * port) ↔
      ∃ port, meetsAtEdge half port = true := by
  simp only [meetsAtEdge, decide_eq_true_eq]
  constructor
  · intro met
    rcases met with ⟨group, groupSmall, port, portSmall, numbers⟩
    refine ⟨port, ?_, portSmall⟩
    rw [isMultiple_iff (Nat.zero_lt_of_lt groupSmall)]
    exact ⟨group, groupSmall, numbers⟩
  · intro met
    rcases met with ⟨port, multiple, portSmall⟩
    rw [isMultiple_iff (Nat.zero_lt_of_lt portSmall)] at multiple
    rcases multiple with ⟨group, groupSmall, numbers⟩
    exact ⟨group, groupSmall, port, portSmall, numbers⟩

/-- What is a multiple of `half` and of a power of two is found by the search. -/
theorem exists_more_of_isMultiple {half count shift value : Nat} (positive : 0 < half)
    (shiftPositive : 0 < shift)
    (multiple : isMultiple half (2 * half ^ 2) count (shift * value) = true) :
    ∃ more < half * count / shift + 2, value = 2 * half ^ 3 / shift + more := by
  rcases (isMultiple_iff positive _ _ _).mp multiple with ⟨rest, small, product⟩
  have cube : half * (2 * half ^ 2 + rest) = 2 * half ^ 3 + half * rest := by ring
  have bounded := Nat.mul_lt_mul_of_pos_left small positive
  apply exists_more shiftPositive
  · omega
  · omega

theorem meets_iff_search {half : Nat} (fits : half ≤ 128) :
    Meets half ↔ searchMeets half = true := by
  rw [Meets, exists_meetsAtAggregation_iff fits, exists_meetsAtEdge_iff, searchMeets,
    Bool.or_eq_true, List.any_eq_true, List.any_eq_true]
  apply or_congr
  · constructor
    · intro met
      rcases met with ⟨place, meets⟩
      have parts := meets
      simp only [meetsAtAggregation, decide_eq_true_eq] at parts
      rcases exists_more_of_isMultiple (Nat.zero_lt_of_lt parts.2.1) (by norm_num)
        parts.1 with
        ⟨more, few, rfl⟩
      have cube : half * (half * half) = half ^ 3 := by ring
      rw [cube] at few
      exact ⟨more, List.mem_range.mpr few, meets⟩
    · intro found
      rcases found with ⟨more, -, meets⟩
      exact ⟨_, meets⟩
  · constructor
    · intro met
      rcases met with ⟨port, meets⟩
      have parts := meets
      simp only [meetsAtEdge, decide_eq_true_eq] at parts
      rcases exists_more_of_isMultiple (Nat.zero_lt_of_lt parts.2) (by norm_num)
        parts.1 with
        ⟨more, few, rfl⟩
      have square : half * half / 2 ^ 15 = 0 :=
        Nat.div_eq_of_lt ((Nat.mul_le_mul fits fits).trans_lt (by norm_num))
      rw [square] at few
      exact ⟨more, List.mem_range.mpr few, meets⟩
    · intro found
      rcases found with ⟨more, -, meets⟩
      exact ⟨_, meets⟩

/-- All sizes up to 256 are searched. -/
theorem searchMeets_eq :
    ∀ half < 129, searchMeets half = decide (2 * half ∈ shadowedSizes) := by
  decide +kernel

/-- In a network of at most 256 pods, no port on the way to a host has the PMAC of the
host, unless the size is one of these. -/
theorem unshadowed_iff (k : Nat) (even : Even k) (fits : k ≤ 256) :
    Unshadowed k ↔ k ∉ shadowedSizes := by
  have double : k = 2 * (k / 2) := (Nat.two_mul_div_two_of_even even).symm
  have searched : Meets (k / 2) ↔ k ∈ shadowedSizes := by
    rw [meets_iff_search (by omega), searchMeets_eq (k / 2) (by omega),
      decide_eq_true_eq, ← double]
  rw [← searched]
  constructor
  · intro unshadowed meets
    exact not_unshadowed_of_meets fits double meets unshadowed
  · exact unshadowed_of_not_meets fits double

/-- In the network of sixty-four pods, an aggregation switch drops every datagram for
00:00:00:04:00:01 that core switch (0, 0) sends it: that is the hardware address of its
own upper port. -/
theorem aggregation_port_takes_frames :
    let target : Host 64 := ⟨0, 0, 4⟩
    let device : Device 64 := (Link.aggregationCore 0 0 0).get 0
    device.port = some (.aggregation 0 0, true, 0) ∧
      allocated 64 device = target.assigned ∧
      ∃ fabric frame, frame.dst = target.assigned ∧
        Carries (handle (allocated 64)) (Plain (allocated 64) ownIp)
          (start (allocated 64)) fabric (device, frame) ∧
        classify (allocated 64 device) frame.dst = .host ∧
        ∀ draw, handle (allocated 64) fabric (device, frame) draw =
          some { system := fabric.counted (.aggregation 0 0) device frame.packet } := by
  intro target device
  let source : Host 64 := ⟨1, 0, 0⟩
  have fits : 64 ≤ 256 := by norm_num
  have port : device.port = some (.aggregation 0 0, true, 0) := rfl
  have own : allocated 64 device = target.pmac :=
    (shadows_at_aggregation_iff fits rfl 0 0 target).mpr ⟨rfl, rfl⟩
  have apart : source.pod ≠ target.pod := by decide
  rcases exists_shadowed_at_aggregation fits apart 0 0 with
    ⟨fabric, frame, toTarget, carries⟩
  have facts := transit_of_plain fits (allocated_ne_empty fits) carries
  have stopped := not_passesAt_of_own fabric toTarget own (.aggregation 0 0)
  rw [target.assigned_eq]
  refine ⟨port, own, fabric, frame, toTarget, carries, ?_, ?_⟩
  · rw [toTarget, classify_pmac, if_pos own]
  · intro draw
    exact handle_of_stopped facts.1 port stopped

theorem unshadowed_four : Unshadowed 4 :=
  (unshadowed_iff 4 ⟨2, rfl⟩ (by norm_num)).mpr (by decide)

end DataCenter.Portland
