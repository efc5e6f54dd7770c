import DataCenter.Portland.Traffic

/-! # Registration in any order

As long as one octet numbers the ports of a switch, the tables depend on which
hosts have been heard and on nothing else of a run. -/

namespace DataCenter.Portland

open Courier PortlandSwitchNetDevice

variable {k : Nat} {network : Addressing k}

/-! ## Tables of one set of hosts -/

theorem Knows.table_eq {heard : Host k → Prop}
    {left right : Fabric (SwitchId k) (Device k)}
    (fits : k ≤ 512) (leftKnows : Knows network heard left)
    (rightKnows : Knows network heard right)
    (id : SwitchId k) : (left.switches id).table = (right.switches id).table := by
  have carried {one other : Fabric (SwitchId k) (Device k)}
      (oneKnows : Knows network heard one)
      (otherKnows : Knows network heard other) {key : Mac48Address} {entry : PMACEntry}
      (present : (one.switches id).table.mapping[key]? = some entry) :
      (other.switches id).table.mapping[key]? = some entry := by
    rcases oneKnows.entry id key entry present with ⟨host, isHeard, rfl, rfl, rfl⟩
    exact otherKnows.stored fits host isHeard
  apply PMACTable.ext_getElem?
  intro key
  apply Option.ext
  intro entry
  exact ⟨carried leftKnows rightKnows, carried rightKnows leftKnows⟩

theorem Knows.ipPMACTable_eq {heard : Host k → Prop}
    {left right : Fabric (SwitchId k) (Device k)} (leftKnows : Knows network heard left)
    (rightKnows : Knows network heard right) :
    left.manager.ipPMACTable = right.manager.ipPMACTable := by
  have carried {one other : Fabric (SwitchId k) (Device k)}
      (oneKnows : Knows network heard one)
      (otherKnows : Knows network heard other) {ip : Ipv4Address} {pmac : Mac48Address}
      (held : one.manager.ipPMACTable[ip]? = some pmac) :
      other.manager.ipPMACTable[ip]? = some pmac := by
    rcases oneKnows.held ip pmac held with ⟨host, isHeard, rfl, rfl⟩
    exact otherKnows.known host isHeard
  apply Std.ExtTreeMap.ext_getElem?
  intro ip
  apply Option.ext
  intro pmac
  exact ⟨carried leftKnows rightKnows, carried rightKnows leftKnows⟩

/-! ## Two runs -/

/-- Two runs after which the edge switches have heard the same hosts end with the
same tables. -/
theorem tables_eq_of_heard_eq (fits : k ≤ 512)
    {left right : Courier.State (Fabric (SwitchId k) (Device k)) (Message k) Draw
      (Delivery k)}
    (leftReached : (step (handle network.hardware)).Reachable
      (Event.Permitted network.FromHost) (start network.hardware) left)
    (rightReached : (step (handle network.hardware)).Reachable
      (Event.Permitted network.FromHost) (start network.hardware) right)
    (same : ∀ host, HeardIn left.visits host ↔ HeardIn right.visits host) :
    (∀ id, (left.system.switches id).table = (right.system.switches id).table) ∧
      left.system.manager.ipPMACTable = right.system.manager.ipPMACTable := by
  have kept := hostTraffic_kept network
  have leftKnows : Knows network (HeardIn left.visits) left.system :=
    (kept.holds_of_reachable (hostTraffic_start network) leftReached).good
  have rightKnows : Knows network (HeardIn right.visits) right.system :=
    (kept.holds_of_reachable (hostTraffic_start network) rightReached).good
  have leftSame := leftKnows.congr same
  exact ⟨leftSame.table_eq fits rightKnows, leftSame.ipPMACTable_eq rightKnows⟩

/-- With more than 512 pods two ports of one edge switch have one number, and the
entry under it is that of the host whose frame came first. -/
theorem order_matters_for_514 :
    let network := Addressing.numbered 514 (by norm_num)
    ∃ left right,
        (step (handle network.hardware)).Reachable (Event.Permitted network.FromHost)
        (start network.hardware) left ∧
      (step (handle network.hardware)).Reachable (Event.Permitted network.FromHost)
        (start network.hardware) right ∧
      (∀ host, HeardIn left.visits host ↔ HeardIn right.visits host) ∧
      ∃ id, (left.system.switches id).table ≠ (right.system.switches id).table := by
  intro network
  have unclaimed : network.Unclaimed .getBroadcast :=
    Addressing.numbered_unclaimed_broadcast _ _
  let first : Host 514 := ⟨⟨0, by norm_num⟩, ⟨0, by norm_num⟩, ⟨0, by norm_num⟩⟩
  let second : Host 514 := ⟨⟨0, by norm_num⟩, ⟨0, by norm_num⟩, ⟨256, by norm_num⟩⟩
  have firstSent := network.sentBy_sendArpRequest first unclaimed (network.ip second)
  have secondSent := network.sentBy_sendArpRequest second unclaimed (network.ip first)
  rcases first_frame_wins firstSent secondSent with
    ⟨left, leftReached, leftHeard, leftStored⟩
  rcases first_frame_wins secondSent firstSent with
    ⟨right, rightReached, rightHeard, rightStored⟩
  refine ⟨left, right, leftReached, rightReached, ?_, first.edge, ?_⟩
  · intro host
    rw [leftHeard, rightHeard, or_comm]
  · intro sameTable
    have sameEdge : second.edge = first.edge := rfl
    have samePmac : second.pmac = first.pmac := by decide
    rw [sameEdge, samePmac, ← sameTable, leftStored] at rightStored
    have sameAmac : network.amac first = network.amac second :=
      congrArg PMACEntry.amac (Option.some.inj rightStored)
    have sameHost := Addressing.amac_eq_iff.mp sameAmac
    have samePort := congrArg (fun host : Host 514 => host.port.val) sameHost
    simp [first, second] at samePort

/-- In the network of four pods, two hosts are heard in one order and in the
other. -/
theorem tables_eq_of_heard_eq_swapped :
    let network := Addressing.numbered 4 (by norm_num)
    ∃ left right,
      (∀ host, HeardIn left.visits host ↔ (⟨0, 0, 0⟩ : Host 4) = host ∨
        ⟨0, 0, 1⟩ = host) ∧
      (step (handle network.hardware)).Reachable (Event.Permitted network.FromHost)
        (start network.hardware) left ∧
      (step (handle network.hardware)).Reachable (Event.Permitted network.FromHost)
        (start network.hardware) right ∧
      (∀ id, (left.system.switches id).table = (right.system.switches id).table) ∧
        left.system.manager.ipPMACTable = right.system.manager.ipPMACTable := by
  intro network
  have unclaimed : network.Unclaimed .getBroadcast :=
    Addressing.numbered_unclaimed_broadcast _ _
  have firstSent := network.sentBy_sendArpRequest ⟨0, 0, 0⟩ unclaimed ⟨7⟩
  have secondSent := network.sentBy_sendArpRequest ⟨0, 0, 1⟩ unclaimed ⟨7⟩
  rcases first_frame_wins firstSent secondSent with ⟨left, leftReached, leftHeard, -⟩
  rcases first_frame_wins secondSent firstSent with ⟨right, rightReached, rightHeard, -⟩
  refine ⟨left, right, leftHeard, leftReached, rightReached,
    tables_eq_of_heard_eq (by norm_num) leftReached rightReached ?_⟩
  intro host
  rw [leftHeard, rightHeard, or_comm]

end DataCenter.Portland
