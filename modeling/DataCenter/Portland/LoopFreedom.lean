import DataCenter.Foundation.Trail
import DataCenter.Portland.Fate

/-! # Loop freedom

A device's rank is the number of links that a frame which arrives there can
still cross.  Every handling lowers it, whatever the tables hold and whatever the
frame says: frames go up and then only down. -/

namespace DataCenter.Portland

open Courier PortlandSwitchNetDevice

variable {k : Nat}

/-! ## Ranks -/

/-- The rank of the ports on one side of a switch. -/
def sideRank : PortlandSwitchType → Bool → Nat
  | .edge, false => 5
  | .aggregation, false => 4
  | .core, _ => 3
  | .aggregation, true => 2
  | .edge, true => 1

/-- A host's own device has rank zero. -/
def Device.rank (device : Device k) : Nat :=
  match device.port with
  | none => 0
  | some (id, isUpper, _) => sideRank id.deviceType isUpper

theorem Device.rank_of_port {device : Device k} {id : SwitchId k} {isUpper : Bool}
    {index : Nat} (port : device.port = some (id, isUpper, index)) :
    device.rank = sideRank id.deviceType isUpper := by
  simp [Device.rank, port]

theorem Device.rank_pos {device : Device k} (isPort : device.port ≠ none) :
    0 < device.rank := by
  cases port : device.port with
  | none => exact absurd port isPort
  | some place =>
      rcases place with ⟨id, isUpper, index⟩
      rw [Device.rank_of_port port]
      cases id.deviceType <;> cases isUpper <;> decide

/-- The ranks at the two ends of a link add up to five. -/
theorem Device.rank_add_rank_peer (device : Device k) :
    device.rank + device.peer.rank = 5 := by
  rcases device with ⟨link, place⟩
  fin_cases place <;> cases link <;> rfl

/-- There is a device only if every switch has ports. -/
theorem Device.half_pos (device : Device k) : 0 < k / 2 := by
  rcases device with ⟨link, place⟩
  cases link with
  | hostEdge i j h => exact Nat.lt_of_le_of_lt (Nat.zero_le _) j.isLt
  | edgeAggregation i j h => exact Nat.lt_of_le_of_lt (Nat.zero_le _) j.isLt
  | aggregationCore i j h => exact Nat.lt_of_le_of_lt (Nat.zero_le _) j.isLt

/-! ## What one handling spreads -/

/-- Some frame that the handling sends on leaves from another switch: the
manager had the core switches flood. -/
def Flooded (visit : Visit (Message k) Draw (Delivery k)) : Prop :=
  ∃ output ∈ visit.outputs, output.1.peer.node ≠ visit.parcel.content.1.node

instance (visit : Visit (Message k) Draw (Delivery k)) : Decidable (Flooded visit) :=
  inferInstanceAs (Decidable (∃ output ∈ visit.outputs, _))

/-- A handling delivers a frame, forwards at most one, broadcasts at an edge
switch, or causes a flood. -/
inductive Spread (visit : Visit (Message k) Draw (Delivery k)) : Prop where
  | delivers (ground : visit.parcel.content.1.rank = 0) (outputs : visit.outputs = [])
      (deliveries : visit.deliveries.length = 1)
  | forwards
      (descends : ∀ output ∈ visit.outputs, output.1.rank < visit.parcel.content.1.rank)
      (single : visit.outputs.length ≤ 1) (own : ¬ Flooded visit)
      (deliveries : visit.deliveries = [])
  | broadcasts (last : visit.parcel.content.1.rank = 1)
      (toHosts : ∀ output ∈ visit.outputs, output.1.rank = 0)
      (few : visit.outputs.length ≤ k / 2) (own : ¬ Flooded visit)
      (deliveries : visit.deliveries = [])
  | floods (first : visit.parcel.content.1.rank = 5)
      (fromCore : ∀ output ∈ visit.outputs, output.1.rank = 2)
      (bounded : visit.outputs.length ≤ k / 2 * (k / 2) * k) (flooded : Flooded visit)
      (deliveries : visit.deliveries = [])

/-- The wiring of the network, with nothing said about tables, frames or
deliveries. -/
def wiring (getAddress : Device k → Mac48Address) :
    Discipline (Fabric (SwitchId k) (Device k)) (Message k) Draw (Delivery k) where
  Good _ fabric := Wired getAddress fabric
  Fit _ _ := True
  Due _ _ := True

theorem wiring_kept (getAddress : Device k → Mac48Address)
    (permitted : Message k → Prop) :
    (wiring getAddress).Kept (handle getAddress) permitted where
  fit_of_permitted _ _ := trivial
  good_after legal := legal.good.handle legal.makes
  fit_after _ _ _ := trivial
  due_after _ _ _ := trivial
  fit_outputs _ _ _ := trivial
  due_deliveries _ _ _ := trivial

section Handlings

variable {getAddress : Device k → Mac48Address}
  {past : List (Visit (Message k) Draw (Delivery k))}
  {fabric next : Fabric (SwitchId k) (Device k)}
  {visit : Visit (Message k) Draw (Delivery k)}

theorem fate_of_legal
    (legal : (wiring getAddress).Legal (handle getAddress) past fabric visit next)
    {id : SwitchId k} {fromUpper : Bool} {index : Nat}
    (port : visit.parcel.content.1.port = some (id, fromUpper, index)) :
    Fate id fromUpper visit.outputs ∧ visit.deliveries = [] :=
  fate_of_handle legal.good port legal.makes

theorem peer_rank_of_port {device : Device k} {id : SwitchId k} {isUpper : Bool}
    {index : Nat} (port : device.peer.port = some (id, isUpper, index)) :
    device.rank = 5 - sideRank id.deviceType isUpper := by
  have ends := device.rank_add_rank_peer
  rw [Device.rank_of_port port] at ends
  omega

theorem spread_of_legal
    (legal : (wiring getAddress).Legal (handle getAddress) past fabric visit next) :
    Spread visit := by
  cases port : visit.parcel.content.1.port with
  | none =>
      rcases makes_at_host legal.makes port with ⟨host, -, -, outputs, deliveries⟩
      exact .delivers (by simp [Device.rank, port]) outputs (by simp [deliveries])
  | some place =>
      rcases place with ⟨id, fromUpper, index⟩
      have rank := Device.rank_of_port port
      have node := Device.node_of_port port
      rcases fate_of_legal legal port with ⟨fate, deliveries⟩
      have ownOf (outputs : ∀ output ∈ visit.outputs,
          ∃ isUpper i, output.1.peer.port = some (id, isUpper, i)) : ¬ Flooded visit := by
        intro leaves
        rcases leaves with ⟨output, member, different⟩
        rcases outputs output member with ⟨isUpper, i, outputPort⟩
        exact different ((Device.node_of_port outputPort).trans node.symm)
      generalize outputsAre : visit.outputs = outputs at fate ownOf
      cases fate with
      | stopped =>
          exact .forwards (by simp [outputsAre]) (by simp [outputsAre]) (ownOf (by simp))
            deliveries
      | up outPort frame fromLower below =>
          refine .forwards ?_ (outputsAre ▸ length_onPort_le _ _ _ _) (ownOf ?_)
            deliveries
          · rw [outputsAre, rank, fromLower]
            intro output member
            rw [peer_rank_of_port (mem_onPort.mp member).2]
            cases layer : id.deviceType <;> simp [sideRank, layer] at below ⊢
          · intro output member
            exact ⟨_, _, (mem_onPort.mp member).2⟩
      | down outPort frame turned =>
          refine .forwards ?_ (outputsAre ▸ length_onPort_le _ _ _ _) (ownOf ?_)
            deliveries
          · rw [outputsAre, rank]
            intro output member
            rw [peer_rank_of_port (mem_onPort.mp member).2]
            rcases turned with rfl | core
            · cases layer : id.deviceType <;> simp [sideRank]
            · simp [sideRank, core]
          · intro output member
            exact ⟨_, _, (mem_onPort.mp member).2⟩
      | broadcast outputs isEdge descends few toHosts =>
          refine .broadcasts ?_ ?_ (outputsAre ▸ few) (ownOf ?_) deliveries
          · rw [rank, isEdge, descends]
            rfl
          · rw [outputsAre]
            intro output member
            rcases toHosts output member with ⟨i, outputPort⟩
            rw [peer_rank_of_port outputPort, isEdge]
            rfl
          · intro output member
            rcases toHosts output member with ⟨i, outputPort⟩
            exact ⟨_, _, outputPort⟩
      | flood switches nodup frame isEdge fromLower =>
          have fromCore : ∀ output ∈ floodOutputs switches frame, output.1.rank = 2 ∧
              output.1.peer.node ≠ visit.parcel.content.1.node := by
            intro output member
            rcases mem_floodOutputs.mp member with ⟨core, -, isCore, i, -, onCore⟩
            have outputPort := (mem_onPort.mp onCore).2
            refine ⟨by rw [peer_rank_of_port outputPort, isCore]; rfl, ?_⟩
            rw [Device.node_of_port outputPort, node]
            intro same
            cases same
            rw [isEdge] at isCore
            cases isCore
          cases switches' : floodOutputs switches frame with
          | nil =>
              refine .forwards ?_ ?_ ?_ deliveries <;>
                simp [Flooded, outputsAre, switches']
          | cons output rest =>
              have member : output ∈ floodOutputs switches frame := by simp [switches']
              refine .floods ?_ ?_ ?_ ?_ deliveries
              · rw [rank, isEdge, fromLower]
                rfl
              · rw [outputsAre]
                intro other otherMember
                exact (fromCore other otherMember).1
              · rw [outputsAre]
                exact length_floodOutputs_le nodup frame
              · exact ⟨output, outputsAre ▸ member, (fromCore output member).2⟩

theorem Spread.rank_lt (spread : Spread visit) :
    ∀ output ∈ visit.outputs, output.1.rank < visit.parcel.content.1.rank := by
  intro output member
  cases spread with
  | delivers ground outputs deliveries => simp [outputs] at member
  | forwards descends single own deliveries => exact descends output member
  | broadcasts last toHosts few own deliveries =>
      rw [toHosts output member, last]
      omega
  | floods first fromCore bounded flooded deliveries =>
      rw [fromCore output member, first]
      omega

end Handlings

/-- The edge switch knows the destination IP of the frame neither from its own
table nor from the manager, after it has learned what the frame tells. -/
def Misses (fabric : Fabric (SwitchId k) (Device k))
    (visit : Visit (Message k) Draw (Delivery k)) : Prop :=
  ∃ id index, visit.parcel.content.1.port = some (id, false, index) ∧
    id.deviceType = .edge ∧
    let metadata := visit.parcel.content.2.metadata visit.choice.unset
    let entry := (fabric.switches id).newEntry metadata (UInt8.ofNat index)
    ((fabric.switches id).learn entry).resolve
      (fabric.manager.learn entry) metadata.dstIp = none

/-- A flood comes of a frame from a host whose destination IP nobody knows, and carries a
request for that IP. -/
theorem flood_of_flooded {getAddress : Device k → Mac48Address}
    {fabric next : Fabric (SwitchId k) (Device k)}
    {visit : Visit (Message k) Draw (Delivery k)} (wired : Wired getAddress fabric)
    (makes : Makes (handle getAddress) fabric visit next) (flooded : Flooded visit) :
    Misses fabric visit ∧ ∃ request : ARPFloodRequest,
      request.destIPAddress = (visit.parcel.content.2.metadata visit.choice.unset).dstIp ∧
      visit.outputs = floodOutputs fabric.manager.switches (floodFrame request) := by
  have legal : (wiring getAddress).Legal (handle getAddress) [] fabric visit next :=
    ⟨wired, trivial, makes⟩
  cases spread_of_legal legal with
  | delivers ground outputs deliveries => simp [Flooded, outputs] at flooded
  | forwards descends single own deliveries => exact absurd flooded own
  | broadcasts last toHosts few own deliveries => exact absurd flooded own
  | floods first fromCore bounded flooded' deliveries =>
      cases port : visit.parcel.content.1.port with
      | none => simp [Device.rank, port] at first
      | some place =>
          rcases place with ⟨id, fromUpper, index⟩
          rw [Device.rank_of_port port] at first
          have ingress : id.deviceType = .edge ∧ fromUpper = false := by
            cases layer : id.deviceType <;> cases fromUpper <;> simp [sideRank, layer]
              at first ⊢
          rcases ingress with ⟨isEdge, rfl⟩
          by_cases passes : PassesAt getAddress fabric id visit.parcel.content.1
              visit.parcel.content.2
          · rcases handle_ingress_cases wired port isEdge passes makes with
              ⟨-, -, stopped | ⟨-, missing, flood⟩ | ⟨dstPmac, outPort, -, -, -, -, up⟩⟩
            · simp only at stopped
              simp [Flooded, stopped] at flooded
            · exact ⟨⟨id, index, port, isEdge, missing⟩, _, rfl, flood⟩
            · rcases flooded with ⟨output, member, different⟩
              simp only at up
              rw [up] at member
              have outputPort := (mem_onPort.mp member).2
              exact absurd ((Device.node_of_port outputPort).trans
                (Device.node_of_port port).symm) different
          · have handled := (handle_of_stopped wired port passes).symm.trans makes
            simp only [Option.some.injEq, Handling.mk.injEq] at handled
            simp [Flooded, ← handled.2.1] at flooded

/-- Nothing but a miss causes a flood. -/
theorem misses_of_flooded {getAddress : Device k → Mac48Address}
    {fabric next : Fabric (SwitchId k) (Device k)}
    {visit : Visit (Message k) Draw (Delivery k)} (wired : Wired getAddress fabric)
    (makes : Makes (handle getAddress) fabric visit next)
    (flooded : Flooded visit) : Misses fabric visit :=
  (flood_of_flooded wired makes flooded).1

/-! ## Budgets -/

/-- Where a frame enters: a host sends it to its edge switch, or a core switch
floods it. -/
def Injected (message : Message k) : Prop :=
  (∃ host : Host k, message.1 = host.accessPort) ∨
    ∃ i j h, message.1 = (Link.aggregationCore i j h).get 0

/-- A frame arrives there on its way down. -/
def Device.FromAbove (device : Device k) : Prop :=
  ∀ id index, device.port ≠ some (id, false, index)

theorem Device.rank_le (device : Device k) : device.rank ≤ 5 := by
  have ends := device.rank_add_rank_peer
  omega

theorem Device.fromAbove_iff_rank_le (device : Device k) : device.FromAbove ↔
    device.rank ≤ 2 := by
  rcases device with ⟨link, place⟩
  fin_cases place <;> cases link <;>
    simp [Device.FromAbove, Device.rank, Device.port, sideRank, SwitchId.deviceType]

/-- The deliveries that can come of a frame, other than by a flood. -/
def deliveryWeight (message : Message k) : Nat :=
  if message.1.rank = 0 then 1 else k / 2

/-- The transmissions that can come of a frame, other than by a flood. -/
def transmissionWeight (message : Message k) : Nat :=
  if message.1.rank = 0 then 0 else k / 2 + (message.1.rank - 1)

/-- The frames with which all core switches flood. -/
def floodSize (k : Nat) : Nat := k / 2 * (k / 2) * k

theorem sum_map_le {α : Type} (items : List α) (weight : α → Nat) (bound : Nat)
    (each : ∀ item ∈ items, weight item ≤ bound) :
    (items.map weight).sum ≤ items.length * bound := by
  have sums := List.sum_le_card_nsmul (items.map weight) bound (by simpa using each)
  simpa using sums

section Spending

variable {visit : Visit (Message k) Draw (Delivery k)}

theorem Spread.floods_once (spread : Spread visit) :
    (visit.outputs.map fun output : Message k => if output.1.rank = 5 then 1 else 0).sum +
        (if Flooded visit then 1 else 0) ≤ if visit.parcel.content.1.rank = 5 then 1
          else 0 := by
  have lower : ∀ output ∈ visit.outputs, (if output.1.rank = 5 then 1 else 0) ≤ 0 := by
    intro output member
    have below := spread.rank_lt output member
    have limit := visit.parcel.content.1.rank_le
    rw [if_neg (by omega)]
  have nothing := sum_map_le visit.outputs
    (fun output : Message k => if output.1.rank = 5 then 1 else 0) 0 lower
  cases spread with
  | delivers ground outputs deliveries => simp [Flooded, outputs]
  | forwards descends single own deliveries =>
      rw [if_neg own]
      omega
  | broadcasts last toHosts few own deliveries =>
      rw [if_neg own]
      omega
  | floods first fromCore bounded flooded deliveries =>
      rw [if_pos first, if_pos flooded]
      omega

theorem Spread.deliveries_le (spread : Spread visit) :
    (visit.outputs.map deliveryWeight).sum + visit.deliveries.length ≤
      deliveryWeight visit.parcel.content +
        if Flooded visit then floodSize k * (k / 2) else 0 := by
  have positive := visit.parcel.content.1.half_pos
  cases spread with
  | delivers ground outputs deliveries =>
      simp [outputs, deliveries, deliveryWeight, ground]
  | forwards descends single own deliveries =>
      have each : ∀ output ∈ visit.outputs, deliveryWeight output ≤
          deliveryWeight visit.parcel.content := by
        intro output member
        have below := descends output member
        unfold deliveryWeight
        rw [if_neg (show ¬ visit.parcel.content.1.rank = 0 by omega)]
        split <;> omega
      have sums := sum_map_le _ _ _ each
      have once := Nat.mul_le_mul_right (deliveryWeight visit.parcel.content) single
      rw [deliveries, List.length_nil]
      omega
  | broadcasts last toHosts few own deliveries =>
      have each : ∀ output ∈ visit.outputs, deliveryWeight output ≤ 1 := by
        intro output member
        simp [deliveryWeight, toHosts output member]
      have sums := sum_map_le _ _ _ each
      have weight : deliveryWeight visit.parcel.content = k / 2 := by
        simp [deliveryWeight, last]
      rw [deliveries, List.length_nil]
      omega
  | floods first fromCore bounded flooded deliveries =>
      have each : ∀ output ∈ visit.outputs, deliveryWeight output ≤ k / 2 := by
        intro output member
        simp [deliveryWeight, fromCore output member]
      have sums := sum_map_le _ _ _ each
      have all : visit.outputs.length * (k / 2) ≤ floodSize k * (k / 2) :=
        Nat.mul_le_mul_right _ bounded
      rw [deliveries, List.length_nil, if_pos flooded]
      omega

theorem Spread.transmissions_le (spread : Spread visit) :
    (visit.outputs.map transmissionWeight).sum + visit.outputs.length ≤
      transmissionWeight visit.parcel.content +
        if Flooded visit then floodSize k * (k / 2 + 2) else 0 := by
  have positive := visit.parcel.content.1.half_pos
  cases spread with
  | delivers ground outputs deliveries => simp [outputs]
  | forwards descends single own deliveries =>
      have each : ∀ output ∈ visit.outputs, transmissionWeight output + 1 ≤
          transmissionWeight visit.parcel.content := by
        intro output member
        have below := descends output member
        unfold transmissionWeight
        rw [if_neg (show ¬ visit.parcel.content.1.rank = 0 by omega)]
        split <;> omega
      have sums :=
        sum_map_le visit.outputs (fun output => transmissionWeight output + 1) _ each
      have once := Nat.mul_le_mul_right (transmissionWeight visit.parcel.content) single
      rw [List.sum_map_add] at sums
      simp only [List.map_const', List.sum_replicate, smul_eq_mul, mul_one] at sums
      omega
  | broadcasts last toHosts few own deliveries =>
      have each : ∀ output ∈ visit.outputs, transmissionWeight output ≤ 0 := by
        intro output member
        simp [transmissionWeight, toHosts output member]
      have sums := sum_map_le _ _ _ each
      have weight : transmissionWeight visit.parcel.content = k / 2 := by
        simp [transmissionWeight, last]
      omega
  | floods first fromCore bounded flooded deliveries =>
      have each : ∀ output ∈ visit.outputs, transmissionWeight output ≤ k / 2 + 1 := by
        intro output member
        simp [transmissionWeight, fromCore output member]
      have sums := sum_map_le _ _ _ each
      have all : visit.outputs.length * (k / 2 + 2) ≤ floodSize k * (k / 2 + 2) :=
        Nat.mul_le_mul_right _ bounded
      rw [if_pos flooded]
      have split : visit.outputs.length * (k / 2 + 2) =
          visit.outputs.length * (k / 2 + 1) + visit.outputs.length := by
        ring
      omega

/-- A bound for all that can still come of a frame. -/
def restWeight (message : Message k) : Nat := (floodSize k + k / 2 + 2) ^ message.1.rank

theorem Spread.length_outputs_lt (spread : Spread visit) :
    visit.outputs.length < floodSize k + k / 2 + 2 := by
  cases spread with
  | delivers ground outputs deliveries => simp [outputs]
  | forwards descends single own deliveries => omega
  | broadcasts last toHosts few own deliveries => omega
  | floods first fromCore bounded flooded deliveries =>
      rw [floodSize]
      omega

/-- A handling leaves less to come. -/
theorem Spread.restWeight_lt (spread : Spread visit) :
    (visit.outputs.map restWeight).sum < restWeight visit.parcel.content := by
  cases outputs : visit.outputs with
  | nil => simp [restWeight]
  | cons output rest =>
      have some := spread.rank_lt output (by simp [outputs])
      have each : ∀ output ∈ visit.outputs, restWeight output ≤
          (floodSize k + k / 2 + 2) ^ (visit.parcel.content.1.rank - 1) := by
        intro output member
        have lower := spread.rank_lt output member
        exact Nat.pow_le_pow_right (by omega) (by omega)
      have sums := sum_map_le _ _ _ each
      have few := spread.length_outputs_lt
      rw [← outputs]
      calc (visit.outputs.map restWeight).sum
          ≤ visit.outputs.length *
              (floodSize k + k / 2 + 2) ^ (visit.parcel.content.1.rank - 1) := sums
        _ < (floodSize k + k / 2 + 2) *
              (floodSize k + k / 2 + 2) ^ (visit.parcel.content.1.rank - 1) :=
            Nat.mul_lt_mul_of_pos_right few (Nat.pow_pos (by omega))
        _ = restWeight visit.parcel.content := by
            rw [← Nat.pow_succ', restWeight]
            congr 1
            omega

end Spending

/-! ## Whole runs -/

section Runs

variable {getAddress : Device k → Mac48Address}
  {state final : Courier.State (Fabric (SwitchId k) (Device k)) (Message k) Draw
    (Delivery k)}
  {tag : Nat} {message : Message k} {events : List (Event (Message k) Draw)}

theorem total_ite (constant : Nat) :
    total (fun visit => if Flooded visit then constant else 0) final tag =
      total (fun visit => if Flooded visit then 1 else 0) final tag * constant := by
  unfold total
  rw [← List.sum_map_mul_right]
  congr 2
  funext visit
  split <;> simp

theorem total_eq_zero (calm : ¬ ∃ visit ∈ final.visitsOf tag, Flooded visit) :
    total (fun visit => if Flooded visit then 1 else 0) final tag = 0 := by
  rw [total]
  apply List.sum_eq_zero
  intro flag member
  rcases List.mem_map.mp member with ⟨visit, visited, rfl⟩
  exact if_neg fun flooded => calm ⟨visit, visited, flooded⟩

/-- Of one frame there is at most one flood. -/
theorem total_floods_le (holds : (wiring getAddress).Holds state)
    (unspent : Unspent state tag message)
    (allowed : ∀ event ∈ events, event.Permitted Injected)
    (ran : (step (handle getAddress)).run state events = some final) :
    total (fun visit => if Flooded visit then 1 else 0) final tag ≤
      if ∃ visit ∈ final.visitsOf tag, Flooded visit then 1 else 0 := by
  split
  · have spent := budget (wiring_kept getAddress Injected)
      (fun message => if message.1.rank = 5 then 1 else 0)
      (fun visit => if Flooded visit then 1 else 0) (fun _ => 0)
      (fun legal => (spread_of_legal legal).floods_once) holds unspent allowed ran
    have start : (if message.1.rank = 5 then 1 else 0) ≤ 1 := by
      split <;> omega
    have noAllowance : total (fun _ => 0) final tag = 0 := by
      simp [total]
    omega
  · next calm => rw [total_eq_zero calm]

/-- What comes of one frame, in deliveries and in transmissions. -/
theorem total_le (holds : (wiring getAddress).Holds state)
    (unspent : Unspent state tag message)
    (allowed : ∀ event ∈ events, event.Permitted Injected)
    (ran : (step (handle getAddress)).run state events = some final) :
    (final.received tag).length ≤ k / 2 +
        (if ∃ visit ∈ final.visitsOf tag, Flooded visit then floodSize k * (k / 2)
          else 0) ∧
      total (fun visit => visit.outputs.length) final tag ≤ k / 2 + 4 +
        (if ∃ visit ∈ final.visitsOf tag, Flooded visit then floodSize k * (k / 2 + 2)
          else 0) := by
  have kept := wiring_kept getAddress Injected
  have floods := total_floods_le holds unspent allowed ran
  have scaled (constant : Nat) :
      total (fun visit => if Flooded visit then constant else 0) final tag ≤
        if ∃ visit ∈ final.visitsOf tag, Flooded visit then constant else 0 := by
    rw [total_ite]
    split
    · next flooded =>
        rw [if_pos flooded] at floods
        simpa using Nat.mul_le_mul_right constant floods
    · next calm => simp [total_eq_zero calm]
  have positive := message.1.half_pos
  have limit := message.1.rank_le
  constructor
  · have spent := budget kept deliveryWeight (fun visit => visit.deliveries.length)
      (fun visit => if Flooded visit then floodSize k * (k / 2) else 0)
      (fun legal => (spread_of_legal legal).deliveries_le) holds unspent allowed ran
    have trail := Trail.after_run kept holds unspent.trail allowed ran
    have counted : (final.received tag).length =
        total (fun visit => visit.deliveries.length) final tag := by
      rw [trail.received, total, List.length_flatMap]
      simp [Visit.handedOver]
    have start : deliveryWeight message ≤ k / 2 := by
      rw [deliveryWeight]
      split <;> omega
    have allowance := scaled (floodSize k * (k / 2))
    omega
  · have spent := budget kept transmissionWeight (fun visit => visit.outputs.length)
      (fun visit => if Flooded visit then floodSize k * (k / 2 + 2) else 0)
      (fun legal => (spread_of_legal legal).transmissions_le) holds unspent allowed ran
    have start : transmissionWeight message ≤ k / 2 + 4 := by
      rw [transmissionWeight]
      split <;> omega
    have allowance := scaled (floodSize k * (k / 2 + 2))
    omega

/-- Whatever the tables hold, a frame and its copies visit at most five
switches each, as they lose rank at each hop and only a host has rank 0.  They
never go up again once they come from above, and stay within a fixed number of
deliveries and transmissions. -/
theorem frames_go_up_then_down {fabric : Fabric (SwitchId k) (Device k)}
    (wired : Wired getAddress fabric)
    (reached : (step (handle getAddress)).Reachable (Event.Permitted Injected)
      { system := fabric } state) :
    (∀ parcel ∈ state.inFlight, parcel.hops + parcel.content.1.rank ≤ 5) ∧
    (∀ parcel ∈ state.delivered, parcel.hops ≤ 5) ∧
    (∀ visit ∈ state.visits, visit.parcel.content.1.FromAbove →
      ∀ output ∈ visit.outputs, output.1.FromAbove) ∧
    (∀ visit ∈ state.visits, ∀ id index,
      visit.parcel.content.1.port = some (id, true, index) →
        ∀ output ∈ visit.outputs, ∃ i, output.1.peer.port = some (id, false, i)) ∧
    (∀ visit ∈ state.visits, Flooded visit → ∃ system next,
      Makes (handle getAddress) system visit next ∧ Misses system visit) ∧
    ∀ message : Message k, Injected message →
      ∀ events final, (∀ event ∈ events, event.Permitted Injected) →
        (step (handle getAddress)).run (state.post message) events = some final →
        let floodedFor := ∃ visit ∈ final.visitsOf state.sent, Flooded visit
        (final.received state.sent).length ≤
            k / 2 + (if floodedFor then floodSize k * (k / 2) else 0) ∧
          total (fun visit => visit.outputs.length) final state.sent ≤
            k / 2 + 4 + (if floodedFor then floodSize k * (k / 2 + 2) else 0) := by
  have kept := wiring_kept getAddress Injected
  have hops := hops_add_rank_le kept (fun message => message.1.rank)
    (fun message _ => message.1.rank_le)
    (fun legal => (spread_of_legal legal).rank_lt) wired reached
  have legal := kept.legal_of_reachable wired reached
  refine ⟨hops.1, hops.2.2, ?_, ?_, ?_, ?_⟩
  · intro visit member above output outputMember
    rcases legal visit member with ⟨past, system, next, visitLegal⟩
    rw [Device.fromAbove_iff_rank_le] at above ⊢
    have lower := (spread_of_legal visitLegal).rank_lt output outputMember
    omega
  · intro visit member id index port output outputMember
    rcases legal visit member with ⟨past, system, next, visitLegal⟩
    have fate := (fate_of_legal visitLegal port).1
    generalize visit.outputs = outputs at fate outputMember
    cases fate with
    | stopped => cases outputMember
    | up outPort frame fromLower below => cases fromLower
    | down outPort frame turned => exact ⟨_, (mem_onPort.mp outputMember).2⟩
    | broadcast outputs isEdge descends few toHosts => exact toHosts output outputMember
    | flood switches nodup frame isEdge fromLower => cases fromLower
  · intro visit member flooded
    rcases legal visit member with ⟨past, system, next, visitLegal⟩
    exact ⟨system, next, visitLegal.makes,
      misses_of_flooded visitLegal.good visitLegal.makes flooded⟩
  · intro message injected events final allowed ran
    have holds := kept.holds_of_reachable wired reached
    have sends : (Event.send message : Event (Message k) Draw).Permitted Injected :=
      injected
    have posted := kept.holds_step holds sends rfl
    exact total_le posted (holds.tagged.unspent_post message) allowed ran

end Runs

/-- Whatever is in flight, the network comes to rest. -/
theorem exists_rest_of_wired {getAddress : Device k → Mac48Address}
    {state : Courier.State (Fabric (SwitchId k) (Device k)) (Message k) Draw (Delivery k)}
    (holds : (wiring getAddress).Holds state) (draw : Draw) :
    ∃ events final, (∀ event ∈ events, ∃ index, event = .arrive index draw) ∧
      (step (handle getAddress)).run state events = some final ∧ final.inFlight = [] :=
  exists_rest (wiring_kept getAddress fun _ => True) restWeight draw
    (fun message wired => exists_handling wired message draw)
    (fun legal => (spread_of_legal legal).restWeight_lt) holds

/-- The rule for the network of four pods before the first frame. -/
theorem frames_go_up_then_down_start :
    let getAddress : Device 4 → Mac48Address := fun _ => ⟨2, 0, 0, 0, 0, 1⟩
    ∀ message : Message 4, Injected message →
      ∀ events final, (∀ event ∈ events, event.Permitted Injected) →
        (step (handle getAddress)).run ((start getAddress).post message) events =
          some final →
        let floodedFor := ∃ visit ∈ final.visitsOf 0, Flooded visit
        (final.received 0).length ≤ 2 + (if floodedFor then 32 else 0) ∧
          total (fun visit => visit.outputs.length) final 0 ≤
            6 + (if floodedFor then 64 else 0) := by
  intro getAddress
  exact (frames_go_up_then_down (wired_portlandSetup getAddress)
    (PartialStep.Reachable.refl _ _ (start getAddress))).2.2.2.2.2

end DataCenter.Portland
