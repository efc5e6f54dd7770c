import Mathlib.InformationTheory.Hamming
import DataCenter.BCube
import DataCenter.Nix.Lans

/-! # Nix-vector routing in BCube

The network that `main` in BCube.cc sets up.  Two hosts are as many hops apart as
their numbers differ in digits. -/

namespace DataCenter.BCube

open NixVectorRouting BreadthFirst

/-! ## The network -/

/-- The three levels are numbered from 0. -/
instance neZero_three : NeZero 3 := ⟨three_ne_zero⟩

/-- The hosts and the switch nodes. -/
inductive Station where
  | host (host : Nat)
  | switch (level : Fin 3) (i : Nat)
  deriving DecidableEq, Repr

/-- A bridge: its level and its number. -/
abbrev Bridge := Fin 3 × Nat

/-- The stations at a bridge, in the order of its ports. -/
def stationsOf (n : Nat) (bridge : Bridge) : List Station :=
  if bridge.2 < n ^ 2 then
    .switch bridge.1 bridge.2 ::
      (List.range n).map fun m => .host (hostOf n bridge.1 bridge.2 m)
  else []

/-- The bridges of a station, in the order of its devices. -/
def bridgesOf (n : Nat) : Station → List Bridge
  | .host host =>
      if host < n ^ 3 then (List.finRange 3).map fun level =>
        (level, bridgeOf n level host) else []
  | .switch level i => if i < n ^ 2 then [(level, i)] else []

/-- The last octet of a station's address: its place among the stations of the bridge. -/
def lastOctet (n : Nat) (level : Fin 3) : Station → Nat
  | .host host => digit n level host + 2
  | .switch _ _ => 1

/-- The nodes in the order of their creation. -/
def nodes (n : Nat) : List (Lans.Node Station Bridge) :=
  (List.range (n ^ 3)).map (fun host => .station (.host host)) ++
    (List.finRange 3).flatMap fun level =>
      (List.range (n ^ 2)).map (fun i => .station (.switch level i)) ++
        (List.range (n ^ 2)).map fun i => .bridge (level, i)

theorem switch_mem_stationsOf {n : Nat} {bridge : Bridge} {level : Fin 3} {i : Nat} :
    .switch level i ∈ stationsOf n bridge ↔ bridge.2 < n ^ 2 ∧ bridge = (level, i) := by
  rw [stationsOf]
  split
  · next small => simp [small, Prod.ext_iff, eq_comm]
  · next large => simp [large]

/-- A host is at one bridge of each level. -/
theorem host_mem_stationsOf {n : Nat} {bridge : Bridge} {host : Nat} :
    .host host ∈ stationsOf n bridge ↔
      host < n ^ 3 ∧ bridge.2 = bridgeOf n bridge.1 host := by
  rw [stationsOf]
  split
  · next small =>
      simp only [List.mem_cons, reduceCtorEq, List.mem_map, List.mem_range,
        Station.host.injEq, false_or]
      constructor
      · intro placed
        rcases placed with ⟨m, mSmall, rfl⟩
        rcases hostOf_spec small mSmall bridge.1 with ⟨hostSmall, isBridge, -⟩
        exact ⟨hostSmall, isBridge.symm⟩
      · intro placed
        rcases placed with ⟨hostSmall, isBridge⟩
        rcases hostOf_bridgeOf hostSmall bridge.1 with ⟨-, digitSmall, isHost⟩
        exact ⟨digit n bridge.1 host, digitSmall, by rw [isBridge, isHost]⟩
  · next large =>
      simp only [List.not_mem_nil, false_iff]
      intro placed
      rcases hostOf_bridgeOf placed.1 bridge.1 with ⟨small, -⟩
      rw [← placed.2] at small
      exact large small

theorem mem_bridgesOf_iff (n : Nat) (station : Station) (bridge : Bridge) :
    bridge ∈ bridgesOf n station ↔ station ∈ stationsOf n bridge := by
  cases station with
  | host host =>
      rw [host_mem_stationsOf, bridgesOf]
      split
      · next small => simp [small, Prod.ext_iff, eq_comm]
      · next large => simp [large]
  | switch level i =>
      rw [switch_mem_stationsOf, bridgesOf]
      split
      · next small =>
          rw [List.mem_singleton]
          constructor
          · intro same
            subst same
            exact ⟨small, rfl⟩
          · intro same
            exact same.2
      · next large =>
          simp only [List.not_mem_nil, false_iff]
          intro same
          rw [same.2] at same
          exact large same.1

theorem digit_lt {n host : Nat} (small : host < n ^ 3) (level : Fin 3) :
    digit n level host < n :=
  (hostOf_bridgeOf small level).2.1

/-- The network of BCube, with octets that hold the numbers of all bridges. -/
def lans (n : Nat) (high : n ≤ 16) : Lans Station Bridge where
  nodes := nodes n
  bridged _ := true
  members := stationsOf n
  segments := bridgesOf n
  octets bridge station := (bridge.1.val, bridge.2, lastOctet n bridge.1 station)
  mem_segments_iff := mem_bridgesOf_iff n
  listed bridge station member := by
    cases station with
    | host host => simp [nodes, (host_mem_stationsOf.mp member).1]
    | switch level i =>
        rcases switch_mem_stationsOf.mp member with ⟨small, rfl⟩
        simpa [nodes] using small
  link bridge impossible := by cases impossible
  small bridge station member := by
    have level := bridge.1.isLt
    have squares : n ^ 2 ≤ 16 ^ 2 := Nat.pow_le_pow_left high 2
    show bridge.1.val < 256 ∧ bridge.2 < 256 ∧ 1 ≤ lastOctet n bridge.1 station ∧
      lastOctet n bridge.1 station ≤ 254
    cases station with
    | host host =>
        rcases host_mem_stationsOf.mp member with ⟨hostSmall, isBridge⟩
        have bridgeSmall := (hostOf_bridgeOf hostSmall bridge.1).1
        have last := digit_lt hostSmall bridge.1
        rw [isBridge, lastOctet]
        omega
    | switch level i =>
        have bridgeSmall := (switch_mem_stationsOf.mp member).1
        rw [lastOctet]
        omega
  apart bridge other station member neighbor otherMember same := by
    simp only [Prod.mk.injEq] at same
    rcases same with ⟨level, number, last⟩
    have isBridge : bridge = other := Prod.ext (Fin.ext level) number
    subst isBridge
    refine ⟨rfl, ?_⟩
    cases station with
    | host host =>
        cases neighbor with
        | host second =>
            rcases host_mem_stationsOf.mp member with ⟨hostSmall, hostBridge⟩
            rcases host_mem_stationsOf.mp otherMember with ⟨secondSmall, secondBridge⟩
            have digits : digit n bridge.1 host = digit n bridge.1 second := by
              simpa [lastOctet] using last
            rw [← (hostOf_bridgeOf hostSmall bridge.1).2.2,
              ← (hostOf_bridgeOf secondSmall bridge.1).2.2, ← hostBridge, ← secondBridge,
              digits]
        | switch level i => simp [lastOctet] at last
    | switch level i =>
        cases neighbor with
        | host second => simp [lastOctet] at last
        | switch secondLevel second =>
            have here := (switch_mem_stationsOf.mp member).2
            have there := (switch_mem_stationsOf.mp otherMember).2
            rw [here, Prod.mk.injEq] at there
            rw [there.1, there.2]

/-! ## Distances -/

section Distances

variable {ι β : Type} [Fintype ι] [DecidableEq ι] [DecidableEq β] (first second : ι → β)
  (place : ι)

/-- To correct a place brings two sequences closer by one. -/
theorem hammingDist_correct {place} (differs : first place ≠ second place) :
    hammingDist (Function.update first place (second place)) second + 1 =
      hammingDist first second := by
  have correct : (Finset.univ.filter fun other =>
      Function.update first place (second place) other ≠ second other) =
      (Finset.univ.filter fun other => first other ≠ second other).erase place := by
    ext other
    by_cases same : other = place
    · subst same
      simp
    · simp [same]
  rw [hammingDist, hammingDist, correct, Finset.card_erase_add_one]
  simpa using differs

theorem hammingDist_le_correct_succ :
    hammingDist first second ≤
      hammingDist (Function.update first place (second place)) second + 1 := by
  by_cases same : first place = second place
  · rw [← same, Function.update_eq_self]
    omega
  · exact (hammingDist_correct first second same).ge

theorem hammingDist_correct_le :
    hammingDist (Function.update first place (second place)) second ≤
      hammingDist first second := by
  by_cases same : first place = second place
  · rw [← same, Function.update_eq_self]
  · have correct := hammingDist_correct first second same
    omega

/-- Any other change of a place brings them no closer. -/
theorem hammingDist_le_update {value : β}
    (noCorrection : first place = second place ∨ value ≠ second place) :
    hammingDist first second ≤
      hammingDist (Function.update first place value) second := by
  rw [hammingDist, hammingDist]
  apply Finset.card_le_card
  intro other different
  rw [Finset.mem_filter] at different ⊢
  refine ⟨Finset.mem_univ _, ?_⟩
  by_cases same : other = place
  · subst same
    rcases noCorrection with agree | wrong
    · exact absurd agree different.2
    · simpa using wrong
  · simpa [same] using different.2

end Distances

/-- The digits of a host. -/
def digits (n host : Nat) : Fin 3 → Nat := fun place => digit n place host

/-- The number of digits in which two hosts differ. -/
def distance (n first second : Nat) : Nat :=
  hammingDist (digits n first) (digits n second)

/-- Another host on the bridge of a level has the same digits but for the one of the
level. -/
theorem digits_hostOf {n host m : Nat} (small : host < n ^ 3) (mSmall : m < n)
    (level : Fin 3) :
    digits n (hostOf n level (bridgeOf n level host) m) =
      Function.update (digits n host) level m := by
  rcases hostOf_bridgeOf small level with ⟨bridgeSmall, digitSmall, -⟩
  rcases hostOf_spec bridgeSmall mSmall level with ⟨-, bridge, place⟩
  funext other
  by_cases same : other = level
  · subst same
    rw [Function.update_self]
    exact place
  · rw [Function.update_of_ne same]
    exact (bridgeOf_eq_iff (by omega) level _ _).mp bridge other same

theorem digits_inj {n first second : Nat} (firstSmall : first < n ^ 3)
    (secondSmall : second < n ^ 3) :
    digits n first = digits n second ↔ first = second := by
  constructor
  · intro same
    have bridge : bridgeOf n 0 first = bridgeOf n 0 second := by
      rw [bridgeOf_eq_iff (Nat.zero_lt_of_lt (digit_lt firstSmall 0))]
      intro place _
      exact congrFun same place
    rw [← (hostOf_bridgeOf firstSmall 0).2.2, ← (hostOf_bridgeOf secondSmall 0).2.2,
      bridge]
    exact congrArg _ (congrFun same 0)
  · intro same
    rw [same]

theorem distance_eq_zero {n first second : Nat} (firstSmall : first < n ^ 3)
    (secondSmall : second < n ^ 3) : distance n first second = 0 ↔ first = second := by
  rw [distance, hammingDist_eq_zero, digits_inj firstSmall secondSmall]

/-- The host with a digit of another one. -/
def correct (n : Nat) (target : Nat) (level : Fin 3) (host : Nat) : Nat :=
  hostOf n level (bridgeOf n level host) (digit n level target)

section Correct

variable {n host target : Nat} (small : host < n ^ 3) (targetSmall : target < n ^ 3)
  (level : Fin 3)

include small targetSmall

theorem correct_lt : correct n target level host < n ^ 3 :=
  (hostOf_spec (hostOf_bridgeOf small level).1 (digit_lt targetSmall level) level).1

theorem bridgeOf_correct :
    bridgeOf n level (correct n target level host) = bridgeOf n level host :=
  (hostOf_spec (hostOf_bridgeOf small level).1 (digit_lt targetSmall level) level).2.1

theorem digits_correct :
    digits n (correct n target level host) =
      Function.update (digits n host) level (digits n target level) :=
  digits_hostOf small (digit_lt targetSmall level) level

theorem distance_correct {level} (differs : digit n level host ≠ digit n level target) :
    distance n (correct n target level host) target + 1 = distance n host target := by
  rw [distance, digits_correct small targetSmall]
  exact hammingDist_correct (digits n host) (digits n target) differs

theorem distance_correct_le :
    distance n (correct n target level host) target ≤ distance n host target := by
  rw [distance, digits_correct small targetSmall]
  exact hammingDist_correct_le (digits n host) (digits n target) level

theorem distance_le_correct_succ :
    distance n host target ≤ distance n (correct n target level host) target + 1 := by
  rw [distance, distance, digits_correct small targetSmall]
  exact hammingDist_le_correct_succ (digits n host) (digits n target) level

end Correct

/-! ## Shortest routes -/

/-- The number of hops that lie between a station and a host. -/
def height (n target : Nat) : Station → Nat
  | .host host => distance n host target
  | .switch level i => distance n (hostOf n level i (digit n level target)) target + 1

/-- The stations at a bridge are as far away as its host with the digit of the target,
or by one farther. -/
theorem height_bounds {n target : Nat} (targetSmall : target < n ^ 3) {bridge : Bridge}
    {station : Station} (member : station ∈ stationsOf n bridge) :
    distance n (hostOf n bridge.1 bridge.2 (digit n bridge.1 target)) target ≤
        height n target station ∧
      height n target station ≤
        distance n (hostOf n bridge.1 bridge.2 (digit n bridge.1 target)) target + 1 := by
  cases station with
  | host host =>
      rcases host_mem_stationsOf.mp member with ⟨small, isBridge⟩
      rw [isBridge]
      exact ⟨distance_correct_le small targetSmall bridge.1,
        distance_le_correct_succ small targetSmall bridge.1⟩
  | switch level i =>
      rcases switch_mem_stationsOf.mp member with ⟨-, rfl⟩
      exact ⟨Nat.le_succ _, le_rfl⟩

/-- Stations that are hosts. -/
def IsHost (n : Nat) (station : Station) : Prop := ∃ host < n ^ 3, station = .host host

section Routes

variable {n : Nat} (high : n ≤ 16) {host source target : Nat}

theorem correct_mem_others (small : host < n ^ 3) (targetSmall : target < n ^ 3)
    {level : Fin 3} (differs : digit n level host ≠ digit n level target) :
    .host (correct n target level host) ∈
      (lans n high).others (level, bridgeOf n level host) (.host host) := by
  rw [Lans.mem_others]
  refine ⟨?_, ?_⟩
  · exact host_mem_stationsOf.mpr
      ⟨correct_lt small targetSmall level,
        (bridgeOf_correct small targetSmall level).symm⟩
  · intro same
    have closer := distance_correct small targetSmall differs
    rw [Station.host.inj same] at closer
    omega

theorem slope (targetSmall : target < n ^ 3) :
    Slope (lans n high).neighbors (.host target) (height n target) (IsHost n) where
  slow station next neighbour := by
    rcases List.mem_flatMap.mp neighbour with ⟨bridge, bridgeIn, isOther⟩
    have here :=
      height_bounds targetSmall ((mem_bridgesOf_iff n station bridge).mp bridgeIn)
    have there := height_bounds targetSmall ((lans n high).mem_others.mp isOther).1
    omega
  inside := ⟨target, targetSmall, rfl⟩
  bottom station isHost := by
    rcases isHost with ⟨host, small, rfl⟩
    rw [height, distance_eq_zero small targetSmall, Station.host.injEq]
  down station isHost away := by
    rcases isHost with ⟨host, small, rfl⟩
    rw [height, distance, hammingDist_ne_zero] at away
    rcases Function.ne_iff.mp away with ⟨level, differs⟩
    refine ⟨.host (correct n target level host), ?_,
      ⟨_, correct_lt small targetSmall level, rfl⟩,
      distance_correct small targetSmall differs⟩
    rw [Lans.neighbors, List.mem_flatMap]
    refine ⟨(level, bridgeOf n level host), ?_,
      correct_mem_others high small targetSmall differs⟩
    exact (mem_bridgesOf_iff n _ _).mpr (host_mem_stationsOf.mpr ⟨small, rfl⟩)

/-- The stations of lower levels, where the digits agree, are no closer. -/
theorem height_le_of_agree (small : host < n ^ 3) (targetSmall : target < n ^ 3)
    {level : Fin 3} (agree : digit n level host = digit n level target) {other : Station}
    (isOther : other ∈ (lans n high).others (level, bridgeOf n level host) (.host host)) :
    height n target (.host host) ≤ height n target other := by
  have member := ((lans n high).mem_others.mp isOther).1
  have same : correct n target level host = host := by
    rw [correct, ← agree]
    exact (hostOf_bridgeOf small level).2.2
  have bounds := (height_bounds targetSmall member).1
  rw [← same]
  exact bounds

/-- At the level of a digit that differs, only the host with the digit of the target is
closer. -/
theorem height_le_of_differ (small : host < n ^ 3) (targetSmall : target < n ^ 3)
    {level : Fin 3} {other : Station}
    (isOther : other ∈ (lans n high).others (level, bridgeOf n level host) (.host host))
    (away : other ≠ .host (correct n target level host)) :
    height n target (.host host) ≤ height n target other := by
  have member := ((lans n high).mem_others.mp isOther).1
  cases other with
  | host second =>
      rcases host_mem_stationsOf.mp member with ⟨secondSmall, sameBridge⟩
      have sameBridge : bridgeOf n level host = bridgeOf n level second := sameBridge
      have isSecond := (hostOf_bridgeOf secondSmall level).2.2
      have wrong : digit n level second ≠ digit n level target := by
        intro same
        apply away
        rw [correct, sameBridge, ← same, isSecond]
      have digitSmall := digit_lt secondSmall level
      rw [height, height, distance, distance, ← isSecond, ← sameBridge,
        digits_hostOf small digitSmall]
      exact hammingDist_le_update (digits n host) (digits n target) level (.inr wrong)
  | switch otherLevel i =>
      rcases switch_mem_stationsOf.mp member with ⟨-, isBridge⟩
      cases isBridge
      exact distance_le_correct_succ small targetSmall level

/-- The first route corrects the lowest digit first. -/
theorem exists_least_correct (small : host < n ^ 3) (targetSmall : target < n ^ 3)
    {level : Fin 3} (agree : ∀ lower < level, digit n lower host = digit n lower target)
    (differs : digit n level host ≠ digit n level target) :
    ∃ index route,
      ((lans n high).neighbors (.host host))[index]? =
        some (.host (correct n target level host)) ∧
      Least (lans n high).neighbors (.host (correct n target level host)) (.host target)
        route ∧
      Least (lans n high).neighbors (.host host) (.host target) (index :: route) := by
  have levels : ∃ lower higher, List.finRange 3 = lower ++ level :: higher ∧
      ∀ place ∈ lower, place < level := by
    fin_cases level
    · exact ⟨[], [1, 2], rfl, by decide⟩
    · exact ⟨[0], [2], rfl, by decide⟩
    · exact ⟨[0, 1], [], rfl, by decide⟩
  rcases levels with ⟨lower, higher, allLevels, lowerLevels⟩
  rcases List.eq_append_cons_of_mem
    (correct_mem_others high small targetSmall differs) with
    ⟨before, after, others, first⟩
  have each (list : List (Fin 3)) :
      (list.map fun level => (level, bridgeOf n level host)).flatMap
          (fun bridge => (lans n high).others bridge (.host host)) =
        list.flatMap fun level =>
          (lans n high).others (level, bridgeOf n level host) (.host host) := by
    rw [List.flatMap_map]
  have split : (lans n high).neighbors (.host host) =
      (lower.flatMap (fun level =>
          (lans n high).others (level, bridgeOf n level host) (.host host)) ++ before) ++
        .host (correct n target level host) ::
          (after ++ higher.flatMap fun level =>
            (lans n high).others (level, bridgeOf n level host) (.host host)) := by
    have bridges : (lans n high).segments (.host host) =
        (lower ++ level :: higher).map fun level => (level, bridgeOf n level host) := by
      rw [← allLevels]
      exact if_pos small
    rw [Lans.neighbors, bridges, each, List.flatMap_append, List.flatMap_cons, others]
    simp
  have listed : Station.host host ∈ (lans n high).stations := by
    rw [Lans.mem_stations]
    exact (lans n high).listed (level, bridgeOf n level host) _
      (host_mem_stationsOf.mpr ⟨small, rfl⟩)
  rcases (slope high targetSmall).exists_least_cons listed (lans n high).closed
    ⟨host, small, rfl⟩ split ⟨_, correct_lt small targetSmall level, rfl⟩
    (distance_correct small targetSmall differs) (by
      intro other member
      rcases List.mem_append.mp member with atLower | atLevel
      · rcases List.mem_flatMap.mp atLower with ⟨place, isLower, isOther⟩
        exact height_le_of_agree high small targetSmall
          (agree place (lowerLevels place isLower)) isOther
      · apply height_le_of_differ high small targetSmall
        · rw [others]
          exact List.mem_append_left _ atLevel
        · intro same
          subst same
          exact first atLevel) with ⟨route, rest, least⟩
  exact ⟨_, route, by simp [split], rest, least⟩

end Routes

/-! ## Traffic between the hosts -/

theorem length_stationsOf_le (n : Nat) (bridge : Bridge) :
    (stationsOf n bridge).length ≤ n + 1 := by
  rw [stationsOf]
  split <;> simp

theorem length_bridgesOf_le (n : Nat) (station : Station) :
    (bridgesOf n station).length ≤ 3 := by
  cases station with
  | host host =>
      rw [bridgesOf]
      split <;> simp
  | switch level i =>
      rw [bridgesOf]
      split <;> simp

theorem length_nodes (n : Nat) : (nodes n).length = n ^ 3 + 6 * n ^ 2 := by
  simp [nodes, List.finRange_succ]
  ring

theorem forwardable {n : Nat} (high : n ≤ 16) :
    Forwardable (lans n high).network (lans n high).routers := by
  apply Lans.forwardable
  · have cubes : n ^ 3 ≤ 16 ^ 3 := Nat.pow_le_pow_left high 3
    have squares : n ^ 2 ≤ 16 ^ 2 := Nat.pow_le_pow_left high 2
    have all : (lans n high).nodes.length = n ^ 3 + 6 * n ^ 2 := length_nodes n
    omega
  · intro station
    have few := (lans n high).length_neighbors_le (length_stationsOf_le n) station
    have segments : ((lans n high).segments station).length ≤ 3 :=
      length_bridgesOf_le n station
    have product := Nat.mul_le_mul segments (Nat.succ_le_succ high)
    simp only [Nat.succ_eq_add_one] at product
    omega

/-- The lowest digit in which two hosts differ. -/
theorem exists_lowest {n source target : Nat} (small : source < n ^ 3)
    (targetSmall : target < n ^ 3) (away : source ≠ target) :
    ∃ level, (∀ lower < level, digit n lower source = digit n lower target) ∧
      digit n level source ≠ digit n level target := by
  have apart : digits n source ≠ digits n target :=
    (digits_inj small targetSmall).not.mpr away
  rcases wellFounded_lt.has_min {level | digit n level source ≠ digit n level target}
    (Function.ne_iff.mp apart) with ⟨level, differs, least⟩
  refine ⟨level, ?_, differs⟩
  intro lower below
  by_contra lowerDiffers
  exact least lower lowerDiffers below

/-- The address of a host on the bridge of a level. -/
def hostAddress (n : Nat) (high : n ≤ 16) (level : Fin 3) (host : Nat) : Ipv4Address :=
  (lans n high).address (level, bridgeOf n level host) (.host host)

/-- Packets that hosts send to each other. -/
def betweenHosts (n : Nat) : Lans.Node Station Bridge → Lans.Node Station Bridge → Prop
  | .station source, .station target => IsHost n source ∧ IsHost n target
  | _, _ => False

section Traffic

variable {n : Nat} {high : n ≤ 16} {host source target : Nat} {wide : UInt32 → UInt32}
  {header : Header} {way : List Nat} {state : Lans.State Station Bridge}

theorem host_mem_members (small : host < n ^ 3) (level : Fin 3) :
    .host host ∈ (lans n high).members (level, bridgeOf n level host) :=
  host_mem_stationsOf.mpr ⟨small, rfl⟩

theorem host_listed (small : host < n ^ 3) :
    .station (.host host) ∈ (lans n high).nodes :=
  (lans n high).listed _ _ (host_mem_members small 0)

/-- If two hosts that differ in the digit of a level share a bridge, it is of that
level. -/
theorem level_eq_of_shared (positive : 0 < n) {level other : Fin 3} {second : Nat}
    (differs : digit n level host ≠ digit n level second)
    (shared : bridgeOf n other host = bridgeOf n other second) : other = level := by
  by_contra away
  exact differs
    ((bridgeOf_eq_iff positive other host second).mp shared level (Ne.symm away))

/-- A packet gets the address of its source on the bridge of the lowest digit to
correct. -/
theorem departs_lowest (small : source < n ^ 3) (targetSmall : target < n ^ 3)
    {level : Fin 3} (agree : ∀ lower < level, digit n lower source = digit n lower target)
    (differs : digit n level source ≠ digit n level target)
    (sends : Sends (lans n high).network (lans n high).routers (.station (.host source))
      header (.station (.host target)) way) :
    Departs (lans n high).network (.station (.host source)) header.destination
      (hostAddress n high level source) := by
  rcases exists_least_correct high small targetSmall agree differs with
    ⟨index, route, present, -, least⟩
  cases (Lans.least_station_iff.mp sends.least).unique least
  rcases Lans.exists_departs sends (forwardable high).toRoutable present with
    ⟨bridge, member, isOther, departs⟩
  rcases host_mem_stationsOf.mp member with ⟨-, isBridge⟩
  rcases host_mem_stationsOf.mp ((lans n high).mem_others.mp isOther).1 with
    ⟨-, alsoBridge⟩
  have corrected :
      digit n level (correct n target level source) = digit n level target := by
    have all := congrFun (digits_correct small targetSmall level) level
    rwa [Function.update_self] at all
  have isLevel : bridge.1 = level := by
    have positive : 0 < n := Nat.zero_lt_of_lt (digit_lt small 0)
    have moved :
        digit n level source ≠ digit n level (correct n target level source) := by
      rwa [corrected]
    exact level_eq_of_shared positive moved (isBridge.symm.trans alsoBridge)
  have same : bridge = (level, bridgeOf n level source) := by
    rw [← isLevel, ← isBridge]
  rw [hostAddress, ← same]
  exact departs

/-- A packet for an address of another host has as many hops ahead as the hosts differ
in digits. -/
theorem exists_sends (high : n ≤ 16) (small : source < n ^ 3)
    (targetSmall : target < n ^ 3) (away : source ≠ target) {toLevel : Fin 3}
    (destination : header.destination = hostAddress n high toLevel target)
    (ttl : distance n source target ≤ header.ttl.toNat) :
    ∃ way, way.length = distance n source target ∧
      Sends (lans n high).network (lans n high).routers (.station (.host source)) header
        (.station (.host target)) way := by
  have listed : Station.host source ∈ (lans n high).stations :=
    (lans n high).mem_stations.mpr (host_listed small)
  rcases (slope high targetSmall).exists_least listed (lans n high).closed
    ⟨source, small, rfl⟩ with
    ⟨way, least, length⟩
  have hops : way.length = distance n source target := length
  have apart : Station.host source ≠ .host target := by
    intro same
    cases same
    exact away rfl
  exact ⟨way, hops, Lans.sends (host_listed small) (host_mem_members targetSmall toLevel)
    apart least destination (hops ▸ ttl)⟩

/-- Whatever else is on its way, a packet to any address of another host is delivered to
it exactly once, after as many hops as the hosts differ in digits.  It comes from the
address of its source on the bridge of the lowest of these digits. -/
theorem host_delivered_exactly_once (keeps : ∀ word, wide word = word)
    {between : Lans.Node Station Bridge → Lans.Node Station Bridge → Prop}
    (reached : (lans n high).Reached wide between state)
    (small : source < n ^ 3) (targetSmall : target < n ^ 3)
    (pair : between (.station (.host source)) (.station (.host target)))
    {level toLevel : Fin 3}
    (agree : ∀ lower < level, digit n lower source = digit n lower target)
    (differs : digit n level source ≠ digit n level target)
    (destination : header.destination = hostAddress n high toLevel target)
    (ttl : distance n source target ≤ header.ttl.toNat) :
    Courier.ExactlyOnce ((lans n high).network.handle wide)
      ((lans n high).network.Permits (lans n high).routers between)
      (state.post (.output (.station (.host source)) header)) state.sent
      { tag := state.sent
        hops := distance n source target
        content := (.station (.host target), forwardedHeader header
          (hostAddress n high level source) (distance n source target - 1)) } := by
  have away : source ≠ target := by
    intro same
    cases same
    exact differs rfl
  rcases exists_sends high small targetSmall away destination ttl with ⟨way, hops, sends⟩
  rw [← hops]
  exact sends.exactlyOnce (forwardable high) keeps reached pair
    (departs_lowest small targetSmall agree differs sends)

/-- A packet from a corner to the opposite one. -/
def cornerHeader : Header :=
  { source := .getAny, destination := hostAddress 2 (by decide) 1 7, protocol := 17 }

/-- The hosts of two opposite corners, when the network starts. -/
theorem host_delivered_exactly_once_corners :
    Courier.ExactlyOnce ((lans 2 (by decide)).network.handle id)
      ((lans 2 (by decide)).network.Permits (lans 2 (by decide)).routers fun _ _ => True)
      (({ system := fun _ => {} } : Lans.State Station Bridge).post
        (.output (.station (.host 0)) cornerHeader)) 0
      { tag := 0
        hops := 3
        content := (.station (.host 7),
          forwardedHeader cornerHeader (hostAddress 2 (by decide) 0 0) 2) } :=
  @host_delivered_exactly_once 2 (by decide) 0 7 id _ _ (fun _ => rfl) _
    ((lans 2 (by decide)).reached_start id _) (by decide) (by decide) trivial 0 1
      (by decide)
    (by decide) rfl (by decide)

/-- A host whose digits below some place are those of the target, and whose other digits
are those of the source. -/
def Passes (n source target host : Nat) : Prop :=
  ∃ place, ∀ level : Fin 3, digit n level host =
    if level.val < place then digit n level target else digit n level source

theorem passes_source (n source target : Nat) : Passes n source target source :=
  ⟨0, fun level => by simp⟩

/-- The lowest digit that differs is corrected first. -/
theorem Passes.correct (small : source < n ^ 3) (targetSmall : target < n ^ 3)
    {level : Fin 3} (agree : ∀ lower < level, digit n lower source = digit n lower target)
    (passes : Passes n (correct n target level source) target host) :
    Passes n source target host := by
  rcases passes with ⟨place, passes⟩
  refine ⟨max place (level.val + 1), ?_⟩
  intro other
  have corrected := congrFun (digits_correct small targetSmall level) other
  have corrected : digit n other (BCube.correct n target level source) =
      if other = level then digit n level target else digit n other source := by
    rw [show digit n other (BCube.correct n target level source) = _ from corrected,
      Function.update_apply]
    rfl
  rw [passes, corrected]
  rcases lt_trichotomy other level with lower | same | higher
  · have before : other.val < level.val := lower
    rw [agree other lower, if_neg lower.ne]
    simp
  · subst same
    simp
  · have after : level.val < other.val := higher
    rw [if_neg higher.ne']
    congr 1
    simp
    omega

/-- The first route passes hosts only. -/
theorem exists_passes {before : List Nat} {station : Station} (small : source < n ^ 3)
    (targetSmall : target < n ^ 3)
    (least : Least (lans n high).neighbors (.host source) (.host target) (before ++ way))
    (leads : follow (lans n high).neighbors (.host source) before = some station) :
    ∃ host < n ^ 3, station = .host host ∧ Passes n source target host := by
  induction before generalizing source with
  | nil =>
      cases leads
      exact ⟨source, small, rfl, passes_source n source target⟩
  | cons index before induction =>
      have away : source ≠ target := by
        intro same
        subst same
        cases least.unique (least_nil _ _)
      rcases exists_lowest small targetSmall away with ⟨level, agree, differs⟩
      rcases exists_least_correct high small targetSmall agree differs with
        ⟨first, route, present, rest, whole⟩
      cases least.unique whole
      rw [follow, present] at leads
      rcases induction (correct_lt small targetSmall level) rest leads with
        ⟨host, hostSmall, isHost, passes⟩
      exact ⟨host, hostSmall, isHost, passes.correct small targetSmall agree⟩

/-- The host has just sent the packet, or the packet comes from one of its addresses. -/
def SentBy (n : Nat) (high : n ≤ 16) (host : Nat) :
    Message (Lans.Node Station Bridge) (Lans.Device Station Bridge) → Prop
  | .output node _ => node = .station (.host host)
  | .input _ header _ => ∃ level, header.source = hostAddress n high level host

/-- A packet shows which host sent it. -/
theorem SentBy.unique (small : source < n ^ 3) (targetSmall : target < n ^ 3)
    {message : Message (Lans.Node Station Bridge) (Lans.Device Station Bridge)}
    (sent : SentBy n high source message) (alsoSent : SentBy n high target message) :
    target = source := by
  cases message with
  | output node header =>
      cases sent.symm.trans alsoSent
      rfl
  | input device header vector =>
      rcases sent with ⟨level, isSource⟩
      rcases alsoSent with ⟨other, isTarget⟩
      have same := (Lans.address_inj (host_mem_members small level)
        (host_mem_members targetSmall other)).mp (isSource.symm.trans isTarget)
      cases same.2
      rfl

theorem sentBy_of_network (small : source < n ^ 3)
    {message : Message (Lans.Node Station Bridge) (Lans.Device Station Bridge)}
    (sent : (lans n high).network.SentBy (.station (.host source)) message) :
    SentBy n high source message := by
  cases message with
  | output node header => exact sent
  | input device header vector =>
      have listed := (lans n high).mem_routers.mpr ⟨host_listed small, _, rfl⟩
      rcases Lans.exists_of_departs (forwardable high).toRoutable listed sent with
        ⟨⟨level, bridge⟩, member, isSource⟩
      have place : bridge = bridgeOf n level source := (host_mem_stationsOf.mp member).2
      subst place
      exact ⟨level, isSource⟩

/-- Switch nodes never forward: every packet that hosts send to each other is handled by
hosts only, on which the digits of the host that sent it are corrected from the lowest
one on. -/
theorem visited_host (keeps : ∀ word, wide word = word)
    (reached : (lans n high).Reached wide (betweenHosts n) state)
    {visit : Courier.Visit
      (Message (Lans.Node Station Bridge) (Lans.Device Station Bridge)) Unit
      (Lans.Node Station Bridge × Header)} (member : visit ∈ state.visits) :
    ∃ source < n ^ 3, ∃ target < n ^ 3, ∃ host < n ^ 3,
      SentBy n high source visit.parcel.content ∧
      (∀ other < n ^ 3, SentBy n high other visit.parcel.content → other = source) ∧
      Addressed (lans n high).network visit.parcel.content.header.destination
        (.station (.host target)) ∧
      (lans n high).network.handler visit.parcel.content = .station (.host host) ∧
      Passes n source target host := by
  rcases Fits.exists_onRoute
    ((forwardable high).fits_of_visited keeps reached member) with
    ⟨source, target, way, pair, sent, addressed, onRoute⟩
  cases source with
  | bridge bridge => cases pair
  | station source =>
      cases target with
      | bridge bridge => cases pair
      | station target =>
          rcases pair with ⟨⟨source, small, rfl⟩, target, targetSmall, rfl⟩
          rcases Lans.exists_of_onRoute onRoute with
            ⟨before, station, isNode, least, leads⟩
          rcases exists_passes small targetSmall least leads with
            ⟨host, hostSmall, rfl, passes⟩
          have sentBy := sentBy_of_network small sent
          exact ⟨source, small, target, targetSmall, host, hostSmall, sentBy,
            fun other otherSmall also => sentBy.unique small otherSmall also, addressed,
            isNode, passes⟩

/-- The packet passes the hosts 1 and 3. -/
theorem visited_host_corners :
    ∃ (state : Lans.State Station Bridge)
      (visit : Courier.Visit
        (Message (Lans.Node Station Bridge) (Lans.Device Station Bridge)) Unit
        (Lans.Node Station Bridge × Header)),
      (lans 2 (by decide)).Reached id (betweenHosts 2) state ∧ visit ∈ state.visits ∧
      (lans 2 (by decide)).network.handler visit.parcel.content = .station (.host 3) ∧
      visit.parcel.content.header.source = hostAddress 2 (by decide) 0 0 ∧
      ∃ source < 2 ^ 3, ∃ target < 2 ^ 3, ∃ host < 2 ^ 3,
        SentBy 2 (by decide) source visit.parcel.content ∧
        (∀ other < 2 ^ 3, SentBy 2 (by decide) other visit.parcel.content →
          other = source) ∧
        Addressed (lans 2 (by decide)).network visit.parcel.content.header.destination
          (.station (.host target)) ∧
        (lans 2 (by decide)).network.handler visit.parcel.content =
          .station (.host host) ∧
        Passes 2 source target host := by
  have ran : (((Courier.step ((lans 2 (by decide)).network.handle id)).run
      ({ system := fun _ => {} } : Lans.State Station Bridge)
      [.send (.output (.station (.host 0)) cornerHeader), .arrive 0 (), .arrive 0 (),
        .arrive 0 ()]).map fun state => state.visits.map fun visit =>
          ((lans 2 (by decide)).network.handler visit.parcel.content,
            visit.parcel.content.header.source)) =
      some [(.station (.host 0), .getAny),
        (.station (.host 1), hostAddress 2 (by decide) 0 0),
        (.station (.host 3), hostAddress 2 (by decide) 0 0)] := by
    decide +kernel
  rcases Option.map_eq_some_iff.mp ran with ⟨state, isState, visits⟩
  have last : (.station (.host 3), hostAddress 2 (by decide) 0 0) ∈
      state.visits.map fun visit =>
        ((lans 2 (by decide)).network.handler visit.parcel.content,
        visit.parcel.content.header.source) := by
    rw [visits]
    simp
  rcases List.mem_map.mp last with ⟨visit, member, isLast⟩
  have reached : (lans 2 (by decide)).Reached id (betweenHosts 2) state := by
    refine ⟨_, ?_, isState⟩
    simp only [List.forall_mem_cons, List.not_mem_nil, IsEmpty.forall_iff, implies_true,
      and_true, Courier.Event.Permitted]
    rcases @exists_sends 2 0 7 cornerHeader (by decide) (by decide) (by decide)
      (by decide) 1 rfl (by decide) with ⟨way, -, sends⟩
    exact ⟨.station (.host 7), way, ⟨⟨0, by decide, rfl⟩, 7, by decide, rfl⟩, sends⟩
  exact ⟨state, visit, reached, member, congrArg Prod.fst isLast,
    congrArg Prod.snd isLast, visited_host (fun _ => rfl) reached member⟩

theorem nodup_stationsOf (n : Nat) (bridge : Bridge) : (stationsOf n bridge).Nodup := by
  rw [stationsOf]
  split
  · next small =>
      rw [List.nodup_cons]
      refine ⟨by simp, ?_⟩
      apply List.Nodup.map_on _ List.nodup_range
      intro m mIn other otherIn same
      have hosts := Station.host.inj same
      rw [← (hostOf_spec small (List.mem_range.mp mIn) bridge.1).2.2, hosts,
        (hostOf_spec small (List.mem_range.mp otherIn) bridge.1).2.2]
  · exact List.nodup_nil

theorem length_neighbors_host (small : host < n ^ 3) :
    ((lans n high).neighbors (.host host)).length = 3 * n := by
  have bridges : (lans n high).segments (.host host) =
      (List.finRange 3).map fun level => (level, bridgeOf n level host) := if_pos small
  have each : ∀ level,
      ((lans n high).others (level, bridgeOf n level host) (.host host)).length = n := by
    intro level
    have one := (lans n high).length_others
      (nodup_stationsOf n (level, bridgeOf n level host)) (host_mem_members small level)
    have bridgeSmall := (hostOf_bridgeOf small level).1
    have all : ((lans n high).members (level, bridgeOf n level host)).length = n + 1 := by
      simp [lans, stationsOf, bridgeSmall]
    omega
  rw [Lans.neighbors, bridges, List.flatMap_map, List.length_flatMap]
  simp only [each, List.finRange_succ]
  simp
  omega

/-- A host cannot send to itself.  The vector for its own address has two bits, and the
index of a neighbor takes three. -/
theorem host_own_fatal (keeps : ∀ word, wide word = word)
    {between : Lans.Node Station Bridge → Lans.Node Station Bridge → Prop}
    (reached : (lans n high).Reached wide between state) (several : 2 ≤ n)
    (small : host < n ^ 3)
    {level : Fin 3} (destination : header.destination = hostAddress n high level host) :
    (lans n high).network.handle wide state.system
      (.output (.station (.host host)) header) () =
      none := by
  apply (forwardable high).handle_own keeps reached
  · rw [destination]
    exact Lans.addressed (host_mem_members small level)
  · have devices : ((lans n high).network.devices (.station (.host host))).length =
        4 := by
      simp [Lans.network, Lans.wires, lans, bridgesOf, small]
    have two : (NixVector.bitCount (.ofNat 4)).toNat = 2 := by decide
    have few : 3 * n < 2 ^ 32 := by omega
    have count : (UInt32.ofNat (3 * n)).toNat = 3 * n := UInt32.toNat_ofNat_of_lt' few
    rw [devices, two, Lans.remotes_station, List.length_map, length_neighbors_host small]
    by_contra narrow
    have fits := (NixVector.bitCount_le_iff (by omega) (by decide)).mp
      (not_lt.mp narrow) 4 (by omega)
    omega

/-- A corner cannot send to itself when the network starts. -/
theorem host_own_fatal_corner :
    (lans 2 (by decide)).network.handle id
      ({ system := fun _ => {} } : Lans.State Station Bridge).system
      (.output (.station (.host 7)) cornerHeader) () = none :=
  @host_own_fatal 2 (by decide) 7 id cornerHeader _ (fun _ => rfl) _
    ((lans 2 (by decide)).reached_start id fun _ _ => True) (by decide) (by decide) 1 rfl

/-- The general results, for the two corners. -/
theorem delivered_exactly_once_corners :
    ∃ way index later route remote, way = index :: later ∧
      FirstHop (lans 2 (by decide)).network (.station (.host 0))
        cornerHeader.destination index route remote ∧
      Departs (lans 2 (by decide)).network (.station (.host 0)) cornerHeader.destination
        route.source ∧
      (∀ other, (lans 2 (by decide)).Reached id (fun _ _ => True) other → ∃ router vector,
        (lans 2 (by decide)).network.handle id other.system
          (.output (.station (.host 0)) cornerHeader) () = some
            { system := Function.update other.system (.station (.host 0)) router
              outputs :=
                [.input remote { cornerHeader with source := route.source } vector] }) ∧
      Courier.ExactlyOnce ((lans 2 (by decide)).network.handle id)
        ((lans 2 (by decide)).network.Permits (lans 2 (by decide)).routers
          fun _ _ => True)
        (({ system := fun _ => {} } : Lans.State Station Bridge).post
          (.output (.station (.host 0)) cornerHeader)) 0
        { tag := 0
          hops := way.length
          content := (.station (.host 7),
            forwardedHeader cornerHeader route.source (way.length - 1)) } := by
  rcases @exists_sends 2 0 7 cornerHeader (by decide) (by decide) (by decide)
    (by decide) 1 rfl (by decide) with ⟨way, -, sends⟩
  exact ⟨way, delivered_exactly_once (forwardable (by decide)) (fun _ => rfl)
    ((lans 2 (by decide)).reached_start id fun _ _ => True) trivial sends⟩

theorem getNixVector_finds_corners :
    ∃ found, (lans 2 (by decide)).network.getNixVector id (.station (.host 0))
        (hostAddress 2 (by decide) 1 7) none = some found ∧
      (found = none ↔
        ∀ way, follow (lans 2 (by decide)).network.remotes (.station (.host 0)) way ≠
        some (.station (.host 7))) ∧
      ∀ vector, found = some vector → ∃ way,
        Least (lans 2 (by decide)).network.remotes (.station (.host 0))
          (.station (.host 7)) way ∧
          Guides (lans 2 (by decide)).network (.station (.host 0)) way vector [] :=
  getNixVector_finds id (forwardable (by decide)).toRoutable
    ((lans 2 (by decide)).mem_routers.mpr ⟨host_listed (by decide), _, rfl⟩)
    (Lans.addressed (host_mem_members (by decide) 1)) (by decide)

end Traffic

end DataCenter.BCube
