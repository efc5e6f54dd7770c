import DataCenter.Ipv4AddressGenerator
import DataCenter.Nix.BCubeRouting

/-! # The addresses of BCube

The loops of `main` in BCube.cc connect the bridges and give the devices on each of
them addresses. -/

namespace DataCenter.BCube

open Ipv4AddressGenerator NixVectorRouting

/-! ## The loops -/

/-- The variables of the loop of one level, and the addresses that are taken. -/
structure Addressing where
  level : Level := {}
  generator : Ipv4AddressGenerator := .reset
  ipContainer : Nat → List (Terminal × Ipv4Address) := fun _ => []

/-- The body of a loop: the devices on the bridge `i` get addresses. -/
def addressBridge (place : Fin 3) (connectBridge : Level → Nat → Option Level)
    (setup : Addressing) (i : Nat) : Option Addressing := do
  let level ← connectBridge setup.level i
  let address ← Ipv4AddressHelper.setBase (.ofString (addressString 10 place.val i 0))
    octetMask
  let (assigned, generator) ← address.assignAllocated setup.generator
      (level.bridgeDevices i)
  return { level, generator, ipContainer := Function.update setup.ipContainer i assigned }

/-- `ipContainer0`, `ipContainer1` and `ipContainer2`; `none` if an assertion fails or
two devices would have the same address. -/
def setUp (n fuel : Nat) : Option (Fin 3 → Nat → List (Terminal × Ipv4Address)) := do
  let num_sw := n ^ 2
  let setup0 ← (List.range num_sw).foldlM (addressBridge 0 (connectBridge0 n fuel)) {}
  let setup1 ← (List.range num_sw).foldlM (addressBridge 1 (connectBridge1 n fuel))
    { generator := setup0.generator }
  let setup2 ← (List.range num_sw).foldlM (addressBridge 2 (connectBridge2 n fuel))
    { generator := setup1.generator }
  return ![setup0.ipContainer, setup1.ipContainer, setup2.ipContainer]

/-! ## Few bridges -/

/-- The device that a station has at a bridge. -/
def terminal : Station → Terminal
  | .host host => .host host
  | .switch _ i => .switch i

/-- The addresses of the stations at a bridge. -/
def planned (n : Nat) (high : n ≤ 16) (bridge : Bridge) : List (Terminal × Ipv4Address) :=
  (stationsOf n bridge).map fun station =>
    (terminal station, (lans n high).address bridge station)

/-- What is taken are addresses of bridges that come before. -/
def Before (n : Nat) (high : n ≤ 16) (bridge : Bridge) (taken : List Ipv4Address) :
    Prop :=
  ∀ address ∈ taken, ∃ other : Bridge, toLex other < toLex bridge ∧
    ∃ station ∈ stationsOf n other, address = (lans n high).address other station

section Few

variable {n : Nat} {high : n ≤ 16}

theorem lastOctet_stationsOf {bridge : Bridge} (small : bridge.2 < n ^ 2) :
    (stationsOf n bridge).map (lastOctet n bridge.1) = List.range' 1 (n + 1) := by
  have hosts : ((List.range n).map fun m => lastOctet n bridge.1
      (.host (hostOf n bridge.1 bridge.2 m))) = List.range' 2 n := by
    rw [List.range'_eq_map_range]
    apply List.map_congr_left
    intro m member
    rw [lastOctet, (hostOf_spec small (List.mem_range.mp member) bridge.1).2.2,
      Nat.add_comm]
  rw [stationsOf, if_pos small, List.map_cons, List.map_map, List.range'_succ]
  exact congrArg _ hosts

/-- `SetBase` and `Assign` give the stations at a bridge their addresses. -/
theorem exists_assign_planned (high : n ≤ 16) {bridge : Bridge}
    (small : bridge.2 < n ^ 2) :
    ∃ address final, Ipv4AddressHelper.setBase
        (.ofString (addressString 10 bridge.1.val bridge.2 0)) octetMask = some address ∧
      address.assign ((stationsOf n bridge).map terminal) =
        some (planned n high bridge, final) := by
  have level := bridge.1.isLt
  have squares : n ^ 2 ≤ 16 ^ 2 := Nat.pow_le_pow_left high 2
  have length := length_stationsOf_le n bridge
  rcases exists_assign_subnet (show 10 < 256 by decide) (show bridge.1.val < 256 by omega)
    (show bridge.2 < 256 by omega) ((stationsOf n bridge).map terminal)
    (show 1 + _ ≤ 255 by rw [List.length_map]; omega) with
      ⟨address, final, base, assigned⟩
  refine ⟨address, final, base, assigned.trans ?_⟩
  have octets : ((stationsOf n bridge).map terminal).zipIdx 1 =
      (stationsOf n bridge).map fun station =>
        (terminal station, lastOctet n bridge.1 station) := by
    rw [List.zipIdx_eq_zip_range', List.length_map]
    have all : (stationsOf n bridge).length = n + 1 := by simp [stationsOf, small]
    rw [all, ← lastOctet_stationsOf small, List.zip_map']
  rw [octets, List.map_map]
  rfl

/-- The addresses of a bridge are new. -/
theorem Before.nodup {bridge : Bridge} {taken : List Ipv4Address}
    (before : Before n high bridge taken) (nodup : taken.Nodup) :
    (taken ++ (planned n high bridge).map Prod.snd).Nodup := by
  have own : (planned n high bridge).map Prod.snd =
      (stationsOf n bridge).map ((lans n high).address bridge) := by
    rw [planned, List.map_map]
    rfl
  rw [own]
  refine List.nodup_append.mpr ⟨nodup, ?_, ?_⟩
  · apply List.Nodup.map_on _ (nodup_stationsOf n bridge)
    intro station member other otherMember same
    exact ((Lans.address_inj member otherMember).mp same).2
  · intro address isTaken other isOwn same
    subst same
    rcases before address isTaken with ⟨earlier, less, station, member, rfl⟩
    rcases List.mem_map.mp isOwn with ⟨neighbor, otherMember, same⟩
    cases ((Lans.address_inj otherMember member).mp same).1
    exact lt_irrefl _ less

theorem Before.append {bridge next : Bridge} {taken : List Ipv4Address}
    (before : Before n high bridge taken) (less : toLex bridge < toLex next) :
    Before n high next (taken ++ (planned n high bridge).map Prod.snd) := by
  intro address member
  rcases List.mem_append.mp member with isTaken | isOwn
  · rcases before address isTaken with ⟨earlier, isEarlier, station, isMember, same⟩
    exact ⟨earlier, isEarlier.trans less, station, isMember, same⟩
  · rw [planned, List.map_map] at isOwn
    rcases List.mem_map.mp isOwn with ⟨station, isMember, same⟩
    exact ⟨bridge, less, station, isMember, same.symm⟩

theorem address_ne_zero {bridge : Bridge} {station : Station}
    (member : station ∈ stationsOf n bridge) :
    ((lans n high).address bridge station).address ≠ 0 := by
  intro zero
  have small : 0 < 256 := by decide
  have differs : (lans n high).address bridge station ≠ .ofOctets 0 0 0 0 :=
    Lans.address_ne member small small small small (.inl (by decide))
  exact differs (congrArg Ipv4Address.mk zero)

/-- The loop of a level gives the stations at its bridges their addresses. -/
theorem exists_addressLevel {level : Fin 3} {connectBridge : Level → Nat → Option Level}
    {Reached : Nat → Level → Prop} (connects : ∀ i state, i < n ^ 2 → Reached i state →
      ∃ next, connectBridge state i = some next ∧
      next.bridgeDevices i = (stationsOf n (level, i)).map terminal ∧
      Reached (i + 1) next)
    (reached : Reached 0 {}) {generator : Ipv4AddressGenerator} {taken : List Ipv4Address}
    (represents : Represents { generator, taken })
    (before : Before n high (level, 0) taken) :
    ∃ final taken', (List.range (n ^ 2)).foldlM (addressBridge level connectBridge)
        { generator } = some final ∧
      Represents { generator := final.generator, taken := taken' } ∧
      Before n high (level, n ^ 2) taken' ∧
      ∀ i < n ^ 2, final.ipContainer i = planned n high (level, i) := by
  let Assigned (i : Nat) (setup : Addressing) : Prop := Reached i setup.level ∧
    (∃ taken, Represents { generator := setup.generator, taken } ∧
      Before n high (level, i) taken) ∧
    ∀ j < i, setup.ipContainer j = planned n high (level, j)
  have assigned : ∃ final, (List.range (n ^ 2)).foldlM (addressBridge level connectBridge)
      { generator } = some final ∧ Assigned (n ^ 2) final := by
    apply exists_foldlM_range Assigned
    · intro i setup small soFar
      rcases soFar with ⟨reached, ⟨taken, represents, before⟩, done⟩
      rcases connects i setup.level small reached with ⟨next, connected, devices, further⟩
      rcases exists_assign_planned high (show (level, i).2 < n ^ 2 from small) with
        ⟨address, final, base, plan⟩
      have notZero : ∀ pair ∈ planned n high (level, i), pair.2.address ≠ 0 := by
        intro pair member
        rcases List.mem_map.mp member with ⟨station, isMember, rfl⟩
        exact address_ne_zero isMember
      rcases represents.exists_assignAllocated plan (before.nodup represents.nodup)
        notZero with
        ⟨generator, made, still⟩
      let ipContainer := Function.update setup.ipContainer i (planned n high (level, i))
      refine ⟨⟨next, generator, ipContainer⟩, ?_, further,
        ⟨_, still, before.append ?_⟩, ?_⟩
      · rw [addressBridge, connected]
        simp only [Option.bind_eq_bind, Option.bind_some]
        rw [base, Option.bind_some, devices, made]
        rfl
      · exact Prod.Lex.toLex_lt_toLex.mpr (.inr ⟨rfl, Nat.lt_succ_self i⟩)
      · intro j less
        by_cases same : j = i
        · subst same
          exact Function.update_self ..
        · have earlier : j < i := by omega
          rw [← done j earlier]
          exact Function.update_of_ne same ..
    · exact ⟨reached, ⟨taken, represents, before⟩, by simp⟩
  rcases assigned with ⟨final, ran, -, ⟨taken, still, after⟩, done⟩
  exact ⟨final, taken, ran, still, after, done⟩

theorem map_terminal_stationsOf {level : Fin 3} {i : Nat} (small : i < n ^ 2) :
    (stationsOf n (level, i)).map terminal =
      .switch i :: (List.range n).map fun m => .host (hostOf n level i m : Nat) := by
  simp [stationsOf, small, terminal]

/-- A level that strides leaves the stations of each bridge at it. -/
theorem Striding.exists_connects {stride fuel : Nat} (positive : 0 < stride)
    (enough : n < fuel) (level : Fin 3) (hosts : ∀ i m, hostOf n level i m =
      firstHost stride (stride * n) i + stride * m) (i : Nat) (state : Level)
        (small : i < n ^ 2)
    (striding : Striding n stride (stride * n) i state) :
    ∃ next, BCube.connectBridge stride (stride * n) fuel state i = some next ∧
      next.bridgeDevices i = (stationsOf n (level, i)).map terminal ∧
      Striding n stride (stride * n) (i + 1) next := by
  rcases striding.connectBridge positive rfl enough with ⟨next, ran, further⟩
  refine ⟨next, ran, ?_, further⟩
  rw [further.connected.done i (Nat.lt_succ_self i), map_terminal_stationsOf small]
  simp only [hosts]

theorem Contiguous.exists_connects {fuel : Nat} (enough : n < fuel) (i : Nat)
    (state : Level) (small : i < n ^ 2) (contiguous : Contiguous n i state) :
    ∃ next, BCube.connectBridge0 n fuel state i = some next ∧
      next.bridgeDevices i = (stationsOf n (0, i)).map terminal ∧
      Contiguous n (i + 1) next := by
  rcases contiguous.connectBridge0 enough with ⟨next, ran, further⟩
  refine ⟨next, ran, ?_, further⟩
  rw [further.connected.done i (Nat.lt_succ_self i), map_terminal_stationsOf small]
  simp [hostOf, firstOf]

theorem Before.next {level next : Fin 3} {i : Nat} {taken : List Ipv4Address}
    (before : Before n high (level, i) taken) (less : level < next) :
    Before n high (next, 0) taken := by
  intro address isTaken
  rcases before address isTaken with ⟨earlier, isEarlier, station⟩
  have above : toLex (level, i) < toLex (next, 0) :=
    Prod.Lex.toLex_lt_toLex.mpr (.inl less)
  exact ⟨earlier, isEarlier.trans above, station⟩

/-- Up to 16 servers on a switch, all devices get the addresses that are planned for
them. -/
theorem exists_setUp (high : n ≤ 16) (positive : 0 < n) {fuel : Nat} (enough : n < fuel) :
    ∃ ipContainer, setUp n fuel = some ipContainer ∧
      ∀ level, ∀ i < n ^ 2, ipContainer level i = planned n high (level, i) := by
  have first : ∀ i m, hostOf n 1 i m = firstHost n (n * n) i + n * m := by
    simp [hostOf, firstOf]
  have second : ∀ i m, hostOf n 2 i m = firstHost (n * n) (n * n * n) i + n * n * m := by
    simp [hostOf, firstOf, pow_two]
  have nothing : Before n high (0, 0) [] := by
    intro address impossible
    cases impossible
  have square : 0 < n * n := Nat.mul_pos positive positive
  rcases exists_addressLevel (Contiguous.exists_connects enough)
    ⟨connected_start n 1 _, rfl⟩
    represents_start nothing with ⟨setup0, taken0, ran0, represents0, before0, done0⟩
  rcases exists_addressLevel (Striding.exists_connects positive enough 1 first)
    ⟨connected_start n n _, by omega⟩ represents0 (before0.next (by decide)) with
    ⟨setup1, taken1, ran1, represents1, before1, done1⟩
  rcases exists_addressLevel (Striding.exists_connects square enough 2 second)
    ⟨connected_start n (n * n) _, by omega⟩ represents1 (before1.next (by decide)) with
    ⟨setup2, taken2, ran2, -, -, done2⟩
  refine ⟨![setup0.ipContainer, setup1.ipContainer, setup2.ipContainer], ?_, ?_⟩
  · have ran0 : (List.range (n ^ 2)).foldlM (addressBridge 0 (connectBridge0 n fuel)) {} =
        some setup0 := ran0
    have ran1 : (List.range (n ^ 2)).foldlM (addressBridge 1 (connectBridge1 n fuel))
        { generator := setup0.generator } = some setup1 := ran1
    have ran2 : (List.range (n ^ 2)).foldlM (addressBridge 2 (connectBridge2 n fuel))
        { generator := setup1.generator } = some setup2 := ran2
    simp only [setUp, ran0, ran1, ran2, Option.bind_eq_bind, Option.bind_some]
    rfl
  · intro level i small
    fin_cases level
    · exact done0 i small
    · exact done1 i small
    · exact done2 i small

end Few

/-! ## Many bridges -/

section Many

variable {n fuel : Nat}

/-- The octet of bridge 256 is read as 0. -/
theorem setBase_zeroth {i : Nat} (zeroth : i = 0 ∨ i = 256) :
    Ipv4AddressHelper.setBase (.ofString (addressString 10 0 i 0)) octetMask =
      some (helperOf 10 0 0 1 1) := by
  have subnet : Ipv4Address.ofString (addressString 10 0 i 0) = .ofOctets 10 0 0 0 := by
    rcases zeroth with rfl | rfl <;> decide
  have base : Ipv4Address.ofString "0.0.0.1".toList = .ofOctets 0 0 0 1 := by decide
  rw [subnet, base]
  exact setBase_octetMask (by decide) (by decide) (by decide) 1

/-- The first address of bridge 0. -/
def firstAddress : Ipv4Address := .ofOctets 10 0 0 1

theorem newAddress_zeroth :
    (helperOf 10 0 0 1 1).newAddress = some (firstAddress, helperOf 10 0 0 1 2) :=
  newAddress_helperOf (by decide) (by decide) (by decide) (by decide)

/-- The first address of bridge 0 is taken. -/
structure TakesFirst (n i : Nat) (setup : Addressing) : Prop where
  contiguous : Contiguous n i setup.level
  noTest : setup.generator.test = false
  taken : ∃ taken, Represents { generator := setup.generator, taken } ∧
    (0 < i → firstAddress ∈ taken)

theorem takesFirst_start (n : Nat) : TakesFirst n 0 {} where
  contiguous := ⟨connected_start n 1 _, rfl⟩
  noTest := rfl
  taken := ⟨[], represents_start, by simp⟩

theorem TakesFirst.addressBridge {i : Nat} {setup next : Addressing}
    (takes : TakesFirst n i setup) (enough : n < fuel)
    (ran : BCube.addressBridge 0 (connectBridge0 n fuel) setup i = some next) :
    TakesFirst n (i + 1) next := by
  rcases takes.taken with ⟨taken, represents, isTaken⟩
  rcases takes.contiguous.connectBridge0 enough with ⟨level, connected, further⟩
  have devices := further.connected.done i (Nat.lt_succ_self i)
  simp only [BCube.addressBridge, connected, Option.bind_eq_bind, Option.bind_some,
    Option.bind_eq_some_iff] at ran
  rcases ran with ⟨address, base, ⟨assigned, generator⟩, made, same⟩
  cases same
  rcases represents.of_assignAllocated takes.noTest made with ⟨noTest, still⟩
  refine ⟨further, noTest, _, still, ?_⟩
  intro _
  cases i with
  | zero =>
      cases base.symm.trans (setBase_zeroth (.inl rfl))
      simp only [devices, Ipv4AddressHelper.assignAllocated, newAddress_zeroth,
        Option.bind_eq_bind, Option.bind_some, Option.bind_eq_some_iff] at made
      rcases made with ⟨first, -, rest, -, same⟩
      cases same
      simp
  | succ i => exact List.mem_append_left _ (isTaken (Nat.succ_pos i))

theorem takesFirst_of_foldlM {count : Nat} (enough : n < fuel) {setup : Addressing}
    (ran : (List.range count).foldlM (addressBridge 0 (connectBridge0 n fuel)) {} =
      some setup) :
    TakesFirst n count setup := by
  induction count generalizing setup with
  | zero =>
      cases ran
      exact takesFirst_start n
  | succ count induction =>
      rw [List.range_succ, List.foldlM_append] at ran
      rcases Option.bind_eq_some_iff.mp ran with ⟨middle, before, last⟩
      simp only [List.foldlM_cons, List.foldlM_nil, Option.bind_eq_bind] at last
      rcases Option.bind_eq_some_iff.mp last with ⟨next, step, same⟩
      cases same
      exact (induction before).addressBridge enough step

/-- The first device on bridge 256 would get the address of the first one on bridge 0. -/
theorem TakesFirst.addressBridge_eq_none {setup : Addressing}
    (takes : TakesFirst n 256 setup) (enough : n < fuel) :
    BCube.addressBridge 0 (connectBridge0 n fuel) setup 256 = none := by
  rcases takes.taken with ⟨taken, represents, isTaken⟩
  rcases takes.contiguous.connectBridge0 enough with ⟨level, connected, further⟩
  have devices := further.connected.done 256 (Nat.lt_succ_self 256)
  have collides : setup.generator.addAllocated firstAddress = none := by
    rcases represents.addAllocated firstAddress with
      ⟨-, none⟩ | ⟨-, collision⟩ | ⟨-, -, free, -, -⟩
    · exact none
    · rw [collision]
      exact if_neg (by rw [takes.noTest]; decide)
    · exact absurd (isTaken (by decide)) free
  have base := setBase_zeroth (.inr rfl)
  simp only [BCube.addressBridge, connected, Option.bind_eq_bind, Option.bind_some,
    devices]
  rw [show (0 : Fin 3).val = 0 from rfl, base]
  simp [Ipv4AddressHelper.assignAllocated, newAddress_zeroth, collides]

/-- From 17 servers on a switch on, there are bridges that would have the same subnet. -/
theorem setUp_eq_none (many : 17 ≤ n) (enough : n < fuel) : setUp n fuel = none := by
  have bridges : 17 ^ 2 ≤ n ^ 2 := Nat.pow_le_pow_left many 2
  have split : List.range (n ^ 2) =
      List.range 256 ++ 256 :: (List.range (n ^ 2 - 257)).map (257 + ·) := by
    have count : n ^ 2 = 257 + (n ^ 2 - 257) := by omega
    rw [count, List.range_add, List.range_succ, List.append_assoc,
      Nat.add_sub_cancel_left]
    rfl
  have failed : (List.range (n ^ 2)).foldlM (addressBridge 0 (connectBridge0 n fuel)) {} =
      none := by
    rw [split, List.foldlM_append]
    cases ran : (List.range 256).foldlM (addressBridge 0 (connectBridge0 n fuel)) {} with
    | none => rfl
    | some setup =>
        have stops := (takesFirst_of_foldlM enough ran).addressBridge_eq_none enough
        simp [stops]
  simp only [setUp, failed]
  rfl

/-- The loops end if at most 16 servers are on a switch, and only then.  Then every
device gets the address that is planned for it. -/
theorem setUp_iff (positive : 0 < n) (enough : n < fuel) :
    ((∃ ipContainer, setUp n fuel = some ipContainer) ↔ n ≤ 16) ∧
      ∀ high : n ≤ 16, ∀ ipContainer, setUp n fuel = some ipContainer →
        ∀ level, ∀ i < n ^ 2, ipContainer level i = planned n high (level, i) := by
  refine ⟨⟨?_, ?_⟩, ?_⟩
  · intro ended
    rcases ended with ⟨ipContainer, ran⟩
    by_contra many
    cases ran.symm.trans (setUp_eq_none (by omega) enough)
  · intro high
    rcases exists_setUp high positive enough with ⟨ipContainer, ran, -⟩
    exact ⟨ipContainer, ran⟩
  · intro high ipContainer ran
    rcases exists_setUp high positive enough with ⟨other, otherRan, all⟩
    cases ran.symm.trans otherRan
    exact all

theorem setUp_iff_two :
    ((∃ ipContainer, setUp 2 3 = some ipContainer) ↔ 2 ≤ 16) ∧
      ∀ high : 2 ≤ 16, ∀ ipContainer, setUp 2 3 = some ipContainer →
        ∀ level, ∀ i < 2 ^ 2, ipContainer level i = planned 2 high (level, i) :=
  setUp_iff (by decide) (by decide)

end Many

end DataCenter.BCube
