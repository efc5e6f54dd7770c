import DataCenter.Foundation.LoopNest

/-! # The wiring of BCube

The three connection loops of `main` in BCube.cc, for `k` levels fixed to 2.  A
level has `n ^ 2` bridges, each with a switch node and the hosts of the level's
inner loop.

The `int`s of the program are mathematical integers here.  The largest of them is
the last bound of BCube 2, `n ^ 3 + n ^ 2 - 1`, which a signed word of 32 bits
cannot hold from `n = 1290` on. -/

namespace DataCenter.BCube

/-! ## The loops -/

/-- The node that `csma.Install` connects to a bridge. -/
inductive Terminal where
  | switch (i : Nat)
  | host (j : Int)
  deriving DecidableEq, Repr

/-- The variables that one level carries from iteration to iteration. -/
structure Level where
  j : Int := 0
  temp : Int := 0
  bridgeDevices : Cells Nat Terminal := fun _ => []

/-- `for (...; j < bound; j = j + step)`, whose body connects host `j` to bridge
`i`; `none` if the loop has not ended within the fuel. -/
def connectHosts (i : Nat) (bound step : Int) : Nat → Level → Option Level
  | 0, _ => none
  | fuel + 1, level =>
      if level.j < bound then
        connectHosts i bound step fuel { level with
          bridgeDevices := level.bridgeDevices.add i (.host level.j)
          j := level.j + step }
      else some level

/-- The body of the loop of BCube 0, where `j` runs on. -/
def connectBridge0 (n fuel : Nat) (level : Level) (i : Nat) : Option Level :=
  let level := { level with bridgeDevices := level.bridgeDevices.add i (.switch i) }
  let level := { level with temp := level.j }
  connectHosts i (level.temp + n) 1 fuel { level with j := level.temp }

/-- The body of the loops of BCube 1 and BCube 2. -/
def connectBridge (stride span : Nat) (fuel : Nat) (level : Level) (i : Nat) :
    Option Level :=
  let level := { level with bridgeDevices := level.bridgeDevices.add i (.switch i) }
  let level := if i = 0 then { level with j := 0, temp := 0 } else level
  let level := if i % stride ≠ 0 then
      { level with j := level.temp + 1, temp := level.temp + 1 }
    else level
  let level := if i % stride = 0 ∧ i ≠ 0 then
      { level with
        j := level.temp - stride + 1 + span
        temp := level.temp - stride + 1 + span }
    else level
  connectHosts i (level.temp + span) stride fuel { level with j := level.temp }

def connectBridge1 (n : Nat) : Nat → Level → Nat → Option Level := connectBridge n (n * n)

/-- `temp2` and `temp3` are the stride and the span. -/
def connectBridge2 (n : Nat) : Nat → Level → Nat → Option Level :=
  connectBridge (n * n) (n * n * n)

/-- `bridgeDevices0`, `bridgeDevices1` and `bridgeDevices2` after the three
loops. -/
def connect (n fuel : Nat) : Option (Fin 3 → Cells Nat Terminal) := do
  let num_sw := n ^ 2
  let level0 ← (List.range num_sw).foldlM (connectBridge0 n fuel) {}
  let level1 ← (List.range num_sw).foldlM (connectBridge1 n fuel) {}
  let level2 ← (List.range num_sw).foldlM (connectBridge2 n fuel) {}
  return ![level0.bridgeDevices, level1.bridgeDevices, level2.bridgeDevices]

/-! ## BCube -/

/-- A digit of a host number in base `n`. -/
def digit (n : Nat) (place : Fin 3) (host : Nat) : Nat := host / n ^ place.val % n

/-- The bridge of a host at a level: the number that is left without the digit
of the level. -/
def bridgeOf (n : Nat) : Fin 3 → Nat → Nat
  | 0, host => digit n 2 host * n + digit n 1 host
  | 1, host => digit n 2 host * n + digit n 0 host
  | 2, host => digit n 1 host * n + digit n 0 host

/-- The structure that the loops are to realise. -/
structure IsBCube (n : Nat) (devices : Fin 3 → Cells Nat Terminal) : Prop where
  /-- A bridge has its switch node and `n` different hosts, all of which exist. -/
  bridge : ∀ level, ∀ i < n ^ 2, ∃ hosts : List Nat,
    devices level i = .switch i :: hosts.map (fun host => .host host) ∧
      hosts.length = n ∧ hosts.Nodup ∧ ∀ host ∈ hosts, host < n ^ 3
  /-- A host is at one bridge of each level. -/
  attached : ∀ level, ∀ host < n ^ 3, bridgeOf n level host < n ^ 2 ∧
    ∀ i < n ^ 2, .host host ∈ devices level i ↔ i = bridgeOf n level host
  /-- Two hosts share a bridge if they differ at most in the digit of its level. -/
  shared : ∀ level, ∀ first < n ^ 3, ∀ second < n ^ 3,
    bridgeOf n level first = bridgeOf n level second ↔
      ∀ place, place ≠ level → digit n place first = digit n place second

/-! ## The inner loop -/

/-- With fuel for one more iteration than it makes, the inner loop visits an arithmetic
progression. -/
theorem exists_connectHosts (i : Nat) {bound step : Int} (positive : 0 < step)
    {count : Nat} (fuel : Nat) (enough : count < fuel) (level : Level)
    (boundIs : bound = level.j + step * count) :
    ∃ final, connectHosts i bound step fuel level = some final ∧ final.j = bound ∧
      final.temp = level.temp ∧
      final.bridgeDevices i = level.bridgeDevices i ++
        (List.range count).map (fun m => .host (level.j + step * m)) ∧
      ∀ other, other ≠ i → final.bridgeDevices other = level.bridgeDevices other := by
  induction count generalizing fuel level with
  | zero =>
      cases fuel with
      | zero => omega
      | succ fuel =>
          have ended : ¬ level.j < bound := by omega
          refine ⟨level, by rw [connectHosts, if_neg ended], by omega, rfl, by simp, ?_⟩
          intro other _
          rfl
  | succ count induction =>
      cases fuel with
      | zero => omega
      | succ fuel =>
          have more : level.j < bound := by
            rw [boundIs]
            have some : 0 < step * ((count + 1 : Nat) : Int) := by positivity
            omega
          rcases induction fuel (by omega)
            { level with
              bridgeDevices := level.bridgeDevices.add i (.host level.j)
              j := level.j + step } (by rw [boundIs]; push_cast; ring) with
            ⟨final, ran, jIs, tempIs, here, elsewhere⟩
          refine ⟨final, by rw [connectHosts, if_pos more, ran], jIs, tempIs, ?_, ?_⟩
          · rw [here, List.range_succ_eq_map]
            simp only [Cells.add, Function.update_self, List.append_assoc, List.map_cons,
              List.map_map, List.singleton_append]
            congr 2
            · simp
            · apply List.map_congr_left
              intro m _
              simp only [Function.comp_apply, Terminal.host.injEq]
              push_cast
              ring
          · intro other different
            rw [elsewhere other different]
            simp [Cells.add, different]

/-! ## The outer loops -/

/-- The bridges up to a number are connected, each with the hosts from its first on. -/
structure Connected (n step : Nat) (first : Nat → Nat) (count : Nat) (level : Level) :
    Prop where
  done : ∀ i < count, level.bridgeDevices i =
    .switch i :: (List.range n).map fun m => .host ((first i + step * m : Nat) : Int)
  untouched : ∀ i, count ≤ i → level.bridgeDevices i = []

theorem connected_start (n step : Nat) (first : Nat → Nat) :
    Connected n step first 0 {} := by
  constructor
  · intro i impossible
    omega
  · intro i _
    rfl

/-- The inner loop connects a bridge, from its first host on. -/
theorem Connected.connectHosts {n step : Nat} {first : Nat → Nat} {i : Nat}
    {level : Level}
    (connected : Connected n step first i level) (positive : 0 < step) {fuel : Nat}
    (enough : n < fuel) :
    ∃ final, BCube.connectHosts i ((first i : Int) + (step * n : Nat)) step fuel
        { j := first i, temp := first i
          bridgeDevices := level.bridgeDevices.add i (.switch i) } = some final ∧
      final.j = (first i : Int) + (step * n : Nat) ∧ final.temp = first i ∧
      Connected n step first (i + 1) final := by
  have stepPositive : (0 : Int) < step := by exact_mod_cast positive
  have boundIs : (first i : Int) + (step * n : Nat) = (first i : Int) + step * n := by
    push_cast
    rfl
  rcases exists_connectHosts i stepPositive fuel enough
    { j := first i, temp := first i,
      bridgeDevices := level.bridgeDevices.add i (.switch i) }
    boundIs with ⟨final, ran, jIs, tempIs, here, elsewhere⟩
  refine ⟨final, ran, jIs, tempIs, ?_, ?_⟩
  · intro other small
    by_cases same : other = i
    · subst same
      rw [here]
      simp [Cells.add, connected.untouched other le_rfl]
    · rw [elsewhere other same]
      simp only [Cells.add, Function.update_of_ne same]
      exact connected.done other (by omega)
  · intro other large
    rw [elsewhere other (by omega)]
    simp only [Cells.add, Function.update_of_ne (show other ≠ i by omega)]
    exact connected.untouched other (by omega)

/-- The first host of a bridge in BCube 1 and BCube 2. -/
def firstHost (stride span i : Nat) : Nat := i / stride * span + i % stride

theorem firstHost_zero (stride span : Nat) : firstHost stride span 0 = 0 := by
  simp [firstHost]

/-- Within a span, the first host moves on by one. -/
theorem firstHost_succ_within {stride i : Nat} (span : Nat)
    (within : (i + 1) % stride ≠ 0) :
    firstHost stride span (i + 1) = firstHost stride span i + 1 := by
  have quotient : (i + 1) / stride = i / stride :=
    Nat.succ_div_of_not_dvd fun divides => within (Nat.mod_eq_zero_of_dvd divides)
  have before := Nat.div_add_mod i stride
  have after := Nat.div_add_mod (i + 1) stride
  rw [quotient] at after
  unfold firstHost
  rw [quotient]
  omega

/-- At the end of a span, the first host jumps to the start of the next. -/
theorem firstHost_succ_across {stride i : Nat} (span : Nat)
    (across : (i + 1) % stride = 0) :
    firstHost stride span (i + 1) + stride = firstHost stride span i + 1 + span := by
  have quotient : (i + 1) / stride = i / stride + 1 :=
    Nat.succ_div_of_dvd (Nat.dvd_of_mod_eq_zero across)
  have before := Nat.div_add_mod i stride
  have after := Nat.div_add_mod (i + 1) stride
  rw [quotient, mul_add] at after
  unfold firstHost
  rw [quotient, add_mul, across]
  omega

/-- `temp` stays at the first host of the bridge that was connected last. -/
structure Striding (n stride span count : Nat) (level : Level) : Prop where
  connected : Connected n stride (firstHost stride span) count level
  last : ∀ i, count = i + 1 → level.temp = firstHost stride span i

/-- Whatever the branch, the inner loop starts at the first host of its bridge. -/
theorem Striding.connectBridge_eq {n stride span : Nat} {i : Nat} {level : Level}
    (striding : Striding n stride span i level) (fuel : Nat) :
    connectBridge stride span fuel level i =
      connectHosts i ((firstHost stride span i : Int) + span) stride fuel
        { j := firstHost stride span i
          temp := firstHost stride span i
          bridgeDevices := level.bridgeDevices.add i (.switch i) } := by
  cases i with
  | zero => simp [connectBridge, firstHost_zero]
  | succ i =>
      have tempIs : level.temp = firstHost stride span i := striding.last i rfl
      by_cases across : (i + 1) % stride = 0
      · have jump := firstHost_succ_across span across
        have next : level.temp - stride + 1 + span = firstHost stride span (i + 1) := by
          rw [tempIs]
          omega
        simp [connectBridge, across, next]
      · have next : level.temp + 1 = firstHost stride span (i + 1) := by
          rw [tempIs, firstHost_succ_within span across]
          push_cast
          rfl
        simp [connectBridge, across, next]

theorem Striding.connectBridge {n stride span : Nat} (positive : 0 < stride)
    (spanIs : span = stride * n) {fuel : Nat} (enough : n < fuel) {i : Nat}
    {level : Level} (striding : Striding n stride span i level) :
    ∃ next, BCube.connectBridge stride span fuel level i = some next ∧
      Striding n stride span (i + 1) next := by
  rw [striding.connectBridge_eq, spanIs]
  rcases (spanIs ▸ striding.connected).connectHosts positive enough with
    ⟨next, ran, _, tempIs, connected⟩
  refine ⟨next, ran, spanIs ▸ connected, ?_⟩
  intro last same
  rw [tempIs, Nat.succ_injective same]

/-- In BCube 0 `j` runs on to the first host of the next bridge. -/
structure Contiguous (n count : Nat) (level : Level) : Prop where
  connected : Connected n 1 (fun i => n * i) count level
  next : level.j = (n * count : Nat)

theorem Contiguous.connectBridge0 {n fuel : Nat} (enough : n < fuel) {i : Nat}
    {level : Level} (contiguous : Contiguous n i level) :
    ∃ next, BCube.connectBridge0 n fuel level i = some next ∧
      Contiguous n (i + 1) next := by
  rcases contiguous.connected.connectHosts Nat.one_pos enough with
    ⟨next, ran, jIs, _, connected⟩
  refine ⟨next, ?_, connected, ?_⟩
  · rw [BCube.connectBridge0]
    simp only [contiguous.next]
    rwa [one_mul] at ran
  · rw [jIs]
    push_cast
    ring

/-! ## The levels -/

/-- The first host of a bridge. -/
def firstOf (n : Nat) : Fin 3 → Nat → Nat
  | 0, i => n * i
  | 1, i => firstHost n (n * n) i
  | 2, i => firstHost (n * n) (n * n * n) i

/-- The hosts of a bridge, in the order of the inner loop. -/
def hostOf (n : Nat) (level : Fin 3) (i m : Nat) : Nat :=
  firstOf n level i + n ^ level.val * m

theorem exists_level0 {n fuel : Nat} (enough : n < fuel) :
    ∃ final, (List.range (n ^ 2)).foldlM (connectBridge0 n fuel) {} = some final ∧
      Contiguous n (n ^ 2) final := by
  apply exists_foldlM_range
  · intro i level _ contiguous
    exact contiguous.connectBridge0 enough
  · exact ⟨connected_start n 1 _, rfl⟩

theorem exists_striding {n stride fuel : Nat} (positive : 0 < stride)
    (enough : n < fuel) :
    ∃ final, (List.range (n ^ 2)).foldlM (connectBridge stride (stride * n) fuel) {} =
      some final ∧
      Striding n stride (stride * n) (n ^ 2) final := by
  apply exists_foldlM_range
  · intro i level _ striding
    exact striding.connectBridge positive rfl enough
  · exact ⟨connected_start n stride _, by omega⟩

/-- The loops end, and connect these hosts. -/
theorem exists_connect {n : Nat} (positive : 0 < n) {fuel : Nat} (enough : n < fuel) :
    ∃ devices, connect n fuel = some devices ∧ ∀ level, ∀ i < n ^ 2,
      devices level i =
        .switch i :: (List.range n).map fun m => .host (hostOf n level i m : Nat) := by
  rcases exists_level0 enough with ⟨level0, ran0, contiguous⟩
  rcases exists_striding positive enough with ⟨level1, ran1, striding1⟩
  rcases exists_striding (Nat.mul_pos positive positive) enough with
    ⟨level2, ran2, striding2⟩
  refine ⟨![level0.bridgeDevices, level1.bridgeDevices, level2.bridgeDevices], ?_, ?_⟩
  · simp only [connect, connectBridge1, connectBridge2, ran0, ran1, ran2]
    rfl
  · intro level i small
    fin_cases level
    · simpa [hostOf, firstOf] using contiguous.connected.done i small
    · simpa [hostOf, firstOf] using striding1.connected.done i small
    · simpa [hostOf, firstOf, pow_two] using striding2.connected.done i small

/-! ## Digits -/

/-- A number of three digits. -/
def compose (n second first zeroth : Nat) : Nat := (second * n + first) * n + zeroth

theorem div_of_last {n last : Nat} (rest : Nat) (small : last < n) :
    (rest * n + last) / n = rest := by
  rw [Nat.add_comm, Nat.add_mul_div_right last rest (by omega), Nat.div_eq_of_lt small,
    zero_add]

theorem pair_lt {n first last : Nat} (firstSmall : first < n) (lastSmall : last < n) :
    first * n + last < n ^ 2 := by
  have whole : (first + 1) * n ≤ n * n := Nat.mul_le_mul_right n firstSmall
  rw [pow_two]
  linarith

theorem exists_pair {n number : Nat} (small : number < n ^ 2) :
    ∃ first < n, ∃ last < n, number = first * n + last := by
  rw [pow_two] at small
  have positive : 0 < n := Nat.pos_of_ne_zero fun zero => by simp [zero] at small
  refine ⟨number / n, Nat.div_lt_of_lt_mul small, number % n, Nat.mod_lt _ positive, ?_⟩
  rw [Nat.mul_comm, Nat.div_add_mod]

theorem exists_compose {n host : Nat} (small : host < n ^ 3) :
    ∃ second < n, ∃ first < n, ∃ zeroth < n, host = compose n second first zeroth := by
  have positive : 0 < n := Nat.pos_of_ne_zero fun zero => by simp [zero] at small
  have rest : host / n < n ^ 2 := Nat.div_lt_of_lt_mul (by rwa [← pow_succ'])
  rcases exists_pair rest with ⟨second, secondSmall, first, firstSmall, pair⟩
  refine ⟨second, secondSmall, first, firstSmall, host % n, Nat.mod_lt _ positive, ?_⟩
  rw [compose, ← pair, Nat.mul_comm, Nat.div_add_mod]

theorem compose_lt {n second first zeroth : Nat} (secondSmall : second < n)
    (firstSmall : first < n)
    (zerothSmall : zeroth < n) : compose n second first zeroth < n ^ 3 := by
  have pair := pair_lt secondSmall firstSmall
  have whole : (second * n + first + 1) * n ≤ n ^ 2 * n := Nat.mul_le_mul_right n pair
  rw [compose, pow_succ]
  linarith

section Compose

variable {n second first zeroth : Nat}

theorem digit_zero_compose (zerothSmall : zeroth < n) :
    digit n 0 (compose n second first zeroth) = zeroth := by
  simp [digit, compose, Nat.mul_add_mod_of_lt zerothSmall]

theorem digit_one_compose (firstSmall : first < n) (zerothSmall : zeroth < n) :
    digit n 1 (compose n second first zeroth) = first := by
  simp [digit, compose, div_of_last _ zerothSmall, Nat.mul_add_mod_of_lt firstSmall]

theorem digit_two_compose (secondSmall : second < n) (firstSmall : first < n)
    (zerothSmall : zeroth < n) : digit n 2 (compose n second first zeroth) = second := by
  simp [digit, compose, pow_two, ← Nat.div_div_eq_div_mul, div_of_last _ zerothSmall,
    div_of_last _ firstSmall, Nat.mod_eq_of_lt secondSmall]

end Compose

/-- The host of two digits of a bridge and the digit of its level. -/
def insertDigit (n : Nat) : Fin 3 → Nat → Nat → Nat → Nat
  | 0, first, last, m => compose n first last m
  | 1, first, last, m => compose n first m last
  | 2, first, last, m => compose n m first last

theorem hostOf_pair {n first last : Nat} (firstSmall : first < n) (lastSmall : last < n)
    (level : Fin 3) (m : Nat) :
    hostOf n level (first * n + last) m = insertDigit n level first last m := by
  have pair : first * n + last < n * n := pow_two n ▸ pair_lt firstSmall lastSmall
  fin_cases level
  · simp [hostOf, firstOf, insertDigit, compose]
    ring
  · simp [hostOf, firstOf, firstHost, insertDigit, compose, div_of_last _ lastSmall,
      Nat.mul_add_mod_of_lt lastSmall]
    ring
  · simp [hostOf, firstOf, firstHost, insertDigit, compose, Nat.div_eq_of_lt pair,
      Nat.mod_eq_of_lt pair]
    ring

theorem insertDigit_spec {n first last m : Nat} (firstSmall : first < n)
    (lastSmall : last < n) (mSmall : m < n) (level : Fin 3) :
    insertDigit n level first last m < n ^ 3 ∧
      bridgeOf n level (insertDigit n level first last m) = first * n + last ∧
      digit n level (insertDigit n level first last m) = m := by
  fin_cases level
  · refine ⟨compose_lt firstSmall lastSmall mSmall, ?_, digit_zero_compose mSmall⟩
    simp only [insertDigit, bridgeOf]
    rw [digit_two_compose firstSmall lastSmall mSmall, digit_one_compose lastSmall mSmall]
  · refine ⟨compose_lt firstSmall mSmall lastSmall, ?_,
      digit_one_compose mSmall lastSmall⟩
    simp only [insertDigit, bridgeOf]
    rw [digit_two_compose firstSmall mSmall lastSmall, digit_zero_compose lastSmall]
  · refine ⟨compose_lt mSmall firstSmall lastSmall, ?_,
      digit_two_compose mSmall firstSmall lastSmall⟩
    simp only [insertDigit, bridgeOf]
    rw [digit_one_compose firstSmall lastSmall, digit_zero_compose lastSmall]

/-- A host is in the place of its digit in the loop of its bridge. -/
theorem exists_insertDigit {n host : Nat} (small : host < n ^ 3) (level : Fin 3) :
    ∃ first < n, ∃ last < n, ∃ m < n, host = insertDigit n level first last m := by
  rcases exists_compose small with
    ⟨second, secondSmall, first, firstSmall, zeroth, zerothSmall, host⟩
  fin_cases level
  · exact ⟨second, secondSmall, first, firstSmall, zeroth, zerothSmall, host⟩
  · exact ⟨second, secondSmall, zeroth, zerothSmall, first, firstSmall, host⟩
  · exact ⟨first, firstSmall, zeroth, zerothSmall, second, secondSmall, host⟩

theorem pair_inj {n first last otherFirst otherLast : Nat} (lastSmall : last < n)
    (otherSmall : otherLast < n) :
    first * n + last = otherFirst * n + otherLast ↔ first = otherFirst ∧
      last = otherLast := by
  constructor
  · intro same
    constructor
    · rw [← div_of_last first lastSmall, same, div_of_last otherFirst otherSmall]
    · rw [← Nat.mul_add_mod_of_lt (a := first) lastSmall, same,
        Nat.mul_add_mod_of_lt otherSmall]
  · intro same
    rcases same with ⟨rfl, rfl⟩
    rfl

theorem bridgeOf_eq_iff {n : Nat} (positive : 0 < n) (level : Fin 3)
    (first second : Nat) :
    bridgeOf n level first = bridgeOf n level second ↔
      ∀ place, place ≠ level → digit n place first = digit n place second := by
  have small : ∀ place host, digit n place host < n :=
    fun place host => Nat.mod_lt _ positive
  fin_cases level
  all_goals
    simp only [bridgeOf, pair_inj (small _ first) (small _ second), Fin.forall_fin_succ]
    simp
    try tauto

/-! ## The result -/

theorem hostOf_spec {n i m : Nat} (small : i < n ^ 2) (mSmall : m < n) (level : Fin 3) :
    hostOf n level i m < n ^ 3 ∧ bridgeOf n level (hostOf n level i m) = i ∧
      digit n level (hostOf n level i m) = m := by
  rcases exists_pair small with ⟨first, firstSmall, last, lastSmall, rfl⟩
  rw [hostOf_pair firstSmall lastSmall]
  exact insertDigit_spec firstSmall lastSmall mSmall level

theorem hostOf_bridgeOf {n host : Nat} (small : host < n ^ 3) (level : Fin 3) :
    bridgeOf n level host < n ^ 2 ∧ digit n level host < n ∧
      hostOf n level (bridgeOf n level host) (digit n level host) = host := by
  rcases exists_insertDigit small level with
    ⟨first, firstSmall, last, lastSmall, m, mSmall, rfl⟩
  rcases insertDigit_spec firstSmall lastSmall mSmall level with ⟨_, bridge, place⟩
  rw [bridge, place]
  exact ⟨pair_lt firstSmall lastSmall, mSmall, hostOf_pair firstSmall lastSmall level m⟩

/-- The loops wire BCube with three levels. -/
theorem connect_isBCube (n : Nat) (positive : 1 ≤ n) (fuel : Nat) (enough : n < fuel) :
    ∃ devices, connect n fuel = some devices ∧ IsBCube n devices := by
  rcases exists_connect positive enough with ⟨devices, ran, hosts⟩
  refine ⟨devices, ran, ?_, ?_, ?_⟩
  · intro level i small
    refine ⟨(List.range n).map (hostOf n level i), ?_, by simp, ?_, ?_⟩
    · rw [hosts level i small, List.map_map]
      rfl
    · apply List.Nodup.map_on _ List.nodup_range
      intro m mMember other otherMember same
      rw [← (hostOf_spec small (List.mem_range.mp mMember) level).2.2, same,
        (hostOf_spec small (List.mem_range.mp otherMember) level).2.2]
    · intro host member
      rcases List.mem_map.mp member with ⟨m, mMember, rfl⟩
      exact (hostOf_spec small (List.mem_range.mp mMember) level).1
  · intro level host small
    rcases hostOf_bridgeOf small level with ⟨bridgeSmall, digitSmall, hostIs⟩
    refine ⟨bridgeSmall, ?_⟩
    intro i iSmall
    rw [hosts level i iSmall]
    constructor
    · intro member
      simp only [List.mem_cons, List.mem_map, List.mem_range, reduceCtorEq, false_or,
        Terminal.host.injEq, Nat.cast_inj] at member
      rcases member with ⟨m, mSmall, rfl⟩
      exact (hostOf_spec iSmall mSmall level).2.1.symm
    · intro same
      subst same
      apply List.mem_cons_of_mem _ (List.mem_map.mpr ⟨digit n level host, ?_, ?_⟩)
      · exact List.mem_range.mpr digitSmall
      · rw [hostIs]
  · intro level first _ second _
    exact bridgeOf_eq_iff positive level first second

/-- Two servers for each switch. -/
theorem connect_isBCube_two : ∃ devices, connect 2 3 = some devices ∧ IsBCube 2 devices :=
  connect_isBCube 2 (by decide) 3 (by decide)

end DataCenter.BCube
