import DataCenter.FlowGenerators

/-! # The flow generator of Portland-Setup

Every host gets an On/Off application that sends to a random host and a packet sink.
The random server is to be another host, and the applications are collected in an
array, so that they can be started and stopped. -/

namespace DataCenter.Portland

/-- The applications of a host. -/
inductive Application where
  | onOff (host : HostChoice)
  | packetSink (host : HostChoice)
  deriving DecidableEq, Repr

/-- The start and the stop time of an application, in seconds.  One with stop time zero
is not stopped. -/
structure Times where
  start : Nat := 0
  stop : Nat := 0
  deriving DecidableEq, Repr

structure Flow where
  client : HostChoice
  server : HostChoice
  deriving DecidableEq, Repr

/-- The variables of the generator: the random numbers that it has used, what it has
installed, and the array `app`. -/
structure Generator where
  position : Nat := 0
  flows : List Flow := []
  applications : List Application := []
  app : Nat → List Application := fun _ => []
  times : Application → Times := fun _ => {}

namespace Generator

/-- `app[t] = helper.Install (node)` -/
def install (generator : Generator) (t : Nat) (application : Application) : Generator :=
  { generator with
    applications := generator.applications ++ [application]
    app := Function.update generator.app t [application] }

/-- `app[t].Start (Seconds (seconds))` -/
def start (generator : Generator) (t seconds : Nat) : Generator :=
  { generator with times := fun application =>
      if application ∈ generator.app t then
        { generator.times application with start := seconds }
      else generator.times application }

/-- `app[t].Stop (Seconds (seconds))` -/
def stop (generator : Generator) (t seconds : Nat) : Generator :=
  { generator with times := fun application =>
      if application ∈ generator.app t then
        { generator.times application with stop := seconds }
      else generator.times application }

/-- The condition of the loop that chooses a server, which compares the number of the host
with `k`. -/
def isRejected (k i j : Nat) (server : HostChoice) : Bool :=
  server.pod = i ∧ server.sw = j ∧ server.host = k

/-- The body of the three loops; `none` if a server is not found within the fuel. -/
def installHost (k : Nat) (rand : Nat → Nat) (fuel i j : Nat) (generator : Generator)
    (h : Nat) :
    Option Generator := do
  let (server, position) ← loop (redraw (drawHost k rand) (isRejected k i j)) fuel
    (drawHost k rand generator.position)
  let client : HostChoice := ⟨i, j, h⟩
  let generator :=
    { generator with position, flows := generator.flows ++ [Flow.mk client server] }
  let generator := generator.install i (.onOff client)
  let generator := generator.install i (.packetSink client)
  return generator.start i 0

/-- The three loops. -/
def generate (k : Nat) (rand : Nat → Nat) (fuel : Nat) : Option Generator :=
  (List.range k).foldlM
    (fun generator i => (List.range (k / 2)).foldlM (fun generator j =>
    (List.range (k / 2)).foldlM (installHost k rand fuel i j) generator) generator) {}

/-- The loop before the simulation, over the whole array. -/
def schedule (generator : Generator) (total_host : Nat) : Generator :=
  (List.range total_host).foldl (fun generator i => (generator.start i 0).stop i 100)
    generator

def setUp (k : Nat) (rand : Nat → Nat) (fuel : Nat) : Option Generator := do
  let generator ← generate k rand fuel
  return generator.schedule (k * k * k / 4)

/-! ## The hosts in the order of the loops -/

/-- The host of an iteration. -/
def hostAt (half m : Nat) : HostChoice := ⟨m / half / half, m / half % half, m % half⟩

/-- The iteration of a host. -/
def iteration (half : Nat) (host : HostChoice) : Nat :=
  (host.pod * half + host.sw) * half + host.host

theorem hostAt_iteration {half : Nat} (host : HostChoice) (swSmall : host.sw < half)
    (hostSmall : host.host < half) : hostAt half (iteration half host) = host := by
  simp only [hostAt, iteration, BCube.div_of_last _ hostSmall,
    BCube.div_of_last _ swSmall, Nat.mul_add_mod_of_lt swSmall,
    Nat.mul_add_mod_of_lt hostSmall]

/-! ## What the loops do -/

/-- The flow of an iteration: the first server that is drawn. -/
def flowAt (k : Nat) (rand : Nat → Nat) (m : Nat) : Flow where
  client := hostAt (k / 2) m
  server := (drawHost k rand (3 * m)).1

/-- What is left of the applications in an entry of the array: the sink that was put there
last. -/
def lastSink (half m t : Nat) : List Application :=
  if m ≤ t * (half * half) then []
  else [.packetSink (hostAt half (min m ((t + 1) * (half * half)) - 1))]

/-- The state after so many iterations. -/
structure Progress (k : Nat) (rand : Nat → Nat) (m : Nat) (generator : Generator) :
    Prop where
  position : generator.position = 3 * m
  flows : generator.flows = (List.range m).map (flowAt k rand)
  applications : generator.applications = (List.range m).flatMap fun m =>
    [.onOff (hostAt (k / 2) m), .packetSink (hostAt (k / 2) m)]
  app : ∀ t, generator.app t = lastSink (k / 2) m t
  times : ∀ application, generator.times application = {}

theorem progress_start (k : Nat) (rand : Nat → Nat) : Progress k rand 0 {} := by
  constructor
  · rfl
  · rfl
  · rfl
  · intro t
    simp [lastSink]
  · intro application
    rfl

section Loops

variable {k i j h : Nat} {rand : Nat → Nat} {generator : Generator}

/-- The condition never holds: there are not `k` hosts under a switch. -/
theorem not_rejected (hostsExist : 0 < k / 2) (rand : Nat → Nat) (i j position : Nat) :
    isRejected k i j (drawHost k rand position).1 = false := by
  have small : rand (position + 2) % (k / 2) < k / 2 := Nat.mod_lt _ hostsExist
  have differs : (drawHost k rand position).1.host ≠ k := by
    change rand (position + 2) % (k / 2) ≠ k
    omega
  simp [isRejected, differs]

/-- The first server that is drawn is taken. -/
theorem installHost_eq (hostsExist : 0 < k / 2) (fuel : Nat) (generator : Generator) :
    installHost k rand (fuel + 1) i j generator h =
      some ((({ generator with
        position := generator.position + 3
        flows := generator.flows ++
          [Flow.mk ⟨i, j, h⟩ (drawHost k rand generator.position).1] }.install i
            (.onOff ⟨i, j, h⟩)).install i (.packetSink ⟨i, j, h⟩)).start i 0) := by
  rw [installHost,
    loop_redraw_of_accepted (not_rejected hostsExist rand i j generator.position)]
  rfl

/-- The entry of the pod is overwritten, and no other. -/
theorem lastSink_succ {half : Nat} (jSmall : j < half) (hSmall : h < half) (t : Nat) :
    lastSink half ((i * half + j) * half + h + 1) t =
      if t = i then [.packetSink ⟨i, j, h⟩]
      else lastSink half ((i * half + j) * half + h) t := by
  have place : (i * half + j) * half + h = i * (half * half) + (j * half + h) := by ring
  have within : j * half + h < half * half := by
    have whole : (j + 1) * half ≤ half * half := Nat.mul_le_mul_right half jSmall
    linarith
  have here : hostAt half ((i * half + j) * half + h) = ⟨i, j, h⟩ :=
    hostAt_iteration ⟨i, j, h⟩ jSmall hSmall
  rw [place] at here ⊢
  unfold lastSink
  rcases Nat.lt_trichotomy t i with earlier | same | later
  · have before : (t + 1) * (half * half) ≤ i * (half * half) :=
      Nat.mul_le_mul_right _ earlier
    have split : (t + 1) * (half * half) = t * (half * half) + half * half := by ring
    rw [if_neg (by omega), if_neg (by omega), if_neg (by omega), min_eq_right (by omega),
      min_eq_right (by omega)]
  · subst same
    have split : (t + 1) * (half * half) = t * (half * half) + half * half := by ring
    rw [if_neg (by omega), if_pos rfl, min_eq_left (by omega), Nat.add_sub_cancel, here]
  · have after : (i + 1) * (half * half) ≤ t * (half * half) :=
      Nat.mul_le_mul_right _ later
    have split : (i + 1) * (half * half) = i * (half * half) + half * half := by ring
    rw [if_pos (by omega), if_neg (by omega), if_pos (by omega)]

theorem Progress.installHost (jSmall : j < k / 2) (hSmall : h < k / 2) (fuel : Nat)
    (progress : Progress k rand ((i * (k / 2) + j) * (k / 2) + h) generator) :
    ∃ next, Generator.installHost k rand (fuel + 1) i j generator h = some next ∧
      Progress k rand ((i * (k / 2) + j) * (k / 2) + (h + 1)) next := by
  have here : hostAt (k / 2) ((i * (k / 2) + j) * (k / 2) + h) = ⟨i, j, h⟩ :=
    hostAt_iteration ⟨i, j, h⟩ jSmall hSmall
  refine ⟨_, installHost_eq (by omega) fuel generator, ?_⟩
  rw [← Nat.add_assoc]
  constructor
  · change generator.position + 3 = _
    rw [progress.position]
    ring
  · change generator.flows ++ _ = _
    rw [List.range_succ, List.map_append, progress.flows, progress.position,
      List.map_singleton, flowAt, here]
  · change generator.applications ++ [_] ++ [_] = _
    rw [List.range_succ, List.flatMap_append, progress.applications,
      List.flatMap_singleton, here, List.append_assoc]
    rfl
  · intro t
    change Function.update (Function.update generator.app i _) i _ t = _
    rw [lastSink_succ jSmall hSmall, Function.update_idem, Function.update_apply,
      progress.app]
  · intro application
    simp only [Generator.start, install, progress.times, ite_self]

/-- The loop over the hosts of a switch. -/
theorem Progress.exists_hosts (jSmall : j < k / 2) (fuel : Nat)
    (progress : Progress k rand ((i * (k / 2) + j) * (k / 2)) generator) :
    ∃ next, (List.range (k / 2)).foldlM (Generator.installHost k rand (fuel + 1) i j)
        generator = some next ∧
      Progress k rand ((i * (k / 2) + j) * (k / 2) + k / 2) next := by
  apply exists_foldlM_range fun h generator =>
    Progress k rand ((i * (k / 2) + j) * (k / 2) + h) generator
  · intro h generator hSmall soFar
    exact soFar.installHost jSmall hSmall fuel
  · exact progress

/-- The loop over the switches of a pod. -/
theorem Progress.exists_switches (fuel : Nat)
    (progress : Progress k rand (i * (k / 2) * (k / 2)) generator) :
    ∃ next, (List.range (k / 2)).foldlM (fun generator j => (List.range (k / 2)).foldlM
        (Generator.installHost k rand (fuel + 1) i j) generator) generator = some next ∧
      Progress k rand ((i * (k / 2) + k / 2) * (k / 2)) next := by
  apply exists_foldlM_range fun j generator =>
    Progress k rand ((i * (k / 2) + j) * (k / 2)) generator
  · intro j generator jSmall soFar
    rw [← Nat.add_assoc, Nat.add_one_mul]
    exact soFar.exists_hosts jSmall fuel
  · exact progress

theorem exists_generate (k : Nat) (rand : Nat → Nat) (fuel : Nat) :
    ∃ final, generate k rand (fuel + 1) = some final ∧
      Progress k rand (k * (k / 2) * (k / 2)) final := by
  apply exists_foldlM_range fun i generator =>
    Progress k rand (i * (k / 2) * (k / 2)) generator
  · intro i generator _ soFar
    rw [Nat.add_one_mul]
    exact soFar.exists_switches fuel
  · rw [Nat.zero_mul, Nat.zero_mul]
    exact progress_start k rand

end Loops

/-! ## Flows from a host to itself -/

theorem iteration_lt {k : Nat} {host : HostChoice} (exist : host.Exists k) :
    iteration (k / 2) host < k * (k / 2) * (k / 2) := by
  rcases exist with ⟨podSmall, swSmall, hostSmall⟩
  have pods : (host.pod + 1) * (k / 2) ≤ k * (k / 2) := Nat.mul_le_mul_right _ podSmall
  have switches : (host.pod * (k / 2) + host.sw + 1) * (k / 2) ≤ k * (k / 2) * (k / 2) :=
    Nat.mul_le_mul_right _ (by linarith)
  rw [iteration]
  linarith

theorem exists_host {k m : Nat} (small : m < k * (k / 2) * (k / 2)) :
    ∃ host : HostChoice, host.Exists k ∧ m = iteration (k / 2) host := by
  have positive : 0 < k / 2 := Nat.pos_of_ne_zero fun zero => by simp [zero] at small
  have switches : m / (k / 2) < k * (k / 2) :=
    Nat.div_lt_of_lt_mul (by rwa [Nat.mul_comm])
  have pods : m / (k / 2) / (k / 2) < k := Nat.div_lt_of_lt_mul (by rwa [Nat.mul_comm])
  refine ⟨hostAt (k / 2) m, ⟨pods, Nat.mod_lt _ positive, Nat.mod_lt _ positive⟩, ?_⟩
  simp only [iteration, hostAt]
  rw [Nat.div_add_mod', Nat.div_add_mod']

theorem Progress.mem_flows {k : Nat} {rand : Nat → Nat} {final : Generator}
    (progress : Progress k rand (k * (k / 2) * (k / 2)) final) {flow : Flow} :
    flow ∈ final.flows ↔ ∃ host : HostChoice, host.Exists k ∧
      flow = ⟨host, (drawHost k rand (3 * iteration (k / 2) host)).1⟩ := by
  rw [progress.flows, List.mem_map]
  constructor
  · intro made
    rcases made with ⟨m, member, rfl⟩
    rcases exists_host (List.mem_range.mp member) with ⟨host, exist, rfl⟩
    exact ⟨host, exist, by rw [flowAt, hostAt_iteration host exist.2.1 exist.2.2]⟩
  · intro meant
    rcases meant with ⟨host, exist, rfl⟩
    refine ⟨iteration (k / 2) host, List.mem_range.mpr (iteration_lt exist), ?_⟩
    rw [flowAt, hostAt_iteration host exist.2.1 exist.2.2]

/-- No host sends to itself exactly if the three values that are drawn for a host are
nowhere its own. -/
theorem servers_differ_iff (k : Nat) (rand : Nat → Nat) (fuel : Nat) :
    ∃ final, generate k rand (fuel + 1) = some final ∧
      ((∀ flow ∈ final.flows, flow.server ≠ flow.client) ↔
        ∀ host : HostChoice, host.Exists k →
          ¬ (rand (3 * iteration (k / 2) host) % k = host.pod ∧
            rand (3 * iteration (k / 2) host + 1) % (k / 2) = host.sw ∧
            rand (3 * iteration (k / 2) host + 2) % (k / 2) = host.host)) := by
  rcases exists_generate k rand fuel with ⟨final, ran, progress⟩
  refine ⟨final, ran, ?_⟩
  constructor
  · intro differ host exist same
    have flow := progress.mem_flows.mpr ⟨host, exist, rfl⟩
    apply differ _ flow
    rw [drawHost, same.1, same.2.1, same.2.2]
  · intro nowhere flow member same
    rcases progress.mem_flows.mp member with ⟨host, exist, rfl⟩
    have drawn : (drawHost k rand (3 * iteration (k / 2) host)).1 = host := same
    apply nowhere host exist
    exact ⟨congrArg HostChoice.pod drawn, congrArg HostChoice.sw drawn,
      congrArg HostChoice.host drawn⟩

/-- Zeros are drawn for the first host. -/
theorem first_host_sends_to_itself :
    ∃ final flow, generate 4 (fun _ => 0) 1 = some final ∧ flow ∈ final.flows ∧
      flow.client = ⟨0, 0, 0⟩ ∧ flow.server = ⟨0, 0, 0⟩ := by
  have seen : (generate 4 (fun _ => 0) 1).map (fun final => final.flows.head?) =
      some (some ⟨⟨0, 0, 0⟩, ⟨0, 0, 0⟩⟩) := by decide
  rcases Option.map_eq_some_iff.mp seen with ⟨final, ran, first⟩
  exact ⟨final, _, ran, List.mem_of_head? first, rfl, rfl⟩

/-! ## Applications in the array -/

/-- Every application is in the array, and is started and stopped. -/
structure KeepsApplications (k : Nat) (final : Generator) : Prop where
  kept : ∀ application ∈ final.applications, ∃ t < k * k * k / 4,
    application ∈ final.app t
  timed : ∀ application ∈ final.applications, final.times application =
    { start := 0, stop := 100 }

section Schedule

variable (generator : Generator) (total_host : Nat)

theorem schedule_succ : generator.schedule (total_host + 1) =
    ((generator.schedule total_host).start total_host 0).stop total_host 100 := by
  rw [schedule, List.range_succ, List.foldl_append]
  rfl

@[simp] theorem app_schedule : (generator.schedule total_host).app = generator.app := by
  induction total_host with
  | zero => rfl
  | succ total_host induction => rw [schedule_succ, ← induction]; rfl

@[simp] theorem applications_schedule :
    (generator.schedule total_host).applications = generator.applications := by
  induction total_host with
  | zero => rfl
  | succ total_host induction => rw [schedule_succ, ← induction]; rfl

/-- The applications in the array get their times, and no others. -/
theorem times_schedule (application : Application) :
    (generator.schedule total_host).times application =
      if ∃ t < total_host, application ∈ generator.app t then { start := 0, stop := 100 }
      else generator.times application := by
  induction total_host with
  | zero => simp [schedule]
  | succ total_host induction =>
      rw [schedule_succ]
      simp only [stop, start, app_schedule]
      by_cases last : application ∈ generator.app total_host
      · have found : ∃ t < total_host + 1, application ∈ generator.app t :=
          ⟨total_host, Nat.lt_succ_self _, last⟩
        simp only [last, found, if_true]
      · have same : (∃ t < total_host + 1, application ∈ generator.app t) ↔
            ∃ t < total_host, application ∈ generator.app t := by
          constructor
          · intro found
            rcases found with ⟨t, small, member⟩
            rcases Nat.lt_succ_iff_lt_or_eq.mp small with earlier | now
            · exact ⟨t, earlier, member⟩
            · exact absurd (now ▸ member) last
          · intro found
            rcases found with ⟨t, small, member⟩
            exact ⟨t, Nat.lt_succ_of_lt small, member⟩
        simp only [last, same, if_false, induction]

end Schedule

/-- In the end an entry has the sink of the last host of its pod. -/
theorem lastSink_last {k : Nat} (low : 2 ≤ k) (t : Nat) :
    lastSink (k / 2) (k * (k / 2) * (k / 2)) t =
      if t < k then [.packetSink ⟨t, k / 2 - 1, k / 2 - 1⟩] else [] := by
  have positive : 0 < k / 2 := by omega
  have square : 0 < k / 2 * (k / 2) := Nat.mul_pos positive positive
  rw [lastSink]
  rw [Nat.mul_assoc]
  by_cases small : t < k
  · have pods : (t + 1) * (k / 2 * (k / 2)) ≤ k * (k / 2 * (k / 2)) :=
      Nat.mul_le_mul_right _ small
    have split :
        (t + 1) * (k / 2 * (k / 2)) = t * (k / 2 * (k / 2)) + k / 2 * (k / 2) := by ring
    have last : (t + 1) * (k / 2 * (k / 2)) - 1 =
        iteration (k / 2) ⟨t, k / 2 - 1, k / 2 - 1⟩ := by
      rcases Nat.exists_eq_add_of_lt positive with ⟨rest, half⟩
      rw [half, iteration, Nat.add_sub_cancel, Nat.zero_add]
      apply Nat.sub_eq_of_eq_add
      ring
    rw [if_neg (by omega), if_pos small, min_eq_right pods, last, hostAt_iteration]
    · exact Nat.sub_lt positive Nat.one_pos
    · exact Nat.sub_lt positive Nat.one_pos
  · have pods : k * (k / 2 * (k / 2)) ≤ t * (k / 2 * (k / 2)) :=
      Nat.mul_le_mul_right _ (Nat.le_of_not_lt small)
    rw [if_pos pods, if_neg small]

theorem Progress.mem_applications {k : Nat} {rand : Nat → Nat} {final : Generator}
    (progress : Progress k rand (k * (k / 2) * (k / 2)) final)
    {application : Application} :
    application ∈ final.applications ↔ ∃ host : HostChoice, host.Exists k ∧
      (application = .onOff host ∨ application = .packetSink host) := by
  rw [progress.applications, List.mem_flatMap]
  constructor
  · intro installed
    rcases installed with ⟨m, member, here⟩
    rcases exists_host (List.mem_range.mp member) with ⟨host, exist, rfl⟩
    rw [hostAt_iteration host exist.2.1 exist.2.2] at here
    exact ⟨host, exist, by simpa using here⟩
  · intro meant
    rcases meant with ⟨host, exist, here⟩
    refine ⟨iteration (k / 2) host, List.mem_range.mpr (iteration_lt exist), ?_⟩
    rw [hostAt_iteration host exist.2.1 exist.2.2]
    simpa using here

theorem Progress.mem_app_iff {k : Nat} (low : 2 ≤ k) {rand : Nat → Nat}
    {final : Generator} (progress : Progress k rand (k * (k / 2) * (k / 2)) final)
    (application : Application) :
    (∃ t < k * k * k / 4, application ∈ final.app t) ↔
      ∃ pod < k, application = .packetSink ⟨pod, k / 2 - 1, k / 2 - 1⟩ := by
  have enough : k ≤ k * k * k / 4 := by
    have squares : 2 * 2 ≤ k * k := Nat.mul_le_mul low low
    have cubes : 2 * 2 * k ≤ k * k * k := Nat.mul_le_mul_right k squares
    omega
  simp only [progress.app, lastSink_last low]
  constructor
  · intro kept
    rcases kept with ⟨t, -, member⟩
    split at member
    · next small => exact ⟨t, small, List.mem_singleton.mp member⟩
    · cases member
  · intro last
    rcases last with ⟨pod, small, rfl⟩
    exact ⟨pod, small.trans_le enough, by simp [small]⟩

/-- Of all the applications, the array keeps a packet sink for each pod, and only these
are stopped. -/
theorem keeps_one_sink_per_pod {k : Nat} (low : 2 ≤ k) (rand : Nat → Nat) (fuel : Nat) :
    ∃ final, setUp k rand (fuel + 1) = some final ∧
      (∀ application, application ∈ final.applications ↔
        ∃ host : HostChoice, host.Exists k ∧
        (application = .onOff host ∨ application = .packetSink host)) ∧
      (∀ application, (∃ t < k * k * k / 4, application ∈ final.app t) ↔
        ∃ pod < k, application = .packetSink ⟨pod, k / 2 - 1, k / 2 - 1⟩) ∧
      (∀ application, final.times application =
        if ∃ t < k * k * k / 4, application ∈ final.app t then { start := 0, stop := 100 }
        else { start := 0, stop := 0 }) ∧
      ¬ KeepsApplications k final := by
  rcases exists_generate k rand fuel with ⟨generated, ran, progress⟩
  refine ⟨generated.schedule (k * k * k / 4), ?_, ?_, ?_, ?_, ?_⟩
  · rw [setUp, ran]
    rfl
  · intro application
    rw [applications_schedule]
    exact progress.mem_applications
  · intro application
    rw [app_schedule]
    exact progress.mem_app_iff low application
  · intro application
    rw [times_schedule, progress.times, app_schedule]
  · intro keeps
    have half : 0 < k / 2 := by omega
    have exist : HostChoice.Exists k ⟨0, 0, 0⟩ := ⟨Nat.zero_lt_of_lt low, half, half⟩
    have installed :
        .onOff ⟨0, 0, 0⟩ ∈ (generated.schedule (k * k * k / 4)).applications := by
      rw [applications_schedule]
      exact progress.mem_applications.mpr ⟨_, exist, .inl rfl⟩
    have kept := keeps.kept _ installed
    rw [app_schedule, progress.mem_app_iff low] at kept
    rcases kept with ⟨pod, -, same⟩
    cases same

/-- Sixteen hosts: the application of the first is in no entry, and is not stopped. -/
theorem first_application_is_lost :
    ∃ final, setUp 4 (fun _ => 0) 1 = some final ∧ .onOff ⟨0, 0, 0⟩ ∈ final.applications ∧
      (∀ t < 4 * 4 * 4 / 4, .onOff ⟨0, 0, 0⟩ ∉ final.app t) ∧
      final.times (.onOff ⟨0, 0, 0⟩) = { start := 0, stop := 0 } := by
  have seen : (setUp 4 (fun _ => 0) 1).map (fun final =>
      (final.applications.head?, (List.range (4 * 4 * 4 / 4)).all fun t =>
        .onOff ⟨0, 0, 0⟩ ∉ final.app t, final.times (.onOff ⟨0, 0, 0⟩))) =
      some (some (.onOff ⟨0, 0, 0⟩), true, {}) := by decide
  rcases Option.map_eq_some_iff.mp seen with ⟨final, ran, figures⟩
  simp only [Prod.mk.injEq, List.all_eq_true, List.mem_range, decide_eq_true_eq]
    at figures
  exact ⟨final, ran, List.mem_of_head? figures.1, figures.2.1, figures.2.2⟩

/-- Of the sixteen hosts, the last of the first pod keeps its sink. -/
theorem keeps_one_sink_per_pod_four :
    ∃ final, setUp 4 (fun _ => 0) 1 = some final ∧ ¬ KeepsApplications 4 final := by
  rcases keeps_one_sink_per_pod (show 2 ≤ 4 by decide) (fun _ => 0) 0 with
    ⟨final, ran, -, -, -, lost⟩
  exact ⟨final, ran, lost⟩

end Generator

end DataCenter.Portland
