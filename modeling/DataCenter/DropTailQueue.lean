import DataCenter.Foundation.Run

/-! # Drop-tail queues

The queue of a device.  `DropTailQueue` keeps the packets, and its base class `Queue`
counts what is taken, given out and dropped.  Both count octets in 32 bits. -/

namespace DataCenter

/-! ## The queue -/

/-- `DropTailQueue::Mode` -/
inductive QueueMode where
  | packets
  | bytes
  deriving DecidableEq, Repr

/-- The members of `DropTailQueue` and `Queue`. -/
structure DropTailQueue (Packet : Type) where
  mode : QueueMode := .packets
  maxPackets : UInt32 := 100
  maxBytes : UInt32 := 6553500
  packets : List Packet := []
  bytesInQueue : UInt32 := 0
  nBytes : UInt32 := 0
  nTotalReceivedBytes : UInt32 := 0
  nPackets : UInt32 := 0
  nTotalReceivedPackets : UInt32 := 0
  nTotalDroppedBytes : UInt32 := 0
  nTotalDroppedPackets : UInt32 := 0
  deriving DecidableEq, Repr

namespace DropTailQueue

variable {Packet : Type} (getSize : Packet → UInt32)

def drop (queue : DropTailQueue Packet) (p : Packet) : DropTailQueue Packet :=
  { queue with
    nTotalDroppedPackets := queue.nTotalDroppedPackets + 1
    nTotalDroppedBytes := queue.nTotalDroppedBytes + getSize p }

def doEnqueue (queue : DropTailQueue Packet) (p : Packet) : Bool × DropTailQueue Packet :=
  if queue.mode = .packets ∧ queue.packets.length ≥ queue.maxPackets.toNat then
    (false, queue.drop getSize p)
  else if queue.mode = .bytes ∧ queue.bytesInQueue + getSize p ≥ queue.maxBytes then
    (false, queue.drop getSize p)
  else
    (true, { queue with
      bytesInQueue := queue.bytesInQueue + getSize p
      packets := queue.packets ++ [p] })

def enqueue (queue : DropTailQueue Packet) (p : Packet) : Bool × DropTailQueue Packet :=
  match queue.doEnqueue getSize p with
  | (true, queue) =>
      (true, { queue with
        nBytes := queue.nBytes + getSize p
        nTotalReceivedBytes := queue.nTotalReceivedBytes + getSize p
        nPackets := queue.nPackets + 1
        nTotalReceivedPackets := queue.nTotalReceivedPackets + 1 })
  | (false, queue) => (false, queue)

def doDequeue (queue : DropTailQueue Packet) : Option Packet × DropTailQueue Packet :=
  match queue.packets with
  | [] => (none, queue)
  | p :: packets =>
      (some p, { queue with packets, bytesInQueue := queue.bytesInQueue - getSize p })

/-- `Dequeue`; `none` if an assertion fails. -/
def dequeue (queue : DropTailQueue Packet) :
    Option (Option Packet × DropTailQueue Packet) :=
  match queue.doDequeue getSize with
  | (none, queue) => some (none, queue)
  | (some packet, queue) =>
      if queue.nBytes ≥ getSize packet ∧ queue.nPackets > 0 then
        some (some packet, { queue with
          nBytes := queue.nBytes - getSize packet
          nPackets := queue.nPackets - 1 })
      else none

/-! ## Runs -/

inductive Operation (Packet : Type) where
  | enqueue (p : Packet)
  | dequeue
  deriving DecidableEq, Repr

/-- A queue and what it has taken, dropped and given out. -/
structure History (Packet : Type) where
  queue : DropTailQueue Packet
  accepted : List Packet := []
  dropped : List Packet := []
  delivered : List Packet := []
  deriving DecidableEq, Repr

def step : PartialStep (History Packet) (Operation Packet)
  | history, .enqueue p =>
      match history.queue.enqueue getSize p with
      | (true, queue) => some { history with queue, accepted := history.accepted ++ [p] }
      | (false, queue) => some { history with queue, dropped := history.dropped ++ [p] }
  | history, .dequeue =>
      (history.queue.dequeue getSize).map fun next =>
        { history with queue := next.2, delivered := history.delivered ++ next.1.toList }

/-- A queue that is new. -/
def created (mode : QueueMode) (maxPackets maxBytes : UInt32) : History Packet where
  queue := { mode, maxPackets, maxBytes }

/-- The octets of packets. -/
def octets (packets : List Packet) : Nat :=
  (packets.map fun p => (getSize p).toNat).sum

/-- What was taken is given out in order or still there, and the counters count it
modulo 2^32. -/
structure Represents (history : History Packet) : Prop where
  fifo : history.accepted = history.delivered ++ history.queue.packets
  bytesInQueue :
    history.queue.bytesInQueue = .ofNat (octets getSize history.queue.packets)
  nBytes : history.queue.nBytes = .ofNat (octets getSize history.queue.packets)
  nPackets : history.queue.nPackets = .ofNat history.queue.packets.length
  receivedBytes :
    history.queue.nTotalReceivedBytes = .ofNat (octets getSize history.accepted)
  receivedPackets : history.queue.nTotalReceivedPackets = .ofNat history.accepted.length
  droppedBytes :
    history.queue.nTotalDroppedBytes = .ofNat (octets getSize history.dropped)
  droppedPackets : history.queue.nTotalDroppedPackets = .ofNat history.dropped.length

section Steps

variable {getSize} {queue : DropTailQueue Packet} {history next : History Packet}
  {p : Packet}

/-- Whether a queue refuses a packet. -/
def Refuses (getSize : Packet → UInt32) (queue : DropTailQueue Packet) (p : Packet) :
    Prop :=
  queue.mode = .packets ∧ queue.packets.length ≥ queue.maxPackets.toNat ∨
    queue.mode = .bytes ∧ queue.bytesInQueue + getSize p ≥ queue.maxBytes

theorem enqueue_of_refuses (refuses : Refuses getSize queue p) :
    queue.enqueue getSize p = (false, queue.drop getSize p) := by
  have refused : queue.doEnqueue getSize p = (false, queue.drop getSize p) := by
    rw [doEnqueue]
    rcases refuses with packets | bytes
    · rw [if_pos packets]
    · rw [if_pos bytes, ite_self]
  rw [enqueue, refused]

theorem enqueue_of_not_refuses (takes : ¬ Refuses getSize queue p) :
    queue.enqueue getSize p = (true, { queue with
      bytesInQueue := queue.bytesInQueue + getSize p
      packets := queue.packets ++ [p]
      nBytes := queue.nBytes + getSize p
      nTotalReceivedBytes := queue.nTotalReceivedBytes + getSize p
      nPackets := queue.nPackets + 1
      nTotalReceivedPackets := queue.nTotalReceivedPackets + 1 }) := by
  rw [Refuses, not_or] at takes
  rw [enqueue, doEnqueue, if_neg takes.1, if_neg takes.2]

theorem octets_cons (p : Packet) (packets : List Packet) :
    octets getSize (p :: packets) = (getSize p).toNat + octets getSize packets :=
  List.sum_cons

theorem octets_concat (packets : List Packet) (p : Packet) :
    octets getSize (packets ++ [p]) = octets getSize packets + (getSize p).toNat := by
  simp [octets]

theorem ofNat_octets_concat (packets : List Packet) (p : Packet) :
    UInt32.ofNat (octets getSize (packets ++ [p])) =
      .ofNat (octets getSize packets) + getSize p := by
  rw [octets_concat, UInt32.ofNat_add, UInt32.ofNat_toNat]

theorem ofNat_octets_cons (p : Packet) (packets : List Packet) :
    UInt32.ofNat (octets getSize (p :: packets)) - getSize p =
      .ofNat (octets getSize packets) := by
  rw [octets_cons, UInt32.ofNat_add, UInt32.ofNat_toNat, UInt32.add_comm,
    UInt32.add_sub_cancel]

theorem ofNat_length_concat (packets : List Packet) (p : Packet) :
    UInt32.ofNat (packets ++ [p]).length = .ofNat packets.length + 1 := by
  rw [List.length_append, UInt32.ofNat_add]
  rfl

theorem ofNat_length_cons (p : Packet) (packets : List Packet) :
    UInt32.ofNat (p :: packets).length - 1 = .ofNat packets.length := by
  rw [List.length_cons, UInt32.ofNat_add]
  exact UInt32.add_sub_cancel _ _

theorem represents_created (mode : QueueMode) (maxPackets maxBytes : UInt32) :
    Represents getSize (created mode maxPackets maxBytes) :=
  ⟨rfl, rfl, rfl, rfl, rfl, rfl, rfl, rfl⟩

theorem Represents.accept (represents : Represents getSize history)
    (takes : ¬ Refuses getSize history.queue p) :
    ∃ next, step getSize history (.enqueue p) = some next ∧ Represents getSize next ∧
      next.queue.packets = history.queue.packets ++ [p] := by
  rw [step, enqueue_of_not_refuses takes]
  refine ⟨_, rfl, ?_, rfl⟩
  constructor
  · simp only [represents.fifo, List.append_assoc]
  · simp only [represents.bytesInQueue, ofNat_octets_concat]
  · simp only [represents.nBytes, ofNat_octets_concat]
  · simp only [represents.nPackets, ofNat_length_concat]
  · simp only [represents.receivedBytes, ofNat_octets_concat]
  · simp only [represents.receivedPackets, ofNat_length_concat]
  · exact represents.droppedBytes
  · exact represents.droppedPackets

theorem Represents.refuse (represents : Represents getSize history)
    (refuses : Refuses getSize history.queue p) :
    ∃ next, step getSize history (.enqueue p) = some next ∧ Represents getSize next ∧
      next.queue.packets = history.queue.packets := by
  rw [step, enqueue_of_refuses refuses]
  refine ⟨_, rfl, ?_, rfl⟩
  constructor
  · exact represents.fifo
  · exact represents.bytesInQueue
  · exact represents.nBytes
  · exact represents.nPackets
  · exact represents.receivedBytes
  · exact represents.receivedPackets
  · simp only [drop, represents.droppedBytes, ofNat_octets_concat]
  · simp only [drop, represents.droppedPackets, ofNat_length_concat]

theorem dequeue_of_nil (empty : queue.packets = []) :
    queue.dequeue getSize = some (none, queue) := by
  rw [dequeue, doDequeue, empty]

theorem dequeue_of_cons {packets : List Packet} (front : queue.packets = p :: packets) :
    queue.dequeue getSize =
      if queue.nBytes ≥ getSize p ∧ queue.nPackets > 0 then
        some (some p, { queue with
          packets
          bytesInQueue := queue.bytesInQueue - getSize p
          nBytes := queue.nBytes - getSize p
          nPackets := queue.nPackets - 1 })
      else none := by
  rw [dequeue, doDequeue, front]

theorem Represents.dequeue (represents : Represents getSize history)
    (stepped : step getSize history .dequeue = some next) :
    Represents getSize next ∧ next.queue.packets = history.queue.packets.tail := by
  rcases Option.map_eq_some_iff.mp stepped with ⟨⟨given, queue⟩, given_eq, rfl⟩
  cases content : history.queue.packets with
  | nil =>
      rw [dequeue_of_nil content] at given_eq
      cases given_eq
      refine ⟨{ represents with fifo := ?_ }, content⟩
      simp only [Option.toList_none, List.append_nil]
      exact represents.fifo
  | cons p packets =>
      rw [dequeue_of_cons content] at given_eq
      split at given_eq
      · cases given_eq
        refine ⟨?_, rfl⟩
        constructor
        · simp only [represents.fifo, content, Option.toList_some, List.append_assoc,
            List.singleton_append]
        · simp only [represents.bytesInQueue, content, ofNat_octets_cons]
        · simp only [represents.nBytes, content, ofNat_octets_cons]
        · simp only [represents.nPackets, content, ofNat_length_cons]
        · exact represents.receivedBytes
        · exact represents.receivedPackets
        · exact represents.droppedBytes
        · exact represents.droppedPackets
      · cases given_eq

theorem Represents.step (represents : Represents getSize history)
    {operation : Operation Packet}
    (stepped : step getSize history operation = some next) : Represents getSize next := by
  cases operation with
  | enqueue p =>
      by_cases refuses : Refuses getSize history.queue p
      · rcases represents.refuse refuses with ⟨other, isNext, after, -⟩
        cases stepped.symm.trans isNext
        exact after
      · rcases represents.accept refuses with ⟨other, isNext, after, -⟩
        cases stepped.symm.trans isNext
        exact after
  | dequeue => exact (represents.dequeue stepped).1

/-- `Dequeue` fails exactly if the count of the octets or of the packets has wrapped
below what it takes away. -/
theorem Represents.dequeue_eq_none_iff (represents : Represents getSize history) :
    DropTailQueue.step getSize history .dequeue = none ↔
      ∃ p packets, history.queue.packets = p :: packets ∧
        (octets getSize (p :: packets) % 2 ^ 32 < (getSize p).toNat ∨
          (p :: packets).length % 2 ^ 32 = 0) := by
  rw [DropTailQueue.step, Option.map_eq_none_iff]
  cases content : history.queue.packets with
  | nil =>
      rw [dequeue_of_nil content]
      simp
  | cons p packets =>
      have fails : ¬ (history.queue.nBytes ≥ getSize p ∧ history.queue.nPackets > 0) ↔
          octets getSize (p :: packets) % 2 ^ 32 < (getSize p).toNat ∨
            (p :: packets).length % 2 ^ 32 = 0 := by
        rw [represents.nBytes, represents.nPackets, content, ge_iff_le, gt_iff_lt,
          UInt32.le_iff_toNat_le, UInt32.lt_iff_toNat_lt, UInt32.toNat_ofNat',
          UInt32.toNat_ofNat', UInt32.toNat_zero]
        omega
      rw [dequeue_of_cons content, ite_eq_right_iff]
      simp only [reduceCtorEq, imp_false, fails, List.cons.injEq]
      constructor
      · intro wrapped
        exact ⟨p, packets, ⟨rfl, rfl⟩, wrapped⟩
      · intro wrapped
        rcases wrapped with ⟨other, rest, ⟨rfl, rfl⟩, wrapped⟩
        exact wrapped

/-- In every run from a new queue the packets that were taken are given out in order or
still there, the counters are right modulo 2^32, and `Dequeue` fails exactly if a
counter has wrapped below what it takes away. -/
theorem represents_of_reachable {mode : QueueMode} {maxPackets maxBytes : UInt32}
    (reached : (DropTailQueue.step getSize).Reachable (fun _ => True)
      (created mode maxPackets maxBytes) history) :
    Represents getSize history ∧
      (DropTailQueue.step getSize history .dequeue = none ↔
        ∃ p packets, history.queue.packets = p :: packets ∧
          (octets getSize (p :: packets) % 2 ^ 32 < (getSize p).toNat ∨
            (p :: packets).length % 2 ^ 32 = 0)) := by
  have represents : Represents getSize history :=
    reached.invariant (Represents getSize)
      (fun _ _ _ _ before stepped => before.step stepped)
      (represents_created mode maxPackets maxBytes)
  exact ⟨represents, represents.dequeue_eq_none_iff⟩

/-- Two packets of 3 * 2^30 octets are more than 32 bits count. -/
theorem represents_of_reachable_wrapped :
    ∃ history, (DropTailQueue.step id).run (created .packets 100 0)
        [.enqueue 0xc0000000, .enqueue 0xc0000000] = some history ∧
      history.accepted = [0xc0000000, 0xc0000000] ∧
      (DropTailQueue.step id history .dequeue = none ↔
        ∃ p packets, history.queue.packets = p :: packets ∧
          (octets id (p :: packets) % 2 ^ 32 < (id p).toNat ∨
            (p :: packets).length % 2 ^ 32 = 0)) := by
  have ran : ((DropTailQueue.step id).run (created .packets 100 0)
      [.enqueue 0xc0000000, .enqueue 0xc0000000]).map History.accepted =
        some [0xc0000000, 0xc0000000] := by
    decide
  rcases Option.map_eq_some_iff.mp ran with ⟨history, isHistory, accepted⟩
  exact ⟨history, isHistory, accepted,
    (represents_of_reachable ⟨_, fun _ _ => trivial, isHistory⟩).2⟩

end Steps

/-! ## Queues that do not wrap -/

/-- What the longest packet and the limit of the queue leave below 2^32. -/
def Bounded (mode : QueueMode) (maxPackets maxBytes : UInt32) (maxSize : Nat) : Prop :=
  match mode with
  | .packets => maxPackets.toNat * maxSize < 2 ^ 32
  | .bytes => maxBytes.toNat + maxSize ≤ 2 ^ 32

/-- A packet that is not empty and not too long. -/
def Sized (maxSize : Nat) (p : Packet) : Prop :=
  0 < (getSize p).toNat ∧ (getSize p).toNat ≤ maxSize

/-- The limit is kept. -/
def Room (queue : DropTailQueue Packet) : Prop :=
  match queue.mode with
  | .packets => queue.packets.length ≤ queue.maxPackets.toNat
  | .bytes => octets getSize queue.packets < queue.maxBytes.toNat ∨ queue.packets = []

/-- A queue that counts without a wrap. -/
structure Within (mode : QueueMode) (maxPackets maxBytes : UInt32) (maxSize : Nat)
    (history : History Packet) : Prop where
  represents : Represents getSize history
  mode : history.queue.mode = mode
  maxPackets : history.queue.maxPackets = maxPackets
  maxBytes : history.queue.maxBytes = maxBytes
  sized : ∀ p ∈ history.queue.packets, Sized getSize maxSize p
  room : Room getSize history.queue

/-- Whether a queue that counts without a wrap takes a packet. -/
def Fits (queue : DropTailQueue Packet) (p : Packet) : Prop :=
  match queue.mode with
  | .packets => queue.packets.length < queue.maxPackets.toNat
  | .bytes => octets getSize queue.packets + (getSize p).toNat < queue.maxBytes.toNat

section Bounds

variable {getSize} {mode : QueueMode} {maxPackets maxBytes : UInt32} {maxSize : Nat}
  {history : History Packet} {p : Packet}

theorem octets_bounds {packets : List Packet}
    (sized : ∀ p ∈ packets, Sized getSize maxSize p) :
    packets.length ≤ octets getSize packets ∧
      octets getSize packets ≤ packets.length * maxSize := by
  induction packets with
  | nil => simp [octets]
  | cons p packets induction =>
      have first := sized p List.mem_cons_self
      have rest :=
        induction fun other member => sized other (List.mem_cons_of_mem _ member)
      rw [octets_cons, List.length_cons, Nat.add_mul]
      have positive := first.1
      have short := first.2
      omega

theorem Within.small (within : Within getSize mode maxPackets maxBytes maxSize history)
    (bounded : Bounded mode maxPackets maxBytes maxSize) :
    history.queue.packets.length ≤ octets getSize history.queue.packets ∧
      octets getSize history.queue.packets < 2 ^ 32 := by
  rcases octets_bounds within.sized with ⟨positive, short⟩
  refine ⟨positive, ?_⟩
  have room := within.room
  cases mode with
  | packets =>
      simp only [Room, within.mode, within.maxPackets] at room
      exact (short.trans (Nat.mul_le_mul_right maxSize room)).trans_lt bounded
  | bytes =>
      simp only [Room, within.mode, within.maxBytes] at room
      rcases room with below | empty
      · exact below.trans maxBytes.toNat_lt
      · rw [empty]
        exact Nat.two_pow_pos 32

theorem Within.not_refuses_iff
    (within : Within getSize mode maxPackets maxBytes maxSize history)
    (bounded : Bounded mode maxPackets maxBytes maxSize)
    (sized : Sized getSize maxSize p) :
    ¬ Refuses getSize history.queue p ↔ Fits getSize history.queue p := by
  have room := within.room
  cases mode with
  | packets => simp [Refuses, Fits, within.mode]
  | bytes =>
      have noWrap :
          octets getSize history.queue.packets + (getSize p).toNat < 2 ^ 32 := by
        have short := sized.2
        have small := (getSize p).toNat_lt
        simp only [Bounded] at bounded
        simp only [Room, within.mode, within.maxBytes] at room
        rcases room with below | empty
        · omega
        · rw [empty]
          simpa [octets] using small
      have sum : (history.queue.bytesInQueue + getSize p).toNat =
          octets getSize history.queue.packets + (getSize p).toNat := by
        rw [within.represents.bytesInQueue, UInt32.toNat_add, UInt32.toNat_ofNat',
          Nat.mod_add_mod, Nat.mod_eq_of_lt noWrap]
      simp [Refuses, Fits, within.mode, UInt32.le_iff_toNat_le, ← sum]

theorem within_created (mode : QueueMode) (maxPackets maxBytes : UInt32) (maxSize : Nat) :
    Within getSize mode maxPackets maxBytes maxSize
      (created mode maxPackets maxBytes) where
  represents := represents_created mode maxPackets maxBytes
  mode := rfl
  maxPackets := rfl
  maxBytes := rfl
  sized p member := nomatch member
  room := by
    cases mode with
    | packets => exact Nat.zero_le _
    | bytes => exact .inr rfl

theorem Within.enqueue (within : Within getSize mode maxPackets maxBytes maxSize history)
    (bounded : Bounded mode maxPackets maxBytes maxSize)
    (sized : Sized getSize maxSize p) :
    ∃ next, DropTailQueue.step getSize history (.enqueue p) = some next ∧
      Within getSize mode maxPackets maxBytes maxSize next := by
  by_cases refuses : Refuses getSize history.queue p
  · rcases within.represents.refuse refuses with ⟨next, isNext, represents, -⟩
    refine ⟨next, isNext, ?_⟩
    rw [DropTailQueue.step, enqueue_of_refuses refuses] at isNext
    cases isNext
    exact ⟨represents, within.mode, within.maxPackets, within.maxBytes, within.sized,
      within.room⟩
  · have fits := (within.not_refuses_iff bounded sized).mp refuses
    rcases within.represents.accept refuses with ⟨next, isNext, represents, -⟩
    refine ⟨next, isNext, ?_⟩
    rw [DropTailQueue.step, enqueue_of_not_refuses refuses] at isNext
    cases isNext
    refine ⟨represents, within.mode, within.maxPackets, within.maxBytes, ?_, ?_⟩
    · intro other member
      rcases List.mem_append.mp member with earlier | last
      · exact within.sized other earlier
      · rw [List.mem_singleton.mp last]
        exact sized
    · cases mode with
      | packets =>
          simp only [Fits, within.mode] at fits
          simpa [Room, within.mode] using fits
      | bytes =>
          simp only [Fits, within.mode] at fits
          simp only [Room, within.mode, octets_concat]
          exact .inl fits

theorem Within.dequeue (within : Within getSize mode maxPackets maxBytes maxSize history)
    (bounded : Bounded mode maxPackets maxBytes maxSize) :
    ∃ next, DropTailQueue.step getSize history .dequeue = some next ∧
      Within getSize mode maxPackets maxBytes maxSize next := by
  cases isNext : DropTailQueue.step getSize history .dequeue with
  | none =>
      rcases within.represents.dequeue_eq_none_iff.mp isNext with
        ⟨p, packets, content, wrapped⟩
      rcases within.small bounded with ⟨few, small⟩
      rw [content] at few small
      rw [Nat.mod_eq_of_lt small, Nat.mod_eq_of_lt (few.trans_lt small), octets_cons,
        List.length_cons] at wrapped
      omega
  | some next =>
      rcases within.represents.dequeue isNext with ⟨represents, content⟩
      refine ⟨next, rfl, ?_⟩
      have config : next.queue.mode = history.queue.mode ∧
          next.queue.maxPackets = history.queue.maxPackets ∧
          next.queue.maxBytes = history.queue.maxBytes := by
        rcases Option.map_eq_some_iff.mp isNext with ⟨given, isGiven, rfl⟩
        cases before : history.queue.packets with
        | nil =>
            rw [dequeue_of_nil before] at isGiven
            cases isGiven
            exact ⟨rfl, rfl, rfl⟩
        | cons p packets =>
            rw [dequeue_of_cons before] at isGiven
            split at isGiven
            · cases isGiven
              exact ⟨rfl, rfl, rfl⟩
            · cases isGiven
      rcases config with ⟨sameMode, sameMaxPackets, sameMaxBytes⟩
      refine ⟨represents, sameMode.trans within.mode,
        sameMaxPackets.trans within.maxPackets,
        sameMaxBytes.trans within.maxBytes, ?_, ?_⟩
      · intro p member
        rw [content] at member
        exact within.sized p (List.mem_of_mem_tail member)
      · have room := within.room
        rw [Room, sameMode, sameMaxPackets, sameMaxBytes, content]
        cases before : history.queue.packets with
        | nil =>
            rw [Room, before] at room
            exact room
        | cons p packets =>
            rw [Room, before] at room
            cases isMode : history.queue.mode with
            | packets =>
                simp only [isMode, List.length_cons] at room
                exact Nat.le_of_succ_le room
            | bytes =>
                simp only [isMode, octets_cons, reduceCtorEq, or_false] at room
                exact .inl (Nat.lt_of_le_of_lt (Nat.le_add_left _ _) room)

theorem Within.exists_run
    (within : Within getSize mode maxPackets maxBytes maxSize history)
    (bounded : Bounded mode maxPackets maxBytes maxSize)
    {operations : List (Operation Packet)}
    (sized : ∀ p, .enqueue p ∈ operations → Sized getSize maxSize p) :
    ∃ final, (DropTailQueue.step getSize).run history operations = some final ∧
      Within getSize mode maxPackets maxBytes maxSize final := by
  induction operations generalizing history with
  | nil => exact ⟨history, rfl, within⟩
  | cons operation operations induction =>
      have others := fun p member => sized p (List.mem_cons_of_mem _ member)
      have first : ∃ next, DropTailQueue.step getSize history operation = some next ∧
          Within getSize mode maxPackets maxBytes maxSize next := by
        cases operation with
        | enqueue p => exact within.enqueue bounded (sized p List.mem_cons_self)
        | dequeue => exact within.dequeue bounded
      rcases first with ⟨next, stepped, after⟩
      rcases induction after others with ⟨final, ran, last⟩
      exact ⟨final, PartialStep.run_cons_eq_some.mpr ⟨next, stepped, ran⟩, last⟩

/-- If the limit and the longest packet stay below 2^32, nothing ever fails: the
counters are exact, the limit is kept, and a packet is taken exactly if it fits. -/
theorem exact_of_bounded (bounded : Bounded mode maxPackets maxBytes maxSize)
    {operations : List (Operation Packet)}
    (sized : ∀ p, .enqueue p ∈ operations → Sized getSize maxSize p) :
    ∃ final,
        (DropTailQueue.step getSize).run (created mode maxPackets maxBytes) operations =
        some final ∧
      final.queue.nBytes.toNat = octets getSize final.queue.packets ∧
      final.queue.nPackets.toNat = final.queue.packets.length ∧
      Room getSize final.queue ∧
      ∀ p, Sized getSize maxSize p →
        ((final.queue.enqueue getSize p).1 = true ↔ Fits getSize final.queue p) := by
  rcases (within_created mode maxPackets maxBytes maxSize).exists_run bounded sized with
    ⟨final, ran, within⟩
  rcases within.small bounded with ⟨few, small⟩
  refine ⟨final, ran, ?_, ?_, within.room, ?_⟩
  · rw [within.represents.nBytes, UInt32.toNat_ofNat_of_lt' small]
  · rw [within.represents.nPackets, UInt32.toNat_ofNat_of_lt' (few.trans_lt small)]
  · intro p isSized
    rw [← within.not_refuses_iff bounded isSized]
    by_cases refuses : Refuses getSize final.queue p
    · simp [enqueue_of_refuses refuses, refuses]
    · simp [enqueue_of_not_refuses refuses, refuses]

/-- The defaults, with packets of at most 65535 octets. -/
theorem exact_of_bounded_default :
    ∃ final, (DropTailQueue.step id).run (created .packets 100 6553500)
        [.enqueue 1500, .enqueue 65535, .dequeue] = some final ∧
      final.queue.nBytes.toNat = octets id final.queue.packets ∧
      final.queue.nPackets.toNat = final.queue.packets.length ∧
      Room id final.queue ∧
      ∀ p, Sized id 65535 p →
        ((final.queue.enqueue id p).1 = true ↔ Fits id final.queue p) := by
  have bounded : Bounded .packets 100 6553500 65535 := by
    rw [Bounded]
    decide
  apply exact_of_bounded bounded
  intro p member
  simp only [List.mem_cons, Operation.enqueue.injEq, reduceCtorEq, List.not_mem_nil,
    or_false] at member
  rcases member with rfl | rfl
  · exact ⟨by decide, by decide⟩
  · exact ⟨by decide, by decide⟩

end Bounds

end DropTailQueue

end DataCenter
