import DataCenter.Foundation.Loop

/-! # Breadth-first search

A node of a graph has its neighbours in a list, so a route can be written as the
positions at which it goes on.  A search that looks at the neighbours in the
order of the lists finds the first of all routes to a node: no other is shorter,
and among the shortest ones it is the least in lexicographic order. -/

namespace DataCenter.BreadthFirst

/-! ## The order of routes -/

/-- Shorter routes come first. -/
def rank (route : List Nat) : Nat ×ₗ List Nat := toLex (route.length, route)

theorem rank_lt_iff {first second : List Nat} : rank first < rank second ↔
    first.length < second.length ∨ first.length = second.length ∧ first < second :=
  Prod.Lex.toLex_lt_toLex

theorem rank_injective : Function.Injective rank := by
  intro first second same
  exact congrArg Prod.snd (toLex.injective same)

theorem rank_append_left {first second : List Nat} (before : rank first < rank second)
    (route : List Nat) : rank (route ++ first) < rank (route ++ second) := by
  rw [rank_lt_iff] at before ⊢
  rcases before with shorter | ⟨sameLength, less⟩
  · left
    simp [shorter]
  · exact .inr ⟨by simp [sameLength], List.append_left_lt less⟩

theorem rank_lt_append (route : List Nat) (index : Nat) :
    rank route < rank (route ++ [index]) :=
  rank_lt_iff.mpr (.inl (by simp))

theorem rank_nil_le (route : List Nat) : rank [] ≤ rank route := by
  cases route with
  | nil => exact le_rfl
  | cons index route => exact (rank_lt_iff.mpr (.inl (by simp))).le

theorem append_lt_append {first second : List Nat} (less : first < second)
    (sameLength : first.length = second.length) (rest other : List Nat) :
    first ++ rest < second ++ other := by
  induction first generalizing second with
  | nil =>
      cases List.length_eq_zero_iff.mp sameLength.symm
      exact absurd less (lt_irrefl _)
  | cons head tail induction =>
      cases second with
      | nil => cases sameLength
      | cons other rest =>
          rcases List.cons_lt_cons_iff.mp less with smaller | ⟨rfl, later⟩
          · exact List.cons_lt_cons_iff.mpr (.inl smaller)
          · exact List.cons_lt_cons_iff.mpr
              (.inr ⟨rfl, induction later (Nat.succ.inj sameLength)⟩)

theorem rank_append_of_lt {first second : List Nat} (before : rank first < rank second)
    (index other : Nat) : rank (first ++ [index]) < rank (second ++ [other]) := by
  rw [rank_lt_iff] at before ⊢
  rcases before with shorter | ⟨sameLength, less⟩
  · left
    simp [shorter]
  · exact .inr ⟨by simp [sameLength], append_lt_append less sameLength _ _⟩

theorem rank_append_lt_append_iff {route : List Nat} {index other : Nat} :
    rank (route ++ [index]) < rank (route ++ [other]) ↔ index < other := by
  have one {first second : Nat} (less : first < second) :
      rank (route ++ [first]) < rank (route ++ [second]) := by
    apply rank_append_left
    exact rank_lt_iff.mpr (.inr ⟨rfl, List.cons_lt_cons_iff.mpr (.inl less)⟩)
  constructor
  · intro before
    by_contra notLess
    rcases Nat.eq_or_lt_of_not_lt notLess with same | more
    · rw [same] at before
      exact lt_irrefl _ before
    · exact lt_asymm before (one more)
  · exact one

/-- What comes before a route and one more position is the route with an earlier
position, or starts with what comes before the route. -/
theorem rank_lt_append_singleton {bound route : List Nat} {index : Nat}
    (notEmpty : route ≠ []) (before : rank route < rank (bound ++ [index])) :
    ∃ init last, route = init ++ [last] ∧
      (rank init < rank bound ∨ init = bound ∧ last < index) := by
  have split := List.dropLast_append_getLast notEmpty
  refine ⟨route.dropLast, route.getLast notEmpty, split.symm, ?_⟩
  rw [← split] at before
  rcases lt_trichotomy (rank route.dropLast) (rank bound) with smaller | same | larger
  · exact .inl smaller
  · have init := rank_injective same
    rw [init, rank_append_lt_append_iff] at before
    exact .inr ⟨init, before⟩
  · exact absurd (rank_append_of_lt larger index (route.getLast notEmpty))
      (lt_asymm before)

/-! ## Routes -/

section Routes

variable {α : Type} {neighbours : α → List α} {source target middle : α}

/-- Where a route leads. -/
def follow (neighbours : α → List α) : α → List Nat → Option α
  | node, [] => some node
  | node, index :: route =>
      (neighbours node)[index]?.bind fun next => follow neighbours next route

theorem follow_append (neighbours : α → List α) (node : α) (first second : List Nat) :
    follow neighbours node (first ++ second) =
      (follow neighbours node first).bind fun middle =>
        follow neighbours middle second := by
  induction first generalizing node with
  | nil => rfl
  | cons index route induction =>
      simp only [List.cons_append, follow, Option.bind_assoc]
      congr
      funext next
      exact induction next

theorem follow_append_singleton {route : List Nat} {index : Nat} :
    follow neighbours source (route ++ [index]) = some target ↔
      ∃ node, follow neighbours source route = some node ∧
        (neighbours node)[index]? = some target := by
  rw [follow_append, Option.bind_eq_some_iff]
  simp [follow]

/-- The first of all routes to the target. -/
structure Least (neighbours : α → List α) (source target : α) (route : List Nat) :
    Prop where
  leads : follow neighbours source route = some target
  least : ∀ other, follow neighbours source other = some target → rank route ≤ rank other

theorem Least.unique {route other : List Nat}
    (least : Least neighbours source target route)
    (otherLeast : Least neighbours source target other) : route = other :=
  rank_injective (le_antisymm (least.least other otherLeast.leads)
    (otherLeast.least route least.leads))

theorem least_nil (neighbours : α → List α) (source : α) :
    Least neighbours source source [] where
  leads := rfl
  least other _ := rank_nil_le other

/-- From any node on the way, the first route to the target is the rest of the way. -/
theorem Least.suffix {first second : List Nat}
    (least : Least neighbours source target (first ++ second))
    (leads : follow neighbours source first = some middle) :
    Least neighbours middle target second where
  leads := by
    have whole := least.leads
    rw [follow_append, leads] at whole
    exact whole
  least other otherLeads := by
    by_contra better
    have detour :=
      least.least (first ++ other) (by rw [follow_append, leads]; exact otherLeads)
    exact absurd (rank_append_left (not_le.mp better) first) (not_lt.mpr detour)

theorem mem_of_follow {nodes : Finset α} {node : α} {way : List Nat}
    (member : source ∈ nodes)
    (closed : ∀ node ∈ nodes, ∀ next ∈ neighbours node, next ∈ nodes)
    (leads : follow neighbours source way = some node) : node ∈ nodes := by
  induction way using List.reverseRecOn generalizing node with
  | nil =>
      cases leads
      exact member
  | append_singleton init last induction =>
      rcases follow_append_singleton.mp leads with ⟨middle, middleLeads, neighbour⟩
      exact closed middle (induction middleLeads) node (List.mem_of_getElem? neighbour)

/-- A first route comes to no node twice, so it is shorter than there are nodes. -/
theorem Least.length_lt_card {nodes : Finset α} {route : List Nat}
    (least : Least neighbours source target route) (member : source ∈ nodes)
    (closed : ∀ node ∈ nodes, ∀ next ∈ neighbours node, next ∈ nodes) :
    route.length < nodes.card := by
  have passes (position : Nat) :
      ∃ node, follow neighbours source (route.take position) = some node ∧
        follow neighbours node (route.drop position) = some target := by
    have whole := least.leads
    rw [← List.take_append_drop position route, follow_append, Option.bind_eq_some_iff]
      at whole
    exact whole
  choose place leads onward using passes
  have apart {first second : Nat} (before : first < second)
      (within : second ≤ route.length) :
      place first ≠ place second := by
    intro same
    have shortcut := least.least (route.take first ++ route.drop second) (by
      rw [follow_append, leads first, same]
      exact onward second)
    apply absurd shortcut
    apply not_le.mpr
    apply rank_lt_iff.mpr
    left
    simp only [List.length_append, List.length_take, List.length_drop]
    omega
  by_contra few
  have crowded : nodes.card < (Finset.range (route.length + 1)).card := by
    rw [Finset.card_range]
    omega
  rcases Finset.exists_ne_map_eq_of_card_lt_of_maps_to crowded
    (fun position _ => mem_of_follow member closed (leads position)) with
    ⟨first, firstIn, second, secondIn, different, same⟩
  rw [Finset.mem_range] at firstIn secondIn
  rcases Nat.lt_or_gt_of_ne different with less | more
  · exact apart less (by omega) same
  · exact apart more (by omega) same.symm

/-- A height that falls by at most one with each hop, and inside can always fall. -/
structure Slope (neighbours : α → List α) (target : α) (height : α → Nat)
    (Inside : α → Prop) : Prop where
  slow : ∀ node, ∀ next ∈ neighbours node, height node ≤ height next + 1
  inside : Inside target
  bottom : ∀ node, Inside node → (height node = 0 ↔ node = target)
  down : ∀ node, Inside node → height node ≠ 0 →
    ∃ next ∈ neighbours node, Inside next ∧ height next + 1 = height node

namespace Slope

variable {height : α → Nat} {Inside : α → Prop}
  (slope : Slope neighbours target height Inside)

include slope

/-- No way is shorter than the height of its start. -/
theorem height_le_length {way : List Nat}
    (leads : follow neighbours source way = some target) :
    height source ≤ way.length := by
  have zero : height target = 0 := (slope.bottom target slope.inside).mpr rfl
  induction way generalizing source with
  | nil =>
      cases leads
      exact zero.le
  | cons index way induction =>
      rcases Option.bind_eq_some_iff.mp leads with ⟨next, present, onward⟩
      have fall := slope.slow source next (List.mem_of_getElem? present)
      have rest := induction onward
      rw [List.length_cons]
      omega

/-- Ways that lead downhill reach the target in as many hops as the height. -/
theorem exists_descent (inside : Inside source) :
    ∃ way, follow neighbours source way = some target ∧ way.length = height source := by
  generalize isHeight : height source = steps
  induction steps generalizing source with
  | zero =>
      rw [(slope.bottom source inside).mp isHeight]
      exact ⟨[], rfl, rfl⟩
  | succ steps induction =>
      rcases slope.down source inside (by omega) with ⟨next, neighbour, nextInside, lower⟩
      rcases induction nextInside (by omega) with ⟨way, leads, length⟩
      rcases List.mem_iff_getElem?.mp neighbour with ⟨index, present⟩
      exact ⟨index ::
        way, by rw [follow, present]; exact leads, by rw [List.length_cons, length]⟩

end Slope

/-- The first route goes on with the first neighbour from which there is none longer. -/
theorem Least.cons {next : α} {index : Nat} {route : List Nat}
    (rest : Least neighbours next target route)
    (present : (neighbours source)[index]? = some next) (away : source ≠ target)
    (later : ∀ (other : Nat) (node : α), (neighbours source)[other]? = some node →
      ∀ way, follow neighbours node way = some target →
        route.length < way.length ∨ route.length = way.length ∧ index ≤ other) :
    Least neighbours source target (index :: route) where
  leads := by
    rw [follow, present]
    exact rest.leads
  least way leads := by
    cases way with
    | nil => exact absurd (Option.some.inj leads) away
    | cons other way =>
        rcases Option.bind_eq_some_iff.mp leads with ⟨node, reached, onward⟩
        rcases later other node reached way onward with longer | ⟨sameLength, notBefore⟩
        · exact (rank_lt_iff.mpr (.inl (by simpa using longer))).le
        · rcases Nat.eq_or_lt_of_le notBefore with same | before
          · subst same
            cases present.symm.trans reached
            by_contra better
            have restLeast := rest.least way onward
            have shorter := not_le.mp better
            rw [rank_lt_iff] at shorter
            rcases shorter with less | ⟨-, less⟩
            · simp only [List.length_cons] at less
              omega
            · rcases List.cons_lt_cons_iff.mp less with impossible | ⟨-, less⟩
              · exact absurd impossible (lt_irrefl _)
              · exact absurd restLeast
                  (not_le.mpr (rank_lt_iff.mpr (.inr ⟨sameLength.symm, less⟩)))
          · exact (rank_lt_iff.mpr (.inr ⟨by simp [sameLength],
              List.cons_lt_cons_iff.mpr (.inl before)⟩)).le

end Routes

/-! ## Copies of a graph -/

section Copies

variable {α β : Type} {neighbours : α → List α} {others : β → List β} {copy : α → β}

theorem follow_copy (same : ∀ node, others (copy node) = (neighbours node).map copy)
    (source : α) (route : List Nat) :
    follow others (copy source) route = (follow neighbours source route).map copy := by
  induction route generalizing source with
  | nil => rfl
  | cons index route induction =>
      rw [follow, follow, same, List.getElem?_map]
      cases (neighbours source)[index]? with
      | none => rfl
      | some next => exact induction next

/-- The first routes in a copy are the first routes. -/
theorem least_copy_iff (same : ∀ node, others (copy node) = (neighbours node).map copy)
    (injective : Function.Injective copy) {source target : α} {route : List Nat} :
    Least others (copy source) (copy target) route ↔
      Least neighbours source target route := by
  have leads (way : List Nat) : follow others (copy source) way = some (copy target) ↔
      follow neighbours source way = some target := by
    rw [follow_copy same]
    constructor
    · intro led
      rcases Option.map_eq_some_iff.mp led with ⟨node, reached, isTarget⟩
      rw [reached, injective isTarget]
    · intro led
      rw [led, Option.map_some]
  constructor
  · intro least
    exact ⟨(leads route).mp least.leads, fun other led =>
      least.least other ((leads other).mpr led)⟩
  · intro least
    exact ⟨(leads route).mpr least.leads, fun other led =>
      least.least other ((leads other).mp led)⟩

end Copies

/-! ## The search -/

section Queue

variable {α : Type}

/-- The nodes whose neighbours have not been looked at, and for each node that has been
found the one that it was found from. -/
structure Search (α : Type) where
  queue : List α
  parent : α → Option α

/-- The nodes that are still to be found, and those in the queue. -/
def unfinished (nodes : Finset α) (search : Search α) : Nat :=
  (nodes.filter fun node => search.parent node = none).card + search.queue.length

theorem unfinished_tail (nodes : Finset α) {search : Search α} {first : α} {rest : List α}
    (queue : search.queue = first :: rest) :
    unfinished nodes { search with queue := search.queue.tail } + 1 =
      unfinished nodes search := by
  simp only [unfinished, queue, List.tail_cons, List.length_cons]
  omega

end Queue

/-! ## What has been found -/

section Found

variable {α : Type}

/-- The nodes that have been found form a tree of first routes. -/
structure Tree (neighbours : α → List α) (source : α) (parent : α → Option α) : Prop where
  root : parent source = some source
  branch : ∀ node before, parent node = some before → node ≠ source →
    parent before ≠ none ∧ ∃ route index, Least neighbours source before route ∧
      Least neighbours source node (route ++ [index])

/-- The neighbours of the current node are looked at, up to a position.  All routes that
come before the route to that neighbour have been looked at. -/
structure Scanning (neighbours : α → List α) (source : α) (parent : α → Option α)
    (current : α) (route : List Nat) (waiting : List (α × List Nat)) (index : Nat) :
    Prop where
  tree : Tree neighbours source parent
  head : Least neighbours source current route
  queued : ∀ entry ∈ waiting, Least neighbours source entry.1 entry.2 ∧
    parent entry.1 ≠ none ∧
    rank route < rank entry.2
  sorted : waiting.Pairwise fun first second => rank first.2 < rank second.2
  found : ∀ node, parent node ≠ none →
    ∃ way, Least neighbours source node way ∧ rank way < rank (route ++ [index])
  complete : ∀ way node, follow neighbours source way = some node →
    rank way < rank (route ++ [index]) → parent node ≠ none
  pending : ∀ node way, parent node ≠ none → Least neighbours source node way →
    rank route < rank way → (node, way) ∈ waiting

variable {neighbours : α → List α} {source target current : α} {parent : α → Option α}
  {route : List Nat} {waiting : List (α × List Nat)} {index : Nat}

theorem Scanning.head_found
    (scanning : Scanning neighbours source parent current route waiting
    index) : parent current ≠ none :=
  scanning.complete route current scanning.head.leads (rank_lt_append route index)

/-- A route that comes no later than the one that is looked at, and not before, is that
one. -/
theorem rank_lt_append_succ {way : List Nat}
    (before : rank way < rank (route ++ [index + 1])) :
    rank way < rank (route ++ [index]) ∨ way = route ++ [index] := by
  by_cases empty : way = []
  · left
    rw [empty]
    exact rank_lt_iff.mpr (.inl (by simp))
  · rcases rank_lt_append_singleton empty before with
      ⟨init, last, rfl, less | ⟨rfl, less⟩⟩
    · exact .inl (rank_append_of_lt less last index)
    · rcases Nat.lt_succ_iff_lt_or_eq.mp less with less | same
      · exact .inl (rank_append_lt_append_iff.mpr less)
      · exact .inr (by rw [same])

/-- A neighbour that has been found before changes nothing. -/
theorem Scanning.skip {next : α}
    (scanning : Scanning neighbours source parent current route waiting index)
    (neighbour : (neighbours current)[index]? = some next) (known : parent next ≠ none) :
    Scanning neighbours source parent current route waiting (index + 1) where
  tree := scanning.tree
  head := scanning.head
  queued := scanning.queued
  sorted := scanning.sorted
  found node found := by
    rcases scanning.found node found with ⟨way, least, before⟩
    exact ⟨way, least,
      before.trans (rank_append_lt_append_iff.mpr (Nat.lt_succ_self index))⟩
  complete way node leads before := by
    rcases rank_lt_append_succ before with earlier | rfl
    · exact scanning.complete way node leads earlier
    · rcases follow_append_singleton.mp leads with ⟨last, lastLeads, reached⟩
      cases scanning.head.leads.symm.trans lastLeads
      cases neighbour.symm.trans reached
      exact known
  pending := scanning.pending

/-- All neighbours of nodes that come no later than the current one have been found. -/
theorem Scanning.closed {node next : α} {way : List Nat} {last : Nat}
    (scanning : Scanning neighbours source parent current route waiting
      (neighbours current).length)
    (least : Least neighbours source node way) (notLater : rank way ≤ rank route)
    (neighbour : (neighbours node)[last]? = some next) : parent next ≠ none := by
  have leads : follow neighbours source (way ++ [last]) = some next :=
    follow_append_singleton.mpr ⟨node, least.leads, neighbour⟩
  apply scanning.complete _ _ leads
  rcases lt_or_eq_of_le notLater with earlier | same
  · exact rank_append_of_lt earlier last _
  · have routes := rank_injective same
    subst routes
    cases least.leads.symm.trans scanning.head.leads
    exact rank_append_lt_append_iff.mpr (List.getElem?_eq_some_iff.mp neighbour).1

/-- The search goes on with the next node in the queue. -/
theorem Scanning.advance {next : α} {nextRoute : List Nat} {rest : List (α × List Nat)}
    (scanning : Scanning neighbours source parent current route
      ((next, nextRoute) :: rest) (neighbours current).length) :
    Scanning neighbours source parent next nextRoute rest 0 := by
  rcases List.pairwise_cons.mp scanning.sorted with ⟨first, sorted⟩
  rcases scanning.queued (next, nextRoute) List.mem_cons_self with
    ⟨head, nextFound, after⟩
  exact
    { tree := scanning.tree
      head
      queued := by
        intro entry member
        rcases scanning.queued entry (List.mem_cons_of_mem _ member) with
          ⟨least, found, -⟩
        exact ⟨least, found, first entry member⟩
      sorted
      found := by
        intro node found
        rcases scanning.found node found with ⟨way, least, before⟩
        exact ⟨way, least, before.trans (rank_append_of_lt after _ 0)⟩
      complete := by
        intro way node leads before
        by_cases empty : way = []
        · rw [empty] at leads
          cases leads
          simp [scanning.tree.root]
        · rcases rank_lt_append_singleton empty before with
            ⟨init, last, rfl, earlier | ⟨-, none⟩⟩
          · rcases follow_append_singleton.mp leads with ⟨middle, middleLeads, neighbour⟩
            rcases scanning.found next nextFound with ⟨_, nextLeast, nextBefore⟩
            rw [nextLeast.unique head] at nextBefore
            have middleFound := scanning.complete init middle middleLeads
              (earlier.trans nextBefore)
            rcases scanning.found middle middleFound with ⟨best, bestLeast, -⟩
            have notLater : rank best < rank nextRoute :=
              (bestLeast.least init middleLeads).trans_lt earlier
            apply scanning.closed bestLeast ?_ neighbour
            by_contra later
            -- it would still be in the queue, but not before the next node
            rcases List.mem_cons.mp (scanning.pending middle best middleFound bestLeast
              (not_le.mp later)) with same | member
            · cases same
              exact lt_irrefl _ notLater
            · exact lt_asymm notLater (first _ member)
          · exact absurd none (Nat.not_lt_zero _)
      pending := by
        intro node way found least later
        rcases List.mem_cons.mp
          (scanning.pending node way found least (after.trans later)) with same | member
        · cases same
          exact absurd later (lt_irrefl _)
        · exact member }

/-- When nothing waits any more, everything that can be reached has been found. -/
theorem Scanning.exhausted
    (scanning : Scanning neighbours source parent current route []
      (neighbours current).length)
    {node : α} {way : List Nat} (leads : follow neighbours source way = some node) :
    parent node ≠ none := by
  induction way using List.reverseRecOn generalizing node with
  | nil =>
      cases leads
      simp [scanning.tree.root]
  | append_singleton init last induction =>
      rcases follow_append_singleton.mp leads with ⟨middle, middleLeads, neighbour⟩
      have middleFound := induction middleLeads
      rcases scanning.found middle middleFound with ⟨best, bestLeast, -⟩
      apply scanning.closed bestLeast ?_ neighbour
      by_contra later
      exact List.not_mem_nil
        (scanning.pending middle best middleFound bestLeast (not_le.mp later))

end Found

/-! ## The turns -/

section Search

variable {α : Type} [DecidableEq α] {neighbours : α → List α} {source target current : α}
  {parent : α → Option α} {route : List Nat} {waiting : List (α × List Nat)} {index : Nat}

/-- A neighbour of the current node is put into the queue unless it has been found
before. -/
def discover (current : α) (search : Search α) (next : α) : Search α :=
  if search.parent next = none then
    { queue := search.queue ++ [next]
      parent := Function.update search.parent next (some current) }
  else search

/-- One turn of the search.  The current node leaves the queue after its neighbours have
joined it. -/
def turn (neighbours : α → List α) (target : α) (search : Search α) :
    Turn (Search α) (Bool × (α → Option α)) :=
  match search.queue with
  | [] => .leave (false, search.parent)
  | current :: _ =>
      if current = target then .leave (true, search.parent)
      else
        let found := (neighbours current).foldl (discover current) search
        .again { found with queue := found.queue.tail }

/-- Whatever waits after a scan waited before, or is a neighbour. -/
theorem mem_queue_of_discover {search : Search α} {list : List α} {node : α}
    (waits : node ∈ (list.foldl (discover current) search).queue) :
    node ∈ search.queue ∨ node ∈ list := by
  induction list generalizing search with
  | nil => exact .inl waits
  | cons next rest induction =>
      rcases induction waits with before | later
      · rw [discover] at before
        split at before
        · rcases List.mem_append.mp before with earlier | same
          · exact .inl earlier
          · rw [List.mem_singleton.mp same]
            exact .inr List.mem_cons_self
        · exact .inl before
      · exact .inr (List.mem_cons_of_mem _ later)

def start (source : α) : Search α :=
  { queue := [source], parent := Function.update (fun _ => none) source (some source) }

theorem parent_start (source node : α) :
    (start source).parent node = if node = source then some source else none := by
  simp [start, Function.update_apply]

theorem tree_start (neighbours : α → List α) (source : α) :
    Tree neighbours source (start source).parent where
  root := by rw [parent_start, if_pos rfl]
  branch node before found different := by
    rw [parent_start, if_neg different] at found
    cases found

theorem eq_source_of_start {node : α} (found : (start source).parent node ≠ none) :
    node = source := by
  by_contra different
  exact found (by rw [parent_start, if_neg different])

theorem scanning_start (neighbours : α → List α) (source : α) :
    Scanning neighbours source (start source).parent source [] [] 0 where
  tree := tree_start neighbours source
  head := least_nil neighbours source
  queued := by simp
  sorted := List.Pairwise.nil
  found node found := by
    rw [eq_source_of_start found]
    exact ⟨[], least_nil neighbours source, rank_lt_append [] 0⟩
  complete way node leads before := by
    cases way with
    | nil =>
        cases leads
        simp [parent_start]
    | cons first rest =>
        rcases rank_lt_append_singleton (by simp) before with
          ⟨init, last, -, less | ⟨-, less⟩⟩
        · exact absurd less (by simp [rank_lt_iff])
        · exact absurd less (Nat.not_lt_zero _)
  pending node way found least before := by
    rw [eq_source_of_start found] at least
    rw [least.unique (least_nil neighbours source)] at before
    exact absurd before (lt_irrefl _)

/-- A neighbour that has not been found before waits behind all others. -/
theorem Scanning.add {next : α}
    (scanning : Scanning neighbours source parent current route waiting index)
    (neighbour : (neighbours current)[index]? = some next)
    (unknown : parent next = none) :
    Scanning neighbours source (Function.update parent next (some current)) current route
      (waiting ++ [(next, route ++ [index])]) (index + 1) := by
  have leads : follow neighbours source (route ++ [index]) = some next :=
    follow_append_singleton.mpr ⟨current, scanning.head.leads, neighbour⟩
  have least : Least neighbours source next (route ++ [index]) := by
    refine ⟨leads, ?_⟩
    intro other otherLeads
    by_contra better
    exact scanning.complete other next otherLeads (not_le.mp better) unknown
  have wider {node : α} (found : parent node ≠ none) :
      Function.update parent next (some current) node ≠ none := by
    have different : node ≠ next := by
      intro same
      exact found (same ▸ unknown)
    rwa [Function.update_of_ne different]
  have cases_found {node : α}
      (found : Function.update parent next (some current) node ≠ none) :
      node = next ∨ parent node ≠ none := by
    by_cases same : node = next
    · exact .inl same
    · rw [Function.update_of_ne same] at found
      exact .inr found
  exact
    { tree := {
        root := by
          have different : source ≠ next := by
            intro same
            rw [← same, scanning.tree.root] at unknown
            cases unknown
          rw [Function.update_of_ne different, scanning.tree.root]
        branch := by
          intro node before found different
          by_cases same : node = next
          · rw [same, Function.update_self] at found
            cases found
            exact ⟨wider scanning.head_found, route, index, scanning.head, same ▸ least⟩
          · rw [Function.update_of_ne same] at found
            rcases scanning.tree.branch node before found different with ⟨earlier, routes⟩
            exact ⟨wider earlier, routes⟩ }
      head := scanning.head
      queued := by
        intro entry member
        rcases List.mem_append.mp member with earlier | new
        · rcases scanning.queued entry earlier with ⟨entryLeast, found, after⟩
          exact ⟨entryLeast, wider found, after⟩
        · rw [List.mem_singleton.mp new]
          exact ⟨least, by simp, rank_lt_append route index⟩
      sorted := by
        apply List.pairwise_append.mpr
        refine ⟨scanning.sorted, List.pairwise_singleton _ _, ?_⟩
        intro entry member new isNew
        rw [List.mem_singleton.mp isNew]
        rcases scanning.queued entry member with ⟨entryLeast, found, -⟩
        rcases scanning.found entry.1 found with ⟨way, wayLeast, before⟩
        rwa [entryLeast.unique wayLeast]
      found := by
        intro node found
        rcases cases_found found with rfl | earlier
        · exact ⟨_, least, rank_append_lt_append_iff.mpr (Nat.lt_succ_self index)⟩
        · rcases scanning.found node earlier with ⟨way, wayLeast, before⟩
          exact ⟨way, wayLeast,
            before.trans (rank_append_lt_append_iff.mpr (Nat.lt_succ_self index))⟩
      complete := by
        intro way node wayLeads before
        rcases rank_lt_append_succ before with earlier | rfl
        · exact wider (scanning.complete way node wayLeads earlier)
        · cases leads.symm.trans wayLeads
          simp
      pending := by
        intro node way found wayLeast after
        rcases cases_found found with rfl | earlier
        · rw [wayLeast.unique least]
          exact List.mem_append_right _ (List.mem_singleton.mpr rfl)
        · exact List.mem_append_left _
            (scanning.pending node way earlier wayLeast after) }

/-! ## The whole search -/

/-- The queue while the neighbours of its first node are looked at. -/
structure Scans (neighbours : α → List α) (source : α) (search : Search α) (current : α)
    (route : List Nat) (waiting : List (α × List Nat)) (index : Nat) : Prop where
  queue : search.queue = current :: waiting.map Prod.fst
  scanning : Scanning neighbours source search.parent current route waiting index

theorem Scans.discover {search : Search α} {next : α}
    (scans : Scans neighbours source search current route waiting index)
    (neighbour : (neighbours current)[index]? = some next) :
    ∃ waiting,
      Scans neighbours source (discover current search next) current route waiting
      (index + 1) := by
  by_cases unknown : search.parent next = none
  · rw [BreadthFirst.discover, if_pos unknown]
    exact ⟨_, by simp [scans.queue], scans.scanning.add neighbour unknown⟩
  · rw [BreadthFirst.discover, if_neg unknown]
    exact ⟨waiting, scans.queue, scans.scanning.skip neighbour unknown⟩

theorem Scans.discover_all {search : Search α} {before after : List α}
    (scans : Scans neighbours source search current route waiting before.length)
    (split : neighbours current = before ++ after) :
    ∃ waiting,
      Scans neighbours source (after.foldl (BreadthFirst.discover current) search)
      current route waiting (neighbours current).length := by
  induction after generalizing search waiting before with
  | nil =>
      rw [split, List.append_nil]
      exact ⟨waiting, scans⟩
  | cons next rest induction =>
      have neighbour : (neighbours current)[before.length]? = some next := by simp [split]
      rcases scans.discover neighbour with ⟨more, further⟩
      have position : before.length + 1 = (before ++ [next]).length := by simp
      rw [position] at further
      exact induction further (by simp [split])

theorem unfinished_discover {nodes : Finset α} {search : Search α} {next : α}
    (member : next ∈ nodes) :
    unfinished nodes (discover current search next) = unfinished nodes search := by
  by_cases unknown : search.parent next = none
  · have moved : nodes.filter (fun node =>
        Function.update search.parent next (some current) node = none) =
        (nodes.filter fun node => search.parent node = none).erase next := by
      ext node
      by_cases same : node = next
      · simp [same]
      · simp [same]
    have present : next ∈ nodes.filter fun node => search.parent node = none := by
      simp [member, unknown]
    have positive := Finset.card_pos.mpr ⟨next, present⟩
    rw [discover, if_pos unknown, unfinished, moved, Finset.card_erase_of_mem present,
      unfinished, List.length_append, List.length_singleton]
    omega
  · rw [discover, if_neg unknown]

theorem unfinished_discover_all {nodes : Finset α} {search : Search α} {list : List α}
    (members : ∀ next ∈ list, next ∈ nodes) :
    unfinished nodes (list.foldl (discover current) search) =
      unfinished nodes search := by
  induction list generalizing search with
  | nil => rfl
  | cons next rest induction =>
      rw [List.foldl_cons,
        induction fun other member => members other (List.mem_cons_of_mem _ member),
        unfinished_discover (members next List.mem_cons_self)]

/-- What a search comes to. -/
structure Explored (neighbours : α → List α) (source target : α) (found : Bool)
    (parent : α → Option α) : Prop where
  tree : Tree neighbours source parent
  found_iff : found = true ↔ ∃ way, follow neighbours source way = some target
  parent_iff : parent target ≠ none ↔ ∃ way, follow neighbours source way = some target

/-- A target that has been found is not among the nodes that have left the queue. -/
theorem exists_loop {nodes : Finset α} (member : source ∈ nodes)
    (closed : ∀ node ∈ nodes, ∀ next ∈ neighbours node, next ∈ nodes) {search : Search α}
    (scans : Scans neighbours source search current route waiting 0)
    (ahead : ∀ way, Least neighbours source target way → search.parent target ≠ none →
      rank route ≤ rank way)
    {fuel : Nat} (enough : unfinished nodes search < fuel) :
    ∃ found parent, loop (turn neighbours target) fuel search = some (found, parent) ∧
      Explored neighbours source target found parent := by
  induction fuel generalizing search current route waiting with
  | zero => omega
  | succ fuel induction =>
      by_cases arrived : current = target
      · have left : turn neighbours target search = .leave (true, search.parent) := by
          simp [turn, scans.queue, arrived]
        have leads := scans.scanning.head.leads
        have known := scans.scanning.head_found
        rw [arrived] at leads known
        exact ⟨true, search.parent, loop_succ_of_leave left fuel, scans.scanning.tree,
          by simpa using ⟨route, leads⟩, by simpa [known] using ⟨route, leads⟩⟩
      · have goesOn : turn neighbours target search = .again
            { (neighbours current).foldl (discover current) search with
              queue :=
                ((neighbours current).foldl (discover current) search).queue.tail } := by
          simp [turn, scans.queue, arrived]
        have currentIn := mem_of_follow member closed scans.scanning.head.leads
        have work : unfinished nodes
            ((neighbours current).foldl (discover current) search) =
            unfinished nodes search := unfinished_discover_all (closed current currentIn)
        have scansAll :
            Scans neighbours source search current route waiting ([] : List α).length :=
          scans
        rcases scansAll.discover_all rfl with ⟨more, further⟩
        have stillAhead : ∀ way, Least neighbours source target way →
            ((neighbours current).foldl (discover current) search).parent target ≠ none →
            rank route < rank way := by
          intro way least found
          by_contra notLater
          have before := (not_lt.mp notLater).trans_lt (rank_lt_append route 0)
          have known := scans.scanning.complete way target least.leads before
          have same :=
            rank_injective (le_antisymm (not_lt.mp notLater) (ahead way least known))
          rw [same] at least
          cases least.leads.symm.trans scans.scanning.head.leads
          exact arrived rfl
        rw [loop_succ_of_again goesOn]
        cases more with
        | nil =>
            have unreachable : ¬ ∃ way, follow neighbours source way = some target := by
              intro reachable
              rcases reachable with ⟨way, leads⟩
              have known := further.scanning.exhausted leads
              rcases further.scanning.found target known with ⟨best, least, -⟩
              exact List.not_mem_nil (further.scanning.pending target best known least
                (stillAhead best least known))
            cases fuel with
            | zero => simp [unfinished, scans.queue] at enough
            | succ fuel =>
                refine ⟨false, _, loop_succ_of_leave ?_ fuel, further.scanning.tree,
                  by simpa using unreachable, ?_⟩
                · simp [turn, further.queue]
                · constructor
                  · intro known
                    rcases further.scanning.found target known with ⟨best, least, -⟩
                    exact ⟨best, least.leads⟩
                  · intro reachable
                    exact absurd reachable unreachable
        | cons entry rest =>
            have onward : Scans neighbours source
                { (neighbours current).foldl (discover current) search with
                  queue :=
                    ((neighbours current).foldl (discover current) search).queue.tail }
                entry.1 entry.2 rest 0 :=
              ⟨by simp [further.queue], further.scanning.advance⟩
            apply induction onward
            · intro way least found
              rcases List.mem_cons.mp (further.scanning.pending target way found least
                (stillAhead way least found)) with same | member
              · rw [← same]
              · exact ((List.pairwise_cons.mp further.scanning.sorted).1 _ member).le
            · have fewer := unfinished_tail nodes further.queue
              rw [work] at fewer
              rw [← fewer] at enough
              exact Nat.lt_of_succ_lt_succ enough

theorem scans_start (neighbours : α → List α) (source : α) :
    Scans neighbours source (start source) source [] [] 0 :=
  ⟨rfl, scanning_start neighbours source⟩

/-- At the start only the source has been found. -/
theorem unfinished_start {nodes : Finset α} (member : source ∈ nodes) :
    unfinished nodes (start source) = nodes.card := by
  have others : nodes.filter (fun node => (start source).parent node = none) =
      nodes.erase source := by
    ext node
    simp [parent_start, and_comm]
  have positive := Finset.card_pos.mpr ⟨source, member⟩
  rw [unfinished, others, Finset.card_erase_of_mem member]
  simp only [start, List.length_singleton]
  omega

/-- Over finitely many nodes the search ends, and it has found the target if there is a
way to it. -/
theorem exists_explored {nodes : Finset α} (member : source ∈ nodes)
    (closed : ∀ node ∈ nodes, ∀ next ∈ neighbours node, next ∈ nodes) (target : α)
    {fuel : Nat} (enough : nodes.card < fuel) :
    ∃ found parent, loop (turn neighbours target) fuel (start source) =
      some (found, parent) ∧
      Explored neighbours source target found parent := by
  have ahead : ∀ way, Least neighbours source target way →
      (start source).parent target ≠ none →
      rank [] ≤ rank way := by
    intro way _ _
    exact rank_nil_le way
  exact exists_loop member closed (scans_start neighbours source) ahead
    (by rw [unfinished_start member]; exact enough)

/-- Where there is a way, there is a first one. -/
theorem exists_least {nodes : Finset α} (member : source ∈ nodes)
    (closed : ∀ node ∈ nodes, ∀ next ∈ neighbours node, next ∈ nodes) {way : List Nat}
    (leads : follow neighbours source way = some target) :
    ∃ route, Least neighbours source target route := by
  by_cases here : target = source
  · exact ⟨[], here ▸ least_nil neighbours source⟩
  · rcases exists_explored member closed target (Nat.lt_succ_self _) with
      ⟨found, parent, -, explored⟩
    rcases Option.ne_none_iff_exists'.mp (explored.parent_iff.mpr ⟨way, leads⟩) with
      ⟨before, isBefore⟩
    rcases explored.tree.branch target before isBefore here with
      ⟨-, route, index, -, least⟩
    exact ⟨_, least⟩

namespace Slope

variable {height : α → Nat} {Inside : α → Prop}
  (slope : Slope neighbours target height Inside)
  {nodes : Finset α} (member : source ∈ nodes)
  (closed : ∀ node ∈ nodes, ∀ next ∈ neighbours node, next ∈ nodes)

include slope member closed

/-- The height is the length of the first route. -/
theorem exists_least (inside : Inside source) :
    ∃ route, Least neighbours source target route ∧ route.length = height source := by
  rcases slope.exists_descent inside with ⟨way, leads, length⟩
  rcases BreadthFirst.exists_least member closed leads with ⟨route, least⟩
  refine ⟨route, least, ?_⟩
  have atLeast := slope.height_le_length least.leads
  have atMost := least.least way leads
  by_contra differs
  apply absurd atMost
  apply not_le.mpr
  exact rank_lt_iff.mpr (.inl (by omega))

/-- The first route starts with the first neighbour that is lower. -/
theorem exists_least_cons (inside : Inside source) {before after : List α} {next : α}
    (split : neighbours source = before ++ next :: after) (nextInside : Inside next)
    (lower : height next + 1 = height source)
    (notBefore : ∀ other ∈ before, height source ≤ height other) :
    ∃ route, Least neighbours next target route ∧
      Least neighbours source target (before.length :: route) := by
  have present : (neighbours source)[before.length]? = some next := by simp [split]
  have away : source ≠ target := by
    intro same
    have atBottom := (slope.bottom source inside).mpr same
    omega
  rcases slope.exists_least (closed source member next (List.mem_of_getElem? present))
    closed nextInside with ⟨route, least, length⟩
  refine ⟨route, least, least.cons present away ?_⟩
  intro other node reached way leads
  have atLeast := slope.height_le_length leads
  by_cases earlier : other < before.length
  · left
    rw [split, List.getElem?_append_left earlier] at reached
    have high := notBefore node (List.mem_of_getElem? reached)
    omega
  · have fall := slope.slow source node (List.mem_of_getElem? reached)
    omega

/-- The first route starts with the first neighbour that is lower, whichever that is. -/
theorem exists_least_first (inside : Inside source) (away : height source ≠ 0)
    (insideNext : ∀ next ∈ neighbours source, height next < height source → Inside next) :
    ∃ before next after, neighbours source = before ++ next :: after ∧ Inside next ∧
      height next + 1 = height source ∧ (∀ other ∈ before, height source ≤ height other) ∧
      ∃ route, Least neighbours next target route ∧
        Least neighbours source target (before.length :: route) := by
  rcases slope.down source inside away with ⟨lower, neighbour, -, less⟩
  cases found : (neighbours source).find? fun next => height next < height source with
  | none =>
      have none := List.find?_eq_none.mp found lower neighbour
      simp only [decide_eq_true_eq] at none
      omega
  | some next =>
      rcases List.find?_eq_some_iff_append.mp found with
        ⟨isLower, before, after, split, high⟩
      have isLower : height next < height source := of_decide_eq_true isLower
      have isNext : next ∈ neighbours source := by simp [split]
      have fall := slope.slow source next isNext
      have nextInside := insideNext next isNext isLower
      have notBefore : ∀ other ∈ before, height source ≤ height other := by
        intro other isBefore
        simpa using high other isBefore
      have down : height next + 1 = height source := by omega
      exact ⟨before, next, after, split, nextInside, down, notBefore,
        slope.exists_least_cons member closed inside split nextInside down notBefore⟩

/-- What goes over to the first lower neighbour is so of all nodes on the first route. -/
theorem follow_stays {Straight : α → Prop}
    (insideNext : ∀ node, Inside node →
      ∀ next ∈ neighbours node, height next < height node →
      Inside next)
    (straight : ∀ node, Inside node → Straight node → ∀ before next after,
      neighbours node = before ++ next :: after → height next + 1 = height node →
      (∀ other ∈ before, height node ≤ height other) → Straight next)
    (inside : Inside source) (start : Straight source) {before way : List Nat} {node : α}
    (least : Least neighbours source target (before ++ way))
    (leads : follow neighbours source before = some node) : Straight node := by
  induction before generalizing source with
  | nil =>
      cases leads
      exact start
  | cons index before induction =>
      have away : height source ≠ 0 := by
        intro zero
        have same := (slope.bottom source inside).mp zero
        subst same
        cases least.unique (least_nil neighbours source)
      rcases slope.exists_least_first member closed inside away
        (insideNext source inside) with
        ⟨others, next, after, split, nextInside, lower, notBefore, route, rest, whole⟩
      cases least.unique whole
      have present : (neighbours source)[others.length]? = some next := by simp [split]
      have nextIn := closed source member next (List.mem_of_getElem? present)
      rw [follow, present] at leads
      exact induction nextIn nextInside
        (straight source inside start others next after split lower notBefore) rest leads

end Slope

end Search

end DataCenter.BreadthFirst
