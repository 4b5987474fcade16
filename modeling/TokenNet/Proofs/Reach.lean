import Mathlib.Data.List.Perm.Subperm
import Mathlib.Logic.Relation
import TokenNet.Proofs.WellFormed

namespace TokenNet

/-!
# What the search along links finds

A search visits nodes one after another, and whatever is seen from there for the first time waits for
its own visit.  `Network.Searched` leaves open which of the waiting nodes comes next, so it covers
searches in breadth and in depth.  No node is visited twice, so there are no more visits than nodes
(`Network.Searched.visits_le`), and once nobody waits, what has been seen is what can be reached along
links (`Network.Searched.mem_iff`).  `Network.reachableFrom` is such a search that has come to its end,
so it finds exactly the nodes that can be reached (`Network.mem_reachableFrom_iff`), and a snapshot
starts, besides at its first node, at all others.
-/

namespace Network

/-- A link leads from one node to another. -/
def LinkedTo (net : Network) (source target : String) : Prop :=
  net.channels.contains ⟨source, target⟩ = true

/-- One node can be reached from another along links. -/
def Reaches (net : Network) : String → String → Prop := Relation.ReflTransGen net.LinkedTo

variable {net : Network}

/-- The receivers of a node are those that its links lead to. -/
theorem mem_successors_iff (hWired : Wired net.nodes net.channels) {source target : String} :
    target ∈ net.successors source ↔ net.LinkedTo source target := by
  unfold successors
  cases hNode : net.nodes.get? source with
  | some node => exact hWired.mem_outbound_iff hNode
  | none =>
      refine ⟨fun hMember => absurd hMember List.not_mem_nil, fun hLinked => ?_⟩
      exact absurd (hWired.source_known hLinked) (SortedMap.get?_eq_none_iff.mp hNode)

theorem nodup_successors (net : Network) (source : String) : (net.successors source).Nodup := by
  unfold successors
  cases net.nodes.get? source with
  | some node => exact node.outbound.nodup_keys
  | none => exact List.nodup_nil

/-! ### Searches in any order -/

/-- The receivers of a node that have not been seen. -/
def unseen (net : Network) (seen : SortedSet String) (name : String) : List String :=
  (net.successors name).filter fun target => !seen.contains target

/-- A search from a node, after a number of visits: which nodes have been seen, and which of them wait
to be visited. -/
inductive Searched (net : Network) (start : String) : Nat → SortedSet String → List String → Prop
  /-- The search begins with its first node. -/
  | start : Searched net start 0 (SortedSet.add SortedMap.empty start) [start]
  /-- Any node that waits is visited; whatever is seen there for the first time waits from now on. -/
  | visit {visits : Nat} {seen : SortedSet String} {earlier later waiting : List String}
      {name : String} (hSearched : Searched net start visits seen (earlier ++ name :: later))
      (hWaiting : waiting.Perm (net.unseen seen name ++ (earlier ++ later))) :
      Searched net start (visits + 1) ((net.unseen seen name).foldl SortedSet.add seen) waiting

theorem mem_unseen_iff {seen : SortedSet String} {name other : String} :
    other ∈ net.unseen seen name ↔
      other ∈ net.successors name ∧ other ∉ SortedMap.keys seen := by
  unfold unseen
  rw [List.mem_filter, Bool.not_eq_true', Bool.eq_false_iff, ne_eq, SortedMap.contains_iff]

/-- What holds of a search after each visit. -/
structure Searching (net : Network) (start : String) (visits : Nat) (seen : SortedSet String)
    (waiting : List String) : Prop where
  /-- The first node has been seen. -/
  start_seen : start ∈ SortedMap.keys seen
  /-- What has been seen can be reached. -/
  reaches : ∀ name ∈ SortedMap.keys seen, net.Reaches start name
  /-- What has been seen has been visited or waits. -/
  length_eq : visits + waiting.length = (SortedMap.keys seen).length
  /-- What waits has been seen. -/
  waiting_seen : waiting ⊆ SortedMap.keys seen
  /-- What has been seen and does not wait has been visited. -/
  visited : ∀ name ∈ SortedMap.keys seen, name ∉ waiting → net.successors name ⊆ SortedMap.keys seen

theorem Searched.searching {start : String} {visits : Nat} {seen : SortedSet String}
    {waiting : List String} (hSearched : net.Searched start visits seen waiting)
    (hWired : Wired net.nodes net.channels) : net.Searching start visits seen waiting := by
  induction hSearched with
  | start =>
      have hOnly : ∀ {name}, name ∈ SortedMap.keys (SortedSet.add SortedMap.empty start) ↔
          name = start := SortedSet.mem_members_add.trans (or_iff_left List.not_mem_nil)
      refine ⟨hOnly.mpr rfl, fun name hName => ?_, rfl, fun name hName => ?_,
        fun name hName hGone => ?_⟩
      · rw [hOnly.mp hName]
        exact Relation.ReflTransGen.refl
      · exact hOnly.mpr (List.mem_singleton.mp hName)
      · exact absurd (List.mem_singleton.mpr (hOnly.mp hName)) hGone
  | @visit visits seen earlier later waiting name _ hWaiting ih =>
      have hVisited : name ∈ SortedMap.keys seen :=
        ih.waiting_seen (List.mem_append_right _ List.mem_cons_self)
      have hSeen : ∀ {other}, other ∈ SortedMap.keys ((net.unseen seen name).foldl SortedSet.add seen) ↔
          other ∈ net.unseen seen name ∨ other ∈ SortedMap.keys seen := SortedSet.mem_keys_foldl_add
      refine ⟨hSeen.mpr (Or.inr ih.start_seen), fun other hOther => ?_, ?_, fun other hOther => ?_,
        fun other hOther hGone target hTarget => hSeen.mpr ?_⟩
      · rcases hSeen.mp hOther with hNew | hOld
        · exact (ih.reaches name hVisited).tail
            ((mem_successors_iff hWired).mp (mem_unseen_iff.mp hNew).1)
        · exact ih.reaches other hOld
      · have hBefore := ih.length_eq
        have hNodup : (net.unseen seen name).Nodup := (net.nodup_successors name).filter _
        have hGrown := SortedSet.length_foldl_add hNodup fun other hNew => (mem_unseen_iff.mp hNew).2
        rw [hGrown, hWaiting.length_eq]
        simp only [List.length_append, List.length_cons] at hBefore ⊢
        omega
      · rcases List.mem_append.mp (hWaiting.mem_iff.mp hOther) with hNew | hOld
        · exact hSeen.mpr (Or.inl hNew)
        · refine hSeen.mpr (Or.inr (ih.waiting_seen ?_))
          exact (List.sublist_cons_self name later).append_left earlier |>.subset hOld
      · -- Whoever does not wait has been visited before or just now.
        by_cases hKnown : target ∈ SortedMap.keys seen
        · exact Or.inr hKnown
        · by_cases hNow : other = name
          · subst hNow
            exact Or.inl (mem_unseen_iff.mpr ⟨hTarget, hKnown⟩)
          · have hMoved : other ∉ net.unseen seen name ∧ other ∉ earlier ++ later := by
              rw [hWaiting.mem_iff, List.mem_append, not_or] at hGone
              exact hGone
            have hOld := (hSeen.mp hOther).resolve_left hMoved.1
            refine absurd (ih.visited other hOld ?_ hTarget) hKnown
            rw [List.mem_append, List.mem_cons, or_left_comm, not_or, ← List.mem_append]
            exact ⟨hNow, hMoved.2⟩

section Searches

variable {start name : String} {visits : Nat} {seen : SortedSet String} {waiting : List String}

theorem Searching.subset_nodes (hSearching : net.Searching start visits seen waiting)
    (hWired : Wired net.nodes net.channels) (hStart : start ∈ net.nodes.keys) :
    SortedMap.keys seen ⊆ net.nodes.keys := by
  intro name hName
  rcases Relation.ReflTransGen.cases_tail (hSearching.reaches name hName) with rfl | ⟨_, -, hLink⟩
  · exact hStart
  · exact hWired.target_known hLink

/-- No node is visited twice. -/
theorem Searched.visits_le (hSearched : net.Searched start visits seen waiting)
    (hWired : Wired net.nodes net.channels) (hStart : start ∈ net.nodes.keys) :
    visits + waiting.length ≤ net.nodes.size := by
  have hSearching := hSearched.searching hWired
  have hNodes : net.nodes.keys.length = net.nodes.size := List.length_map ..
  rw [hSearching.length_eq, ← hNodes]
  exact (List.subperm_of_subset seen.nodup_keys (hSearching.subset_nodes hWired hStart)).length_le

/-- A search at whose end nobody waits has seen what can be reached. -/
theorem Searched.mem_iff (hSearched : net.Searched start visits seen [])
    (hWired : Wired net.nodes net.channels) : name ∈ SortedMap.keys seen ↔ net.Reaches start name := by
  have hSearching := hSearched.searching hWired
  refine ⟨hSearching.reaches name, fun hReaches => ?_⟩
  induction hReaches with
  | refl => exact hSearching.start_seen
  | tail _ hLink ih =>
      exact hSearching.visited _ ih List.not_mem_nil ((mem_successors_iff hWired).mpr hLink)

/-! ### The search of a network -/

/-- With a step for each node that may still be visited, a search comes to its end. -/
theorem Searched.explore {steps : Nat} (hSearched : net.Searched start visits seen waiting)
    (hWired : Wired net.nodes net.channels) (hStart : start ∈ net.nodes.keys)
    (hSteps : net.nodes.size ≤ visits + steps) :
    ∃ last, net.Searched start last (net.explore steps seen waiting) [] := by
  induction steps generalizing visits seen waiting with
  | zero =>
      have hVisits := hSearched.visits_le hWired hStart
      obtain rfl := List.eq_nil_of_length_eq_zero (show waiting.length = 0 by omega)
      exact ⟨visits, hSearched⟩
  | succ steps ih =>
      cases waiting with
      | nil => exact ⟨visits, hSearched⟩
      | cons first rest =>
          have hFirst : net.Searched start visits seen ([] ++ first :: rest) := hSearched
          exact ih (hFirst.visit List.perm_append_comm) (by omega)

theorem searched_reachableFrom (hWired : Wired net.nodes net.channels)
    (hStart : start ∈ net.nodes.keys) :
    ∃ visits, net.Searched start visits (net.reachableFrom start) [] :=
  Searched.start.explore hWired hStart (by omega)

/-- The search finds the nodes that can be reached. -/
theorem mem_reachableFrom_iff (hWired : Wired net.nodes net.channels)
    (hStart : start ∈ net.nodes.keys) :
    name ∈ SortedMap.keys (net.reachableFrom start) ↔ net.Reaches start name := by
  obtain ⟨visits, hSearched⟩ := searched_reachableFrom hWired hStart
  exact hSearched.mem_iff hWired

/-- What the search has seen, it finds. -/
theorem mem_explore_of_mem {steps : Nat} (hSeen : name ∈ SortedMap.keys seen) :
    name ∈ SortedMap.keys (net.explore steps seen waiting) := by
  induction steps generalizing seen waiting with
  | zero => exact hSeen
  | succ steps ih =>
      cases waiting with
      | nil => exact hSeen
      | cons first rest => exact ih (SortedSet.mem_keys_foldl_add.mpr (Or.inr hSeen))

end Searches

theorem mem_unreachableFrom_iff {start name : String} :
    name ∈ net.unreachableFrom start ↔
      name ∈ net.nodes.keys ∧ name ∉ SortedMap.keys (net.reachableFrom start) := by
  unfold unreachableFrom
  rw [List.mem_filter, Bool.not_eq_true', Bool.eq_false_iff, ne_eq, SortedMap.contains_iff]
  rfl

/-- A snapshot starts at no node twice. -/
theorem nodup_starters (start : String) : (start :: net.unreachableFrom start).Nodup := by
  refine List.nodup_cons.mpr ⟨fun hMember => ?_, net.nodes.nodup_keys.filter _⟩
  refine (mem_unreachableFrom_iff.mp hMember).2 (mem_explore_of_mem ?_)
  exact SortedSet.mem_members_add.mpr (Or.inl rfl)

end Network

end TokenNet
