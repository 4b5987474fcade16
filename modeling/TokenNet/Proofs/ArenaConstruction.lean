import TokenNet.Proofs.ArenaQuestions
import TokenNet.Proofs.Construction
import TokenNet.Proofs.Objections

namespace TokenNet

/-!
# Building arenas

An arena is built of the same configurations as a network, and refused for the same entries
(`Arena.built_and_consistent`).  Whatever calls are made of it, refused or not, it goes on
representing a network, so that its index, its nodes and its channels go on telling one graph.
Therefore no handle and no number is ever looked up in vain: only sums that do not fit cut a call
short.
-/

namespace Arena

variable {arena last : Arena} {config : Config} {error : NetworkError}

/-! ### Building -/

theorem exists_network_of_done (hBuilt : ofConfig config = .done () arena) :
    ∃ net, Network.ofConfig config = .ok net ∧ arena.Represents net := by
  have hSame := built_ofConfig config
  cases hNetwork : Network.ofConfig config with
  | ok net =>
      rw [hNetwork] at hSame
      obtain ⟨twin, hDone, hRepresents⟩ := hSame
      cases hBuilt.symm.trans hDone
      exact ⟨net, rfl, hRepresents⟩
  | error error =>
      rw [hNetwork] at hSame
      obtain ⟨left, hRefused⟩ := hSame
      cases hBuilt.symm.trans hRefused

theorem exists_arena_of_ok {net : Network} (hBuilt : Network.ofConfig config = .ok net) :
    ∃ arena, ofConfig config = .done () arena ∧ arena.Represents net := by
  have hSame := built_ofConfig config
  rwa [hBuilt] at hSame

/-- An arena is built exactly if a network is. -/
theorem exists_done_iff :
    (∃ arena, ofConfig config = .done () arena) ↔ config.Sound := by
  rw [← Network.exists_ofConfig_iff]
  constructor
  · rintro ⟨arena, hBuilt⟩
    obtain ⟨net, hNetwork, -⟩ := exists_network_of_done hBuilt
    exact ⟨net, hNetwork⟩
  · rintro ⟨net, hNetwork⟩
    obtain ⟨arena, hBuilt, -⟩ := exists_arena_of_ok hNetwork
    exact ⟨arena, hBuilt⟩

/-- An arena is refused exactly for what a network is. -/
theorem exists_refused_iff :
    (∃ left, ofConfig config = .refused error left) ↔ config.Objection error := by
  have hSame := built_ofConfig config
  rw [← Network.ofConfig_eq_error_iff]
  cases hNetwork : Network.ofConfig config with
  | ok net =>
      rw [hNetwork] at hSame
      obtain ⟨arena, hDone, -⟩ := hSame
      rw [hDone]
      simp
  | error cause =>
      rw [hNetwork] at hSame
      obtain ⟨left, hRefused⟩ := hSame
      rw [hRefused]
      simp

/-- Building is never cut short. -/
theorem ofConfig_ne_faulted (fault : Fault) : ofConfig config ≠ .faulted fault := by
  intro hFaulted
  have hSame := built_ofConfig config
  cases hNetwork : Network.ofConfig config with
  | ok net =>
      rw [hNetwork] at hSame
      obtain ⟨arena, hDone, -⟩ := hSame
      cases hFaulted.symm.trans hDone
  | error cause =>
      rw [hNetwork] at hSame
      obtain ⟨left, hRefused⟩ := hSame
      cases hFaulted.symm.trans hRefused

/-! ### Histories -/

variable {calls : List Call} {replies : List Reply}

/-- Calls leave an arena that represents what they make of a network. -/
theorem exists_network_of_history (hBuilt : ofConfig config = .done () arena)
    (hHistory : arena.history calls = .ok (replies, last)) :
    ∃ net final, Network.ofConfig config = .ok net ∧ net.history calls = .ok (replies, final) ∧
      last.Represents final := by
  obtain ⟨net, hNetwork, hRepresents⟩ := exists_network_of_done hBuilt
  have hAlike := hRepresents.alike_history calls
  rw [hHistory] at hAlike
  cases hOther : net.history calls with
  | error fault =>
      rw [hOther] at hAlike
      exact hAlike.elim
  | ok outcome =>
      rw [hOther] at hAlike
      obtain ⟨rfl, hLast⟩ := hAlike
      exact ⟨net, outcome.2, hNetwork, hOther, hLast⟩

/-- Only a sum that does not fit cuts calls short; in particular no place is looked up that an array
does not have. -/
theorem overflow_of_history {fault : Fault} (hBuilt : ofConfig config = .done () arena)
    (hFault : arena.history calls = .error fault) : fault = .overflow := by
  obtain ⟨net, hNetwork, hRepresents⟩ := exists_network_of_done hBuilt
  have hAlike := hRepresents.alike_history calls
  rw [hFault] at hAlike
  cases hOther : net.history calls with
  | ok outcome =>
      rw [hOther] at hAlike
      exact hAlike.elim
  | error cause =>
      rw [hOther] at hAlike
      obtain rfl : fault = cause := hAlike
      exact (Network.Attained.of_fresh (Network.fresh_ofConfig hNetwork)).history_overflows hOther

/-- An arena is built exactly if all names have a character and none that is white space, no two
nodes share a name, and the links join different nodes of these and are all different; any other
configuration is refused for its first entry that cannot be added to those before it.  Whatever
calls are made of an arena that has been built, reports from outside included, its index, its nodes
and its channels go on telling one graph, and no place is looked up that an array does not have. -/
theorem built_and_consistent (config : Config) :
    ((∃ arena, ofConfig config = .done () arena) ↔
      (∀ node ∈ config.nodes, node.name ≠ "" ∧ ∀ c ∈ node.name.toList, Text.isBlank c = false) ∧
      (config.nodes.map InitialNode.name).Nodup ∧
      (∀ link ∈ config.links, link.source ∈ config.nodes.map InitialNode.name ∧
        link.target ∈ config.nodes.map InitialNode.name ∧ link.source ≠ link.target) ∧
      config.links.Nodup) ∧
    (∀ error, (∃ left, ofConfig config = .refused error left) ↔ config.Objection error) ∧
    (∀ fault, ofConfig config ≠ .faulted fault) ∧
    ∀ arena calls, ofConfig config = .done () arena →
      (∀ replies last, arena.history calls = .ok (replies, last) → last.Consistent) ∧
      ∀ fault, arena.history calls = .error fault → fault = .overflow := by
  refine ⟨?_, fun error => exists_refused_iff, ofConfig_ne_faulted, fun arena calls hBuilt =>
    ⟨fun replies last hHistory => ?_, fun fault hFault => overflow_of_history hBuilt hFault⟩⟩
  · rw [exists_done_iff]
    simp only [← Network.isNodeName_iff]
    exact ⟨fun hSound => ⟨hSound.valid, hSound.distinct, hSound.joins, hSound.unique⟩,
      fun ⟨hValid, hDistinct, hJoins, hUnique⟩ => ⟨hValid, hDistinct, hJoins, hUnique⟩⟩
  · obtain ⟨_, _, -, -, hRepresents⟩ := exists_network_of_history hBuilt hHistory
    exact hRepresents.consistent

/-- The arena of a configuration, and what calls make of it. -/
def played? (config : Config) (calls : List Call) : Option (Arena × List Reply × Arena) :=
  match ofConfig config with
  | .done _ arena =>
      match arena.history calls with
      | .ok (replies, last) => some (arena, replies, last)
      | .error _ => none
  | _ => none

/-- A check of what calls make of the arena of a configuration, put together with what they make. -/
theorem exists_of_played? {check : Arena × List Reply × Arena → Bool}
    (hPlays : (played? config calls).any check = true) :
    ∃ arena replies last, ofConfig config = .done () arena ∧
      arena.history calls = .ok (replies, last) ∧ check (arena, replies, last) = true := by
  unfold played? at hPlays
  cases hBuilt : ofConfig config <;> simp only [hBuilt] at hPlays
  · rename_i arena
    cases hHistory : arena.history calls with
    | error fault =>
        rw [hHistory] at hPlays
        cases hPlays
    | ok outcome =>
        rw [hHistory] at hPlays
        exact ⟨arena, outcome.1, outcome.2, rfl, hHistory, hPlays⟩
  · cases hPlays
  · cases hPlays

/-- Calls that add a node and a link, among them some that are refused and a report from outside. -/
def additionCalls : List Call :=
  [.addNode "C" 2, .addLink "B" "C", .addLink "A" "B", .startSnapshot "A", .notify ⟨0, "C", 7, []⟩,
    .addLink "C" "A", .send "B" "C" 3, .tick, .tick]

/-- The node and the link that have been added in them have got the next handle and number. -/
theorem built_and_consistent_pair :
    ∃ arena replies last, ofConfig pairConfig = .done () arena ∧
      arena.history additionCalls = .ok (replies, last) ∧ last.index.get? "C" = some 2 ∧
      last.outboundNumber? "B" "C" = some 2 ∧ last.channels.size = 3 ∧ last.Consistent := by
  obtain ⟨arena, replies, last, hBuilt, hHistory, hCheck⟩ := exists_of_played?
    (show (played? pairConfig additionCalls).any (fun outcome =>
      decide (outcome.2.2.index.get? "C" = some 2) &&
        decide (outcome.2.2.outboundNumber? "B" "C" = some 2) &&
        decide (outcome.2.2.channels.size = 3)) = true by decide +kernel)
  rw [Bool.and_eq_true, Bool.and_eq_true, decide_eq_true_iff, decide_eq_true_iff,
    decide_eq_true_iff] at hCheck
  obtain ⟨⟨hHandle, hNumber⟩, hSize⟩ := hCheck
  obtain ⟨-, -, -, hLater⟩ := built_and_consistent pairConfig
  obtain ⟨hConsistent, -⟩ := hLater arena additionCalls hBuilt
  exact ⟨arena, replies, last, hBuilt, hHistory, hHandle, hNumber, hSize,
    hConsistent replies last hHistory⟩

end Arena

end TokenNet
