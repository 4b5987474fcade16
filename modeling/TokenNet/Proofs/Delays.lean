import TokenNet.Proofs.CompleteJournal
import TokenNet.Proofs.TwinCalls

namespace TokenNet

/-!
# Without delays the seed does not matter

A delay below one is no delay.  Networks whose bound on delays is at most one therefore draw the same
delays, whatever the states of their generators are, and as the generator is asked for nothing else no
call can tell them apart (`Network.seed_irrelevant`).  A bound of zero leaves the generator alone.
-/

/-- Below a bound of at most one there is only zero. -/
theorem Generator.below_eq_zero (generator : Generator) {bound : UInt64} (hBound : bound ≤ 1) :
    (generator.below bound).1 = 0 := by
  have hBelow := generator.toNat_below bound
  have hSmall : bound.toNat ≤ 1 := UInt64.le_iff_toNat_le.mp hBound
  rw [max_eq_left hSmall] at hBelow
  exact UInt64.toNat_inj.mp (Nat.le_zero.mp (Nat.le_of_succ_le_succ hBelow))

/-- Below zero nothing is drawn. -/
theorem Generator.below_zero (generator : Generator) : generator.below 0 = (0, generator) := if_pos rfl

namespace Network

/-! ### Parts without delays -/

/-- Parts of a network with the bound of a configuration; if it is zero, the generator is still the one
of the seed. -/
structure Parts.Prompt (config : Config) (parts : Parts) : Prop where
  /-- The bound on delays is the one of the configuration. -/
  maxDelay_eq : parts.maxDelay = config.maxDelay
  /-- If nothing is drawn, the generator does not change. -/
  still : config.maxDelay = 0 → parts.generator = Generator.ofSeed config.seed

/-- Parts that differ at most in the generator and the bound, each as its configuration has it. -/
structure Parts.Unhurried (config config' : Config) (parts other : Parts) : Prop where
  /-- The bound is the one of the one configuration. -/
  prompt : parts.Prompt config
  /-- The other bound is the one of the other configuration. -/
  prompt' : other.Prompt config'
  /-- The links are the same. -/
  links_eq : parts.links = other.links
  /-- The same collectors are in use. -/
  collectors_eq : parts.collectors = other.collectors
  /-- The same collectors have been taken away. -/
  retired_eq : parts.retired = other.retired

/-- Networks that differ at most in the generator and the bound on delays. -/
abbrev Unhurried (config config' : Config) : Network → Network → Prop :=
  Twins Eq (Parts.Unhurried config config')

variable {config config' : Config} {net other last : Network}

/-- Drawing a delay does not move a generator if the bound is zero. -/
theorem Parts.Prompt.drawn {parts : Parts} (hPrompt : parts.Prompt config) :
    Parts.Prompt config { parts with generator := (parts.generator.below parts.maxDelay).2 } := by
  refine ⟨hPrompt.maxDelay_eq, fun hZero => ?_⟩
  show (parts.generator.below parts.maxDelay).2 = _
  rw [hPrompt.maxDelay_eq, hZero, Generator.below_zero]
  exact hPrompt.still hZero

/-- If both bounds are at most one, both draw the delay zero. -/
theorem full_unhurried (hDelay : config.maxDelay ≤ 1) (hDelay' : config'.maxDelay ≤ 1) :
    Congruence.Full Eq (Parts.Unhurried config config') where
  outbound_eq hNode := by rw [hNode]
  send _ _ := Action.respects_eq _
  start _ := Action.respects_eq _
  receive _ _ := Action.respects_eq _
  delay_eq hParts := by
    rw [hParts.prompt.maxDelay_eq, hParts.prompt'.maxDelay_eq, Generator.below_eq_zero _ hDelay,
      Generator.below_eq_zero _ hDelay']
  drawn hParts := { hParts with prompt := hParts.prompt.drawn, prompt' := hParts.prompt'.drawn }
  collectors_eq hParts := hParts.collectors_eq
  retired_eq hParts := hParts.retired_eq
  collected _ _ hParts := ⟨⟨hParts.prompt.maxDelay_eq, hParts.prompt.still⟩,
    ⟨hParts.prompt'.maxDelay_eq, hParts.prompt'.still⟩, hParts.links_eq, rfl, rfl⟩

theorem growing_unhurried (config config' : Config) :
    Growing Eq (Parts.Unhurried config config') where
  create _ _ := rfl
  outbound_eq hNode := by rw [hNode]
  addOutbound hParts hNode _ := by rw [hNode, hParts.links_eq]
  addInbound hParts hNode _ := by rw [hNode, hParts.links_eq]
  pushed hParts link := ⟨⟨hParts.prompt.maxDelay_eq, hParts.prompt.still⟩,
    ⟨hParts.prompt'.maxDelay_eq, hParts.prompt'.still⟩,
    congrArg (Array.push · link) hParts.links_eq, hParts.collectors_eq, hParts.retired_eq⟩

/-! ### Building -/

theorem unhurried_empty (config config' : Config) :
    Unhurried config config' (empty config.seed config.maxDelay)
      (empty config'.seed config'.maxDelay) :=
  ⟨rfl, rfl, rfl, rfl, rfl, rfl, node_of_nodes_eq rfl,
    ⟨⟨rfl, fun _ => rfl⟩, ⟨rfl, fun _ => rfl⟩, rfl, rfl, rfl⟩⟩

/-- Changes one after another that may be refused are refused alike or lead to related networks, if
each of them does. -/
theorem Agreeing.foldlM {α : Type} {R : Network → Network → Prop}
    {change : Network → α → Except NetworkError Network} (items : List α)
    (hChange : ∀ item net other, R net other → Agreeing R (change net item) (change other item))
    (hRelated : R net other) : Agreeing R (items.foldlM change net) (items.foldlM change other) := by
  induction items generalizing net other with
  | nil => exact hRelated
  | cons item rest ih =>
      rw [List.foldlM_cons, List.foldlM_cons]
      have hFirst := hChange item net other hRelated
      cases hNet : change net item <;> cases hOther : change other item <;>
        rw [hNet, hOther] at hFirst <;> first | exact hFirst.elim | skip
      · exact hFirst
      · exact ih hFirst

/-- Configurations with the same nodes and links are accepted or refused alike. -/
theorem agreeing_ofConfig (hNodes : config.nodes = config'.nodes)
    (hLinks : config.links = config'.links) :
    Agreeing (Unhurried config config') (ofConfig config) (ofConfig config') := by
  have hGrowing := growing_unhurried config config'
  have hAdded := Agreeing.foldlM config'.nodes
    (fun node _ _ hTwins => hGrowing.withNode hTwins node) (unhurried_empty config config')
  unfold ofConfig
  rw [hNodes, hLinks]
  cases hNet : config'.nodes.foldlM withNode (empty config.seed config.maxDelay) <;>
    cases hOther : config'.nodes.foldlM withNode (empty config'.seed config'.maxDelay) <;>
    rw [hNet, hOther] at hAdded <;> first | exact hAdded.elim | skip
  · exact hAdded
  · exact Agreeing.foldlM config'.links (fun link _ _ hTwins => hGrowing.withLink hTwins link) hAdded

/-! ### Histories -/

/-- Two networks that are the same but for the generator and the bound on delays. -/
def SameButDelays (net other : Network) : Prop :=
  other = { net with generator := other.generator, maxDelay := other.maxDelay }

/-- What has become of a network without delays. -/
structure Undelayed (config : Config) (last : Network) : Prop where
  /-- If the bound is zero, the generator is still the one of the seed. -/
  still : config.maxDelay = 0 → last.generator = Generator.ofSeed config.seed
  /-- What was sent became due at the next tick. -/
  due_eq : ∀ tick parcel, .sent tick parcel ∈ last.journal.toList →
    parcel.due.toNat = tick.toNat + 1

theorem Unhurried.sameButDelays (hTwins : Unhurried config config' net other) :
    SameButDelays net other := by
  have hNodes := hTwins.nodes_eq
  obtain ⟨hClock, hChannels, hNext, hJournal, hRejected, hStarted, -, -, -, hLinks, hUsed, hTaken⟩ :=
    hTwins
  cases net
  cases other
  simp_all [SameButDelays, parts]

theorem undelayed_of_history {calls : List Call} {replies : List Reply}
    (hDelay : config.maxDelay ≤ 1) (hBuilt : ofConfig config = .ok net)
    (hHistory : net.history calls = .ok (replies, last)) (hPrompt : last.parts.Prompt config) :
    Undelayed config last := by
  refine ⟨hPrompt.still, fun tick parcel hSent => ?_⟩
  have hJournaled := (course_of_built hBuilt hHistory).journaled
  obtain ⟨hEarliest, hLatest⟩ : tick.toNat + 1 ≤ parcel.due.toNat ∧
      parcel.due.toNat ≤ tick.toNat + max 1 config.maxDelay.toNat := hJournaled.punctual _ hSent
  have hSmall : config.maxDelay.toNat ≤ 1 := UInt64.le_iff_toNat_le.mp hDelay
  rw [max_eq_left hSmall] at hLatest
  exact Nat.le_antisymm hLatest hEarliest

/-- Two configurations with the same nodes and links and with bounds of at most one are accepted or
refused alike, whatever their seeds are.  If they are accepted, no calls can tell their networks apart:
the same calls are cut short by the same fault or answered alike, and leave networks that are the same
but for the generator and the bound. -/
theorem seed_irrelevant (hNodes : config.nodes = config'.nodes) (hLinks : config.links = config'.links)
    (hDelay : config.maxDelay ≤ 1) (hDelay' : config'.maxDelay ≤ 1) (calls : List Call) :
    Agreeing (fun net other =>
        Alike (fun last final => SameButDelays last final ∧ Undelayed config last ∧
          Undelayed config' final) (net.history calls) (other.history calls))
      (ofConfig config) (ofConfig config') := by
  have hAgreeing := agreeing_ofConfig hNodes hLinks
  have hCalls : ∀ call, Action.Respects (Unhurried config config') (answer call) :=
    (full_unhurried hDelay hDelay').respects_answer (growing_unhurried config config')
  cases hBuilt : ofConfig config <;> cases hOther : ofConfig config' <;>
    rw [hBuilt, hOther] at hAgreeing <;> first | exact hAgreeing.elim | exact hAgreeing | skip
  refine (alike_history calls hCalls hAgreeing).of_ok
    fun replies last final hHistory hFinal hTwins => ⟨hTwins.sameButDelays, ?_, ?_⟩
  · exact undelayed_of_history hDelay hBuilt hHistory hTwins.parts.prompt
  · exact undelayed_of_history hDelay' hOther hFinal hTwins.parts.prompt'

/-- The sample configuration without delays. -/
def promptConfig : Config := { pairConfig with maxDelay := 0 }

/-- The same network with another seed, whose generator moves at every message. -/
def promptTwin : Config := { pairConfig with seed := 7, maxDelay := 1 }

/-- In the sample history the one generator stays where it is and the other one moves on; both
networks hand out the same two snapshots and write the same journal. -/
theorem seed_irrelevant_pair :
    ∃ net other replies last final, ofConfig promptConfig = .ok net ∧
      ofConfig promptTwin = .ok other ∧ net.history pairCalls = .ok (replies, last) ∧
      other.history pairCalls = .ok (replies, final) ∧
      (replies.filterMap Reply.snapshot?).length = 2 ∧ last.journal.size = 24 ∧
      final.generator ≠ other.generator ∧ SameButDelays last final ∧ Undelayed promptConfig last ∧
      Undelayed promptTwin final := by
  obtain ⟨net, replies, last, hBuilt, hHistory, hCheck⟩ := exists_of_played?
    (show (played? promptConfig pairCalls).any (fun outcome =>
      decide ((outcome.2.1.filterMap Reply.snapshot?).length = 2 ∧
        outcome.2.2.journal.size = 24)) = true by decide +kernel)
  obtain ⟨other, replies', final, hOther, hFinal, hMoved⟩ := exists_of_played?
    (show (played? promptTwin pairCalls).any (fun outcome =>
      decide (outcome.2.2.generator ≠ outcome.1.generator)) = true by decide +kernel)
  have hAlike := @seed_irrelevant promptConfig promptTwin rfl rfl (by decide) (by decide)
  rw [hBuilt, hOther] at hAlike
  have hLast : Alike _ (net.history pairCalls) (other.history pairCalls) := hAlike pairCalls
  rw [hHistory, hFinal] at hLast
  obtain ⟨rfl, hSame, hStill, hStill'⟩ := hLast
  rw [decide_eq_true_iff] at hCheck hMoved
  exact ⟨net, other, replies, last, final, hBuilt, hOther, hHistory, hFinal, hCheck.1, hCheck.2,
    hMoved, hSame, hStill, hStill'⟩

end Network

end TokenNet
