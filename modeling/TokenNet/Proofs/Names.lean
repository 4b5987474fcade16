import TokenNet.Proofs.Balances
import TokenNet.Proofs.Configurations
import TokenNet.Proofs.Conservation
import TokenNet.Proofs.Custody
import TokenNet.Proofs.Fixtures

namespace TokenNet

/-!
# Names in snapshots

A name in a completed snapshot is the name of a node: balances belong to nodes, and every transfer
that a node has written down came on a link (`Cut.Delivered`).  No node is ever added under a name
that cannot stand as a field (`Network.Run.isNodeName_of_mem`), so the fixture text of a completed
snapshot can be read.  The check of names lets through those that open with a number sign, however,
and the lines of these are taken for comments (`Network.fixtures_read_back`).
-/

/-! ### Transfers come from links -/

/-- Every transfer that a node has written down came on a link. -/
def Cut.Delivered (cut : Cut) : Prop :=
  ∀ name part, cut.part name = some part → ∀ transfer ∈ part.inFlight,
    cut.linked transfer.link = true

/-- A node writes down only what is delivered to it, and a node that takes part has nothing written
down yet. -/
theorem Cut.Delivered.step {snapshot : SnapshotId} {cut after : Cut} {happenings : List Happening}
    (hDelivered : cut.Delivered) (hAccounted : cut.Accounted)
    (hStep : Cut.Step snapshot cut happenings after) : after.Delivered := by
  intro name part hPart transfer hMember
  have hJoined : ∀ {joined joining}, joining.inFlight = [] →
      (if joined = name then some joining else cut.part name) = some part →
        cut.linked transfer.link = true := by
    intro joined joining hEmpty hFound
    split at hFound
    · cases hFound
      simp [hEmpty] at hMember
    · exact hDelivered name part hFound transfer hMember
  cases hStep with
  | addLink link hIdle => exact absurd (hPart.symm.trans (hIdle name)) (by simp)
  | deliver hFlow hBalance hSum =>
      obtain ⟨old, hOld, rfl⟩ := Cut.Tallied.part_noteAt hPart
      split at hMember
      · rcases Part.mem_inFlight_note hMember with hBefore | ⟨rfl, -⟩
        · exact hDelivered name old hOld transfer hBefore
        · exact hAccounted.linked_of_flow hFlow
      · exact hDelivered name old hOld transfer hMember
  | join hIdle hBalance hEmpty hAwaits => exact hJoined hEmpty hPart
  | first hFlow hIdle hBalance hEmpty hAwaits => exact hJoined hEmpty hPart
  | next hFlow hFound =>
      obtain ⟨old, hOld, -, hSame, -⟩ := Cut.Tallied.part_see hFound hPart
      exact hDelivered name old hOld transfer (hSame ▸ hMember)
  | _ => exact hDelivered name part hPart transfer hMember

namespace Network

variable {net after last : Network} {happenings trace : List Happening} {snapshot : SnapshotId}

theorem Run.delivered (hRun : Run net trace after) (hFresh : net.Fresh) (hHonest : Honest trace)
    (snapshot : SnapshotId) : (after.cut snapshot).Delivered := by
  induction hRun with
  | start =>
      intro name part hPart
      exact absurd (hPart.symm.trans (hFresh.part?_eq_none snapshot name)) (by simp)
  | step hEarlier hStep ih =>
      obtain ⟨hBefore, hNow⟩ := honest_append.mp hHonest
      have hWell := hEarlier.wellFormed hFresh.wellFormed
      have hReached := hEarlier.reached hFresh hBefore snapshot
      exact (ih hBefore).step hReached.accounted ((hStep.change hWell).cut hWell hNow)

theorem Reachable.delivered (hReachable : net.Reachable) (snapshot : SnapshotId) :
    (net.cut snapshot).Delivered := by
  obtain ⟨start, tokens, hFresh, trace, hRun, hHonest, -⟩ := hReachable
  exact hRun.delivered hFresh hHonest snapshot

/-- The transfers of a completed snapshot came on links between nodes. -/
theorem WellFormed.mem_nodeNames {assembled : Snapshot} {transfer : Transfer}
    (hWell : net.WellFormed) (hDelivered : (net.cut snapshot).Delivered)
    (hCompleted : net.completed? snapshot = some assembled)
    (hTransfer : transfer ∈ assembled.messages) :
    transfer.source ∈ net.nodeNames ∧ transfer.target ∈ net.nodeNames := by
  obtain ⟨collector, hFound, -, rfl⟩ := hWell.completed?_eq_some_iff.mp hCompleted
  obtain ⟨report, hReport, hPositive⟩ := List.mem_flatMap.mp hTransfer
  obtain ⟨name, hName⟩ := SortedMap.mem_values_iff.mp hReport
  have hLinked : net.channels.contains transfer.link = true :=
    hDelivered name _ (part?_of_reported hFound hName) transfer (List.mem_of_mem_filter hPositive)
  exact ⟨hWell.wired.source_known hLinked, hWell.wired.target_known hLinked⟩

/-! ### Nodes have names -/

theorem isField_of_isNodeName {name : String} (hName : isNodeName name = true) :
    Text.IsField name.toList := by
  simpa [isNodeName, Text.IsField] using hName

/-- Whatever is added under a name, the name can name a node. -/
theorem Step.isNodeName_of_opened {name : String} {tokens : UInt64} (hStep : Step net happenings after)
    (hOpened : .opened name tokens ∈ happenings) : isNodeName name = true := by
  cases hStep with
  | addNode hAdd =>
      obtain ⟨rfl, -⟩ : name = _ ∧ tokens = _ := by simpa using hOpened
      exact (withNode_eq_ok_iff.mp hAdd).2.1
  | deliver hTake hDeliver => exact absurd (inner_arrival _ _ _ hOpened) (by simp [Happening.isInner])
  | _ => simp at hOpened

theorem Run.isNodeName_of_opened {name : String} {tokens : UInt64} (hRun : Run net trace after)
    (hOpened : .opened name tokens ∈ trace) : isNodeName name = true := by
  induction hRun with
  | start => simp at hOpened
  | step hEarlier hStep ih =>
      rcases List.mem_append.mp hOpened with hBefore | hNow
      · exact ih hBefore
      · exact hStep.isNodeName_of_opened hNow

/-- Every node of a network that is made from a configuration has a proper name. -/
theorem Run.isNodeName_of_mem {config : Config} {name : String} (hRun : Run net trace last)
    (hBuilt : ofConfig config = .ok net) (hName : name ∈ last.nodeNames) :
    isNodeName name = true := by
  obtain ⟨building, hBuilding, -⟩ := course_ofConfig hBuilt
  have hWhole := hBuilding.trans hRun
  rcases hWhole.known (fresh_empty _ _) hName with hNone | ⟨tokens, hOpened⟩
  · exact absurd hNone List.not_mem_nil
  · exact hWhole.isNodeName_of_opened hOpened

/-! ### Reading snapshots back -/

/-- The names in a completed snapshot are those of nodes, so its fixture can be read. -/
theorem WellFormed.writable {assembled : Snapshot} (hWell : net.WellFormed)
    (hDelivered : (net.cut snapshot).Delivered)
    (hNames : ∀ name ∈ net.nodeNames, isNodeName name = true)
    (hCompleted : net.completed? snapshot = some assembled) : assembled.Writable := by
  constructor
  · intro name hName
    rw [hWell.keys_balances hCompleted] at hName
    exact isField_of_isNodeName (hNames name hName)
  · intro transfer hTransfer
    have hEnds := hWell.mem_nodeNames hDelivered hCompleted hTransfer
    exact isField_of_isNodeName (hNames transfer.source hEnds.1)
  · intro transfer hTransfer
    have hEnds := hWell.mem_nodeNames hDelivered hCompleted hTransfer
    exact isField_of_isNodeName (hNames transfer.target hEnds.2)

/-- A completed snapshot has nothing that is taken for a comment exactly if the network has no
node whose name is. -/
theorem WellFormed.uncommented_eq_self_iff {assembled : Snapshot} (hWell : net.WellFormed)
    (hDelivered : (net.cut snapshot).Delivered)
    (hCompleted : net.completed? snapshot = some assembled) :
    assembled.uncommented = assembled ↔ ∀ name ∈ net.nodeNames, opensComment name = false := by
  rw [Snapshot.uncommented_eq_self_iff, hWell.keys_balances hCompleted]
  constructor
  · exact fun hBoth => hBoth.1
  · intro hNodes
    constructor
    · exact hNodes
    · intro transfer hTransfer
      exact hNodes transfer.source (hWell.mem_nodeNames hDelivered hCompleted hTransfer).1

/-- The fixture text of every snapshot that is completed in a session can be read, whatever has been
asked.  What is read is the snapshot without the nodes whose names open with a number sign, and
without what these have sent: it is the whole snapshot exactly if no node has such a name. -/
theorem fixtures_read_back {config : Config} {requests : List Request} {responses : List Response}
    (hBuilt : ofConfig config = .ok net) (hOwn : ∀ request ∈ requests, request.isNotify = false)
    (hSession : net.session requests = .ok (responses, last)) (assembled : Snapshot)
    (hHanded : assembled ∈ (receipts requests responses).handed ∨
      ∃ snapshot, last.completed? snapshot = some assembled) :
    Scenario.parseSnapshot assembled.fixture = .ok assembled.uncommented ∧
      (Scenario.parseSnapshot assembled.fixture = .ok assembled ↔
        ∀ name ∈ last.nodeNames, opensComment name = false) := by
  have hFresh := fresh_ofConfig hBuilt
  obtain ⟨hConfirms, trace, hRun⟩ := hFresh.wellFormed.confirms_of_session hSession
  have hCompleted : ∃ snapshot, last.completed? snapshot = some assembled :=
    hHanded.elim (fun hMember => ⟨_, (hConfirms.handed assembled hMember).2⟩) id
  obtain ⟨snapshot, hCompleted⟩ := hCompleted
  have hReachable := reachable_of_session hBuilt hOwn hSession
  have hWell := hReachable.wellFormed
  have hDelivered := hReachable.delivered snapshot
  have hNames : ∀ name ∈ last.nodeNames, isNodeName name = true := fun name hName =>
    hRun.isNodeName_of_mem hBuilt hName
  have hRead := Scenario.parseSnapshot_fixture (hWell.writable hDelivered hNames hCompleted)
  constructor
  · exact hRead
  · rw [hRead, Except.ok.injEq]
    exact hWell.uncommented_eq_self_iff hDelivered hCompleted

/-- Three nodes, one of which has a name that opens with a number sign. -/
def signConfig : Config where
  seed := 1
  maxDelay := 1
  nodes := [⟨"#A", 5⟩, ⟨"B", 3⟩, ⟨"C", 2⟩]
  links := [⟨"#A", "B"⟩, ⟨"B", "C"⟩, ⟨"C", "#A"⟩]

/-- A script that starts a snapshot with tokens under way, after a call that has sent some. -/
def signRequests : List Request :=
  [.call (.send "C" "#A" 1), .script [.send "#A" "B" 2, .snapshot "B"]]

/-- The snapshot that the script yields is read without the node whose name opens with a number sign,
and without the transfer from this node. -/
theorem fixtures_read_back_sign :
    ∃ net responses last assembled, ofConfig signConfig = .ok net ∧
      net.session signRequests = .ok (responses, last) ∧
      assembled ∈ (receipts signRequests responses).handed ∧
      assembled.balances.keys = ["#A", "B", "C"] ∧ assembled.messages = [⟨"#A", "B", 2⟩] ∧
      Scenario.parseSnapshot assembled.fixture = .ok assembled.uncommented ∧
      assembled.uncommented.balances.keys = ["B", "C"] ∧ assembled.uncommented.messages = [] ∧
      Scenario.parseSnapshot assembled.fixture ≠ .ok assembled := by
  have hPerforms : (performed? signConfig signRequests).any (fun outcome =>
      (receipts signRequests outcome.2.1).handed.any fun assembled =>
        decide (assembled.balances.keys = ["#A", "B", "C"] ∧
          assembled.messages = [⟨"#A", "B", 2⟩] ∧
          assembled.uncommented.balances.keys = ["B", "C"] ∧
          assembled.uncommented.messages = [] ∧
          ¬ ∀ name ∈ outcome.2.2.nodeNames, opensComment name = false)) = true := by
    decide +kernel
  obtain ⟨net, responses, last, hBuilt, hSession, hSnapshot⟩ := exists_of_performed? hPerforms
  obtain ⟨assembled, hHanded, hChecks⟩ := List.any_eq_true.mp hSnapshot
  obtain ⟨hKeys, hMessages, hReadKeys, hReadMessages, hSign⟩ := of_decide_eq_true hChecks
  obtain ⟨hRead, hSame⟩ :=
    fixtures_read_back hBuilt (by decide) hSession assembled (Or.inl hHanded)
  exact ⟨net, responses, last, assembled, hBuilt, hSession, hHanded, hKeys, hMessages, hRead,
    hReadKeys, hReadMessages, fun hWhole => hSign (hSame.mp hWhole)⟩

end Network
end TokenNet
