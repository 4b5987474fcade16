import TokenNet.Proofs.Balances
import TokenNet.Proofs.Courses

namespace TokenNet

/-!
# The journal is complete

From the journal of a network everything can be told about the messages on its links and the tokens of
its nodes (`Network.Journaled`), after any history of calls, reports from outside included
(`Network.journal_complete`): links are first in, first out, nothing is lost, repeated or early, and
every balance is what the node was added with, changed by the transfers in the journal.
-/

namespace Network

variable {net last : Network}

/-- What the journal tells, in a network to which the given nodes have been added. -/
structure Journaled (initials : List InitialNode) (maxDelay : UInt64) (net : Network) : Prop where
  /-- What was sent on a link is, in order, what has come, none of it before it was due, and then
  what is under way. -/
  flow : ∀ link, ∃ come, parcelsOn link net.journal.toList = come ++ net.channels.queue link ∧
    List.Forall₂ Parcel.CameAs come (arrivalsOn link net.journal.toList)
  /-- What is sent becomes due in time. -/
  punctual : ∀ event ∈ net.journal.toList, event.Punctual maxDelay
  /-- A node holds what it was added with, less what it sent, and what it received on top. -/
  balance : ∀ initial ∈ initials, ∃ node, net.nodes.get? initial.name = some node ∧
    node.tokens.toNat + Ledger.spent initial.name net.journal.transfers =
      initial.tokens.toNat + Ledger.earned initial.name net.journal.transfers
  /-- There are no other nodes. -/
  known : ∀ name ∈ net.nodeNames, ∃ initial ∈ initials, initial.name = name
  /-- Events are written in the order of their ticks. -/
  ordered : net.journal.toList.Pairwise fun earlier later => earlier.tick ≤ later.tick
  /-- No event is ahead of the clock. -/
  past : ∀ event ∈ net.journal.toList, event.tick ≤ net.tickNow
  /-- The markers that were turned down are counted. -/
  rejected_eq : net.rejected = net.journal.toList.countP Event.isRejection

/-- On a course from the empty network everything is told. -/
theorem Course.journaled {seed maxDelay : UInt64} {initials : List InitialNode}
    (hCourse : (Network.empty seed maxDelay).Course initials net) :
    net.Journaled initials maxDelay := by
  have hFresh := fresh_empty seed maxDelay
  obtain ⟨trace, hRun, rfl⟩ := hCourse
  obtain ⟨events, hTells⟩ := hRun.tells hFresh.wellFormed
  -- Nothing had been written before, so the events are the whole journal.
  obtain rfl : net.journal.toList = events := hTells.toList_journal
  refine ⟨hTells.flow, hTells.punctual, fun initial hInitial => ?_, fun name hName => ?_,
    hTells.ordered, fun event hEvent => (hTells.meantime event hEvent).2, ?_⟩
  · exact hRun.balance hFresh (mem_opened_iff.mp hInitial)
  · rcases hRun.known hFresh hName with hNone | ⟨tokens, hOpened⟩
    · exact absurd hNone List.not_mem_nil
    · exact ⟨⟨name, tokens⟩, mem_opened_iff.mpr hOpened, rfl⟩
  · exact hTells.rejected_eq.trans (Nat.zero_add _)

/-- The journal is complete whatever the calls are and in whatever order they come. -/
theorem journal_complete {config : Config} {calls : List Call} {replies : List Reply}
    (hBuilt : ofConfig config = .ok net) (hHistory : net.history calls = .ok (replies, last)) :
    last.Journaled (config.nodes ++ accepted calls replies) config.maxDelay :=
  (course_of_built hBuilt hHistory).journaled

/-- Calls that add a node, start a snapshot, and hand in a report in the name of a node that has not
taken part yet, so that markers on their way to it are turned down. -/
def forgedCalls : List Call :=
  [.addNode "C" 2, .addLink "B" "C", .send "A" "B" 1, .startSnapshot "A",
    .notify ⟨0, "B", 9, [⟨"A", "B", 4⟩]⟩, .notify ⟨0, "B", 9, []⟩, .send "B" "C" 3, .tick, .tick,
    .tick, .tick, .receiveTime, .startSnapshot "B", .tick, .tryCollect 0]

/-- The journal of the sample history tells of its three nodes, although a marker is turned down. -/
theorem journal_complete_forged :
    ∃ net replies last, ofConfig pairConfig = .ok net ∧
      net.history forgedCalls = .ok (replies, last) ∧ last.rejected = 1 ∧ last.journal.size = 12 ∧
      last.Journaled [⟨"A", 5⟩, ⟨"B", 3⟩, ⟨"C", 2⟩] 3 := by
  have hPlays : (played? pairConfig forgedCalls).any (fun outcome =>
      decide (accepted forgedCalls outcome.2.1 = [⟨"C", 2⟩]) &&
      decide (outcome.2.2.rejected = 1) && decide (outcome.2.2.journal.size = 12)) = true := by
    decide +kernel
  obtain ⟨net, replies, last, hBuilt, hHistory, hChecks⟩ := exists_of_played? hPlays
  simp only [Bool.and_eq_true, decide_eq_true_eq] at hChecks
  obtain ⟨⟨hAccepted, hRejected⟩, hSize⟩ := hChecks
  have hJournaled := journal_complete hBuilt hHistory
  rw [hAccepted] at hJournaled
  exact ⟨net, replies, last, hBuilt, hHistory, hRejected, hSize, hJournaled⟩

end Network

end TokenNet
