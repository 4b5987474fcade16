import TokenNet.Form.Channel
import TokenNet.Form.Clock
import TokenNet.Form.Journal
import TokenNet.Form.Network
import TokenNet.Form.Node
import TokenNet.Json.Parser
import TokenNet.Main
import TokenNet.Network.Call
import TokenNet.Proofs.Conservation
import TokenNet.Proofs.Draining
import TokenNet.Snapshot.Digest
import TokenNet.SortedMap.Lookup
import TokenNet.Proofs.Mirror
import TokenNet.Proofs.Balances
import TokenNet.Proofs.CompleteJournal
import TokenNet.Proofs.Markers
import TokenNet.Proofs.Recordings
import TokenNet.Proofs.MarkerAccounting
import TokenNet.Proofs.Overflows
import TokenNet.Proofs.Objections
import TokenNet.Proofs.Refusals
import TokenNet.Proofs.LiveConservation
import TokenNet.Proofs.Renumbering
import TokenNet.Proofs.Configurations
import TokenNet.Proofs.Asides
import TokenNet.Proofs.Custody
import TokenNet.Proofs.Settling
import TokenNet.Proofs.ScriptEnds
import TokenNet.Scenario.Threads
import TokenNet.Proofs.Crews
import TokenNet.Proofs.CrewSteps
import TokenNet.Proofs.ScriptThreads
import TokenNet.Proofs.Sums
import TokenNet.Proofs.Turns
import TokenNet.Proofs.Drained
import TokenNet.Proofs.Names
import TokenNet.Proofs.Fixtures
import TokenNet.Proofs.Latch
import TokenNet.Proofs.Starting
import TokenNet.Proofs.Alone
import TokenNet.Proofs.Annals
import TokenNet.Proofs.Recounts
import TokenNet.Proofs.Recorded
import TokenNet.Proofs.Comparison
import TokenNet.Proofs.Construction
import TokenNet.Proofs.ArenaConstruction
import TokenNet.Proofs.ArenaRenaming
import TokenNet.Proofs.Failures
import TokenNet.Proofs.Endings
import TokenNet.Proofs.Tracing
import TokenNet.Proofs.Announcements
import TokenNet.Proofs.Assembly
import TokenNet.Proofs.FixtureTexts
import TokenNet.Proofs.TopologyTexts
import TokenNet.Proofs.ScriptTexts
import TokenNet.Proofs.Delays
import TokenNet.Proofs.Draws
import TokenNet.Proofs.Directories
import TokenNet.Proofs.Printed
import TokenNet.Proofs.Verdict
import TokenNet.Proofs.Spellings
import TokenNet.Proofs.JsonTexts
import TokenNet.Proofs.JsonForms
import TokenNet.Proofs.LosslessForms
