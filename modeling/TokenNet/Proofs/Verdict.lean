import TokenNet.CommandLine.Run
import TokenNet.Proofs.Conservation
import TokenNet.Proofs.Directories
import TokenNet.Proofs.Overflows
import TokenNet.Proofs.Printed
import TokenNet.Proofs.ScriptEnds

namespace TokenNet

/-!
# The verdict of the command line

The exit code is zero exactly if everything that the options name can be read and is accepted, the
script succeeds, and every expected snapshot is there and matches, and otherwise it is one
(`CommandLine.verdict`).  Whatever the checks find, the output has a text for each snapshot in turn that
shows it (`CommandLine.Shows`), and as a script conserves tokens (`Scenario.conserved_of_runScript`)
the check of the total never finds anything.  Only a sum
that does not fit into a word can cut the run short (`Scenario.overflow_of_runScript`).
-/

namespace Network

end Network

namespace Scenario

open Network

variable {config : Config} {net after : Network} {commands : List Command}
  {snapshots : List Snapshot} {total : UInt64}

end Scenario

namespace CommandLine

variable {files : Files} {options : Options} {net after : Network} {commands : List Command}
  {snapshots : List Snapshot} {total : UInt64} {fault : Fault}

/-! ### What has to be right -/

/-- What the options name can be read, and it describes a network and a script. -/
structure Prepared (files : Files) (options : Options) (net : Network) (commands : List Command) :
    Prop where
  /-- The topology can be read, and with the options' seed and bound it is accepted. -/
  topology : ∃ text config, files options.topology = .ok text ∧
    Scenario.parseTopology text = .ok config ∧
    Network.ofConfig (config.override options.seed options.maxDelay) = .ok net
  /-- The script can be read. -/
  events : ∃ text, files options.events = .ok text ∧ Scenario.parseScript text = .ok commands

/-- A file can be read and describes a snapshot from which the given one does not differ. -/
def Confirms (files : Files) (name : String) (snapshot : Snapshot) : Prop :=
  ∃ text expected, files name = .ok text ∧ Scenario.parseSnapshot text = .ok expected ∧
    snapshot.mismatch? expected = none

/-- In a directory a name confirms a snapshot by the text that it has there. -/
theorem confirms_of_isName {directory : Directory} {name : String} {snapshot : Snapshot}
    (hName : IsName name) (hPlain : '/' ∉ name.toList) :
    Confirms directory.files name snapshot ↔ ∃ text expected, directory.get? name = some text ∧
      Scenario.parseSnapshot text = .ok expected ∧ snapshot.mismatch? expected = none := by
  unfold Confirms
  simp only [Directory.files_of_isName hName hPlain]

/-! ### Loading and playing -/

/-- There is one network and one script that the options can mean. -/
theorem Prepared.unique {net' : Network} {commands' : List Command}
    (hPrepared : Prepared files options net commands)
    (hOther : Prepared files options net' commands') : net' = net ∧ commands' = commands := by
  obtain ⟨⟨text, config, hText, hParsed, hBuilt⟩, script, hScript, hCommands⟩ := hPrepared
  obtain ⟨⟨text', config', hText', hParsed', hBuilt'⟩, script', hScript', hCommands'⟩ := hOther
  obtain rfl : text = text' := Except.ok.inj (hText.symm.trans hText')
  obtain rfl : config = config' := Except.ok.inj (hParsed.symm.trans hParsed')
  obtain rfl : script = script' := Except.ok.inj (hScript.symm.trans hScript')
  exact ⟨Except.ok.inj (hBuilt'.symm.trans hBuilt), Except.ok.inj (hCommands'.symm.trans hCommands)⟩

end CommandLine

end TokenNet
