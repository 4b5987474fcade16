import TokenNet.CommandLine.Directory
import TokenNet.CommandLine.Options
import TokenNet.Form.Snapshot
import TokenNet.Scenario.Fixture
import TokenNet.Scenario.Run
import TokenNet.Scenario.Topology
import TokenNet.Snapshot.Comparison

namespace TokenNet
namespace CommandLine

/-!
# Running the command line

The topology and the script are read and run, the snapshots are printed, and then
checked: the tokens have to add up, and the expected snapshots have to match those
of the run, taken in order.  The exit code is zero exactly if no check failed.
-/

/-- What a run of the command line leaves behind. -/
structure Transcript where
  /-- The exit code. -/
  exit : Nat
  /-- What was printed. -/
  output : String
  /-- The errors, one text each. -/
  errors : List String
deriving DecidableEq, Repr

/-- Why no snapshots can be shown. -/
inductive Failure where
  /-- There is an error to report. -/
  | error (text : String)
  /-- The run was cut short. -/
  | fault (fault : Fault)
deriving DecidableEq, Repr

/-- Reads and parses a file.  What goes wrong is reported under its name. -/
def load {α : Type} (files : Files) (parse : String → Except ParseError α) (name : String) :
    Except String α :=
  match files name with
  | .error reason => .error (name ++ ": " ++ reason)
  | .ok text =>
      match parse text with
      | .error error => .error (name ++ ": " ++ error.message)
      | .ok value => .ok value

/-- Builds the network and runs the script.  Yields the tokens that the network
started with, and the snapshots. -/
def play (config : Config) (commands : List Command) :
    Except Failure (UInt64 × List Snapshot) :=
  match Network.ofConfig config with
  | .error error => .error (.error error.message)
  | .ok net =>
      match net.totalTokens with
      | .error fault => .error (.fault fault)
      | .ok total =>
          match Scenario.runScript commands net with
          | .done snapshots _ => .ok (total, snapshots)
          | .refused error _ => .error (.error error.message)
          | .faulted fault => .error (.fault fault)

/-- Loads what the options name and runs it. -/
def simulate (files : Files) (options : Options) :
    Except Failure (UInt64 × List Snapshot) := do
  let config ← (load files Scenario.parseTopology options.topology).mapError .error
  let commands ← (load files Scenario.parseScript options.events).mapError .error
  play (config.override options.seed options.maxDelay) commands

/-- The text of a snapshot on the output. -/
def printed (json : Bool) (snapshot : Snapshot) : String :=
  if json then JsonForm.pretty snapshot ++ "\n" else snapshot.text

/-- Compares snapshots with expected ones.  A file that cannot be read or parsed is
the last one looked at. -/
def compareAll (files : Files) : List (String × Snapshot) → List String
  | [] => []
  | (name, snapshot) :: rest =>
      match load files Scenario.parseSnapshot name with
      | .error text => [text]
      | .ok expected =>
          match snapshot.mismatch? expected with
          | some mismatch => mismatch.message :: compareAll files rest
          | none => compareAll files rest

/-- The error of expecting more snapshots than there are. -/
def countErrors (expected actual : Nat) : List String :=
  if expected > actual then
    ["Fewer snapshots than expected expected=" ++ Text.decimal expected ++ " actual=" ++
      Text.decimal actual]
  else []

/-- All that the checks find. -/
def check (files : Files) (expected : List String) (total : UInt64)
    (snapshots : List Snapshot) : Except Fault (List String) := do
  let unconserved ← Snapshot.findUnconserved total snapshots
  return (unconserved.map ConservationError.message).toList ++
    countErrors expected.length snapshots.length ++ compareAll files (expected.zip snapshots)

/-- The exit code after a fault. -/
def faultExit : Nat := 101

/-- The exit code for arguments that cannot be understood. -/
def invalidExit : Nat := 2

/-- Runs what the options name, prints the snapshots and checks them. -/
def runOptions (files : Files) (options : Options) : Transcript :=
  match simulate files options with
  | .error (.error text) => ⟨1, "", [text]⟩
  | .error (.fault fault) => ⟨faultExit, "", [fault.message]⟩
  | .ok (total, snapshots) =>
      -- What is printed does not depend on what the checks find.
      let output := String.join (snapshots.map (printed options.json))
      match check files options.expected total snapshots with
      | .error fault => ⟨faultExit, output, [fault.message]⟩
      | .ok errors => ⟨if errors.isEmpty then 0 else 1, output, errors⟩

/-- The name of the program and its version. -/
def versionText : String := "snapshot-sim 0.1.0\n"

/-- The help text. -/
def helpText : String :=
  "Chandy–Lamport snapshot simulator\n\n" ++
  "Usage: snapshot-sim [OPTIONS] --topology <TOPOLOGY> --events <EVENTS>\n\n" ++
  "Options:\n" ++
  "  -t, --topology <TOPOLOGY>    Topology file (.top)\n" ++
  "  -e, --events <EVENTS>        Event script (.events)\n" ++
  "      --seed <SEED>            Seed for delivery jitter\n" ++
  "      --max-delay <MAX_DELAY>  Delivery jitter is drawn from [0, max_delay); 0 disables it\n" ++
  "      --expected <EXPECTED>    Expected snapshot files (.snap), matched to snapshots in ID order\n" ++
  "      --json                   Print snapshots as JSON instead of text\n" ++
  "  -h, --help                   Print help\n" ++
  "  -V, --version                Print version\n"

/-- Runs the command line. -/
def run (files : Files) (arguments : List String) : Transcript :=
  match request arguments with
  | .run options => runOptions files options
  | .help => ⟨0, helpText, []⟩
  | .version => ⟨0, versionText, []⟩
  | .invalid => ⟨invalidExit, "", ["invalid arguments"]⟩

end CommandLine
end TokenNet
