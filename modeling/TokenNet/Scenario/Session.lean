import TokenNet.Network.Call
import TokenNet.Scenario.Run

namespace TokenNet

/-!
# Sessions

What can be asked of a network in the long run: single calls, and scripts that are carried out as a
whole.  A session goes on after a request that is refused; a fault ends it.
-/

/-- What can be asked of a network. -/
inductive Request where
  /-- Make a call. -/
  | call (call : Call)
  /-- Run a script. -/
  | script (commands : List Command)
deriving DecidableEq, Repr

/-- What becomes of a request. -/
inductive Response where
  /-- What became of a call. -/
  | replied (reply : Reply)
  /-- The snapshots that a script yields, or why it failed. -/
  | ran (result : Except ScenarioError (List Snapshot))

namespace Network

/-- Does what is requested and goes on with the state that it leaves. -/
def respond : Request → Network → Except Fault (Response × Network)
  | .call call, net => do
      let (reply, after) ← net.reply call
      return (.replied reply, after)
  | .script commands, net =>
      match Scenario.runScript commands net with
      | .done snapshots after => .ok (.ran (.ok snapshots), after)
      | .refused error after => .ok (.ran (.error error), after)
      | .faulted fault => .error fault

/-- Does what is requested, one after another.  Yields what became of each request, and the last
state. -/
def session : List Request → Network → Except Fault (List Response × Network)
  | [], net => .ok ([], net)
  | request :: rest, net => do
      let (first, middle) ← net.respond request
      let (later, last) ← middle.session rest
      return (first :: later, last)

end Network

end TokenNet
