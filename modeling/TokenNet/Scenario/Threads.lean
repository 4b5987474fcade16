import TokenNet.Scenario.Run

namespace TokenNet

/-!
# Scripts in several threads

A script is carried out by a driver.  For every snapshot that it starts the driver hires a waiter, which
waits for the snapshot in a thread of its own and sends to the driver's mailbox what it has got.  When the
network has come to rest the driver takes as many results from the mailbox as there are waiters, and then
takes the snapshots away as the waiters end, in the order in which they were hired.  If the script fails
it gives the snapshots up, one after another, and lets each waiter end before it goes on.

`Crew.Step` lets either the driver make one call or one of the waiters do what it has to do next, in any
order.  A wait may end while a call is being made.  It yields then what it yields right after the call:
a call that completes a snapshot gives up none, and neither is ever taken back.
-/

/-- Why a script in several threads fails. -/
inductive CrewError where
  /-- The script fails in the way that it would in one thread. -/
  | scenario (error : ScenarioError)
  /-- The waiters are gone, and not all of them have told what they got. -/
  | disconnected
deriving DecidableEq, Repr

/-- The text of a failure. -/
def CrewError.message : CrewError → String
  | scenario error => error.message
  | disconnected => "snapshot waiter exited without reporting"

/-- The failure of a script because the network refuses. -/
def CrewError.network (error : NetworkError) : CrewError := .scenario (.network error)

/-- What a waiter has got: its snapshot, or the reason why there is none. -/
abbrev Finding : Type := Except NetworkError Snapshot

/-- How far a waiter has come. -/
inductive WaiterStage where
  /-- It waits for its snapshot. -/
  | waiting
  /-- The wait is over, but the driver has not been told. -/
  | holding (finding : Finding)
  /-- It has told the driver, and its thread has ended. -/
  | ended (finding : Finding)

/-- A thread that waits for a snapshot. -/
structure Waiter where
  /-- The claim on the snapshot. -/
  handle : Handle
  /-- How far the waiter has come. -/
  stage : WaiterStage

/-- Whether the thread of a waiter has ended. -/
def Waiter.hasEnded (waiter : Waiter) : Bool :=
  match waiter.stage with
  | .ended _ => true
  | _ => false

/-- What the driver has still to do. -/
inductive DriverStage where
  /-- Ticks of a command, then further commands. -/
  | performing (ticks : Nat) (commands : List Command)
  /-- Ticks until every snapshot is complete. -/
  | settling
  /-- So many last ticks. -/
  | passing (ticks : Nat)
  /-- So many results to take from the mailbox. -/
  | receiving (left : Nat) (received : List Snapshot)
  /-- The waiters from a place on have to end, and their snapshots to be taken away. -/
  | joining (place : Nat) (received : List Snapshot)
  /-- The script has failed, and the snapshots from a place on have to be given up. -/
  | abandoning (place : Nat) (error : CrewError)
  /-- The script has failed, and the waiter at a place, whose snapshot has been given up, has to end. -/
  | awaiting (place : Nat) (error : CrewError)
  /-- The script has come to its end. -/
  | finished (result : Except CrewError (List Snapshot))
  /-- A call has been cut short. -/
  | crashed (fault : Fault)

/-- The driver of a script and its waiters, and the network that they share. -/
structure Crew where
  /-- The network. -/
  net : Network
  /-- What the driver has still to do. -/
  stage : DriverStage
  /-- The waiters in the order in which they were hired. -/
  waiters : List Waiter
  /-- What waiters have sent and the driver has not taken yet, oldest first. -/
  mailbox : List Finding

namespace Network

/-- What ends the wait for a snapshot, as soon as anything does. -/
def finding? (net : Network) (handle : Handle) : Option Finding :=
  match net.waitOn handle with
  | some (.ready assembled) => some (.ok assembled)
  | some .abandoned => some (.error (.snapshotAbandoned handle.snapshot))
  | _ => none

/-- Starts a snapshot and asks for a handle on it. -/
def begin (node : String) : NetworkAction (Option Handle) := do
  let started ← control (.snapshot node)
  match started with
  | none => return none
  | some snapshot => do
      let given ← handle snapshot
      return some given

end Network

namespace Crew

/-- A driver that has carried out nothing yet. -/
def start (commands : List Command) (net : Network) : Crew where
  net := net
  stage := .performing 0 commands
  waiters := []
  mailbox := []

/-- The driver makes a call and goes on with what it leaves.  If the call is refused the script has
failed. -/
def carryOut {α : Type} (crew : Crew) (call : NetworkAction α) (next : α → Crew → Crew) : Crew :=
  match call crew.net with
  | .done value after => next value { crew with net := after }
  | .refused error after => { crew with net := after, stage := .abandoning 0 (.network error) }
  | .faulted fault => { crew with stage := .crashed fault }

/-- The driver turns to what it has to do next. -/
def goOn (crew : Crew) (stage : DriverStage) : Crew := { crew with stage := stage }

/-- A waiter is hired for a snapshot that has been started. -/
def hire (given : Option Handle) (crew : Crew) : Crew :=
  { crew with waiters := crew.waiters ++ given.toList.map fun handle => ⟨handle, .waiting⟩ }

/-- Snapshots in the order of their numbers. -/
def sorted (snapshots : List Snapshot) : List Snapshot :=
  snapshots.mergeSort fun earlier later => earlier.id ≤ later.id

/-- Takes a result from the mailbox.  Nothing can be taken while the mailbox is empty and some waiter
has not ended. -/
def receive (crew : Crew) (left : Nat) (received : List Snapshot) : Option Crew :=
  match crew.mailbox with
  | .ok assembled :: rest =>
      some { crew with mailbox := rest, stage := .receiving left (received ++ [assembled]) }
  | .error error :: rest =>
      some { crew with mailbox := rest, stage := .finished (.error (.network error)) }
  | [] =>
      if crew.waiters.all Waiter.hasEnded then some (crew.goOn (.finished (.error .disconnected)))
      else none

/-- Takes the snapshot of a waiter away that has ended. -/
def join (crew : Crew) (waiter : Waiter) (place : Nat) (received : List Snapshot) : Option Crew :=
  if waiter.hasEnded then
    match Network.release waiter.handle.snapshot crew.net with
    | .done _ after => some { crew with net := after, stage := .joining (place + 1) received }
    | .refused error after =>
        some { crew with net := after, stage := .finished (.error (.network error)) }
    | .faulted fault => some (crew.goOn (.crashed fault))
  else none

/-- What the driver does next, unless it has to wait or has come to its end. -/
def drive? (crew : Crew) : Option Crew :=
  match crew.stage with
  | .performing (ticks + 1) commands =>
      some (crew.carryOut Network.tick fun _ after => after.goOn (.performing ticks commands))
  | .performing 0 (.send source target tokens :: rest) =>
      some (crew.carryOut (Network.control (.passToken source target tokens)) fun _ after =>
        after.goOn (.performing 0 rest))
  | .performing 0 (.snapshot node :: rest) =>
      some (crew.carryOut (Network.begin node) fun given after =>
        (after.hire given).goOn (.performing 0 rest))
  | .performing 0 (.tick count :: rest) => some (crew.goOn (.performing count.toNat rest))
  | .performing 0 [] => some (crew.goOn .settling)
  | .settling =>
      let outstanding := crew.net.outstanding
      if outstanding.isEmpty then some (crew.goOn (.passing (crew.net.maxDelay.toNat + 1)))
      else if crew.net.pending = 0 then some (crew.goOn (.abandoning 0 (.scenario (.stalled outstanding))))
      else some (crew.carryOut Network.tick fun _ after => after.goOn .settling)
  | .passing (ticks + 1) =>
      some (crew.carryOut Network.tick fun _ after => after.goOn (.passing ticks))
  | .passing 0 => some (crew.goOn (.receiving crew.waiters.length []))
  | .receiving (left + 1) received => crew.receive left received
  | .receiving 0 received => some (crew.goOn (.joining 0 received))
  | .joining place received =>
      match crew.waiters[place]? with
      | some waiter => crew.join waiter place received
      | none => some (crew.goOn (.finished (.ok (sorted received))))
  | .abandoning place error =>
      match crew.waiters[place]? with
      | some waiter =>
          some { crew with
            net := Network.abandon [waiter.handle.snapshot] crew.net
            stage := .awaiting place error }
      | none => some (crew.goOn (.finished (.error error)))
  | .awaiting place error =>
      match crew.waiters[place]? with
      | some waiter => if waiter.hasEnded then some (crew.goOn (.abandoning (place + 1) error)) else none
      | none => none
  | .finished _ => none
  | .crashed _ => none

/-- One of the threads takes a step. -/
inductive Step : Crew → Crew → Prop where
  /-- The driver goes on. -/
  | drive {crew after : Crew} (hDrive : crew.drive? = some after) : Step crew after
  /-- The wait of a waiter ends. -/
  | wake {net : Network} {stage : DriverStage} {earlier later : List Waiter} {mailbox : List Finding}
      {handle : Handle} {finding : Finding} (hWake : net.finding? handle = some finding) :
      Step ⟨net, stage, earlier ++ ⟨handle, .waiting⟩ :: later, mailbox⟩
        ⟨net, stage, earlier ++ ⟨handle, .holding finding⟩ :: later, mailbox⟩
  /-- A waiter sends what it has got, and its thread ends. -/
  | send {net : Network} {stage : DriverStage} {earlier later : List Waiter} {mailbox : List Finding}
      {handle : Handle} {finding : Finding} :
      Step ⟨net, stage, earlier ++ ⟨handle, .holding finding⟩ :: later, mailbox⟩
        ⟨net, stage, earlier ++ ⟨handle, .ended finding⟩ :: later, mailbox ++ [finding]⟩

/-- How the script has ended, once it has. -/
def ending? (crew : Crew) : Option (Outcome Network CrewError (List Snapshot)) :=
  match crew.stage with
  | .finished (.ok snapshots) => some (.done snapshots crew.net)
  | .finished (.error error) => some (.refused error crew.net)
  | .crashed fault => some (.faulted fault)
  | _ => none

end Crew

end TokenNet
