import TokenNet.Arena.Traffic

namespace TokenNet

/-!
# Actions that keep to the books

The clock, the generator, the collectors and the journal are the books of a network
(`Network.books`).  An action keeps to them if it does the same whatever nodes and channels there
are, and leaves these alone (`Network.KeepsToBooks`).  All that concerns the collection of snapshots
does, and so do the actions that draw delays, write the journal and move the clock.
-/

/-! ### Changing the state of an outcome -/

namespace Outcome

variable {σ τ υ ε α : Type}

theorem mapState_mapState (f : σ → τ) (g : τ → υ) (outcome : Outcome σ ε α) :
    (outcome.mapState f).mapState g = outcome.mapState fun state => g (f state) := by
  cases outcome <;> rfl

end Outcome

namespace Network

variable {α β : Type}

/-- The network with other books. -/
def withBooks (net : Network) (books : Books) : Network :=
  { net with
    clock := books.clock
    generator := books.generator
    maxDelay := books.maxDelay
    nextSnapshot := books.nextSnapshot
    collectors := books.collectors
    retired := books.retired
    journal := books.journal
    rejected := books.rejected
    started := books.started }

/-- An action that does the same whatever nodes and channels there are, and leaves these alone. -/
def KeepsToBooks (action : NetworkAction α) : Prop :=
  ∀ net, action net = (action net.books.network).mapState fun after => net.withBooks after.books

/-! ### Combinators -/

theorem keepsToBooks_pure (value : α) : KeepsToBooks (pure value) := fun _ => rfl

theorem keepsToBooks_ofExcept (result : Except Fault α) :
    KeepsToBooks (Action.ofExcept result) := fun _ => by
  cases result <;> rfl

theorem keepsToBooks_read {view : Network → α} (hView : ∀ net, view net = view net.books.network) :
    KeepsToBooks (Action.read view) := fun net =>
  congrArg (fun value => Outcome.done value net) (hView net)

theorem keepsToBooks_update {change : Network → Network}
    (hChange : ∀ net, change net = net.withBooks (change net.books.network).books) :
    KeepsToBooks (Action.update change) := fun net => congrArg (Outcome.done ()) (hChange net)

theorem KeepsToBooks.bind {first : NetworkAction α} {next : α → NetworkAction β}
    (hFirst : KeepsToBooks first) (hNext : ∀ value, KeepsToBooks (next value)) :
    KeepsToBooks (first >>= next) := by
  intro net
  show Action.bind first next net = (Action.bind first next net.books.network).mapState _
  unfold Action.bind
  rw [hFirst net]
  cases first net.books.network with
  | done value after =>
      -- What comes next sees the books that the first action leaves, with or without nodes.
      show next value (net.withBooks after.books) = (next value after).mapState _
      rw [hNext value (net.withBooks after.books), hNext value after, Outcome.mapState_mapState]
      rfl
  | refused error after => rfl
  | faulted fault => rfl

/-! ### Drawing, writing and counting -/

theorem keepsToBooks_freeze : KeepsToBooks freeze := keepsToBooks_update fun _ => rfl

theorem keepsToBooks_record (event : UInt64 → Event) : KeepsToBooks (record event) :=
  keepsToBooks_update fun _ => rfl

theorem keepsToBooks_receiveTime : KeepsToBooks receiveTime := by
  have hDraw : KeepsToBooks drawDelay := fun _ => rfl
  refine (keepsToBooks_read fun _ => rfl).bind fun tick => ?_
  refine (keepsToBooks_ofExcept _).bind fun earliest => ?_
  exact hDraw.bind fun delay => keepsToBooks_ofExcept _

theorem keepsToBooks_allocate : KeepsToBooks allocate := by
  refine (keepsToBooks_read fun _ => rfl).bind fun snapshot => ?_
  refine (keepsToBooks_ofExcept _).bind fun next => ?_
  exact (keepsToBooks_update fun _ => rfl).bind fun _ => keepsToBooks_pure snapshot

theorem keepsToBooks_reject (source target : String) (snapshot : SnapshotId) :
    KeepsToBooks (reject source target snapshot) :=
  (keepsToBooks_update fun _ => rfl).bind fun _ => keepsToBooks_record _

theorem keepsToBooks_advance : KeepsToBooks advance := by
  refine (keepsToBooks_read fun _ => rfl).bind fun clock => ?_
  exact (keepsToBooks_ofExcept _).bind fun after => keepsToBooks_update fun _ => rfl

/-! ### Collecting -/

theorem collectors_network (net : Network) : net.books.network.collectors = net.collectors := rfl

theorem keepsToBooks_callCollector (snapshot : SnapshotId)
    (call : Action Collector NetworkError α) : KeepsToBooks (callCollector snapshot call) := by
  intro net
  unfold callCollector
  rw [collectors_network]
  cases net.collectors.get? snapshot with
  | none => rfl
  | some collector =>
      dsimp only
      cases call collector <;> rfl

theorem keepsToBooks_notify (report : Report) : KeepsToBooks (notify report) := by
  refine (keepsToBooks_callCollector _ _).bind fun complete => ?_
  exact (keepsToBooks_record _).bind fun _ => keepsToBooks_pure complete

theorem keepsToBooks_handle (snapshot : SnapshotId) : KeepsToBooks (handle snapshot) := by
  intro net
  unfold handle
  rw [collectors_network]
  cases net.collectors.get? snapshot <;> rfl

theorem keepsToBooks_tryCollect (snapshot : SnapshotId) : KeepsToBooks (tryCollect snapshot) := by
  intro net
  unfold tryCollect
  rw [collectors_network]
  cases net.collectors.get? snapshot with
  | none => rfl
  | some collector =>
      dsimp only
      cases collector.assemble? <;> rfl

theorem keepsToBooks_collect (snapshot : SnapshotId) : KeepsToBooks (collect snapshot) := by
  intro net
  unfold collect
  rw [collectors_network]
  cases net.collectors.get? snapshot with
  | none => rfl
  | some collector =>
      dsimp only
      cases collector.wait <;> rfl

theorem keepsToBooks_release (snapshot : SnapshotId) : KeepsToBooks (release snapshot) := by
  intro net
  unfold release
  rw [collectors_network]
  cases net.collectors.get? snapshot with
  | none => rfl
  | some collector =>
      dsimp only
      cases collector.isComplete <;> rfl

theorem keepsToBooks_abandon (snapshots : List SnapshotId) :
    KeepsToBooks (Action.update (abandon snapshots)) := keepsToBooks_update fun _ => rfl

end Network

end TokenNet
