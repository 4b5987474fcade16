import Mathlib.Order.Defs.Unbundled
import TokenNet.Proofs.Calls
import TokenNet.Proofs.Endings

namespace TokenNet

/-!
# What an action leaves alone

`Action.Keeps R` says that, whatever becomes of an action, the state that it leaves is related by
`R` to the one that it was called on.  The rules for preorders carry it through the
combinators.  Whatever a tick does spares the nodes, the links and the collectors
(`Network.Spares`), but for the reports that are handed in.  So a relation that can be traced
through what spares all that and through reports can be traced through ticks
(`Network.Tracing.tick`), together with the snapshots that are said to have become complete.
-/

namespace Action

variable {σ ε η α β : Type} {R : σ → σ → Prop}

/-- The state that an action leaves, whether or not it is refused, is related to the one that it was
called on. -/
def Keeps (R : σ → σ → Prop) (action : Action σ ε α) : Prop :=
  ∀ state, (action state).Meets (fun _ after => R state after) fun _ after => R state after

theorem keeps_update {change : σ → σ} (hChange : ∀ state, R state (change state)) :
    Keeps R (update change : Action σ ε Unit) := hChange

theorem Keeps.mono {R' : σ → σ → Prop} {action : Action σ ε α} (hKeeps : Keeps R action)
    (hWeaker : ∀ {state after}, R state after → R' state after) : Keeps R' action :=
  fun state => (hKeeps state).mono (fun _ _ => hWeaker) fun _ _ => hWeaker

section Preorder

variable [Std.Refl R]

theorem keeps_pure (value : α) : Keeps R (Pure.pure value : Action σ ε α) :=
  fun state => Std.Refl.refl state

theorem keeps_read (view : σ → α) : Keeps R (read view : Action σ ε α) :=
  fun state => Std.Refl.refl state

theorem keeps_refuse (error : ε) : Keeps R (refuse error : Action σ ε α) :=
  fun state => Std.Refl.refl state

theorem keeps_ofExcept (result : Except Fault α) : Keeps R (ofExcept result : Action σ ε α) :=
  fun state => meets_ofExcept fun _ _ => Std.Refl.refl state

end Preorder

/-- What an action leaves is related to whatever its state is related to. -/
theorem Keeps.meets [IsTrans σ R] {action : Action σ ε α} {state between : σ}
    (hKeeps : Keeps R action) (hBetween : R state between) :
    (action between).Meets (fun _ after => R state after) fun _ after => R state after :=
  (hKeeps between).mono (fun _ _ hLast => IsTrans.trans _ _ _ hBetween hLast)
    fun _ _ hLast => IsTrans.trans _ _ _ hBetween hLast

theorem Keeps.bind [IsTrans σ R] {first : Action σ ε α} {next : α → Action σ ε β}
    (hFirst : Keeps R first) (hNext : ∀ value, Keeps R (next value)) :
    Keeps R (first >>= next) :=
  fun state => meets_bind (hFirst state) fun value _ hBetween => (hNext value).meets hBetween

theorem Keeps.mapError {action : Action σ ε α} (rename : ε → η) (hAction : Keeps R action) :
    Keeps R (Action.mapError rename action) :=
  fun state => meets_mapError (hAction state)

theorem Keeps.ite {condition : Prop} [Decidable condition] {yes no : Action σ ε α}
    (hYes : Keeps R yes) (hNo : Keeps R no) : Keeps R (if condition then yes else no) :=
  fun state => meets_ite (fun _ => hYes state) fun _ => hNo state

end Action

namespace Network

/-! ### What is spared -/

/-- The nodes, the links and the bound on delays stay, no snapshot is started, taken away or given
up, and no part of a snapshot is handed in. -/
structure Spares (net after : Network) : Prop where
  /-- The nodes are the same. -/
  keys_eq : after.nodes.keys = net.nodes.keys
  /-- The links are the same. -/
  links_eq : after.links = net.links
  /-- Delays have the same bound. -/
  maxDelay_eq : after.maxDelay = net.maxDelay
  /-- No snapshot is started. -/
  nextSnapshot_eq : after.nextSnapshot = net.nextSnapshot
  /-- No report is taken, and no snapshot is given up. -/
  collectors_eq : after.collectors = net.collectors
  /-- No snapshot is taken away. -/
  retired_eq : after.retired = net.retired
  /-- Nothing is told of parts handed in. -/
  endings_eq : endings after.journal.toList = endings net.journal.toList

instance : Std.Refl Spares := ⟨fun _ => ⟨rfl, rfl, rfl, rfl, rfl, rfl, rfl⟩⟩

instance : IsTrans Network Spares where
  trans _ _ _ hEarlier hLater :=
    ⟨hLater.keys_eq.trans hEarlier.keys_eq, hLater.links_eq.trans hEarlier.links_eq,
      hLater.maxDelay_eq.trans hEarlier.maxDelay_eq,
      hLater.nextSnapshot_eq.trans hEarlier.nextSnapshot_eq,
      hLater.collectors_eq.trans hEarlier.collectors_eq,
      hLater.retired_eq.trans hEarlier.retired_eq, hLater.endings_eq.trans hEarlier.endings_eq⟩

theorem spares_freeze : Action.Keeps Spares freeze :=
  Action.keeps_update fun _ => ⟨rfl, rfl, rfl, rfl, rfl, rfl, rfl⟩

theorem spares_record {event : UInt64 → Event} (hOther : ∀ tick, (event tick).ended? = none) :
    Action.Keeps Spares (record event) := by
  refine Action.keeps_update fun net => ⟨rfl, rfl, rfl, rfl, rfl, rfl, ?_⟩
  have hNone : endings [event net.tickNow] = [] := by simp [endings, hOther]
  rw [Journal.toList_write, endings_append, hNone, List.append_nil]

theorem spares_requireLink (link : Link) : Action.Keeps Spares (requireLink link) := by
  intro net
  unfold requireLink
  split <;> exact Std.Refl.refl net

theorem spares_callNode {α : Type} (name : String) (call : Action Node NodeError α) :
    Action.Keeps Spares (callNode name call) := by
  intro net
  unfold callNode
  cases hNode : net.nodes.get? name with
  | none => exact Std.Refl.refl net
  | some node =>
      have hKeys : ∀ after, (net.nodes.insert name after).keys = net.nodes.keys := fun _ =>
        SortedMap.keys_insert_of_mem (SortedMap.mem_keys_of_get? hNode)
      cases hOutcome : call node <;> simp only [hOutcome]
      · exact ⟨hKeys _, rfl, rfl, rfl, rfl, rfl, rfl⟩
      · exact Std.Refl.refl net
      · exact True.intro

theorem spares_drawDelay : Action.Keeps Spares drawDelay :=
  fun _ => ⟨rfl, rfl, rfl, rfl, rfl, rfl, rfl⟩

theorem spares_receiveTime : Action.Keeps Spares receiveTime := by
  refine (Action.keeps_read tickNow).bind fun tick => ?_
  refine (Action.keeps_ofExcept _).bind fun earliest => ?_
  exact spares_drawDelay.bind fun delay => Action.keeps_ofExcept _

theorem spares_push (link : Link) (parcel : Parcel) : Action.Keeps Spares (push link parcel) := by
  intro net
  unfold push
  cases net.channels.get? link with
  | none => exact Std.Refl.refl net
  | some channel =>
      cases hPushed : channel.push parcel <;> simp only [hPushed]
      · exact True.intro
      · exact ⟨rfl, rfl, rfl, rfl, rfl, rfl, rfl⟩

theorem spares_enqueue (source target : String) (message : Message) :
    Action.Keeps Spares (enqueue source target message) := by
  refine (spares_requireLink _).bind fun _ => ?_
  refine spares_receiveTime.bind fun due => ?_
  exact (spares_record fun _ => rfl).bind fun _ => spares_push _ _

theorem spares_sendTokens (source target : String) (tokens : UInt64) :
    Action.Keeps Spares (sendTokens source target tokens) := by
  refine spares_freeze.bind fun _ => ?_
  exact (spares_callNode source _).bind fun message => spares_enqueue source target message

theorem spares_reject (source target : String) (snapshot : SnapshotId) :
    Action.Keeps Spares (reject source target snapshot) := by
  refine Action.Keeps.bind ?_ fun _ => spares_record fun _ => rfl
  exact Action.keeps_update fun _ => ⟨rfl, rfl, rfl, rfl, rfl, rfl, rfl⟩

theorem spares_takeDue (source : String) : Action.Keeps Spares (takeDue source) := by
  intro net
  unfold takeDue
  cases net.firstDue? source with
  | none => exact Std.Refl.refl net
  | some found => exact ⟨rfl, rfl, rfl, rfl, rfl, rfl, rfl⟩

theorem spares_advance : Action.Keeps Spares advance := by
  refine (Action.keeps_read _).bind fun clock => ?_
  refine (Action.keeps_ofExcept _).bind fun after => ?_
  exact Action.keeps_update fun _ => ⟨rfl, rfl, rfl, rfl, rfl, rfl, rfl⟩

/-! ### What is traced -/

/-- Whatever becomes of an action, `T` relates the network that it was called on to the one that it
leaves; if it is carried out, the list in between is a view of its value. -/
def Traced {α : Type} (T : Network → List SnapshotId → Network → Prop)
    (view : α → List SnapshotId) (action : NetworkAction α) : Prop :=
  ∀ net, (action net).Meets (fun value after => T net (view value) after)
    fun _ after => ∃ ids, T net ids after

/-- A relation that can be traced: to spare everything adds nothing to the list, what comes later is
appended, and a report adds its snapshot if it is the last one. -/
structure Tracing (T : Network → List SnapshotId → Network → Prop) : Prop where
  /-- What spares everything adds nothing. -/
  of_spares : ∀ {net after}, Spares net after → T net [] after
  /-- What comes later is appended. -/
  append : ∀ {net between after earlier later}, T net earlier between → T between later after →
    T net (earlier ++ later) after
  /-- A report adds its snapshot if it is the last one. -/
  notify : ∀ report, Traced T (fun complete => if complete then [report.snapshot] else [])
    (notify report)

namespace Tracing

variable {α β γ : Type} {T : Network → List SnapshotId → Network → Prop}

theorem keeps (hTracing : Tracing T) {action : NetworkAction α}
    (hKeeps : Action.Keeps Spares action) : Traced T (fun _ => []) action :=
  fun net => (hKeeps net).mono (fun _ _ hSpares => hTracing.of_spares hSpares)
    fun _ _ hSpares => ⟨[], hTracing.of_spares hSpares⟩

theorem pure (hTracing : Tracing T) {view : α → List SnapshotId} {value : α}
    (hNothing : view value = []) : Traced T view (Pure.pure value) := fun net => by
  show T net (view value) net
  rw [hNothing]
  exact hTracing.of_spares (Std.Refl.refl net)

/-- What comes behind a change that spares everything is all that is traced. -/
theorem behind (hTracing : Tracing T) {view : α → List SnapshotId} {action : NetworkAction α}
    {net between : Network} (hSpares : Spares net between) (hTraced : Traced T view action) :
    (action between).Meets (fun value after => T net (view value) after)
      fun _ after => ∃ ids, T net ids after :=
  (hTraced between).mono
    (fun _ _ hLast => hTracing.append (hTracing.of_spares hSpares) hLast)
    fun _ _ ⟨_, hLast⟩ => ⟨_, hTracing.append (hTracing.of_spares hSpares) hLast⟩

theorem bind (hTracing : Tracing T) {view : β → List SnapshotId} {first : NetworkAction α}
    {next : α → NetworkAction β} (hFirst : Action.Keeps Spares first)
    (hNext : ∀ value, Traced T view (next value)) : Traced T view (first >>= next) :=
  fun net => Action.meets_bind ((hFirst net).mono (fun _ _ hSpares => hSpares)
    fun _ _ hSpares => ⟨[], hTracing.of_spares hSpares⟩)
    fun value _ hSpares => hTracing.behind hSpares (hNext value)

/-- The list of one action is followed by the list of the next one. -/
theorem both (hTracing : Tracing T) {first : NetworkAction α} {second : NetworkAction β}
    {earlier : α → List SnapshotId} {later : β → List SnapshotId} {all : γ → List SnapshotId}
    {combine : α → β → γ} (hFirst : Traced T earlier first) (hSecond : Traced T later second)
    (hAll : ∀ value other, all (combine value other) = earlier value ++ later other) :
    Traced T all (first >>= fun value => second >>= fun other =>
      Pure.pure (combine value other)) := by
  intro net
  refine Action.meets_bind (hFirst net) fun value between hBetween => ?_
  refine Action.meets_bind ((hSecond between).mono (fun _ _ hLast => hLast)
    fun _ _ ⟨_, hLast⟩ => ⟨_, hTracing.append hBetween hLast⟩) fun other last hLast => ?_
  show T net (all (combine value other)) last
  rw [hAll]
  exact hTracing.append hBetween hLast

theorem applyEffects (hTracing : Tracing T) (name : String) (effects : List Effect) :
    Traced T id (applyEffects name effects) := by
  induction effects with
  | nil => exact hTracing.pure rfl
  | cons effect rest ih =>
      cases effect with
      | send target message => exact hTracing.bind (spares_enqueue name target message) fun _ => ih
      | completed report =>
          refine hTracing.both (hTracing.notify report) ih fun complete later => ?_
          cases complete <;> rfl

theorem reject (hTracing : Tracing T) (source target : String) (snapshot : SnapshotId) :
    Traced T id (do reject source target snapshot; return [] : NetworkAction (List SnapshotId)) :=
  hTracing.bind (spares_reject source target snapshot) fun _ => hTracing.pure rfl

theorem handOver (hTracing : Tracing T) (parcel : Parcel) : Traced T id (handOver parcel) := by
  intro net
  have hCalled := spares_callNode parcel.target (Node.receive parcel.source parcel.message) net
  unfold Network.handOver
  cases hOutcome : callNode parcel.target (Node.receive parcel.source parcel.message) net with
  | done effects between =>
      exact hTracing.behind (hCalled.of_done hOutcome)
        (hTracing.applyEffects parcel.target effects)
  | refused error between =>
      have hBetween := hCalled.of_refused hOutcome
      cases error with
      | node name cause =>
          cases cause with
          | duplicateMarker node source snapshot =>
              have hLast := hTracing.behind hBetween (hTracing.reject source node snapshot)
              exact hLast
          | _ => exact ⟨[], hTracing.of_spares hBetween⟩
      | _ => exact ⟨[], hTracing.of_spares hBetween⟩
  | faulted fault => exact True.intro

theorem deliver (hTracing : Tracing T) (parcel : Parcel) : Traced T id (deliver parcel) := by
  refine hTracing.bind (spares_record fun _ => rfl) fun _ => ?_
  cases parcel.message with
  | token amount => exact hTracing.handOver parcel
  | marker snapshot =>
      refine hTracing.bind (Action.keeps_read _) fun stale => ?_
      exact fun net => Action.meets_ite (fun _ => hTracing.reject _ _ _ net)
        fun _ => hTracing.handOver parcel net

theorem scan (hTracing : Tracing T) (names : List String) : Traced T Prod.snd (scan names) := by
  induction names with
  | nil => exact hTracing.pure rfl
  | cons source rest ih =>
      refine hTracing.bind (spares_takeDue source) fun due => ?_
      cases due with
      | none => exact ih
      | some parcel => exact hTracing.both (hTracing.deliver parcel) ih fun _ _ => rfl

/-- Whatever can be traced is traced through a tick. -/
theorem tick (hTracing : Tracing T) : Traced T TickReport.completed tick := by
  refine hTracing.bind spares_freeze fun _ => ?_
  refine hTracing.bind spares_advance fun _ => ?_
  refine hTracing.bind (Action.keeps_read _) fun names => ?_
  refine hTracing.both (hTracing.scan names) (hTracing.keeps (Action.keeps_read _)) ?_
  exact fun _ _ => (List.append_nil _).symm

end Tracing

end Network
end TokenNet
