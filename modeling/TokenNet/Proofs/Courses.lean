import TokenNet.Proofs.Histories

namespace TokenNet

/-!
# Courses

A course is a run of which it is known which nodes were added in it, reports from outside included
(`Network.Course`).  Building the network of a configuration is a course from the empty network
(`Network.course_ofConfig`), and so is every history of calls (`Network.course_of_history`): it adds
the nodes of those calls that were carried out (`accepted`).
-/

/-- The nodes that were added, in order. -/
def opened (trace : List Happening) : List InitialNode :=
  trace.filterMap fun happening =>
    match happening with
    | .opened name tokens => some ⟨name, tokens⟩
    | _ => none

/-- The nodes that calls have added, in order. -/
def accepted : List Call → List Reply → List InitialNode
  | call :: calls, reply :: replies => (call.opening? reply).toList ++ accepted calls replies
  | _, _ => []

theorem opened_append (earlier later : List Happening) :
    opened (earlier ++ later) = opened earlier ++ opened later :=
  List.filterMap_append

theorem mem_opened_iff {trace : List Happening} {node : InitialNode} :
    node ∈ opened trace ↔ .opened node.name node.tokens ∈ trace := by
  unfold opened
  rw [List.mem_filterMap]
  constructor
  · rintro ⟨happening, hMember, hSome⟩
    cases happening with
    | opened name tokens =>
        cases hSome
        exact hMember
    | _ => cases hSome
  · intro hMember
    exact ⟨_, hMember, rfl⟩

theorem Inner.opened_eq_nil {trace : List Happening} (hInner : Inner trace) : opened trace = [] := by
  refine List.eq_nil_iff_forall_not_mem.mpr fun node hNode => ?_
  exact Bool.false_ne_true (hInner _ (mem_opened_iff.mp hNode))

/-- The tokens that nodes are added with. -/
theorem Ledger.openings_eq (trace : List Happening) :
    Ledger.openings trace = naturalSum ((opened trace).map InitialNode.tokens) := by
  unfold Ledger.openings opened
  rw [List.map_filterMap]
  refine congrArg naturalSum (List.filterMap_congr fun happening _ => ?_)
  cases happening <;> rfl

namespace Network

variable {net between after : Network}

/-- A run in which the given nodes are added leads from one network to another. -/
def Course (net : Network) (nodes : List InitialNode) (after : Network) : Prop :=
  ∃ trace, Run net trace after ∧ opened trace = nodes

theorem Course.refl (net : Network) : net.Course [] net := ⟨[], Run.start, rfl⟩

theorem Course.trans {earlier later : List InitialNode} (hEarlier : net.Course earlier between)
    (hLater : between.Course later after) : net.Course (earlier ++ later) after := by
  obtain ⟨first, hFirst, rfl⟩ := hEarlier
  obtain ⟨rest, hRest, rfl⟩ := hLater
  exact ⟨first ++ rest, hFirst.trans hRest, opened_append first rest⟩

theorem Course.wellFormed {nodes : List InitialNode} (hCourse : net.Course nodes after)
    (hWell : net.WellFormed) : after.WellFormed := by
  obtain ⟨trace, hRun, -⟩ := hCourse
  exact hRun.wellFormed hWell

theorem Evolves.course (hEvolves : net.Evolves after) : net.Course [] after := by
  obtain ⟨trace, hRun, hInner⟩ := hEvolves
  exact ⟨trace, hRun, hInner.opened_eq_nil⟩

theorem Starts.course {name : String} (hStarts : net.Starts name after) : net.Course [] after := by
  obtain ⟨next, -, hOpen, hEvolves, -⟩ := hStarts
  exact Course.trans ⟨_, hOpen.run, rfl⟩ hEvolves.course

/-! ### Configurations -/

theorem course_withNode {node : InitialNode} (hAdd : net.withNode node = .ok after) :
    net.Course [node] after :=
  ⟨_, (Step.addNode hAdd).run, rfl⟩

theorem course_withNodes {nodes : List InitialNode}
    (hAdded : nodes.foldlM Network.withNode net = .ok after) : net.Course nodes after := by
  induction nodes generalizing net with
  | nil =>
      cases hAdded
      exact Course.refl _
  | cons node rest ih =>
      rw [List.foldlM_cons] at hAdded
      cases hFirst : net.withNode node with
      | error error =>
          rw [hFirst] at hAdded
          cases hAdded
      | ok middle =>
          rw [hFirst] at hAdded
          exact (course_withNode hFirst).trans (ih hAdded)

/-- Adding links adds no nodes. -/
theorem course_withLinks {links : List Link}
    (hAdded : links.foldlM Network.withLink net = .ok after) : net.Course [] after := by
  refine foldlM_keeps (P := fun later => net.Course [] later) (fun _ hEarlier hAdd => ?_)
    (Course.refl net) hAdded
  exact hEarlier.trans (Step.addLink hAdd |>.evolves inner_nil).course

/-- The network of a configuration has the nodes of the configuration. -/
theorem course_ofConfig {config : Config} (hBuilt : ofConfig config = .ok net) :
    (Network.empty config.seed config.maxDelay).Course config.nodes net := by
  unfold ofConfig at hBuilt
  cases hNodes : config.nodes.foldlM Network.withNode (empty config.seed config.maxDelay) with
  | error error =>
      rw [hNodes] at hBuilt
      cases hBuilt
  | ok between =>
      rw [hNodes] at hBuilt
      have hCourse := (course_withNodes hNodes).trans (course_withLinks hBuilt)
      rwa [List.append_nil] at hCourse

/-! ### Histories -/

/-- Every call is a course. -/
theorem Yields.course {call : Call} {reply : Reply} (hYields : net.Yields call reply after) :
    net.Course (call.opening? reply).toList after := by
  cases hYields with
  | added hAdd hNone => exact course_withNode hAdd
  | notified hNotify => exact ⟨_, (Step.notify hNotify).run, rfl⟩
  | started hStarts hOpening hNone =>
      rw [hOpening]
      exact hStarts.course
  | collected hCollects hOpening hSome =>
      rw [hOpening]
      exact hCollects.evolves.course
  | evolved hEvolves hOpening hNone =>
      rw [hOpening]
      exact hEvolves.course

/-- Every history is a course, whatever the calls are. -/
theorem course_of_history {calls : List Call} {replies : List Reply} {last : Network}
    (hWell : net.WellFormed) (hHistory : net.history calls = .ok (replies, last)) :
    net.Course (accepted calls replies) last := by
  induction calls generalizing net replies with
  | nil =>
      cases hHistory
      exact Course.refl _
  | cons call rest ih =>
      obtain ⟨first, later, between, hReply, hRest, rfl⟩ := history_cons_eq_ok hHistory
      have hFirst := (yields_of_reply hWell hReply).course
      exact hFirst.trans (ih (hFirst.wellFormed hWell) hRest)

/-- Whatever calls lead to, it is reached on a course from the empty network, in which the nodes of
the configuration are added and those of the calls that were carried out. -/
theorem course_of_built {config : Config} {calls : List Call} {replies : List Reply}
    {last : Network} (hBuilt : ofConfig config = .ok net)
    (hHistory : net.history calls = .ok (replies, last)) :
    (Network.empty config.seed config.maxDelay).Course (config.nodes ++ accepted calls replies)
      last :=
  (course_ofConfig hBuilt).trans (course_of_history (fresh_ofConfig hBuilt).wellFormed hHistory)

/-- Whatever calls can lead to, reports from outside included. -/
def Attained (net : Network) : Prop :=
  ∃ start trace, start.Fresh ∧ Run start trace net

theorem Attained.wellFormed (hAttained : net.Attained) : net.WellFormed := by
  obtain ⟨start, trace, hFresh, hRun⟩ := hAttained
  exact hRun.wellFormed hFresh.wellFormed

theorem Attained.of_fresh (hFresh : net.Fresh) : net.Attained := ⟨net, [], hFresh, Run.start⟩

theorem Attained.course {nodes : List InitialNode} (hAttained : net.Attained)
    (hCourse : net.Course nodes after) : after.Attained := by
  obtain ⟨start, earlier, hFresh, hRun⟩ := hAttained
  obtain ⟨later, hRest, -⟩ := hCourse
  exact ⟨start, earlier ++ later, hFresh, hRun.trans hRest⟩

theorem attained_of_history {config : Config} {calls : List Call} {replies : List Reply}
    {last : Network} (hBuilt : ofConfig config = .ok net)
    (hHistory : net.history calls = .ok (replies, last)) : last.Attained := by
  have hFresh := fresh_ofConfig hBuilt
  exact (Attained.of_fresh hFresh).course (course_of_history hFresh.wellFormed hHistory)

end Network

end TokenNet
