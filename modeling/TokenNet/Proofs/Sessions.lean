import TokenNet.Proofs.Courses
import TokenNet.Proofs.Scripts
import TokenNet.Scenario.Session

namespace TokenNet

/-!
# Sessions are runs

Whatever becomes of a script, it leads along a run (`Scenario.meets_runScript_leads`), and so does
every request (`Network.course_of_respond`).  What sessions without reports from outside lead to is
therefore reachable (`Network.reachable_of_session`).
-/

/-- Whether a request hands in a report from outside. -/
def Request.isNotify : Request → Bool
  | call asked => asked.isNotify
  | script _ => false

namespace Scenario

open Network

variable {net after : Network}

/-- Ticks pass until the script comes to an end, whatever end it is. -/
theorem meets_settle_evolves {ticks : Nat} (hWell : net.WellFormed) :
    (settle ticks net).Meets (fun _ after => net.Evolves after)
      (fun _ after => net.Evolves after) := by
  induction ticks generalizing net with
  | zero =>
      apply Action.meets_bind_of_done rfl
      refine Action.meets_ite (fun _ => Evolves.refl net) fun _ => ?_
      apply Action.meets_bind_of_done rfl
      exact Action.meets_ite (fun _ => Evolves.refl net) fun _ => Evolves.refl net
  | succ ticks ih =>
      apply Action.meets_bind_of_done rfl
      refine Action.meets_ite (fun _ => Evolves.refl net) fun _ => ?_
      apply Action.meets_bind_of_done rfl
      refine Action.meets_ite (fun _ => Evolves.refl net) fun _ => ?_
      refine Action.meets_bind (Action.meets_mapError ((meets_tick hWell).imp
        fun _ _ hTick => hTick)) fun _ between hTick => ?_
      exact (ih (hTick.wellFormed hWell)).mono (fun _ _ hRest => hTick.trans hRest)
        fun _ _ hRest => hTick.trans hRest

theorem meets_drive_leads {commands : List Command} (hWell : net.WellFormed) :
    (drive commands net).Meets (fun _ after => net.Leads 0 after)
      (fun _ after => net.Leads 0 after) := by
  refine Action.meets_bind (Action.meets_mapError (meets_performAll hWell)) fun _ done hDone => ?_
  have hPerformed := hDone.wellFormed hWell
  apply Action.meets_bind_of_done rfl
  refine Action.meets_bind ((meets_settle_evolves hPerformed).mono
    (fun _ _ hSettled => hSettled) fun _ _ hSettled => hDone.trans hSettled.leads) ?_
  intro _ settled hSettled
  apply Action.meets_bind_of_done rfl
  apply Action.meets_mapError
  exact (meets_pass (hSettled.wellFormed hPerformed)).imp fun _ _ hPassed =>
    hDone.trans (hSettled.trans hPassed).leads

theorem meets_collectAll_evolves {ids : List SnapshotId} :
    (collectAll ids net).Meets (fun _ after => net.Evolves after)
      (fun _ after => net.Evolves after) := by
  induction ids generalizing net with
  | nil => exact Evolves.refl net
  | cons id rest ih =>
      refine Action.meets_bind ((meets_tryCollect net id).mono
        (fun _ _ hTaken => hTaken.evolves) fun _ _ hSame => hSame ▸ Evolves.refl net) ?_
      intro taken between hBetween
      refine Action.meets_bind (ih.mono (fun _ _ hRest => hBetween.trans hRest)
        fun _ _ hRest => hBetween.trans hRest) fun _ _ hLast => hLast

/-- A script leads along a run, whether or not it fails. -/
theorem meets_runScript_leads {commands : List Command} (hWell : net.WellFormed) :
    (runScript commands net).Meets (fun _ after => net.Leads 0 after)
      (fun _ after => net.Leads 0 after) := by
  have hDrive : (drive commands net).Meets (fun _ after => net.Leads 0 after)
      (fun _ after => net.Leads 0 after) := meets_drive_leads hWell
  unfold runScript
  cases hDriven : drive commands net with
  | done value driven =>
      have hLeads := hDrive.of_done hDriven
      apply Action.meets_mapError
      exact meets_collectAll_evolves.mono (fun _ _ hTaken => hLeads.trans hTaken.leads)
        fun _ _ hTaken => hLeads.trans hTaken.leads
  | refused error driven =>
      exact (hDrive.of_refused hDriven).trans ((Step.abandon _).evolves inner_nil).leads
  | faulted fault => exact True.intro

end Scenario

namespace Network

variable {net after : Network}

theorem Leads.course {tokens : Nat} (hLeads : net.Leads tokens after) :
    ∃ nodes, net.Course nodes after := by
  obtain ⟨trace, hRun, -⟩ := hLeads
  exact ⟨_, trace, hRun, rfl⟩

/-- What a request comes to: a call is answered, or a script comes to an end. -/
theorem respond_eq_ok {request : Request} {response : Response}
    (hRespond : net.respond request = .ok (response, after)) :
    (∃ call reply, request = .call call ∧ response = .replied reply ∧
        net.reply call = .ok (reply, after)) ∨
      ∃ commands, request = .script commands ∧
        ((∃ snapshots, response = .ran (.ok snapshots) ∧
            Scenario.runScript commands net = .done snapshots after) ∨
          ∃ error, response = .ran (.error error) ∧
            Scenario.runScript commands net = .refused error after) := by
  cases request with
  | call call =>
      dsimp only [respond] at hRespond
      cases hReply : net.reply call with
      | error fault =>
          rw [hReply] at hRespond
          cases hRespond
      | ok answered =>
          rw [hReply] at hRespond
          cases hRespond
          exact Or.inl ⟨call, answered.1, rfl, rfl, hReply⟩
  | script commands =>
      dsimp only [respond] at hRespond
      refine Or.inr ⟨commands, rfl, ?_⟩
      cases hRun : Scenario.runScript commands net with
      | done snapshots last =>
          rw [hRun] at hRespond
          cases hRespond
          exact Or.inl ⟨snapshots, rfl, rfl⟩
      | refused error last =>
          rw [hRun] at hRespond
          cases hRespond
          exact Or.inr ⟨error, rfl, rfl⟩
      | faulted fault =>
          rw [hRun] at hRespond
          cases hRespond

/-- A session is a first request and the session of the rest. -/
theorem session_cons_eq_ok {request : Request} {rest : List Request} {responses : List Response}
    {last : Network} (hSession : net.session (request :: rest) = .ok (responses, last)) :
    ∃ first later between, net.respond request = .ok (first, between) ∧
      between.session rest = .ok (later, last) ∧ responses = first :: later := by
  unfold session at hSession
  obtain ⟨⟨first, between⟩, hRespond, hMore⟩ := bind_eq_ok_iff.mp hSession
  obtain ⟨⟨later, final⟩, hRest, hBoth⟩ := bind_eq_ok_iff.mp hMore
  cases hBoth
  exact ⟨first, later, between, hRespond, hRest, rfl⟩

theorem script_leads {commands : List Command} {response : Response} (hWell : net.WellFormed)
    (hRespond : net.respond (.script commands) = .ok (response, after)) : net.Leads 0 after := by
  rcases respond_eq_ok hRespond with ⟨call, reply, hCall, -⟩ | ⟨asked, hScript, hEnd⟩
  · cases hCall
  · cases hScript
    rcases hEnd with ⟨snapshots, -, hDone⟩ | ⟨error, -, hRefused⟩
    · exact (Scenario.meets_runScript_leads hWell).of_done hDone
    · exact (Scenario.meets_runScript_leads hWell).of_refused hRefused

/-- Every request is a course. -/
theorem course_of_respond {request : Request} {response : Response} (hWell : net.WellFormed)
    (hRespond : net.respond request = .ok (response, after)) : ∃ nodes, net.Course nodes after := by
  rcases respond_eq_ok hRespond with ⟨call, reply, rfl, -, hReply⟩ | ⟨commands, rfl, -⟩
  · exact ⟨_, (yields_of_reply hWell hReply).course⟩
  · exact (script_leads hWell hRespond).course

/-- A request that hands in no report from outside leads along a run. -/
theorem respond_leads {request : Request} {response : Response} (hWell : net.WellFormed)
    (hOwn : request.isNotify = false) (hRespond : net.respond request = .ok (response, after)) :
    ∃ tokens, net.Leads tokens after := by
  rcases respond_eq_ok hRespond with ⟨call, reply, rfl, -, hReply⟩ | ⟨commands, rfl, -⟩
  · exact ⟨_, (yields_of_reply hWell hReply).leads hOwn⟩
  · exact ⟨0, script_leads hWell hRespond⟩

/-- What a session without reports from outside leads to is reachable. -/
theorem Reachable.session {requests : List Request} {responses : List Response} {last : Network}
    (hReachable : net.Reachable) (hOwn : ∀ request ∈ requests, request.isNotify = false)
    (hSession : net.session requests = .ok (responses, last)) : last.Reachable := by
  induction requests generalizing net responses with
  | nil =>
      cases hSession
      exact hReachable
  | cons request rest ih =>
      obtain ⟨first, later, between, hRespond, hRest, rfl⟩ := session_cons_eq_ok hSession
      obtain ⟨tokens, hLeads⟩ :=
        respond_leads hReachable.wellFormed (hOwn request List.mem_cons_self) hRespond
      exact ih (hReachable.leads hLeads)
        (fun other hOther => hOwn other (List.mem_cons_of_mem _ hOther)) hRest

theorem reachable_of_session {config : Config} {requests : List Request}
    {responses : List Response} {last : Network} (hBuilt : ofConfig config = .ok net)
    (hOwn : ∀ request ∈ requests, request.isNotify = false)
    (hSession : net.session requests = .ok (responses, last)) : last.Reachable :=
  Reachable.session ⟨net, 0, fresh_ofConfig hBuilt, Leads.refl net⟩ hOwn hSession

/-- Every session is a run. -/
theorem WellFormed.run_of_session {requests : List Request} {responses : List Response}
    (hWell : net.WellFormed) (hSession : net.session requests = .ok (responses, last)) :
    ∃ trace, Run net trace last := by
  induction requests generalizing net responses with
  | nil =>
      cases hSession
      exact ⟨[], Run.start⟩
  | cons request rest ih =>
      obtain ⟨first, later, between, hRespond, hRest, rfl⟩ := session_cons_eq_ok hSession
      obtain ⟨nodes, earlier, hFirst, -⟩ := course_of_respond hWell hRespond
      obtain ⟨trace, hRun⟩ := ih (hFirst.wellFormed hWell) hRest
      exact ⟨earlier ++ trace, hFirst.trans hRun⟩

/-- Whatever requests make of a network, calls can lead to. -/
theorem Attained.session {requests : List Request} {responses : List Response}
    (hAttained : net.Attained) (hSession : net.session requests = .ok (responses, last)) :
    last.Attained := by
  obtain ⟨trace, hRun⟩ := hAttained.wellFormed.run_of_session hSession
  exact hAttained.course ⟨trace, hRun, rfl⟩

/-! ### A session to look at -/

/-- The network of a configuration, and what a session makes of it. -/
def performed? (config : Config) (requests : List Request) :
    Option (Network × List Response × Network) :=
  match ofConfig config with
  | .error _ => none
  | .ok net =>
      match net.session requests with
      | .error _ => none
      | .ok (responses, last) => some (net, responses, last)

/-- A check of what a session makes of the network of a configuration, put together with what it
makes. -/
theorem exists_of_performed? {config : Config} {requests : List Request}
    {check : Network × List Response × Network → Bool}
    (hPerforms : (performed? config requests).any check = true) :
    ∃ net responses last, ofConfig config = .ok net ∧
      net.session requests = .ok (responses, last) ∧ check (net, responses, last) = true := by
  unfold performed? at hPerforms
  cases hBuilt : ofConfig config with
  | error error =>
      rw [hBuilt] at hPerforms
      cases hPerforms
  | ok net =>
      simp only [hBuilt] at hPerforms
      cases hSession : net.session requests with
      | error fault =>
          rw [hSession] at hPerforms
          cases hPerforms
      | ok outcome =>
          rw [hSession] at hPerforms
          exact ⟨net, outcome.1, outcome.2, rfl, hSession, hPerforms⟩

end Network

end TokenNet
