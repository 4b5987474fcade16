import TokenNet.Proofs.Histories
import TokenNet.Scenario.Run

namespace TokenNet

/-!
# Scripts are runs

What a script asks of a network leads along runs as calls do.  The network refuses a command, or
the script comes to an end in one of the ways that `Scenario.settle` tells apart.
-/

namespace Network

variable {net after : Network}

/-- Ticks pass one after another, unless the clock cannot move. -/
theorem meets_pass {ticks : Nat} (hWell : net.WellFormed) :
    (pass ticks net).Meets (fun _ after => net.Evolves after) Never := by
  induction ticks generalizing net with
  | zero => exact Evolves.refl net
  | succ ticks ih =>
      apply Action.meets_bind (meets_tick hWell)
      intro _ between hTick
      apply (ih (hTick.wellFormed hWell)).imp
      intro _ last hRest
      exact hTick.trans hRest

theorem meets_control (hWell : net.WellFormed) (event : ControlEvent) :
    (control event net).Meets (fun _ after => net.Leads 0 after)
      (fun _ after => net.Leads 0 after) := by
  cases event with
  | passToken source target tokens =>
      refine Action.meets_bind ((meets_sendTokens_evolves hWell).mono (fun _ _ hEvolves => ?_)
        fun _ _ hEvolves => hEvolves.leads) fun _ _ hLeads => hLeads
      exact hEvolves.leads
  | snapshot name =>
      refine Action.meets_bind ((meets_startSnapshot_starts hWell).mono (fun _ _ hStarts => ?_)
        fun _ _ hEvolves => hEvolves.leads) fun _ _ hLeads => hLeads
      exact hStarts.leads

end Network

namespace Scenario

open Network

variable {net after : Network}

theorem meets_perform {command : Command} (hWell : net.WellFormed) :
    (perform command net).Meets (fun _ after => net.Leads 0 after)
      (fun _ after => net.Leads 0 after) := by
  cases command with
  | send source target tokens =>
      exact Action.meets_bind (meets_control hWell _) fun _ _ hLeads => hLeads
  | snapshot name => exact Action.meets_bind (meets_control hWell _) fun _ _ hLeads => hLeads
  | tick count => exact (meets_pass hWell).imp fun _ _ hEvolves => hEvolves.leads

theorem meets_performAll {commands : List Command} (hWell : net.WellFormed) :
    (performAll commands net).Meets (fun _ after => net.Leads 0 after)
      (fun _ after => net.Leads 0 after) := by
  induction commands generalizing net with
  | nil => exact Leads.refl net
  | cons command rest ih =>
      apply Action.meets_bind (meets_perform hWell)
      intro _ between hFirst
      exact (ih (hFirst.wellFormed hWell)).mono (fun _ _ hRest => hFirst.trans hRest)
        fun _ _ hRest => hFirst.trans hRest

end Scenario

end TokenNet
