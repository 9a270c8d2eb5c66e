import ChainProfile.Arguments
import ChainProfile.Parameters
import ChainProfile.Selector

/-!
# Sessions

A session is a sequence of steps that select networks, directly, for a scope, or
by the switches of a source.  A step that is refused changes nothing.
-/

namespace ChainProfile.Session

/-- A step of a session. -/
inductive Step where
  | select (network : Network)
  | enter (network : Network)
  /-- End the scope at a place, or the newest one. -/
  | leave (place : Option Nat)
  /-- Select by named switches. -/
  | switches (switches : List (String × Bool))
  /-- Select by the settings that a text states. -/
  | settings (text : String)
  /-- Select by the words of a command line. -/
  | arguments (words : List String)
  /-- Make sure that the parameters of every network are there. -/
  | prepare

/-- Why a step that selects by switches is refused. -/
inductive Refusal where
  | chain (error : ChainError)
  | arguments (fault : ArgumentFault)
deriving DecidableEq

/-- What a step answers. -/
inductive Answer where
  /-- The step has no answer. -/
  | nothing
  /-- The network that was selected by switches, or that an ended scope remembered. -/
  | network (network : Network)
  /-- There was no scope to end. -/
  | noScope
  /-- The parameters of every network, as they are kept. -/
  | registry (registry : Registry)
  | refused (refusal : Refusal)

/-- The network that a step selects by switches. -/
def Step.choice? : Step → Option (Except Refusal Network)
  | .switches named => some ((Network.chosenBy named).mapError .chain)
  | .settings text =>
      some ((Settings.ofToml text >>= fun loaded => Network.chosenBy loaded).mapError .chain)
  | .arguments words =>
      some (do
        let parsed ← (Arguments.parse words).mapError Refusal.arguments
        (Network.chosenBy parsed).mapError Refusal.chain)
  | _ => none

/-- Selects a chosen network; a refused choice selects nothing. -/
def selectChosen (selector : Selector) : Except Refusal Network → Answer × Selector
  | .ok network => (.network network, selector.select network)
  | .error refusal => (.refused refusal, selector)

/-- Carries out a step: its answer, and the state behind it. -/
def perform (registry : Registry) (selector : Selector) (step : Step) : Answer × Selector :=
  match step with
  | .select network => (.nothing, selector.select network)
  | .enter network => (.network selector.active, selector.enter network)
  | .leave place =>
      match selector.leave (place.getD selector.newest) with
      | (some network, left) => (.network network, left)
      | (none, unchanged) => (.noScope, unchanged)
  | .prepare => (.registry registry, selector)
  | step =>
      match step.choice? with
      | some choice => selectChosen selector choice
      | none => (.nothing, selector)

/-- Carries out steps one after another and notes every answer with the state behind it. -/
def trace (registry : Registry) (selector : Selector) : List Step → List (Answer × Selector)
  | [] => []
  | step :: steps =>
      let result := perform registry selector step
      result :: trace registry result.2 steps

/-- The state behind a sequence of steps. -/
def finish (registry : Registry) (selector : Selector) (steps : List Step) : Selector :=
  steps.foldl (fun selector step => (perform registry selector step).2) selector

/-- Sequences of steps in which every scope that is opened is ended in turn, the newest first, and
no other scope is ended. -/
inductive Balanced : List Step → Prop where
  | nil : Balanced []
  | select (network : Network) : Balanced [.select network]
  | chosen {step : Step} (chooses : step.choice?.isSome) : Balanced [step]
  | append {first second : List Step} : Balanced first → Balanced second →
      Balanced (first ++ second)
  | scope (network : Network) {inner : List Step} : Balanced inner →
      Balanced (.enter network :: (inner ++ [.leave none]))

end ChainProfile.Session
