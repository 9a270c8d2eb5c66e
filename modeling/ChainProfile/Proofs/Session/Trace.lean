import ChainProfile.Proofs.Session.Balanced
import ChainProfile.Proofs.Switches
import Mathlib.Data.List.Induction
import Mathlib.Data.List.InsertIdx

/-!
# Sessions in any order

Scopes may be closed in any order, and other steps may come between.  Which scopes
are open is told from the steps alone: the places of the steps that opened them are
kept in a list, from which closing a scope removes one wherever it stands.  Every open
scope remembers the network that was active before the step at its place.  The active
network is the last one that a step made active.  A step that is refused makes none
active.
-/

namespace ChainProfile.Session

namespace Step

/-- The places at which the open scopes were opened, behind a step at a further place. -/
def openings (place : Nat) (before : List Nat) : Step → List Nat
  | .enter _ => before ++ [place]
  | .leave index => before.eraseIdx (index.getD (before.length - 1))
  | _ => before

/-- The network that a step makes active, if it does: the one that its two switches ask for, where
it selects by the switches of something that can be read. -/
def selects? (selector : Selector) : Step → Option Network
  | .select network => some network
  | .enter network => some network
  | .leave index => selector.remembered[index.getD selector.newest]?
  | .switches named =>
      Network.asked? ((named.lookup regtestSwitch).getD false)
        ((named.lookup testnetSwitch).getD false)
  | .settings text =>
      (Settings.ofToml text).toOption.bind fun loaded =>
        Network.asked? loaded.regtest loaded.testnet
  | .arguments words =>
      (Arguments.parse words).toOption.bind fun parsed =>
        Network.asked? parsed.regtest parsed.testnet
  | .prepare => none

theorem toOption_mapError {Error Other Value : Type} (result : Except Error Value)
    (change : Error → Other) : (result.mapError change).toOption = result.toOption := by
  cases result <;> rfl

/-- What a step chooses by switches is what the switches ask for, as
`Network.chosenBy_eq_ok_iff` says of every source. -/
theorem choice?_bind_toOption {step : Step} (chooses : step.choice?.isSome) :
    step.choice?.bind Except.toOption = step.selects? selector := by
  cases step with
  | switches named => exact (toOption_mapError _ _).trans Network.toOption_chosenBy
  | settings text =>
      rw [choice?, selects?, Option.bind_some, toOption_mapError]
      cases Settings.ofToml text with
      | error error => rfl
      | ok loaded => exact Network.toOption_chosenBy
  | arguments words =>
      rw [choice?, selects?, Option.bind_some]
      cases Arguments.parse words with
      | error fault => rfl
      | ok parsed => exact (toOption_mapError _ _).trans Network.toOption_chosenBy
  | _ => cases chooses

end Step

/-- The places of the steps that opened the scopes which are open behind a session. -/
def openings (steps : List Step) : List Nat :=
  steps.zipIdx.foldl (fun before (step, place) => step.openings place before) []

/-- The networks that the steps of a session make active, one after another. -/
def selections (registry : Registry) (selector : Selector) : List Step → List Network
  | [] => []
  | step :: steps =>
      (step.selects? selector).toList ++ selections registry (perform registry selector step).2 steps

variable {registry : Registry} {selector : Selector}

/-! ## One step -/

theorem active_selectChosen (choice : Except Refusal Network) :
    (selectChosen selector choice).2.active = choice.toOption.getD selector.active := by
  cases choice <;> rfl

/-- A step that chooses by switches keeps the scopes, and makes active what the switches ask for. -/
theorem perform_of_choice?_isSome {step : Step} (chooses : step.choice?.isSome) :
    (perform registry selector step).2.remembered = selector.remembered ∧
      (perform registry selector step).2.active =
        (step.selects? selector).getD selector.active := by
  rw [← Step.choice?_bind_toOption chooses]
  rcases Option.isSome_iff_exists.mp chooses with ⟨choice, chosen⟩
  rw [perform_of_choice?_eq_some chosen, remembered_selectChosen, active_selectChosen, chosen]
  exact ⟨rfl, rfl⟩

theorem perform_leave (index : Option Nat) :
    (perform registry selector (.leave index)).2 =
      { active := selector.remembered[index.getD selector.newest]?.getD selector.active
        remembered := selector.remembered.eraseIdx (index.getD selector.newest) } := by
  simp only [perform, Selector.leave]
  cases found : selector.remembered[index.getD selector.newest]? with
  | none =>
      have outside := List.getElem?_eq_none_iff.mp found
      rw [List.eraseIdx_of_length_le outside]
      rfl
  | some network => rfl

theorem active_perform (step : Step) :
    (perform registry selector step).2.active =
      (step.selects? selector).getD selector.active := by
  cases step with
  | select network => rfl
  | enter network => rfl
  | leave index => rw [perform_leave, Step.selects?]
  | switches named => exact (perform_of_choice?_isSome rfl).2
  | settings text => exact (perform_of_choice?_isSome rfl).2
  | arguments words => exact (perform_of_choice?_isSome rfl).2
  | prepare => rfl

/-- Taking the places of the scopes for what the scopes remember follows every step. -/
theorem remembered_perform {before : List Nat} {network : Nat → Network} {place : Nat}
    (remembers : selector.remembered = before.map network)
    (now : network place = selector.active) (step : Step) :
    (perform registry selector step).2.remembered = (step.openings place before).map network := by
  cases step with
  | select network => exact remembers
  | enter entered =>
      rw [Step.openings, List.map_append, List.map_singleton, now, ← remembers]
      rfl
  | leave index =>
      have newest : selector.newest = before.length - 1 := by
        rw [Selector.newest, remembers, List.length_map]
      rw [perform_leave, newest, Step.openings, ← List.eraseIdx_map, ← remembers]
  | switches named => exact (perform_of_choice?_isSome rfl).1.trans remembers
  | settings text => exact (perform_of_choice?_isSome rfl).1.trans remembers
  | arguments words => exact (perform_of_choice?_isSome rfl).1.trans remembers
  | prepare => exact remembers

theorem perform_eq_of_refused {step : Step} {refusal : Refusal}
    (refused : (perform registry selector step).1 = .refused refusal) :
    (perform registry selector step).2 = selector := by
  have kept {choice : Except Refusal Network}
      (answer : (selectChosen selector choice).1 = .refused refusal) :
      (selectChosen selector choice).2 = selector := by
    cases choice with
    | ok network => cases answer
    | error other => rfl
  cases step with
  | select network => cases refused
  | enter network => cases refused
  | leave index =>
      rw [perform] at refused
      split at refused <;> cases refused
  | switches named => exact kept refused
  | settings text => exact kept refused
  | arguments words => exact kept refused
  | prepare => cases refused

/-! ## A whole session -/

theorem openings_append_singleton (steps : List Step) (step : Step) :
    openings (steps ++ [step]) = step.openings steps.length (openings steps) := by
  simp [openings, List.zipIdx_append]

theorem exists_enter_of_mem_openings {steps : List Step} {place : Nat}
    (opened : place ∈ openings steps) : ∃ network, steps[place]? = some (.enter network) := by
  induction steps using List.reverseRecOn with
  | nil => cases opened
  | append_singleton steps step ih =>
      have earlier (old : place ∈ openings steps) :
          ∃ network, (steps ++ [step])[place]? = some (.enter network) := by
        rcases ih old with ⟨network, found⟩
        have inside : place < steps.length := (List.getElem?_eq_some_iff.mp found).1
        exact ⟨network, by rw [List.getElem?_append_left inside, found]⟩
      rw [openings_append_singleton] at opened
      cases step with
      | enter network =>
          rcases List.mem_append.mp opened with old | new
          · exact earlier old
          · rw [List.mem_singleton.mp new]
            exact ⟨network, List.getElem?_concat_length⟩
      | leave index => exact earlier (List.mem_of_mem_eraseIdx opened)
      | _ => exact earlier opened

theorem lt_length_of_mem_openings {steps : List Step} {place : Nat}
    (opened : place ∈ openings steps) : place < steps.length := by
  rcases exists_enter_of_mem_openings opened with ⟨network, found⟩
  exact (List.getElem?_eq_some_iff.mp found).1

/-- The open scopes are listed in the order in which they were opened, none of them twice. -/
theorem pairwise_openings (steps : List Step) : (openings steps).Pairwise (· < ·) := by
  induction steps using List.reverseRecOn with
  | nil => exact .nil
  | append_singleton steps step ih =>
      rw [openings_append_singleton]
      cases step with
      | enter network =>
          apply List.pairwise_append.mpr
          refine ⟨ih, List.pairwise_singleton _ _, ?_⟩
          intro old opened new isNew
          rw [List.mem_singleton.mp isNew]
          exact lt_length_of_mem_openings opened
      | leave index => exact ih.sublist (List.eraseIdx_sublist _ _)
      | _ => exact ih

theorem finish_append_singleton (steps : List Step) (step : Step) :
    finish registry selector (steps ++ [step]) =
      (perform registry (finish registry selector steps) step).2 := by
  rw [finish_append, finish_singleton]

/-- The network that was active before the step at a place of a session. -/
def activeBefore (registry : Registry) (steps : List Step) (place : Nat) : Network :=
  (finish registry .initial (steps.take place)).active

theorem remembered_finish_eq_map_openings (steps : List Step) :
    (finish registry .initial steps).remembered =
      (openings steps).map (activeBefore registry steps) := by
  induction steps using List.reverseRecOn with
  | nil => rfl
  | append_singleton steps step ih =>
      -- A further step changes nothing before the places that are listed already.
      have same : (openings steps).map (activeBefore registry steps) =
          (openings steps).map (activeBefore registry (steps ++ [step])) := by
        apply List.map_congr_left
        intro place opened
        have inside := Nat.le_of_lt (lt_length_of_mem_openings opened)
        rw [activeBefore, activeBefore, List.take_append_of_le_length inside]
      have now : activeBefore registry (steps ++ [step]) steps.length =
          (finish registry .initial steps).active := by
        rw [activeBefore, List.take_left]
      rw [finish_append_singleton, openings_append_singleton]
      exact remembered_perform (ih.trans same) now step

theorem active_finish (steps : List Step) (selector : Selector) :
    (finish registry selector steps).active =
      (selections registry selector steps).getLastD selector.active := by
  induction steps generalizing selector with
  | nil => rfl
  | cons step steps ih =>
      have first : finish registry selector (step :: steps) =
          finish registry (perform registry selector step).2 steps := rfl
      rw [first, ih, active_perform, selections]
      cases step.selects? selector with
      | none => rfl
      | some network =>
          rw [Option.getD_some, Option.toList_some, List.singleton_append, List.getLastD_cons]

theorem trace_getElem? (steps : List Step) (selector : Selector) (place : Nat) :
    (trace registry selector steps)[place]? =
      steps[place]?.map (perform registry (finish registry selector (steps.take place))) := by
  induction steps generalizing selector place with
  | nil => rfl
  | cons step steps ih =>
      cases place with
      | zero => rfl
      | succ place =>
          rw [trace, List.getElem?_cons_succ, ih, List.getElem?_cons_succ, List.take_succ_cons]
          rfl

theorem length_trace (steps : List Step) (selector : Selector) :
    (trace registry selector steps).length = steps.length := by
  induction steps generalizing selector with
  | nil => rfl
  | cons step steps ih => rw [trace, List.length_cons, ih, List.length_cons]

/-- What the state behind a session from the start has to be: every open scope remembers the
network that was active before the step that opened it, the network that was made active last is
active, and the parameters at hand are those of the active network. -/
structure IsLeftBy (registry : Registry) (steps : List Step) (selector : Selector) : Prop where
  remembered : selector.remembered = (openings steps).map (activeBefore registry steps)
  opened : ∀ place ∈ openings steps, ∃ network, steps[place]? = some (.enter network)
  ordered : (openings steps).Pairwise (· < ·)
  active : selector.active = (selections registry .initial steps).getLastD .main
  network : (registry.get selector.active).network = selector.active
  isTest : (selector.isTestNetwork ↔ selector.active = .test) ∧
    (registry.get selector.active).isTestNetwork = selector.isTestNetwork
  isRegression : (selector.isRegressionNetwork ↔ selector.active = .regression) ∧
    (registry.get selector.active).isRegressionNetwork = selector.isRegressionNetwork

variable {moment : Network → Moment}

theorem isLeftBy_finish (built : Registry.build moment = some (.ok registry)) (steps : List Step) :
    IsLeftBy registry steps (finish registry .initial steps) := by
  have network : (registry.get (finish registry .initial steps).active).network =
      (finish registry .initial steps).active := Registry.network_get built
  exact
    { remembered := remembered_finish_eq_map_openings steps
      opened := fun _ => exists_enter_of_mem_openings
      ordered := pairwise_openings steps
      active := active_finish steps .initial
      network
      isTest := by
        rw [Parameters.isTestNetwork, network, Selector.isTestNetwork, decide_eq_true_iff]
        exact ⟨Iff.rfl, rfl⟩
      isRegression := by
        rw [Parameters.isRegressionNetwork, network, Selector.isRegressionNetwork,
          decide_eq_true_iff]
        exact ⟨Iff.rfl, rfl⟩ }

/-- Every step of a session from the start is answered, and leaves the state that the steps so far
have to leave.  Switches make the network active that both of them agree with, by
`Network.chosenBy_eq_ok_iff`.  A step that is refused, or that only prepares the parameters, leaves
the state in which it was carried out. -/
theorem trace_initial_isLeftBy (built : Registry.build moment = some (.ok registry))
    (steps : List Step) :
    (trace registry .initial steps).length = steps.length ∧
    ∀ place answer after, (trace registry .initial steps)[place]? = some (answer, after) →
      IsLeftBy registry (steps.take (place + 1)) after ∧
      ((∃ refusal, answer = .refused refusal) ∨ steps[place]? = some .prepare →
        after = finish registry .initial (steps.take place)) := by
  refine ⟨length_trace steps _, ?_⟩
  intro place answer after traced
  rw [trace_getElem?] at traced
  rcases Option.map_eq_some_iff.mp traced with ⟨step, found, performed⟩
  have before : steps.take (place + 1) = steps.take place ++ [step] := by
    rw [List.take_add_one, found, Option.toList_some]
  have left : finish registry .initial (steps.take (place + 1)) = after := by
    rw [before, finish_append_singleton, performed]
  constructor
  · rw [← left]
    exact isLeftBy_finish built _
  · rintro (⟨refusal, refused⟩ | prepares)
    · have kept : (perform registry (finish registry .initial (steps.take place)) step).1 =
          .refused refusal := by rw [performed, refused]
      rw [← perform_eq_of_refused kept, performed]
    · rw [found, Option.some.injEq] at prepares
      rw [prepares] at performed
      exact (congrArg Prod.snd performed).symm

/-- Three scopes, of which the first is closed before the second, with a refused choice and a
selection between. -/
def interleaved : List Step :=
  [.enter .test, .enter .regression, .select .main, .enter .test, .leave (some 0),
    .switches [("testnet", true), ("regtest", true)], .settings "regtest = true", .leave (some 0)]

/-- The second scope is closed last and makes the network active that the first had selected,
although the first is closed by then. -/
theorem trace_initial_interleaved :
    ∃ registry, Registry.build (fun _ => .ofWords 0 []) = some (.ok registry) ∧
      (trace registry .initial interleaved)[7]? = some (.network .test, ⟨.test, [.main]⟩) ∧
      IsLeftBy registry interleaved ⟨.test, [.main]⟩ ∧ openings interleaved = [3] ∧
      (trace registry .initial interleaved)[5]? =
        some (.refused (.chain .conflictingSelection), ⟨.main, [.test, .main]⟩) ∧
      finish registry .initial (interleaved.take 5) = ⟨.main, [.test, .main]⟩ := by
  rcases Registry.exists_build_ofWords 0 [] with ⟨registry, built⟩
  have last : (trace registry .initial interleaved)[7]? =
      some (.network .test, ⟨.test, [.main]⟩) := rfl
  have refused : (trace registry .initial interleaved)[5]? =
      some (.refused (.chain .conflictingSelection), ⟨.main, [.test, .main]⟩) := rfl
  rcases trace_initial_isLeftBy built interleaved with ⟨_, law⟩
  have unchanged := (law 5 _ _ refused).2 (.inl ⟨_, rfl⟩)
  exact ⟨registry, built, last, (law 7 _ _ last).1, rfl, refused, unchanged.symm⟩

end ChainProfile.Session
