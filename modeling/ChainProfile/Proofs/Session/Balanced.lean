import ChainProfile.Proofs.Parameters.Registry
import ChainProfile.Session

/-!
# Scopes that are closed in turn

A sequence of steps is balanced if it closes the scopes that it opens, the newest
first, and no others.  Such a sequence leaves the open scopes as they were, whatever
it selects on the way.  The scope around it is therefore the newest again at its
end, and closing it makes the network active that was active before.
-/

namespace ChainProfile.Session

variable {registry : Registry} {selector : Selector}

theorem finish_singleton (step : Step) :
    finish registry selector [step] = (perform registry selector step).2 := rfl

theorem trace_singleton (step : Step) :
    trace registry selector [step] = [perform registry selector step] := rfl

theorem finish_append (first second : List Step) :
    finish registry selector (first ++ second) =
      finish registry (finish registry selector first) second := by
  rw [finish, List.foldl_append]
  rfl

theorem trace_append (first second : List Step) :
    trace registry selector (first ++ second) =
      trace registry selector first ++ trace registry (finish registry selector first) second := by
  induction first generalizing selector with
  | nil => rfl
  | cons step first ih =>
      rw [List.cons_append, trace, ih, trace, List.cons_append]
      rfl

theorem perform_of_choice?_eq_some {step : Step} {choice : Except Refusal Network}
    (chooses : step.choice? = some choice) :
    perform registry selector step = selectChosen selector choice := by
  cases step with
  | switches named => simp only [perform, chooses]
  | settings text => simp only [perform, chooses]
  | arguments words => simp only [perform, chooses]
  | _ => cases chooses

theorem remembered_selectChosen (choice : Except Refusal Network) :
    (selectChosen selector choice).2.remembered = selector.remembered := by
  cases choice <;> rfl

theorem perform_leave_newest {outer : List Network} {network : Network}
    (newest : selector.remembered = outer ++ [network]) :
    perform registry selector (.leave none) = (.network network, ⟨network, outer⟩) := by
  have place : selector.newest = outer.length := by
    simp [Selector.newest, newest]
  have removed : (outer ++ [network]).eraseIdx outer.length = outer := by
    rw [List.eraseIdx_append_of_length_le (Nat.le_refl _), Nat.sub_self]
    exact List.append_nil outer
  simp [perform, Selector.leave, place, newest, removed]

/-- A scope whose steps keep the open scopes is closed with the state in which it was opened. -/
theorem perform_leave_of_remembered_eq {steps : List Step} {network : Network}
    (kept : (finish registry (selector.enter network) steps).remembered =
      (selector.enter network).remembered) :
    perform registry (finish registry selector (.enter network :: steps)) (.leave none) =
      (.network selector.active, selector) :=
  perform_leave_newest kept

namespace Balanced

variable {steps : List Step}

/-- A balanced sequence leaves the open scopes and what they remember as they were. -/
theorem remembered_finish (balanced : Balanced steps) (selector : Selector) :
    (finish registry selector steps).remembered = selector.remembered := by
  -- Over every selector, since the steps inside a scope start behind the scope just opened.
  induction balanced generalizing selector with
  | nil => rfl
  | select network => rfl
  | chosen chooses =>
      rcases Option.isSome_iff_exists.mp chooses with ⟨choice, chosen⟩
      rw [finish_singleton, perform_of_choice?_eq_some chosen, remembered_selectChosen]
  | append first second ihFirst ihSecond => rw [finish_append, ihSecond, ihFirst]
  | scope network inner ih =>
      rw [← List.cons_append, finish_append, finish_singleton,
        perform_leave_of_remembered_eq (ih (selector.enter network))]

/-- A balanced sequence leaves the open scopes as they were, and a scope around it ends in the state
in which it was opened: the closing step answers with the network that was active then. -/
theorem finish_scope (balanced : Balanced steps) (registry : Registry) (selector : Selector)
    (network : Network) :
    (finish registry selector steps).remembered = selector.remembered ∧
      finish registry selector (.enter network :: (steps ++ [.leave none])) = selector ∧
      (trace registry selector (.enter network :: (steps ++ [.leave none]))).getLast? =
        some (.network selector.active, selector) := by
  have kept : (finish registry (selector.enter network) steps).remembered =
      (selector.enter network).remembered := balanced.remembered_finish _
  have closed := perform_leave_of_remembered_eq kept
  refine ⟨balanced.remembered_finish selector, ?_, ?_⟩
  · rw [← List.cons_append, finish_append, finish_singleton, closed]
  · rw [← List.cons_append, trace_append, trace_singleton, closed, List.getLast?_concat]

/-- Steps that select by a text, open and close two scopes and are refused once. -/
def restless : List Step :=
  [.settings "regtest = true", .enter .main, .select .test, .enter .regression,
    .switches [("regtest", true), ("testnet", true)], .leave none, .arguments ["--testnet"],
    .leave none]

theorem balanced_restless : Balanced restless := by
  have refused : Balanced [.switches [("regtest", true), ("testnet", true)]] := .chosen rfl
  have inner : Balanced ([.select .test] ++
      (.enter .regression :: ([.switches [("regtest", true), ("testnet", true)]] ++ [.leave none]) ++
        [.arguments ["--testnet"]])) :=
    .append (.select .test) (.append (.scope .regression refused) (.chosen rfl))
  exact .append (.chosen rfl) (.scope .main inner)

/-- Within the scope of the test network every selection but the refused one takes effect, and in
the end the regression network is active.  Closing the scope brings back the production network,
and the older scope is still there. -/
theorem finish_scope_restless :
    ∃ registry, Registry.build (fun _ => .ofWords 0 []) = some (.ok registry) ∧
      Balanced restless ∧
      (trace registry ⟨.main, [.test]⟩ (.enter .test :: restless)).map Prod.snd =
        [⟨.test, [.test, .main]⟩, ⟨.regression, [.test, .main]⟩,
          ⟨.main, [.test, .main, .regression]⟩, ⟨.test, [.test, .main, .regression]⟩,
          ⟨.regression, [.test, .main, .regression, .test]⟩,
          ⟨.regression, [.test, .main, .regression, .test]⟩,
          ⟨.test, [.test, .main, .regression]⟩, ⟨.test, [.test, .main, .regression]⟩,
          ⟨.regression, [.test, .main]⟩] ∧
      (finish registry ⟨.main, [.test]⟩ restless).remembered = [.test] ∧
      finish registry ⟨.main, [.test]⟩ (.enter .test :: (restless ++ [.leave none])) =
        ⟨.main, [.test]⟩ ∧
      (trace registry ⟨.main, [.test]⟩
        (.enter .test :: (restless ++ [.leave none]))).getLast? =
          some (.network .main, ⟨.main, [.test]⟩) := by
  rcases Registry.exists_build_ofWords 0 [] with ⟨registry, built⟩
  exact ⟨registry, built, balanced_restless, rfl,
    balanced_restless.finish_scope registry _ .test⟩

end Balanced

end ChainProfile.Session
