import ChainProfile.Log.Rule

/-!
# Log filters

A filter is a list of rules, written with commas between them.  Of the rules that
cover a record the most specific decides whether it is shown, and of several that
are equally specific the last.  A record that no rule covers is not shown.
-/

namespace ChainProfile

/-- The rules that say which records are shown. -/
structure LogFilter where
  rules : List LogRule
deriving DecidableEq

namespace LogFilter

/-- The rule that decides on a record: the last of the most specific ones that cover it. -/
def decidingRule? (filter : LogFilter) (record : LogRecord) : Option LogRule :=
  (filter.rules.filter fun rule => rule.covers record).foldl (fun best rule =>
    match best with
    | some leader => if leader.goesBefore rule then some leader else some rule
    | none => some rule) none

/-- Whether a record is shown. -/
def shows (filter : LogFilter) (record : LogRecord) : Bool :=
  (filter.decidingRule? record).any fun rule => rule.verbosity.shows record.level

/-- The texts of the rules in the text of a filter; nothing between two commas is no rule. -/
def ruleTexts (text : String) : List (List Char) :=
  (Text.parts ',' text.toList).filter fun part => part ≠ []

/-- What comes of reading the text of a filter. -/
inductive Reading where
  | done (filter : LogFilter) (complaints : List String)
  /-- A rule with a part that cannot be cut from its text ends the reading, and what was to be
  filtered with it, after the complaints so far. -/
  | broken (complaints : List String)
deriving DecidableEq

/-- Reads a filter of which every rule has to be right; there need not be any. -/
def readStrictly (text : String) : Option Reading :=
  match (ruleTexts text).mapM LogRule.ofText with
  | .ok rules => some (.done ⟨rules⟩ [])
  | .error .torn => some (.broken [])
  | .error _ => none

/-- The filter of rules.  Where there are none, errors are shown. -/
def orErrors (rules : List LogRule) : LogFilter :=
  if rules.isEmpty then ⟨[LogRule.errorsOnly]⟩ else ⟨rules⟩

/-- What is said of a rule that is passed over. -/
def complaint (text : List Char) (fault : LogRule.Fault) : String :=
  "ignoring `" ++ String.ofList text ++ "`: " ++ fault.message

/-- Reads the rules that can be read, and complains of the others.  Given are the rules and the
complaints before, the latest first. -/
def readRules : List LogRule → List String → List (List Char) → Reading
  | rules, complaints, [] => .done (orErrors rules.reverse) complaints.reverse
  | rules, complaints, text :: texts =>
      match LogRule.ofText text with
      | .ok rule => readRules (rule :: rules) complaints texts
      | .error .torn => .broken complaints.reverse
      | .error fault => readRules rules (complaint text fault :: complaints) texts

/-- Reads a filter of which some rules may be wrong. -/
def readLeniently (text : String) : Reading := readRules [] [] (ruleTexts text)

/-- The filter of a run.  The text that the environment gives counts if every rule in it is right;
else the rules that can be read in the text of the settings count. -/
def chosen (environment : Option String) (settings : String) : Reading :=
  (environment.bind readStrictly).getD (readLeniently settings)

end LogFilter

end ChainProfile
