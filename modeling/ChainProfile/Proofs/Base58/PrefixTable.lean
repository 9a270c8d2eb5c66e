import ChainProfile.Error
import Mathlib.Logic.Basic

/-!
# The first fault of a table of prefixes

A kind is clean if it is marked and no later kind is marked alike.  A table is
usable exactly when every kind is clean, and otherwise the fault that is found is
the one of the first kind that is not clean.  Validation for a network accepts the
usable tables and refuses any other with this fault.
-/

namespace ChainProfile

/-- The place of a kind in the order of the table. -/
def KeyKind.index (kind : KeyKind) : Nat := all.idxOf kind

theorem KeyKind.index_inj {first second : KeyKind} (same : first.index = second.index) :
    first = second := by
  cases first <;> cases second <;> first | rfl | cases same

theorem KeyKind.mem_all (kind : KeyKind) : kind ∈ all := by
  cases kind <;> decide

theorem KeyKind.mem_iff_index_lt {kind later : KeyKind} {rest : List KeyKind}
    (ending : kind :: rest <:+ all) : later ∈ rest ↔ kind.index < later.index := by
  simp only [all, List.suffix_cons_iff, List.cons.injEq, List.suffix_nil, reduceCtorEq,
    or_false] at ending
  rcases ending with ⟨rfl, rfl⟩ | ⟨rfl, rfl⟩ | ⟨rfl, rfl⟩ | ⟨rfl, rfl⟩ | ⟨rfl, rfl⟩ <;>
    cases later <;> decide

namespace PrefixTable

/-- The entries of some kinds. -/
def entriesOf (table : PrefixTable) (kinds : List KeyKind) : List (KeyKind × Bytes) :=
  kinds.map fun kind => (kind, table.get kind)

/-- Whether a kind has an entry that is not empty and that no later kind has. -/
def IsClean (table : PrefixTable) (kind : KeyKind) : Prop :=
  table.get kind ≠ [] ∧
    ∀ later : KeyKind, kind.index < later.index → table.get later ≠ table.get kind

/-- What is wrong with a kind: its entry is empty, or else the next kind with that entry is
named. -/
inductive HasFault (table : PrefixTable) (kind : KeyKind) : PrefixFault → Prop where
  | empty (unmarked : table.get kind = []) : HasFault table kind (.empty kind)
  | collision {other : KeyKind} (marked : table.get kind ≠ []) (later : kind.index < other.index)
      (alike : table.get other = table.get kind)
      (nearest : ∀ between : KeyKind, kind.index < between.index → between.index < other.index →
        table.get between ≠ table.get kind) :
      HasFault table kind (.collision kind other)

/-- Whether a fault is the one of the first kind that is not clean. -/
def IsFirstFault (table : PrefixTable) (fault : PrefixFault) : Prop :=
  ∃ kind, table.HasFault kind fault ∧
    ∀ earlier : KeyKind, earlier.index < kind.index → table.IsClean earlier

variable {table : PrefixTable}

theorem isUsable_iff_isClean : table.IsUsable ↔ ∀ kind, table.IsClean kind := by
  constructor
  · rintro ⟨marked, distinct⟩ kind
    refine ⟨marked kind, ?_⟩
    intro later after alike
    rw [distinct later kind alike] at after
    omega
  · intro clean
    refine ⟨fun kind => (clean kind).1, ?_⟩
    intro first second alike
    rcases Nat.lt_trichotomy first.index second.index with before | same | after
    · exact absurd alike.symm ((clean first).2 second before)
    · exact KeyKind.index_inj same
    · exact absurd alike ((clean second).2 first after)

theorem HasFault.not_isClean {kind : KeyKind} {fault : PrefixFault}
    (faulty : table.HasFault kind fault) : ¬table.IsClean kind := by
  rintro ⟨marked, distinct⟩
  cases faulty with
  | empty unmarked => exact marked unmarked
  | collision _ later alike _ => exact distinct _ later alike

theorem HasFault.unique {kind : KeyKind} {fault other : PrefixFault}
    (faulty : table.HasFault kind fault) (alsoFaulty : table.HasFault kind other) :
    fault = other := by
  cases faulty with
  | empty unmarked =>
      cases alsoFaulty with
      | empty => rfl
      | collision marked => exact absurd unmarked marked
  | @collision first marked firstLater firstAlike firstNearest =>
      cases alsoFaulty with
      | empty unmarked => exact absurd unmarked marked
      | @collision second _ secondLater secondAlike secondNearest =>
          rcases Nat.lt_trichotomy first.index second.index with before | same | after
          · exact absurd firstAlike (secondNearest first firstLater before)
          · rw [KeyKind.index_inj same]
          · exact absurd secondAlike (firstNearest second secondLater after)

theorem IsFirstFault.unique {fault other : PrefixFault} (found : table.IsFirstFault fault)
    (alsoFound : table.IsFirstFault other) : fault = other := by
  rcases found with ⟨kind, faulty, clean⟩
  rcases alsoFound with ⟨otherKind, otherFaulty, otherClean⟩
  rcases Nat.lt_trichotomy kind.index otherKind.index with before | same | after
  · exact absurd (otherClean kind before) faulty.not_isClean
  · rw [KeyKind.index_inj same] at faulty
    exact faulty.unique otherFaulty
  · exact absurd (clean otherKind after) otherFaulty.not_isClean

theorem hasFault_collision_of_find?_eq_some {kind other : KeyKind} {rest : List KeyKind}
    (ending : kind :: rest <:+ KeyKind.all) (marked : table.get kind ≠ [])
    (found : rest.find? (fun later => table.get later == table.get kind) = some other) :
    table.HasFault kind (.collision kind other) := by
  rcases List.find?_eq_some_iff_append.mp found with ⟨alike, before, behind, rfl, different⟩
  have otherEnding : other :: behind <:+ KeyKind.all :=
    ((List.suffix_append before _).trans (List.suffix_cons kind _)).trans ending
  apply HasFault.collision marked
  · apply (KeyKind.mem_iff_index_lt ending).mp
    exact List.mem_append_right before List.mem_cons_self
  · exact eq_of_beq alike
  · intro between after nearer same
    rcases List.mem_append.mp ((KeyKind.mem_iff_index_lt ending).mpr after) with passed | left
    · exact absurd (beq_iff_eq.mpr same) (by simpa using different between passed)
    · rcases List.mem_cons.mp left with rfl | later
      · omega
      · have further := (KeyKind.mem_iff_index_lt otherEnding).mp later
        omega

theorem faultAmong_cons_of_isClean {kind : KeyKind} {rest : List KeyKind}
    (ending : kind :: rest <:+ KeyKind.all) (clean : table.IsClean kind) :
    faultAmong (table.entriesOf (kind :: rest)) = faultAmong (table.entriesOf rest) := by
  have none : (rest.find? fun later => table.get later == table.get kind) = none := by
    rw [List.find?_eq_none]
    intro later member alike
    exact clean.2 later ((KeyKind.mem_iff_index_lt ending).mp member) (eq_of_beq alike)
  rw [entriesOf, List.map_cons, faultAmong, if_neg (by simpa using clean.1), List.find?_map]
  simp only [Function.comp_def, none, Option.map_none]
  rfl

theorem exists_faultAmong_cons_eq_some {kind : KeyKind} {rest : List KeyKind}
    (ending : kind :: rest <:+ KeyKind.all) (unclean : ¬table.IsClean kind) :
    ∃ fault, faultAmong (table.entriesOf (kind :: rest)) = some fault ∧
      table.HasFault kind fault := by
  rw [entriesOf, List.map_cons, faultAmong, List.find?_map]
  by_cases unmarked : table.get kind = []
  · exact ⟨.empty kind, by simp [unmarked], .empty unmarked⟩
  · rw [if_neg (by simpa using unmarked)]
    simp only [Function.comp_def]
    cases found : rest.find? (fun later => table.get later == table.get kind) with
    | none =>
        apply absurd ⟨unmarked, ?_⟩ unclean
        intro later after alike
        have member := (KeyKind.mem_iff_index_lt ending).mpr after
        exact List.find?_eq_none.mp found later member (beq_iff_eq.mpr alike)
    | some other =>
        exact ⟨.collision kind other, rfl,
          hasFault_collision_of_find?_eq_some ending unmarked found⟩

/-- No fault is found among the last kinds exactly when each of them is clean. -/
theorem faultAmong_eq_none_iff {kinds : List KeyKind} (ending : kinds <:+ KeyKind.all) :
    faultAmong (table.entriesOf kinds) = none ↔ ∀ kind ∈ kinds, table.IsClean kind := by
  induction kinds with
  | nil => simp [entriesOf, faultAmong]
  | cons kind rest ih =>
      rw [List.forall_mem_cons]
      by_cases clean : table.IsClean kind
      · rw [faultAmong_cons_of_isClean ending clean,
          ih ((List.suffix_cons kind rest).trans ending)]
        exact (and_iff_right clean).symm
      · rcases exists_faultAmong_cons_eq_some ending clean with ⟨fault, found, _⟩
        simp [found, clean]

/-- A fault found among the last kinds is the one of the first that is not clean. -/
theorem exists_of_faultAmong_eq_some {kinds : List KeyKind} (ending : kinds <:+ KeyKind.all)
    {fault : PrefixFault} (found : faultAmong (table.entriesOf kinds) = some fault) :
    ∃ kind ∈ kinds, table.HasFault kind fault ∧
      ∀ earlier ∈ kinds, earlier.index < kind.index → table.IsClean earlier := by
  induction kinds with
  | nil => cases found
  | cons kind rest ih =>
      by_cases clean : table.IsClean kind
      · rw [faultAmong_cons_of_isClean ending clean] at found
        rcases ih ((List.suffix_cons kind rest).trans ending) found with
          ⟨faulty, member, hasFault, cleanBefore⟩
        refine ⟨faulty, List.mem_cons_of_mem kind member, hasFault, ?_⟩
        rw [List.forall_mem_cons]
        exact ⟨fun _ => clean, cleanBefore⟩
      · rcases exists_faultAmong_cons_eq_some ending clean with ⟨other, foundHere, hasFault⟩
        cases found.symm.trans foundHere
        refine ⟨kind, List.mem_cons_self, hasFault, ?_⟩
        intro earlier member before
        rcases List.mem_cons.mp member with rfl | later
        · omega
        · have after := (KeyKind.mem_iff_index_lt ending).mp later
          omega

theorem firstFault?_eq_none_iff : table.firstFault? = none ↔ table.IsUsable := by
  rw [isUsable_iff_isClean]
  constructor
  · intro faultless kind
    exact (faultAmong_eq_none_iff List.suffix_rfl).mp faultless kind kind.mem_all
  · intro clean
    exact (faultAmong_eq_none_iff List.suffix_rfl).mpr fun kind _ => clean kind

/-- The fault found in a table is the one of the first kind that is not clean. -/
theorem firstFault?_eq_some_iff {fault : PrefixFault} :
    table.firstFault? = some fault ↔ table.IsFirstFault fault := by
  have sound {fault : PrefixFault} (found : table.firstFault? = some fault) :
      table.IsFirstFault fault := by
    rcases exists_of_faultAmong_eq_some List.suffix_rfl found with ⟨kind, _, hasFault, clean⟩
    exact ⟨kind, hasFault, fun earlier => clean earlier earlier.mem_all⟩
  constructor
  · exact sound
  · intro first
    cases found : table.firstFault? with
    | none =>
        rcases first with ⟨kind, hasFault, _⟩
        rw [firstFault?_eq_none_iff, isUsable_iff_isClean] at found
        exact absurd (found kind) hasFault.not_isClean
    | some other => rw [(sound found).unique first]

/-! ## Validation for a network -/

variable {network : Network}

theorem validate_eq_ok_iff : table.validate network = .ok () ↔ table.IsUsable := by
  rw [← firstFault?_eq_none_iff, validate]
  cases table.firstFault? <;> simp

theorem validate_eq_error_iff {fault : PrefixFault} :
    table.validate network = .error (.prefixes network fault) ↔ table.IsFirstFault fault := by
  rw [← firstFault?_eq_some_iff, validate]
  cases table.firstFault? <;> simp

/-- Whether the entry of a kind is empty or is the entry of a later kind as well. -/
def IsFaulty (table : PrefixTable) (kind : KeyKind) : Prop :=
  table.get kind = [] ∨
    ∃ later : KeyKind, kind.index < later.index ∧ table.get later = table.get kind

theorem isFaulty_iff {kind : KeyKind} : table.IsFaulty kind ↔ ¬table.IsClean kind := by
  simp [IsFaulty, IsClean, imp_iff_not_or]

/-- Whether a kind is the first behind another one with the same entry. -/
structure IsNextAlike (table : PrefixTable) (kind next : KeyKind) : Prop where
  later : kind.index < next.index
  alike : table.get next = table.get kind
  nearest : ∀ between : KeyKind, kind.index < between.index → between.index < next.index →
    table.get between ≠ table.get kind

/-- A table is accepted exactly if every kind has an entry and no two kinds have the same.  Any
other table is refused for its first faulty kind: because its entry is empty, or else because of the
next kind with that entry.  So a collision names two kinds in their order, and with one entry. -/
theorem validate_eq_ok_iff_and_exists_eq_error (table : PrefixTable) (network : Network) :
    (table.validate network = .ok () ↔
      (∀ kind, table.get kind ≠ []) ∧
        ∀ first second, first ≠ second → table.get first ≠ table.get second) ∧
    (table.validate network ≠ .ok () →
      ∃ kind : KeyKind, table.IsFaulty kind ∧
        (∀ earlier : KeyKind, earlier.index < kind.index → ¬table.IsFaulty earlier) ∧
        (table.get kind = [] ∧ table.validate network = .error (.prefixes network (.empty kind)) ∨
          table.get kind ≠ [] ∧ ∃ next, table.IsNextAlike kind next ∧
            table.validate network = .error (.prefixes network (.collision kind next)))) ∧
    ∀ first second : KeyKind,
      table.validate network = .error (.prefixes network (.collision first second)) →
        first.index < second.index ∧ table.get first = table.get second := by
  refine ⟨?_, ?_, ?_⟩
  · rw [validate_eq_ok_iff, IsUsable]
    apply and_congr_right
    intro _
    exact forall₂_congr fun first second => not_imp_not.symm
  · intro refused
    cases found : table.firstFault? with
    | none => exact absurd (validate_eq_ok_iff.mpr (firstFault?_eq_none_iff.mp found)) refused
    | some fault =>
        have first := firstFault?_eq_some_iff.mp found
        have reported : table.validate network = .error (.prefixes network fault) :=
          validate_eq_error_iff.mpr first
        rcases first with ⟨kind, hasFault, cleanBefore⟩
        refine ⟨kind, isFaulty_iff.mpr hasFault.not_isClean, ?_, ?_⟩
        · intro earlier before faulty
          exact isFaulty_iff.mp faulty (cleanBefore earlier before)
        · cases hasFault with
          | empty unmarked => exact .inl ⟨unmarked, reported⟩
          | collision marked later alike nearest =>
              exact .inr ⟨marked, _, ⟨later, alike, nearest⟩, reported⟩
  · intro first second reported
    rcases validate_eq_error_iff.mp reported with ⟨kind, hasFault, _⟩
    cases hasFault with
    | collision _ later alike _ => exact ⟨later, alike.symm⟩

/-- A table with one entry for three kinds and none for a fourth. -/
def crowded : PrefixTable := ⟨[1], [2, 3], [2, 3], [], [2, 3]⟩

/-- The collision of the first two of the three kinds is reported. -/
theorem validate_eq_ok_iff_and_exists_eq_error_crowded :
    crowded.validate .test ≠ .ok () ∧
      crowded.validate .test = .error (.prefixes .test (.collision .scriptAddress .secretKey)) ∧
      KeyKind.scriptAddress.index < KeyKind.secretKey.index ∧
      ∃ kind : KeyKind, crowded.IsFaulty kind ∧
        ∀ earlier : KeyKind, earlier.index < kind.index → ¬crowded.IsFaulty earlier := by
  have reported :
      crowded.validate .test = .error (.prefixes .test (.collision .scriptAddress .secretKey)) :=
    rfl
  have refused : crowded.validate .test ≠ .ok () := by
    rw [reported]
    exact nofun
  rcases validate_eq_ok_iff_and_exists_eq_error crowded .test with ⟨_, fails, ordered⟩
  rcases fails refused with ⟨kind, faulty, faultlessBefore, _⟩
  exact ⟨refused, reported, (ordered _ _ reported).1, kind, faulty, faultlessBefore⟩

end PrefixTable

end ChainProfile
