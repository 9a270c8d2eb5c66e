import ChainProfile.Proofs.Script.Number
import ChainProfile.Proofs.Script.Push

/-!
# Reading back a built script

Every step of building a script appends bytes of its own, and the tokenizer reads them
as one token, whatever follows (`readToken_written`).  The tokens of a script are
therefore those of the steps that built it, in order.
-/

namespace ChainProfile.Script

/-- The token that a step appends.  Numbers are data but for minus one and one to sixteen, which
have operations of their own. -/
def Step.token : Step → Token
  | .integer value =>
      if value = -1 then .opcode pushNegativeOne
      else if 1 ≤ value ∧ value ≤ 16 then .opcode (smallNumberBase + UInt8.ofNat value.toInt.toNat)
      else .data (ScriptNumber.encode value)
  | .number value => .data (ScriptNumber.encode value)
  | .data bytes => .data bytes
  | .opcode code => .opcode code

/-- A step that the tokenizer can read back: the length of its data fits into four bytes, and a
single operation is none of those that announce data. -/
def Step.IsReadable : Step → Prop
  | .integer _ => True
  | .number _ => True
  | .data bytes => bytes.length < 2 ^ 32
  | .opcode code => 0x4f ≤ code

/-- The bytes that a step appends. -/
def Step.written (step : Step) : Bytes := (empty.push step).bytes

/-! ## One step -/

theorem bytes_pushNumber (script : Script) (value : Int64) :
    (script.pushNumber value).bytes = script.bytes ++ (empty.pushNumber value).bytes := by
  simp [pushNumber, pushData, empty]

theorem bytes_pushInteger (script : Script) (value : Int64) :
    (script.pushInteger value).bytes = script.bytes ++ (empty.pushInteger value).bytes := by
  unfold pushInteger
  split
  · rfl
  · split
    · rfl
    · split
      · rfl
      · exact bytes_pushNumber script value

theorem bytes_push (script : Script) (step : Step) :
    (script.push step).bytes = script.bytes ++ step.written := by
  cases step with
  | integer value => exact bytes_pushInteger script value
  | number value => exact bytes_pushNumber script value
  | data data => rfl
  | opcode opcode => rfl

theorem readToken_of_le {opcode : UInt8} (single : 0x4f ≤ opcode) (rest : Bytes) :
    readToken (opcode :: rest) = some (.opcode opcode, rest) := by
  have large : ¬opcode < 0x4c := by
    rw [UInt8.not_lt]
    exact UInt8.le_trans (by decide) single
  cases announced : lengthWidth? opcode with
  | none => simp only [readToken, if_neg large, announced]
  | some width =>
      rcases lengthWidth?_eq_some announced with ⟨rfl, _⟩ | ⟨rfl, _⟩ | ⟨rfl, _⟩
      all_goals exact absurd single (by decide)

theorem readToken_pushData {data : Bytes} (short : data.length < 2 ^ 32) (rest : Bytes) :
    readToken ((empty.pushData data).bytes ++ rest) = some (.data data, rest) := by
  simpa [pushData, empty] using readToken_pushHeader_append short rest

theorem readToken_pushNumber (value : Int64) (rest : Bytes) :
    readToken ((empty.pushNumber value).bytes ++ rest) =
      some (.data (ScriptNumber.encode value), rest) := by
  apply readToken_pushData
  exact Nat.lt_of_le_of_lt (ScriptNumber.length_encode_le value) (by decide)

theorem le_smallNumber {value : Int64} (small : 1 ≤ value ∧ value ≤ 16) :
    0x4f ≤ smallNumberBase + UInt8.ofNat value.toInt.toNat := by
  have most : value.toInt ≤ 16 := Int64.le_iff_toInt_le.mp small.2
  have number : (UInt8.ofNat value.toInt.toNat).toNat = value.toInt.toNat :=
    UInt8.toNat_ofNat_of_lt' (Nat.lt_of_le_of_lt (Int.toNat_le.mpr most) (by decide))
  have few : value.toInt.toNat ≤ 16 := Int.toNat_le.mpr most
  have base : smallNumberBase.toNat = 0x50 := rfl
  rw [UInt8.le_iff_toNat_le, UInt8.toNat_add, number, base]
  simp only [UInt8.reduceToNat]
  omega

theorem readToken_pushInteger (value : Int64) (rest : Bytes) :
    readToken ((empty.pushInteger value).bytes ++ rest) =
      some ((Step.integer value).token, rest) := by
  by_cases negative : value = -1
  · simp only [pushInteger, Step.token, if_pos negative]
    exact readToken_of_le (by decide) rest
  · by_cases zero : value = 0
    · subst zero
      rw [pushInteger, if_neg (by decide), if_pos rfl, Step.token, if_neg (by decide),
        if_neg (by decide), ScriptNumber.encode_zero]
      have few : ([] : Bytes).length < 0x4c := by decide
      exact readToken_of_length_lt few rest
    · by_cases small : 1 ≤ value ∧ value ≤ 16
      · simp only [pushInteger, Step.token, if_neg negative, if_neg zero, if_pos small]
        exact readToken_of_le (le_smallNumber small) rest
      · simp only [pushInteger, Step.token, if_neg negative, if_neg zero, if_neg small]
        exact readToken_pushNumber value rest

/-- The bytes of a step are read as its token, whatever follows. -/
theorem readToken_written {step : Step} (readable : step.IsReadable) (rest : Bytes) :
    readToken (step.written ++ rest) = some (step.token, rest) := by
  cases step with
  | integer value => exact readToken_pushInteger value rest
  | number value => exact readToken_pushNumber value rest
  | data data => exact readToken_pushData readable rest
  | opcode opcode => exact readToken_of_le readable rest

/-! ## All steps -/

theorem bytes_foldl_push (script : Script) (steps : List Step) :
    (steps.foldl push script).bytes = script.bytes ++ steps.flatMap Step.written := by
  induction steps generalizing script with
  | nil => simp
  | cons step steps ih =>
      rw [List.foldl_cons, ih, bytes_push, List.flatMap_cons, List.append_assoc]

theorem bytes_build (steps : List Step) : (build steps).bytes = steps.flatMap Step.written := by
  rw [build, bytes_foldl_push]
  rfl

theorem tokens?_nil : tokens? [] = some [] := by
  rw [tokens?]
  rfl

theorem tokens?_of_readToken {bytes rest : Bytes} {token : Token}
    (read : readToken bytes = some (token, rest)) :
    tokens? bytes = (tokens? rest).map (token :: ·) := by
  have nonempty : bytes ≠ [] := by
    rintro rfl
    cases read
  rw [tokens?, if_neg (by simpa using nonempty)]
  split
  · next missing =>
      rw [read] at missing
      cases missing
  · next found =>
      rw [read] at found
      cases found
      rfl

theorem tokens?_flatMap_written {steps : List Step}
    (readable : ∀ step ∈ steps, step.IsReadable) :
    tokens? (steps.flatMap Step.written) = some (steps.map Step.token) := by
  induction steps with
  | nil => exact tokens?_nil
  | cons step steps ih =>
      rw [List.forall_mem_cons] at readable
      rw [List.flatMap_cons, tokens?_of_readToken (readToken_written readable.1 _), ih readable.2]
      rfl

theorem eq_nil_of_tokens?_eq_nil {bytes : Bytes} (none : tokens? bytes = some []) :
    bytes = [] := by
  rw [tokens?] at none
  split at none
  · next empty => simpa using empty
  · split at none
    · cases none
    · rcases Option.map_eq_some_iff.mp none with ⟨_, _, more⟩
      cases more

/-- A script of one token holds nothing else. -/
theorem readToken_of_tokens?_eq_singleton {bytes : Bytes} {token : Token}
    (single : tokens? bytes = some [token]) : readToken bytes = some (token, []) := by
  rw [tokens?] at single
  split at single
  · cases single
  · split at single
    · cases single
    · next first rest read =>
        rcases Option.map_eq_some_iff.mp single with ⟨others, behind, whole⟩
        simp only [List.cons.injEq] at whole
        rcases whole with ⟨rfl, rfl⟩
        rw [read, eq_nil_of_tokens?_eq_nil behind]

theorem written_data (data : Bytes) :
    (Step.data data).written = pushHeader data.length ++ data :=
  rfl

/-- Every other script that is read as the data is longer than a push of the data. -/
theorem length_written_lt {data form : Bytes} (single : tokens? form = some [.data data])
    (other : form ≠ (Step.data data).written) :
    (Step.data data).written.length < form.length := by
  rcases exists_isHeader_of_readToken (readToken_of_tokens?_eq_singleton single) with
    ⟨header, announces, whole⟩
  rw [List.append_nil] at whole
  rcases announces.eq_or_length_lt with rfl | shorter
  · exact absurd whole other
  · rw [whole, written_data, List.length_append, List.length_append]
    exact Nat.add_lt_add_right shorter _

/-- A script that is built step by step is read as one token for each step.  A step appends bytes
that do not depend on the script, and a push of data appends the shortest bytes that are read as
the data. -/
theorem tokens?_build_and_length_written_lt :
    (∀ steps : List Step, (∀ step ∈ steps, step.IsReadable) →
      tokens? (build steps).bytes = some (steps.map Step.token)) ∧
      (∀ (script : Script) (step : Step),
        (script.push step).bytes = script.bytes ++ step.written) ∧
      ∀ data : Bytes, data.length < 2 ^ 32 →
        tokens? (Step.data data).written = some [.data data] ∧
          ∀ form, tokens? form = some [.data data] → form ≠ (Step.data data).written →
            (Step.data data).written.length < form.length := by
  refine ⟨?_, bytes_push, ?_⟩
  · intro steps readable
    rw [bytes_build]
    exact tokens?_flatMap_written readable
  · intro data short
    constructor
    · have readable : ∀ step ∈ [Step.data data], step.IsReadable := by
        intro step member
        rw [List.mem_singleton.mp member]
        exact short
      simpa [Step.token] using tokens?_flatMap_written readable
    · intro form single other
      exact length_written_lt single other

/-- Steps of every kind; the data is made of bytes that announce data themselves. -/
def mixedSteps : List Step :=
  [.integer (-1), .integer 0, .integer 16, .integer 17, .number 4,
    .data (List.replicate 76 0x4c), .opcode checkSignature]

theorem isReadable_of_mem_mixedSteps : ∀ step ∈ mixedSteps, step.IsReadable := by
  simp [mixedSteps, Step.IsReadable, checkSignature]

/-- Seventy-six bytes are the fewest that need a length field, which is one byte and not two. -/
theorem tokens?_build_and_length_written_lt_mixedSteps :
    (∀ step ∈ mixedSteps, step.IsReadable) ∧
      tokens? (build mixedSteps).bytes =
        some [.opcode 0x4f, .data [], .opcode 0x60, .data [0x11], .data [0x04],
          .data (List.replicate 76 0x4c), .opcode 0xac] ∧
      tokens? ([0x4d, 76, 0] ++ List.replicate 76 0x4c) = some [.data (List.replicate 76 0x4c)] ∧
      (Step.data (List.replicate 76 0x4c)).written.length <
        ([0x4d, 76, 0] ++ List.replicate 76 (0x4c : UInt8)).length := by
  rcases tokens?_build_and_length_written_lt with ⟨built, _, shortest⟩
  have read : readToken ([0x4d, 76, 0] ++ List.replicate 76 0x4c) =
      some (.data (List.replicate 76 0x4c), []) := by decide
  have single : tokens? ([0x4d, 76, 0] ++ List.replicate 76 0x4c) =
      some [.data (List.replicate 76 0x4c)] := by
    rw [tokens?_of_readToken read, tokens?_nil]
    rfl
  have other : [0x4d, 76, 0] ++ List.replicate 76 0x4c ≠
      (Step.data (List.replicate 76 0x4c)).written := by decide
  refine ⟨isReadable_of_mem_mixedSteps, ?_, single, ?_⟩
  · rw [built _ isReadable_of_mem_mixedSteps]
    decide
  · exact (shortest _ (by decide)).2 _ single other

end ChainProfile.Script
