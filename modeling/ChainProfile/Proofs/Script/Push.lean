import ChainProfile.Proofs.Bytes
import ChainProfile.Script.Token

/-!
# Reading back one push

A push of data announces its length in the first byte or in a field behind it.
Either way the tokenizer returns the data and what follows it, so the bytes of a
push determine the data that was pushed.  The other way round, whatever the tokenizer
reads as data is announced in one of these forms (`IsHeader`), and the form that a
push chooses is the shortest of them.
-/

namespace ChainProfile.Script

theorem lengthWidth?_eq_some {opcode : UInt8} {width : Nat}
    (announced : lengthWidth? opcode = some width) :
    opcode = 0x4c ∧ width = 1 ∨ opcode = 0x4d ∧ width = 2 ∨ opcode = 0x4e ∧ width = 4 := by
  unfold lengthWidth? at announced
  split at announced
  · next one => exact .inl ⟨one, (Option.some.inj announced).symm⟩
  · split at announced
    · next two => exact .inr (.inl ⟨two, (Option.some.inj announced).symm⟩)
    · split at announced
      · next four => exact .inr (.inr ⟨four, (Option.some.inj announced).symm⟩)
      · cases announced

theorem readToken_of_lengthWidth? {opcode : UInt8} {width : Nat} {data : Bytes}
    (announced : lengthWidth? opcode = some width) (fits : data.length < 256 ^ width)
    (rest : Bytes) :
    readToken (opcode :: (littleEndian width data.length ++ (data ++ rest))) =
      some (.data data, rest) := by
  have large : ¬opcode < 0x4c := by
    rcases lengthWidth?_eq_some announced with ⟨rfl, _⟩ | ⟨rfl, _⟩ | ⟨rfl, _⟩
    all_goals decide
  simp only [readToken, if_neg large, announced, readLittleEndian_append fits,
    Option.bind_eq_bind, Option.bind_some, takeField_append]
  rfl

theorem readToken_of_length_lt {data : Bytes} (few : data.length < 0x4c) (rest : Bytes) :
    readToken (UInt8.ofNat data.length :: (data ++ rest)) = some (.data data, rest) := by
  have represented : (UInt8.ofNat data.length).toNat = data.length :=
    UInt8.toNat_ofNat_of_lt' (Nat.lt_trans few (by decide))
  have small : UInt8.ofNat data.length < 0x4c := by
    rw [UInt8.lt_iff_toNat_lt, represented]
    exact few
  simp only [readToken, if_pos small, represented, takeField_append, Option.map_some]

/-- A push is read back as its data, whatever follows. -/
theorem readToken_pushHeader_append {data : Bytes} (short : data.length < 2 ^ 32) (rest : Bytes) :
    readToken (pushHeader data.length ++ (data ++ rest)) = some (.data data, rest) := by
  unfold pushHeader
  split
  · next few => exact readToken_of_length_lt few rest
  · split
    · next one => exact readToken_of_lengthWidth? rfl (Nat.lt_succ_of_le one) rest
    · split
      · next two => exact readToken_of_lengthWidth? rfl (Nat.lt_succ_of_le two) rest
      · exact readToken_of_lengthWidth? rfl short rest

theorem eq_of_pushHeader_append_eq {first second : Bytes} (firstShort : first.length < 2 ^ 32)
    (secondShort : second.length < 2 ^ 32)
    (same : pushHeader first.length ++ first = pushHeader second.length ++ second) :
    first = second := by
  have firstRead := readToken_pushHeader_append firstShort []
  have secondRead := readToken_pushHeader_append secondShort []
  rw [List.append_nil] at firstRead secondRead
  rw [same, secondRead] at firstRead
  simp only [Option.some.injEq, Prod.mk.injEq, Token.data.injEq, and_true] at firstRead
  exact firstRead.symm

/-! ## The forms of a push -/

/-- The bytes that can announce `length` data bytes: the length itself, or an operation with a
length field that is wide enough. -/
inductive IsHeader (length : Nat) : Bytes → Prop where
  | direct (few : length < 0x4c) : IsHeader length (littleEndian 1 length)
  | field {opcode : UInt8} {width : Nat} (announced : lengthWidth? opcode = some width)
      (fits : length < 256 ^ width) : IsHeader length (opcode :: littleEndian width length)

/-- What is read as data has been announced. -/
theorem exists_isHeader_of_readToken {bytes data rest : Bytes}
    (read : readToken bytes = some (.data data, rest)) :
    ∃ header, IsHeader data.length header ∧ bytes = header ++ (data ++ rest) := by
  cases bytes with
  | nil => cases read
  | cons opcode following =>
      simp only [readToken] at read
      split at read
      · next small =>
          rcases Option.map_eq_some_iff.mp read with ⟨⟨field, after⟩, taken, same⟩
          simp only [Prod.mk.injEq, Token.data.injEq] at same
          rcases same with ⟨rfl, rfl⟩
          rcases eq_append_of_takeField taken with ⟨whole, announced⟩
          have own : littleEndian 1 field.length = [opcode] := by
            rw [announced, littleEndian, littleEndian, UInt8.ofNat_toNat]
          refine ⟨littleEndian 1 field.length, .direct ?_, ?_⟩
          · rw [announced]
            exact UInt8.lt_iff_toNat_lt.mp small
          · rw [own, whole, List.singleton_append]
      · split at read
        · cases read
        · next width announced =>
            cases lengthRead : readLittleEndian width following with
            | none => simp [lengthRead] at read
            | some lengthSplit =>
                rcases lengthSplit with ⟨length, behind⟩
                cases taken : takeField length behind with
                | none => simp [lengthRead, taken] at read
                | some dataSplit =>
                    rcases dataSplit with ⟨field, after⟩
                    simp only [lengthRead, taken, Option.bind_eq_bind, Option.bind_some,
                      Option.pure_def, Option.some.injEq, Prod.mk.injEq,
                      Token.data.injEq] at read
                    rcases read with ⟨rfl, rfl⟩
                    rcases eq_append_of_takeField taken with ⟨whole, rfl⟩
                    rcases eq_append_of_readLittleEndian lengthRead with ⟨front, fits⟩
                    refine ⟨_, .field announced fits, ?_⟩
                    rw [front, whole, List.cons_append]

/-- A push is announced in the shortest form, and no other form is as short. -/
theorem IsHeader.eq_or_length_lt {length : Nat} {header : Bytes} (announces : IsHeader length header) :
    header = pushHeader length ∨ (pushHeader length).length < header.length := by
  unfold pushHeader
  cases announces with
  | direct few => exact .inl (if_pos few).symm
  | field announced fits =>
      rcases lengthWidth?_eq_some announced with ⟨rfl, rfl⟩ | ⟨rfl, rfl⟩ | ⟨rfl, rfl⟩
      · split
        · right
          simp
        · rw [if_pos (Nat.le_of_lt_succ fits)]
          exact .inl rfl
      · split
        · right
          simp
        · split
          · right
            simp
          · rw [if_pos (Nat.le_of_lt_succ fits)]
            exact .inl rfl
      · split
        · right
          simp
        · split
          · right
            simp
          · split
            · right
              simp
            · exact .inl rfl

theorem length_pushHeader_le (length : Nat) : (pushHeader length).length ≤ 5 := by
  unfold pushHeader
  split
  · simp
  · split
    · simp
    · split <;> simp

end ChainProfile.Script
