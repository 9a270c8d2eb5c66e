import ChainProfile.Script

/-!
# Reading scripts

A script is read back as a sequence of tokens.  A byte below `0x4c` announces
that many data bytes, three further bytes announce a length field and then data,
and every other byte is an operation of its own.
-/

namespace ChainProfile.Script

/-- A unit of a script. -/
inductive Token where
  | data (bytes : Bytes)
  | opcode (opcode : UInt8)
deriving DecidableEq

/-- The width of the length field behind a push operation that has one. -/
def lengthWidth? (opcode : UInt8) : Option Nat :=
  if opcode = 0x4c then some 1
  else if opcode = 0x4d then some 2
  else if opcode = 0x4e then some 4
  else none

/-- Reads the first token of a script and returns what follows it. -/
def readToken : Bytes → Option (Token × Bytes)
  | [] => none
  | opcode :: rest =>
      if opcode < 0x4c then
        (takeField opcode.toNat rest).map fun (data, after) => (.data data, after)
      else
        match lengthWidth? opcode with
        | none => some (.opcode opcode, rest)
        | some width => do
            let (length, behind) ← readLittleEndian width rest
            let (data, after) ← takeField length behind
            return (.data data, after)

theorem length_lt_of_readToken {bytes rest : Bytes} {token : Token}
    (result : readToken bytes = some (token, rest)) : rest.length < bytes.length := by
  cases bytes with
  | nil => cases result
  | cons opcode following =>
      simp only [readToken] at result
      split at result
      · cases taken : takeField opcode.toNat following with
        | none => simp [taken] at result
        | some split =>
            obtain ⟨data, after⟩ := split
            have whole := (eq_append_of_takeField taken).1
            simp only [taken, Option.map_some, Option.some.injEq, Prod.mk.injEq] at result
            rw [whole, ← result.2, List.length_cons, List.length_append]
            omega
      · split at result
        · cases result
          exact Nat.lt_succ_self _
        · next width _ =>
            cases lengthRead : readLittleEndian width following with
            | none => simp [lengthRead] at result
            | some lengthSplit =>
                obtain ⟨length, behind⟩ := lengthSplit
                cases taken : takeField length behind with
                | none => simp [lengthRead, taken] at result
                | some dataSplit =>
                    obtain ⟨data, after⟩ := dataSplit
                    have whole := (eq_append_of_takeField taken).1
                    obtain ⟨field, front⟩ := exists_eq_append_of_readLittleEndian lengthRead
                    simp only [lengthRead, taken, Option.bind_eq_bind, Option.bind_some,
                      Option.pure_def, Option.some.injEq, Prod.mk.injEq] at result
                    rw [front, whole, ← result.2, List.length_cons, List.length_append,
                      List.length_append]
                    omega

/-- The tokens of a whole script; there are none if a push runs past the end. -/
def tokens? (bytes : Bytes) : Option (List Token) :=
  if bytes.isEmpty then some []
  else
    match read : readToken bytes with
    | none => none
    | some (token, rest) =>
        have := length_lt_of_readToken read
        (tokens? rest).map (token :: ·)
termination_by bytes.length

end ChainProfile.Script
