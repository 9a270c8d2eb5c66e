import ChainProfile.Bytes

/-!
# Compact sizes

Counts and lengths take one, three, five or nine bytes.  A value up to `0xfc` is
its own byte; a larger one follows a mark byte that tells the width of its field.
`read` takes any form, `readShortest` only the form that `encode` writes.  Sizes that
follow one another are written by `append` and read by `readAll`.
-/

namespace ChainProfile.CompactSize

/-- The bytes of a size in the shortest form that holds it. -/
def encode (size : UInt64) : Bytes :=
  let value := size.toNat
  if value ≤ 0xfc then littleEndian 1 value
  else if value ≤ 0xffff then 0xfd :: littleEndian 2 value
  else if value ≤ 0xffffffff then 0xfe :: littleEndian 4 value
  else 0xff :: littleEndian 8 value

/-- Adds a size to what has been written, cut down to the narrowest word that holds it. -/
def append (written : Bytes) (size : UInt64) : Bytes :=
  if size ≤ 0xfc then written ++ [size.toUInt8]
  else if size ≤ 0xffff then written ++ [0xfd] ++ littleEndian 2 size.toUInt16.toNat
  else if size ≤ 0xffffffff then written ++ [0xfe] ++ littleEndian 4 size.toUInt32.toNat
  else written ++ [0xff] ++ littleEndian 8 size.toNat

/-- A form with a mark byte: the width of its field and the least value it is meant for. -/
structure Form where
  width : Nat
  least : Nat

/-- The form that a first byte announces; any other first byte is the value itself. -/
def form? (mark : UInt8) : Option Form :=
  if mark = 0xfd then some ⟨2, 0xfd⟩
  else if mark = 0xfe then some ⟨4, 0x10000⟩
  else if mark = 0xff then some ⟨8, 0x100000000⟩
  else none

/-- Reads a size in any form and returns what follows it. -/
def read : Bytes → Option (UInt64 × Bytes)
  | [] => none
  | mark :: rest =>
      match form? mark with
      | none => some (mark.toUInt64, rest)
      | some form =>
          (readLittleEndian form.width rest).map fun (value, after) => (UInt64.ofNat value, after)

theorem length_lt_of_read {bytes rest : Bytes} {size : UInt64}
    (result : read bytes = some (size, rest)) : rest.length < bytes.length := by
  cases bytes with
  | nil => cases result
  | cons mark behind =>
      simp only [read] at result
      split at result
      · cases result
        exact Nat.lt_succ_self _
      · rcases Option.map_eq_some_iff.mp result with ⟨⟨value, after⟩, fieldRead, same⟩
        cases same
        rcases exists_eq_append_of_readLittleEndian fieldRead with ⟨field, rfl⟩
        simp only [List.length_cons, List.length_append]
        omega

/-- Reads sizes in any form until nothing is left. -/
def readAll (bytes : Bytes) : Option (List UInt64) :=
  if bytes.isEmpty then some []
  else
    match result : read bytes with
    | none => none
    | some (size, rest) =>
        have := length_lt_of_read result
        (readAll rest).map (size :: ·)
termination_by bytes.length

/-- Reads a size that must be in its shortest form. -/
def readShortest : Bytes → Option (UInt64 × Bytes)
  | [] => none
  | mark :: rest =>
      match form? mark with
      | none => some (mark.toUInt64, rest)
      | some form => do
          let (value, after) ← readLittleEndian form.width rest
          if form.least ≤ value then return (UInt64.ofNat value, after) else none

end ChainProfile.CompactSize
