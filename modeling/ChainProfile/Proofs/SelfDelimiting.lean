import ChainProfile.Proofs.Bytes
import ChainProfile.Transaction.Reader

/-!
# Self-delimiting formats

A format is a writer and a reader that returns what follows the part it read.
`SelfDelimiting` says that the two are exact inverses: whatever stands behind it,
a written value is read back, and nothing but written values is accepted.  It
follows that no written form is the beginning of another (`eq_of_isPrefix`).

Formats are put together field by field.  In `headed` a field of the value is
read first, and how the rest is read may depend on it, as with a count in front
of a list; `mapped` reads the last field.
-/

namespace ChainProfile

variable {Value Key : Type}

/-- A reader and a writer of one format: reading undoes writing whatever follows, and whatever is
read has been written. -/
structure SelfDelimiting (Fits : Value → Prop) (write : Value → Bytes)
    (read : Bytes → Option (Value × Bytes)) : Prop where
  read_append : ∀ {value : Value}, Fits value → ∀ rest : Bytes,
    read (write value ++ rest) = some (value, rest)
  eq_append : ∀ {bytes rest : Bytes} {value : Value}, read bytes = some (value, rest) →
    Fits value ∧ bytes = write value ++ rest

namespace SelfDelimiting

variable {Fits : Value → Prop} {write : Value → Bytes} {read : Bytes → Option (Value × Bytes)}
  {FitsKey : Key → Prop} {writeKey : Key → Bytes} {readKey : Bytes → Option (Key × Bytes)}

/-- Two written values followed by anything agree only if the values and what follows agree. -/
theorem append_inj (format : SelfDelimiting Fits write read) {first second : Value}
    {firstRest secondRest : Bytes} (firstFits : Fits first) (secondFits : Fits second)
    (same : write first ++ firstRest = write second ++ secondRest) :
    first = second ∧ firstRest = secondRest := by
  have firstRead := format.read_append firstFits firstRest
  rw [same, format.read_append secondFits secondRest] at firstRead
  simp only [Option.some.injEq, Prod.mk.injEq] at firstRead
  exact ⟨firstRead.1.symm, firstRead.2.symm⟩

/-- No written form is the beginning of the written form of another value. -/
theorem eq_of_isPrefix (format : SelfDelimiting Fits write read) {first second : Value}
    (firstFits : Fits first) (secondFits : Fits second) (begins : write first <+: write second) :
    first = second := by
  rcases begins with ⟨rest, whole⟩
  have same : write first ++ rest = write second ++ [] := by rw [whole, List.append_nil]
  exact (format.append_inj firstFits secondFits same).1

theorem eq_of_write_eq (format : SelfDelimiting Fits write read) {first second : Value}
    (firstFits : Fits first) (secondFits : Fits second) (same : write first = write second) :
    first = second :=
  format.eq_of_isPrefix firstFits secondFits (same ▸ List.prefix_rfl)

theorem congr {Fits' : Value → Prop} (format : SelfDelimiting Fits write read)
    (sameValues : ∀ value, Fits value ↔ Fits' value) : SelfDelimiting Fits' write read where
  read_append fits rest := format.read_append ((sameValues _).mpr fits) rest
  eq_append result := by
    rcases format.eq_append result with ⟨fits, whole⟩
    exact ⟨(sameValues _).mp fits, whole⟩

/-- A format whose values are read in two parts: a key, and then the rest as the key demands. -/
theorem headed (key : Value → Key) {writeBody : Value → Bytes}
    {next : Key × Bytes → Option (Value × Bytes)}
    (head : SelfDelimiting FitsKey writeKey readKey)
    (fitsKey : ∀ value, Fits value → FitsKey (key value))
    (body : ∀ found, FitsKey found → SelfDelimiting (fun value => Fits value ∧ key value = found)
      writeBody (fun rest => next (found, rest))) :
    SelfDelimiting Fits (fun value => writeKey (key value) ++ writeBody value)
      (fun bytes => readKey bytes >>= next) where
  read_append := by
    intro value fits rest
    have keyFits := fitsKey value fits
    have bodyRead := (body (key value) keyFits).read_append ⟨fits, rfl⟩ rest
    simp only [List.append_assoc, head.read_append keyFits, Option.bind_eq_bind,
      Option.bind_some, bodyRead]
  eq_append := by
    intro bytes rest value result
    cases keyRead : readKey bytes with
    | none => simp [keyRead] at result
    | some split =>
        rcases split with ⟨found, behind⟩
        rcases head.eq_append keyRead with ⟨keyFits, whole⟩
        simp only [keyRead, Option.bind_eq_bind, Option.bind_some] at result
        rcases (body found keyFits).eq_append result with ⟨⟨fits, rfl⟩, remaining⟩
        exact ⟨fits, by rw [whole, remaining, List.append_assoc]⟩

/-- A format whose values are made from a single key. -/
theorem mapped (key : Value → Key) (make : Key → Value)
    {next : Key × Bytes → Option (Value × Bytes)}
    (inner : SelfDelimiting FitsKey writeKey readKey)
    (ends : ∀ found rest, next (found, rest) = some (make found, rest))
    (made : ∀ value found,
      (Fits value ∧ key value = found) ↔ (FitsKey found ∧ value = make found)) :
    SelfDelimiting Fits (fun value => writeKey (key value))
      (fun bytes => readKey bytes >>= next) where
  read_append := by
    intro value fits rest
    rcases (made value (key value)).mp ⟨fits, rfl⟩ with ⟨keyFits, restored⟩
    simp only [inner.read_append keyFits, Option.bind_eq_bind, Option.bind_some, ends,
      ← restored]
  eq_append := by
    intro bytes rest value result
    cases keyRead : readKey bytes with
    | none => simp [keyRead] at result
    | some split =>
        rcases split with ⟨found, behind⟩
        rcases inner.eq_append keyRead with ⟨keyFits, whole⟩
        simp only [keyRead, Option.bind_eq_bind, Option.bind_some, ends, Option.some.injEq,
          Prod.mk.injEq] at result
        rcases result with ⟨rfl, rfl⟩
        rcases (made (make found) found).mpr ⟨keyFits, rfl⟩ with ⟨fits, sameKey⟩
        exact ⟨fits, by rw [sameKey, whole]⟩

/-- A number in a field of fixed width. -/
theorem littleEndianField (width : Nat) :
    SelfDelimiting (· < 256 ^ width) (littleEndian width) (readLittleEndian width) where
  read_append fits rest := readLittleEndian_append fits rest
  eq_append result := (eq_append_of_readLittleEndian result).symm

/-- A field of fixed width as its bytes. -/
theorem byteField (width : Nat) :
    SelfDelimiting (fun field => field.length = width) id (takeField width) where
  read_append := by
    intro field sized rest
    rw [← sized]
    exact takeField_append field rest
  eq_append result := (eq_append_of_takeField result).symm

/-- A known number of records one after another. -/
theorem many (format : SelfDelimiting Fits write read) (count : Nat) :
    SelfDelimiting (fun records => records.length = count ∧ ∀ record ∈ records, Fits record)
      (fun records => records.flatMap write) (readMany read count) where
  read_append := by
    intro records fits rest
    rcases fits with ⟨sized, eachFits⟩
    subst sized
    induction records with
    | nil => rfl
    | cons record records ih =>
        rw [List.forall_mem_cons] at eachFits
        simp only [List.length_cons, readMany, List.flatMap_cons, List.append_assoc,
          format.read_append eachFits.1, ih eachFits.2, Option.bind_eq_bind, Option.bind_some]
        rfl
  eq_append := by
    intro bytes rest records result
    induction count generalizing bytes rest records with
    | zero =>
        simp only [readMany, Option.some.injEq, Prod.mk.injEq] at result
        rcases result with ⟨rfl, rfl⟩
        simp
    | succ count ih =>
        cases firstRead : read bytes with
        | none => simp [readMany, firstRead] at result
        | some split =>
            rcases split with ⟨record, behind⟩
            rcases format.eq_append firstRead with ⟨recordFits, whole⟩
            cases othersRead : readMany read count behind with
            | none => simp [readMany, firstRead, othersRead] at result
            | some remaining =>
                rcases remaining with ⟨others, after⟩
                rcases ih othersRead with ⟨⟨othersSized, othersFit⟩, behindWhole⟩
                simp only [readMany, firstRead, othersRead, Option.bind_eq_bind,
                  Option.bind_some, Option.pure_def, Option.some.injEq,
                  Prod.mk.injEq] at result
                rcases result with ⟨rfl, rfl⟩
                refine ⟨⟨?_, ?_⟩, ?_⟩
                · rw [List.length_cons, othersSized]
                · exact List.forall_mem_cons.mpr ⟨recordFits, othersFit⟩
                · rw [whole, behindWhole, List.flatMap_cons, List.append_assoc]

end SelfDelimiting

end ChainProfile
