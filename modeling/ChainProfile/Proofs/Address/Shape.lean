import ChainProfile.Address
import ChainProfile.Proofs.Parameters.Registry
import ChainProfile.Proofs.Base58.RoundTrip

/-!
# What addresses look like

An address is a number of twenty-five bytes in base 58: the prefix of its kind, twenty bytes of
hash and a checksum.  For a prefix of one byte these numbers make up an interval.  The prefixes
for keys and scripts are such that all numbers of the interval have equally many digits and the
same highest digit, so the length and the first character of an address tell its kind, whatever
the hash and the checksum are.
-/

namespace ChainProfile

/-! ## The first symbol -/

namespace Base58

/-- All numbers with a first byte and `count` more bytes lie between a digit's multiple of a power
of 58 and the next multiple. -/
def Leads (first : UInt8) (count digit places : Nat) : Prop :=
  (0 < digit ∧ digit < 58) ∧ digit * 58 ^ places ≤ first.toNat * 256 ^ count ∧
    (first.toNat + 1) * 256 ^ count ≤ (digit + 1) * 58 ^ places

instance (first : UInt8) (count digit places : Nat) : Decidable (Leads first count digit places) :=
  inferInstanceAs (Decidable (_ ∧ _))

/-- Such numbers are written with the digit in front and that many places behind it. -/
theorem Leads.exists_toList_encode_eq_cons {first : UInt8} {rest : Bytes} {digit places : Nat}
    (leads : Leads first rest.length digit places) :
    ∃ later, later.length = places ∧
      (encode (first :: rest)).toList = symbol digit :: later := by
  rcases leads with ⟨⟨positive, bounded⟩, least, greatest⟩
  have marked : first ≠ 0 := by
    rintro rfl
    have exceeds : 0 < digit * 58 ^ places := Nat.mul_pos positive (Nat.pow_pos (by decide))
    simp only [UInt8.reduceToNat, Nat.zero_mul] at least
    omega
  have lowBytes := ofBigEndian_lt rest
  have valueLeast : digit * 58 ^ places ≤ ofBigEndian (first :: rest) := by
    rw [ofBigEndian_cons]
    omega
  have valueGreatest : ofBigEndian (first :: rest) < (digit + 1) * 58 ^ places := by
    rw [Nat.add_mul, Nat.one_mul] at greatest
    rw [ofBigEndian_cons]
    omega
  rcases Radix.exists_digits_eq_append (Nat.ne_of_gt positive) bounded valueLeast valueGreatest with
    ⟨lower, counted, written⟩
  refine ⟨lower.reverse.map symbol, by simp [counted], ?_⟩
  simp [encode, marked, written]

end Base58

/-! ## Addresses -/

namespace Address

/-- The length of a text and its first character. -/
structure Shape where
  length : Nat
  first : Char

/-- Whether a text has a length and a first character. -/
def Shape.Fits (shape : Shape) (text : String) : Prop :=
  text.length = shape.length ∧ text.toList.head? = some shape.first

/-- The shape of the addresses of keys. -/
def keyShape : Network → Shape
  | .main => ⟨34, 'b'⟩
  | .test => ⟨34, 'u'⟩
  | .regression => ⟨34, 'u'⟩

/-- The shape of the addresses of scripts. -/
def scriptShape : Network → Shape
  | .main => ⟨34, '3'⟩
  | .test => ⟨35, '2'⟩
  | .regression => ⟨35, '2'⟩

variable {hash guard : Bytes}

theorem fits_of_leads {first : UInt8} {digit places : Nat}
    (leads : Base58.Leads first 24 digit places) (hashLength : hash.length = 20)
    (guardLength : guard.length = 4) :
    Shape.Fits ⟨places + 1, Base58.symbol digit⟩ (Base58.encode ([first] ++ hash ++ guard)) := by
  have width : (hash ++ guard).length = 24 := by simp [hashLength, guardLength]
  rw [← width] at leads
  rcases leads.exists_toList_encode_eq_cons with ⟨later, counted, written⟩
  constructor
  · simp [← String.length_toList, written, counted]
  · simp [written]

theorem fits_keyShape_and_scriptShape (network : Network) (hashLength : hash.length = 20)
    (guardLength : guard.length = 4) :
    (keyShape network).Fits (Base58.encode
        ((Profile.ofNetwork network).prefixes.get .pubkeyAddress ++ hash ++ guard)) ∧
      (scriptShape network).Fits (Base58.encode
        ((Profile.ofNetwork network).prefixes.get .scriptAddress ++ hash ++ guard)) := by
  have mainKey : Base58.Leads 85 24 34 33 := by decide
  have mainScript : Base58.Leads 5 24 2 33 := by decide
  have testKey : Base58.Leads 130 24 52 33 := by decide
  have testScript : Base58.Leads 196 24 1 34 := by decide
  have onTest := And.intro (fits_of_leads testKey hashLength guardLength)
    (fits_of_leads testScript hashLength guardLength)
  cases network with
  | main =>
      exact ⟨fits_of_leads mainKey hashLength guardLength,
        fits_of_leads mainScript hashLength guardLength⟩
  | test => exact onTest
  | regression => exact onTest

/-- The addresses of a network's keys have one length and one first character, and so have those of
its scripts, for every hash.  The same holds with any four bytes in place of the checksum.  The
parameters of the networks are built at any moment that supplies their fixed seeds. -/
theorem fits_ofKeyHash_and_ofScriptHash (moment : Network → Moment) :
    ((∃ registry, Registry.build moment = some (.ok registry)) ↔
      ∀ network, (moment network).Supplies (Profile.ofNetwork network).fixedSeeds.length) ∧
    ∀ registry, Registry.build moment = some (.ok registry) →
      ∀ (network : Network) (hash : Bytes), hash.length = 20 →
        (keyShape network).Fits (ofKeyHash (registry.get network) hash) ∧
          (scriptShape network).Fits (ofScriptHash (registry.get network) hash) ∧
          ∀ guard : Bytes, guard.length = 4 →
            (keyShape network).Fits (Base58.encode
              ((registry.get network).prefixes.get .pubkeyAddress ++ hash ++ guard)) ∧
            (scriptShape network).Fits (Base58.encode
              ((registry.get network).prefixes.get .scriptAddress ++ hash ++ guard)) := by
  refine ⟨Registry.exists_build_eq_ok_iff, ?_⟩
  intro registry built network hash hashLength
  simp only [ofKeyHash, ofScriptHash, encode, Base58Check.encode, Registry.prefixes_get built]
  refine ⟨?_, ?_, ?_⟩
  · exact (fits_keyShape_and_scriptShape network hashLength (Base58Check.length_checksum _)).1
  · exact (fits_keyShape_and_scriptShape network hashLength (Base58Check.length_checksum _)).2
  · intro guard guardLength
    exact fits_keyShape_and_scriptShape network hashLength guardLength

/-- The greatest hash of all is shaped like any other. -/
theorem fits_ofKeyHash_and_ofScriptHash_greatest :
    (List.replicate 20 (0xff : UInt8)).length = 20 ∧
      (List.replicate 4 (0xff : UInt8)).length = 4 ∧
      ∃ registry, Registry.build (fun _ => .ofWords 0 []) = some (.ok registry) ∧
        (ofKeyHash (registry.get .main) (List.replicate 20 0xff)).toList.head? = some 'b' ∧
        (ofScriptHash (registry.get .test) (List.replicate 20 0xff)).length = 35 ∧
        (Base58.encode ((registry.get .main).prefixes.get .scriptAddress ++
          List.replicate 20 0xff ++ List.replicate 4 0xff)).toList.head? = some '3' := by
  have hashLength : (List.replicate 20 (0xff : UInt8)).length = 20 := by decide
  have guardLength : (List.replicate 4 (0xff : UInt8)).length = 4 := by decide
  rcases fits_ofKeyHash_and_ofScriptHash (fun _ => .ofWords 0 []) with ⟨builds_iff, fits⟩
  rcases builds_iff.mpr (fun _ => Moment.supplies_ofWords 0 [] _) with ⟨registry, built⟩
  refine ⟨hashLength, guardLength, registry, built, ?_, ?_, ?_⟩
  · exact (fits registry built .main _ hashLength).1.2
  · exact (fits registry built .test _ hashLength).2.1.1
  · exact ((fits registry built .main _ hashLength).2.2 _ guardLength).2.2

end Address

end ChainProfile
