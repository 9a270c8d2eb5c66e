import ChainProfile.Digest
import ChainProfile.Proofs.Hex

/-!
# Display forms of digests

A text is a display form if sixty-four digits of either case are left when one leading `0x` is
taken away.  Every display form is read as the digest that is written as these digits in lower
case, and every other text is refused for the first of three faults it has: an odd number of
bytes, another number than sixty-four, or a byte that is no digit.
-/

namespace ChainProfile

/-- Sixty-four digits of either case. -/
def Digest.IsDisplay (digits : Bytes) : Prop :=
  digits.length = 64 ∧ ∀ byte ∈ digits, Hex.IsDigit byte

/-- The fault for which bytes are refused as digits of a digest. -/
inductive HexFault.Spoils (digits : Bytes) : HexFault → Prop where
  | odd (unpaired : digits.length % 2 = 1) : Spoils digits .oddLength
  | length (paired : digits.length % 2 = 0) (other : digits.length ≠ 64) :
      Spoils digits .wrongLength
  | digit {front rest : Bytes} {byte : UInt8} (whole : digits = front ++ byte :: rest)
      (sized : digits.length = 64) (before : ∀ each ∈ front, Hex.IsDigit each)
      (foreign : ¬Hex.IsDigit byte) : Spoils digits (.foreignDigit byte front.length)

namespace Digest

/-- A text without the `0x` it may begin with. -/
def withoutMark (text : String) : String :=
  match text.toList with
  | '0' :: 'x' :: digits => String.ofList digits
  | _ => text

theorem unmarked_utf8 (text : String) : unmarked (utf8 text) = utf8 (withoutMark text) := by
  unfold withoutMark
  split
  · next digits marked =>
      have zero : String.utf8EncodeChar '0' = [0x30] := by decide
      have mark : String.utf8EncodeChar 'x' = [0x78] := by decide
      simp [utf8, marked, zero, mark, unmarked]
  · next unmarkedText =>
      unfold unmarked
      split
      · next digits written =>
          -- Both bytes of a mark lie within ASCII, so they are the first two characters.
          rcases exists_eq_cons_of_flatMap_eq_cons (by decide) written with
            ⟨others, front, behind⟩
          rcases exists_eq_cons_of_flatMap_eq_cons (by decide) behind with ⟨rest, next, _⟩
          rw [next] at front
          exact absurd front (unmarkedText rest)
      · rfl

/-! ## The outcome of reading -/

variable {text : String}

theorem ofHex_eq_ok_of_decode? {digest : Digest}
    (decoded : Hex.decode? (withoutMark text) = some digest.bytes.reverse) :
    ofHex text = .ok digest := by
  rw [Hex.decode?, ← unmarked_utf8] at decoded
  have paired := Hex.two_mul_length_of_decodePairs? decoded
  rw [List.length_reverse, digest.length_bytes] at paired
  unfold ofHex
  rw [if_neg (by omega), dif_pos paired.symm]
  split
  · next found =>
      rw [decoded] at found
      cases found
      simp
  · next missing =>
      rw [decoded] at missing
      cases missing

theorem exists_ofHex_eq_ok (display : IsDisplay (utf8 (withoutMark text))) :
    ∃ digest, ofHex text = .ok digest ∧ digest.toHex = (withoutMark text).toLower := by
  rcases display with ⟨sized, allDigits⟩
  rcases Hex.exists_decodePairs?_eq_some (by omega) allDigits with ⟨bytes, read, written⟩
  have paired := Hex.two_mul_length_of_decodePairs? read
  have width : bytes.reverse.length = 32 := by
    rw [List.length_reverse]
    omega
  refine ⟨⟨bytes.reverse, width⟩, ?_, ?_⟩
  · apply ofHex_eq_ok_of_decode?
    simpa [Hex.decode?] using read
  · have ascii : ∀ byte ∈ utf8 (withoutMark text), byte < 0x80 :=
      fun byte member => Hex.lt_of_isDigit (allDigits byte member)
    have lower : (withoutMark text).toLower = (withoutMark text).map Char.toLower := rfl
    apply String.toList_inj.mp
    simp only [toHex, Hex.encode, List.reverse_reverse, String.toList_ofList, written,
      lower, String.toList_map, toList_eq_map_of_ascii ascii, List.map_map]
    rfl

theorem ofHex_eq_error_of_spoils {fault : HexFault}
    (spoils : fault.Spoils (utf8 (withoutMark text))) : ofHex text = .error fault := by
  rw [← unmarked_utf8] at spoils
  unfold ofHex
  cases spoils with
  | odd unpaired => rw [if_pos unpaired]
  | length paired other => rw [if_neg (by omega), dif_neg other]
  | @digit front rest byte whole sized before foreign =>
      have member : byte ∈ unmarked (utf8 text) := by simp [whole]
      have unread := Hex.decodePairs?_eq_none_of_mem member foreign
      have place : (unmarked (utf8 text)).findIdx (fun byte => (Hex.value? byte).isNone) =
          front.length := by
        have pass : ∀ each ∈ front, (Hex.value? each).isNone = false := by
          intro each inFront
          rcases Hex.exists_value?_eq_some (before each inFront) with ⟨value, read⟩
          simp [read]
        simp [whole, List.findIdx_append, List.findIdx_eq_length.mpr pass, List.findIdx_cons,
          Hex.value?_eq_none_iff.mpr foreign]
      rw [if_neg (by omega), dif_pos sized]
      split
      · next found =>
          rw [unread] at found
          cases found
      · simp only [place]
        simp [whole]

/-- Bytes are a display form or are spoiled by a fault. -/
theorem exists_spoils {digits : Bytes} (undisplayed : ¬IsDisplay digits) :
    ∃ fault : HexFault, fault.Spoils digits := by
  by_cases unpaired : digits.length % 2 = 1
  · exact ⟨_, .odd unpaired⟩
  · by_cases sized : digits.length = 64
    · cases found : digits.find? fun byte => !decide (Hex.IsDigit byte) with
      | none =>
          have allDigits : ∀ byte ∈ digits, Hex.IsDigit byte := by
            simpa using List.find?_eq_none.mp found
          exact absurd ⟨sized, allDigits⟩ undisplayed
      | some byte =>
          rcases List.find?_eq_some_iff_append.mp found with ⟨foreign, front, rest, whole, before⟩
          exact ⟨_, .digit whole sized (by simpa using before) (by simpa using foreign)⟩
    · exact ⟨_, .length (by omega) sized⟩

/-- Reading takes display forms and nothing else, and names the fault of any other text. -/
theorem ofHex_outcome (text : String) :
    (IsDisplay (utf8 (withoutMark text)) ∧
        ∃ digest, ofHex text = .ok digest ∧ digest.toHex = (withoutMark text).toLower) ∨
      (¬IsDisplay (utf8 (withoutMark text)) ∧
        ∃ fault, ofHex text = .error fault ∧ fault.Spoils (utf8 (withoutMark text))) := by
  by_cases display : IsDisplay (utf8 (withoutMark text))
  · exact .inl ⟨display, exists_ofHex_eq_ok display⟩
  · rcases exists_spoils display with ⟨fault, spoils⟩
    exact .inr ⟨display, fault, ofHex_eq_error_of_spoils spoils, spoils⟩

/-! ## Reading what was written -/

theorem withoutMark_append (text : String) : withoutMark ("0x" ++ text) = text := by
  simp [withoutMark]

theorem withoutMark_encode (bytes : Bytes) : withoutMark (Hex.encode bytes) = Hex.encode bytes := by
  cases bytes with
  | nil => rfl
  | cons byte rest =>
      have otherThanMark : Hex.digit (byte.toNat % 16) ≠ 'x' := by
        have table : ∀ value < 16, Hex.digit value ≠ 'x' := by decide
        exact table _ (Hex.div_lt_and_mod_lt byte).2
      unfold withoutMark
      split
      · next digits marked =>
          simp only [Hex.encode, String.toList_ofList, List.flatMap_cons, Hex.digits,
            List.cons_append, List.cons.injEq] at marked
          exact absurd marked.2.1 otherThanMark
      · rfl

theorem ofHex_of_withoutMark_eq_toHex {digest : Digest} (form : withoutMark text = digest.toHex) :
    ofHex text = .ok digest := by
  apply ofHex_eq_ok_of_decode?
  rw [form, toHex, Hex.decode?_encode]

theorem ofHex_toHex (digest : Digest) : ofHex digest.toHex = .ok digest :=
  ofHex_of_withoutMark_eq_toHex (withoutMark_encode _)

theorem toHex_injective {first second : Digest} (same : first.toHex = second.toHex) :
    first = second := by
  have firstRead := ofHex_toHex first
  rw [same, ofHex_toHex second] at firstRead
  exact (Except.ok.inj firstRead).symm

/-- A text is read exactly if it is a display form behind at most one mark, and then as the digest
that is written as its digits in lower case.  Any other text is refused exactly for the first fault
it has.  A written digest is read back with and without a mark. -/
theorem ofHex_eq_ok_iff_and_eq_error_iff :
    (∀ text : String,
      ((∃ digest, ofHex text = .ok digest) ↔ IsDisplay (utf8 (withoutMark text))) ∧
      (∀ digest, ofHex text = .ok digest ↔
        IsDisplay (utf8 (withoutMark text)) ∧ digest.toHex = (withoutMark text).toLower) ∧
      ∀ fault : HexFault, ofHex text = .error fault ↔ fault.Spoils (utf8 (withoutMark text))) ∧
    ∀ digest : Digest, ofHex digest.toHex = .ok digest ∧ ofHex ("0x" ++ digest.toHex) = .ok digest := by
  constructor
  · intro text
    rcases ofHex_outcome text with ⟨display, digest, read, written⟩ | ⟨other, fault, read, spoils⟩
    · refine ⟨by simp [read, display], ?_, ?_⟩
      · intro result
        simp only [read, Except.ok.injEq, display, true_and, ← written]
        constructor
        · rintro rfl
          rfl
        · intro same
          exact (toHex_injective same).symm
      · intro fault
        exact ⟨fun refused => by simp [read] at refused, ofHex_eq_error_of_spoils⟩
    · refine ⟨by simp [read, other], by simp [read, other], ?_⟩
      intro reported
      constructor
      · intro refused
        rw [read] at refused
        cases refused
        exact spoils
      · exact ofHex_eq_error_of_spoils
  · intro digest
    exact ⟨ofHex_toHex digest, ofHex_of_withoutMark_eq_toHex (withoutMark_append _)⟩

/-- A mark is taken away once only; a second one is not made of digits. -/
example : ofHex ("0x0x" ++ String.ofList (List.replicate 62 '0')) =
    .error (.foreignDigit 0x78 1) := by
  rfl

end Digest

end ChainProfile
