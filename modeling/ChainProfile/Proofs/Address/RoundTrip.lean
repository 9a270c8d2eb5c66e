import ChainProfile.Address
import ChainProfile.Proofs.Base58.RoundTrip

/-!
# Addresses and their payloads

Reading an address undoes each step of writing it: the base, the checksum and the
prefix.  No step accepts anything but what writing produces, so each payload has
exactly one text on a network and for a kind, whatever its prefix is.
-/

namespace ChainProfile.Address

theorem stripLeading_eq_some_iff {leading data payload : Bytes} :
    stripLeading leading data = some payload ↔ data = leading ++ payload := by
  induction leading generalizing data with
  | nil => simp [stripLeading]
  | cons wanted leading ih =>
      cases data with
      | nil => simp [stripLeading]
      | cons byte data =>
          rw [stripLeading, List.cons_append, List.cons.injEq]
          split
          · next same => simp [ih, same]
          · next different => simp [Ne.symm different]

theorem stripLeading_eq_none_iff {leading data : Bytes} :
    stripLeading leading data = none ↔ ¬leading <+: data := by
  cases stripped : stripLeading leading data with
  | none =>
      simp only [true_iff]
      rintro ⟨payload, whole⟩
      rw [stripLeading_eq_some_iff.mpr whole.symm] at stripped
      cases stripped
  | some payload =>
      have begins : leading <+: data := ⟨payload, (stripLeading_eq_some_iff.mp stripped).symm⟩
      simp [begins]

variable {parameters : Parameters} {kind : KeyKind} {text : String} {payload : Bytes}

/-- A text is read as a payload when the data behind its checksum is the prefix and the payload. -/
theorem decode_eq_ok_iff_base58Check :
    decode parameters kind text = .ok payload ↔
      Base58Check.decode text = .ok (parameters.prefixes.get kind ++ payload) := by
  unfold decode
  cases Base58Check.decode text with
  | error fault => simp
  | ok data =>
      simp only [Except.ok.injEq, ← stripLeading_eq_some_iff]
      cases stripLeading (parameters.prefixes.get kind) data with
      | none => simp
      | some rest => simp

/-- A text is read as a payload exactly when it is the text of that payload.  So every payload is
read back from its text, and no payload is read from two texts. -/
theorem decode_eq_ok_iff_encode_eq (parameters : Parameters) (kind : KeyKind) :
    (∀ text payload,
      decode parameters kind text = .ok payload ↔ encode parameters kind payload = text) ∧
    (∀ payload, decode parameters kind (encode parameters kind payload) = .ok payload) ∧
    ∀ payload, ∃! text, decode parameters kind text = .ok payload := by
  have exact_inverse (text : String) (payload : Bytes) :
      decode parameters kind text = .ok payload ↔ encode parameters kind payload = text := by
    rw [decode_eq_ok_iff_base58Check, Base58Check.decode_eq_ok_iff]
    rfl
  refine ⟨exact_inverse, ?_, ?_⟩
  · intro payload
    exact (exact_inverse _ payload).mpr rfl
  · intro payload
    refine ⟨encode parameters kind payload, (exact_inverse _ payload).mpr rfl, ?_⟩
    intro text result
    exact ((exact_inverse text payload).mp result).symm

end ChainProfile.Address
