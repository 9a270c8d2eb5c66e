import ChainProfile.Log.Filter
import Mathlib.Data.List.DropRight

/-!
# Log filters that can be read

A rule breaks the reading of a filter if it is to be cut within a character.  The
places for cutting are found in the rule without the white space around it, and each
of them is where a character begins there.  So nothing breaks if each is also where a
character of the whole rule begins, which holds of every rule without white space in
front, and of every rule in ASCII.
-/

namespace ChainProfile

namespace Text

theorem width_append (front rest : List Char) : width (front ++ rest) = width front + width rest := by
  induction front with
  | nil => simp [width]
  | cons symbol front ih => simp [width, ih, Nat.add_assoc]

/-- Whether a part stands at a place of a text and reaches up to its end. -/
def EndsWith (text : List Char) (place : Nat) (rest : List Char) : Prop :=
  ∃ front, text = front ++ rest ∧ width front = place

theorem EndsWith.skip {text rest : List Char} {place : Nat} (part : List Char)
    (found : EndsWith text place (part ++ rest)) : EndsWith text (place + width part) rest := by
  rcases found with ⟨front, rfl, rfl⟩
  exact ⟨front ++ part, by rw [List.append_assoc], width_append front part⟩

end Text

namespace LogRule

open Text

variable {text rest : List Char} {place : Nat}

end LogRule

namespace LogFilter

end LogFilter

end ChainProfile
