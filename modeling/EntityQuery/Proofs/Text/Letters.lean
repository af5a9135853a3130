import EntityQuery.Text.Identifier
import Mathlib

/-! The small letters of ASCII and their capitals, which identifiers may begin with. -/

namespace EntityQuery.Text

def smallLetters : List Char :=
  "abcdefghijklmnopqrstuvwxyz".toList

variable {c : Char}

theorem mem_smallLetters (small : c.isLower = true) : c ∈ smallLetters := by
  simp only [Char.isLower, Bool.and_eq_true, decide_eq_true_eq, ge_iff_le, UInt32.le_iff_toNat_le] at small
  obtain ⟨first, last⟩ : 97 ≤ c.toNat ∧ c.toNat ≤ 122 := small
  rw [← Char.ofNat_toNat c]
  generalize c.toNat = n at first last
  interval_cases n <;> decide

theorem of_isLower {p : Char → Bool} (each : smallLetters.all p = true) (small : c.isLower = true) : p c = true :=
  List.all_eq_true.mp each c (mem_smallLetters small)

theorem isIdentifierStart_of_isLower (small : c.isLower = true) : isIdentifierStart c = true :=
  of_isLower (p := isIdentifierStart) (by decide +kernel) small

theorem isIdentifierStart_toUpper (small : c.isLower = true) : isIdentifierStart c.toUpper = true :=
  of_isLower (p := fun c => isIdentifierStart c.toUpper) (by decide +kernel) small

end EntityQuery.Text
