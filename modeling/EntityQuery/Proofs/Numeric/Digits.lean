import EntityQuery.Calendar.Date
import EntityQuery.Numeric.Reading
import Mathlib.Data.Nat.Digits.Defs

/-!
Integers in digits. What is written of an integer is read as that integer, whether or not zeros stand before it.
-/

namespace EntityQuery.Numeric

open EntityQuery.Calendar

variable {n width : Nat} {c : Char} {s : List Char}

/-! ### Digits of natural numbers -/

theorem ofDigits_eq (s : List Char) : ofDigits s = Nat.ofDigitChars 10 s 0 := rfl

theorem ofDigits_repr (n : Nat) : ofDigits n.repr.toList = n := by
  rw [ofDigits_eq, Nat.toList_repr, Nat.ofDigitChars_toDigits (by decide) (by decide)]

theorem isDigit_of_mem_repr (member : c ∈ n.repr.toList) : isDigit c = true := by
  rw [Nat.toList_repr] at member
  exact Nat.isDigit_of_mem_toDigits (by decide) (by decide) member

theorem repr_ne_nil (n : Nat) : n.repr.toList ≠ [] := by
  rw [Nat.toList_repr]
  exact Nat.toDigits_ne_nil

theorem readNat?_of_digits (digits : ∀ c ∈ s, isDigit c = true) (nonempty : s ≠ []) :
    readNat? s = some (ofDigits s) :=
  if_pos ⟨nonempty, List.all_eq_true.mpr digits⟩

theorem readNat?_repr (n : Nat) : readNat? n.repr.toList = some n := by
  rw [readNat?_of_digits (fun _ => isDigit_of_mem_repr) (repr_ne_nil n), ofDigits_repr]

theorem exists_digit_of_repr (n : Nat) : ∃ c rest, n.repr.toList = c :: rest ∧ isDigit c = true := by
  obtain ⟨c, rest, same⟩ := List.exists_cons_of_ne_nil (repr_ne_nil n)
  exact ⟨c, rest, same, isDigit_of_mem_repr (same ▸ List.mem_cons_self)⟩

/-! ### Zeros in front -/

theorem toList_padded (width n : Nat) :
    (padded width n).toList = List.replicate (width - n.repr.length) '0' ++ n.repr.toList := by
  unfold padded
  rw [String.toList_append, String.toList_ofList]

theorem ofDigits_zeros (count : Nat) (s : List Char) : ofDigits (List.replicate count '0' ++ s) = ofDigits s := by
  induction count with
  | zero => rfl
  | succ count ih =>
    rw [List.replicate_succ]
    exact ih

theorem ofDigits_padded (width n : Nat) : ofDigits (padded width n).toList = n := by
  rw [toList_padded, ofDigits_zeros, ofDigits_repr]

theorem isDigit_of_mem_padded (member : c ∈ (padded width n).toList) : isDigit c = true := by
  rw [toList_padded, List.mem_append] at member
  rcases member with zero | digit
  · rw [List.eq_of_mem_replicate zero]
    rfl
  · exact isDigit_of_mem_repr digit

theorem padded_ne_nil (width n : Nat) : (padded width n).toList ≠ [] := by
  rw [toList_padded]
  exact List.append_ne_nil_of_right_ne_nil _ (repr_ne_nil n)

theorem length_padded (positive : 0 < width) (fits : n < 10 ^ width) :
    (padded width n).toList.length = width := by
  have short : n.repr.length ≤ width := by
    rw [← String.length_toList, Nat.toList_repr]
    exact (Nat.length_toDigits_le_iff (by decide) positive).mpr fits
  rw [toList_padded, List.length_append, List.length_replicate, String.length_toList]
  omega

/-! ### Integers of 64 bits -/

theorem readSign_of_digit {rest : List Char} (digit : isDigit c = true) :
    readSign (c :: rest) = (false, c :: rest) := by
  unfold readSign
  split
  · rename_i same
    cases same
    exact absurd digit (by decide)
  · rename_i same
    cases same
    exact absurd digit (by decide)
  · rfl

theorem readInt?_of_readSign {digits : List Char} {negative : Bool} (signed : readSign s = (negative, digits))
    (read : readNat? digits = some n) : readInt? s = some (if negative then -(n : Int) else n) := by
  unfold readInt?
  rw [signed]
  dsimp only
  rw [read]
  rfl

theorem toList_negSucc (n : Nat) : (toString (Int.negSucc n)).toList = '-' :: (n + 1).repr.toList := by
  change ("-" ++ (n + 1).repr).toList = _
  rw [String.toList_append]
  rfl

theorem readInt?_toString (n : Int) : readInt? (toString n).toList = some n := by
  cases n with
  | ofNat n =>
    obtain ⟨c, rest, same, digit⟩ := exists_digit_of_repr n
    have signed : readSign n.repr.toList = (false, n.repr.toList) := by
      rw [same, readSign_of_digit digit]
    exact readInt?_of_readSign signed (readNat?_repr n)
  | negSucc n =>
    have signed : readSign (toString (Int.negSucc n)).toList = (true, (n + 1).repr.toList) := by
      rw [toList_negSucc]
      rfl
    exact readInt?_of_readSign signed (readNat?_repr (n + 1))

theorem readInt64?_toString (n : Int64) : readInt64? (toString n.toInt).toList = some n := by
  unfold readInt64?
  rw [readInt?_toString, Option.bind_some, if_pos ⟨n.minValue_le_toInt, n.toInt_le⟩, Int64.ofInt_toInt]

theorem readUInt64?_repr (n : UInt64) : readUInt64? n.toNat.repr.toList = some n := by
  obtain ⟨c, rest, same, digit⟩ := exists_digit_of_repr n.toNat
  unfold readUInt64?
  dsimp only
  split
  · rename_i plus
    rw [same] at plus
    cases plus
    exact absurd digit (by decide)
  · rw [readNat?_repr, Option.bind_some, if_pos n.toNat_lt, UInt64.ofNat_toNat]

end EntityQuery.Numeric
