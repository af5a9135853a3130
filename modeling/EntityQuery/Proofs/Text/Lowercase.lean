import EntityQuery.Text.Lowercase
import Mathlib

/-!
A text in lower case stays as it is when it is lowered again. This rests on the table alone: no run
maps a code point to one that some run maps elsewhere.
-/

namespace EntityQuery.Text

/-! ### The table -/

namespace CaseRun

/-- No target of the first run is on the second one: the two lie apart, or every other code point is
meant and they never meet. -/
def clears (r q : CaseRun) : Bool :=
  r.target + (r.last - r.first) < q.first || q.last < r.target ||
    ((r.step == 2 || r.first == r.last) && q.step == 2 && (r.target + q.first) % 2 == 1)

/-- All code points whose lower case is another one: those on the runs, and `İ`. -/
def changing : List CaseRun :=
  ⟨'İ'.toNat, 'İ'.toNat, 2, 'i'.toNat⟩ :: lowercaseRuns

/-- Every target is a character beyond the capitals of ASCII that is its own lower case. -/
def settles (r : CaseRun) : Bool :=
  'Z'.toNat < r.target &&
    (r.target + (r.last - r.first) < 0xD800 ||
      (0xDFFF < r.target && r.target + (r.last - r.first) < 0x110000)) &&
    changing.all r.clears

variable {r q : CaseRun} {m n : Nat}

theorem lower?_of_clears (clear : r.clears q = true) (lowered : r.lower? m = some n) :
    q.lower? n = none := by
  unfold lower? at lowered ⊢
  split at lowered
  · rename_i onRun
    obtain ⟨start, stop, stride⟩ := onRun
    cases lowered
    rw [if_neg]
    rintro ⟨first, last, meets⟩
    simp only [clears, Bool.or_eq_true, Bool.and_eq_true, decide_eq_true_eq, beq_iff_eq] at clear
    rcases clear with (before | after) | ⟨⟨sparse, two⟩, odd⟩
    · omega
    · omega
    · rw [two] at meets
      rcases sparse with two | single
      · rw [two] at stride
        omega
      · omega
  · cases lowered

theorem bounds_of_settles (settled : r.settles = true) (lowered : r.lower? m = some n) :
    'Z'.toNat < n ∧ n.isValidChar := by
  unfold lower? at lowered
  split at lowered
  · cases lowered
    simp only [settles, Bool.and_eq_true, Bool.or_eq_true, decide_eq_true_eq] at settled
    obtain ⟨⟨beyond, valid⟩, -⟩ := settled
    unfold Nat.isValidChar
    omega
  · cases lowered

theorem clears_of_settles (settled : r.settles = true) : ∀ q ∈ changing, r.clears q = true := by
  simp only [settles, Bool.and_eq_true] at settled
  exact List.all_eq_true.mp settled.2

end CaseRun

theorem lowercaseRuns_settle : ∀ r ∈ lowercaseRuns, r.settles = true :=
  List.all_eq_true.mp (by decide +kernel)

/-! ### Characters -/

theorem toNat_of_isUpper {c : Char} (capital : c.isUpper = true) : c.toNat ≤ 'Z'.toNat := by
  simp only [Char.isUpper, decide_eq_true_eq] at capital
  exact UInt32.le_iff_toNat_le.mp capital.2

theorem toLower_of_beyond {c : Char} (beyond : 'Z'.toNat < c.toNat) : c.toLower = c :=
  Char.toLower_eq_of_not_isUpper fun capital =>
    absurd beyond (Nat.not_lt.mpr (toNat_of_isUpper capital))

theorem toNat_toLower_lt {c : Char} (ascii : c.toNat < 0x80) : c.toLower.toNat < 0x80 := by
  by_cases capital : c.isUpper
  · have below : c.toNat ≤ 90 := toNat_of_isUpper capital
    rw [Char.toLower_eq_of_isUpper capital, Char.toNat_ofNat, if_pos (Or.inl (by omega))]
    omega
  · rwa [Char.toLower_eq_of_not_isUpper capital]

/-- A character beyond the capitals of ASCII that no run changes is its own lower case. -/
theorem lowercaseChar_of_unchanged {c : Char} (beyond : 'Z'.toNat < c.toNat)
    (unchanged : ∀ r ∈ CaseRun.changing, r.lower? c.toNat = none) : lowercaseChar c = [c] := by
  have plain : c ≠ 'İ' := by
    rintro rfl
    cases unchanged _ List.mem_cons_self
  have none : lowercaseRuns.findSome? (·.lower? c.toNat) = none :=
    List.findSome?_eq_none_iff.mpr fun r member => unchanged r (List.mem_cons_of_mem _ member)
  unfold lowercaseChar simpleLowercase
  rw [if_neg plain, none, toLower_of_beyond beyond]
  exact congrArg (fun d => [d]) (ite_self c)

/-- What a character is lowered to is its own lower case. -/
theorem lowercaseChar_of_mem {c d : Char} (member : d ∈ lowercaseChar c) : lowercaseChar d = [d] := by
  unfold lowercaseChar at member
  split at member
  · rcases List.mem_cons.mp member with rfl | member
    · rfl
    · rw [List.mem_singleton.mp member]
      decide +kernel
  · rename_i plain
    rw [List.mem_singleton] at member
    subst member
    by_cases ascii : c.toNat < 0x80
    · have lowered : (simpleLowercase c).toNat < 0x80 := by
        rw [simpleLowercase, if_pos ascii]
        exact toNat_toLower_lt ascii
      have other : simpleLowercase c ≠ 'İ' := fun same => absurd (same ▸ lowered) (by decide)
      rw [lowercaseChar, if_neg other, simpleLowercase, if_pos lowered, simpleLowercase, if_pos ascii,
        Char.toLower_toLower_eq_toLower]
    · cases found : lowercaseRuns.findSome? (·.lower? c.toNat) with
      | none =>
        have same : simpleLowercase c = c := by
          rw [simpleLowercase, if_neg ascii, found]
          rfl
        rw [same, lowercaseChar, if_neg plain, same]
      | some n =>
        obtain ⟨r, member, lowered⟩ := List.exists_of_findSome?_eq_some found
        have settled := lowercaseRuns_settle r member
        obtain ⟨beyond, valid⟩ := CaseRun.bounds_of_settles settled lowered
        have target : simpleLowercase c = Char.ofNat n := by
          rw [simpleLowercase, if_neg ascii, found]
          rfl
        rw [target]
        apply lowercaseChar_of_unchanged
        · rwa [Char.toNat_ofNat n, if_pos valid]
        · intro q present
          rw [Char.toNat_ofNat n, if_pos valid]
          exact CaseRun.lower?_of_clears (CaseRun.clears_of_settles settled q present) lowered

/-! ### Texts -/

/-- A text of characters that are their own lower case stays as it is. -/
theorem lowercaseAfter_of_lowered {before s : List Char} (lowered : ∀ c ∈ s, lowercaseChar c = [c]) :
    lowercaseAfter before s = s := by
  induction s generalizing before with
  | nil => rfl
  | cons c rest ih =>
    rw [List.forall_mem_cons] at lowered
    have plain : c ≠ 'Σ' := by
      rintro rfl
      exact absurd lowered.1 (by decide +kernel)
    rw [lowercaseAfter, if_neg plain, lowered.1, ih lowered.2]
    rfl

theorem lowered_of_mem_lowercaseAfter {before s : List Char} :
    ∀ d ∈ lowercaseAfter before s, lowercaseChar d = [d] := by
  induction s generalizing before with
  | nil => exact nofun
  | cons c rest ih =>
    intro d member
    rw [lowercaseAfter] at member
    rcases List.mem_append.mp member with head | tail
    · split at head
      · rw [List.mem_singleton.mp head]
        split <;> decide +kernel
      · exact lowercaseChar_of_mem head
    · exact ih d tail

theorem lowercaseChars_lowercaseChars (s : List Char) :
    lowercaseChars (lowercaseChars s) = lowercaseChars s :=
  lowercaseAfter_of_lowered lowered_of_mem_lowercaseAfter

theorem lowercase_lowercase (s : String) : lowercase (lowercase s) = lowercase s := by
  rw [lowercase, lowercase, String.toList_ofList, lowercaseChars_lowercaseChars]

end EntityQuery.Text
