import EntityQuery.Text.Lowercase
import EntityQuery.Text.Split
import Mathlib.Data.List.Infix

/-!
The lower case of a part of a text. Only a capital sigma is lowered in view of what stands around it, and it looks no
further than to the nearest character on either side that is not ignorable. So the lower case of a part occurs in that
of the text wherever its sigmas find inside the part what they look for.
-/

namespace EntityQuery.Text

theorem occursIn_iff {needle s : List Char} : occursIn needle s = true ↔ needle <:+: s := by
  induction s with
  | nil => rw [occursIn, List.isEmpty_iff, List.infix_nil]
  | cons c rest ih => rw [occursIn, Bool.or_eq_true, List.isPrefixOf_iff_prefix, ih, List.infix_cons_iff]

/-! ### Parts of a text -/

/-- The lower case of a part of a text, of which `before` stands before the part, the nearest character first, and
`after` behind it. -/
def lowercaseBetween (before : List Char) : List Char → List Char → List Char
  | [], _ => []
  | c :: rest, after =>
    (if c = 'Σ' then [if endsWord before (rest ++ after) then 'ς' else 'σ'] else lowercaseChar c)
      ++ lowercaseBetween (c :: before) rest after

theorem lowercaseAfter_append (before s after : List Char) :
    lowercaseAfter before (s ++ after) =
      lowercaseBetween before s after ++ lowercaseAfter (s.reverse ++ before) after := by
  induction s generalizing before with
  | nil => rfl
  | cons c rest ih =>
    rw [List.cons_append, lowercaseAfter, lowercaseBetween, ih, List.reverse_cons]
    simp only [List.append_assoc, List.singleton_append]

theorem lowercaseChars_eq (s : List Char) : lowercaseChars s = lowercaseBetween [] s [] := by
  have whole := lowercaseAfter_append [] s []
  rwa [List.append_nil, lowercaseAfter, List.append_nil] at whole

/-- The lower case of a text holds that of each part, as it is in its place. -/
theorem lowercaseBetween_infix (x s y : List Char) :
    lowercaseBetween x.reverse s y <:+: lowercaseChars (x ++ s ++ y) := by
  rw [lowercaseChars, List.append_assoc, lowercaseAfter_append, lowercaseAfter_append, List.append_nil]
  exact ⟨lowercaseBetween [] x (s ++ y), lowercaseAfter (s.reverse ++ x.reverse) y, List.append_assoc _ _ _⟩

/-! ### Forms of a sigma -/

theorem forall_cut_cons {c d : Char} {rest : List Char} {P : List Char → List Char → Prop} :
    (∀ x y, c :: rest = x ++ d :: y → P x y) ↔
      (c = d → P [] rest) ∧ ∀ x y, rest = x ++ d :: y → P (c :: x) y := by
  constructor
  · intro all
    refine ⟨?_, fun x y cut => all (c :: x) y (congrArg (c :: ·) cut)⟩
    rintro rfl
    exact all [] rest rfl
  · rintro ⟨head, tail⟩ x y cut
    cases x with
    | nil =>
      obtain ⟨same, rfl⟩ := List.cons.inj cut
      exact head same
    | cons e x =>
      obtain ⟨rfl, later⟩ := List.cons.inj cut
      exact tail x y later

/-- Every sigma of a part is lowered in its place as it is in the part alone. -/
def KeepsSigmas (before s after : List Char) : Prop :=
  ∀ x y, s = x ++ 'Σ' :: y → endsWord (x.reverse ++ before) (y ++ after) = endsWord x.reverse y

theorem lowercaseBetween_congr {before before' s after after' : List Char}
    (same : ∀ x y, s = x ++ 'Σ' :: y →
      endsWord (x.reverse ++ before) (y ++ after) = endsWord (x.reverse ++ before') (y ++ after')) :
    lowercaseBetween before s after = lowercaseBetween before' s after' := by
  induction s generalizing before before' with
  | nil => rfl
  | cons c rest ih =>
    obtain ⟨head, tail⟩ := forall_cut_cons.mp same
    simp only [List.reverse_cons, List.append_assoc, List.singleton_append] at tail
    rw [lowercaseBetween, lowercaseBetween, ih tail]
    by_cases sigma : c = 'Σ'
    · have form : endsWord before (rest ++ after) = endsWord before' (rest ++ after') := head sigma
      rw [form]
    · rw [if_neg sigma, if_neg sigma]

theorem KeepsSigmas.lowercase_eq {before s after : List Char} (keeps : KeepsSigmas before s after) :
    lowercaseBetween before s after = lowercaseChars s := by
  rw [lowercaseChars_eq]
  refine lowercaseBetween_congr fun x y cut => ?_
  rw [keeps x y cut, List.append_nil, List.append_nil]

/-- The lower case of a part occurs in that of the text where the sigmas of the part are kept. -/
theorem occursIn_lowercase {x s y : List Char} (keeps : KeepsSigmas x.reverse s y) :
    occursIn (lowercaseChars s) (lowercaseChars (x ++ s ++ y)) = true := by
  rw [occursIn_iff, ← keeps.lowercase_eq]
  exact lowercaseBetween_infix x s y

/-! ### Sigmas that are settled -/

/-- Whether the nearest character that is not ignorable has case. -/
def nearestCase? (s : List Char) : Option Bool :=
  (s.dropWhile isCaseIgnorable).head?.map isCased

theorem nearestCase?_append (s t : List Char) :
    nearestCase? (s ++ t) = (nearestCase? s).or (nearestCase? t) := by
  unfold nearestCase?
  rw [List.dropWhile_append]
  cases dropped : s.dropWhile isCaseIgnorable with
  | nil => rfl
  | cons c rest => rfl

/-- Whether what a sigma finds on either side inside a text settles its form, whatever comes around the text. An
uncased neighbour before it does so alone, and so does a cased one behind it. -/
def settles : Option Bool → Option Bool → Bool
  | some false, _ | _, some true | some _, some _ => true
  | _, _ => false

def Settled (s : List Char) : Prop :=
  ∀ x y, s = x ++ 'Σ' :: y → settles (nearestCase? x.reverse) (nearestCase? y) = true

theorem endsWord_eq (before after : List Char) :
    endsWord before after = ((nearestCase? before).getD false && !(nearestCase? after).getD false) :=
  rfl

theorem endsWord_of_settles {before after : List Char}
    (settled : settles (nearestCase? before) (nearestCase? after) = true) (outside beyond : List Char) :
    endsWord (before ++ outside) (after ++ beyond) = endsWord before after := by
  simp only [endsWord_eq, nearestCase?_append]
  generalize nearestCase? outside = o
  generalize nearestCase? beyond = b
  revert settled
  rcases nearestCase? before with _ | _ | _ <;> rcases nearestCase? after with _ | _ | _ <;> simp [settles]

theorem Settled.keepsSigmas {s : List Char} (settled : Settled s) (before after : List Char) :
    KeepsSigmas before s after :=
  fun x y cut => endsWord_of_settles (settled x y cut) before after

/-! ### Counting the forms -/

section Counting

/-- How many sigmas of either form there are does not hang on what is around a text. -/
theorem count_forms (s before before' after after' : List Char) :
    (lowercaseBetween before s after).count 'ς' + (lowercaseBetween before s after).count 'σ' =
      (lowercaseBetween before' s after').count 'ς' + (lowercaseBetween before' s after').count 'σ' := by
  induction s generalizing before before' with
  | nil => rfl
  | cons c rest ih =>
    have tail := ih (c :: before) (c :: before')
    rw [lowercaseBetween, lowercaseBetween]
    simp only [List.count_append]
    split
    · cases endsWord before (rest ++ after) <;> cases endsWord before' (rest ++ after') <;> simp <;> omega
    · omega

variable {before before' s after after' : List Char}

/-- Where no sigma ends a word that does not end one elsewhere, there are no more of the final form. -/
theorem count_final_le (fewer : ∀ x y, s = x ++ 'Σ' :: y → endsWord (x.reverse ++ before) (y ++ after) = true →
      endsWord (x.reverse ++ before') (y ++ after') = true) :
    (lowercaseBetween before s after).count 'ς' ≤ (lowercaseBetween before' s after').count 'ς' := by
  induction s generalizing before before' with
  | nil => rfl
  | cons c rest ih =>
    obtain ⟨head, tail⟩ := forall_cut_cons.mp fewer
    simp only [List.reverse_cons, List.append_assoc, List.singleton_append] at tail
    rw [lowercaseBetween, lowercaseBetween, List.count_append, List.count_append]
    refine Nat.add_le_add ?_ (ih tail)
    split
    · rename_i sigma
      have form : endsWord before (rest ++ after) = true → endsWord before' (rest ++ after') = true := head sigma
      cases alone : endsWord before (rest ++ after) with
      | false => exact Nat.zero_le _
      | true => rw [form alone]
    · exact Nat.le_refl _

theorem lowercaseBetween_append (before s t after : List Char) : lowercaseBetween before (s ++ t) after =
    lowercaseBetween before s (t ++ after) ++ lowercaseBetween (s.reverse ++ before) t after := by
  induction s generalizing before with
  | nil => rfl
  | cons c rest ih =>
    rw [List.cons_append, lowercaseBetween, lowercaseBetween, ih, List.reverse_cons]
    simp only [List.append_assoc, List.singleton_append]

/-- If moreover some sigma ends a word only elsewhere, there are more of the final form there. -/
theorem count_final_lt (fewer : ∀ x y, s = x ++ 'Σ' :: y → endsWord (x.reverse ++ before) (y ++ after) = true →
      endsWord (x.reverse ++ before') (y ++ after') = true) {x y : List Char} (cut : s = x ++ 'Σ' :: y)
    (inner : endsWord (x.reverse ++ before) (y ++ after) = false)
    (final : endsWord (x.reverse ++ before') (y ++ after') = true) :
    (lowercaseBetween before s after).count 'ς' < (lowercaseBetween before' s after').count 'ς' := by
  subst cut
  have left : (lowercaseBetween before x ('Σ' :: (y ++ after))).count 'ς' ≤
      (lowercaseBetween before' x ('Σ' :: (y ++ after'))).count 'ς' := by
    refine count_final_le fun u v cut => ?_
    have whole := fewer u (v ++ 'Σ' :: y) (by rw [cut, List.append_assoc]; rfl)
    simpa only [List.append_assoc, List.cons_append] using whole
  have right : (lowercaseBetween ('Σ' :: (x.reverse ++ before)) y after).count 'ς' ≤
      (lowercaseBetween ('Σ' :: (x.reverse ++ before')) y after').count 'ς' := by
    refine count_final_le fun u v cut => ?_
    have whole := fewer (x ++ 'Σ' :: u) v (by rw [cut, List.append_assoc]; rfl)
    simpa only [List.reverse_append, List.reverse_cons, List.append_assoc, List.cons_append, List.nil_append] using whole
  rw [lowercaseBetween_append, lowercaseBetween_append, lowercaseBetween, lowercaseBetween, inner, final]
  simp only [List.count_append, List.cons_append, List.nil_append, List.count_cons, if_true, Bool.false_eq_true,
    if_false]
  have forms : ((if ('σ' == 'ς') = true then 1 else 0) : Nat) < if ('ς' == 'ς') = true then 1 else 0 := by decide
  omega

end Counting

theorem not_occursIn_of_count {needle s : List Char} {c : Char} (fewer : s.count c < needle.count c) :
    occursIn needle s ≠ true := by
  rw [ne_eq, occursIn_iff]
  exact fun occurs => Nat.not_le.mpr fewer (occurs.sublist.count_le c)

/-! ### Sigmas that a letter turns -/

theorem nearestCase?_letter : nearestCase? ['A'] = some true := by
  decide +kernel

/-- A sigma that is not settled takes another form when a letter is put before the text, or behind it. -/
theorem endsWord_of_not_settles {before after : List Char}
    (loose : settles (nearestCase? before) (nearestCase? after) = false) :
    (endsWord before after = false ∧ endsWord (before ++ ['A']) after = true) ∨
      (endsWord before (after ++ ['A']) = false ∧ endsWord before after = true) := by
  simp only [endsWord_eq, nearestCase?_append, nearestCase?_letter]
  revert loose
  rcases nearestCase? before with _ | _ | _ <;> rcases nearestCase? after with _ | _ | _ <;> simp [settles]

/-- A letter before a text makes no sigma leave the end of a word, and a letter behind it puts none there. -/
theorem endsWord_mono {before after : List Char} :
    (endsWord before after = true → endsWord (before ++ ['A']) after = true) ∧
      (endsWord before (after ++ ['A']) = true → endsWord before after = true) := by
  simp only [endsWord_eq, nearestCase?_append, nearestCase?_letter]
  rcases nearestCase? before with _ | _ | _ <;> rcases nearestCase? after with _ | _ | _ <;> simp

/-- Of a text with a sigma that is not settled, the lower case does not occur in that of the text with one letter
more. -/
theorem not_occursIn_of_loose {s x y : List Char} (cut : s = x ++ 'Σ' :: y)
    (loose : settles (nearestCase? x.reverse) (nearestCase? y) = false) :
    occursIn (lowercaseChars s) (lowercaseChars ('A' :: s)) ≠ true ∨
      occursIn (lowercaseChars s) (lowercaseChars (s ++ ['A'])) ≠ true := by
  rcases endsWord_of_not_settles loose with ⟨inner, final⟩ | ⟨inner, final⟩
  · left
    have more : (lowercaseBetween [] s []).count 'ς' < (lowercaseBetween ['A'] s []).count 'ς' := by
      refine count_final_lt (fun x y _ => ?_) cut ?_ ?_
      · simpa only [List.append_nil] using endsWord_mono.1
      · simpa only [List.append_nil] using inner
      · simpa only [List.append_nil] using final
    have forms := count_forms s [] ['A'] [] []
    have lowered : lowercaseChars ('A' :: s) = 'a' :: lowercaseBetween ['A'] s [] := by
      rw [lowercaseChars_eq, lowercaseBetween]
      rfl
    refine not_occursIn_of_count (c := 'σ') ?_
    rw [lowered, lowercaseChars_eq, List.count_cons_of_ne (by decide)]
    omega
  · right
    have more : (lowercaseBetween [] s ['A']).count 'ς' < (lowercaseBetween [] s []).count 'ς' := by
      refine count_final_lt (fun x y _ => ?_) cut ?_ ?_
      · simpa only [List.append_nil] using endsWord_mono.2
      · simpa only [List.append_nil] using inner
      · simpa only [List.append_nil] using final
    have lowered : lowercaseChars (s ++ ['A']) = lowercaseBetween [] s ['A'] ++ ['a'] := by
      rw [lowercaseChars, lowercaseAfter_append]
      rfl
    refine not_occursIn_of_count (c := 'ς') ?_
    rw [lowered, lowercaseChars_eq, List.count_append]
    exact more

/-- The lower case of a text occurs in that of every text in which it occurs just if its sigmas are settled. -/
theorem occursIn_lowercase_iff_settled {s : List Char} :
    (∀ t, occursIn s t = true → occursIn (lowercaseChars s) (lowercaseChars t) = true) ↔ Settled s := by
  constructor
  · intro widens x y cut
    by_contra loose
    rw [Bool.not_eq_true] at loose
    rcases not_occursIn_of_loose cut loose with lost | lost
    · exact lost (widens _ (occursIn_iff.mpr (List.infix_cons List.infix_rfl)))
    · exact lost (widens _ (occursIn_iff.mpr (List.infix_append' [] s ['A'])))
  · intro settled t occurs
    obtain ⟨x, y, rfl⟩ := occursIn_iff.mp occurs
    exact occursIn_lowercase (settled.keepsSigmas _ _)

end EntityQuery.Text
