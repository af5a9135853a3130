import EntityQuery.Text.Split

/-! Cutting a text at the separators between the parts that it was joined from. -/

namespace EntityQuery.Text

theorem pieces_eq_splitOn (sep : Char) (s : List Char) : pieces sep s = s.splitOn sep := by
  induction s with
  | nil => rfl
  | cons c rest ih =>
    rw [List.splitOn_eq_splitOnP] at ih ⊢
    rw [pieces, List.splitOnP_cons_eq_if_modifyHead, ← ih]
    obtain ⟨piece, more, cut⟩ := List.exists_cons_of_ne_nil (pieces_ne_nil sep rest)
    rw [cut]
    by_cases same : c = sep
    · rw [if_pos same, if_pos (beq_iff_eq.mpr same)]
    · rw [if_neg same, if_neg (mt beq_iff_eq.mp same)]
      rfl

theorem splitOn_joined {sep : Char} {parts : List String} (nonempty : parts ≠ [])
    (plain : ∀ part ∈ parts, sep ∉ part.toList) :
    splitOn sep (joined (String.singleton sep) parts) = parts := by
  have apart : ∀ piece ∈ parts.map String.toList, sep ∉ piece := by
    simpa only [List.forall_mem_map] using plain
  have several : parts.map String.toList ≠ [] := by
    simpa only [ne_eq, List.map_eq_nil_iff] using nonempty
  unfold splitOn joined
  rw [String.toList_intercalate, String.toList_singleton, pieces_eq_splitOn,
    List.splitOn_intercalate sep apart several, List.map_map]
  simp only [Function.comp_def, String.ofList_toList, List.map_id']

end EntityQuery.Text
