import EntityQuery.Derive.TypeExpr

/-!
The containers that field types are made of. Main statements: the relation that a type stands for, and the
type that is left when all containers are taken off.
-/

namespace EntityQuery.Derive.TypeExpr

variable {t inner core : TypeExpr} {container : String}

/-- The type is a container of another type, which is its first argument. -/
def Holds (t : TypeExpr) (container : String) (inner : TypeExpr) : Prop :=
  ∃ text rest, t = .named text container (some inner :: rest)

theorem inside?_eq_some_iff : t.inside? container = some inner ↔ t.Holds container inner := by
  constructor
  · intro found
    unfold inside? at found
    split at found
    · rename_i text name first rest
      split at found
      · rename_i same
        cases found
        cases same
        exact ⟨text, rest, rfl⟩
      · cases found
    · cases found
  · rintro ⟨text, rest, rfl⟩
    exact if_pos rfl

theorem isSome_inside?_iff : (t.inside? container).isSome = true ↔ ∃ inner, t.Holds container inner := by
  rw [Option.isSome_iff_exists]
  simp only [inside?_eq_some_iff]

theorem isOption_iff : t.isOption = true ↔ ∃ inner, t.Holds "Option" inner :=
  isSome_inside?_iff

theorem inside?_of_holds {other : String} (holds : t.Holds container inner) (apart : container ≠ other) :
    t.inside? other = none := by
  obtain ⟨text, rest, rfl⟩ := holds
  exact if_neg apart

/-! ### Relations -/

def containerOf : RelationKind → String
  | .many => "Vec"
  | .one => "Box"

/-- The type is the container of a relation, under at most one option. -/
def StandsFor (t : TypeExpr) (kind : RelationKind) : Prop :=
  (∃ inner, t.Holds (containerOf kind) inner) ∨
    ∃ under inner, t.Holds "Option" under ∧ under.Holds (containerOf kind) inner

theorem relation_of_container_iff {kind : RelationKind} :
    (if (t.inside? "Vec").isSome then some RelationKind.many
      else if (t.inside? "Box").isSome then some .one else none) = some kind ↔
      ∃ inner, t.Holds (containerOf kind) inner := by
  rw [← isSome_inside?_iff]
  cases list : t.inside? "Vec" with
  | some inner =>
    have holds := inside?_eq_some_iff.mp list
    have noBox : t.inside? "Box" = none := inside?_of_holds holds (by decide)
    cases kind <;> simp [containerOf, list, noBox]
  | none => cases box : t.inside? "Box" <;> cases kind <;> simp [containerOf, list, box]

theorem relation?_eq_some_iff {kind : RelationKind} : t.relation? = some kind ↔ t.StandsFor kind := by
  unfold relation?
  dsimp only
  rw [relation_of_container_iff]
  cases option : t.inside? "Option" with
  | none =>
    constructor
    · intro holds
      exact Or.inl holds
    · rintro (holds | ⟨under, inner, holds, -⟩)
      · exact holds
      · rw [inside?_eq_some_iff.mpr holds] at option
        cases option
  | some under =>
    have holds := inside?_eq_some_iff.mp option
    constructor
    · rintro ⟨inner, more⟩
      exact Or.inr ⟨under, inner, holds, more⟩
    · rintro (⟨inner, other⟩ | ⟨under', inner, holds', more⟩)
      · have apart : containerOf kind ≠ "Option" := by cases kind <;> decide
        rw [inside?_of_holds other apart] at option
        cases option
      · rw [inside?_eq_some_iff.mpr holds'] at option
        cases option
        exact ⟨inner, more⟩

theorem relation?_eq_none_iff : t.relation? = none ↔ ∀ kind, ¬t.StandsFor kind := by
  simp only [← relation?_eq_some_iff]
  exact Option.eq_none_iff_forall_ne_some

/-! ### What is inside -/

def wrappers : List String :=
  ["Option", "Box", "Vec"]

/-- Taking off one wrapper after the other ends at a type that is none. -/
inductive Unwraps : TypeExpr → TypeExpr → Prop
  | bare {type : TypeExpr} (plain : ∀ wrapper ∈ wrappers, ∀ inner, ¬type.Holds wrapper inner) :
      Unwraps type type
  | layer {type under last : TypeExpr} {wrapper : String} (known : wrapper ∈ wrappers)
      (holds : type.Holds wrapper under) (more : Unwraps under last) : Unwraps type last

theorem holds_named_iff {text name : String} {first : TypeExpr} {rest : List (Option TypeExpr)} :
    (named text name (some first :: rest)).Holds container inner ↔ name = container ∧ first = inner := by
  constructor
  · rintro ⟨_, _, same⟩
    cases same
    exact ⟨rfl, rfl⟩
  · rintro ⟨rfl, rfl⟩
    exact ⟨text, rest, rfl⟩

theorem innermost_of_plain (plain : ∀ wrapper ∈ wrappers, ∀ inner, ¬t.Holds wrapper inner) :
    t.innermost = t := by
  unfold innermost
  split
  · rename_i text name inner rest
    refine if_neg fun known => ?_
    exact plain name (List.contains_iff_mem.mp known) inner ⟨text, rest, rfl⟩
  · rfl

theorem innermost_of_holds (known : container ∈ wrappers) (holds : t.Holds container inner) :
    t.innermost = inner.innermost := by
  obtain ⟨text, rest, rfl⟩ := holds
  rw [innermost]
  exact if_pos (List.contains_iff_mem.mpr known)

theorem unwraps_innermost (t : TypeExpr) : t.Unwraps t.innermost := by
  fun_induction innermost t with
  | case1 text name inner rest wraps ih =>
    exact .layer (List.contains_iff_mem.mp wraps) ⟨text, rest, rfl⟩ ih
  | case2 text name inner rest bare =>
    refine .bare ?_
    intro wrapper known other holds
    rw [holds_named_iff] at holds
    obtain ⟨rfl, -⟩ := holds
    exact bare (List.contains_iff_mem.mpr known)
  | case3 t plain =>
    refine .bare ?_
    rintro wrapper - inner ⟨text, rest, rfl⟩
    exact plain text wrapper inner rest rfl

theorem unwraps_iff : t.Unwraps core ↔ core = t.innermost := by
  constructor
  · intro unwraps
    induction unwraps with
    | bare plain => exact (innermost_of_plain plain).symm
    | layer known holds _ ih => rw [ih, innermost_of_holds known holds]
  · rintro rfl
    exact unwraps_innermost t

end EntityQuery.Derive.TypeExpr
