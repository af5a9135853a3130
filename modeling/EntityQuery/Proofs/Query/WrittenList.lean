import EntityQuery.Proofs.Query.ListCondition

/-!
Lists that are written out. Texts can be put into a condition one behind the other with commas between them. Cut and
trimmed again, they build what the list of them builds as values, or fail as it does.
-/

namespace EntityQuery

open EntityQuery.Text

variable {ε : Type}

theorem FieldType.isString_iff {type : FieldType ε} : type.isString = true ↔ type = .string := by
  cases type <;> simp [isString]

theorem Token.supports_whole (negated : Bool) (type : FieldType ε) :
    (list .whole negated).supports type = !type.isRelation := by
  cases type <;> rfl

namespace Condition

/-- Texts that stay as they are when the items of a list are read for fields of a type: where no text is asked for,
there is something in each of them and nothing to trim. -/
def Tidy (type : FieldType ε) (texts : List String) : Prop :=
  type ≠ .string → ∀ s ∈ texts, s ≠ "" ∧ trim s = s

variable {config : Config} {p : Path ε} {texts : List String}

theorem items_of_tidy (some : texts ≠ []) (plain : ∀ s ∈ texts, config.listSeparator ∉ s.toList)
    (tidy : Tidy p.type texts) :
    items config p false (joined (String.singleton config.listSeparator) texts) = texts := by
  rw [items, splitOn_joined some plain]
  cases textual : p.type.isString with
  | true => simp
  | false =>
    have other : p.type ≠ .string := fun type => Bool.eq_false_iff.mp textual (FieldType.isString_iff.mpr type)
    have trimmed : texts.map trim = texts :=
      (List.map_congr_left fun s member => (tidy other s member).2).trans (List.map_id texts)
    simp only [Bool.false_eq_true, if_false, Bool.not_false, Bool.and_true, Bool.false_or, trimmed]
    exact List.filter_eq_self.mpr fun s member => bne_iff_ne.mpr (tidy other s member).1

theorem mapM_ofValue_texts (config : Config) (field : Field ε) (texts : List String) :
    (texts.map Value.string).mapM (Coercion.ofValue config field) = texts.mapM (Coercion.ofText config field) := by
  rw [List.mapM_map]
  exact congrArg texts.mapM (funext (Coercion.ofValue_string config field))

variable [Catalog ε]

/-- Of a scalar, a list that is written out is the list of its texts as values: both give the same predicate or the
same error. -/
theorem parse_written_eq_isIn {entity : ε} {path : String} (resolved : Path.resolve entity path = .ok p)
    (scalar : p.type.isRelation = false) (some : texts ≠ []) (plain : ∀ s ∈ texts, ',' ∉ s.toList)
    (tidy : Tidy p.type texts) :
    parse {} entity path ("in:" ++ joined "," texts) none =
      Predicate.isIn entity path (texts.map .string) := by
  have suits : (Token.list .whole false).supports p.type = true := by
    rw [Token.supports_whole, scalar]
    rfl
  have listed : items {} p false (joined "," texts) = texts := items_of_tidy some plain tidy
  have written : parse {} entity path ("in:" ++ joined "," texts) none =
      (listNode {} p (joined "," texts) .whole).map fun node => ⟨node⟩ := parse_list_of_suits resolved suits false
  rw [written, listNode_of_whole, listed, Predicate.isIn_of_resolve resolved, mapM_ofValue_texts]
  cases texts.mapM (Coercion.ofText {} p.leaf) <;> rfl

end Condition

namespace Library

open EntityQuery.Numeric

def ratingOfOne : Path Library :=
  ⟨author, [], ⟨"rating", .float, false⟩⟩

def unrated : Value :=
  .number (.float (.nan false))

def four : Value :=
  .number (.float (.ofInt 4))

def ratings : List String :=
  ["NaN", "4", "4.0", "nan"]

/-- Four is listed once. What is no number is not the same as itself, so it is listed twice. -/
theorem ratings_written :
    Path.resolve author "rating" = .ok ratingOfOne ∧ (∀ s ∈ ratings, ',' ∉ s.toList) ∧
    Condition.Tidy ratingOfOne.type ratings ∧
    Condition.parse {} author "rating" "in:NaN,4,4.0,nan" none =
      .ok ⟨.member ratingOfOne [unrated, four, unrated] false⟩ := by
  have resolved : Path.resolve author "rating" = .ok ratingOfOne := rfl
  have plain : ∀ s ∈ ratings, ',' ∉ s.toList := by decide
  have tidy : Condition.Tidy ratingOfOne.type ratings := fun _ => by decide
  have read : ratings.mapM (Coercion.ofText {} ratingOfOne.leaf) = .ok [unrated, four, four, unrated] := by
    decide +kernel
  have once : [unrated, four, four, unrated].foldl insertNew [] = [unrated, four, unrated] := by decide +kernel
  have written := Condition.parse_written_eq_isIn resolved rfl (show ratings ≠ [] from nofun) plain tidy
  rw [Predicate.isIn_of_resolve resolved, Condition.mapM_ofValue_texts, read] at written
  refine ⟨resolved, plain, tidy, written.trans ?_⟩
  rw [Except.map, once]

end Library

end EntityQuery
