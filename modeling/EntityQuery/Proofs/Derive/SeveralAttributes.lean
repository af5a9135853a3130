import EntityQuery.Proofs.Derive.Options

/-!
Options of a field that stand in several attributes. Only those in the first attribute named `entity` are taken, so
that the other ones make no difference just where they are idle. Main statement: where options may be spread over
attributes.
-/

namespace EntityQuery.Derive

open AttributeOption

/-! ### Attributes -/

namespace Attribute

/-- The attribute is named `entity`, and its brackets hold these options. -/
structure Lists (a : Attribute) (options : List AttributeOption) : Prop where
  entity : a.isEntity = true
  applied : a.head.form = .applied
  read : readOptions a.arguments = .ok options

/-- The attributes named `entity` hold these lists of options, each the next one. Others may stand among them. -/
def Spread (attributes : List Attribute) (parts : List (List AttributeOption)) : Prop :=
  List.Forall₂ Lists (attributes.filter isEntity) parts

theorem entityOptions_of_spread {attributes : List Attribute} {parts : List (List AttributeOption)}
    (spread : Spread attributes parts) : entityOptions attributes = .ok (parts.headD []) := by
  have first : attributes.find? isEntity = (attributes.filter isEntity).head? := List.head?_filter.symm
  unfold Spread at spread
  match all : attributes.filter isEntity with
  | [] =>
    rw [all] at first spread
    cases spread
    exact entityOptions_of_find?_none first
  | a :: _ =>
    rw [all] at first spread
    cases spread with
    | cons lists _ => exact (entityOptions_of_find?_some first).mpr ⟨lists.applied, lists.read⟩

end Attribute

/-! ### Refusals -/

namespace FieldOptions

variable {options first rest : List AttributeOption}

def OneKind (options : List AttributeOption) : Prop :=
  ¬(ofKind .one ∈ options ∧ ofKind .many ∈ options)

/-- The field is to be left out, and yet it is to be the key or a relation. -/
def Contradicted (options : List AttributeOption) : Prop :=
  word "skip" ∈ options ∧ (word "key" ∈ options ∨ ∃ kind, ofKind kind ∈ options)

def KeyRelated (options : List AttributeOption) : Prop :=
  word "key" ∈ options ∧ ∃ kind, ofKind kind ∈ options

theorem relation_asked_isSome_iff : (asked options).relation.isSome = true ↔ ∃ kind, ofKind kind ∈ options := by
  rw [Option.isSome_iff_ne_none, ne_eq, relation_asked_eq_none_iff, not_forall_not]

theorem contradicted_iff : Contradicted options ↔
    ((asked options).skip && ((asked options).key || (asked options).relation.isSome)) = true := by
  rw [Bool.and_eq_true, Bool.or_eq_true, skip_asked_iff, key_asked_iff, relation_asked_isSome_iff, Contradicted]

theorem keyRelated_iff :
    KeyRelated options ↔ ((asked options).key && (asked options).relation.isSome) = true := by
  rw [Bool.and_eq_true, key_asked_iff, relation_asked_isSome_iff, KeyRelated]

theorem check_of_contradicted (contradicted : Contradicted options) :
    check (asked options) = .error .skipConflict :=
  if_pos (contradicted_iff.mp contradicted)

theorem check_of_keyRelated (agreed : ¬Contradicted options) (keyRelated : KeyRelated options) :
    check (asked options) = .error .relationKey :=
  (if_neg (contradicted_iff.not.mp agreed)).trans (if_pos (keyRelated_iff.mp keyRelated))

theorem check_ne_oneAndMany (o : FieldOptions) : check o ≠ .error .oneAndMany := by
  unfold check
  split
  · exact nofun
  split <;> exact nofun

theorem check_of_neither (agreed : ¬Contradicted options) (apart : ¬KeyRelated options) :
    check (asked options) = .ok (asked options) :=
  (if_neg (contradicted_iff.not.mp agreed)).trans (if_neg (keyRelated_iff.not.mp apart))

theorem foldlM_accept_error {e : DeriveError} (known : ∀ o ∈ options, o.OfField)
    (failed : options.foldlM accept {} = .error e) : e = .oneAndMany := by
  obtain ⟨before, o, after, taken, rfl, -, refused⟩ := foldlM_error_iff.mp failed
  cases known o (List.mem_append_right _ List.mem_cons_self) with
  | key => cases refused
  | skip => cases refused
  | rename name => cases refused
  | relation kind =>
    by_cases free : taken.relation.all (· == kind) = true
    · rw [accept_relation free] at refused
      cases refused
    · have other : taken.accept (ofKind kind) = .error .oneAndMany := by
        cases kind <;> exact if_neg free
      exact Except.error.inj (refused.symm.trans other)

theorem ofList_of_bothKinds (known : ∀ o ∈ options, o.OfField) (both : ¬OneKind options) :
    ofList options = .error .oneAndMany := by
  cases run : options.foldlM accept {} with
  | ok after => exact absurd (foldlM_accept_ok_iff.mp run).2.1 both
  | error e =>
    rw [foldlM_accept_error known run] at run
    exact bind_of_error run _

theorem ofList_of_oneKind (known : ∀ o ∈ options, o.OfField) (oneKind : OneKind options) :
    ofList options = check (asked options) := by
  unfold ofList
  rw [foldlM_accept_ok_iff.mpr ⟨known, oneKind, rfl⟩]
  rfl

/-! ### Idle options -/

/-- Options that change nothing behind the first ones: these are refused for the same cause with them as without
them, or ask for the same. -/
inductive Idle (first rest : List AttributeOption) : Prop
  | bothKinds (both : ¬OneKind first)
  | contradicted (oneKind : OneKind (first ++ rest)) (contradicted : Contradicted first)
  | keyRelated (oneKind : OneKind (first ++ rest)) (unskipped : word "skip" ∉ first ++ rest)
      (keyRelated : KeyRelated first)
  | nothingNew (oneKind : OneKind (first ++ rest)) (same : asked (first ++ rest) = asked first)

theorem OneKind.of_append (oneKind : OneKind (first ++ rest)) : OneKind first := fun both =>
  oneKind ⟨List.mem_append_left _ both.1, List.mem_append_left _ both.2⟩

theorem Contradicted.append (contradicted : Contradicted first) (rest : List AttributeOption) :
    Contradicted (first ++ rest) := by
  obtain ⟨skip, key | ⟨kind, leads⟩⟩ := contradicted
  · exact ⟨List.mem_append_left _ skip, Or.inl (List.mem_append_left _ key)⟩
  · exact ⟨List.mem_append_left _ skip, Or.inr ⟨kind, List.mem_append_left _ leads⟩⟩

theorem KeyRelated.append (keyRelated : KeyRelated first) (rest : List AttributeOption) :
    KeyRelated (first ++ rest) := by
  obtain ⟨key, kind, leads⟩ := keyRelated
  exact ⟨List.mem_append_left _ key, kind, List.mem_append_left _ leads⟩

theorem check_append_eq_iff (oneKind : OneKind (first ++ rest)) :
    check (asked first) = check (asked (first ++ rest)) ↔ Idle first rest := by
  constructor
  · intro same
    by_cases contradicted : Contradicted first
    · exact .contradicted oneKind contradicted
    by_cases keyRelated : KeyRelated first
    · rw [check_of_keyRelated contradicted keyRelated] at same
      refine .keyRelated oneKind (fun skip => ?_) keyRelated
      have conflict : Contradicted (first ++ rest) := ⟨skip, Or.inl (keyRelated.append rest).1⟩
      rw [check_of_contradicted conflict] at same
      cases same
    · rw [check_of_neither contradicted keyRelated] at same
      exact .nothingNew oneKind (check_ok_iff.mp same.symm).2.2.symm
  · rintro (both | ⟨-, contradicted⟩ | ⟨-, unskipped, keyRelated⟩ | ⟨-, same⟩)
    · exact absurd oneKind.of_append both
    · rw [check_of_contradicted contradicted, check_of_contradicted (contradicted.append rest)]
    · have agreed : ¬Contradicted (first ++ rest) := fun conflict => unskipped conflict.1
      have agreed' : ¬Contradicted first := fun conflict => agreed (conflict.append rest)
      rw [check_of_keyRelated agreed' keyRelated, check_of_keyRelated agreed (keyRelated.append rest)]
    · rw [same]

theorem ofList_append_eq_iff (known : ∀ o ∈ first ++ rest, o.OfField) :
    ofList first = ofList (first ++ rest) ↔ Idle first rest := by
  have knownFirst : ∀ o ∈ first, o.OfField := fun o member => known o (List.mem_append_left _ member)
  by_cases oneKind : OneKind (first ++ rest)
  · rw [ofList_of_oneKind knownFirst oneKind.of_append, ofList_of_oneKind known oneKind]
    exact check_append_eq_iff oneKind
  rw [ofList_of_bothKinds known oneKind]
  by_cases both : OneKind first
  · rw [ofList_of_oneKind knownFirst both]
    constructor
    · intro same
      exact absurd same (check_ne_oneAndMany _)
    · rintro (other | ⟨one, -⟩ | ⟨one, -, -⟩ | ⟨one, -⟩)
      · exact absurd both other
      all_goals exact absurd one oneKind
  · exact iff_of_true (ofList_of_bothKinds knownFirst both) (.bothKinds both)

theorem ofAttributes_of_spread {attributes : List Attribute} {parts : List (List AttributeOption)}
    (spread : Attribute.Spread attributes parts) : ofAttributes attributes = ofList (parts.headD []) := by
  unfold ofAttributes
  rw [Attribute.entityOptions_of_spread spread]
  rfl

/-- Of options in several attributes those in the first one are taken. So a list of options may be spread over
attributes just where all options behind the first attribute are idle. -/
theorem ofAttributes_spread_iff {spread single : List Attribute} {parts : List (List AttributeOption)}
    (several : Attribute.Spread spread parts) (alone : Attribute.Spread single [parts.flatten])
    (known : ∀ o ∈ parts.flatten, o.OfField) :
    ofAttributes spread = ofList (parts.headD []) ∧ ofAttributes single = ofList parts.flatten ∧
      (ofAttributes spread = ofAttributes single ↔ Idle (parts.headD []) parts.tail.flatten) := by
  have first : ofAttributes spread = ofList (parts.headD []) := ofAttributes_of_spread several
  have all : ofAttributes single = ofList parts.flatten := ofAttributes_of_spread alone
  have cut : parts.flatten = parts.headD [] ++ parts.tail.flatten := by
    cases parts <;> rfl
  refine ⟨first, all, ?_⟩
  rw [first, all, cut]
  exact ofList_append_eq_iff (cut ▸ known)

/-- The attribute `#[entity(…)]` with these tokens in its brackets. -/
def entity (arguments : List SourceToken) : Attribute :=
  ⟨⟨["entity"], .applied⟩, arguments⟩

def keyTokens : List SourceToken :=
  [.word "key"]

def renameTokens : List SourceToken :=
  [.word "rename", .mark '=' false, .literal "\"Id\"" (.text "Id")]

def idTokens : List SourceToken :=
  keyTokens ++ .mark ',' false :: renameTokens

def idOptions : List AttributeOption :=
  [word "key", assignment "rename" "Id"]

theorem entity_lists {arguments : List SourceToken} {options : List AttributeOption}
    (read : Attribute.readOptions arguments = .ok options) : (entity arguments).Lists options :=
  ⟨rfl, rfl, read⟩

theorem idOptions_known : ∀ o ∈ idOptions, o.OfField :=
  List.forall_mem_cons.mpr ⟨.key, List.forall_mem_singleton.mpr (.rename "Id")⟩

/-- Asking once more for the key, behind an attribute of something else, changes nothing. -/
theorem key_asked_again :
    ofAttributes [entity idTokens, ⟨⟨["serde"], .bare⟩, []⟩, entity keyTokens] =
      ofAttributes [entity (idTokens ++ .mark ',' false :: keyTokens)] := by
  have several : Attribute.Spread [entity idTokens, ⟨⟨["serde"], .bare⟩, []⟩, entity keyTokens]
      [idOptions, [word "key"]] := .cons (entity_lists rfl) (.cons (entity_lists rfl) .nil)
  have alone : Attribute.Spread [entity (idTokens ++ .mark ',' false :: keyTokens)] [idOptions ++ [word "key"]] :=
    .cons (entity_lists rfl) .nil
  have known : ∀ o ∈ idOptions ++ [word "key"], o.OfField :=
    List.forall_mem_append.mpr ⟨idOptions_known, List.forall_mem_singleton.mpr .key⟩
  have unrelated : OneKind (idOptions ++ [word "key"]) := fun both => absurd both.1 (by decide)
  have idle : Idle idOptions [word "key"] := .nothingNew unrelated (by decide)
  obtain ⟨-, -, same⟩ := ofAttributes_spread_iff several alone known
  exact same.mpr idle

/-- A name in a second attribute is lost. -/
theorem rename_behind_key_lost : ¬∀ (spread single : List Attribute) (parts : List (List AttributeOption)),
    Attribute.Spread spread parts → Attribute.Spread single [parts.flatten] →
      (∀ o ∈ parts.flatten, o.OfField) → ofAttributes spread = ofAttributes single := by
  intro same
  have several : Attribute.Spread [entity keyTokens, entity renameTokens] [[word "key"], [assignment "rename" "Id"]] :=
    .cons (entity_lists rfl) (.cons (entity_lists rfl) .nil)
  have alone : Attribute.Spread [entity idTokens] [idOptions] := .cons (entity_lists rfl) .nil
  have lost : ofAttributes [entity keyTokens, entity renameTokens] = .ok { key := true } := by rfl
  have taken : ofAttributes [entity idTokens] = .ok { key := true, rename := some "Id" } := by rfl
  have both := same _ _ _ several alone idOptions_known
  rw [lost, taken] at both
  cases both

end FieldOptions

end EntityQuery.Derive
