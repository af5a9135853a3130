import EntityQuery.Proofs.Derive.Derivation
import EntityQuery.Proofs.Text.Letters

/-!
The constants that hold the names of fields. Main statement: deriving a struct fails for a constant just where it
comes to a name that is no identifier, not even with low lines for its hyphens.
-/

namespace EntityQuery.Derive

open EntityQuery.Text

/-! ### Names in upper case -/

def lowLined (c : Char) : Char :=
  if c = '-' then '_' else c

/-- The name is an identifier, with low lines for its hyphens. -/
def Nameable (pathName : String) : Prop :=
  isIdentifier (pathName.toList.map lowLined) = true

namespace screamingSnake

def capital (c : Char) : Char :=
  if isUppercase c then c
  else if c = '_' ∨ c = '-' then '_'
  else c.toUpper

theorem capital_eq (c : Char) :
    capital c = lowLined c ∨ c.isLower = true ∧ capital c = c.toUpper ∧ lowLined c = c := by
  unfold capital lowLined
  by_cases upper : isUppercase c = true
  · have noHyphen : c ≠ '-' := by
      rintro rfl
      exact absurd upper (by decide +kernel)
    rw [if_pos upper, if_neg noHyphen]
    exact Or.inl rfl
  rw [if_neg upper]
  by_cases hyphen : c = '-'
  · rw [if_pos (Or.inr hyphen), if_pos hyphen]
    exact Or.inl rfl
  rw [if_neg hyphen]
  by_cases low : c = '_'
  · rw [if_pos (Or.inl low)]
    exact Or.inl low.symm
  rw [if_neg (not_or.mpr ⟨low, hyphen⟩)]
  by_cases small : c.isLower = true
  · exact Or.inr ⟨small, rfl, rfl⟩
  · exact Or.inl (Char.toUpper_eq_of_not_isLower small)

theorem isIdentifierStart_capital (c : Char) : isIdentifierStart (capital c) = isIdentifierStart (lowLined c) := by
  rcases capital_eq c with same | ⟨small, upper, kept⟩
  · rw [same]
  · rw [upper, kept, isIdentifierStart_toUpper small, isIdentifierStart_of_isLower small]

theorem isIdentifierContinue_capital (c : Char) :
    isIdentifierContinue (capital c) = isIdentifierContinue (lowLined c) := by
  unfold isIdentifierContinue
  rcases capital_eq c with same | ⟨small, upper, kept⟩
  · rw [same]
  · rw [upper, kept, isIdentifierStart_toUpper small, isIdentifierStart_of_isLower small, Bool.true_or, Bool.true_or]

theorem go_cons (afterLower : Bool) (c : Char) (rest : List Char) :
    ∃ next, go afterLower (c :: rest) =
      (if isUppercase c && afterLower then ['_'] else []) ++ capital c :: go next rest := by
  unfold capital
  rw [go]
  by_cases upper : isUppercase c = true
  · refine ⟨false, ?_⟩
    rw [upper]
    cases afterLower <;> rfl
  rw [Bool.not_eq_true] at upper
  rw [upper]
  by_cases low : c = '_' ∨ c = '-'
  · refine ⟨false, ?_⟩
    rw [if_pos low, if_pos low]
    rfl
  · refine ⟨true, ?_⟩
    rw [if_neg low, if_neg low]
    rfl

theorem all_go (afterLower : Bool) (s : List Char) :
    (go afterLower s).all isIdentifierContinue = (s.map lowLined).all isIdentifierContinue := by
  induction s generalizing afterLower with
  | nil => rfl
  | cons c rest ih =>
    obtain ⟨next, written⟩ := go_cons afterLower c rest
    have gap : (if isUppercase c && afterLower then ['_'] else []).all isIdentifierContinue = true := by
      split
      · decide
      · rfl
    rw [written, List.all_append, gap, Bool.true_and, List.all_cons, List.map_cons, List.all_cons, ih next,
      isIdentifierContinue_capital]

end screamingSnake

theorem isIdentifier_screamingSnake (s : List Char) :
    isIdentifier (screamingSnake s) = isIdentifier (s.map lowLined) := by
  unfold screamingSnake
  cases s with
  | nil => rfl
  | cons c rest =>
    obtain ⟨next, written⟩ := screamingSnake.go_cons false c rest
    rw [Bool.and_false] at written
    rw [written, List.map_cons]
    change (isIdentifierStart _ && List.all _ _) = (isIdentifierStart _ && List.all _ _)
    rw [screamingSnake.isIdentifierStart_capital, screamingSnake.all_go]

theorem constantName_error_iff {pathName : String} {e : DeriveError} :
    constantName pathName = .error e ↔
      ¬Nameable pathName ∧ e = .invalidConstant (String.ofList (screamingSnake pathName.toList)) := by
  unfold constantName Nameable
  dsimp only
  rw [isIdentifier_screamingSnake]
  split
  case isTrue nameable => exact ⟨nofun, fun failed => absurd nameable failed.1⟩
  case isFalse unnameable =>
    exact ⟨fun failed => ⟨unnameable, (Except.error.inj failed).symm⟩, fun failed => failed.2 ▸ rfl⟩

set_option maxRecDepth 4000 in
theorem hyphen_not_continue : isIdentifierContinue '-' = false := by decide +kernel

set_option maxRecDepth 4000 in
theorem hash_not_continue : isIdentifierContinue '#' = false := by decide +kernel

theorem nameable_of_isIdentifier {name : String} (plain : isIdentifier name.toList = true) : Nameable name := by
  have kept : ∀ c, isIdentifierContinue c = true → lowLined c = c := by
    intro c continues
    refine if_neg ?_
    rintro rfl
    rw [hyphen_not_continue] at continues
    cases continues
  unfold Nameable
  cases letters : name.toList with
  | nil =>
    rw [letters] at plain
    cases plain
  | cons first rest =>
    rw [letters] at plain
    obtain ⟨starts, continues⟩ := Bool.and_eq_true_iff.mp plain
    have all : ∀ c ∈ first :: rest, lowLined c = c := by
      rw [List.forall_mem_cons]
      refine ⟨kept first ?_, fun c member => kept c (List.all_eq_true.mp continues c member)⟩
      exact Bool.or_eq_true_iff.mpr (Or.inl starts)
    rw [List.map_congr_left all, List.map_id']
    exact plain

theorem not_nameable_raw (name : String) : ¬Nameable ("r#" ++ name) := by
  have letters : ("r#" ++ name).toList.map lowLined = 'r' :: '#' :: name.toList.map lowLined := by
    rw [String.toList_append, List.map_append]
    rfl
  unfold Nameable
  rw [letters, isIdentifier, List.all_cons, hash_not_continue, Bool.false_and, Bool.and_false]
  exact nofun

/-! ### Other causes -/

def NeverForConstant {α : Type} (x : Except DeriveError α) : Prop :=
  ∀ constant, x ≠ .error (.invalidConstant constant)

section Causes

variable {α β : Type}

theorem NeverForConstant.bind {x : Except DeriveError α} {f : α → Except DeriveError β}
    (first : NeverForConstant x) (rest : ∀ a, NeverForConstant (f a)) : NeverForConstant (x >>= f) := by
  intro constant failed
  rcases bind_error failed with failed | ⟨a, -, failed⟩
  · exact first constant failed
  · exact rest a constant failed

theorem NeverForConstant.foldlM {f : β → α → Except DeriveError β} (step : ∀ b a, NeverForConstant (f b a))
    (as : List α) (start : β) : NeverForConstant (as.foldlM f start) := by
  intro constant failed
  obtain ⟨-, a, -, b, -, -, failed⟩ := foldlM_error_iff.mp failed
  exact step b a constant failed

end Causes

theorem Attribute.readOptions_neverForConstant (tokens : List SourceToken) : NeverForConstant (readOptions tokens) := by
  unfold readOptions
  dsimp only
  intro constant
  split <;> exact nofun

theorem Attribute.entityOptions_neverForConstant (attributes : List Attribute) :
    NeverForConstant (entityOptions attributes) := by
  unfold entityOptions
  intro constant
  split
  · exact nofun
  split
  · exact nofun
  · exact nofun
  · exact readOptions_neverForConstant _ constant

theorem entityNameOf_neverForConstant (options : List AttributeOption) : NeverForConstant (entityNameOf options) := by
  unfold entityNameOf
  refine .foldlM (fun _ o constant => ?_) options none
  split <;> exact nofun

theorem FieldOptions.ofAttributes_neverForConstant (attributes : List Attribute) :
    NeverForConstant (ofAttributes attributes) := by
  have accepting (taken : FieldOptions) (o : AttributeOption) : NeverForConstant (taken.accept o) := by
    intro constant
    unfold accept
    dsimp only
    repeat' split
    all_goals exact nofun
  have checking (taken : FieldOptions) : NeverForConstant taken.check := by
    intro constant
    unfold check
    repeat' split
    all_goals exact nofun
  exact .bind (Attribute.entityOptions_neverForConstant attributes) fun options =>
    .bind (.foldlM accepting options {}) checking

/-! ### Structs -/

namespace Expansion

variable {e : Expansion} {f : FieldDeclaration}

/-- Adding a field comes to the constant for this name, as the field is neither left out nor refused for its options. -/
inductive ComesTo (e : Expansion) (f : FieldDeclaration) : String → Prop
  | intro {options : FieldOptions} (taken : FieldOptions.ofAttributes f.attributes = .ok options)
      (kept : options.skip = false) (firstKey : (options.key && e.key.isSome) = false) :
      ComesTo e f (options.rename.getD f.name)

theorem addConstant_error_iff {pathName : String} {error : DeriveError} :
    e.addConstant pathName = .error error ↔ constantName pathName = .error error := by
  unfold addConstant
  cases constantName pathName with
  | ok name => exact iff_of_false nofun nofun
  | error _ =>
    constructor
    · intro failed
      cases failed
      rfl
    · intro failed
      cases failed
      rfl

theorem place_neverForConstant (e : Expansion) (options : FieldOptions) (pathName : String) (f : FieldDeclaration) :
    NeverForConstant (e.place options pathName f) := by
  intro constant
  unfold place
  repeat' split
  all_goals exact nofun

theorem addField_forConstant_iff :
    (∃ constant, e.addField f = .error (.invalidConstant constant)) ↔
      ∃ pathName, e.ComesTo f pathName ∧ ¬Nameable pathName := by
  constructor
  · rintro ⟨constant, failed⟩
    rcases bind_error failed with failed | ⟨options, taken, failed⟩
    · exact absurd failed (FieldOptions.ofAttributes_neverForConstant _ constant)
    split at failed
    · cases failed
    rename_i kept
    dsimp only at failed
    rw [markKey_eq] at failed
    split at failed
    · cases failed
    rename_i firstKey
    change Expansion.addConstant _ _ >>= _ = _ at failed
    rcases bind_error failed with failed | ⟨e', -, failed⟩
    · refine ⟨_, .intro taken (Bool.eq_false_iff.mpr kept) (Bool.eq_false_iff.mpr firstKey), ?_⟩
      exact (constantName_error_iff.mp (addConstant_error_iff.mp failed)).1
    · exact absurd failed (place_neverForConstant e' _ _ f constant)
  · rintro ⟨pathName, comes, unnameable⟩
    refine ⟨String.ofList (screamingSnake pathName.toList), ?_⟩
    obtain ⟨taken, kept, firstKey⟩ := comes
    unfold addField
    rw [taken]
    refine (if_neg (Bool.eq_false_iff.mp kept)).trans ?_
    rw [markKey_eq, if_neg (Bool.eq_false_iff.mp firstKey)]
    exact bind_of_error (addConstant_error_iff.mpr (constantName_error_iff.mpr ⟨unnameable, rfl⟩)) _

end Expansion

namespace StructDeclaration

def upTo (d : StructDeclaration) (before : List FieldDeclaration) : StructDeclaration :=
  { d with fields := before }

/-- Deriving a struct comes to the constant for this name, as the struct that ends before the field can be derived. -/
def ComesTo (d : StructDeclaration) (pathName : String) : Prop :=
  ∃ before f after e, d.fields = before ++ f :: after ∧ (d.upTo before).expand = .ok e ∧
    e.ComesTo f pathName

theorem named_of_forConstant {d : StructDeclaration} {constant : String}
    (failed : d.expand = .error (.invalidConstant constant)) : d.hasParameters = false ∧ d.shape = .named := by
  unfold expand at failed
  cases parameters : d.hasParameters with
  | true =>
    rw [parameters] at failed
    cases failed
  | false =>
    rw [parameters] at failed
    cases shape : d.shape with
    | named => exact ⟨rfl, rfl⟩
    | _ =>
      rw [shape] at failed
      cases failed

theorem expand_of_name {d : StructDeclaration} {name : Option String} (parameters : d.hasParameters = false)
    (shape : d.shape = .named) (named : (Attribute.entityOptions d.attributes >>= entityNameOf) = .ok name) :
    d.expand = d.fields.foldlM Expansion.addField { name := name.getD d.name } := by
  rw [expand_of_named parameters shape, named]
  rfl

theorem expand_forConstant_iff (d : StructDeclaration) :
    (∃ constant, d.expand = .error (.invalidConstant constant)) ↔
      ∃ pathName, d.ComesTo pathName ∧ ¬Nameable pathName := by
  constructor
  · rintro ⟨constant, failed⟩
    obtain ⟨parameters, shape⟩ := named_of_forConstant failed
    rw [expand_of_named parameters shape] at failed
    rcases bind_error failed with failed | ⟨name, named, failed⟩
    · have never := (Attribute.entityOptions_neverForConstant d.attributes).bind entityNameOf_neverForConstant
      exact absurd failed (never constant)
    obtain ⟨before, f, after, e, cut, run, failed⟩ := foldlM_error_iff.mp failed
    obtain ⟨pathName, comes, unnameable⟩ := Expansion.addField_forConstant_iff.mp ⟨constant, failed⟩
    have derived : (d.upTo before).expand = .ok e :=
      (expand_of_name (d := d.upTo before) parameters shape named).trans run
    exact ⟨pathName, ⟨before, f, after, e, cut, derived, comes⟩, unnameable⟩
  · rintro ⟨pathName, ⟨before, f, after, e, cut, derived, comes⟩, unnameable⟩
    have parameters : d.hasParameters = false := parameters_of_expand_ok (d := d.upTo before) derived
    have shape : d.shape = .named := shape_of_expand_ok (d := d.upTo before) derived
    rw [expand_of_named (d := d.upTo before) parameters shape] at derived
    obtain ⟨name, named, run⟩ := bind_ok derived
    obtain ⟨constant, failed⟩ := Expansion.addField_forConstant_iff.mpr ⟨pathName, comes, unnameable⟩
    refine ⟨constant, ?_⟩
    rw [expand_of_name (d := d) parameters shape named]
    exact foldlM_error_iff.mpr ⟨before, f, after, e, cut, run, failed⟩

/-- Deriving a struct fails for a constant exactly if it comes to a name of which none can be made. Of plain
identifiers one can always be made, and of raw ones never. -/
theorem expand_fails_on_names (d : StructDeclaration) :
    ((∃ constant, d.expand = .error (.invalidConstant constant)) ↔
      ∃ pathName, d.ComesTo pathName ∧ ¬Nameable pathName) ∧
    ∀ name : String, (isIdentifier name.toList = true → Nameable name) ∧ ¬Nameable ("r#" ++ name) :=
  ⟨expand_forConstant_iff d, fun name => ⟨nameable_of_isIdentifier, not_nameable_raw name⟩⟩

/-- A name that a field can have in the source: an identifier, with or without the mark of raw ones. -/
def SourceName (name : String) : Prop :=
  ∃ plain, isIdentifier plain.toList = true ∧ (name = plain ∨ name = "r#" ++ plain)

/-- A struct with one field, which is named by a raw identifier and has no options. -/
def column : StructDeclaration where
  name := "Column"
  hasParameters := false
  shape := .named
  attributes := []
  fields := [⟨"r#type", .named "String" "String" [], []⟩]

theorem column_fails : ¬∀ d : StructDeclaration, (∀ f ∈ d.fields, SourceName f.name) →
    ∀ constant, d.expand ≠ .error (.invalidConstant constant) := by
  intro derived
  have raw : ∀ f ∈ column.fields, SourceName f.name :=
    List.forall_mem_singleton.mpr ⟨"type", by decide +kernel, Or.inr rfl⟩
  have unasked : FieldOptions.ofAttributes [] = .ok {} := rfl
  have comes : column.ComesTo "r#type" := by
    refine ⟨[], _, [], { name := "Column" }, rfl, rfl, ?_⟩
    exact Expansion.ComesTo.intro (f := ⟨"r#type", _, []⟩) unasked rfl rfl
  obtain ⟨constant, failed⟩ := (expand_forConstant_iff column).mpr ⟨"r#type", comes, not_nameable_raw "type"⟩
  exact derived column raw constant failed

end StructDeclaration

end EntityQuery.Derive
