import EntityQuery.Derive.Declaration
import EntityQuery.Proofs.Outcome

/-!
The options in the `entity` attributes of a struct and of its fields. Main statements: which lists of options
are accepted, and what an accepted list asks for.
-/

namespace EntityQuery.Derive

/-! ### Options -/

namespace AttributeOption

def word (name : String) : AttributeOption :=
  ⟨[name], .bare⟩

def assignment (name text : String) : AttributeOption :=
  ⟨[name], .assigned (some text)⟩

def ofKind : RelationKind → AttributeOption
  | .one => word "one"
  | .many => word "many"

def textFor? (name : String) (o : AttributeOption) : Option String :=
  match o.form with
  | .assigned (some text) => if o.path = [name] then some text else none
  | _ => none

def kind? (o : AttributeOption) : Option RelationKind :=
  if o = ofKind .one then some .one
  else if o = ofKind .many then some .many
  else none

theorem kind?_eq_some_iff {o : AttributeOption} {kind : RelationKind} :
    o.kind? = some kind ↔ o = ofKind kind := by
  unfold kind?
  split
  · rename_i one
    subst one
    cases kind <;> decide
  · split
    · rename_i many
      subst many
      cases kind <;> decide
    · cases kind <;> simp_all

def lastOf {α : Type} (f : AttributeOption → Option α) (options : List AttributeOption) : Option α :=
  options.reverse.findSome? f

theorem lastOf_append {α : Type} (f : AttributeOption → Option α) (options : List AttributeOption)
    (o : AttributeOption) : lastOf f (options ++ [o]) = (f o).or (lastOf f options) := by
  simp [lastOf, List.findSome?_cons]
  cases f o <;> rfl

inductive OfField : AttributeOption → Prop
  | key : OfField (word "key")
  | skip : OfField (word "skip")
  | relation (kind : RelationKind) : OfField (ofKind kind)
  | rename (name : String) : OfField (assignment "rename" name)

end AttributeOption

open AttributeOption

namespace FieldOptions

/-- The options of a field that go together, all of them known. -/
structure Allowed (options : List AttributeOption) : Prop where
  known : ∀ o ∈ options, o.OfField
  oneKind : ¬(ofKind .one ∈ options ∧ ofKind .many ∈ options)
  skipped : word "skip" ∈ options → word "key" ∉ options ∧ ∀ kind, ofKind kind ∉ options

/-- What a list of options asks for. Of several names the last one counts. -/
def asked (options : List AttributeOption) : FieldOptions where
  key := options.contains (word "key")
  relation := lastOf kind? options
  skip := options.contains (word "skip")
  rename := lastOf (textFor? "rename") options

variable {options : List AttributeOption} {before after : FieldOptions} {o : AttributeOption}
  {kind : RelationKind}

theorem key_asked_iff : (asked options).key = true ↔ word "key" ∈ options :=
  List.contains_iff_mem

theorem skip_asked_iff : (asked options).skip = true ↔ word "skip" ∈ options :=
  List.contains_iff_mem

theorem mem_of_relation_asked (found : (asked options).relation = some kind) :
    ofKind kind ∈ options := by
  obtain ⟨o, member, given⟩ := List.exists_of_findSome?_eq_some found
  rw [kind?_eq_some_iff] at given
  subst given
  exact List.mem_reverse.mp member

theorem relation_asked_isSome (member : ofKind kind ∈ options) :
    ∃ kind, (asked options).relation = some kind := by
  apply Option.isSome_iff_exists.mp
  apply List.findSome?_isSome_iff.mpr
  exact ⟨_, List.mem_reverse.mpr member, Option.isSome_iff_exists.mpr ⟨kind, kind?_eq_some_iff.mpr rfl⟩⟩

theorem relation_asked_eq_none_iff :
    (asked options).relation = none ↔ ∀ kind, ofKind kind ∉ options := by
  constructor
  · intro none kind member
    obtain ⟨found, some⟩ := relation_asked_isSome member
    rw [none] at some
    cases some
  · intro none
    cases found : (asked options).relation with
    | none => rfl
    | some kind => exact absurd (mem_of_relation_asked found) (none kind)

theorem relation_asked_eq_some_iff (oneKind : ¬(ofKind .one ∈ options ∧ ofKind .many ∈ options)) :
    (asked options).relation = some kind ↔ ofKind kind ∈ options := by
  constructor
  · exact mem_of_relation_asked
  · intro member
    obtain ⟨found, given⟩ := relation_asked_isSome member
    have other := mem_of_relation_asked given
    have same : found = kind := by
      cases found <;> cases kind <;> first | rfl | exact absurd ⟨‹_›, ‹_›⟩ oneKind
    rw [← same, given]

/-! ### Taking options one after the other -/

/-- An accepted option is one of a field, does not go against the relation asked for before, and changes what
it names. -/
theorem accept_ok (accepted : before.accept o = .ok after) :
    o = word "key" ∧ after = { before with key := true } ∨
    o = word "skip" ∧ after = { before with skip := true } ∨
    (∃ kind, o = ofKind kind ∧ before.relation.all (· == kind) = true ∧
      after = { before with relation := some kind }) ∨
    ∃ name, o = assignment "rename" name ∧ after = { before with rename := some name } := by
  unfold accept at accepted
  dsimp only at accepted
  split at accepted
  · cases accepted
    exact Or.inl ⟨rfl, rfl⟩
  · cases accepted
    exact Or.inr (Or.inl ⟨rfl, rfl⟩)
  · split at accepted
    · rename_i free
      cases accepted
      exact Or.inr (Or.inr (Or.inl ⟨.one, rfl, free, rfl⟩))
    · cases accepted
  · split at accepted
    · rename_i free
      cases accepted
      exact Or.inr (Or.inr (Or.inl ⟨.many, rfl, free, rfl⟩))
    · cases accepted
  · rename_i name
    cases accepted
    exact Or.inr (Or.inr (Or.inr ⟨name, rfl, rfl⟩))
  · cases accepted
  · cases accepted

theorem accept_relation (free : before.relation.all (· == kind) = true) :
    before.accept (ofKind kind) = .ok { before with relation := some kind } := by
  cases kind with
  | one => exact if_pos free
  | many => exact if_pos free

theorem asked_append_key : asked (options ++ [word "key"]) = { asked options with key := true } := by
  simp [asked, lastOf_append, word, kind?, ofKind, textFor?]

theorem asked_append_skip : asked (options ++ [word "skip"]) = { asked options with skip := true } := by
  simp [asked, lastOf_append, word, kind?, ofKind, textFor?]

theorem asked_append_rename (name : String) :
    asked (options ++ [assignment "rename" name]) = { asked options with rename := some name } := by
  simp [asked, lastOf_append, assignment, word, kind?, ofKind, textFor?]

theorem asked_append_relation (kind : RelationKind) :
    asked (options ++ [ofKind kind]) = { asked options with relation := some kind } := by
  cases kind <;> simp [asked, lastOf_append, word, kind?, ofKind, textFor?]

theorem all_relation_asked_iff :
    (asked options).relation.all (· == kind) = true ↔
      ∀ other, (asked options).relation = some other → other = kind := by
  cases (asked options).relation with
  | none => simp
  | some other => simp

theorem oneKind_append_iff (oneKind : ¬(ofKind .one ∈ options ∧ ofKind .many ∈ options)) :
    ¬(ofKind .one ∈ options ++ [ofKind kind] ∧ ofKind .many ∈ options ++ [ofKind kind]) ↔
      (asked options).relation.all (· == kind) = true := by
  rw [all_relation_asked_iff]
  constructor
  · intro apart other found
    have member := mem_of_relation_asked found
    cases other <;> cases kind <;> simp_all
  · intro same both
    cases kind with
    | one =>
      have many : ofKind .many ∈ options := by simpa [ofKind, word] using both.2
      obtain ⟨other, found⟩ := relation_asked_isSome many
      cases same other found
      exact oneKind ⟨mem_of_relation_asked found, many⟩
    | many =>
      have one : ofKind .one ∈ options := by simpa [ofKind, word] using both.1
      obtain ⟨other, found⟩ := relation_asked_isSome one
      cases same other found
      exact oneKind ⟨one, mem_of_relation_asked found⟩

theorem foldlM_accept_ok_iff :
    options.foldlM accept {} = .ok after ↔
      (∀ o ∈ options, o.OfField) ∧ ¬(ofKind .one ∈ options ∧ ofKind .many ∈ options) ∧
        after = asked options := by
  -- from the end, since the last name counts and a relation is checked against those before it
  induction options using List.reverseRecOn generalizing after with
  | nil =>
    constructor
    · intro done
      cases done
      exact ⟨nofun, nofun, rfl⟩
    · rintro ⟨-, -, rfl⟩
      rfl
  | append_singleton options last ih =>
    rw [foldlM_concat, List.forall_mem_append, List.forall_mem_singleton]
    constructor
    · intro done
      obtain ⟨before, run, accepted⟩ := bind_ok done
      obtain ⟨known, oneKind, rfl⟩ := ih.mp run
      obtain ⟨rfl, rfl⟩ | ⟨rfl, rfl⟩ | ⟨kind, rfl, free, rfl⟩ | ⟨name, rfl, rfl⟩ := accept_ok accepted
      · exact ⟨⟨known, .key⟩, by simpa [ofKind, word] using oneKind, asked_append_key.symm⟩
      · exact ⟨⟨known, .skip⟩, by simpa [ofKind, word] using oneKind, asked_append_skip.symm⟩
      · exact ⟨⟨known, .relation kind⟩, (oneKind_append_iff oneKind).mpr free,
          (asked_append_relation kind).symm⟩
      · exact ⟨⟨known, .rename name⟩, by simpa [ofKind, word, assignment] using oneKind,
          (asked_append_rename name).symm⟩
    · rintro ⟨⟨known, ofField⟩, apart, rfl⟩
      have oneKind : ¬(ofKind .one ∈ options ∧ ofKind .many ∈ options) := fun both =>
        apart ⟨List.mem_append_left _ both.1, List.mem_append_left _ both.2⟩
      rw [ih.mpr ⟨known, oneKind, rfl⟩]
      cases ofField with
      | key => rw [asked_append_key]; rfl
      | skip => rw [asked_append_skip]; rfl
      | relation kind =>
        have free := (oneKind_append_iff oneKind).mp apart
        rw [asked_append_relation]
        exact accept_relation free
      | rename name => rw [asked_append_rename]; rfl

theorem check_ok_iff :
    check before = .ok after ↔
      ¬(before.skip = true ∧ (before.key = true ∨ before.relation ≠ none)) ∧
        ¬(before.key = true ∧ before.relation ≠ none) ∧ after = before := by
  unfold check
  cases before.skip <;> cases before.key <;> cases before.relation <;> simp [eq_comm]

/-- A list of options is taken if it is allowed and makes no relation the key. -/
theorem ofList_ok_iff :
    ofList options = .ok after ↔
      Allowed options ∧ ¬((asked options).key = true ∧ (asked options).relation ≠ none) ∧
        after = asked options := by
  have together : (asked options).skip = true ∧ ((asked options).key = true ∨ (asked options).relation ≠ none) ↔
      word "skip" ∈ options ∧ (word "key" ∈ options ∨ ∃ kind, ofKind kind ∈ options) := by
    rw [skip_asked_iff, key_asked_iff, ne_eq, relation_asked_eq_none_iff, not_forall_not]
  constructor
  · intro done
    obtain ⟨o, run, checked⟩ := bind_ok done
    obtain ⟨known, oneKind, rfl⟩ := foldlM_accept_ok_iff.mp run
    obtain ⟨skipped, keyed, rfl⟩ := check_ok_iff.mp checked
    rw [together] at skipped
    refine ⟨⟨known, oneKind, fun skip => ⟨?_, ?_⟩⟩, keyed, rfl⟩
    · intro key
      exact skipped ⟨skip, Or.inl key⟩
    · intro kind leads
      exact skipped ⟨skip, Or.inr ⟨kind, leads⟩⟩
  · rintro ⟨⟨known, oneKind, skipped⟩, keyed, rfl⟩
    unfold ofList
    rw [foldlM_accept_ok_iff.mpr ⟨known, oneKind, rfl⟩]
    refine check_ok_iff.mpr ⟨?_, keyed, rfl⟩
    rw [together]
    rintro ⟨skip, key | ⟨kind, leads⟩⟩
    · exact (skipped skip).1 key
    · exact (skipped skip).2 kind leads

end FieldOptions

/-! ### Attributes -/

namespace Attribute

def isEntity (a : Attribute) : Bool :=
  a.head.path == ["entity"]

def Single (attributes : List Attribute) : Prop :=
  (attributes.filter isEntity).length ≤ 1

instance (attributes : List Attribute) : Decidable (Single attributes) :=
  inferInstanceAs (Decidable (_ ≤ 1))

/-- The brackets of an attribute hold options that can be read. -/
def Readable (a : Attribute) : Prop :=
  a.head.form = .applied ∧ ∃ options, readOptions a.arguments = .ok options

def written (attributes : List Attribute) : List AttributeOption :=
  (attributes.filter isEntity).flatMap fun a => (readOptions a.arguments).toOption.getD []

variable {a : Attribute} {attributes : List Attribute} {options : List AttributeOption}

theorem entityOptions_of_find?_none (missing : attributes.find? isEntity = none) :
    entityOptions attributes = .ok [] := by
  change attributes.find? (·.head.path == ["entity"]) = none at missing
  unfold entityOptions
  rw [missing]

theorem entityOptions_of_find?_some (found : attributes.find? isEntity = some a) :
    entityOptions attributes = .ok options ↔
      a.head.form = .applied ∧ readOptions a.arguments = .ok options := by
  change attributes.find? (·.head.path == ["entity"]) = some a at found
  unfold entityOptions
  rw [found]
  cases form : a.head.form <;> simp only [form, reduceCtorEq, false_and, true_and]

/-- The options of the one attribute named `entity`, if it can be read. -/
theorem entityOptions_ok_iff (single : Single attributes) :
    entityOptions attributes = .ok options ↔
      (∀ a ∈ attributes, a.isEntity = true → a.Readable) ∧ options = written attributes := by
  have members : (∀ a ∈ attributes, a.isEntity = true → a.Readable) ↔
      ∀ a ∈ attributes.filter isEntity, a.Readable := by
    simp only [List.mem_filter, and_imp]
  have first : attributes.find? isEntity = (attributes.filter isEntity).head? :=
    List.head?_filter.symm
  rw [members]
  unfold Single at single
  unfold written
  match all : attributes.filter isEntity with
  | [] =>
    rw [all] at first
    rw [entityOptions_of_find?_none first]
    simp [eq_comm]
  | [a] =>
    rw [all] at first
    rw [entityOptions_of_find?_some first, List.forall_mem_singleton, List.flatMap_singleton]
    unfold Readable
    cases readOptions a.arguments with
    | error e => simp
    | ok options => simp [Except.toOption, eq_comm]
  | _ :: _ :: _ =>
    rw [all] at single
    simp at single

end Attribute

theorem FieldOptions.ofAttributes_ok_iff {attributes : List Attribute} {options : FieldOptions}
    (single : Attribute.Single attributes) :
    ofAttributes attributes = .ok options ↔
      (∀ a ∈ attributes, a.isEntity = true → a.Readable) ∧ Allowed (Attribute.written attributes) ∧
        ¬((asked (Attribute.written attributes)).key = true ∧
          (asked (Attribute.written attributes)).relation ≠ none) ∧
        options = asked (Attribute.written attributes) := by
  constructor
  · intro done
    obtain ⟨written, read, taken⟩ := bind_ok done
    obtain ⟨readable, rfl⟩ := (Attribute.entityOptions_ok_iff single).mp read
    exact ⟨readable, ofList_ok_iff.mp taken⟩
  · rintro ⟨readable, taken⟩
    unfold ofAttributes
    rw [(Attribute.entityOptions_ok_iff single).mpr ⟨readable, rfl⟩]
    exact ofList_ok_iff.mpr taken

/-- The options of a struct can only name the entity. Of several names the last one counts. -/
theorem entityNameOf_ok_iff {options : List AttributeOption} {name : Option String} :
    entityNameOf options = .ok name ↔
      (∀ o ∈ options, ∃ text, o = assignment "name" text) ∧
        name = lastOf (textFor? "name") options := by
  unfold entityNameOf
  induction options using List.reverseRecOn generalizing name with
  | nil => simp [lastOf, pure, Except.pure, eq_comm]
  | append_singleton options last ih =>
    rw [foldlM_concat, List.forall_mem_append, List.forall_mem_singleton, lastOf_append]
    constructor
    · intro done
      obtain ⟨before, run, accepted⟩ := bind_ok done
      obtain ⟨names, -⟩ := ih.mp run
      split at accepted
      · rename_i text
        cases accepted
        exact ⟨⟨names, text, rfl⟩, rfl⟩
      · cases accepted
      · cases accepted
    · rintro ⟨⟨names, text, rfl⟩, rfl⟩
      rw [ih.mpr ⟨names, rfl⟩]
      rfl

end EntityQuery.Derive
