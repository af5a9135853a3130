import EntityQuery.Derive.Expansion
import EntityQuery.Proofs.Derive.Containers
import EntityQuery.Proofs.Derive.Options

/-!
The fields of a struct, and what is derived from them one after the other. Main statement: which fields are
taken, and the entity that they make up.
-/

namespace EntityQuery.Derive

open AttributeOption EntityQuery.Text

/-! ### Fields -/

namespace FieldDeclaration

variable {f : FieldDeclaration} {kind : RelationKind}

def options (f : FieldDeclaration) : List AttributeOption :=
  Attribute.written f.attributes

def isKey (f : FieldDeclaration) : Bool :=
  f.options.contains (word "key")

def isSkipped (f : FieldDeclaration) : Bool :=
  f.options.contains (word "skip")

def pathName (f : FieldDeclaration) : String :=
  (lastOf (textFor? "rename") f.options).getD f.name

def constant (f : FieldDeclaration) : List Char :=
  screamingSnake f.pathName.toList

/-- The attribute of the field can be read, and its options go together. -/
def Formed (f : FieldDeclaration) : Prop :=
  (∀ a ∈ f.attributes, a.isEntity = true → a.Readable) ∧ FieldOptions.Allowed f.options

/-- The field is a relation, since an option says so or else since its type stands for one. -/
def LeadsTo (f : FieldDeclaration) (kind : RelationKind) : Prop :=
  ofKind kind ∈ f.options ∨ (∀ kind, ofKind kind ∉ f.options) ∧ f.type.StandsFor kind

def IsRelation (f : FieldDeclaration) : Prop :=
  ∃ kind, f.LeadsTo kind

def relation? (f : FieldDeclaration) : Option RelationKind :=
  (FieldOptions.asked f.options).relation.or f.type.relation?

def descriptor (f : FieldDeclaration) : Descriptor where
  pathName := f.pathName
  role := match f.relation? with
    | none => .scalar f.type
    | some kind => .relation kind f.type.innermost f.type.isOption

def ownConstant (f : FieldDeclaration) : Constant :=
  ⟨String.ofList f.constant, f.pathName⟩

def reading (f : FieldDeclaration) : Arm where
  pattern := f.pathName
  body := match f.relation? with
    | none => .value f.name
    | some kind => .related kind f.name

def assigning (f : FieldDeclaration) : Arm :=
  ⟨f.pathName, .assign f.name⟩

def reaching (f : FieldDeclaration) : Arm :=
  ⟨f.pathName, .reach f.name⟩

def retaining (f : FieldDeclaration) : Arm :=
  ⟨f.pathName, .retain f.name⟩

theorem relation?_eq_some_iff (oneKind : ¬(ofKind .one ∈ f.options ∧ ofKind .many ∈ f.options)) :
    f.relation? = some kind ↔ f.LeadsTo kind := by
  unfold relation? LeadsTo
  rw [← FieldOptions.relation_asked_eq_some_iff oneKind, ← FieldOptions.relation_asked_eq_none_iff,
    ← TypeExpr.relation?_eq_some_iff]
  cases (FieldOptions.asked f.options).relation <;> simp

theorem relation?_eq_none_iff : f.relation? = none ↔ ¬f.IsRelation := by
  unfold relation? IsRelation LeadsTo
  rw [Option.or_eq_none_iff, FieldOptions.relation_asked_eq_none_iff, TypeExpr.relation?_eq_none_iff]
  constructor
  · rintro ⟨unasked, bare⟩ ⟨kind, asked | ⟨-, stands⟩⟩
    · exact unasked kind asked
    · exact bare kind stands
  · intro scalar
    have unasked : ∀ kind, ofKind kind ∉ f.options := fun kind asked => scalar ⟨kind, Or.inl asked⟩
    exact ⟨unasked, fun kind stands => scalar ⟨kind, Or.inr ⟨unasked, stands⟩⟩⟩

theorem isSome_relation?_iff : f.relation?.isSome = true ↔ f.IsRelation := by
  rw [← not_iff_not, ← relation?_eq_none_iff, Bool.not_eq_true, Option.isSome_eq_false_iff,
    Option.isNone_iff_eq_none]

instance : Decidable f.IsRelation :=
  decidable_of_iff _ isSome_relation?_iff

structure Derivable (f : FieldDeclaration) : Prop where
  formed : f.Formed
  named : f.isSkipped = false → isIdentifier f.constant = true
  keyed : f.isKey = true → ¬f.IsRelation

theorem isKey_iff : f.isKey = true ↔ word "key" ∈ f.options :=
  List.contains_iff_mem

theorem isSkipped_iff : f.isSkipped = true ↔ word "skip" ∈ f.options :=
  List.contains_iff_mem

theorem not_isKey_of_isSkipped (formed : f.Formed) (skipped : f.isSkipped = true) : f.isKey = false := by
  rw [← Bool.not_eq_true, isKey_iff]
  exact (formed.2.skipped (isSkipped_iff.mp skipped)).1

theorem taken_iff (single : Attribute.Single f.attributes) {options : FieldOptions} :
    FieldOptions.ofAttributes f.attributes = .ok options ↔
      f.Formed ∧ ¬(f.isKey = true ∧ ∃ kind, ofKind kind ∈ f.options) ∧ options = .asked f.options := by
  rw [FieldOptions.ofAttributes_ok_iff single, ne_eq, FieldOptions.relation_asked_eq_none_iff,
    not_forall_not, Formed, and_assoc]
  rfl

end FieldDeclaration

/-! ### Taking fields one after the other -/

namespace Expansion

variable {e e' : Expansion} {f : FieldDeclaration}

/-- The field at the end of every list that it belongs to. -/
def extended (e : Expansion) (f : FieldDeclaration) : Expansion where
  name := e.name
  key := if f.isKey then some f.pathName else e.key
  descriptors := e.descriptors ++ [f.descriptor]
  constants := e.constants ++ [f.ownConstant]
  getArms := e.getArms ++ [f.reading]
  setArms := e.setArms ++ if f.IsRelation then [] else [f.assigning]
  relatedNames := e.relatedNames ++ if f.IsRelation then [f.pathName] else []
  relatedMutArms := e.relatedMutArms ++ if f.IsRelation then [f.reaching] else []
  retainArms := e.retainArms ++ if f.IsRelation then [f.retaining] else []

theorem markKey_eq (e : Expansion) (isKey : Bool) (pathName : String) :
    e.markKey isKey pathName =
      if isKey && e.key.isSome then .error .secondKey
      else .ok { e with key := if isKey then some pathName else e.key } := by
  unfold markKey
  cases isKey <;> rfl

theorem addConstant_eq (e : Expansion) (f : FieldDeclaration) :
    e.addConstant f.pathName =
      if isIdentifier f.constant then .ok { e with constants := e.constants ++ [f.ownConstant] }
      else .error (.invalidConstant (String.ofList f.constant)) := by
  by_cases valid : isIdentifier f.constant = true
  · have named : constantName f.pathName = .ok (String.ofList f.constant) := if_pos valid
    rw [if_pos valid]
    exact congrArg (· >>= _) named
  · have unnamed : constantName f.pathName = .error (.invalidConstant (String.ofList f.constant)) := if_neg valid
    rw [if_neg valid]
    exact congrArg (· >>= _) unnamed

theorem place_eq (e : Expansion) (f : FieldDeclaration) :
    ({ e with
        key := if f.isKey then some f.pathName else e.key
        constants := e.constants ++ [f.ownConstant] } : Expansion).place (.asked f.options) f.pathName f =
      if f.isKey ∧ f.IsRelation then .error .relationKey else .ok (e.extended f) := by
  have led : ((FieldOptions.asked f.options).relation <|> f.type.relation?) = f.relation? := Option.orElse_eq_or
  unfold place
  rw [led]
  cases role : f.relation? with
  | none =>
    have scalar := FieldDeclaration.relation?_eq_none_iff.mp role
    refine Eq.trans ?_ (if_neg fun both => scalar both.2).symm
    simp [extended, addScalar, FieldDeclaration.descriptor, FieldDeclaration.reading,
      FieldDeclaration.assigning, role, scalar]
  | some kind =>
    have related : f.IsRelation := FieldDeclaration.isSome_relation?_iff.mp (by rw [role]; rfl)
    have key : (FieldOptions.asked f.options).key = f.isKey := rfl
    simp [extended, addRelation, FieldDeclaration.descriptor, FieldDeclaration.reading,
      FieldDeclaration.reaching, FieldDeclaration.retaining, role, related, key]

theorem addField_of_taken (taken : FieldOptions.ofAttributes f.attributes = .ok (.asked f.options)) :
    e.addField f =
      if f.isSkipped then .ok e
      else if f.isKey && e.key.isSome then .error .secondKey
      else if isIdentifier f.constant then
        if f.isKey ∧ f.IsRelation then .error .relationKey
        else .ok (e.extended f)
      else .error (.invalidConstant (String.ofList f.constant)) := by
  have steps : e.addField f = if f.isSkipped then .ok e
      else e.markKey f.isKey f.pathName >>= fun e => e.addConstant f.pathName >>= fun e =>
        e.place (.asked f.options) f.pathName f := by
    unfold addField
    rw [taken]
    rfl
  rw [steps, markKey_eq]
  by_cases second : (f.isKey && e.key.isSome) = true
  · rw [if_pos second, if_pos second]
    rfl
  rw [if_neg second, if_neg second]
  refine congrArg (ite _ _) ?_
  change Expansion.addConstant _ _ >>= _ = _
  rw [addConstant_eq]
  by_cases valid : isIdentifier f.constant = true
  · rw [if_pos valid, if_pos valid]
    exact place_eq e f
  · rw [if_neg valid, if_neg valid]
    rfl

theorem addField_ok_iff (single : Attribute.Single f.attributes) :
    e.addField f = .ok e' ↔
      f.Derivable ∧ ¬(f.isKey = true ∧ e.key.isSome = true) ∧
        e' = if f.isSkipped then e else e.extended f := by
  constructor
  · intro done
    obtain ⟨options, taken, -⟩ := bind_ok done
    obtain ⟨formed, -, rfl⟩ := (FieldDeclaration.taken_iff single).mp taken
    rw [addField_of_taken taken] at done
    split at done
    · rename_i skipped
      cases done
      have noKey := FieldDeclaration.not_isKey_of_isSkipped formed skipped
      refine ⟨⟨formed, ?_, ?_⟩, ?_, ?_⟩
      · intro kept
        rw [skipped] at kept
        cases kept
      · intro key
        rw [noKey] at key
        cases key
      · rw [noKey]
        exact fun second => nomatch second.1
      · rw [if_pos skipped]
    rename_i kept
    split at done
    · cases done
    rename_i first
    split at done
    · rename_i valid
      split at done
      · cases done
      rename_i scalar
      cases done
      rw [Bool.and_eq_true] at first
      refine ⟨⟨formed, fun _ => valid, fun key related => scalar ⟨key, related⟩⟩, first, ?_⟩
      rw [if_neg kept]
    · cases done
  · rintro ⟨⟨formed, named, keyed⟩, first, rfl⟩
    have unrelated : ¬(f.isKey = true ∧ ∃ kind, ofKind kind ∈ f.options) := by
      rintro ⟨key, kind, asked⟩
      exact keyed key ⟨kind, Or.inl asked⟩
    rw [addField_of_taken ((FieldDeclaration.taken_iff single).mpr ⟨formed, unrelated, rfl⟩)]
    by_cases skipped : f.isSkipped = true
    · rw [if_pos skipped, if_pos skipped]
    · have scalar : ¬(f.isKey = true ∧ f.IsRelation) := fun both => keyed both.1 both.2
      rw [← Bool.and_eq_true] at first
      rw [if_neg skipped, if_neg first, if_pos (named (Bool.not_eq_true _ ▸ skipped)),
        if_neg scalar, if_neg skipped]

def ofFields (name : String) (fields : List FieldDeclaration) : Expansion :=
  let kept := fields.filter (!·.isSkipped)
  let scalars := kept.filter (¬·.IsRelation)
  let relations := kept.filter (·.IsRelation)
  { name
    key := (fields.find? (·.isKey)).map (·.pathName)
    descriptors := kept.map (·.descriptor)
    constants := kept.map (·.ownConstant)
    getArms := kept.map (·.reading)
    setArms := scalars.map (·.assigning)
    relatedNames := relations.map (·.pathName)
    relatedMutArms := relations.map (·.reaching)
    retainArms := relations.map (·.retaining) }

variable {name : String} {fields : List FieldDeclaration}

theorem ofFields_append_skipped (formed : f.Formed) (skipped : f.isSkipped = true) :
    ofFields name (fields ++ [f]) = ofFields name fields := by
  have noKey := FieldDeclaration.not_isKey_of_isSkipped formed skipped
  simp [ofFields, List.find?_append, noKey, skipped]

theorem ofFields_append_kept (kept : f.isSkipped = false)
    (first : ¬(f.isKey = true ∧ (ofFields name fields).key.isSome = true)) :
    ofFields name (fields ++ [f]) = (ofFields name fields).extended f := by
  have key : ((fields.find? (·.isKey)).or (if f.isKey then some f else none)).map (·.pathName) =
      if f.isKey then some f.pathName else (fields.find? (·.isKey)).map (·.pathName) := by
    cases marked : f.isKey with
    | false => simp
    | true =>
      have none : fields.find? (·.isKey) = none := by simpa [marked, ofFields] using first
      simp [none]
  by_cases related : f.IsRelation
  · simp [ofFields, extended, key, kept, related]
  · simp [ofFields, extended, key, kept, related]

theorem keys_append_iff :
    ((fields ++ [f]).filter (·.isKey)).length ≤ 1 ↔
      (fields.filter (·.isKey)).length ≤ 1 ∧
        ¬(f.isKey = true ∧ (ofFields name fields).key.isSome = true) := by
  have some : (ofFields name fields).key.isSome = true ↔ 0 < (fields.filter (·.isKey)).length := by
    rw [List.length_filter_pos_iff]
    simp [ofFields]
  rw [some, List.filter_append, List.length_append]
  cases key : f.isKey with
  | false => simp [key]
  | true =>
    have alone : [f].filter (·.isKey) = [f] := by simp [key]
    rw [alone, List.length_singleton, eq_self, true_and]
    omega

/-- Fields are taken if each of them can be derived and at most one is the key. -/
theorem foldlM_addField_ok_iff (single : ∀ f ∈ fields, Attribute.Single f.attributes) :
    fields.foldlM addField { name } = .ok e ↔
      (∀ f ∈ fields, f.Derivable) ∧ (fields.filter (·.isKey)).length ≤ 1 ∧ e = ofFields name fields := by
  -- from the end: what the fields before the last one make up is the state that it is added to
  induction fields using List.reverseRecOn generalizing e with
  | nil =>
    constructor
    · intro done
      cases done
      exact ⟨nofun, Nat.zero_le 1, rfl⟩
    · rintro ⟨-, -, rfl⟩
      rfl
  | append_singleton fields last ih =>
    rw [List.forall_mem_append, List.forall_mem_singleton] at single
    rw [foldlM_concat, List.forall_mem_append, List.forall_mem_singleton, keys_append_iff]
    have next (derivable : last.Derivable)
        (first : ¬(last.isKey = true ∧ (ofFields name fields).key.isSome = true)) :
        ofFields name (fields ++ [last]) =
          if last.isSkipped then ofFields name fields else (ofFields name fields).extended last := by
      cases skipped : last.isSkipped with
      | true => exact ofFields_append_skipped derivable.formed skipped
      | false => exact ofFields_append_kept skipped first
    constructor
    · intro done
      obtain ⟨before, run, added⟩ := bind_ok done
      obtain ⟨derivable, oneKey, rfl⟩ := (ih single.1).mp run
      obtain ⟨last, first, rfl⟩ := (addField_ok_iff single.2).mp added
      exact ⟨⟨derivable, last⟩, ⟨oneKey, first⟩, (next last first).symm⟩
    · rintro ⟨⟨derivable, last⟩, ⟨oneKey, first⟩, rfl⟩
      rw [(ih single.1).mpr ⟨derivable, oneKey, rfl⟩]
      exact (addField_ok_iff single.2).mpr ⟨last, first, next last first⟩

end Expansion

end EntityQuery.Derive
