import EntityQuery.Proofs.Numeric.Exactness
import EntityQuery.Proofs.Query.Condition
import EntityQuery.Proofs.Source.Roots
import EntityQuery.Proofs.Value.Conversion
import EntityQuery.Proofs.Value.Transitivity

/-!
Look-up of a whole-number key by a number. A filter on the key compares it with the integer that the number is
converted to, but the look-up compares it with the number as it was given. The two part where the number is a double
to which another key rounds than the integer it is converted to, and nowhere else.
-/

namespace EntityQuery

open EntityQuery.Numeric

/-! ### A number and the integer it is converted to -/

namespace Number

/-- Whether a number is an integer, or a double that the integer rounds to. -/
def Means (n : Number) (j : Int) : Prop :=
  n.integer? = some j ∨ ∃ x, n = .float x ∧ (Binary64.ofInt j).compare? x = some .eq

variable {n : Number}

theorem means_of_toInt64? {i : Int64} (converted : n.toInt64? = some i) : n.Means i.toInt := by
  cases n with
  | signed m =>
    cases converted
    exact Or.inl rfl
  | unsigned m => exact Or.inl (congrArg some (toInt64?_unsigned.mp converted))
  | float x =>
    refine Or.inr ⟨x, rfl, ?_⟩
    rcases toInt64?_float.mp converted with whole | ⟨beyond, rfl⟩
    · exact Binary64.compare?_ofInt_of_integer whole
    · -- The double just beyond all integers is what the greatest of them rounds to.
      have rounded : Binary64.ofInt Int64.maxValue.toInt = .ofInt (2 ^ 63) := by decide +kernel
      rw [rounded]
      exact Binary64.compare?_ofInt_of_integer beyond

theorem means_of_toUInt64? {i : UInt64} (converted : n.toUInt64? = some i) : n.Means i.toNat := by
  cases n with
  | signed m => exact Or.inl (congrArg some (toUInt64?_signed.mp converted))
  | unsigned m =>
    cases converted
    exact Or.inl rfl
  | float x =>
    refine Or.inr ⟨x, rfl, ?_⟩
    rcases toUInt64?_float.mp converted with whole | ⟨beyond, rfl⟩
    · exact Binary64.compare?_ofInt_of_integer whole
    · have rounded : Binary64.ofInt (UInt64.ofNat (UInt64.size - 1)).toNat = .ofInt (2 ^ 64) := by
        decide +kernel
      rw [rounded]
      exact Binary64.compare?_ofInt_of_integer beyond

end Number

namespace Value

variable {k m n : Number} {i j : Int} {x : Binary64}

theorem equals_integers (left : k.integer? = some i) (right : m.integer? = some j) :
    (number k).equals (number m) = true ↔ i = j := by
  change (k.compare? m == some .eq) = true ↔ _
  rw [Number.compare?_integers left right, beq_iff_eq, Option.some.injEq, Int.compare_eq_eq]

theorem equals_double (left : k.integer? = some i) :
    (number k).equals (number (.float x)) = true ↔ (Binary64.ofInt i).compare? x = some .eq := by
  change (k.compare? (.float x) == some .eq) = true ↔ _
  rw [Number.compare?_double left, beq_iff_eq]

/-- Whether a value is a double that does not tell two integers apart, which are different. -/
def Blurs (v a b : Value) : Prop :=
  Blurred a v b ∨ Blurred b v a

theorem Blurs.is_double {a b : Value} (blurs : (number n).Blurs a b) : n.integer? = none := by
  rcases blurs with ⟨first, last⟩ | ⟨first, last⟩ <;> rfl

theorem blurs_iff (left : k.integer? = some i) (right : m.integer? = some j) :
    (number (.float x)).Blurs (number k) (number m) ↔
      i ≠ j ∧ (Binary64.ofInt i).compare? x = some .eq ∧ (Binary64.ofInt j).compare? x = some .eq := by
  constructor
  · intro blurs
    rcases blurs with ⟨first, last, descending, firstRounds, lastRounds⟩ |
      ⟨first, last, descending, firstRounds, lastRounds⟩
    · cases left.symm.trans first
      cases right.symm.trans last
      exact ⟨by omega, firstRounds, lastRounds⟩
    · cases left.symm.trans last
      cases right.symm.trans first
      exact ⟨by omega, lastRounds, firstRounds⟩
  · rintro ⟨different, rounds, also⟩
    rcases Int.lt_or_gt_of_ne different with below | above
    · exact Or.inr ⟨right, left, below, also, rounds⟩
    · exact Or.inl ⟨left, right, above, rounds, also⟩

/-- Of the integers that equal a number, the one that the number is converted to is the one that it does not
blur with it. -/
theorem equals_converted_iff (left : k.integer? = some i) (right : m.integer? = some j) (means : n.Means j) :
    (number k).equals (number m) = true ↔
      (number k).equals (number n) = true ∧ ¬(number n).Blurs (number k) (number m) := by
  rw [equals_integers left right]
  rcases means with exactly | ⟨x, rfl, rounds⟩
  · have sharp : ¬(number n).Blurs (number k) (number m) := by
      intro blurs
      cases exactly.symm.trans blurs.is_double
    rw [equals_integers left exactly, and_iff_left sharp]
  · rw [equals_double left, blurs_iff left right]
    constructor
    · rintro rfl
      exact ⟨rounds, fun blurs => blurs.1 rfl⟩
    · rintro ⟨level, sharp⟩
      exact Decidable.not_not.mp fun different => sharp ⟨different, level, rounds⟩

end Value

/-! ### A key and a number -/

section Key

variable {ε : Type} {field : Field ε} {n : Number} {v key meant : Value}

theorem Coercion.means_of_number {config : Config} (whole : field.type = .int ∨ field.type = .uint)
    (converted : ofValue config field (.number n) = .ok v) :
    ∃ m j, v = .number m ∧ m.integer? = some j ∧ n.Means j := by
  obtain ⟨name, type, nullable⟩ := field
  rcases whole with type | type <;> cases type <;> simp only [ofValue] at converted
  · split at converted
    · rename_i i fits
      cases converted
      exact ⟨.signed i, i.toInt, rfl, rfl, Number.means_of_toInt64? fits⟩
    · cases converted
  · split at converted
    · rename_i i fits
      cases converted
      exact ⟨.unsigned i, i.toNat, rfl, rfl, Number.means_of_toUInt64? fits⟩
    · cases converted

theorem FieldType.Shows.integer {type : FieldType ε} (shown : type.Shows v)
    (whole : type = .int ∨ type = .uint) : v = .null ∨ ∃ k i, v = .number k ∧ k.integer? = some i := by
  rcases shown with null | admitted
  · exact Or.inl null
  · rcases whole with rfl | rfl
    all_goals
      obtain ⟨k, rfl⟩ := admitted
      exact Or.inr ⟨_, _, rfl, rfl⟩

/-- A key equals what a number is converted to exactly if it equals the number, which blurs no two integers
there. -/
theorem Coercion.equals_ofValue_iff {config : Config} (whole : field.type = .int ∨ field.type = .uint)
    (converted : ofValue config field (.number n) = .ok meant) (shown : field.type.Shows key) :
    key.equals meant = true ↔ key.equals (.number n) = true ∧ ¬(Value.number n).Blurs key meant := by
  obtain ⟨m, j, rfl, right, means⟩ := means_of_number whole converted
  rcases shown.integer whole with rfl | ⟨k, i, rfl, left⟩
  · exact iff_of_false nofun fun level => nomatch level.1
  · exact Value.equals_converted_iff left right means

end Key

/-! ### Items -/

/-- The first element that passes a test is also the first one that passes a stricter test, as far as a view can
tell that shows whether the stricter one is passed, exactly if it passes that one. -/
theorem map_find?_eq_iff {α β : Type} {p q : α → Bool} {f : α → β} {as : List α}
    (stricter : ∀ a ∈ as, q a = true → p a = true) (told : ∀ a ∈ as, ∀ b ∈ as, f a = f b → q a = q b) :
    (as.find? p).toList.map f = (as.filter q).head?.toList.map f ↔ ∀ a ∈ as.find? p, q a = true := by
  rw [List.head?_filter]
  cases first : as.find? p with
  | none =>
    have none : as.find? q = none := by
      rw [List.find?_eq_none] at first ⊢
      exact fun a member passes => first a member (stricter a member passes)
    rw [none]
    exact iff_of_true rfl nofun
  | some a =>
    have member := List.mem_of_find?_eq_some first
    constructor
    · intro same b here
      cases here
      cases strict : as.find? q with
      | none =>
        rw [strict] at same
        cases same
      | some b =>
        rw [strict] at same
        have alike := told a member b (List.mem_of_find?_eq_some strict) (List.singleton_inj.mp same)
        exact alike.trans (List.find?_some strict)
    · intro passes
      obtain ⟨-, before, after, rfl, rejected⟩ := List.find?_eq_some_iff_append.mp first
      have strict : (before ++ a :: after).find? q = some a := by
        refine List.find?_eq_some_iff_append.mpr ⟨passes a rfl, before, after, rfl, fun b early => ?_⟩
        have fails := rejected b early
        cases pass : q b with
        | false => rfl
        | true =>
          rw [stricter b (List.mem_append_left _ early) pass] at fails
          cases fails
      rw [strict]

namespace MemorySource

variable {ε : Type} [LayoutCatalog ε] {entity : ε} {s : Specification entity} {items : List (Record ε)}
  {field : Field ε} {n : Number}

omit [LayoutCatalog ε] in
theorem holds_of_compare_key [Catalog ε] {text : String} {v : Value} {p : Predicate entity}
    (resolved : Path.resolve entity text = .ok ⟨entity, [], field⟩) (given : v ≠ .null)
    (made : Predicate.compare entity text .eq v = .ok p) :
    ∃ meant, Coercion.ofValue {} field v = .ok meant ∧
      ∀ r, p.holds r = (r.get field.name).toValue.equals meant := by
  obtain ⟨meant, rfl, compared⟩ := (Condition.compare_ok_iff resolved).mp made
  obtain ⟨-, _, ⟨rfl⟩, converted | ⟨-, null, -⟩⟩ := Node.comparison_ok_iff.mp compared
  · exact ⟨meant, converted, fun r => Bool.or_false _⟩
  · exact absurd null given

theorem key_shows {r : Record ε} (keyed : (Catalog.schema entity).keyField? = some field)
    (whole : field.type = .int ∨ field.type = .uint) (fits : Record.Fits entity r) :
    field.type.Shows (r.get field.name).toValue := by
  obtain ⟨name, -, found⟩ := Option.bind_eq_some_iff.mp keyed
  have plain : field.type.target? = none := by
    rcases whole with type | type <;> rw [type] <;> rfl
  obtain ⟨v, read, shown⟩ := fits.get_scalar found plain
  rw [read]
  exact shown

/-- What is fetched by a number as the key is the first item that a filter on the key by this number finds, exactly
unless the first item that the look-up finds has another key than the integer that the number is converted to, and
the number is a double that blurs the two. -/
theorem fetch_of_number_iff {text : String} {p : Predicate entity}
    (fits : ∀ r ∈ items, Record.Fits entity r) (keyed : (Catalog.schema entity).keyField? = some field)
    (whole : field.type = .int ∨ field.type = .uint) (given : s.primaryKey = some (.number n))
    (resolved : Path.resolve entity text = .ok ⟨entity, [], field⟩)
    (made : Predicate.compare entity text .eq (.number n) = .ok p) :
    ∃ meant, Coercion.ofValue {} field (.number n) = .ok meant ∧
      (((ofItems items).apply s none).fetch =
          .ok ((items.filter p.holds).head?.toList.map (prune s.includes)) ↔
        ∀ r ∈ items.find? (hasKey field (.number n)),
          ¬(Value.number n).Blurs (r.get field.name).toValue meant) := by
  have nonnull : Value.number n ≠ .null := nofun
  obtain ⟨meant, converted, holds⟩ := holds_of_compare_key resolved nonnull made
  have passes : ∀ r ∈ items, p.holds r = true ↔ hasKey field (.number n) r = true ∧
      ¬(Value.number n).Blurs (r.get field.name).toValue meant := by
    intro r member
    rw [holds]
    exact Coercion.equals_ofValue_iff whole converted (key_shows keyed whole (fits r member))
  refine ⟨meant, converted, ?_⟩
  rw [fetch_of_key given, keyField_of_some keyed, Except.map, Except.ok.injEq, map_find?_eq_iff]
  · constructor
    · intro found r first
      exact ((passes r (List.mem_of_find?_eq_some first)).mp (found r first)).2
    · intro sharp r first
      exact (passes r (List.mem_of_find?_eq_some first)).mpr ⟨List.find?_some first, sharp r first⟩
  · exact fun r member passed => ((passes r member).mp passed).1
  · intro r _ q _ same
    -- A pruned item shows its key, so that two items of different keys stay apart.
    have alike := (sameScalars_prune s.includes r).symm.trans (same ▸ sameScalars_prune s.includes q)
    rw [holds, holds, alike.toValue_get]

end MemorySource

namespace Library

def idField : Field Library :=
  ⟨"id", .uint, false⟩

/-- The double `2 ^ 53`, to which the next integer rounds as well. -/
def rounded : Number :=
  .float (.ofInt 9007199254740992)

def byRounded : Specification author :=
  { primaryKey := some (.number rounded) }

def exactAuthor : Record Library :=
  newAuthor 9007199254740992 "Ann" (.ofInt 4) []

def nextAuthor : Record Library :=
  newAuthor 9007199254740993 "Bob" (.ofInt 4) []

theorem ofValue_rounded :
    Coercion.ofValue {} idField (.number rounded) = .ok (.number (.unsigned 9007199254740992)) := by
  have exactly : rounded.toUInt64? = some 9007199254740992 := by decide +kernel
  simp only [Coercion.ofValue, idField, exactly]

theorem compare_rounded :
    Predicate.compare author "id" .eq (.number rounded) =
      .ok ⟨.compare ⟨author, [], idField⟩ .eq (.number (.unsigned 9007199254740992))⟩ := by
  have resolved : Path.resolve author "id" = .ok ⟨author, [], idField⟩ := rfl
  have nonnull : Value.number rounded ≠ .null := nofun
  rw [Condition.compare_of_resolve resolved, Node.comparison_of_ne_null rfl nonnull, ofValue_rounded]
  rfl

/-- Where an item with the very key comes first, both find it. -/
theorem exactAuthor_fetched :
    (∀ r ∈ [exactAuthor, nextAuthor], Record.Fits author r) ∧
    ∃ p, Predicate.compare author "id" .eq (.number rounded) = .ok p ∧
      ((MemorySource.ofItems [exactAuthor, nextAuthor]).apply byRounded none).fetch =
        .ok (([exactAuthor, nextAuthor].filter p.holds).head?.toList.map (MemorySource.prune [])) := by
  have exact_fits : Record.Fits author exactAuthor := newAuthor_fits _ _ _ nofun
  have next_fits : Record.Fits author nextAuthor := newAuthor_fits _ _ _ nofun
  have fits : ∀ r ∈ [exactAuthor, nextAuthor], Record.Fits author r :=
    List.forall_mem_cons.mpr ⟨exact_fits, List.forall_mem_singleton.mpr next_fits⟩
  obtain ⟨meant, converted, agrees⟩ := MemorySource.fetch_of_number_iff (s := byRounded) fits
    (show (Catalog.schema author).keyField? = some idField from rfl) (Or.inr rfl) rfl rfl compare_rounded
  refine ⟨fits, _, compare_rounded, agrees.mpr ?_⟩
  rw [ofValue_rounded] at converted
  cases converted
  intro r first
  have found : [exactAuthor, nextAuthor].find? (MemorySource.hasKey idField (.number rounded)) =
      some exactAuthor := List.find?_cons_of_pos (by decide +kernel)
  cases found.symm.trans first
  exact fun blurs => (Value.blurs_iff rfl rfl).mp blurs |>.1 rfl

/-- An item with the next key is fetched, though a filter on the key by the same number finds none. -/
theorem nextAuthor_fetched :
    Record.Fits author nextAuthor ∧
    ∃ p, Predicate.compare author "id" .eq (.number rounded) = .ok p ∧
      [nextAuthor].filter p.holds = [] ∧
      ((MemorySource.ofItems [nextAuthor]).apply byRounded none).fetch = .ok [nextAuthor] := by
  refine ⟨newAuthor_fits _ _ _ nofun, _, compare_rounded, ?_, ?_⟩
  · have other : ∀ p : Record Library → Bool, p nextAuthor = false → [nextAuthor].filter p = [] :=
      fun p fails => List.filter_cons_of_neg (by rw [fails]; nofun)
    exact other _ (by decide +kernel)
  · rw [MemorySource.fetch_of_key rfl,
      MemorySource.keyField_of_some (show (Catalog.schema author).keyField? = some idField from rfl)]
    have found : [nextAuthor].find? (MemorySource.hasKey idField (.number rounded)) = some nextAuthor :=
      List.find?_cons_of_pos (by decide +kernel)
    rw [Except.map, found]
    rfl

end Library

end EntityQuery
