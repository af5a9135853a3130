import EntityQuery.Proofs.Query.Coercion
import EntityQuery.Query.Condition

/-!
The condition language against the comparisons that it stands for. A comparison's name, a colon and an
operand build what the comparison itself builds from the operand, or fail as it does.
-/

namespace EntityQuery

open EntityQuery.Text

variable {ε : Type}

/-! ### Splitting -/

namespace Condition

theorem split?_of_word {word : String} (letters : word.toList.all isLetter = true)
    (nonempty : word.toList ≠ []) (operand : String) :
    split? (word ++ ":" ++ operand) = some (word, operand) := by
  have chars : (word ++ ":" ++ operand).toList = word.toList ++ ':' :: operand.toList := by
    rw [String.toList_append, String.toList_append, List.append_assoc]
    rfl
  have letter : ∀ c ∈ word.toList, isLetter c = true := List.all_eq_true.mp letters
  have taken : (word.toList ++ ':' :: operand.toList).takeWhile isLetter = word.toList := by
    rw [List.takeWhile_append_of_pos letter, List.takeWhile_cons_of_neg (by decide), List.append_nil]
  have dropped : (word.toList ++ ':' :: operand.toList).dropWhile isLetter = ':' :: operand.toList := by
    rw [List.dropWhile_append_of_pos letter, List.dropWhile_cons_of_neg (by decide)]
  unfold split?
  rw [chars, taken, dropped]
  simp only [if_neg nonempty, String.ofList_toList]

theorem split?_of_token (token : Token) (operand : String) :
    split? (token.name ++ ":" ++ operand) = some (token.name, operand) := by
  refine split?_of_word ?_ ?_ operand
  all_goals
    cases token with
    | compare op => cases op <;> decide
    | range => decide
    | list how negated => cases how <;> cases negated <;> decide

end Condition

/-! ### Tokens -/

namespace Token

theorem ofName?_name (token : Token) : ofName? token.name = some token := by
  cases token with
  | compare op => cases op <;> rfl
  | range => rfl
  | list how negated => cases how <;> cases negated <;> rfl

theorem supports_comparison (op : Comparison) (type : FieldType ε) :
    (compare op).supports type = op.supports type := by
  cases op <;> cases type <;> rfl

end Token

/-! ### Comparisons -/

namespace Node

variable {config : Config} {path : Path ε} {op : Comparison} {v : Value}

theorem comparison_of_not_supported (cannot : op.supports path.type = false) :
    comparison config path op v = .error (.invalidOperation op.name path.type.name) := by
  unfold comparison
  rw [cannot]
  rfl

/-- What a comparison accepts: a value that can be converted, and null for equality and inequality. -/
theorem comparison_ok_iff {node : Node ε} :
    comparison config path op v = .ok node ↔
      op.supports path.type = true ∧ ∃ w, node = compare path op w ∧
        (Coercion.ofValue config path.leaf v = .ok w ∨ (op = .eq ∨ op = .ne) ∧ v = .null ∧ w = .null) := by
  unfold comparison
  cases may : op.supports path.type with
  | false => exact iff_of_false nofun fun accepted => nomatch accepted.1
  | true =>
    rw [if_neg nofun]
    split
    · rename_i null
      obtain ⟨rfl, opposite⟩ := null
      constructor
      · rintro ⟨rfl⟩
        exact ⟨rfl, .null, rfl, Or.inr ⟨opposite, rfl, rfl⟩⟩
      · rintro ⟨-, w, rfl, converted | ⟨-, -, rfl⟩⟩
        · rw [(Coercion.ofValue_null_ok converted).2]
        · rfl
    · rename_i given
      constructor
      · intro built
        obtain ⟨w, converted, rfl⟩ := map_ok built
        exact ⟨rfl, w, rfl, Or.inl converted⟩
      · rintro ⟨-, w, rfl, converted | ⟨opposite, rfl, -⟩⟩
        · rw [converted]
          rfl
        · exact absurd ⟨rfl, opposite⟩ given

theorem comparison_of_ne_null (may : op.supports path.type = true) (given : v ≠ .null) :
    comparison config path op v = (Coercion.ofValue config path.leaf v).map (compare path op) := by
  unfold comparison
  rw [may, if_neg nofun, if_neg fun null => given null.1]

theorem comparison_of_admits (may : op.supports path.type = true) (admitted : path.type.Admits v) :
    comparison config path op v = .ok (compare path op v) :=
  comparison_ok_iff.mpr ⟨may, v, rfl, Or.inl (Coercion.ofValue_of_admits config admitted)⟩

end Node

namespace Condition

/-- Reading an operand before it is compared makes no difference, since a value that was read is
converted to itself. -/
theorem literal_eq_comparison {config : Config} {path : Path ε} {op : Comparison}
    (may : op.supports path.type = true) (text : String) :
    literal config path op text = Node.comparison config path op (.string text) := by
  have given : Value.string text ≠ .null := nofun
  rw [Node.comparison_of_ne_null may given, Coercion.ofValue_string, literal]
  cases read : Coercion.ofText config path.leaf text with
  | error e => rfl
  | ok v => exact Node.comparison_of_admits may (Coercion.ofText_admits read)

theorem literal_of_suits {config : Config} {path : Path ε} {op : Comparison} (suits : op.supports path.type = true)
    (text : String) :
    literal config path op text = (Coercion.ofText config path.leaf text).map (Node.compare path op) := by
  have given : Value.string text ≠ .null := nofun
  rw [literal_eq_comparison suits, Node.comparison_of_ne_null suits given, Coercion.ofValue_string]

section Parsing

variable [Catalog ε] {entity : ε} {path : String} {p : Path ε}

theorem parse_of_token (resolved : Path.resolve entity path = .ok p) (config : Config) (token : Token)
    (operand : String) (fallback : Option (Predicate entity)) :
    parse config entity path (token.name ++ ":" ++ operand) fallback =
      if token.supports p.type then (build config p token operand).map Predicate.mk
      else orElse fallback (.error (.invalidOperation token.name p.type.name)) := by
  unfold parse
  rw [resolved]
  simp only [bind, Except.bind, split?_of_token, Token.ofName?_name]

theorem parse_of_not_resolved {e : QueryError} (failed : Path.resolve entity path = .error e)
    (config : Config) (raw : String) (fallback : Option (Predicate entity)) :
    parse config entity path raw fallback = .error e :=
  bind_of_error failed _

theorem parse_of_comparison (resolved : Path.resolve entity path = .ok p) (config : Config)
    (op : Comparison) (operand : String) :
    parse config entity path (op.name ++ ":" ++ operand) none =
      if op.supports p.type then (literal config p op operand).map Predicate.mk
      else .error (.invalidOperation op.name p.type.name) := by
  rw [← Token.supports_comparison]
  exact parse_of_token resolved config (.compare op) operand none

theorem compare_of_resolve (resolved : Path.resolve entity path = .ok p) (op : Comparison) (v : Value) :
    Predicate.compare entity path op v = (Node.comparison {} p op v).map Predicate.mk := by
  unfold Predicate.compare
  rw [resolved]
  rfl

theorem compare_ok_iff {op : Comparison} {v : Value} {q : Predicate entity}
    (resolved : Path.resolve entity path = .ok p) :
    Predicate.compare entity path op v = .ok q ↔
      ∃ w, q = ⟨.compare p op w⟩ ∧ Node.comparison {} p op v = .ok (.compare p op w) := by
  rw [compare_of_resolve resolved]
  constructor
  · intro built
    obtain ⟨node, made, rfl⟩ := map_ok built
    obtain ⟨-, w, rfl, -⟩ := Node.comparison_ok_iff.mp made
    exact ⟨w, rfl, made⟩
  · rintro ⟨w, rfl, built⟩
    rw [built]
    rfl

/-- A comparison written as a condition is the comparison with the operand as a text, or fails with
the same error. -/
theorem parse_comparison (entity : ε) (path : String) (op : Comparison) (operand : String) :
    parse {} entity path (op.name ++ ":" ++ operand) none =
      Predicate.compare entity path op (.string operand) := by
  cases resolved : Path.resolve entity path with
  | error e =>
    unfold parse Predicate.compare
    rw [resolved]
    rfl
  | ok p =>
    rw [parse_of_comparison resolved, compare_of_resolve resolved]
    cases may : op.supports p.type with
    | true => rw [if_pos rfl, literal_eq_comparison may]
    | false =>
      rw [if_neg nofun, Node.comparison_of_not_supported may]
      rfl

end Parsing

end Condition

end EntityQuery
