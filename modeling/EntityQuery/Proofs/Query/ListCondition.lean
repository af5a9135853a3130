import EntityQuery.Proofs.Query.Building
import EntityQuery.Proofs.Query.Joining
import EntityQuery.Proofs.Query.Membership
import EntityQuery.Proofs.Text.Lowercase
import EntityQuery.Proofs.Text.Split

/-!
Conditions that name a list of items. The word that asks for none of them builds the negation of what
the word that asks for some of them builds. On a text the latter asks whether some item passes the
comparison that it would be put to alone, although items are kept once, and in lower case where case
is ignored.
-/

namespace EntityQuery

open EntityQuery.Text

variable {ε : Type}

/-! ### Values that are kept once -/

theorem any_texts_kept_once (f : Value → Bool) (texts : List String) :
    ((texts.map Value.string).foldl insertNew []).any f = texts.any fun s => f (.string s) := by
  have respects : ∀ v ∈ texts.map Value.string, ∀ w, v.same w = true → f v = f w := by
    intro v member w same
    obtain ⟨s, -, rfl⟩ := List.mem_map.mp member
    exact congrArg f (eq_of_beq same)
  rw [any_foldl_insertNew respects, List.any_map]
  rfl

/-! ### Ways of matching -/

namespace ListMatch

def comparison : ListMatch → Comparison
  | whole => .eq
  | wholeIgnoringCase => .eqIgnoringCase
  | part => .contains
  | partIgnoringCase => .containsIgnoringCase

def isPartial : ListMatch → Bool
  | part | partIgnoringCase => true
  | whole | wholeIgnoringCase => false

def fold : ListMatch → String → String
  | whole, item | part, item => item
  | wholeIgnoringCase, item | partIgnoringCase, item => lowercase item

/-- The comparison tells an item from no other one that is kept in the same form. -/
theorem eval_fold (how : ListMatch) (v : Value) (item : String) :
    how.comparison.eval v (.string (how.fold item)) = how.comparison.eval v (.string item) := by
  cases how with
  | whole | part => rfl
  | wholeIgnoringCase =>
    simp only [comparison, fold, Comparison.eval, Value.foldCase, lowercase_lowercase]
  | partIgnoringCase =>
    cases v <;> simp only [comparison, fold, Comparison.eval, lowercase_lowercase]

end ListMatch

theorem Token.supports_list (how : ListMatch) (negated : Bool) (type : FieldType ε) :
    (list how negated).supports type = (list how false).supports type := by
  cases how <;> cases type <;> rfl

namespace Condition

variable {config : Config} {p : Path ε} {operand : String}

/-! ### Negation -/

theorem build_list (config : Config) (p : Path ε) (operand : String) (how : ListMatch) (negated : Bool) :
    build config p (.list how negated) operand =
      (listNode config p operand how).map fun node => if negated then node.negate else node := by
  change (listNode config p operand how >>= fun node =>
    pure (if negated then node.negate else node)) = _
  cases listNode config p operand how <;> rfl

theorem listNode_of_whole : listNode config p operand .whole =
    ((items config p false operand).mapM (Coercion.ofText config p.leaf)).map fun values =>
      .member p (values.foldl insertNew []) false := by
  rw [listNode]
  cases (items config p false operand).mapM (Coercion.ofText config p.leaf) <;> rfl

section Negation

variable [Catalog ε] {entity : ε} {path : String} {how : ListMatch}

theorem parse_list_of_suits (resolved : Path.resolve entity path = .ok p)
    (suits : (Token.list how false).supports p.type = true) (negated : Bool) :
    parse config entity path ((Token.list how negated).name ++ ":" ++ operand) none =
      (listNode config p operand how).map fun node => ⟨if negated then node.negate else node⟩ := by
  rw [parse_of_token resolved, Token.supports_list, suits, if_pos rfl, build_list]
  cases listNode config p operand how <;> rfl

theorem parse_list_of_not_suits (resolved : Path.resolve entity path = .ok p)
    (cannot : (Token.list how false).supports p.type = false) (negated : Bool) :
    parse config entity path ((Token.list how negated).name ++ ":" ++ operand) none =
      .error (.invalidOperation (Token.list how negated).name p.type.name) := by
  rw [parse_of_token resolved, Token.supports_list, cannot, if_neg nofun]
  rfl

theorem parse_negated_ok_iff {q : Predicate entity} :
    parse config entity path ((Token.list how true).name ++ ":" ++ operand) none = .ok q ↔
      ∃ p : Predicate entity,
        parse config entity path ((Token.list how false).name ++ ":" ++ operand) none = .ok p ∧
          q = p.negate := by
  cases resolved : Path.resolve entity path with
  | error e =>
    rw [parse_of_not_resolved resolved, parse_of_not_resolved resolved]
    exact ⟨nofun, nofun⟩
  | ok p =>
    cases suits : (Token.list how false).supports p.type with
    | false =>
      rw [parse_list_of_not_suits resolved suits, parse_list_of_not_suits resolved suits]
      exact ⟨nofun, nofun⟩
    | true =>
      rw [parse_list_of_suits resolved suits, parse_list_of_suits resolved suits]
      cases listNode config p operand how with
      | error e => exact ⟨nofun, nofun⟩
      | ok node =>
        constructor
        · intro built
          exact ⟨⟨node⟩, rfl, (Except.ok.inj built).symm⟩
        · rintro ⟨positive, built, rfl⟩
          cases built
          rfl

/-- The word that asks for no item is accepted where the word that asks for some item is. It builds
the negation, which holds of the records of which the other does not hold. -/
theorem parse_list_negated (config : Config) (entity : ε) (path operand : String) (how : ListMatch) :
    ((∃ q : Predicate entity,
        parse config entity path ((Token.list how true).name ++ ":" ++ operand) none = .ok q) ↔
      ∃ p : Predicate entity,
        parse config entity path ((Token.list how false).name ++ ":" ++ operand) none = .ok p) ∧
    ∀ p q : Predicate entity,
      parse config entity path ((Token.list how false).name ++ ":" ++ operand) none = .ok p →
      parse config entity path ((Token.list how true).name ++ ":" ++ operand) none = .ok q →
      q = p.negate ∧ ∀ r, q.holds r = !p.holds r := by
  constructor
  · constructor
    · rintro ⟨q, negative⟩
      obtain ⟨p, positive, -⟩ := parse_negated_ok_iff.mp negative
      exact ⟨p, positive⟩
    · rintro ⟨p, positive⟩
      exact ⟨p.negate, parse_negated_ok_iff.mpr ⟨p, positive, rfl⟩⟩
  · intro p q positive negative
    obtain ⟨p', positive', rfl⟩ := parse_negated_ok_iff.mp negative
    cases positive.symm.trans positive'
    exact ⟨rfl, Predicate.holds_negate p⟩

end Negation

/-! ### Texts -/

theorem ofText_of_string (textual : p.type = .string) (config : Config) (text : String) :
    Coercion.ofText config p.leaf text = .ok (.string text) := by
  unfold Path.type at textual
  unfold Coercion.ofText
  simp only [textual]

theorem mapM_ofText_of_string (textual : p.type = .string) (config : Config) (list : List String) :
    list.mapM (Coercion.ofText config p.leaf) = .ok (list.map .string) := by
  rw [funext (ofText_of_string textual config)]
  exact List.mapM_pure

theorem literal_of_text (textual : p.type = .string) (config : Config) (op : Comparison) (text : String) :
    literal config p op text = .ok (.compare p op (.string text)) := by
  have suits : op.supports p.type = true := by
    rw [textual]
    rfl
  rw [literal_of_suits suits, ofText_of_string textual]
  rfl

theorem items_joined (textual : p.type = .string) {parts : Bool} {list : List String}
    (some : list ≠ []) (filled : ∀ item ∈ list, item ≠ "")
    (plain : ∀ item ∈ list, config.listSeparator ∉ item.toList) :
    items config p parts (joined (String.singleton config.listSeparator) list) = list := by
  unfold items
  rw [splitOn_joined some plain, textual]
  simp only [FieldType.isString, if_true, List.map_id', Bool.true_and]
  refine List.filter_eq_self.mpr fun item member => ?_
  rw [bne_iff_ne.mpr (filled item member), Bool.or_true]

theorem eval_member_texts (p : Path ε) (texts : List String) (ignoreCase : Bool) (r : Record ε) :
    (Node.member p ((texts.map Value.string).foldl insertNew []) ignoreCase).eval r =
      texts.any fun s => (p.read r).any fun v =>
        (if ignoreCase then v.foldCase else v).equals (.string s) := by
  rw [Node.eval_member_kept, List.any_map]
  rfl

theorem eval_anyOf {nodes : List (Node ε)} (constrain : ∀ n ∈ nodes, n.isTrue = false)
    (r : Record ε) : (anyOf nodes).eval r = nodes.any (·.eval r) := by
  cases nodes with
  | nil => rfl
  | cons first rest =>
    rw [anyOf, List.any_cons]
    induction rest generalizing first with
    | nil => simp
    | cons second rest ih =>
      simp only [List.forall_mem_cons] at constrain
      obtain ⟨left, right, others⟩ := constrain
      obtain ⟨both, either⟩ := Node.or_of_both left right
      rw [List.foldl_cons, ih _ (List.forall_mem_cons.mpr ⟨both, others⟩), either, List.any_cons,
        Bool.or_assoc]

theorem eval_anyOf_texts (p : Path ε) (op : Comparison) (texts : List String) (r : Record ε) :
    (anyOf (((texts.map Value.string).foldl insertNew []).map (.compare p op))).eval r =
      texts.any fun s => (Node.compare p op (.string s)).eval r := by
  rw [eval_anyOf, List.any_map]
  · exact any_texts_kept_once _ texts
  · intro n member
    obtain ⟨v, -, rfl⟩ := List.mem_map.mp member
    rfl

theorem eval_compare_fold (p : Path ε) (how : ListMatch) (item : String) (r : Record ε) :
    (Node.compare p how.comparison (.string (how.fold item))).eval r =
      (Node.compare p how.comparison (.string item)).eval r := by
  rw [Node.eval, Node.eval]
  exact congrArg (p.read r).any (funext fun v => how.eval_fold v item)

/-- On a text a list asks whether some item passes the comparison that it would be put to alone. -/
theorem listNode_of_text (textual : p.type = .string) (config : Config) (how : ListMatch)
    (operand : String) :
    ∃ node, listNode config p operand how = .ok node ∧ ∀ r, node.eval r =
      (items config p how.isPartial operand).any fun item =>
        (Node.compare p how.comparison (.string item)).eval r := by
  have lowered : ∀ list : List String, (list.map fun item => Value.string (lowercase item)) =
      (list.map lowercase).map Value.string := by
    intro list
    rw [List.map_map]
    rfl
  cases how with
  | whole =>
    rw [listNode, mapM_ofText_of_string textual]
    exact ⟨_, rfl, fun r => eval_member_texts p _ false r⟩
  | wholeIgnoringCase =>
    rw [listNode, lowered]
    refine ⟨_, rfl, fun r => ?_⟩
    rw [eval_member_texts, List.any_map]
    rfl
  | part =>
    rw [listNode]
    exact ⟨_, rfl, fun r => eval_anyOf_texts p .contains _ r⟩
  | partIgnoringCase =>
    rw [listNode, lowered]
    refine ⟨_, rfl, fun r => ?_⟩
    rw [eval_anyOf_texts, List.any_map]
    -- an item that was lowered once is lowered again when it is compared
    exact congrArg (List.any _) (funext fun item => eval_compare_fold p .partIgnoringCase item r)

section Texts

variable [Catalog ε] {entity : ε} {path : String}

theorem parse_list_of_text (resolved : Path.resolve entity path = .ok p) (textual : p.type = .string)
    (config : Config) (how : ListMatch) (operand : String) :
    ∃ q : Predicate entity,
      parse config entity path ((Token.list how false).name ++ ":" ++ operand) none = .ok q ∧
      ∀ r, q.holds r = (items config p how.isPartial operand).any fun item =>
        (Node.compare p how.comparison (.string item)).eval r := by
  have suits : (Token.list how false).supports p.type = true := by
    rw [textual]
    rfl
  obtain ⟨node, built, decides⟩ := listNode_of_text textual config how operand
  rw [parse_list_of_suits resolved suits, built]
  exact ⟨⟨node⟩, rfl, decides⟩

theorem parse_comparison_of_text (resolved : Path.resolve entity path = .ok p)
    (textual : p.type = .string) (config : Config) (op : Comparison) (item : String) :
    parse config entity path (op.name ++ ":" ++ item) none = .ok ⟨.compare p op (.string item)⟩ := by
  have suits : op.supports p.type = true := by
    rw [textual]
    rfl
  rw [parse_of_comparison resolved, if_pos suits, literal_of_text textual]
  rfl

/-- Items that can be joined to a list and are found in it again. -/
structure Separable (config : Config) (items : List String) : Prop where
  some : items ≠ []
  filled : ∀ item ∈ items, item ≠ ""
  plain : ∀ item ∈ items, config.listSeparator ∉ item.toList

/-- Of a text, a list of items holds where some item alone passes the comparison that goes with the
list. So it makes no difference how often items are listed, in which order and, where case is
ignored, in which case. -/
theorem parse_list_of_items (resolved : Path.resolve entity path = .ok p)
    (textual : p.type = .string) (config : Config) (how : ListMatch) {items : List String}
    (given : Separable config items) :
    ∃ (whole : Predicate entity) (single : String → Predicate entity),
      parse config entity path ((Token.list how false).name ++ ":" ++
        joined (String.singleton config.listSeparator) items) none = .ok whole ∧
      (∀ item, parse config entity path (how.comparison.name ++ ":" ++ item) none =
        .ok (single item)) ∧
      (∀ r, whole.holds r = items.any fun item => (single item).holds r) ∧
      ∀ others, Separable config others →
        (∀ s, s ∈ others.map how.fold ↔ s ∈ items.map how.fold) →
        ∃ other : Predicate entity,
          parse config entity path ((Token.list how false).name ++ ":" ++
            joined (String.singleton config.listSeparator) others) none = .ok other ∧
          ∀ r, other.holds r = whole.holds r := by
  have listed : ∀ items, Separable config items → ∃ q : Predicate entity,
      parse config entity path ((Token.list how false).name ++ ":" ++
        joined (String.singleton config.listSeparator) items) none = .ok q ∧
      ∀ r, q.holds r = (items.map how.fold).any fun item =>
        (Node.compare p how.comparison (.string item)).eval r := by
    intro items given
    obtain ⟨q, built, decides⟩ := parse_list_of_text resolved textual config how
      (joined (String.singleton config.listSeparator) items)
    refine ⟨q, built, fun r => ?_⟩
    rw [decides, items_joined textual given.some given.filled given.plain, List.any_map]
    exact congrArg items.any (funext fun item => (eval_compare_fold p how item r).symm)
  obtain ⟨whole, built, decides⟩ := listed items given
  refine ⟨whole, fun item => ⟨.compare p how.comparison (.string item)⟩, built, ?_, ?_, ?_⟩
  · exact parse_comparison_of_text resolved textual config how.comparison
  · intro r
    rw [decides, List.any_map]
    exact congrArg items.any (funext fun item => eval_compare_fold p how item r)
  · intro others separable same
    obtain ⟨other, built, alike⟩ := listed others separable
    refine ⟨other, built, fun r => ?_⟩
    rw [decides, alike, Bool.eq_iff_iff, List.any_eq_true, List.any_eq_true]
    simp only [same]

end Texts

end Condition

namespace Library

/-- The author of the book is not known, so no name is reached. -/
theorem book_by_others : ∃ p q : Predicate book,
    Condition.parse {} book "author.name" "in:Ann,Bob" none = .ok p ∧
    Condition.parse {} book "author.name" "nin:Ann,Bob" none = .ok q ∧
    q = p.negate ∧ q.holds (newBook "Emma" 120) = true := by
  obtain ⟨accepted, opposed⟩ := Condition.parse_list_negated {} book "author.name" "Ann,Bob" .whole
  obtain ⟨q, negative⟩ := accepted.mpr ⟨_, rfl⟩
  obtain ⟨same, others⟩ := opposed _ q rfl negative
  exact ⟨_, q, rfl, negative, same, others _⟩

def titleOfBook : Path Library :=
  ⟨book, [], ⟨"title", .string, false⟩⟩

def barred : Config :=
  { listSeparator := '|' }

theorem titles_like_some :
    Path.resolve book "title" = .ok titleOfBook ∧ titleOfBook.type = .string ∧
    Condition.Separable barred ["Du", "MM"] ∧
    ∃ whole other : Predicate book,
      Condition.parse barred book "title" "inlikeci:Du|MM" none = .ok whole ∧
      Condition.parse barred book "title" "inlikeci:mm|du|MM" none = .ok other ∧
      whole.holds (newBook "Emma" 120) = true ∧ other.holds (newBook "Emma" 120) = true := by
  have first : Condition.Separable barred ["Du", "MM"] := ⟨nofun, by decide, by decide⟩
  have second : Condition.Separable barred ["mm", "du", "MM"] := ⟨nofun, by decide, by decide⟩
  have alike : ∀ s, s ∈ ["mm", "du", "MM"].map ListMatch.partIgnoringCase.fold ↔
      s ∈ ["Du", "MM"].map ListMatch.partIgnoringCase.fold := by
    intro s
    change s ∈ ["mm", "du", "mm"] ↔ s ∈ ["du", "mm"]
    simp only [List.mem_cons, List.not_mem_nil, or_false]
    constructor
    · rintro (rfl | rfl | rfl) <;> decide
    · rintro (rfl | rfl) <;> decide
  obtain ⟨whole, single, built, alone, holds, relisted⟩ :=
    Condition.parse_list_of_items (show Path.resolve book "title" = .ok titleOfBook from rfl) rfl
      barred .partIgnoringCase first
  obtain ⟨other, rebuilt, same⟩ := relisted _ second alike
  have parsed : Condition.parse barred book "title" "likeci:MM" none =
      .ok ⟨.compare titleOfBook .containsIgnoringCase (.string "MM")⟩ := rfl
  have found : (single "MM").holds (newBook "Emma" 120) = true := by
    rw [Except.ok.inj ((alone "MM").symm.trans parsed)]
    rfl
  have some : whole.holds (newBook "Emma" 120) = true :=
    (holds _).trans (List.any_eq_true.mpr ⟨"MM", by decide, found⟩)
  exact ⟨rfl, rfl, first, whole, other, built, rebuilt, some, (same _).trans some⟩

end Library

end EntityQuery
