import EntityQuery.Proofs.Path.Resolution
import EntityQuery.Proofs.Query.Condition

/-!
The predicates that callers can build. However one was built, from values or from conditions in text,
its tree is joined from constants and from leaves that suit the paths they are on.
-/

namespace EntityQuery

open EntityQuery.Text

variable {ε : Type}

/-! ### Leaves and trees -/

namespace Node

/-- A leaf on a path from an entity, with null or values of the path's type. A list to be matched in
any case holds texts in lower case. -/
inductive Leaf [Catalog ε] (entity : ε) : Node ε → Prop where
  | compare {path : Path ε} {op : Comparison} {value : Value}
      (rooted : ∃ owner, path.Reaches entity owner) (supported : op.supports path.type = true)
      (typed : path.type.Shows value) : Leaf entity (compare path op value)
  | member {path : Path ε} {values : List Value} {ignoreCase : Bool}
      (rooted : ∃ owner, path.Reaches entity owner) (typed : ∀ v ∈ values, path.type.Shows v)
      (folded : ignoreCase = true → path.type = .string ∧ ∀ v ∈ values, ∃ s, v = .string (lowercase s)) :
      Leaf entity (member path values ignoreCase)

/-- The trees that constants and leaves can be joined to. -/
inductive Joined [Catalog ε] (entity : ε) : Node ε → Prop where
  | constant (b : Bool) : Joined entity (constant b)
  | leaf {a : Node ε} (leaf : a.Leaf entity) : Joined entity a
  | and {a b : Node ε} (left : Joined entity a) (right : Joined entity b) : Joined entity (a.and b)
  | or {a b : Node ε} (left : Joined entity a) (right : Joined entity b) : Joined entity (a.or b)
  | negate {a : Node ε} (joined : Joined entity a) : Joined entity a.negate

end Node

/-- The predicates that can be built. -/
inductive Predicate.Built [Catalog ε] {entity : ε} : Predicate entity → Prop where
  | always : Built always
  | never : Built never
  | compare {p : Predicate entity} {path : String} {op : Comparison} {value : Value}
      (made : Predicate.compare entity path op value = .ok p) : Built p
  | isIn {p : Predicate entity} {path : String} {values : List Value}
      (made : Predicate.isIn entity path values = .ok p) : Built p
  | parse {p : Predicate entity} {config : Config} {path raw : String}
      {fallback : Option (Predicate entity)} (ready : ∀ f ∈ fallback, Built f)
      (made : Condition.parse config entity path raw fallback = .ok p) : Built p
  | parseOr {p : Predicate entity} {config : Config} {path raw : String} {op : Comparison}
      (made : Condition.parseOr config entity path raw op = .ok p) : Built p
  | and {p q : Predicate entity} (left : Built p) (right : Built q) : Built (p.and q)
  | or {p q : Predicate entity} (left : Built p) (right : Built q) : Built (p.or q)
  | negate {p : Predicate entity} (built : Built p) : Built p.negate
  | combine {ps : List (Predicate entity)} (connective : Connective) (built : ∀ p ∈ ps, Built p) :
      Built (combine connective ps)
  | butNone {ps : List (Predicate entity)} (built : ∀ p ∈ ps, Built p) : Built (butNone ps)
  | onlyIf {p : Predicate entity} (condition : Bool) (built : Built p) : Built (onlyIf condition p)

/-! ### Values of leaves -/

theorem mem_insertNew {values : List Value} {v w : Value} (member : w ∈ insertNew values v) :
    w ∈ values ∨ w = v := by
  unfold insertNew at member
  split at member
  · exact Or.inl member
  · simpa using member

theorem mem_of_insertNew {values : List Value} {v : Value} (member : v ∈ values.foldl insertNew []) :
    v ∈ values := by
  revert v
  refine List.foldlRecOn (motive := fun kept => ∀ {v}, v ∈ kept → v ∈ values) values _ (by simp) ?_
  intro kept ready new present v member
  rcases mem_insertNew member with old | rfl
  · exact ready old
  · exact present

theorem Token.type_of_textual {how : ListMatch} {negated : Bool} {type : FieldType ε}
    (suits : (Token.list how negated).supports type = true) (textual : how ≠ .whole) :
    type = .string := by
  cases type
  case string => rfl
  all_goals cases how <;> first | exact absurd rfl textual | cases suits

/-! ### What is built is joined -/

section Building

variable [Catalog ε] {entity : ε} {config : Config} {path : Path ε}

theorem Node.comparison_leaf {op : Comparison} {value : Value} {node : Node ε}
    (rooted : ∃ owner, path.Reaches entity owner)
    (made : Node.comparison config path op value = .ok node) : node.Leaf entity := by
  obtain ⟨may, v, rfl, converted | ⟨-, -, rfl⟩⟩ := Node.comparison_ok_iff.mp made
  · exact .compare rooted may (Coercion.ofValue_shows converted)
  · exact .compare rooted may (Or.inl rfl)

namespace Condition

theorem literal_leaf {op : Comparison} {raw : String} {node : Node ε}
    (rooted : ∃ owner, path.Reaches entity owner) (made : literal config path op raw = .ok node) :
    node.Leaf entity := by
  obtain ⟨v, -, made⟩ := bind_ok made
  exact Node.comparison_leaf rooted made

theorem anyOf_joined {nodes : List (Node ε)} (joined : ∀ n ∈ nodes, n.Joined entity) :
    (anyOf nodes).Joined entity := by
  cases nodes with
  | nil => exact .constant false
  | cons first rest =>
    rw [List.forall_mem_cons] at joined
    obtain ⟨start, others⟩ := joined
    exact List.foldlRecOn rest Node.or start fun _ ready n member => .or ready (others n member)

theorem parts_joined {op : Comparison} {needles : List Value}
    (rooted : ∃ owner, path.Reaches entity owner) (textual : path.type = .string)
    (texts : ∀ v ∈ needles, ∃ s, v = .string s) :
    (anyOf ((needles.foldl insertNew []).map (.compare path op))).Joined entity := by
  refine anyOf_joined fun n member => ?_
  obtain ⟨v, present, rfl⟩ := List.mem_map.mp member
  refine .leaf (.compare rooted ?_ ?_)
  · rw [textual]
    rfl
  · rw [textual]
    exact Or.inr (texts v (mem_of_insertNew present))

theorem listNode_joined {how : ListMatch} {negated : Bool} {operand : String} {node : Node ε}
    (rooted : ∃ owner, path.Reaches entity owner)
    (suits : (Token.list how negated).supports path.type = true)
    (made : listNode config path operand how = .ok node) : node.Joined entity := by
  cases how with
  | whole =>
    obtain ⟨values, read, made⟩ := bind_ok made
    cases made
    refine .leaf (.member rooted ?_ nofun)
    intro v member
    obtain ⟨item, -, read⟩ := mapM_ok read v (mem_of_insertNew member)
    exact Or.inr (Coercion.ofText_admits read)
  | wholeIgnoringCase =>
    cases made
    have textual := Token.type_of_textual suits nofun
    have lowered : ∀ v ∈ ((items config path false operand).map fun item =>
        Value.string (lowercase item)).foldl insertNew [], ∃ s, v = .string (lowercase s) := by
      intro v member
      obtain ⟨item, -, rfl⟩ := List.mem_map.mp (mem_of_insertNew member)
      exact ⟨item, rfl⟩
    refine .leaf (.member rooted ?_ fun _ => ⟨textual, lowered⟩)
    intro v member
    obtain ⟨s, rfl⟩ := lowered v member
    rw [textual]
    exact Or.inr ⟨_, rfl⟩
  | part =>
    cases made
    refine parts_joined rooted (Token.type_of_textual suits nofun) fun v member => ?_
    obtain ⟨item, -, rfl⟩ := List.mem_map.mp member
    exact ⟨item, rfl⟩
  | partIgnoringCase =>
    cases made
    refine parts_joined rooted (Token.type_of_textual suits nofun) fun v member => ?_
    obtain ⟨item, -, rfl⟩ := List.mem_map.mp member
    exact ⟨lowercase item, rfl⟩

theorem build_joined {token : Token} {operand : String} {node : Node ε}
    (rooted : ∃ owner, path.Reaches entity owner) (suits : token.supports path.type = true)
    (made : build config path token operand = .ok node) : node.Joined entity := by
  cases token with
  | compare op => exact .leaf (literal_leaf rooted made)
  | range =>
    unfold build at made
    dsimp only at made
    split at made
    · obtain ⟨_, -, made⟩ := bind_ok made
      obtain ⟨_, -, made⟩ := bind_ok made
      obtain ⟨lower, fromBelow, made⟩ := bind_ok made
      obtain ⟨upper, fromAbove, made⟩ := bind_ok made
      cases made
      exact .and (.leaf (Node.comparison_leaf rooted fromBelow))
        (.leaf (Node.comparison_leaf rooted fromAbove))
    · cases made
  | list how negated =>
    obtain ⟨node, listed, made⟩ := bind_ok made
    have joined := listNode_joined rooted suits listed
    cases negated <;> cases made
    · exact joined
    · exact .negate joined

theorem orElse_joined {fallback : Option (Predicate entity)} {attempt : Except QueryError (Node ε)}
    {p : Predicate entity} (ready : ∀ f ∈ fallback, f.node.Joined entity)
    (attempted : ∀ node, attempt = .ok node → node.Joined entity)
    (made : orElse fallback attempt = .ok p) : p.node.Joined entity := by
  cases fallback with
  | none =>
    obtain ⟨node, done, rfl⟩ := map_ok made
    exact attempted node done
  | some f =>
    cases made
    exact ready p rfl

theorem parse_joined {text raw : String} {fallback : Option (Predicate entity)}
    {p : Predicate entity} (ready : ∀ f ∈ fallback, f.node.Joined entity)
    (made : parse config entity text raw fallback = .ok p) : p.node.Joined entity := by
  obtain ⟨path, resolved, made⟩ := bind_ok made
  have rooted := Path.resolve_reaches resolved
  split at made
  · exact orElse_joined ready (fun _ done => .leaf (literal_leaf rooted done)) made
  · split at made
    · exact orElse_joined ready (by nofun) made
    · split at made
      · obtain ⟨node, done, rfl⟩ := map_ok made
        exact build_joined rooted ‹_› done
      · exact orElse_joined ready (by nofun) made

theorem parseOr_joined {text raw : String} {op : Comparison} {p : Predicate entity}
    (made : parseOr config entity text raw op = .ok p) : p.node.Joined entity := by
  unfold parseOr at made
  split at made
  · exact parse_joined (by nofun) made
  · obtain ⟨path, resolved, made⟩ := bind_ok made
    obtain ⟨node, done, made⟩ := bind_ok made
    cases made
    exact .leaf (literal_leaf (Path.resolve_reaches resolved) done)

end Condition

namespace Predicate

variable {p : Predicate entity}

theorem compare_joined {text : String} {op : Comparison} {value : Value}
    (made : Predicate.compare entity text op value = .ok p) : p.node.Joined entity := by
  obtain ⟨path, resolved, made⟩ := bind_ok made
  obtain ⟨node, done, made⟩ := bind_ok made
  cases made
  exact .leaf (Node.comparison_leaf (Path.resolve_reaches resolved) done)

theorem isIn_joined {text : String} {values : List Value} (made : isIn entity text values = .ok p) :
    p.node.Joined entity := by
  obtain ⟨path, resolved, made⟩ := bind_ok made
  obtain ⟨converted, read, made⟩ := bind_ok made
  cases made
  refine .leaf (.member (Path.resolve_reaches resolved) ?_ nofun)
  intro v member
  obtain ⟨given, -, read⟩ := mapM_ok read v (mem_of_insertNew member)
  exact Coercion.ofValue_shows read

theorem join_joined {a b : Node ε} (connective : Connective) (left : a.Joined entity)
    (right : b.Joined entity) : (Node.join connective a b).Joined entity := by
  cases connective
  · exact .and left right
  · exact .or left right

theorem combine_joined {ps : List (Predicate entity)} (connective : Connective)
    (joined : ∀ p ∈ ps, p.node.Joined entity) : (combine connective ps).node.Joined entity := by
  refine List.foldlRecOn _ (Node.join connective) (.constant true) fun _ ready n member => ?_
  obtain ⟨p, present, rfl⟩ := List.mem_map.mp member
  exact join_joined connective ready (joined p present)

theorem butNone_joined {ps : List (Predicate entity)} (joined : ∀ p ∈ ps, p.node.Joined entity) :
    (butNone ps).node.Joined entity := by
  cases ps with
  | nil => exact .constant true
  | cons first others =>
    rw [List.forall_mem_cons] at joined
    obtain ⟨start, joined⟩ := joined
    refine List.foldlRecOn (motive := fun q : Predicate entity => q.node.Joined entity) others _ start ?_
    exact fun _ ready p member => .and ready (.negate (joined p member))

/-- Every predicate that can be built is joined from constants and leaves. -/
theorem Built.joined (built : p.Built) : p.node.Joined entity := by
  induction built with
  | always => exact .constant true
  | never => exact .constant false
  | compare made => exact compare_joined made
  | isIn made => exact isIn_joined made
  | parse _ made ready => exact Condition.parse_joined ready made
  | parseOr made => exact Condition.parseOr_joined made
  | and _ _ left right => exact .and left right
  | or _ _ left right => exact .or left right
  | negate _ joined => exact .negate joined
  | combine connective _ joined => exact combine_joined connective joined
  | butNone _ joined => exact butNone_joined joined
  | onlyIf condition _ joined =>
    cases condition
    · exact .constant true
    · exact joined

end Predicate

end Building

end EntityQuery
