import EntityQuery.Proofs.Path.Walking
import EntityQuery.Proofs.Query.ListCondition
import EntityQuery.Proofs.Query.Range

/-!
Fallbacks of conditions. A fallback stands in where a text asks nothing of a field of the path's type. Where it does
ask something the fallback plays no part: what is wrong with the operand is reported as it is without one.
-/

namespace EntityQuery

open EntityQuery.Text

variable {ε : Type}

/-! ### What a condition asks -/

/-- A word of letters, a colon and an operand. -/
structure Condition.Worded (raw word operand : String) : Prop where
  cut : raw = word ++ ":" ++ operand
  letters : word.toList.all Condition.isLetter = true
  nonempty : word.toList ≠ []

def Token.NamedBy (token : Token) (word : String) : Prop :=
  equalIgnoringAsciiCase word token.name = true

/-- A condition whose word names a token that suits fields of a type. -/
structure Condition.Asks (type : FieldType ε) (raw : String) (token : Token) (operand : String) : Prop where
  worded : ∃ word, Condition.Worded raw word operand ∧ token.NamedBy word
  suits : token.supports type = true

theorem Condition.split?_eq_some_iff {raw word operand : String} :
    split? raw = some (word, operand) ↔ Worded raw word operand := by
  constructor
  · intro split
    unfold split? at split
    dsimp only at split
    split at split
    · rename_i rest dropped
      split at split
      · cases split
      · rename_i nonempty
        obtain ⟨rfl, rfl⟩ := Prod.mk.inj (Option.some.inj split)
        refine ⟨?_, ?_, by rwa [String.toList_ofList]⟩
        · have chars : raw.toList = raw.toList.takeWhile isLetter ++ ':' :: rest := by
            rw [← dropped, List.takeWhile_append_dropWhile]
          exact String.toList_inj.mp (by simpa using chars)
        · rw [String.toList_ofList]
          exact List.all_takeWhile
    · cases split
  · rintro ⟨rfl, letters, nonempty⟩
    exact split?_of_word letters nonempty operand

namespace Token

theorem toLower_name (token : Token) : token.name.toList.map Char.toLower = token.name.toList := by
  cases token with
  | compare op => cases op <;> decide
  | range => decide
  | list how negated => cases how <;> cases negated <;> decide

theorem ofName?_eq_some_iff {word : String} {token : Token} : ofName? word = some token ↔ token.NamedBy word := by
  have lowered : token.NamedBy word ↔ String.ofList (word.toList.map Char.toLower) = token.name := by
    rw [NamedBy, equalIgnoringAsciiCase, beq_iff_eq, toLower_name, ← String.toList_inj, String.toList_ofList]
  rw [lowered]
  constructor
  · intro found
    unfold ofName? at found
    have same := List.find?_some found
    exact (beq_iff_eq.mp same).symm
  · intro named
    have own := ofName?_name token
    unfold ofName? at own ⊢
    rw [toLower_name, String.ofList_toList] at own
    rwa [named]

theorem supports_textual_list {type : FieldType ε} {how : ListMatch} {negated : Bool}
    (suits : (list how negated).supports type = true) (folded : how ≠ .whole) : type = .string := by
  cases how with
  | whole => exact absurd rfl folded
  | _ => cases type <;> first | rfl | cases suits

end Token

/-! ### What is wrong with an operand -/

namespace Condition

/-- The texts that an operand consists of. A comparison takes it as it is; a range and a list cut it at the separators,
and where no text is asked for they leave blanks out. -/
def operands (config : Config) (type : FieldType ε) (token : Token) (operand : String) : List String :=
  match token with
  | .compare _ => [operand]
  | .range | .list _ _ =>
    if type.isString then splitOn config.listSeparator operand
    else ((splitOn config.listSeparator operand).map trim).filter (· != "")

/-- What makes the operands of a token fail: a range without two bounds, or else the first of them that cannot be
converted to the type of the field. -/
inductive OperandFails (config : Config) (field : Field ε) (token : Token) (given : List String) : QueryError → Prop where
  | malformed (range : token = .range) (count : given.length ≠ 2) :
      OperandFails config field token given (.malformedRange given.length)
  | first {before rest : List String} {item : String} {e : QueryError} (counted : token = .range → given.length = 2)
      (cut : given = before ++ item :: rest) (earlier : ∀ s ∈ before, ∃ v, Coercion.ofText config field s = .ok v)
      (fails : Coercion.ofText config field item = .error e) : OperandFails config field token given e

variable {config : Config} {p : Path ε} {token : Token} {operand : String} {e : QueryError}

theorem items_eq_operands (config : Config) (p : Path ε) (operand : String) :
    items config p false operand = operands config p.type .range operand := by
  unfold items operands
  cases textual : p.type.isString <;> simp

theorem ofText_error {field : Field ε} {text : String} (failed : Coercion.ofText config field text = .error e) :
    e = .notConvertible text field.type.name ∨ e = .invalidDate (trim text) := by
  obtain ⟨name, type, nullable⟩ := field
  cases type <;> simp only [Coercion.ofText] at failed
  case string => cases failed
  case date =>
    right
    have failed := map_error_iff.mp failed
    unfold Coercion.parseDate at failed
    split at failed
    · cases failed
    · exact (Except.error.inj failed).symm
  case dateTime =>
    right
    have failed := map_error_iff.mp failed
    unfold Coercion.parseDateTime at failed
    split at failed
    · cases failed
    · exact (Except.error.inj failed).symm
  all_goals
    left
    unfold Coercion.orNotConvertible at failed
    split at failed
    · cases failed
    · exact (Except.error.inj failed).symm

/-- What can be counted fails as the run of conversions of the operands does. -/
theorem build_error_iff_mapM (suits : token.supports p.type = true)
    (counted : token = .range → (operands config p.type token operand).length = 2) :
    build config p token operand = .error e ↔
      (operands config p.type token operand).mapM (Coercion.ofText config p.leaf) = .error e := by
  cases token with
  | compare op =>
    rw [Token.supports_comparison] at suits
    rw [build, literal_of_suits suits, operands, map_error_iff, List.mapM_cons, List.mapM_nil]
    cases Coercion.ofText config p.leaf operand <;> simp [bind, Except.bind, pure, Except.pure]
  | range =>
    obtain ⟨least, most, cut⟩ := List.length_eq_two.mp (counted rfl)
    rw [build_range_of_bounds suits ((items_eq_operands config p operand).trans cut), cut, List.mapM_cons,
      List.mapM_cons, List.mapM_nil]
    cases Coercion.ofText config p.leaf least with
    | error e' => simp [bind, Except.bind]
    | ok lower =>
      cases Coercion.ofText config p.leaf most <;> simp [bind, Except.bind, Except.map, pure, Except.pure]
  | list how negated =>
    rw [build_list, map_error_iff]
    by_cases whole : how = .whole
    · rw [whole, listNode_of_whole, map_error_iff, items_eq_operands]
      rfl
    · have textual : p.type = .string := Token.supports_textual_list suits whole
      obtain ⟨node, built, -⟩ := listNode_of_text textual config how operand
      rw [built, mapM_ofText_of_string textual]
      simp only [reduceCtorEq]

theorem build_error_iff (suits : token.supports p.type = true) :
    build config p token operand = .error e ↔
      OperandFails config p.leaf token (operands config p.type token operand) e := by
  by_cases counted : token = .range → (operands config p.type token operand).length = 2
  · rw [build_error_iff_mapM suits counted, mapM_error_iff]
    constructor
    · rintro ⟨before, item, rest, cut, passed, failed⟩
      refine .first counted cut (fun s member => ?_) failed
      cases read : Coercion.ofText config p.leaf s with
      | error e' => exact absurd read (passed s member e')
      | ok v => exact ⟨v, rfl⟩
    · rintro (⟨range, uncounted⟩ | ⟨-, cut, earlier, fails⟩)
      · exact absurd (counted range) uncounted
      · refine ⟨_, _, _, cut, fun s member e' failed => ?_, fails⟩
        obtain ⟨v, read⟩ := earlier s member
        cases read.symm.trans failed
  · obtain ⟨rfl, uncounted⟩ := Classical.not_imp.mp counted
    rw [← items_eq_operands] at uncounted ⊢
    rw [build_range_of_not_two uncounted, Except.error.injEq]
    constructor
    · rintro rfl
      exact .malformed rfl uncounted
    · rintro (⟨-, -⟩ | ⟨counted, -, -, -⟩)
      · rfl
      · exact absurd (counted rfl) uncounted

/-! ### Fallbacks -/

section Parsing

variable [Catalog ε] {entity : ε} {path raw : String}

theorem parse_of_asks (resolved : Path.resolve entity path = .ok p) (asks : Asks p.type raw token operand)
    (fallback : Option (Predicate entity)) :
    parse config entity path raw fallback = (build config p token operand).map Predicate.mk := by
  obtain ⟨⟨word, worded, named⟩, suits⟩ := asks
  unfold parse
  rw [resolved]
  simp only [bind, Except.bind, split?_eq_some_iff.mpr worded, Token.ofName?_eq_some_iff.mpr named, suits, if_true]

theorem parse_of_not_asks (resolved : Path.resolve entity path = .ok p)
    (asksNot : ¬∃ token operand, Asks p.type raw token operand) (config : Config) (f : Predicate entity) :
    parse config entity path raw (some f) = .ok f := by
  unfold parse
  rw [resolved]
  simp only [bind, Except.bind]
  split
  · rfl
  · rename_i word operand split
    split
    · rfl
    · rename_i token named
      rw [if_neg]
      · rfl
      · intro suits
        exact asksNot ⟨token, operand, ⟨word, split?_eq_some_iff.mp split, Token.ofName?_eq_some_iff.mp named⟩, suits⟩

/-- A path that is not resolved is reported with a fallback as without one. On a path that is resolved the fallback is
taken where the condition asks nothing of the field. Where it asks something the fallback makes no difference, and
the condition fails just as its operands do: it is never said to be of no use then. -/
theorem parse_with_fallback (config : Config) (entity : ε) (path raw : String) (f : Predicate entity) :
    (∀ e, Path.resolve entity path = .error e →
      (∃ (owner : ε) (part : String), e = .unresolvedPath (entityName owner) path part) ∧
      parse config entity path raw (some f) = .error e ∧ parse config entity path raw none = .error e) ∧
    ∀ p, Path.resolve entity path = .ok p →
      ((¬∃ token operand, Asks p.type raw token operand) → parse config entity path raw (some f) = .ok f) ∧
      ∀ token operand, Asks p.type raw token operand →
        parse config entity path raw (some f) = parse config entity path raw none ∧
        ∀ e, (parse config entity path raw none = .error e ↔
            OperandFails config p.leaf token (operands config p.type token operand) e) ∧
          (parse config entity path raw none = .error e → (∃ n, e = .malformedRange n) ∨
            (∃ text, e = .notConvertible text p.type.name) ∨ ∃ text, e = .invalidDate text) := by
  refine ⟨fun e failed => ⟨?_, parse_of_not_resolved failed _ _ _, parse_of_not_resolved failed _ _ _⟩, ?_⟩
  · obtain ⟨owner, part, -, wording⟩ := Path.resolve_error_iff.mp failed
    exact ⟨owner, part, wording⟩
  · intro p resolved
    refine ⟨fun asksNot => parse_of_not_asks resolved asksNot config f, fun token operand asks => ?_⟩
    have fails : ∀ e, parse config entity path raw none = .error e ↔
        OperandFails config p.leaf token (operands config p.type token operand) e := by
      intro e
      rw [parse_of_asks resolved asks, map_error_iff, build_error_iff asks.suits]
    refine ⟨?_, fun e => ⟨fails e, fun failed => ?_⟩⟩
    · rw [parse_of_asks resolved asks, parse_of_asks resolved asks]
    · cases (fails e).mp failed with
      | malformed => exact Or.inl ⟨_, rfl⟩
      | first _ _ _ failed =>
        rcases ofText_error failed with rfl | rfl
        · exact Or.inr (Or.inl ⟨_, rfl⟩)
        · exact Or.inr (Or.inr ⟨_, rfl⟩)

end Parsing

end Condition

namespace Library

def pagesOfBook : Path Library :=
  ⟨book, [], ⟨"pages", .uint, false⟩⟩

/-- A word that names no token asks nothing. A list is asked for whatever comes behind its word, and of these items
the second one is the first that is no number. -/
theorem pages_asked_for :
    Condition.parse {} book "author.height" "in:1" (some .never) =
      .error (.unresolvedPath "Author" "author.height" "height") ∧
    Condition.parse {} book "pages" "among:120" (some .never) = .ok .never ∧
    Condition.Asks pagesOfBook.type "In:120, ,many,few" (.list .whole false) "120, ,many,few" ∧
    Condition.parse {} book "pages" "In:120, ,many,few" (some .never) = .error (.notConvertible "many" "uint") := by
  have missing : Path.resolve book "author.height" = .error (.unresolvedPath "Author" "author.height" "height") := rfl
  have resolved : Path.resolve book "pages" = .ok pagesOfBook := rfl
  have asksNot : ¬∃ token operand, Condition.Asks pagesOfBook.type "among:120" token operand := by
    rintro ⟨token, operand, ⟨word, worded, named⟩, -⟩
    cases (show Condition.split? "among:120" = some ("among", "120") from rfl).symm.trans
      (Condition.split?_eq_some_iff.mpr worded)
    cases Token.ofName?_eq_some_iff.mpr named
  have asks : Condition.Asks pagesOfBook.type "In:120, ,many,few" (.list .whole false) "120, ,many,few" :=
    ⟨⟨"In", Condition.split?_eq_some_iff.mp rfl, Token.ofName?_eq_some_iff.mp rfl⟩, rfl⟩
  obtain ⟨unresolved, -⟩ := Condition.parse_with_fallback {} book "author.height" "in:1" .never
  obtain ⟨-, unasked⟩ := Condition.parse_with_fallback {} book "pages" "among:120" .never
  obtain ⟨-, asked⟩ := Condition.parse_with_fallback {} book "pages" "In:120, ,many,few" .never
  obtain ⟨same, fails⟩ := (asked _ resolved).2 _ _ asks
  refine ⟨(unresolved _ missing).2.1, (unasked _ resolved).1 asksNot, asks, same.trans ((fails _).1.mpr ?_)⟩
  have cut : Condition.operands {} pagesOfBook.type (.list .whole false) "120, ,many,few" =
      ["120"] ++ "many" :: ["few"] := rfl
  have read : Coercion.ofText {} pagesOfBook.leaf "120" = .ok (pages 120) := rfl
  refine .first nofun cut ?_ rfl
  simp only [List.forall_mem_singleton]
  exact ⟨_, read⟩

end Library

end EntityQuery
