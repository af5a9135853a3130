import EntityQuery.Proofs.Query.ListCondition
import EntityQuery.Proofs.Text.Surroundings

/-!
Comparisons that ignore case against those that do not. Texts that are equal stay so. A text that contains another one
may fail to contain it when case is ignored: each is lowered by itself, and a sigma of the needle can have one form in
the needle and another one in the text. Whether a needle is always found again depends on its sigmas alone.
-/

namespace EntityQuery

open EntityQuery.Text

variable {ε : Type}

/-! ### Texts -/

namespace Comparison

theorem eval_eq_texts {a e : String} : eq.eval (.string a) (.string e) = true ↔ a = e := by
  change (some (compare a e) == some .eq) = true ↔ a = e
  rw [beq_iff_eq, Option.some.injEq, Std.LawfulEqCmp.compare_eq_iff_eq]

theorem eval_containsIgnoringCase {a e : String} : containsIgnoringCase.eval (.string a) (.string e) =
    occursIn (lowercaseChars e.toList) (lowercaseChars a.toList) := by
  change occursIn (lowercase e).toList (lowercase a).toList = _
  rw [lowercase, lowercase, String.toList_ofList, String.toList_ofList]

theorem eval_eqIgnoringCase_of_eq {a e : String} (equal : eq.eval (.string a) (.string e) = true) :
    eqIgnoringCase.eval (.string a) (.string e) = true := by
  obtain rfl := eval_eq_texts.mp equal
  exact eval_eq_texts.mpr rfl

/-- Containment is kept if the needle stands somewhere with its sigmas lowered as they are in it alone. -/
theorem eval_containsIgnoringCase_of_keepsSigmas {a e : String} {x y : List Char}
    (cut : a.toList = x ++ e.toList ++ y) (keeps : KeepsSigmas x.reverse e.toList y) :
    containsIgnoringCase.eval (.string a) (.string e) = true := by
  rw [eval_containsIgnoringCase, cut]
  exact occursIn_lowercase keeps

theorem eval_containsIgnoringCase_iff_settled {e : String} :
    (∀ a, contains.eval (.string a) (.string e) = true → containsIgnoringCase.eval (.string a) (.string e) = true) ↔
      Settled e.toList := by
  rw [← occursIn_lowercase_iff_settled]
  simp only [eval_containsIgnoringCase]
  constructor
  · intro widens t occurs
    have found := widens (String.ofList t) (by rwa [eval, Text.contains, String.toList_ofList])
    rwa [String.toList_ofList] at found
  · exact fun widens a holds => widens a.toList holds

end Comparison

theorem Token.supports_textual {op : Comparison} (textual : op.isTextual = true) (type : FieldType ε) :
    (compare op).supports type = true ↔ type = .string := by
  cases type <;> simp [supports, isTextual, textual]
  cases op <;> simp [Comparison.isTextual] at textual ⊢

/-! ### Conditions -/

namespace Condition

variable {config : Config} {p : Path ε} {op : Comparison}

theorem holds_contains {entity : ε} {e : String} {r : Record ε}
    (holds : (⟨.compare p .contains (.string e)⟩ : Predicate entity).holds r = true) :
    ∃ a, .string a ∈ p.read r ∧ Comparison.contains.eval (.string a) (.string e) = true := by
  obtain ⟨v, read, passes⟩ := List.any_eq_true.mp holds
  cases v with
  | string a => exact ⟨a, read, passes⟩
  | _ => cases passes

variable [Catalog ε]

theorem parse_textual_ok {entity : ε} {path : String} {fallback : Option (Predicate entity)} {q : Predicate entity}
    (resolved : Path.resolve entity path = .ok p) (textual : op.isTextual = true) {item : String} :
    parse config entity path (op.name ++ ":" ++ item) fallback = .ok q ↔
      p.type = .string ∧ q = ⟨.compare p op (.string item)⟩ ∨ p.type ≠ .string ∧ fallback = some q := by
  rw [show op.name = (Token.compare op).name from rfl, parse_of_token resolved]
  by_cases type : p.type = .string
  · rw [if_pos ((Token.supports_textual textual _).mpr type), build, literal_of_text type]
    simp [type, Except.map, eq_comm]
  · rw [if_neg (mt (Token.supports_textual textual _).mp type)]
    cases fallback <;> simp [orElse, Except.map, type]

/-- Equality of texts is kept when case is ignored. Containment is kept if the needle stands somewhere in the text with
its sigmas lowered as they are in the needle alone. Of one needle it is kept in all texts just if its sigmas are
settled, and a condition on such a needle then holds of every record of which it holds with case. -/
theorem parse_widens_if_settled :
    (∀ a e : String, Comparison.eq.eval (.string a) (.string e) = true →
      Comparison.eqIgnoringCase.eval (.string a) (.string e) = true) ∧
    (∀ a e : String, (∃ x y, a.toList = x ++ e.toList ++ y ∧ KeepsSigmas x.reverse e.toList y) →
      Comparison.containsIgnoringCase.eval (.string a) (.string e) = true) ∧
    ∀ e : String,
      ((∀ a, Comparison.contains.eval (.string a) (.string e) = true →
        Comparison.containsIgnoringCase.eval (.string a) (.string e) = true) ↔ Settled e.toList) ∧
      (Settled e.toList → ∀ (config : Config) (entity : ε) (path : String) (fallback : Option (Predicate entity)) q,
        parse config entity path ("like:" ++ e) fallback = .ok q →
        ∃ q', parse config entity path ("likeci:" ++ e) fallback = .ok q' ∧
          ∀ r, q.holds r = true → q'.holds r = true) := by
  refine ⟨fun a e => Comparison.eval_eqIgnoringCase_of_eq, ?_, fun e => ⟨?_, ?_⟩⟩
  · rintro a e ⟨x, y, cut, keeps⟩
    exact Comparison.eval_containsIgnoringCase_of_keepsSigmas cut keeps
  · exact Comparison.eval_containsIgnoringCase_iff_settled
  · intro settled config entity path fallback q parsed
    obtain ⟨p, resolved, -⟩ := bind_ok parsed
    have cased : Comparison.contains.isTextual = true := rfl
    have folded : Comparison.containsIgnoringCase.isTextual = true := rfl
    rcases (parse_textual_ok resolved cased).mp parsed with ⟨text, rfl⟩ | ⟨other, rfl⟩
    · refine ⟨_, (parse_textual_ok resolved folded).mpr (Or.inl ⟨text, rfl⟩), fun r holds => ?_⟩
      obtain ⟨a, read, contains⟩ := holds_contains holds
      exact List.any_eq_true.mpr ⟨_, read, Comparison.eval_containsIgnoringCase_iff_settled.mpr settled a contains⟩
    · exact ⟨q, (parse_textual_ok resolved folded).mpr (Or.inr ⟨other, rfl⟩), fun _ => id⟩

end Condition

namespace Library

def nameOfOne : Path Library :=
  ⟨author, [], ⟨"name", .string, false⟩⟩

def named (op : Comparison) (s : String) : Predicate author :=
  ⟨.compare nameOfOne op (.string s)⟩

def nikosthenes : Record Library :=
  newAuthor 1 "ΝΙΚΟΣΘΕΝΗΣ" (.ofInt 4) []

/-- The sigma that ends the needle stands inside a word of the name. -/
theorem nikos_lost :
    Record.Fits author nikosthenes ∧
    Condition.parse {} author "name" "like:ΝΙΚΟΣ" none = .ok (named .contains "ΝΙΚΟΣ") ∧
    Condition.parse {} author "name" "likeci:ΝΙΚΟΣ" none = .ok (named .containsIgnoringCase "ΝΙΚΟΣ") ∧
    (named .contains "ΝΙΚΟΣ").holds nikosthenes = true ∧
    (named .containsIgnoringCase "ΝΙΚΟΣ").holds nikosthenes = false := by
  refine ⟨newAuthor_fits _ _ _ (by simp), rfl, rfl, ?_, ?_⟩
  · decide +kernel
  · decide +kernel

/-- The letter behind the sigma settles its form. -/
theorem sthenes_found :
    Settled "ΣΘΕΝΗ".toList ∧
    Condition.parse {} author "name" "likeci:ΣΘΕΝΗ" none = .ok (named .containsIgnoringCase "ΣΘΕΝΗ") ∧
    (named .containsIgnoringCase "ΣΘΕΝΗ").holds nikosthenes = true := by
  have settled : Settled "ΣΘΕΝΗ".toList := by
    change Settled ['Σ', 'Θ', 'Ε', 'Ν', 'Η']
    simp only [Settled, forall_cut_cons]
    refine ⟨fun _ => by decide +kernel, ?_⟩
    simp
  have parsed : Condition.parse {} author "name" ("like:" ++ "ΣΘΕΝΗ") none = .ok (named .contains "ΣΘΕΝΗ") := rfl
  obtain ⟨-, -, widens⟩ := Condition.parse_widens_if_settled (ε := Library)
  obtain ⟨q, built, holds⟩ := (widens "ΣΘΕΝΗ").2 settled {} author "name" none _ parsed
  have same : q = named .containsIgnoringCase "ΣΘΕΝΗ" := (Except.ok.inj built).symm
  subst same
  exact ⟨settled, built, holds nikosthenes (by decide +kernel)⟩

end Library

end EntityQuery
