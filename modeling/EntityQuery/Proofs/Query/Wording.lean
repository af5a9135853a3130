import EntityQuery.Proofs.Query.Fallback
import EntityQuery.Proofs.Text.Letters
import EntityQuery.Proofs.Text.Pattern

/-!
The words of conditions. Main statement: a text is cut into a word and an operand just where the pattern of
conditions matches it, and a token may be spelled with capital letters anywhere.
-/

namespace EntityQuery

open EntityQuery.Text

/-! ### The form of a condition -/

namespace Condition

def letters : List (Char × Char) :=
  [('A', 'Z'), ('a', 'z')]

def anything : List (Char × Char) :=
  [(Char.ofNat 0, Char.ofNat 0x10FFFF)]

/-- Letters from the beginning on, a colon, and whatever else there is up to the end. -/
def form : Pattern :=
  .followedBy .textStart <| .followedBy (.group (.run 1 letters)) <| .followedBy (.one [(':', ':')]) <|
    .followedBy (.group (.run 0 anything)) .textEnd

theorem isLetter_iff {c : Char} : isLetter c = true ↔ 'A' ≤ c ∧ c ≤ 'Z' ∨ 'a' ≤ c ∧ c ≤ 'z' := by
  simp only [isLetter, Char.isAlpha, Char.isUpper, Char.isLower, Bool.or_eq_true, Bool.and_eq_true, decide_eq_true_eq]
  rfl

theorem inClass_letters (c : Char) : inClass letters c = isLetter c := by
  rw [← Bool.coe_iff_coe, isLetter_iff]
  simp [inClass, letters]

theorem inClass_anything (c : Char) : inClass anything c = true := by
  have least : Char.ofNat 0 ≤ c := UInt32.le_iff_toNat_le.mpr (Nat.zero_le _)
  have most : c ≤ Char.ofNat 0x10FFFF := UInt32.le_iff_toNat_le.mpr (Char.toNat_le_max c)
  simp [inClass, anything, least, most]

theorem inClass_colon {c : Char} : inClass [(':', ':')] c = true ↔ c = ':' := by
  constructor
  · intro inside
    simp only [inClass, List.any_cons, List.any_nil, Bool.or_false, Bool.and_eq_true, decide_eq_true_eq] at inside
    exact Char.le_antisymm inside.2 inside.1
  · rintro rfl
    decide

/-- The form is matched in one way at most: by the whole text, a word of letters before its first colon. -/
theorem finds_form_iff {text : List Char} {groups : List (List Char)} :
    form.Finds text groups ↔ ∃ word operand, text = word ++ ':' :: operand ∧ groups = [word, operand] ∧
      word.all isLetter = true ∧ word ≠ [] := by
  have letter : inClass letters = isLetter := funext inClass_letters
  constructor
  · rintro ⟨before, found, after, rfl, matched⟩
    obtain ⟨_, _, rfl, _, _, rfl, start, behindStart⟩ := Pattern.matches_followedBy_iff.mp matched
    obtain ⟨rfl, rfl, rfl⟩ := Pattern.matches_textStart_iff.mp start
    obtain ⟨word, _, rfl, _, _, rfl, first, behindWord⟩ := Pattern.matches_followedBy_iff.mp behindStart
    obtain ⟨_, letterRun, rfl⟩ := Pattern.matches_group_iff.mp first
    obtain ⟨⟨enough, inside⟩, rfl⟩ := Pattern.matches_run_iff.mp letterRun
    obtain ⟨_, _, rfl, _, _, rfl, colon, behindColon⟩ := Pattern.matches_followedBy_iff.mp behindWord
    obtain ⟨⟨c, rfl, isColon⟩, rfl⟩ := Pattern.matches_one_iff.mp colon
    cases inClass_colon.mp isColon
    obtain ⟨operand, _, rfl, _, _, rfl, second, stop⟩ := Pattern.matches_followedBy_iff.mp behindColon
    obtain ⟨_, anyRun, rfl⟩ := Pattern.matches_group_iff.mp second
    obtain ⟨-, rfl⟩ := Pattern.matches_run_iff.mp anyRun
    obtain ⟨rfl, rfl, rfl⟩ := Pattern.matches_textEnd_iff.mp stop
    refine ⟨word, operand, ?_, rfl, letter ▸ inside, List.length_pos_iff.mp enough⟩
    simp
  · rintro ⟨word, operand, rfl, rfl, inside, nonempty⟩
    have matched : form.Matches [] ([] ++ (word ++ ([':'] ++ (operand ++ [])))) []
        ([] ++ ([word] ++ ([] ++ ([operand] ++ [])))) := by
      refine .followedBy (.textStart _) (.followedBy (.group (.run _ _ ?_ ?_))
        (.followedBy (.one _ _ ?_) (.followedBy (.group (.run _ _ ?_ ?_)) (.textEnd _))))
      · exact List.length_pos_iff.mpr nonempty
      · rwa [letter]
      · decide
      · exact Nat.zero_le _
      · exact List.all_eq_true.mpr fun c _ => inClass_anything c
    exact ⟨[], _, [], by simp, matched⟩

theorem finds_form_iff_split? {raw : String} {groups : List (List Char)} :
    form.Finds raw.toList groups ↔
      ∃ word operand, split? raw = some (word, operand) ∧ groups = [word.toList, operand.toList] := by
  rw [finds_form_iff]
  constructor
  · rintro ⟨word, operand, cut, rfl, inside, nonempty⟩
    refine ⟨String.ofList word, String.ofList operand, split?_eq_some_iff.mpr ⟨?_, ?_, ?_⟩, ?_⟩
    · exact String.toList_inj.mp (by simpa using cut)
    · rwa [String.toList_ofList]
    · rwa [String.toList_ofList]
    · simp only [String.toList_ofList]
  · rintro ⟨word, operand, split, rfl⟩
    obtain ⟨rfl, inside, nonempty⟩ := split?_eq_some_iff.mp split
    exact ⟨word.toList, operand.toList, by simp, rfl, inside, nonempty⟩

end Condition

/-! ### Spellings of a token -/

namespace Token

/-- The name of a token with some of its letters, or all or none, written as capitals. -/
def Spelled (token : Token) (word : String) : Prop :=
  List.Forall₂ (fun c d => c = d ∨ c = d.toUpper) word.toList token.name.toList

variable {token : Token} {word : String}

theorem isLower_name (token : Token) : token.name.toList.all Char.isLower = true := by
  cases token with
  | compare op => cases op <;> decide
  | range => decide
  | list how negated => cases how <;> cases negated <;> decide

theorem lowered_of_forall₂ {word name : List Char} (small : name.all Char.isLower = true)
    (spelled : List.Forall₂ (fun c d => c = d ∨ c = d.toUpper) word name) :
    word.map Char.toLower = name ∧ word.all Condition.isLetter = true := by
  induction spelled with
  | nil => exact ⟨rfl, rfl⟩
  | @cons _ d _ _ same _ ih =>
    rw [List.all_cons, Bool.and_eq_true] at small
    obtain ⟨lowered, letters⟩ := ih small.2
    have kept : d.toLower = d := Char.toLower_eq_of_not_isUpper (Char.not_isUpper_of_isLower small.1)
    have letter : d.isAlpha = true := Bool.or_eq_true_iff.mpr (Or.inr small.1)
    rw [List.map_cons, List.all_cons, lowered, letters, Bool.and_true, Condition.isLetter]
    rcases same with rfl | rfl
    · exact ⟨congrArg (· :: _) kept, letter⟩
    · rw [Char.toLower_toUpper_eq_toLower, kept, Char.isAlpha_toUpper_eq_isAlpha, letter]
      exact ⟨rfl, rfl⟩

theorem Spelled.namedBy (spelled : token.Spelled word) : token.NamedBy word := by
  obtain ⟨lowered, -⟩ := lowered_of_forall₂ token.isLower_name spelled
  rw [NamedBy, equalIgnoringAsciiCase, beq_iff_eq, lowered, toLower_name]

theorem Spelled.worded (spelled : token.Spelled word) (operand : String) :
    Condition.Worded (word ++ ":" ++ operand) word operand := by
  obtain ⟨-, letters⟩ := lowered_of_forall₂ token.isLower_name spelled
  refine ⟨rfl, letters, fun empty => ?_⟩
  rw [Spelled, empty, List.forall₂_nil_left_iff] at spelled
  exact (Condition.split?_eq_some_iff.mp (Condition.split?_of_token token operand)).nonempty spelled

end Token

namespace Condition

variable {ε : Type} [Catalog ε]

/-- What a condition asks for hangs on the token that its word names, and not on how the word is spelled. -/
theorem parse_of_worded {raw word operand : String} {token : Token} (worded : Worded raw word operand)
    (named : token.NamedBy word) (config : Config) (entity : ε) (path : String)
    (fallback : Option (Predicate entity)) :
    parse config entity path raw fallback = parse config entity path (token.name ++ ":" ++ operand) fallback := by
  unfold parse
  cases Path.resolve entity path with
  | error e => rfl
  | ok p =>
    simp only [bind, Except.bind, split?_eq_some_iff.mpr worded, Token.ofName?_eq_some_iff.mpr named, split?_of_token,
      Token.ofName?_name]

/-- A text is cut where it is one or more letters of ASCII, a colon and an operand, of which the colon is the first
one. These are the parts that the pattern of conditions finds in it, and it finds them in one way only. A token may be
spelled with capitals: the condition then means, or is refused for, the same. -/
theorem words_in_any_case (config : Config) (entity : ε) (path raw : String) (fallback : Option (Predicate entity)) :
    (∀ word operand, split? raw = some (word, operand) ↔
      raw = word ++ ":" ++ operand ∧ word ≠ "" ∧ ∀ c ∈ word.toList, 'A' ≤ c ∧ c ≤ 'Z' ∨ 'a' ≤ c ∧ c ≤ 'z') ∧
    (∀ groups, form.Finds raw.toList groups ↔
      ∃ word operand, split? raw = some (word, operand) ∧ groups = [word.toList, operand.toList]) ∧
    ∀ token word operand, token.Spelled word →
      Token.ofName? word = some token ∧
      parse config entity path (word ++ ":" ++ operand) fallback =
        parse config entity path (token.name ++ ":" ++ operand) fallback := by
  refine ⟨fun word operand => ?_, fun groups => finds_form_iff_split?, fun token word operand spelled => ?_⟩
  · rw [split?_eq_some_iff]
    constructor
    · rintro ⟨cut, letters, nonempty⟩
      refine ⟨cut, fun empty => nonempty (String.toList_eq_nil_iff.mpr empty), fun c member => ?_⟩
      exact isLetter_iff.mp (List.all_eq_true.mp letters c member)
    · rintro ⟨cut, nonempty, letters⟩
      refine ⟨cut, List.all_eq_true.mpr fun c member => ?_, fun empty => nonempty (String.toList_eq_nil_iff.mp empty)⟩
      exact isLetter_iff.mpr (letters c member)
  · have named := Token.ofName?_eq_some_iff.mpr spelled.namedBy
    exact ⟨named, parse_of_worded (spelled.worded operand) spelled.namedBy config entity path fallback⟩

end Condition

namespace Library

/-- A list asked for in capitals, and one whose operand cannot be read. -/
theorem pages_in_capitals :
    (Token.list .whole true).Spelled "nIN" ∧
    Condition.parse {} book "pages" "nIN:120,many" none = .error (.notConvertible "many" "uint") ∧
    Condition.split? "nIN:120\n:many" = some ("nIN", "120\n:many") := by
  have spelled : (Token.list .whole true).Spelled "nIN" :=
    .cons (Or.inl rfl) (.cons (Or.inr rfl) (.cons (Or.inr rfl) .nil))
  obtain ⟨-, -, written⟩ := Condition.words_in_any_case {} book "pages" "" none
  obtain ⟨cut, -⟩ := Condition.words_in_any_case {} book "pages" "nIN:120\n:many" none
  refine ⟨spelled, (written _ _ "120,many" spelled).2.trans rfl, (cut _ _).mpr ⟨rfl, by decide, ?_⟩⟩
  have letters : "nIN".toList.all Condition.isLetter = true := by decide
  exact fun c member => Condition.isLetter_iff.mp (List.all_eq_true.mp letters c member)

end Library

end EntityQuery
