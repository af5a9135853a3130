import EntityQuery.Calendar.Pattern
import EntityQuery.Proofs.Numeric.Digits

/-!
Elements of a pattern in front of a text, and what is known once they are read. Digits with something else behind
them are read as the number that they write, and every part that was not known yet is learned.
-/

namespace EntityQuery.Calendar

open EntityQuery.Text EntityQuery.Numeric

/-! ### Digits in front of a text -/

section Digits

variable {width count n : Nat} {c : Char} {digits rest : List Char}

def NoDigit (rest : List Char) : Prop :=
  ∀ c ∈ rest.head?, isDigit c = false

theorem noDigit_nil : NoDigit [] := nofun

theorem noDigit_cons (other : isDigit c = false) : NoDigit (c :: rest) := by
  rintro d ⟨⟩
  exact other

theorem NoDigit.takeWhile_take (stop : NoDigit rest) (count : Nat) :
    (rest.take count).takeWhile isDigit = [] := by
  cases count with
  | zero => rfl
  | succ count =>
    cases rest with
    | nil => rfl
    | cons c rest =>
      have other := stop c rfl
      rw [List.take_succ_cons, List.takeWhile_cons_of_neg (by simp [other])]

theorem NoDigit.dropWhile (stop : NoDigit rest) : rest.dropWhile isDigit = rest := by
  cases rest with
  | nil => rfl
  | cons c rest =>
    have other := stop c rfl
    rw [List.dropWhile_cons_of_neg (by simp [other])]

theorem readDigits?_append (own : ∀ c ∈ digits, isDigit c = true) (nonempty : digits ≠ [])
    (fits : digits.length ≤ width) (stop : NoDigit rest) :
    readDigits? width (digits ++ rest) = some (ofDigits digits, rest) := by
  have front : ((digits ++ rest).take width).takeWhile isDigit = digits := by
    rw [List.take_append, List.take_of_length_le fits, List.takeWhile_append_of_pos own,
      stop.takeWhile_take, List.append_nil]
  unfold readDigits?
  rw [front]
  dsimp only
  rw [if_neg nonempty, List.drop_left]

theorem readExactDigits?_append (own : ∀ c ∈ digits, isDigit c = true) (exact : digits.length = count) :
    readExactDigits? count (digits ++ rest) = some (ofDigits digits, rest) := by
  subst exact
  unfold readExactDigits?
  rw [List.take_left, List.drop_left]
  exact if_pos ⟨rfl, List.all_eq_true.mpr own⟩

theorem readFraction?_append (own : ∀ c ∈ digits, isDigit c = true) (nonempty : digits ≠ [])
    (fits : digits.length ≤ 9) (stop : NoDigit rest) :
    readFraction? (digits ++ rest) = some (ofDigits digits * 10 ^ (9 - digits.length), rest) := by
  have front : (digits ++ rest).takeWhile isDigit = digits := by
    have none : rest.takeWhile isDigit = [] := by
      rw [← List.take_length (l := rest), stop.takeWhile_take]
    rw [List.takeWhile_append_of_pos own, none, List.append_nil]
  have behind : (digits ++ rest).dropWhile isDigit = rest := by
    rw [List.dropWhile_append_of_pos own, stop.dropWhile]
  unfold readFraction?
  rw [front, behind, List.take_of_length_le fits]
  exact if_neg nonempty

/-- The blanks lie below the digits and above them. -/
theorem isBlank_of_isDigit (digit : isDigit c = true) : isBlank c = false := by
  have bounds : 48 ≤ c.toNat ∧ c.toNat ≤ 57 := by
    rw [isDigit, Bool.and_eq_true, decide_eq_true_eq, decide_eq_true_eq, Char.le_def, Char.le_def,
      UInt32.le_iff_toNat_le, UInt32.le_iff_toNat_le] at digit
    exact digit
  have outside : ∀ r ∈ blanks, r.contains c.toNat = false := by
    generalize c.toNat = n at bounds
    simp [blanks, Run.contains]
    omega
  exact List.any_eq_false.mpr fun r member => by simp [outside r member]

theorem dropBlanks_of_not_isBlank (other : isBlank c = false) : dropBlanks (c :: rest) = c :: rest :=
  List.dropWhile_cons_of_neg (by simp [other])

end Digits

/-! ### Number fields -/

namespace NumberField

variable {n : Nat} {digits rest : List Char}

/-- Digits are read as a number by any field that is wide enough. -/
theorem read?_digits (field : NumberField) (own : ∀ c ∈ digits, isDigit c = true) (nonempty : digits ≠ [])
    (fits : ∀ width ∈ field.width?, digits.length ≤ width) (stop : NoDigit rest) :
    field.read? (digits ++ rest) = some ((ofDigits digits : Int), rest) := by
  obtain ⟨c, more, rfl⟩ := List.exists_cons_of_ne_nil nonempty
  have digit := own c List.mem_cons_self
  have unsigned : c ≠ '-' ∧ c ≠ '+' := by
    constructor
    · rintro rfl
      exact absurd digit (by decide)
    · rintro rfl
      exact absurd digit (by decide)
  have wide : (c :: more).length ≤ field.width?.getD (c :: more ++ rest).length := by
    cases width : field.width? with
    | none => simp
    | some width' => exact fits width' width
  unfold read?
  rw [List.cons_append, dropBlanks_of_not_isBlank (isBlank_of_isDigit digit)]
  dsimp only
  split
  · rename_i signed
    split at signed
    · rename_i same
      cases same
      exact absurd rfl unsigned.1
    · rename_i same
      cases same
      exact absurd rfl unsigned.2
    · cases signed
  · rw [← List.cons_append, readDigits?_append own nonempty wide stop]
    rfl

theorem read?_padded (field : NumberField) {width : Nat} (wide : field.width? = some width) (positive : 0 < width)
    (fits : n < 10 ^ width) (stop : NoDigit rest) :
    field.read? ((padded width n).toList ++ rest) = some ((n : Int), rest) := by
  rw [field.read?_digits (fun _ => isDigit_of_mem_padded) (padded_ne_nil width n) ?_ stop, ofDigits_padded]
  rw [wide]
  rintro _ ⟨⟩
  exact (length_padded positive fits).le

theorem read?_signed_year {sign : Char} (signed : sign = '-' ∨ sign = '+') (own : ∀ c ∈ digits, isDigit c = true)
    (nonempty : digits ≠ []) (stop : NoDigit rest) :
    year.read? (sign :: (digits ++ rest)) =
      some (if sign = '-' then -(ofDigits digits : Int) else ofDigits digits, rest) := by
  have fits : digits.length ≤ (digits ++ rest).length := by simp
  have read := readDigits?_append own nonempty fits stop
  rcases signed with rfl | rfl
  · change (readDigits? (digits ++ rest).length (digits ++ rest)).map _ = _
    rw [read]
    rfl
  · change (readDigits? (digits ++ rest).length (digits ++ rest)).map _ = _
    rw [read]
    rfl

theorem read?_yearText (y : Int) (stop : NoDigit rest) :
    year.read? ((yearText y).toList ++ rest) = some (y, rest) := by
  unfold yearText
  split
  · rename_i range
    have fits : y.toNat < 10 ^ 4 := by omega
    rw [year.read?_padded rfl (by decide) fits stop, Int.toNat_of_nonneg range.1]
  · rw [String.toList_append, List.append_assoc]
    have read (sign : Char) (signed : sign = '-' ∨ sign = '+') :=
      read?_signed_year signed (fun _ => isDigit_of_mem_padded) (padded_ne_nil 4 y.natAbs) stop
    rw [ofDigits_padded] at read
    split
    · rename_i negative
      have sign : "-".toList = ['-'] := rfl
      have value : -(y.natAbs : Int) = y := by omega
      rw [sign, List.singleton_append, read '-' (Or.inl rfl), if_pos rfl, value]
    · rename_i positive
      have sign : "+".toList = ['+'] := rfl
      have value : (y.natAbs : Int) = y := by omega
      rw [sign, List.singleton_append, read '+' (Or.inr rfl), if_neg (by decide), value]

end NumberField

/-! ### What is known -/

namespace Parts

def told (news : List (Part × Int)) : Parts :=
  fun part => news.lookup part

variable {news more : List (Part × Int)} {part : Part} {value : Int}

theorem told_nil : told [] = empty := rfl

theorem told_append (news more : List (Part × Int)) (part : Part) :
    told (news ++ more) part = (told news part).or (told more part) :=
  List.lookup_append

theorem told_eq_none (fresh : part ∉ news.map Prod.fst) : told news part = none := by
  refine List.lookup_eq_none_iff.mpr fun known member => ?_
  rw [bne_iff_ne]
  rintro rfl
  exact fresh (List.mem_map_of_mem member)

theorem learn?_told (fresh : part ∉ news.map Prod.fst) (value : Int) :
    (told news).learn? part value = some (told (news ++ [(part, value)])) := by
  unfold learn?
  rw [told_eq_none fresh]
  refine congrArg some (funext fun p => ?_)
  rw [told_append]
  by_cases same : p = part
  · subst same
    rw [if_pos rfl, told_eq_none fresh]
    simp [told]
  · rw [if_neg same]
    have other : told [(part, value)] p = none := told_eq_none (by simpa using same)
    rw [other, Option.or_none]

/-- News of parts that are not known yet, each told once, are learned. -/
theorem learnAll?_told (fresh : ((news ++ more).map Prod.fst).Nodup) :
    (told news).learnAll? more = some (told (news ++ more)) := by
  induction more generalizing news with
  | nil =>
    rw [List.append_nil]
    rfl
  | cons first more ih =>
    obtain ⟨part, value⟩ := first
    rw [List.append_cons] at fresh ⊢
    have unknown : part ∉ news.map Prod.fst := by
      rw [List.map_append, List.map_append] at fresh
      have before := (List.nodup_append.mp fresh).1
      intro known
      exact (List.nodup_append.mp before).2.2 part known part List.mem_cons_self rfl
    change ((told news).learn? part value).bind (fun parts => parts.learnAll? more) = _
    rw [learn?_told unknown]
    exact ih fresh

end Parts

/-! ### Reading the front of a text -/

/-- The elements, one after the other, read the front of a text. -/
def Reads (items : List PatternItem) (start ended : Parts × List Char) : Prop :=
  items.foldlM (fun (parts, rest) item => item.read? parts rest) start = some ended

namespace Reads

variable {items more : List PatternItem} {item : PatternItem} {start next ended : Parts × List Char}

theorem nil (start : Parts × List Char) : Reads [] start start := rfl

theorem cons (first : item.read? start.1 start.2 = some next) (rest : Reads items next ended) :
    Reads (item :: items) start ended := by
  obtain ⟨parts, s⟩ := start
  change (item.read? parts s).bind _ = _
  rw [first]
  exact rest

theorem append (first : Reads items start next) (rest : Reads more next ended) :
    Reads (items ++ more) start ended := by
  unfold Reads at first rest ⊢
  rw [List.foldlM_append, first]
  exact rest

end Reads

section Patterns

variable {pattern text : String} {items more : List PatternItem} {item : PatternItem} {parts : Parts}
  {rest : List Char}

theorem readPattern?_eq_some (meant : patternItems? pattern.toList = some items)
    (reads : Reads items (.empty, text.toList) (parts, [])) : readPattern? pattern text = some parts := by
  unfold Reads at reads
  unfold readPattern?
  rw [meant, Option.bind_eq_bind, Option.bind_some, reads]
  rfl

/-- A pattern does not fit if one of its elements does not fit what the elements before it leave. -/
theorem readPattern?_eq_none (meant : patternItems? pattern.toList = some (items ++ item :: more))
    (reads : Reads items (.empty, text.toList) (parts, rest)) (fails : item.read? parts rest = none) :
    readPattern? pattern text = none := by
  unfold Reads at reads
  have failed : (items ++ item :: more).foldlM (fun (parts, rest) item => item.read? parts rest)
      (Parts.empty, text.toList) = none := by
    rw [List.foldlM_append, reads]
    change (item.read? parts rest).bind _ = none
    rw [fails]
    rfl
  unfold readPattern?
  rw [meant, Option.bind_eq_bind, Option.bind_some, failed]
  rfl

end Patterns

namespace PatternItem

variable {field : NumberField} {news : List (Part × Int)} {value : Int} {s rest : List Char}

theorem read?_text (parts : Parts) (chars rest : List Char) :
    (text chars).read? parts (chars ++ rest) = some (parts, rest) := by
  unfold read?
  dsimp only
  rw [if_pos (List.isPrefixOf_iff_prefix.mpr (List.prefix_append chars rest)), List.drop_left]

theorem read?_number (read : field.read? s = some (value, rest))
    (range : ∀ low high, field.range? = some (low, high) → low ≤ value ∧ value ≤ high)
    (fresh : ((news ++ field.settles value).map Prod.fst).Nodup) :
    (number field).read? (.told news) s = some (.told (news ++ field.settles value), rest) := by
  unfold PatternItem.read?
  dsimp only
  rw [read, Option.bind_eq_bind, Option.bind_some]
  cases found : field.range? with
  | none =>
    refine (if_pos rfl).trans ?_
    rw [Parts.learnAll?_told fresh]
    rfl
  | some bounds =>
    obtain ⟨low, high⟩ := bounds
    obtain ⟨least, greatest⟩ := range low high found
    have inRange : (decide (low ≤ value) && decide (value ≤ high)) = true := by simp [least, greatest]
    refine (if_pos inRange).trans ?_
    rw [Parts.learnAll?_told fresh]
    rfl

theorem read?_twoDigits {n : Nat} {low high : Int} (wide : field.width? = some 2)
    (range : field.range? = some (low, high)) (least : low ≤ n) (most : n ≤ high) (narrow : high < 100)
    (stop : NoDigit rest) (fresh : ((news ++ field.settles n).map Prod.fst).Nodup) :
    (number field).read? (.told news) ((padded 2 n).toList ++ rest) =
      some (.told (news ++ field.settles n), rest) := by
  have fits : n < 10 ^ 2 := by omega
  refine read?_number (field.read?_padded wide (by decide) fits stop) ?_ fresh
  intro low' high' same
  rw [range] at same
  cases same
  exact ⟨least, most⟩

theorem read?_point {nano : Nat} (read : readFraction? s = some (nano, rest))
    (fresh : Part.nano ∉ news.map Prod.fst) :
    fraction.read? (.told news) ('.' :: s) = some (.told (news ++ [(.nano, (nano : Int))]), rest) := by
  change (readFraction? s).bind _ = _
  rw [read]
  change Option.bind ((Parts.told news).learn? .nano nano) _ = _
  rw [Parts.learn?_told fresh]
  rfl

end PatternItem

end EntityQuery.Calendar
