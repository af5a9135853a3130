import EntityQuery.Calendar.Rfc3339

/-!
What reading passes over. Every element of a pattern takes characters of its own kind from the front of a
text and leaves the rest, so a text that a pattern fits as a whole is put together of such characters, and
holds all that the pattern has to stand for itself.
-/

namespace EntityQuery.Calendar

open EntityQuery.Text EntityQuery.Numeric

/-! ### Passing over the front of a text -/

/-- The rest is left of the text after characters of a kind. -/
def Passed (kind : Char → Bool) (s rest : List Char) : Prop :=
  ∃ front, s = front ++ rest ∧ ∀ c ∈ front, kind c = true

namespace Passed

variable {kind other : Char → Bool} {s rest rest' : List Char}

theorem refl (kind : Char → Bool) (s : List Char) : Passed kind s s :=
  ⟨[], rfl, nofun⟩

theorem trans (first : Passed kind s rest) (second : Passed kind rest rest') : Passed kind s rest' := by
  obtain ⟨front, rfl, own⟩ := first
  obtain ⟨front', rfl, own'⟩ := second
  exact ⟨front ++ front', (List.append_assoc ..).symm,
    fun c member => (List.mem_append.mp member).elim (own c) (own' c)⟩

theorem mono (passed : Passed kind s rest) (wider : ∀ c, kind c = true → other c = true) :
    Passed other s rest := by
  obtain ⟨front, same, own⟩ := passed
  exact ⟨front, same, fun c member => wider c (own c member)⟩

theorem cons {c : Char} (own : kind c = true) (passed : Passed kind s rest) : Passed kind (c :: s) rest := by
  obtain ⟨front, rfl, owns⟩ := passed
  exact ⟨c :: front, rfl, List.forall_mem_cons.mpr ⟨own, owns⟩⟩

theorem of_suffix (suffix : rest <:+ s) : Passed (fun _ => true) s rest := by
  obtain ⟨front, same⟩ := suffix
  exact ⟨front, same.symm, fun _ _ => rfl⟩

theorem suffix (passed : Passed kind s rest) : rest <:+ s := by
  obtain ⟨front, same, -⟩ := passed
  exact ⟨front, same.symm⟩

theorem dropWhile (kind : Char → Bool) (s : List Char) : Passed kind s (s.dropWhile kind) :=
  ⟨s.takeWhile kind, List.takeWhile_append_dropWhile.symm, List.all_eq_true.mp List.all_takeWhile⟩

theorem kind_of_mem (passed : Passed kind s []) {c : Char} (member : c ∈ s) : kind c = true := by
  obtain ⟨front, rfl, own⟩ := passed
  rw [List.append_nil] at member
  exact own c member

end Passed

/-! ### Numbers -/

section Numbers

variable {s rest : List Char}

theorem passed_readDigits? {width n : Nat} (read : readDigits? width s = some (n, rest)) :
    Passed isDigit s rest := by
  unfold readDigits? at read
  dsimp only at read
  split at read
  · cases read
  · cases read
    have front : (s.take width).takeWhile isDigit <+: s :=
      (List.takeWhile_prefix isDigit).trans (List.take_prefix width s)
    exact ⟨_, (List.prefix_iff_eq_append.mp front).symm, List.all_eq_true.mp List.all_takeWhile⟩

theorem passed_readExactDigits? {count n : Nat} (read : readExactDigits? count s = some (n, rest)) :
    Passed isDigit s rest := by
  unfold readExactDigits? at read
  dsimp only at read
  split at read
  · rename_i digits
    cases read
    exact ⟨s.take count, (List.take_append_drop count s).symm, List.all_eq_true.mp digits.2⟩
  · cases read

theorem passed_readFraction? {n : Nat} (read : readFraction? s = some (n, rest)) :
    Passed isDigit s rest := by
  unfold readFraction? at read
  dsimp only at read
  split at read
  · cases read
  · cases read
    exact .dropWhile isDigit s

theorem passed_readExactFraction? {count n : Nat} (read : readExactFraction? count s = some (n, rest)) :
    Passed isDigit s rest := by
  obtain ⟨⟨digits, left⟩, found, same⟩ := Option.map_eq_some_iff.mp read
  cases same
  exact passed_readExactDigits? found

/-- The characters of a number with the blanks and the sign before it. -/
def isNumeral (c : Char) : Bool :=
  isBlank c || isDigit c || c == '-' || c == '+'

theorem passed_number {field : NumberField} {n : Int} (read : field.read? s = some (n, rest)) :
    Passed isNumeral s rest := by
  have digits : ∀ c, isDigit c = true → isNumeral c = true := by
    intro c digit
    simp [isNumeral, digit]
  have blanks : Passed isBlank s (dropBlanks s) := .dropWhile isBlank s
  refine (blanks.mono fun c blank => by simp [isNumeral, blank]).trans ?_
  unfold NumberField.read? at read
  generalize dropBlanks s = s at read ⊢
  dsimp only at read
  split at read
  · rename_i negative after signed
    obtain ⟨⟨m, left⟩, found, same⟩ := Option.map_eq_some_iff.mp read
    cases same
    have passed := (passed_readDigits? found).mono digits
    split at signed
    · cases signed
      exact passed.cons (by decide)
    · cases signed
      exact passed.cons (by decide)
    · cases signed
  · obtain ⟨⟨m, left⟩, found, same⟩ := Option.map_eq_some_iff.mp read
    cases same
    exact (passed_readDigits? found).mono digits

end Numbers

/-! ### Patterns -/

namespace PatternItem

/-- Whether an element may pass over a character. Names and distances from Greenwich are not looked into. -/
def mayPass (c : Char) : PatternItem → Bool
  | text chars => chars.contains c
  | blanks => isBlank c
  | number _ => isNumeral c
  | fraction | pointFraction _ | bareFraction _ => c == '.' || isDigit c
  | monthName _ | weekdayName _ | halfDay | timeMark | zoneName | offset _ => true

variable {parts parts' : Parts} {s rest : List Char}

theorem suffix_afterWord? {word : List Char} (read : afterWord? word s = some rest) : rest <:+ s := by
  unfold afterWord? at read
  split at read
  · cases read
    exact List.drop_suffix _ s
  · cases read

theorem suffix_readName? {names : List String} {long : Bool} {i : Nat}
    (read : readName? names long s = some (i, rest)) : rest <:+ s := by
  obtain ⟨-, ⟨name, j⟩, -, -, found, -⟩ := List.findSome?_eq_some_iff.mp read
  obtain ⟨short, started, same⟩ := Option.map_eq_some_iff.mp found
  cases same
  have start := suffix_afterWord? started
  split
  · cases ended : afterWord? (name.toList.drop 3) short with
    | none => exact start
    | some left => exact (suffix_afterWord? ended).trans start
  · exact start

theorem suffix_readSign? {negative : Bool} (read : readSign? s = some (negative, rest)) : rest <:+ s := by
  unfold readSign? at read
  split at read <;> cases read
  all_goals exact List.suffix_cons _ _

theorem suffix_offset {form : OffsetForm} {n : Int} (read : form.read? s = some (n, rest)) : rest <:+ s := by
  unfold OffsetForm.read? at read
  split at read
  · rename_i after named
    cases read
    cases form with
    | full => cases named
    | short => exact suffix_afterWord? named
    | named =>
      rw [OffsetForm.afterGreenwich?, Option.orElse_eq_orElse, Option.orElse_eq_or,
        Option.or_eq_some_iff] at named
      rcases named with found | ⟨-, found⟩
      · exact suffix_afterWord? found
      · exact suffix_afterWord? found
  · obtain ⟨⟨negative, after⟩, signed, read⟩ := Option.bind_eq_some_iff.mp read
    obtain ⟨⟨hours, after'⟩, counted, read⟩ := Option.bind_eq_some_iff.mp read
    have start := (passed_readExactDigits? counted).suffix.trans (suffix_readSign? signed)
    have behind := (List.dropWhile_suffix fun c => c == ':' || isBlank c).trans start
    dsimp only at read
    split at read
    · cases read
      exact behind
    · obtain ⟨⟨minutes, left⟩, ended, same⟩ := Option.bind_eq_some_iff.mp read
      cases same
      exact (passed_readExactDigits? (Option.filter_eq_some_iff.mp ended).1).suffix.trans behind

/-- Where something is learned from what was found, what is left is what was left behind it. -/
theorem found_of_learned {α : Type} {found : Option (α × List Char)} (learn : α → Option Parts)
    (read : (found.bind fun x => (learn x.1).bind fun p => some (p, x.2)) = some (parts', rest)) :
    ∃ a, found = some (a, rest) := by
  obtain ⟨⟨a, left⟩, found, read⟩ := Option.bind_eq_some_iff.mp read
  obtain ⟨_, -, same⟩ := Option.bind_eq_some_iff.mp read
  cases same
  exact ⟨a, found⟩

/-- What an element passes over is of its own kind. -/
theorem passed_read? {item : PatternItem} (read : item.read? parts s = some (parts', rest)) :
    Passed item.mayPass s rest := by
  have point : ∀ c, isDigit c = true → fraction.mayPass c = true := by
    intro c digit
    simp [mayPass, digit]
  cases item with
  | text chars =>
    simp only [PatternItem.read?] at read
    split at read
    · rename_i stands
      cases read
      obtain ⟨after, rfl⟩ := List.isPrefixOf_iff_prefix.mp stands
      exact ⟨chars, by rw [List.drop_left], fun c member => List.contains_iff_mem.mpr member⟩
    · cases read
  | blanks =>
    cases read
    exact .dropWhile isBlank s
  | number field =>
    obtain ⟨⟨value, left⟩, found, read⟩ := Option.bind_eq_some_iff.mp read
    have same : left = rest := by
      dsimp only at read
      split at read <;> split at read
      case isTrue | isTrue =>
        obtain ⟨_, -, same⟩ := Option.bind_eq_some_iff.mp read
        exact congrArg Prod.snd (Option.some.inj same)
      all_goals cases read
    exact same ▸ passed_number found
  | monthName long =>
    obtain ⟨i, found⟩ := found_of_learned (fun i : Nat => parts.learn? .month (i + 1)) read
    exact .of_suffix (suffix_readName? found)
  | weekdayName long =>
    obtain ⟨i, found⟩ := found_of_learned (fun i : Nat => parts.learn? .weekday i) read
    exact .of_suffix (suffix_readName? found)
  | halfDay =>
    obtain ⟨half, found⟩ := found_of_learned (parts.learn? .halfDay) read
    rw [Option.orElse_eq_orElse, Option.orElse_eq_or, Option.or_eq_some_iff] at found
    rcases found with morning | ⟨-, afternoon⟩
    · obtain ⟨_, worded, same⟩ := Option.map_eq_some_iff.mp morning
      cases same
      exact .of_suffix (suffix_afterWord? worded)
    · obtain ⟨_, worded, same⟩ := Option.map_eq_some_iff.mp afternoon
      cases same
      exact .of_suffix (suffix_afterWord? worded)
  | fraction =>
    simp only [PatternItem.read?] at read
    split at read
    · obtain ⟨nano, found⟩ := found_of_learned (fun nano : Nat => parts.learn? .nano nano) read
      exact ((passed_readFraction? found).mono point).cons rfl
    · cases read
      exact .refl _ _
  | pointFraction count =>
    simp only [PatternItem.read?] at read
    split at read
    · obtain ⟨nano, found⟩ := found_of_learned (fun nano : Nat => parts.learn? .nano nano) read
      exact ((passed_readExactFraction? found).mono point).cons rfl
    · cases read
      exact .refl _ _
  | bareFraction count =>
    obtain ⟨nano, found⟩ := found_of_learned (fun nano : Nat => parts.learn? .nano nano) read
    exact (passed_readExactFraction? found).mono point
  | timeMark =>
    simp only [PatternItem.read?] at read
    split at read <;> cases read
    all_goals exact .of_suffix (List.suffix_cons _ _)
  | zoneName =>
    cases read
    exact .of_suffix (List.dropWhile_suffix _)
  | offset form =>
    obtain ⟨minutes, found⟩ := found_of_learned (parts.learn? .offset) read
    exact .of_suffix ((suffix_offset found).trans (List.dropWhile_suffix _))

end PatternItem

section Texts

variable {items : List PatternItem} {start ended : Parts × List Char}

/-- A run of elements passes over characters that some of them may pass over. -/
theorem passed_of_run (run : items.foldlM (fun (parts, rest) item => item.read? parts rest) start = some ended) :
    Passed (fun c => items.any (·.mayPass c)) start.2 ended.2 := by
  induction items generalizing start with
  | nil =>
    cases run
    exact .refl _ _
  | cons item items ih =>
    rw [List.foldlM_cons] at run
    obtain ⟨next, read, run⟩ := Option.bind_eq_some_iff.mp run
    refine ((PatternItem.passed_read? read).mono fun c own => ?_).trans ((ih run).mono fun c own => ?_)
    · rw [List.any_cons, own, Bool.true_or]
    · rw [List.any_cons, own, Bool.or_true]

/-- What stands for itself in the pattern stands in the text. -/
theorem mem_of_run {chars : List Char} {c : Char} (member : .text chars ∈ items) (among : c ∈ chars)
    (run : items.foldlM (fun (parts, rest) item => item.read? parts rest) start = some ended) :
    c ∈ start.2 := by
  induction items generalizing start with
  | nil => cases member
  | cons item items ih =>
    rw [List.foldlM_cons] at run
    obtain ⟨next, read, run⟩ := Option.bind_eq_some_iff.mp run
    rcases List.mem_cons.mp member with rfl | later
    · simp only [PatternItem.read?] at read
      split at read
      · rename_i stands
        exact (List.isPrefixOf_iff_prefix.mp stands).subset among
      · cases read
    · exact (PatternItem.passed_read? read).suffix.subset (ih later run)

/-- A text that fits a pattern consists of characters that its elements may pass over, and holds those that
stand for themselves. -/
theorem chars_of_readPattern? {pattern text : String} {parts : Parts}
    (read : readPattern? pattern text = some parts) :
    ∃ items, patternItems? pattern.toList = some items ∧
      (∀ c ∈ text.toList, items.any (·.mayPass c) = true) ∧
      ∀ chars, .text chars ∈ items → ∀ c ∈ chars, c ∈ text.toList := by
  obtain ⟨items, meant, read⟩ := Option.bind_eq_some_iff.mp read
  obtain ⟨⟨found, rest⟩, run, read⟩ := Option.bind_eq_some_iff.mp read
  dsimp only at read
  split at read
  · rename_i whole
    refine ⟨items, meant, fun c member => ?_, fun chars member c among => mem_of_run member among run⟩
    have passed := passed_of_run run
    rw [whole] at passed
    exact passed.kind_of_mem member
  · cases read

end Texts

/-! ### RFC 3339 -/

theorem eq_cons_of_afterChar? {c : Char} {s rest : List Char} (read : afterChar? c s = some rest) :
    s = c :: rest := by
  cases s with
  | nil => cases read
  | cons d s =>
    simp only [afterChar?] at read
    split at read
    · rename_i same
      cases read
      rw [same]
    · cases read

theorem suffix_afterChar? {c : Char} {s rest : List Char} (read : afterChar? c s = some rest) : rest <:+ s :=
  eq_cons_of_afterChar? read ▸ List.suffix_cons c rest

theorem suffix_readFullDate? {d : Date} {s rest : List Char} (read : readFullDate? s = some (d, rest)) :
    rest <:+ s := by
  obtain ⟨⟨year, s₁⟩, years, read⟩ := Option.bind_eq_some_iff.mp read
  obtain ⟨s₂, hyphen, read⟩ := Option.bind_eq_some_iff.mp read
  obtain ⟨⟨month, s₃⟩, months, read⟩ := Option.bind_eq_some_iff.mp read
  obtain ⟨s₄, hyphen', read⟩ := Option.bind_eq_some_iff.mp read
  obtain ⟨⟨day, s₅⟩, days, read⟩ := Option.bind_eq_some_iff.mp read
  obtain ⟨_, -, same⟩ := Option.bind_eq_some_iff.mp read
  cases same
  have behindDay := (passed_readExactDigits? days).suffix
  have behindMonth := (suffix_afterChar? hyphen').trans (passed_readExactDigits? months).suffix
  have behindYear := (suffix_afterChar? hyphen).trans (passed_readExactDigits? years).suffix
  exact behindDay.trans (behindMonth.trans behindYear)

theorem colon_of_readFullTime? {t : TimeOfDay} {s rest : List Char} (read : readFullTime? s = some (t, rest)) :
    ':' ∈ s := by
  obtain ⟨⟨hour, s₁⟩, hours, read⟩ := Option.bind_eq_some_iff.mp read
  obtain ⟨s₂, colon, -⟩ := Option.bind_eq_some_iff.mp read
  cases eq_cons_of_afterChar? colon
  exact (passed_readExactDigits? hours).suffix.subset List.mem_cons_self

theorem suffix_readFullTime? {t : TimeOfDay} {s rest : List Char} (read : readFullTime? s = some (t, rest)) :
    rest <:+ s := by
  obtain ⟨⟨hour, s₁⟩, hours, read⟩ := Option.bind_eq_some_iff.mp read
  obtain ⟨s₂, colon, read⟩ := Option.bind_eq_some_iff.mp read
  obtain ⟨⟨minute, s₃⟩, minutes, read⟩ := Option.bind_eq_some_iff.mp read
  obtain ⟨s₄, colon', read⟩ := Option.bind_eq_some_iff.mp read
  obtain ⟨⟨second, s₅⟩, seconds, read⟩ := Option.bind_eq_some_iff.mp read
  have behindMinute := (suffix_afterChar? colon').trans (passed_readExactDigits? minutes).suffix
  have behindHour := (suffix_afterChar? colon).trans (passed_readExactDigits? hours).suffix
  have behindSecond : s₅ <:+ s := (passed_readExactDigits? seconds).suffix.trans (behindMinute.trans behindHour)
  dsimp only at read
  split at read
  · obtain ⟨⟨nano, left⟩, fraction, read⟩ := Option.bind_eq_some_iff.mp read
    obtain ⟨_, -, same⟩ := Option.bind_eq_some_iff.mp read
    cases same
    exact (passed_readFraction? fraction).suffix.trans ((List.suffix_cons _ _).trans behindSecond)
  · obtain ⟨⟨nano, left⟩, fraction, read⟩ := Option.bind_eq_some_iff.mp read
    obtain ⟨_, -, same⟩ := Option.bind_eq_some_iff.mp read
    cases fraction
    cases same
    exact behindSecond

theorem readOffset?_eq_none {s : List Char} (plain : ∀ c ∈ s, c ∉ ['Z', 'z', '+', '-', '−']) :
    readOffset? s = none := by
  have unsigned : readSign? s = none := by
    unfold readSign?
    split
    case h_4 => rfl
    all_goals exact absurd (by decide) (plain _ List.mem_cons_self)
  unfold readOffset?
  split
  · exact absurd (by decide) (plain 'Z' List.mem_cons_self)
  · exact absurd (by decide) (plain 'z' List.mem_cons_self)
  · rw [unsigned]
    rfl

/-- A date-time of RFC 3339 has a colon, between its hour and its minute. -/
theorem colon_of_ofRfc3339? {text : String} {t : DateTime} (read : DateTime.ofRfc3339? text = some t) :
    ':' ∈ text.toList := by
  obtain ⟨⟨date, s⟩, dated, read⟩ := Option.bind_eq_some_iff.mp read
  have behind : ∃ s', s' <:+ s ∧ ':' ∈ s' := by
    dsimp only at read
    split at read
    case h_4 => cases read
    all_goals
      rw [Option.bind_eq_bind, Option.bind_some] at read
      obtain ⟨⟨time, left⟩, timed, -⟩ := Option.bind_eq_some_iff.mp read
      exact ⟨_, List.suffix_cons _ _, colon_of_readFullTime? timed⟩
  obtain ⟨s', behindMark, colon⟩ := behind
  exact (behindMark.trans (suffix_readFullDate? dated)).subset colon

end EntityQuery.Calendar
