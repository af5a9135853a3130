import EntityQuery.Proofs.Calendar.Fields
import EntityQuery.Proofs.Calendar.Reading

/-!
Dates and date-times as they are displayed. The text of a date is read back by the pattern for dates, and that of a
date-time by the pattern that has a blank between its date and its time; the patterns before that one and RFC 3339
refuse it. A leap second that does not follow second 59 has the text of the second after it, and is read as that one.
-/

namespace EntityQuery.Calendar

open EntityQuery.Text EntityQuery.Numeric

/-! ### Dates -/

def dateItems : List PatternItem :=
  [.number .year, .text ['-'], .number .month, .text ['-'], .number .day]

theorem daysInMonth_le (year : Int) (month : Nat) : daysInMonth year month ≤ 31 := by
  unfold daysInMonth
  split
  · split <;> decide
  · split <;> decide

namespace Date

def news (d : Date) : List (Part × Int) :=
  [(.year, d.year), (.month, d.month), (.day, d.day)]

theorem toList_display (d : Date) :
    d.display.toList =
      (yearText d.year).toList ++ (['-'] ++ ((padded 2 d.month).toList ++ (['-'] ++ (padded 2 d.day).toList))) := by
  simp [display, String.toList_append]

theorem char_of_yearText {year : Int} {c : Char} (member : c ∈ (yearText year).toList) :
    isDigit c = true ∨ c = '-' ∨ c = '+' := by
  unfold yearText at member
  split at member
  · exact Or.inl (isDigit_of_mem_padded member)
  · rw [String.toList_append] at member
    rcases List.mem_append.mp member with sign | digit
    · split at sign
      · exact Or.inr (Or.inl (List.mem_singleton.mp sign))
      · exact Or.inr (Or.inr (List.mem_singleton.mp sign))
    · exact Or.inl (isDigit_of_mem_padded digit)

theorem char_of_display (d : Date) {c : Char} (member : c ∈ d.display.toList) :
    isDigit c = true ∨ c = '-' ∨ c = '+' := by
  simp only [toList_display, List.mem_append, List.mem_singleton] at member
  rcases member with year | hyphen | digit | hyphen | digit
  · exact char_of_yearText year
  · exact Or.inr (Or.inl hyphen)
  · exact Or.inl (isDigit_of_mem_padded digit)
  · exact Or.inr (Or.inl hyphen)
  · exact Or.inl (isDigit_of_mem_padded digit)

theorem ofParts?_own (d : Date) : ofParts? d.year d.month d.day = some d :=
  dif_pos ⟨d.year_ge, d.year_le, d.month_pos, d.month_le, d.day_pos, d.day_le⟩

theorem day_le_31 (d : Date) : d.day ≤ 31 :=
  d.day_le.trans (daysInMonth_le d.year d.month)

theorem reads_display (d : Date) {rest : List Char} (stop : NoDigit rest) :
    Reads dateItems (.empty, d.display.toList ++ rest) (.told d.news, rest) := by
  have hyphen (rest : List Char) : NoDigit (['-'] ++ rest) := noDigit_cons rfl
  have year (rest : List Char) (stop : NoDigit rest) :
      (PatternItem.number .year).read? (.told []) ((yearText d.year).toList ++ rest) =
        some (.told [(.year, d.year)], rest) :=
    PatternItem.read?_number (NumberField.read?_yearText d.year stop) nofun (by simp [NumberField.settles])
  have month (rest : List Char) (stop : NoDigit rest) :
      (PatternItem.number .month).read? (.told [(.year, d.year)]) ((padded 2 d.month).toList ++ rest) =
        some (.told [(.year, d.year), (.month, d.month)], rest) := by
    have least := d.month_pos
    have most := d.month_le
    exact PatternItem.read?_twoDigits rfl rfl (by omega) (by omega) (by decide) stop
      (by simp [NumberField.settles])
  have day (rest : List Char) (stop : NoDigit rest) :
      (PatternItem.number .day).read? (.told [(.year, d.year), (.month, d.month)])
        ((padded 2 d.day).toList ++ rest) = some (.told d.news, rest) := by
    have least := d.day_pos
    have most := d.day_le_31
    exact PatternItem.read?_twoDigits rfl rfl (by omega) (by omega) (by decide) stop
      (by simp [NumberField.settles])
  rw [toList_display, ← Parts.told_nil]
  simp only [List.append_assoc]
  exact .cons (year _ (hyphen _)) <| .cons (PatternItem.read?_text ..) <| .cons (month _ (hyphen _)) <|
    .cons (PatternItem.read?_text ..) <| .cons (day _ stop) (.nil _)

end Date

/-! ### Times -/

def timeItems : List PatternItem :=
  [.number .hour, .text [':'], .number .minute, .text [':'], .number .second, .fraction]

namespace TimeOfDay

variable {nano : Nat}

def fractionNews (nano : Nat) : List (Part × Int) :=
  if nano = 0 then [] else [(.nano, nano)]

def news (t : TimeOfDay) : List (Part × Int) :=
  [(.halfDay, (t.hour : Int) / 12), (.hourOfHalf, (t.hour : Int) % 12), (.minute, t.minute),
    (.second, (t.second + t.nano / nanosPerSecond : Nat))] ++ fractionNews (t.nano % nanosPerSecond)

theorem fractionText_of_ne_zero (some : nano ≠ 0) (small : nano < nanosPerSecond) :
    ∃ width n, fractionText nano = "." ++ padded width n ∧ 0 < width ∧ width ≤ 9 ∧ n < 10 ^ width ∧
      n * 10 ^ (9 - width) = nano := by
  unfold fractionText
  unfold nanosPerSecond at small
  rw [if_neg some]
  split
  · exact ⟨3, nano / 1000000, rfl, by omega, by omega, by omega, by omega⟩
  · split
    · exact ⟨6, nano / 1000, rfl, by omega, by omega, by omega, by omega⟩
    · exact ⟨9, nano, rfl, by omega, by omega, by omega, by omega⟩

theorem noDigit_fractionText (small : nano < nanosPerSecond) : NoDigit (fractionText nano).toList := by
  by_cases none : nano = 0
  · subst none
    exact noDigit_nil
  · obtain ⟨width, n, text, -⟩ := fractionText_of_ne_zero none small
    rw [text, String.toList_append]
    exact noDigit_cons rfl

theorem read?_fractionText {news : List (Part × Int)} (small : nano < nanosPerSecond)
    (fresh : Part.nano ∉ news.map Prod.fst) :
    PatternItem.fraction.read? (.told news) (fractionText nano).toList =
      some (.told (news ++ fractionNews nano), []) := by
  unfold fractionNews
  by_cases none : nano = 0
  · subst none
    rw [if_pos rfl, List.append_nil]
    rfl
  · obtain ⟨width, n, text, positive, narrow, fits, value⟩ := fractionText_of_ne_zero none small
    have length := length_padded positive fits
    have read := readFraction?_append (fun _ => isDigit_of_mem_padded) (padded_ne_nil width n)
      (length.trans_le narrow) noDigit_nil
    rw [List.append_nil, length, ofDigits_padded, value] at read
    have point : ".".toList = ['.'] := rfl
    rw [if_neg none, text, String.toList_append, point, List.singleton_append,
      PatternItem.read?_point read fresh]

theorem toList_display (t : TimeOfDay) :
    t.display.toList =
      (padded 2 t.hour).toList ++ ([':'] ++ ((padded 2 t.minute).toList ++ ([':'] ++
        ((padded 2 (t.second + t.nano / nanosPerSecond)).toList ++
          (fractionText (t.nano % nanosPerSecond)).toList)))) := by
  simp [display, String.toList_append]

theorem char_of_fractionText {c : Char} (small : nano < nanosPerSecond) (member : c ∈ (fractionText nano).toList) :
    isDigit c = true ∨ c = '.' := by
  by_cases none : nano = 0
  · subst none
    cases member
  · obtain ⟨width, n, text, -⟩ := fractionText_of_ne_zero none small
    rw [text, String.toList_append] at member
    rcases List.mem_cons.mp member with point | digit
    · exact Or.inr point
    · exact Or.inl (isDigit_of_mem_padded digit)

theorem char_of_display (t : TimeOfDay) {c : Char} (member : c ∈ t.display.toList) :
    isDigit c = true ∨ c = ':' ∨ c = '.' := by
  have fraction : t.nano % nanosPerSecond < nanosPerSecond := Nat.mod_lt _ (by decide)
  simp only [toList_display, List.mem_append, List.mem_singleton] at member
  rcases member with digit | colon | digit | colon | digit | point
  · exact Or.inl (isDigit_of_mem_padded digit)
  · exact Or.inr (Or.inl colon)
  · exact Or.inl (isDigit_of_mem_padded digit)
  · exact Or.inr (Or.inl colon)
  · exact Or.inl (isDigit_of_mem_padded digit)
  · exact (char_of_fractionText fraction point).imp_right Or.inr

theorem exists_digit_of_display (t : TimeOfDay) : ∃ c rest, t.display.toList = c :: rest ∧ isDigit c = true := by
  obtain ⟨c, more, first⟩ := List.exists_cons_of_ne_nil (padded_ne_nil 2 t.hour)
  have digit : isDigit c = true := isDigit_of_mem_padded (first ▸ List.mem_cons_self)
  rw [t.toList_display, first]
  exact ⟨c, _, rfl, digit⟩

theorem second_le_60 (t : TimeOfDay) : t.second + t.nano / nanosPerSecond ≤ 60 := by
  have second := t.second_lt
  have nano := t.nano_lt
  unfold nanosPerSecond at *
  omega

theorem reads_display (d : Date) (t : TimeOfDay) :
    Reads timeItems (.told d.news, t.display.toList) (.told (d.news ++ t.news), []) := by
  have colon (rest : List Char) : NoDigit ([':'] ++ rest) := noDigit_cons rfl
  have fraction : t.nano % nanosPerSecond < nanosPerSecond := Nat.mod_lt _ (by decide)
  have hour (rest : List Char) (stop : NoDigit rest) :
      (PatternItem.number .hour).read? (.told d.news) ((padded 2 t.hour).toList ++ rest) =
        some (.told (d.news ++ NumberField.hour.settles t.hour), rest) := by
    have bound := t.hour_lt
    exact PatternItem.read?_twoDigits rfl rfl (by omega) (by omega) (by decide) stop
      (by simp [Date.news, NumberField.settles])
  have minute (rest : List Char) (stop : NoDigit rest) :
      (PatternItem.number .minute).read? (.told (d.news ++ NumberField.hour.settles t.hour))
          ((padded 2 t.minute).toList ++ rest) =
        some (.told (d.news ++ NumberField.hour.settles t.hour ++ NumberField.minute.settles t.minute), rest) := by
    have bound := t.minute_lt
    exact PatternItem.read?_twoDigits rfl rfl (by omega) (by omega) (by decide) stop
      (by simp [Date.news, NumberField.settles])
  have second (rest : List Char) (stop : NoDigit rest) :
      (PatternItem.number .second).read?
          (.told (d.news ++ NumberField.hour.settles t.hour ++ NumberField.minute.settles t.minute))
          ((padded 2 (t.second + t.nano / nanosPerSecond)).toList ++ rest) =
        some (.told (d.news ++ NumberField.hour.settles t.hour ++ NumberField.minute.settles t.minute ++
          NumberField.second.settles (t.second + t.nano / nanosPerSecond : Nat)), rest) := by
    have bound := t.second_le_60
    generalize t.second + t.nano / nanosPerSecond = shown at bound
    exact PatternItem.read?_twoDigits rfl rfl (by omega) (by omega) (by decide) stop
      (by simp [Date.news, NumberField.settles])
  rw [toList_display]
  refine .cons (hour _ (colon _)) <| .cons (PatternItem.read?_text ..) <| .cons (minute _ (colon _)) <|
    .cons (PatternItem.read?_text ..) <| .cons (second _ (noDigit_fractionText fraction)) <|
    .cons ((read?_fractionText fraction ?_).trans ?_) (.nil _)
  · simp [Date.news, NumberField.settles]
  · rfl

/-- A leap second that a clock shows as the second after it. -/
def Stray (t : TimeOfDay) : Prop :=
  nanosPerSecond ≤ t.nano ∧ t.second ≠ 59

instance (t : TimeOfDay) : Decidable t.Stray :=
  inferInstanceAs (Decidable (_ ∧ _))

/-- What a clock shows: the second after a stray leap second. -/
def shown (t : TimeOfDay) : TimeOfDay :=
  if stray : t.Stray then
    { t with
      second := t.second + 1
      nano := t.nano - nanosPerSecond
      second_lt := by
        have bound := t.second_lt
        have other := stray.2
        omega
      nano_lt := (Nat.sub_le ..).trans_lt t.nano_lt }
  else t

theorem shown_eq_self_iff (t : TimeOfDay) : t.shown = t ↔ ¬t.Stray := by
  unfold shown
  split
  · rename_i stray
    refine iff_of_false (fun same => ?_) (not_not.mpr stray)
    have second := congrArg TimeOfDay.second same
    exact Nat.succ_ne_self _ second
  · rename_i usual
    exact iff_of_true rfl usual

theorem ofClock?_shown (t : TimeOfDay) :
    ofClock? t.hour t.minute (t.second + t.nano / nanosPerSecond) (t.nano % nanosPerSecond) = some t.shown := by
  have second := t.second_lt
  have nano := t.nano_lt
  have split := Nat.div_add_mod t.nano nanosPerSecond
  unfold ofClock? shown
  by_cases late : nanosPerSecond ≤ t.nano
  · have whole : t.nano / nanosPerSecond = 1 := by
      unfold nanosPerSecond at *
      omega
    rw [whole, Nat.mul_one] at split
    have rest : t.nano % nanosPerSecond = t.nano - nanosPerSecond := by omega
    rw [whole]
    by_cases last : t.second = 59
    -- the clock shows 60, and its last second goes back into the nanoseconds
    · rw [dif_neg fun stray : t.Stray => stray.2 last, last, if_pos rfl, split, ← last]
      exact dif_pos ⟨t.hour_lt, t.minute_lt, second, nano, fun _ => last⟩
    -- the clock shows a second that could be any other
    · have fraction : t.nano % nanosPerSecond < nanosPerSecond := Nat.mod_lt _ (by decide)
      have small : t.nano % nanosPerSecond < 2 * nanosPerSecond := by omega
      rw [dif_pos (show t.Stray from ⟨late, last⟩), if_neg (by omega), if_pos fraction]
      refine (dif_pos ⟨t.hour_lt, t.minute_lt, by omega, small, fun leap => by omega⟩).trans ?_
      simp only [rest]
  · have none : t.nano / nanosPerSecond = 0 := Nat.div_eq_of_lt (Nat.lt_of_not_le late)
    rw [none, Nat.mul_zero, Nat.zero_add] at split
    rw [none, Nat.add_zero, split, if_neg (by omega), if_pos (Nat.lt_of_not_le late),
      dif_neg fun stray : t.Stray => late stray.1]
    exact dif_pos ⟨t.hour_lt, t.minute_lt, second, nano, fun leap => absurd leap late⟩

end TimeOfDay

/-! ### What the parts determine -/

namespace Parts

variable {parts : Parts}

theorem date_of_news (d : Date) (known : ∀ part ∈ dateParts, parts part = told d.news part) :
    parts.date = .ok d := by
  have year : parts .year = some d.year := known .year (by decide)
  have month : parts .month = some (d.month : Int) := known .month (by decide)
  have day : parts .day = some (d.day : Int) := known .day (by decide)
  have century : parts .century = none := known .century (by decide)
  have short : parts .yearOfCentury = none := known .yearOfCentury (by decide)
  have isoYear : parts .isoYear = none := known .isoYear (by decide)
  have isoShort : parts .isoYearOfCentury = none := known .isoYearOfCentury (by decide)
  -- the first way to a date is open, and no part is known that could disagree with it
  have candidate : parts.candidate? (some d.year) none = some (some d) := by
    unfold candidate?
    rw [month, day]
    exact congrArg some d.ofParts?_own
  have agrees : parts.agree d = true := by
    refine List.all_eq_true.mpr fun part member => ?_
    have own : told d.news part = none ∨ told d.news part = ofDate d part := by
      cases part <;> first | exact Or.inl rfl | exact Or.inr rfl
    rw [known part member]
    rcases own with unknown | true
    · simp [unknown]
    · simp [true]
  unfold date
  rw [year, century, short, isoYear, isoShort]
  simp only [yearOf?, bind, Except.bind, candidate]
  exact if_pos agrees

def timeParts : List Part :=
  [.halfDay, .hourOfHalf, .minute, .second, .nano]

theorem mem_timeParts_of_news (t : TimeOfDay) : ∀ part ∈ t.news.map Prod.fst, part ∈ timeParts := by
  unfold TimeOfDay.news TimeOfDay.fractionNews timeParts
  split <;> simp

theorem told_fractionNews (nano : Nat) :
    ((told (TimeOfDay.fractionNews nano) .nano).getD 0).toNat = nano := by
  unfold TimeOfDay.fractionNews
  split
  · rename_i none
    exact none.symm
  · rfl

theorem time_of_news (t : TimeOfDay) (known : ∀ part ∈ timeParts, parts part = told t.news part) :
    parts.time = .ok t.shown := by
  have half : parts .halfDay = some ((t.hour : Int) / 12) := known .halfDay (by decide)
  have hour : parts .hourOfHalf = some ((t.hour : Int) % 12) := known .hourOfHalf (by decide)
  have minute : parts .minute = some (t.minute : Int) := known .minute (by decide)
  have second : parts .second = some ((t.second + t.nano / nanosPerSecond : Nat) : Int) :=
    known .second (by decide)
  have nano : parts .nano = told (TimeOfDay.fractionNews (t.nano % nanosPerSecond)) .nano :=
    known .nano (by decide)
  have whole : (12 * ((t.hour : Int) / 12) + (t.hour : Int) % 12).toNat = t.hour := by omega
  unfold time
  rw [half, hour, minute, second, nano]
  dsimp only
  rw [if_neg (by simp), whole, Int.toNat_natCast, Option.getD_some, Int.toNat_natCast, told_fractionNews,
    TimeOfDay.ofClock?_shown]

theorem dateTime?_of_ok {d : Date} {t : TimeOfDay} (date : parts.date = .ok d) (time : parts.time = .ok t)
    (alone : parts .timestamp = none) : parts.dateTime? = some ⟨d, t⟩ := by
  unfold dateTime?
  rw [date, time, alone]
  rfl

end Parts

/-! ### Patterns -/

theorem Date.ofPattern?_display (d : Date) : Date.ofPattern? "%Y-%m-%d" d.display = some d := by
  have reads := d.reads_display noDigit_nil
  rw [List.append_nil] at reads
  have meant : patternItems? "%Y-%m-%d".toList = some dateItems := by decide
  unfold Date.ofPattern?
  rw [readPattern?_eq_some meant reads, Option.bind_some, Parts.date_of_news d fun _ _ => rfl]
  rfl

namespace DateTime

def shown (t : DateTime) : DateTime :=
  { t with time := t.time.shown }

theorem shown_eq_self_iff (t : DateTime) : t.shown = t ↔ ¬t.time.Stray := by
  rw [← t.time.shown_eq_self_iff]
  exact ⟨fun same => congrArg DateTime.time same, fun same => congrArg (DateTime.mk t.date) same⟩

theorem toList_display (t : DateTime) : t.display.toList = t.date.display.toList ++ ' ' :: t.time.display.toList := by
  simp [display, String.toList_append]

theorem reads_display (t : DateTime) :
    Reads (dateItems ++ .blanks :: timeItems) (.empty, t.display.toList) (.told (t.date.news ++ t.time.news), []) := by
  have blank : dropBlanks (' ' :: t.time.display.toList) = t.time.display.toList := by
    obtain ⟨c, rest, first, digit⟩ := t.time.exists_digit_of_display
    have behind : dropBlanks (' ' :: c :: rest) = dropBlanks (c :: rest) :=
      List.dropWhile_cons_of_pos (by decide)
    rw [first, behind, dropBlanks_of_not_isBlank (isBlank_of_isDigit digit)]
  rw [toList_display]
  refine (t.date.reads_display (noDigit_cons rfl)).append (.cons ?_ (TimeOfDay.reads_display t.date t.time))
  exact congrArg (fun s => some (Parts.told t.date.news, s)) blank

/-- The text of the time tells nothing of the date, and the other way round. -/
theorem dateTime?_of_news (t : DateTime) :
    (Parts.told (t.date.news ++ t.time.news)).dateTime? = some t.shown := by
  have date (part : Part) (other : part ∉ Parts.timeParts) :
      Parts.told (t.date.news ++ t.time.news) part = Parts.told t.date.news part := by
    have untold : Parts.told t.time.news part = none :=
      Parts.told_eq_none fun known => other (Parts.mem_timeParts_of_news t.time part known)
    rw [Parts.told_append, untold, Option.or_none]
  have time (part : Part) (other : part ∉ t.date.news.map Prod.fst) :
      Parts.told (t.date.news ++ t.time.news) part = Parts.told t.time.news part := by
    rw [Parts.told_append, Parts.told_eq_none other, Option.none_or]
  have apart : ∀ part ∈ Parts.dateParts, part ∉ Parts.timeParts := by decide
  have apart' : ∀ part ∈ Parts.timeParts, part ∉ [Part.year, .month, .day] := by decide
  refine Parts.dateTime?_of_ok (Parts.date_of_news t.date fun part member => date part (apart part member))
    (Parts.time_of_news t.time fun part member => time part (apart' part member)) ?_
  rw [date .timestamp (by decide)]
  rfl

theorem ofPattern?_display (t : DateTime) :
    DateTime.ofPattern? "%Y-%m-%d %H:%M:%S%.f" t.display = some t.shown := by
  have meant : patternItems? "%Y-%m-%d %H:%M:%S%.f".toList = some (dateItems ++ .blanks :: timeItems) := by
    decide
  unfold DateTime.ofPattern?
  rw [readPattern?_eq_some meant t.reads_display, Option.bind_some, dateTime?_of_news]

/-- A pattern that has another mark between date and time does not fit. -/
theorem ofPattern?_display_of_mark {pattern : String} {more : List PatternItem}
    (meant : patternItems? pattern.toList = some (dateItems ++ .text ['T'] :: more)) (t : DateTime) :
    DateTime.ofPattern? pattern t.display = none := by
  have reads : Reads dateItems (.empty, t.display.toList) (.told t.date.news, ' ' :: t.time.display.toList) := by
    rw [toList_display]
    exact t.date.reads_display (noDigit_cons rfl)
  unfold DateTime.ofPattern?
  rw [readPattern?_eq_none meant reads rfl]
  rfl

end DateTime

/-! ### RFC 3339 -/

theorem afterChar?_append (c : Char) (rest : List Char) : afterChar? c ([c] ++ rest) = some rest :=
  if_pos rfl

theorem readFullDate?_display {d : Date} (plain : 0 ≤ d.year ∧ d.year ≤ 9999) (rest : List Char) :
    readFullDate? (d.display.toList ++ rest) = some (d, rest) := by
  have digits (width n : Nat) (positive : 0 < width) (fits : n < 10 ^ width) (rest : List Char) :
      readExactDigits? width ((padded width n).toList ++ rest) = some (n, rest) := by
    rw [readExactDigits?_append (fun _ => isDigit_of_mem_padded) (length_padded positive fits),
      ofDigits_padded]
  have short : d.month ≤ 12 ∧ d.day ≤ 31 := ⟨d.month_le, d.day_le_31⟩
  have years := digits 4 d.year.toNat (by decide) (by omega)
  have months := digits 2 d.month (by decide) (by omega)
  have days := digits 2 d.day (by decide) (by omega)
  have year : yearText d.year = padded 4 d.year.toNat := if_pos plain
  have own := d.ofParts?_own
  rw [d.toList_display, year]
  unfold readFullDate?
  simp only [List.append_assoc, Option.bind_eq_bind, years, Option.bind_some, afterChar?_append, months, days,
    Int.toNat_of_nonneg plain.1, own]
  rfl

theorem readFullDate?_display_of_signed {d : Date} (signed : ¬(0 ≤ d.year ∧ d.year ≤ 9999)) (rest : List Char) :
    readFullDate? (d.display.toList ++ rest) = none := by
  obtain ⟨sign, more, text, other⟩ : ∃ sign more, (yearText d.year).toList = sign :: more ∧ isDigit sign = false := by
    unfold yearText
    rw [if_neg signed, String.toList_append]
    split
    · exact ⟨'-', _, rfl, rfl⟩
    · exact ⟨'+', _, rfl, rfl⟩
  have years (rest : List Char) : readExactDigits? 4 (sign :: rest) = none := by
    unfold readExactDigits?
    dsimp only
    rw [if_neg]
    rintro ⟨-, digits⟩
    rw [List.take_succ_cons, List.all_cons, other] at digits
    cases digits
  rw [d.toList_display, text]
  unfold readFullDate?
  rw [List.cons_append, List.cons_append, years]
  rfl

theorem plain_of_mem_time {t : TimeOfDay} {c : Char} (member : c ∈ t.display.toList) :
    c ∉ ['Z', 'z', '+', '-', '−'] := by
  have others : ['Z', 'z', '+', '-', '−'].all (fun d => !isDigit d && d != ':' && d != '.') = true := by decide
  intro other
  have apart := List.all_eq_true.mp others c other
  simp only [Bool.and_eq_true, Bool.not_eq_true', bne_iff_ne] at apart
  obtain ⟨⟨digit, colon⟩, point⟩ := apart
  rcases t.char_of_display member with own | own | own
  · rw [own] at digit
    cases digit
  · exact colon own
  · exact point own

/-- RFC 3339 asks for a distance from Greenwich, which no display has. -/
theorem DateTime.ofRfc3339?_display (t : DateTime) : DateTime.ofRfc3339? t.display = none := by
  unfold DateTime.ofRfc3339?
  rw [toList_display]
  by_cases plain : 0 ≤ t.date.year ∧ t.date.year ≤ 9999
  -- a date without a sign is read, but behind the time there is no offset
  · rw [readFullDate?_display plain]
    simp only [Option.bind_eq_bind, Option.bind_some]
    cases read : readFullTime? t.time.display.toList with
    | none => rfl
    | some found =>
      have offset : readOffset? found.2 = none :=
        readOffset?_eq_none fun _ member => plain_of_mem_time ((suffix_readFullTime? read).subset member)
      rw [Option.bind_some, offset]
      rfl
  · rw [readFullDate?_display_of_signed plain]
    rfl

end EntityQuery.Calendar
