import EntityQuery.Proofs.Calendar.Reading
import EntityQuery.Query.Coercion

/-!
Reading dates and date-times. Which reader goes first decides only where several of them read a text. Under
the built-in formats that cannot happen across the two kinds: all that gives a time has a colon, and no
bare date has one.
-/

namespace EntityQuery.Coercion

open EntityQuery.Calendar

/-- The first of some formats that reads a text reads it as `a`. -/
def FirstReads {α : Type} (read? : String → String → Option α) (formats : List String) (text : String)
    (a : α) : Prop :=
  ∃ before format after, formats = before ++ format :: after ∧
    (∀ earlier ∈ before, read? earlier text = none) ∧ read? format text = some a

variable {config : Config} {text : String}

theorem findSome?_of_firstReads {α : Type} {read? : String → String → Option α} {formats : List String} {a : α}
    (first : FirstReads read? formats text a) (later : List String) :
    (formats ++ later).findSome? (fun format => read? format text) = some a := by
  obtain ⟨before, format, after, rfl, earlier, found⟩ := first
  exact List.findSome?_eq_some_iff.mpr ⟨before, format, after ++ later, by simp, found, earlier⟩

/-! ### What the readers give -/

theorem parseDate_of_bareDate {d : Date} (bare : bareDate? config text = some d) :
    parseDate config text = .ok d := by
  simp [parseDate, bare]

theorem parseDate_of_fullDateTime {t : DateTime} (bare : bareDate? config text = none)
    (full : fullDateTime? config text = some t) : parseDate config text = .ok t.date := by
  simp [parseDate, bare, full]

theorem parseDateTime_of_fullDateTime {t : DateTime} (full : fullDateTime? config text = some t) :
    parseDateTime config text = .ok t := by
  simp [parseDateTime, full]

theorem parseDateTime_of_bareDate {d : Date} (full : fullDateTime? config text = none)
    (bare : bareDate? config text = some d) : parseDateTime config text = .ok d.midnight := by
  simp [parseDateTime, full, bare]

theorem parse_of_neither (bare : bareDate? config text = none) (full : fullDateTime? config text = none) :
    parseDate config text = .error (.invalidDate text) ∧
      parseDateTime config text = .error (.invalidDate text) := by
  simp [parseDate, parseDateTime, bare, full]

theorem fullDateTime?_of_ofRfc3339? {t : DateTime} (read : DateTime.ofRfc3339? text = some t) :
    fullDateTime? config text = some t := by
  rw [fullDateTime?, read]
  rfl

theorem fullDateTime?_of_not_ofRfc3339? (read : DateTime.ofRfc3339? text = none) :
    fullDateTime? config text =
      (config.dateFormats ++ dateTimeFormats).findSome? fun format => DateTime.ofPattern? format text := by
  rw [fullDateTime?, read]
  rfl

/-! ### Configured formats -/

/-- The first configured format that reads a date gives it. The first one that reads a date-time gives that
unless RFC 3339 reads another one in the text, which then goes first. -/
theorem configured_formats_win (config : Config) (text : String) :
    (∀ d, FirstReads Date.ofPattern? config.dateFormats text d → parseDate config text = .ok d) ∧
      ∀ t, FirstReads DateTime.ofPattern? config.dateFormats text t →
        (parseDateTime config text = .ok t ↔ ∀ u, DateTime.ofRfc3339? text = some u → u = t) := by
  refine ⟨fun d first => parseDate_of_bareDate (findSome?_of_firstReads first _), fun t first => ?_⟩
  cases read : DateTime.ofRfc3339? text with
  | none =>
    have full : fullDateTime? config text = some t :=
      (fullDateTime?_of_not_ofRfc3339? read).trans (findSome?_of_firstReads first _)
    exact iff_of_true (parseDateTime_of_fullDateTime full) fun u found => by cases found
  | some u =>
    rw [parseDateTime_of_fullDateTime (fullDateTime?_of_ofRfc3339? read), Except.ok.injEq]
    exact ⟨fun same v found => Option.some.inj found ▸ same, fun settled => settled u rfl⟩

def thirdOfMay : Date :=
  ⟨2024, 5, 3, by decide, by decide, by decide, by decide, by decide, by decide⟩

def fifthOfMarch : Date :=
  ⟨2024, 3, 5, by decide, by decide, by decide, by decide, by decide, by decide⟩

def halfPastTen : TimeOfDay :=
  { TimeOfDay.midnight with hour := 10, minute := 30, hour_lt := by decide, minute_lt := by decide }

/-- The month before the day, and else the day before the month. -/
def monthFirst : Config :=
  { dateFormats := ["%m/%d/%Y %H:%M", "%d/%m/%Y %H:%M"] }

/-- Of two formats that read the text, the one that stands first. -/
theorem month_before_day :
    parseDate monthFirst "03/05/2024 10:30" = .ok fifthOfMarch ∧
      parseDateTime monthFirst "03/05/2024 10:30" = .ok ⟨fifthOfMarch, halfPastTen⟩ := by
  have wins := configured_formats_win monthFirst "03/05/2024 10:30"
  refine ⟨wins.1 _ ⟨[], _, _, rfl, nofun, by decide +kernel⟩,
    (wins.2 _ ⟨[], _, _, rfl, nofun, by decide +kernel⟩).mpr fun u read => ?_⟩
  have unread : DateTime.ofRfc3339? "03/05/2024 10:30" = none := by decide +kernel
  rw [unread] at read
  cases read

/-- The form of RFC 3339 with the day before the month. -/
def dayFirst : Config :=
  { dateFormats := ["%Y-%d-%mT%H:%M:%SZ"] }

/-- The configured format reads the third of May, but RFC 3339 goes first. -/
theorem day_before_month_lost :
    FirstReads DateTime.ofPattern? dayFirst.dateFormats "2024-03-05T10:30:00Z" ⟨thirdOfMay, halfPastTen⟩ ∧
      parseDateTime dayFirst "2024-03-05T10:30:00Z" = .ok ⟨fifthOfMarch, halfPastTen⟩ ∧
      thirdOfMay ≠ fifthOfMarch := by
  refine ⟨⟨[], _, [], rfl, nofun, by decide +kernel⟩, ?_, by decide⟩
  exact parseDateTime_of_fullDateTime (fullDateTime?_of_ofRfc3339? (by decide +kernel))

/-! ### Built-in formats -/

theorem dateFormats_pass_no_colon :
    ∀ format ∈ dateFormats, ∀ items ∈ patternItems? format.toList, items.any (·.mayPass ':') = false := by
  decide +kernel

theorem dateTimeFormats_have_colon :
    ∀ format ∈ dateTimeFormats, ∀ items ∈ patternItems? format.toList, PatternItem.text [':'] ∈ items := by
  decide +kernel

theorem not_colon_of_dateFormats {format : String} {d : Date} (builtIn : format ∈ dateFormats)
    (read : Date.ofPattern? format text = some d) : ':' ∉ text.toList := by
  obtain ⟨parts, fits, -⟩ := Option.bind_eq_some_iff.mp read
  obtain ⟨items, meant, own, -⟩ := chars_of_readPattern? fits
  intro colon
  have passed := own ':' colon
  rw [dateFormats_pass_no_colon format builtIn items meant] at passed
  cases passed

theorem colon_of_dateTimeFormats {format : String} {t : DateTime} (builtIn : format ∈ dateTimeFormats)
    (read : DateTime.ofPattern? format text = some t) : ':' ∈ text.toList := by
  obtain ⟨parts, fits, -⟩ := Option.bind_eq_some_iff.mp read
  obtain ⟨items, meant, -, stand⟩ := chars_of_readPattern? fits
  exact stand [':'] (dateTimeFormats_have_colon format builtIn items meant) ':' List.mem_cons_self

/-- With the built-in formats alone, no text is both a bare date and a date-time. -/
theorem fullDateTime?_of_bareDate {d : Date} (unconfigured : config.dateFormats = [])
    (bare : bareDate? config text = some d) : fullDateTime? config text = none := by
  rw [bareDate?, unconfigured, List.nil_append] at bare
  obtain ⟨format, builtIn, read⟩ := List.exists_of_findSome?_eq_some bare
  have plain := not_colon_of_dateFormats builtIn read
  cases rfc : DateTime.ofRfc3339? text with
  | some t => exact absurd (colon_of_ofRfc3339? rfc) plain
  | none =>
    rw [fullDateTime?_of_not_ofRfc3339? rfc, unconfigured, List.nil_append, List.findSome?_eq_none_iff]
    intro format timed
    cases found : DateTime.ofPattern? format text with
    | some t => exact absurd (colon_of_dateTimeFormats timed found) plain
    | none => rfl

theorem parseDate_ok_iff (config : Config) (text : String) :
    (∃ d, parseDate config text = .ok d) ↔ ∃ t, parseDateTime config text = .ok t := by
  cases bare : bareDate? config text with
  | some d =>
    refine iff_of_true ⟨d, parseDate_of_bareDate bare⟩ ?_
    cases full : fullDateTime? config text with
    | some t => exact ⟨t, parseDateTime_of_fullDateTime full⟩
    | none => exact ⟨d.midnight, parseDateTime_of_bareDate full bare⟩
  | none =>
    cases full : fullDateTime? config text with
    | some t => exact iff_of_true ⟨_, parseDate_of_fullDateTime bare full⟩ ⟨t, parseDateTime_of_fullDateTime full⟩
    | none =>
      obtain ⟨noDate, noTime⟩ := parse_of_neither bare full
      simp [noDate, noTime]

theorem parse_of_bareDate {d : Date} (unconfigured : config.dateFormats = [])
    (bare : bareDate? config text = some d) :
    parseDate config text = .ok d ∧ parseDateTime config text = .ok d.midnight :=
  ⟨parseDate_of_bareDate bare, parseDateTime_of_bareDate (fullDateTime?_of_bareDate unconfigured bare) bare⟩

theorem bareDate?_isSome_of_ofPattern? {format : String} (builtIn : format ∈ dateFormats)
    (read : (Date.ofPattern? format text).isSome) : (bareDate? config text).isSome :=
  List.findSome?_isSome_iff.mpr ⟨format, List.mem_append_right _ builtIn, read⟩

/-- A text that is read as a date is read as a date-time and the other way round. With the built-in formats
alone the two are of one day, and a bare date is midnight. -/
theorem parseDate_agrees_with_parseDateTime (config : Config) (text : String) :
    ((∃ d, parseDate config text = .ok d) ↔ ∃ t, parseDateTime config text = .ok t) ∧
      (config.dateFormats = [] →
        (∀ d t, parseDate config text = .ok d → parseDateTime config text = .ok t → d = t.date) ∧
        ((∃ format ∈ dateFormats, (Date.ofPattern? format text).isSome) →
          ∃ d, parseDate config text = .ok d ∧ parseDateTime config text = .ok d.midnight)) := by
  refine ⟨parseDate_ok_iff config text, fun unconfigured => ⟨fun d t date time => ?_, ?_⟩⟩
  · cases bare : bareDate? config text with
    | some day =>
      obtain ⟨asDate, asTime⟩ := parse_of_bareDate unconfigured bare
      cases asDate.symm.trans date
      cases asTime.symm.trans time
      rfl
    | none =>
      cases full : fullDateTime? config text with
      | some moment =>
        cases (parseDate_of_fullDateTime bare full).symm.trans date
        cases (parseDateTime_of_fullDateTime full).symm.trans time
        rfl
      | none => cases (parse_of_neither bare full).1.symm.trans date
  · rintro ⟨format, builtIn, read⟩
    obtain ⟨d, bare⟩ := Option.isSome_iff_exists.mp (bareDate?_isSome_of_ofPattern? builtIn read)
    exact ⟨d, parse_of_bareDate unconfigured bare⟩

theorem bare_date_at_midnight :
    parseDate {} "05.03.2024" = .ok fifthOfMarch ∧
      parseDateTime {} "05.03.2024" = .ok fifthOfMarch.midnight := by
  obtain ⟨-, alone⟩ := parseDate_agrees_with_parseDateTime {} "05.03.2024"
  obtain ⟨-, midnight⟩ := alone rfl
  obtain ⟨d, date, time⟩ := midnight ⟨"%d.%m.%Y", by decide, by decide +kernel⟩
  have read : parseDate {} "05.03.2024" = .ok fifthOfMarch := parseDate_of_bareDate (by decide +kernel)
  cases date.symm.trans read
  exact ⟨read, time⟩

end EntityQuery.Coercion
