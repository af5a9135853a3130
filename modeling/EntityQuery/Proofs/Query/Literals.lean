import EntityQuery.Proofs.Calendar.Display
import EntityQuery.Proofs.Query.Condition
import EntityQuery.Proofs.Query.Dates

/-!
Values that are written out. Main statement: a truth value, an integer, a date or a date-time comes back from its
display, so that a condition can be written for it, unless it has a leap second that does not follow second 59.
-/

namespace EntityQuery

open EntityQuery.Text EntityQuery.Calendar EntityQuery.Numeric

/-! ### Texts without blanks at their ends -/

section Trimming

variable {s : List Char} {text : String}

theorem dropBlanks_eq_self (first : ∀ c ∈ s.head?, isBlank c = false) : dropBlanks s = s := by
  cases s with
  | nil => rfl
  | cons c rest => exact dropBlanks_of_not_isBlank (first c rfl)

theorem trim_eq_self (first : ∀ c ∈ text.toList.head?, isBlank c = false)
    (last : ∀ c ∈ text.toList.getLast?, isBlank c = false) : trim text = text := by
  have back : ∀ c ∈ text.toList.reverse.head?, isBlank c = false := by
    rw [List.head?_reverse]
    exact last
  unfold trim trimChars
  rw [dropBlanks_eq_self first, dropBlanks_eq_self back, List.reverse_reverse, String.ofList_toList]

theorem trim_of_no_blank (plain : ∀ c ∈ text.toList, isBlank c = false) : trim text = text :=
  trim_eq_self (fun c first => plain c (List.mem_of_head? first)) fun c last =>
    plain c (List.mem_of_getLast? last)

end Trimming

namespace Value

variable {ε : Type}

def plainType? : Value → Option (FieldType ε)
  | bool _ => some .bool
  | number (.signed _) => some .int
  | number (.unsigned _) => some .uint
  | date _ => some .date
  | dateTime _ => some .dateTime
  | _ => none

theorem admits_of_plainType? {v : Value} {type : FieldType ε} (plain : v.plainType? = some type) : type.Admits v := by
  cases v with
  | number n => cases n <;> cases plain <;> exact ⟨_, rfl⟩
  | bool | date | dateTime =>
    cases plain
    exact ⟨_, rfl⟩
  | _ => cases plain

theorem supports_eq_of_plainType? {v : Value} {type : FieldType ε} (plain : v.plainType? = some type) :
    Comparison.eq.supports type = true := by
  cases v with
  | number n => cases n <;> cases plain <;> rfl
  | bool | date | dateTime =>
    cases plain
    rfl
  | _ => cases plain

def Stray : Value → Prop
  | dateTime t => t.time.Stray
  | _ => False

def shown : Value → Value
  | dateTime t => dateTime t.shown
  | v => v

theorem shown_eq_self_iff (v : Value) : v.shown = v ↔ ¬v.Stray := by
  cases v with
  | dateTime t => exact (dateTime.injEq ..).to_iff.trans t.shown_eq_self_iff
  | _ => exact iff_of_true rfl not_false

end Value

/-! ### Displays -/

theorem isBlank_of_mem_date {d : Date} {c : Char} (member : c ∈ d.display.toList) : isBlank c = false := by
  rcases d.char_of_display member with digit | rfl | rfl
  · exact isBlank_of_isDigit digit
  · decide
  · decide

theorem isBlank_of_mem_time {t : TimeOfDay} {c : Char} (member : c ∈ t.display.toList) : isBlank c = false := by
  rcases t.char_of_display member with digit | rfl | rfl
  · exact isBlank_of_isDigit digit
  · decide
  · decide

theorem trim_dateTime (t : DateTime) : trim t.display = t.display := by
  have date : t.date.display.toList ≠ [] := by
    rw [t.date.toList_display]
    simp
  have time : t.time.display.toList ≠ [] := by
    rw [t.time.toList_display]
    simp
  apply trim_eq_self
  · rw [t.toList_display, List.head?_append_of_ne_nil _ date]
    exact fun c first => isBlank_of_mem_date (List.mem_of_head? first)
  · rw [t.toList_display, List.append_cons, List.getLast?_append_of_ne_nil _ time]
    exact fun c last => isBlank_of_mem_time (List.mem_of_getLast? last)

theorem trim_nat (n : Nat) : trim n.repr = n.repr :=
  trim_of_no_blank fun _ member => isBlank_of_isDigit (isDigit_of_mem_repr member)

theorem trim_int (n : Int) : trim (toString n) = toString n := by
  cases n with
  | ofNat n => exact trim_nat n
  | negSucc n =>
    have chars : (toString (Int.negSucc n)).toList = '-' :: (n + 1).repr.toList := toList_negSucc n
    refine trim_of_no_blank fun c member => ?_
    rw [chars] at member
    rcases List.mem_cons.mp member with rfl | digit
    · decide
    · exact isBlank_of_isDigit (isDigit_of_mem_repr digit)

namespace Coercion

variable {ε : Type}

theorem parseDate_display (d : Date) : parseDate {} d.display = .ok d := by
  have first : FirstReads Date.ofPattern? dateFormats d.display d :=
    ⟨[], _, _, rfl, nofun, d.ofPattern?_display⟩
  have found := findSome?_of_firstReads first []
  rw [List.append_nil] at found
  exact parseDate_of_bareDate found

/-- RFC 3339 and the formats that have a mark between date and time refuse the text. -/
theorem parseDateTime_display (t : DateTime) : parseDateTime {} t.display = .ok t.shown := by
  have marked (pattern : String) (member : pattern ∈ dateTimeFormats.take 3) :
      ∃ more, patternItems? pattern.toList = some (dateItems ++ .text ['T'] :: more) := by
    simp only [dateTimeFormats, List.take, List.mem_cons, List.not_mem_nil, or_false] at member
    rcases member with rfl | rfl | rfl
    · exact ⟨_, rfl⟩
    · exact ⟨_, rfl⟩
    · exact ⟨_, rfl⟩
  have first : FirstReads DateTime.ofPattern? dateTimeFormats t.display t.shown := by
    refine ⟨dateTimeFormats.take 3, _, _, rfl, ?_, t.ofPattern?_display⟩
    intro pattern member
    obtain ⟨more, meant⟩ := marked pattern member
    exact DateTime.ofPattern?_display_of_mark meant t
  have found := findSome?_of_firstReads first []
  rw [List.append_nil] at found
  exact parseDateTime_of_fullDateTime ((fullDateTime?_of_not_ofRfc3339? t.ofRfc3339?_display).trans found)

theorem ofText_display {field : Field ε} {v : Value} (plain : v.plainType? = some field.type) :
    ofText {} field v.display = .ok v.shown := by
  obtain ⟨name, type, nullable⟩ := field
  cases v with
  | bool b =>
    cases plain
    have read : readBool? (trim (toString b)) = some b := by cases b <;> decide
    simp only [ofText, Value.display, read]
    rfl
  | number n =>
    cases n with
    | signed n =>
      cases plain
      simp only [ofText, Value.display, Number.display, trim_int, readInt64?_toString]
      rfl
    | unsigned n =>
      cases plain
      simp only [ofText, Value.display, Number.display, trim_nat, readUInt64?_repr]
      rfl
    | float x => cases plain
  | date d =>
    cases plain
    simp only [ofText, Value.display, trim_of_no_blank fun _ => isBlank_of_mem_date, parseDate_display]
    rfl
  | dateTime t =>
    cases plain
    simp only [ofText, Value.display, trim_dateTime, parseDateTime_display]
    rfl
  | _ => cases plain

end Coercion

namespace Condition

variable {ε : Type} [Catalog ε]

theorem compare_eq_of_plainType? {entity : ε} {path : String} {p : Path ε} {v : Value}
    (resolved : Path.resolve entity path = .ok p) (plain : v.plainType? = some p.type) :
    Predicate.compare entity path .eq v = .ok ⟨.compare p .eq v⟩ := by
  rw [compare_of_resolve resolved,
    Node.comparison_of_admits (Value.supports_eq_of_plainType? plain) (Value.admits_of_plainType? plain)]
  rfl

theorem parse_eq_display {entity : ε} {path : String} {p : Path ε} {v : Value}
    (resolved : Path.resolve entity path = .ok p) (plain : v.plainType? = some p.type) :
    parse {} entity path ("eq:" ++ v.display) none = .ok ⟨.compare p .eq v.shown⟩ := by
  have suits := Value.supports_eq_of_plainType? plain
  have parsed := parse_of_comparison resolved {} .eq v.display
  have read : Coercion.ofText {} p.leaf v.display = .ok v.shown := Coercion.ofText_display plain
  rw [if_pos suits, literal_of_suits suits, read] at parsed
  exact parsed

/-- A value comes back from its display, and equality with it can be written as a condition, exactly if it has no
leap second that is shown as another second. -/
theorem display_survives (v : Value) :
    (∀ field : Field ε, v.plainType? = some field.type →
        (Coercion.ofText {} field v.display = .ok v ↔ ¬v.Stray)) ∧
      ∀ (entity : ε) (path : String) (p : Path ε), Path.resolve entity path = .ok p →
        v.plainType? = some p.type →
          (parse {} entity path ("eq:" ++ v.display) none = Predicate.compare entity path .eq v ↔ ¬v.Stray) ∧
            Predicate.compare entity path .eq v = .ok ⟨.compare p .eq v⟩ := by
  refine ⟨fun field plain => ?_, fun entity path p resolved plain => ?_⟩
  · rw [Coercion.ofText_display plain, Except.ok.injEq, v.shown_eq_self_iff]
  · have compared := compare_eq_of_plainType? resolved plain
    refine ⟨?_, compared⟩
    rw [parse_eq_display resolved plain, compared, Except.ok.injEq, Predicate.mk.injEq, Node.compare.injEq,
      v.shown_eq_self_iff]
    simp

end Condition

/-! ### A leap second -/

inductive Diary where
  | note

namespace Diary

def time : Field Diary :=
  ⟨"time", .dateTime, false⟩

instance : Catalog Diary := ⟨fun _ => ⟨"Note", none, [time]⟩⟩

/-- Half of a leap second, in a year of five digits. -/
def leapSecond : DateTime where
  date := ⟨10000, 12, 31, by decide, by decide, by decide, by decide, by decide, by decide⟩
  time := ⟨23, 59, 59, 1500000000, by decide, by decide, by decide, by decide⟩

theorem leapSecond_survives :
    Coercion.ofText {} time "+10000-12-31 23:59:60.500" = .ok (.dateTime leapSecond) ∧
      Condition.parse {} note "time" "eq:+10000-12-31 23:59:60.500" none =
        .ok ⟨.compare ⟨note, [], time⟩ .eq (.dateTime leapSecond)⟩ := by
  have shown : (Value.dateTime leapSecond).display = "+10000-12-31 23:59:60.500" := by decide +kernel
  have resolved : Path.resolve note "time" = .ok ⟨note, [], time⟩ := by rfl
  have usual : ¬(Value.dateTime leapSecond).Stray := fun stray => stray.2 rfl
  obtain ⟨read, parsed⟩ := @Condition.display_survives Diary _ (.dateTime leapSecond)
  obtain ⟨same, compared⟩ := parsed note "time" _ resolved rfl
  rw [shown] at read same
  exact ⟨(read time rfl).mpr usual, (same.mpr usual).trans compared⟩

/-- Half of a leap second that follows second 15. -/
def strayLeapSecond : DateTime where
  date := Coercion.fifthOfMarch
  time :=
    { Coercion.halfPastTen with
      second := 15
      nano := 1500000000
      second_lt := by decide
      nano_lt := by decide }

/-- Its text is that of half a second past second 16. -/
theorem strayLeapSecond_lost :
    (Value.dateTime strayLeapSecond).display = "2024-03-05 10:30:16.500" ∧
      Coercion.ofText {} time "2024-03-05 10:30:16.500" ≠ .ok (.dateTime strayLeapSecond) := by
  have shown : (Value.dateTime strayLeapSecond).display = "2024-03-05 10:30:16.500" := by decide +kernel
  have read := Coercion.ofText_display (v := .dateTime strayLeapSecond) (show _ = some time.type from rfl)
  refine ⟨shown, fun same => ?_⟩
  rw [← shown, read, Except.ok.injEq] at same
  exact (Value.shown_eq_self_iff _).mp same ⟨by decide, by decide⟩

end Diary

end EntityQuery
