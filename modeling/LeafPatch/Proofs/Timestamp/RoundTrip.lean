import LeafPatch.Timestamp.Text

/-!
# Reading timestamps back

The written form of a timestamp has its fields in a fixed number of digits each,
and its fraction in zero, three, six or nine.  Read again it gives the same
timestamp: nothing is lost in the fraction, the extra second of a leap second is
recognized by its number, and a time that is given in universal time is not
shifted.

This is so as long as the year has four digits.  A zone that is ahead or behind
can move an instant of the year 0 or 9999 out of these years; such an instant
is written with a sign before its year, and that is no internet timestamp.
-/

namespace LeafPatch.Timestamp

/-- The year is written in four digits and without a sign. -/
def FourDigitYear (timestamp : Timestamp) : Prop :=
  0 ≤ timestamp.date.year ∧ timestamp.date.year ≤ 9999

instance (timestamp : Timestamp) : Decidable timestamp.FourDigitYear :=
  inferInstanceAs (Decidable (_ ∧ _))

/-! ## Digits -/

theorem readDigits?_cons
    (count : Nat)
    (digit : Char)
    (text : List Char) :
    readDigits? (count + 1) (digit :: text) =
      if digit.isDigit then
        (readDigits? count text).map fun read =>
          ((digit.toNat - '0'.toNat) * Nat.pow 10 count + read.1, read.2)
      else
        none := by
  show
    ((guard (digit.isDigit = true) : Option Unit).bind fun _ =>
        (readDigits? count text).bind fun read =>
          some
            ((digit.toNat - '0'.toNat) * Nat.pow 10 count + read.1, read.2)) =
      _
  by_cases isDigit : digit.isDigit = true
  · have accepted : (guard (digit.isDigit = true) : Option Unit) = some () :=
      if_pos isDigit
    rw [if_pos isDigit, accepted]
    cases readDigits? count text <;> rfl
  · have refused : (guard (digit.isDigit = true) : Option Unit) = none :=
      if_neg isDigit
    rw [if_neg isDigit, refused]
    rfl

/-- As many digits as there are give the number they spell. -/
theorem readDigits?_append
    {digits : List Char}
    (areDigits : ∀ digit ∈ digits, digit.isDigit = true)
    (rest : List Char) :
    readDigits? digits.length (digits ++ rest) =
      some (Nat.ofDigitChars 10 digits 0, rest) := by
  induction digits with
  | nil => rfl
  | cons digit later ih =>
      rw [List.forall_mem_cons] at areDigits
      have spelled :
          Nat.ofDigitChars 10 (digit :: later) 0 =
            (digit.toNat - '0'.toNat) * Nat.pow 10 later.length
              + Nat.ofDigitChars 10 later 0 := by
        rw [Nat.ofDigitChars_cons, Nat.mul_zero, Nat.zero_add,
          Nat.ofDigitChars_eq_ofDigitChars_zero, Nat.mul_comm]
        rfl
      rw [List.length_cons, List.cons_append, readDigits?_cons,
        if_pos areDigits.1, ih areDigits.2, spelled]
      rfl

theorem isDigit_of_mem_writePadded
    {width value : Nat}
    {digit : Char}
    (member : digit ∈ writePadded width value) :
    digit.isDigit = true := by
  rcases List.mem_append.mp member with padding | written
  · rw [List.eq_of_mem_replicate padding]
    rfl
  · exact Nat.isDigit_of_mem_toDigits (by decide) (by decide) written

theorem ofDigitChars_writePadded (width value : Nat) :
    Nat.ofDigitChars 10 (writePadded width value) 0 = value := by
  rw [writePadded, Nat.ofDigitChars_append, Nat.ofDigitChars_replicate_zero,
    Nat.mul_zero, Nat.ofDigitChars_ten_toDigits]

theorem length_writePadded
    {width value : Nat}
    (positive : 0 < width)
    (fits : value < Nat.pow 10 width) :
    (writePadded width value).length = width := by
  have short : (Nat.toDigits 10 value).length ≤ width :=
    (Nat.length_toDigits_le_iff (by decide) positive).mpr fits
  rw [writePadded, List.length_append, List.length_replicate,
    Nat.sub_add_cancel short]

/-- A padded number is read back, and what follows it is left. -/
theorem readDigits?_writePadded
    {width value : Nat}
    (positive : 0 < width)
    (fits : value < Nat.pow 10 width)
    (rest : List Char) :
    readDigits? width (writePadded width value ++ rest) = some (value, rest) := by
  have areDigits :
      ∀ digit ∈ writePadded width value, digit.isDigit = true :=
    fun _ => isDigit_of_mem_writePadded
  have read := readDigits?_append areDigits rest
  rw [length_writePadded positive fits, ofDigitChars_writePadded] at read
  exact read

/-! ## Fractions -/

theorem nanosOfDigits_writePadded
    {width value : Nat}
    (positive : 0 < width)
    (short : width ≤ 9)
    (fits : value < Nat.pow 10 width) :
    nanosOfDigits (writePadded width value) =
      value * Nat.pow 10 (9 - width) := by
  have length := length_writePadded positive fits
  have all : (writePadded width value).take 9 = writePadded width value :=
    List.take_of_length_le (by omega)
  rw [nanosOfDigits, all, ofDigitChars_writePadded, length]

theorem readFraction?_point
    {width value : Nat}
    (positive : 0 < width)
    (short : width ≤ 9)
    (fits : value < Nat.pow 10 width) :
    readFraction? ('.' :: writePadded width value ++ ['Z']) =
      some (value * Nat.pow 10 (9 - width), ['Z']) := by
  have areDigits :
      ∀ digit ∈ writePadded width value, digit.isDigit = true :=
    fun _ => isDigit_of_mem_writePadded
  have length := length_writePadded positive fits
  have nonempty : (writePadded width value).isEmpty = false := by
    rw [List.isEmpty_eq_false_iff, ← List.length_pos_iff]
    omega
  have before :
      (writePadded width value ++ ['Z']).takeWhile Char.isDigit =
        writePadded width value := by
    rw [List.takeWhile_append_of_pos areDigits]
    exact List.append_nil _
  have after :
      (writePadded width value ++ ['Z']).dropWhile Char.isDigit = ['Z'] := by
    rw [List.dropWhile_append_of_pos areDigits]
    rfl
  rw [List.cons_append, readFraction?, before, after, nonempty,
    nanosOfDigits_writePadded positive short fits]
  rfl

/-- A fraction is read back to the nanosecond. -/
theorem readFraction?_writeFraction
    {nanos : Nat}
    (small : nanos < nanosPerSecond) :
    readFraction? (writeFraction nanos ++ ['Z']) = some (nanos, ['Z']) := by
  unfold nanosPerSecond at small
  unfold writeFraction
  split
  · next none =>
      rw [none]
      rfl
  · split
    · next millis =>
        rw [readFraction?_point (by decide) (by decide) (by show _ < 1000; omega)]
        show some (nanos / 1000000 * 1000000, ['Z']) = some (nanos, ['Z'])
        rw [Nat.div_mul_cancel (Nat.dvd_of_mod_eq_zero millis)]
    · split
      · next micros =>
          rw [readFraction?_point (by decide) (by decide)
            (by show _ < 1000000; omega)]
          show some (nanos / 1000 * 1000, ['Z']) = some (nanos, ['Z'])
          rw [Nat.div_mul_cancel (Nat.dvd_of_mod_eq_zero micros)]
      · rw [readFraction?_point (by decide) (by decide) small]
        show some (nanos * 1, ['Z']) = some (nanos, ['Z'])
        rw [Nat.mul_one]

/-! ## Fields -/

theorem daysOfMonth_le (year : Int) (month : Nat) :
    daysOfMonth year month ≤ 31 := by
  unfold daysOfMonth
  split
  · split <;> decide
  all_goals decide

theorem date_of?_self (date : Date) :
    Date.of? date.year date.month date.day = some date := by
  rw [Date.of?, dif_pos date.month_range, dif_pos date.day_range]

theorem of?_self (timestamp : Timestamp) :
    of? timestamp.date timestamp.hour timestamp.minute timestamp.second
        timestamp.nanos =
      some timestamp := by
  rw [of?, dif_pos]
  exact
    ⟨timestamp.hour_lt, timestamp.minute_lt, timestamp.second_lt,
      timestamp.nanos_lt, timestamp.leap⟩

/-- A time that is given in universal time is not shifted. -/
theorem ofCivil?_universal (timestamp : Timestamp) :
    ofCivil?
        ⟨timestamp.date, timestamp.hour, timestamp.minute, timestamp.second,
          timestamp.nanos, 0⟩ =
      some timestamp := by
  have hours := timestamp.hour_lt
  have minutes := timestamp.minute_lt
  have sameDay :
      ((timestamp.hour * 60 + timestamp.minute : Nat) - 0 : Int) / 1440 = 0 := by
    omega
  have sameMinute :
      (((timestamp.hour * 60 + timestamp.minute : Nat) - 0 : Int) % 1440).toNat =
        timestamp.hour * 60 + timestamp.minute := by
    omega
  have sameHour : (timestamp.hour * 60 + timestamp.minute) / 60 = timestamp.hour := by
    omega
  have sameRest : (timestamp.hour * 60 + timestamp.minute) % 60 = timestamp.minute := by
    omega
  refine Option.bind_eq_some_iff.mpr ⟨(), if_pos ⟨hours, minutes⟩, ?_⟩
  dsimp only
  rw [sameDay, sameMinute, sameHour, sameRest]
  exact of?_self timestamp

theorem readOneOf?_cons
    {expected : List Char}
    {character : Char}
    (isExpected : expected.contains character = true)
    (rest : List Char) :
    readOneOf? expected (character :: rest) = some rest :=
  if_pos isExpected

theorem readDigits?_pair
    {value : Nat}
    (small : value < 100)
    (rest : List Char) :
    readDigits? 2 (writePadded 2 value ++ rest) = some (value, rest) :=
  readDigits?_writePadded (by decide) small rest

/-- The number of a second as it is written, that of a leap second being 60. -/
def writtenSecond (timestamp : Timestamp) : Nat :=
  if nanosPerSecond ≤ timestamp.nanos then 60 else timestamp.second

/-- Every field but the year has at most two digits. -/
theorem fields_lt (timestamp : Timestamp) :
    timestamp.date.month < 100 ∧ timestamp.date.day < 100
      ∧ timestamp.hour < 100 ∧ timestamp.minute < 100
      ∧ timestamp.writtenSecond < 100 := by
  have months := timestamp.date.month_range
  have days := timestamp.date.day_range
  have longest := daysOfMonth_le timestamp.date.year timestamp.date.month
  have hours := timestamp.hour_lt
  have minutes := timestamp.minute_lt
  have seconds : timestamp.writtenSecond < 100 := by
    have := timestamp.second_lt
    unfold writtenSecond
    split
    · decide
    · omega
  omega

/-- The nanoseconds of a leap second are written from zero and counted on. -/
theorem civil_of_writtenSecond (timestamp : Timestamp) :
    (if timestamp.writtenSecond = 60 then
      some
        (Civil.mk timestamp.date timestamp.hour timestamp.minute 59
          (timestamp.nanos % nanosPerSecond + nanosPerSecond) 0)
    else
      some
        (Civil.mk timestamp.date timestamp.hour timestamp.minute
          timestamp.writtenSecond (timestamp.nanos % nanosPerSecond) 0)) =
      some
        ⟨timestamp.date, timestamp.hour, timestamp.minute, timestamp.second,
          timestamp.nanos, 0⟩ := by
  unfold writtenSecond
  by_cases leap : nanosPerSecond ≤ timestamp.nanos
  · have nanos :
        timestamp.nanos % nanosPerSecond + nanosPerSecond = timestamp.nanos := by
      have := timestamp.nanos_lt
      rw [Nat.mod_eq_sub_mod leap, Nat.mod_eq_of_lt (by omega)]
      omega
    rw [if_pos leap, if_pos rfl, nanos, timestamp.leap leap]
  · have ordinary : timestamp.second ≠ 60 := by
      have := timestamp.second_lt
      omega
    rw [if_neg leap, if_neg ordinary,
      Nat.mod_eq_of_lt (Nat.lt_of_not_le leap)]

/-- The date, the time of day and the offset are read back as they are written. -/
theorem readCivil?_write
    {timestamp : Timestamp}
    (fourDigits : timestamp.FourDigitYear) :
    readCivil? timestamp.write =
      some
        ⟨timestamp.date, timestamp.hour, timestamp.minute, timestamp.second,
          timestamp.nanos, 0⟩ := by
  have year : timestamp.date.year.toNat < Nat.pow 10 4 := by
    have := fourDigits.1
    have := fourDigits.2
    show _ < 10000
    omega
  have sameYear : (timestamp.date.year.toNat : Int) = timestamp.date.year :=
    Int.toNat_of_nonneg fourDigits.1
  have isYear :
      writeYear timestamp.date.year =
        writePadded 4 timestamp.date.year.toNat :=
    if_pos fourDigits
  have fraction :=
    readFraction?_writeFraction
      (Nat.mod_lt timestamp.nanos (show 0 < nanosPerSecond by decide))
  rcases fields_lt timestamp with ⟨month, day, hour, minute, second⟩
  rw [write, isYear]
  simp only [List.append_assoc, List.cons_append]
  -- field by field, as the reader takes them off the text
  refine Option.bind_eq_some_iff.mpr
    ⟨_, readDigits?_writePadded (by decide) year _, ?_⟩
  refine Option.bind_eq_some_iff.mpr ⟨_, readOneOf?_cons rfl _, ?_⟩
  refine Option.bind_eq_some_iff.mpr ⟨_, readDigits?_pair month _, ?_⟩
  refine Option.bind_eq_some_iff.mpr ⟨_, readOneOf?_cons rfl _, ?_⟩
  refine Option.bind_eq_some_iff.mpr ⟨_, readDigits?_pair day _, ?_⟩
  refine Option.bind_eq_some_iff.mpr ⟨_, readOneOf?_cons rfl _, ?_⟩
  refine Option.bind_eq_some_iff.mpr ⟨_, readDigits?_pair hour _, ?_⟩
  refine Option.bind_eq_some_iff.mpr ⟨_, readOneOf?_cons rfl _, ?_⟩
  refine Option.bind_eq_some_iff.mpr ⟨_, readDigits?_pair minute _, ?_⟩
  refine Option.bind_eq_some_iff.mpr ⟨_, readOneOf?_cons rfl _, ?_⟩
  refine Option.bind_eq_some_iff.mpr ⟨_, readDigits?_pair second _, ?_⟩
  refine Option.bind_eq_some_iff.mpr ⟨_, fraction, ?_⟩
  refine Option.bind_eq_some_iff.mpr ⟨(0, []), rfl, ?_⟩
  refine Option.bind_eq_some_iff.mpr ⟨(), rfl, ?_⟩
  refine Option.bind_eq_some_iff.mpr ⟨timestamp.date, ?_, ?_⟩
  · rw [sameYear]
    exact date_of?_self timestamp.date
  · exact civil_of_writtenSecond timestamp

/-! ## What is read back -/

/-- A sign before the year is no internet timestamp. -/
theorem readCivil?_write_eq_none
    {timestamp : Timestamp}
    (signed : ¬ timestamp.FourDigitYear) :
    readCivil? timestamp.write = none := by
  have noYear (text : List Char) :
      readDigits? 4
          ((if timestamp.date.year < 0 then '-' else '+') :: text) =
        none := by
    rw [readDigits?_cons]
    by_cases negative : timestamp.date.year < 0
    · rw [if_pos negative]
      rfl
    · rw [if_neg negative]
      rfl
  unfold FourDigitYear at signed
  rw [write, writeYear, if_neg signed]
  simp only [List.append_assoc, List.cons_append]
  rw [readCivil?, noYear]
  rfl

/-- The written form of a timestamp gives it back if its year has four digits. -/
theorem parse?_render (timestamp : Timestamp) :
    parse? timestamp.render =
      if timestamp.FourDigitYear then some timestamp else none := by
  rw [parse?, render, String.toList_ofList]
  split
  · next fourDigits =>
      rw [readCivil?_write fourDigits]
      exact ofCivil?_universal timestamp
  · next signed =>
      rw [readCivil?_write_eq_none signed]
      rfl

/-! ## Which years there are -/

theorem readDigits?_lt
    {count value : Nat}
    {text rest : List Char}
    (read : readDigits? count text = some (value, rest)) :
    value < Nat.pow 10 count := by
  induction count generalizing value text rest with
  | zero =>
      cases read
      decide
  | succ count ih =>
      cases text with
      | nil => cases read
      | cons digit text =>
          rw [readDigits?_cons] at read
          split at read
          · next isDigit =>
              rcases Option.map_eq_some_iff.mp read with ⟨⟨lower, after⟩, later, equal⟩
              cases equal
              have below : lower < Nat.pow 10 count := ih later
              have single : digit.toNat - '0'.toNat ≤ 9 := by
                have range : 48 ≤ digit.toNat ∧ digit.toNat ≤ 57 :=
                  Char.isDigit_iff_toNat.mp isDigit
                show digit.toNat - 48 ≤ 9
                omega
              calc
                (digit.toNat - '0'.toNat) * Nat.pow 10 count + lower
                    < 9 * Nat.pow 10 count + Nat.pow 10 count :=
                  Nat.add_lt_add_of_le_of_lt
                    (Nat.mul_le_mul_right _ single) below
                _ = Nat.pow 10 (count + 1) := by
                  show _ = Nat.pow 10 count * 10
                  omega
          · cases read


theorem year_of_date_of?
    {year : Int}
    {month day : Nat}
    {date : Date}
    (isDate : Date.of? year month day = some date) :
    date.year = year := by
  unfold Date.of? at isDate
  split at isDate
  · split at isDate
    · cases isDate
      rfl
    · cases isDate
  · cases isDate

theorem readCivil?_year
    {text : List Char}
    {civil : Civil}
    (read : readCivil? text = some civil) :
    0 ≤ civil.date.year ∧ civil.date.year ≤ 9999 := by
  -- of all that is read, the digits of the year and the date made of them
  rcases Option.bind_eq_some_iff.mp read with ⟨⟨year, _⟩, isYear, read⟩
  rcases Option.bind_eq_some_iff.mp read with ⟨_, -, read⟩
  rcases Option.bind_eq_some_iff.mp read with ⟨_, -, read⟩
  rcases Option.bind_eq_some_iff.mp read with ⟨_, -, read⟩
  rcases Option.bind_eq_some_iff.mp read with ⟨_, -, read⟩
  rcases Option.bind_eq_some_iff.mp read with ⟨_, -, read⟩
  rcases Option.bind_eq_some_iff.mp read with ⟨_, -, read⟩
  rcases Option.bind_eq_some_iff.mp read with ⟨_, -, read⟩
  rcases Option.bind_eq_some_iff.mp read with ⟨_, -, read⟩
  rcases Option.bind_eq_some_iff.mp read with ⟨_, -, read⟩
  rcases Option.bind_eq_some_iff.mp read with ⟨⟨second, _⟩, -, read⟩
  rcases Option.bind_eq_some_iff.mp read with ⟨_, -, read⟩
  rcases Option.bind_eq_some_iff.mp read with ⟨_, -, read⟩
  rcases Option.bind_eq_some_iff.mp read with ⟨_, -, read⟩
  rcases Option.bind_eq_some_iff.mp read with ⟨date, isDate, read⟩
  have bound : year < 10000 := readDigits?_lt isYear
  have sameYear : date.year = year := year_of_date_of? isDate
  by_cases leap : second = 60
  all_goals
    simp only [leap, if_true, if_false] at read
    cases read
    show 0 ≤ date.year ∧ date.year ≤ 9999
    omega

theorem year_next (date : Date) :
    date.year ≤ date.next.year ∧ date.next.year ≤ date.year + 1 := by
  unfold Date.next
  split
  · exact ⟨Int.le_refl _, Int.le_add_one (Int.le_refl _)⟩
  · split
    · exact ⟨Int.le_refl _, Int.le_add_one (Int.le_refl _)⟩
    · exact ⟨Int.le_add_one (Int.le_refl _), Int.le_refl _⟩

theorem year_previous (date : Date) :
    date.year - 1 ≤ date.previous.year ∧ date.previous.year ≤ date.year := by
  unfold Date.previous
  split
  · exact ⟨Int.sub_le_self _ (by decide), Int.le_refl _⟩
  · split
    · exact ⟨Int.sub_le_self _ (by decide), Int.le_refl _⟩
    · exact ⟨Int.le_refl _, Int.sub_le_self _ (by decide)⟩

theorem year_shiftDay (date : Date) (days : Int) :
    date.year - 1 ≤ (shiftDay date days).year
      ∧ (shiftDay date days).year ≤ date.year + 1 := by
  have next := year_next date
  have previous := year_previous date
  unfold shiftDay
  split
  · omega
  · split
    · omega
    · omega

theorem date_of_of?
    {date : Date}
    {hour minute second nanos : Nat}
    {timestamp : Timestamp}
    (inRange : of? date hour minute second nanos = some timestamp) :
    timestamp.date = date := by
  unfold of? at inRange
  split at inRange
  · cases inRange
    rfl
  · cases inRange

/-- An instant of four-digit years is at most one year off in universal time. -/
theorem year_of_parse?
    {text : String}
    {timestamp : Timestamp}
    (parsed : parse? text = some timestamp) :
    -1 ≤ timestamp.date.year ∧ timestamp.date.year ≤ 10000 := by
  rcases Option.bind_eq_some_iff.mp parsed with ⟨civil, read, converted⟩
  have written := readCivil?_year read
  rcases Option.bind_eq_some_iff.mp converted with ⟨_, -, inRange⟩
  have shifted := year_shiftDay civil.date
    (((civil.hour * 60 + civil.minute : Nat) - civil.ahead) / 1440)
  have sameDate := date_of_of? inRange
  rw [sameDate]
  omega

end LeafPatch.Timestamp
