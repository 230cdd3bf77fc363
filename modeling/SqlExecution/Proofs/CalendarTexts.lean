import Mathlib.Algebra.Group.Nat.Defs
import Mathlib.Data.List.Basic
import Mathlib.Data.List.TakeWhile
import SqlExecution.Calendar.Reader
import SqlExecution.Calendar.Writer

/-! Written dates and timestamps read back as the same. Every number is written in as many digits as
its field may hold, so what follows a field cannot be taken for a part of it; only the years out of
four digits and the fraction of a second end where no digit follows. A leap second within a minute
has no text of its own. -/

namespace SqlExecution

namespace TimeOfDay

/-- Any leap second follows the last second of its minute. -/
def IsCanonical (t : TimeOfDay) : Prop := 1000000000 ≤ t.nano → t.second = 59

theorem ofShown?_self {t : TimeOfDay} (canonical : t.IsCanonical) :
    ofShown? t.hour t.minute t.shownSecond t.shownNano = some t := by
  have nano_lt := t.nano_lt
  rw [ofShown?, if_neg (Nat.not_le.2 t.shownNano_lt)]
  by_cases leap : 1000000000 ≤ t.nano
  · have last : t.shownSecond = 60 := by
      have := canonical leap
      unfold shownSecond
      omega
    have nano : t.shownNano + 1000000000 = t.nano := by
      unfold shownNano
      omega
    rw [if_pos last, nano, ← canonical leap, ofParts?_self]
  · have second : t.shownSecond = t.second := by
      unfold shownSecond
      omega
    have nano : t.shownNano = t.nano := by
      unfold shownNano
      omega
    rw [second, nano, if_neg (Nat.ne_of_lt t.second_lt), ofParts?_self]

theorem ofParts?_eq_some {hour minute second nano : Nat} {t : TimeOfDay}
    (made : ofParts? hour minute second nano = some t) : t.second = second ∧ t.nano = nano := by
  unfold ofParts? at made
  split at made <;> try contradiction
  split at made <;> try contradiction
  split at made <;> try contradiction
  split at made <;> try contradiction
  obtain rfl := Option.some.inj made
  exact ⟨rfl, rfl⟩

theorem isCanonical_of_ofShown? {hour minute second nano : Nat} {t : TimeOfDay}
    (made : ofShown? hour minute second nano = some t) : t.IsCanonical := by
  unfold ofShown? at made
  split at made
  case isTrue => contradiction
  case isFalse short =>
    split at made
    case isTrue => exact fun _ => (ofParts?_eq_some made).1
    case isFalse =>
      intro leap
      rw [(ofParts?_eq_some made).2] at leap
      exact absurd leap short

end TimeOfDay

namespace Calendar

open Text (dropBlanks isBlank)

/-- The field is read from just these characters, whatever follows them. -/
def Takes {α : Type} (f : Field α) (cs : List Char) (a : α) : Prop :=
  ∀ rest, f (cs ++ rest) = some (a, rest)

variable {α : Type} {f : Field α} {a : α} {c : Char} {cs rest : List Char} {width n : Nat}

theorem isBlank_of_isDigit (digit : c.isDigit = true) : isBlank c = false := by
  have range : 48 ≤ c.toNat ∧ c.toNat ≤ 57 := Char.isDigit_iff_toNat.1 digit
  simp [isBlank, Text.blankRanges]
  omega

theorem dropBlanks_cons (shown : isBlank c = false) (cs : List Char) :
    dropBlanks (c :: cs) = c :: cs := by simp [dropBlanks, shown]

theorem digitsValue_eq (ds : List Char) : digitsValue ds = Nat.ofDigitChars 10 ds 0 := rfl

theorem isDigit_padded (width n : Nat) : ∀ c ∈ padded width n, c.isDigit = true := by
  intro c member
  rcases List.mem_append.1 member with zero | digit
  · obtain rfl := List.eq_of_mem_replicate zero
    rfl
  · exact Nat.isDigit_of_mem_toDigits (by decide) (by decide) digit

theorem padded_ne_nil (width n : Nat) : padded width n ≠ [] := by
  simp [padded, Nat.toDigits_ne_nil]

theorem length_padded (width : Nat) (positive : 0 < width) (fits : n < 10 ^ width) :
    (padded width n).length = width := by
  have short := (Nat.length_toDigits_le_iff (b := 10) (by decide) positive).2 fits
  rw [padded, List.length_append, List.length_replicate]
  omega

theorem digitsValue_padded (width n : Nat) : digitsValue (padded width n) = n := by
  rw [digitsValue_eq, padded, Nat.ofDigitChars_append, Nat.ofDigitChars_replicate_zero,
    Nat.mul_zero, Nat.ofDigitChars_ten_toDigits]

theorem padded_eq_cons (width n : Nat) : ∃ c cs, padded width n = c :: cs ∧ c.isDigit = true := by
  obtain ⟨c, cs, split⟩ := List.exists_cons_of_ne_nil (padded_ne_nil width n)
  exact ⟨c, cs, split, isDigit_padded width n c (split ▸ List.mem_cons_self ..)⟩

theorem Takes.spaced (takes : Takes f (c :: cs) a) (shown : isBlank c = false) :
    Takes (Calendar.spaced f) (c :: cs) a := by
  intro rest
  rw [Calendar.spaced, List.cons_append, dropBlanks_cons shown]
  exact takes rest

theorem takes_number (width : Nat) (positive : 0 < width) (fits : n < 10 ^ width) :
    Takes (number width) (padded width n) n := by
  intro rest
  have length := length_padded width positive fits
  have taken : (padded width n ++ rest).take width = padded width n := List.take_left' length
  have digits : (padded width n).takeWhile Char.isDigit = padded width n :=
    List.takeWhile_eq_self_iff.2 (isDigit_padded width n)
  have some : (padded width n).isEmpty = false := by simp [padded_ne_nil]
  simp only [number, taken, digits, some, digitsValue_padded]
  simp

theorem takes_spacedNumber (width : Nat) (positive : 0 < width) (fits : n < 10 ^ width) :
    Takes (spaced (number width)) (padded width n) n := by
  have takes := takes_number width positive fits
  obtain ⟨c, cs, split, digit⟩ := padded_eq_cons width n
  rw [split] at takes ⊢
  exact takes.spaced (isBlank_of_isDigit digit)

theorem takes_literal (shown : isBlank c = false) : Takes (spaced (literal c)) [c] () := by
  intro rest
  rw [spaced, List.singleton_append, dropBlanks_cons shown]
  simp [literal]

theorem Takes.separated (takes : Takes (Calendar.spaced f) cs a) (shown : isBlank c = false) :
    Takes (Calendar.separated c f) (c :: cs) a := by
  intro rest
  have literal := takes_literal shown (cs ++ rest)
  rw [List.singleton_append] at literal
  simp only [Calendar.separated, List.cons_append, literal, bind, Option.bind]
  exact takes rest

theorem cut_padded (width n : Nat) (ends : ∀ c ∈ rest.head?, c.isDigit = false) :
    (padded width n ++ rest).takeWhile Char.isDigit = padded width n ∧
      (padded width n ++ rest).dropWhile Char.isDigit = rest := by
  have digits := isDigit_padded width n
  rw [List.takeWhile_append_of_pos digits, List.dropWhile_append_of_pos digits]
  cases rest with
  | nil => simp
  | cons c cs => simp [ends c rfl]

theorem digits_padded (small : n ≤ maxField) (ends : ∀ c ∈ rest.head?, c.isDigit = false) :
    digits (padded width n ++ rest) = some (n, rest) := by
  simp [digits, cut_padded width n ends, padded_ne_nil, digitsValue_padded, Nat.not_lt.2 small]

theorem year_yearChars {y : Int} (range : minYear ≤ y ∧ y ≤ maxYear) (rest : List Char) :
    year (yearChars y ++ '-' :: rest) = some (y, '-' :: rest) := by
  have ends : ∀ c ∈ ('-' :: rest).head?, c.isDigit = false := by simp
  have small : y.natAbs ≤ maxField := by
    unfold minYear maxYear at range
    unfold maxField
    omega
  have read : digits (padded 4 y.natAbs ++ '-' :: rest) = some (y.natAbs, '-' :: rest) :=
    digits_padded small ends
  unfold yearChars
  split
  case isTrue plain =>
    have fits : y.toNat < 10 ^ 4 := by omega
    have takes := takes_number 4 (by decide) fits ('-' :: rest)
    obtain ⟨c, cs, split, digit⟩ := padded_eq_cons 4 y.toNat
    have unsigned : c ≠ '-' ∧ c ≠ '+' := by
      constructor <;> rintro rfl <;> exact absurd digit (by decide)
    rw [split] at takes ⊢
    rw [List.cons_append] at takes ⊢
    rw [year, spaced, dropBlanks_cons (isBlank_of_isDigit digit)]
    simp [unsigned, takes]
    omega
  case isFalse signed =>
    by_cases negative : y < 0
    · have value : -(y.natAbs : Int) = y := by omega
      rw [if_pos negative, List.cons_append, year, spaced, dropBlanks_cons (by decide)]
      simp only [read, Option.map_some, value]
    · have value : (y.natAbs : Int) = y := by omega
      rw [if_neg negative, List.cons_append, year, spaced, dropBlanks_cons (by decide)]
      simp only [read, Option.map_some, value]

theorem separated_two (shown : isBlank c = false) (fits : n < 100) (rest : List Char) :
    separated c (number 2) (c :: (padded 2 n ++ rest)) = some (n, rest) :=
  (takes_spacedNumber 2 (by decide) fits).separated shown rest

theorem daysInMonth_le (year : Int) (month : Nat) : daysInMonth year month ≤ 31 := by
  unfold daysInMonth
  split
  · split <;> omega
  · split <;> omega

theorem takes_date (d : Date) : Takes date d.chars d := by
  intro rest
  have month : d.month < 100 := by
    have := d.month_mem
    omega
  have day : d.day < 100 := by
    have := d.day_mem
    have := daysInMonth_le d.year d.month
    omega
  have dash : isBlank '-' = false := by decide
  rw [Date.chars, List.append_assoc, List.cons_append, List.append_assoc, List.cons_append, date,
    year_yearChars d.year_mem]
  simp only [bind, Option.bind, separated_two dash month, separated_two dash day, Date.of?_self]

/-- What follows a fraction of a second does not go it on. -/
def EndsFraction (rest : List Char) : Prop := ∀ c ∈ rest.head?, c.isDigit = false ∧ c ≠ '.'

theorem fraction_padded {nano : Nat} (positive : 0 < width) (short : width ≤ 9)
    (fits : n < 10 ^ width) (filled : n * Nat.pow 10 (9 - width) = nano)
    (ends : EndsFraction rest) :
    fraction ('.' :: (padded width n ++ rest)) = some (nano, rest) := by
  have cut := cut_padded width n fun c follows => (ends c follows).1
  have length := length_padded width positive fits
  have kept : (padded width n).take 9 = padded width n := List.take_of_length_le (by omega)
  simp only [fraction, cut, kept, length, digitsValue_padded, filled]
  simp [padded_ne_nil]

theorem fraction_fractionChars {nano : Nat} (fits : nano < 1000000000) (ends : EndsFraction rest) :
    fraction (fractionChars nano ++ rest) = some (nano, rest) := by
  unfold fractionChars
  split
  case isTrue zero =>
    subst zero
    cases rest with
    | nil => rfl
    | cons c rest =>
      have other := (ends c rfl).2
      simp [fraction, other]
  case isFalse =>
    split
    case isTrue millis =>
      have whole : 1000000 ∣ nano := Nat.dvd_of_mod_eq_zero millis
      exact fraction_padded (by decide) (by decide) (by omega) (Nat.div_mul_cancel whole) ends
    case isFalse =>
      split
      case isTrue micros =>
        have whole : 1000 ∣ nano := Nat.dvd_of_mod_eq_zero micros
        exact fraction_padded (by decide) (by decide) (by omega) (Nat.div_mul_cancel whole) ends
      case isFalse =>
        exact fraction_padded (by decide) (by decide) (by omega) (Nat.mul_one nano) ends

theorem time_chars {t : TimeOfDay} (canonical : t.IsCanonical) (ends : EndsFraction rest) :
    time (t.chars ++ rest) = some (t, rest) := by
  have hour : t.hour < 100 := Nat.lt_trans t.hour_lt (by decide)
  have minute : t.minute < 100 := Nat.lt_trans t.minute_lt (by decide)
  have second : t.shownSecond < 100 := Nat.lt_of_le_of_lt t.shownSecond_le (by decide)
  have colon : isBlank ':' = false := by decide
  have first : Takes (spaced (number 2)) (padded 2 t.hour) t.hour :=
    takes_spacedNumber 2 (by decide) hour
  simp only [time, TimeOfDay.chars, List.append_assoc, List.cons_append, bind, Option.bind, first _,
    separated_two colon minute, separated_two colon second,
    fraction_fractionChars t.shownNano_lt ends, TimeOfDay.ofShown?_self canonical]

theorem timestamp_chars {t : Timestamp} (canonical : t.time.IsCanonical) :
    timestamp (t.chars 'T') = some (t, []) := by
  have ends : EndsFraction [] := by simp [EndsFraction]
  have clock := time_chars canonical ends
  rw [List.append_nil] at clock
  have mark (rest : List Char) : spaced (literal 'T') ('T' :: rest) = some ((), rest) :=
    takes_literal (by decide) rest
  simp only [timestamp, Timestamp.chars, takes_date t.date _, bind, Option.bind, mark, clock]

theorem twoDigits_padded (fits : n < 100) (rest : List Char) :
    twoDigits (padded 2 n ++ rest) = some (n, rest) := by
  have length := length_padded 2 (by decide) fits
  obtain ⟨a, b, split⟩ := List.length_eq_two.1 length
  have digits : ∀ c ∈ [a, b], c.isDigit = true := fun c member =>
    isDigit_padded 2 n c (split ▸ member)
  have value : digitsValue [a, b] = n := split ▸ digitsValue_padded 2 n
  simp [split, twoDigits, digits, value]

theorem hoursMinutes_offsetChars {minutes : Int} (range : -1440 < minutes ∧ minutes < 1440)
    {between : List Char → Option (List Char)}
    (colon : ∀ n < 100, ∀ rest, between (':' :: (padded 2 n ++ rest)) = some (padded 2 n ++ rest)) :
    hoursMinutes between (offsetChars minutes) = some (minutes, []) := by
  have hours : minutes.natAbs / 60 < 100 := by omega
  have past : minutes.natAbs % 60 < 100 := by omega
  have last := twoDigits_padded past []
  have skipped := colon _ past []
  rw [List.append_nil] at last skipped
  have whole : minutes.natAbs % 60 < 60 := by omega
  unfold offsetChars hoursMinutes
  split
  case isTrue negative =>
    have value : -((60 * (minutes.natAbs / 60) + minutes.natAbs % 60 : Nat) : Int) = minutes := by
      omega
    simp only [offsetSign, twoDigits_padded hours, last, skipped, Option.bind_eq_bind,
      Option.bind_some, if_pos whole, if_true, value]
  case isFalse positive =>
    have value : ((60 * (minutes.natAbs / 60) + minutes.natAbs % 60 : Nat) : Int) = minutes := by
      omega
    simp only [offsetSign, twoDigits_padded hours, last, skipped, Option.bind_eq_bind,
      Option.bind_some, if_pos whole, Bool.false_eq_true, if_false, value]

theorem dropWhile_colon (width n : Nat) (rest : List Char) :
    (':' :: (padded width n ++ rest)).dropWhile (fun c => c == ':' || isBlank c) =
      padded width n ++ rest := by
  obtain ⟨c, cs, split, digit⟩ := padded_eq_cons width n
  have notColon : c ≠ ':' := by
    rintro rfl
    exact absurd digit (by decide)
  simp [split, notColon, isBlank_of_isDigit digit]

/-- Behind the time of day stands the mark of universal time, or a sign. -/
def zoneChars (minutes : Int) : List Char := if minutes = 0 then ['Z'] else offsetChars minutes

theorem zoneChars_eq_cons (minutes : Int) :
    ∃ c cs, zoneChars minutes = c :: cs ∧ (c = 'Z' ∨ c = '-' ∨ c = '+') := by
  unfold zoneChars offsetChars
  split
  · exact ⟨'Z', [], rfl, .inl rfl⟩
  · split
    · exact ⟨'-', _, rfl, .inr (.inl rfl)⟩
    · exact ⟨'+', _, rfl, .inr (.inr rfl)⟩

theorem endsFraction_zoneChars (minutes : Int) : EndsFraction (zoneChars minutes) := by
  obtain ⟨c, cs, split, mark⟩ := zoneChars_eq_cons minutes
  rw [split]
  rintro d ⟨⟩
  rcases mark with rfl | rfl | rfl <;> decide

theorem dropBlanks_zoneChars (minutes : Int) :
    dropBlanks (zoneChars minutes) = zoneChars minutes := by
  obtain ⟨c, cs, split, mark⟩ := zoneChars_eq_cons minutes
  rw [split]
  refine dropBlanks_cons ?_ cs
  rcases mark with rfl | rfl | rfl <;> decide

theorem universal_zoneChars (minutes : Int) : universal (zoneChars minutes) = none := by
  obtain ⟨c, cs, split, mark⟩ := zoneChars_eq_cons minutes
  have other : c.toUpper ≠ 'U' := by rcases mark with rfl | rfl | rfl <;> decide
  rw [split]
  match cs with
  | [] => rfl
  | [_] => rfl
  | _ :: _ :: _ => simp [universal, other]

theorem offset_zoneChars {minutes : Int} (range : -1440 < minutes ∧ minutes < 1440)
    {between : List Char → Option (List Char)}
    (colon : ∀ n < 100, ∀ rest, between (':' :: (padded 2 n ++ rest)) = some (padded 2 n ++ rest)) :
    offset between (zoneChars minutes) = some (minutes, []) := by
  unfold zoneChars
  split
  case isTrue zero =>
    subst zero
    rfl
  case isFalse =>
    rw [← hoursMinutes_offsetChars range colon]
    unfold offsetChars
    split <;> rfl

theorem offsetTimestamp_zuluChars {t : OffsetTimestamp}
    (canonical : t.timestamp.time.IsCanonical) :
    offsetTimestamp t.zuluChars = some (t, []) := by
  have written : t.zuluChars =
      t.timestamp.date.chars ++ 'T' :: (t.timestamp.time.chars ++ zoneChars t.offset) := by
    simp [OffsetTimestamp.zuluChars, Timestamp.chars, zoneChars]
  have clock := time_chars canonical (endsFraction_zoneChars t.offset)
  have zone : offset (fun cs => some (cs.dropWhile fun c => c == ':' || isBlank c))
      (zoneChars t.offset) = some (t.offset, []) :=
    offset_zoneChars t.offset_lt fun n _ rest => congrArg some (dropWhile_colon 2 n rest)
  have same : OffsetTimestamp.of? ⟨t.timestamp.date, t.timestamp.time⟩ t.offset = some t :=
    OffsetTimestamp.of?_self t
  rw [written, offsetTimestamp, takes_date]
  simp [dateTimeSeparator, clock, dropBlanks_zoneChars, universal_zoneChars, zone, same]

theorem isCanonical_of_time {t : TimeOfDay} (read : time cs = some (t, rest)) :
    t.IsCanonical := by
  simp only [time, Option.bind_eq_bind, Option.bind_eq_some_iff, Option.some.injEq,
    Prod.mk.injEq] at read
  obtain ⟨_, _, _, _, _, _, _, _, _, made, rfl, -⟩ := read
  exact TimeOfDay.isCanonical_of_ofShown? made

theorem exists_of_whole {text : String} (read : whole f text = some a) :
    ∃ rest, f text.toList = some (a, rest) := by
  unfold whole at read
  split at read
  case h_1 value rest found =>
    split at read
    case isTrue => exact ⟨rest, Option.some.inj read ▸ found⟩
    case isFalse => contradiction
  case h_2 => contradiction

end Calendar

open Calendar

theorem Date.read?_chars (d : Date) : Date.read? (String.ofList d.chars) = some d := by
  have read := takes_date d []
  rw [List.append_nil] at read
  simp [Date.read?, whole, read, Text.dropBlanks]

theorem Timestamp.isCanonical_of_read? {text : String} {t : Timestamp}
    (read : Timestamp.read? text = some t) : t.time.IsCanonical := by
  obtain ⟨rest, found⟩ := exists_of_whole read
  simp only [timestamp, Option.bind_eq_bind, Option.bind_eq_some_iff, Option.some.injEq,
    Prod.mk.injEq] at found
  obtain ⟨_, _, _, _, _, clock, rfl, -⟩ := found
  exact isCanonical_of_time clock

theorem Timestamp.read?_chars_iff (t : Timestamp) :
    Timestamp.read? (String.ofList (t.chars 'T')) = some t ↔ t.time.IsCanonical := by
  refine ⟨isCanonical_of_read?, fun canonical => ?_⟩
  simp [Timestamp.read?, whole, timestamp_chars canonical, Text.dropBlanks]

theorem OffsetTimestamp.of?_eq_some {timestamp : Timestamp} {offset : Int} {t : OffsetTimestamp}
    (made : of? timestamp offset = some t) : t.timestamp = timestamp := by
  unfold of? at made
  split at made <;> try contradiction
  split at made <;> try contradiction
  obtain rfl := Option.some.inj made
  rfl

theorem OffsetTimestamp.isCanonical_of_read? {text : String} {t : OffsetTimestamp}
    (read : OffsetTimestamp.read? text = some t) : t.timestamp.time.IsCanonical := by
  obtain ⟨rest, found⟩ := exists_of_whole read
  simp only [offsetTimestamp, Option.bind_eq_bind, Option.bind_eq_some_iff, Option.some.injEq,
    Prod.mk.injEq] at found
  obtain ⟨_, _, _, _, _, clock, _, _, _, made, rfl, -⟩ := found
  rw [of?_eq_some made]
  exact isCanonical_of_time clock

theorem OffsetTimestamp.read?_zuluChars_iff (t : OffsetTimestamp) :
    OffsetTimestamp.read? (String.ofList t.zuluChars) = some t ↔ t.timestamp.time.IsCanonical := by
  refine ⟨isCanonical_of_read?, fun canonical => ?_⟩
  simp [OffsetTimestamp.read?, whole, offsetTimestamp_zuluChars canonical, Text.dropBlanks]

end SqlExecution
