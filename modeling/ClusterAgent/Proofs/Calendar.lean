import ClusterAgent.Calendar
import ClusterAgent.Proofs.Members
import Mathlib.Data.List.DropRight

/-!
Contract: where the fraction of a second stands in a text that names a time.

An accepted text has one point at most, and behind it nothing but digits up to
the zone. They add less than a second to a time in whole seconds, so the same
text without them names the last whole second.

Owns: what the readers of dates, times of day and zones take from a text.
Does not own: which day a date is.
-/

namespace ClusterAgent.Calendar

/-! ## Digits -/

theorem isDigit_ne_point {c : Char} (isDigit : c.isDigit) : c ≠ '.' := by
  rintro rfl
  cases isDigit

theorem not_mem_point_of_digits {digits : List Char} (allDigits : ∀ c ∈ digits, c.isDigit) :
    '.' ∉ digits := fun member => isDigit_ne_point (allDigits '.' member) rfl

theorem digitsValue_lt {digits : List Char} (allDigits : ∀ c ∈ digits, c.isDigit) :
    digitsValue digits < 10 ^ digits.length := by
  rw [digitsValue_eq_ofDigits]
  have bounded := Nat.ofDigits_lt_base_pow_length (b := 10)
    (l := (digits.map fun digit => digit.toNat - 48).reverse) (by decide) (by
      intro value member
      rw [List.mem_reverse, List.mem_map] at member
      obtain ⟨digit, inDigits, rfl⟩ := member
      have bounds := digit_bounds (allDigits digit inDigits)
      omega)
  simpa using bounded

/-- A fraction of a second is less than a second. -/
theorem fractionMillis_lt {digits : List Char} (allDigits : ∀ c ∈ digits, c.isDigit) :
    fractionMillis digits < 1000 := by
  unfold fractionMillis
  dsimp only
  have sublist : ((digits.dropWhile (· = '0')).take countedDigits).Sublist digits :=
    (List.take_sublist _ _).trans (List.dropWhile_sublist _)
  have short : ((digits.dropWhile (· = '0')).take countedDigits).length ≤ countedDigits :=
    List.length_take_le _ _
  have value := digitsValue_lt fun c member => allDigits c (sublist.subset member)
  generalize (digits.dropWhile (· = '0')).take countedDigits = counted at *
  have shorter := sublist.length_le
  have nine : countedDigits = 9 := rfl
  have product : digitsValue counted * 10 ^ (countedDigits - digits.length) < 10 ^ 9 := by
    calc digitsValue counted * 10 ^ (countedDigits - digits.length)
        < 10 ^ counted.length * 10 ^ (countedDigits - digits.length) :=
          Nat.mul_lt_mul_of_pos_right value (Nat.pow_pos (by decide))
      _ = 10 ^ (counted.length + (countedDigits - digits.length)) := (Nat.pow_add ..).symm
      _ ≤ 10 ^ 9 := Nat.pow_le_pow_right (by decide) (by omega)
  rw [Nat.div_lt_iff_lt_mul (by decide)]
  exact product

/-- Digits of a fixed number are taken whatever follows them. -/
theorem exists_fixedDigits? {count value : Nat} {text rest : List Char}
    (isRead : fixedDigits? count text = some (value, rest)) :
    ∃ digits, text = digits ++ rest ∧ digits.length = count ∧ (∀ c ∈ digits, c.isDigit) ∧
      ∀ other, fixedDigits? count (digits ++ other) = some (value, other) := by
  unfold fixedDigits? at isRead
  dsimp only at isRead
  split_ifs at isRead with areDigits
  cases isRead
  obtain ⟨isLength, allDigits⟩ := areDigits
  refine ⟨text.take count, (List.take_append_drop count text).symm, isLength,
    List.all_eq_true.1 allDigits, fun other => ?_⟩
  unfold fixedDigits?
  rw [List.take_left' isLength, List.drop_left' isLength]
  exact if_pos ⟨isLength, allDigits⟩

/-! ## What readers take -/

/-- A reader of the front of a text finds the same there whatever follows, as long as that begins in
the same way. There is no point in the front. -/
structure Takes {α : Type} (read : List Char → Option (α × List Char)) (front rest : List Char)
    (value : α) : Prop where
  noPoint : '.' ∉ front
  again (other : List Char) : other.head? = rest.head? → read (front ++ other) = some (value, other)

theorem readYear?_of_plus (rest : List Char) :
    readYear? ('+' :: rest) =
      (fixedDigits? 6 rest).map fun (year, rest) => ((year : Int), rest) := rfl

theorem readYear?_of_minus (rest : List Char) :
    readYear? ('-' :: rest) =
      match fixedDigits? 6 rest with
      | some (0, _) => none
      | some (year, rest) => some (-(year : Int), rest)
      | none => none := rfl

theorem readYear?_of_digit {c : Char} (isDigit : c.isDigit) (rest : List Char) :
    readYear? (c :: rest) =
      (fixedDigits? 4 (c :: rest)).map fun (year, rest) => ((year : Int), rest) := by
  unfold readYear?
  split
  · next isPlus => cases isPlus; cases isDigit
  · next isMinus => cases isMinus; cases isDigit
  · rfl

theorem exists_takes_readYear? {text rest : List Char} {year : Int}
    (isRead : readYear? text = some (year, rest)) :
    ∃ front, text = front ++ rest ∧ Takes readYear? front rest year := by
  unfold readYear? at isRead
  split at isRead
  · obtain ⟨⟨magnitude, rest⟩, areDigits, same⟩ := Option.map_eq_some_iff.1 isRead
    cases same
    obtain ⟨digits, rfl, -, allDigits, again⟩ := exists_fixedDigits? areDigits
    refine ⟨'+' :: digits, rfl, by simpa using not_mem_point_of_digits allDigits, fun other _ => ?_⟩
    rw [List.cons_append, readYear?_of_plus, again other]
    rfl
  · split at isRead
    · cases isRead
    · next magnitude rest nonzero areDigits =>
      cases isRead
      obtain ⟨digits, rfl, -, allDigits, again⟩ := exists_fixedDigits? areDigits
      obtain ⟨less, rfl⟩ := Nat.exists_eq_succ_of_ne_zero nonzero
      refine ⟨'-' :: digits, rfl, by simpa using not_mem_point_of_digits allDigits,
        fun other _ => ?_⟩
      rw [List.cons_append, readYear?_of_minus, again other]
      rfl
    · cases isRead
  · obtain ⟨⟨magnitude, rest⟩, areDigits, same⟩ := Option.map_eq_some_iff.1 isRead
    cases same
    obtain ⟨digits, rfl, isLength, allDigits, again⟩ := exists_fixedDigits? areDigits
    refine ⟨digits, rfl, not_mem_point_of_digits allDigits, fun other _ => ?_⟩
    match digits with
    | c :: digits =>
      have isYear := again other
      rw [List.cons_append] at isYear ⊢
      rw [readYear?_of_digit (allDigits c List.mem_cons_self), isYear]
      rfl

section Parts

variable {mark : Char} {least greatest part : Nat} {text rest : List Char}

theorem readPart?_of_not_mark (noMark : text.head? ≠ some mark) (least greatest : Nat) :
    readPart? mark least greatest text = some (least, text) := by
  unfold readPart?
  cases text with
  | nil => rfl
  | cons c rest => exact if_neg fun isMark => noMark (congrArg some isMark)

theorem readPart?_of_mark (mark : Char) (least greatest : Nat) (text : List Char) :
    readPart? mark least greatest (mark :: text) =
      (fixedDigits? 2 text).bind fun (part, rest) =>
        if least ≤ part ∧ part ≤ greatest then some (part, rest) else none := by
  unfold readPart?
  exact if_pos rfl

variable (noPoint : mark ≠ '.')

include noPoint

/-- A mark and the two digits behind it are taken whatever follows them. -/
theorem exists_readPart?_of_mark
    (isRead : readPart? mark least greatest (mark :: text) = some (part, rest)) :
    ∃ digits, text = digits ++ rest ∧ '.' ∉ mark :: digits ∧
      ∀ other, readPart? mark least greatest (mark :: (digits ++ other)) = some (part, other) := by
  rw [readPart?_of_mark] at isRead
  obtain ⟨⟨value, after⟩, areDigits, inRange⟩ := Option.bind_eq_some_iff.1 isRead
  obtain ⟨digits, rfl, -, allDigits, again⟩ := exists_fixedDigits? areDigits
  dsimp only at inRange
  split_ifs at inRange with within
  cases inRange
  refine ⟨digits, rfl, ?_, fun other => ?_⟩
  · rw [List.mem_cons, not_or]
    exact ⟨noPoint.symm, not_mem_point_of_digits allDigits⟩
  · rw [readPart?_of_mark, again other]
    exact if_pos within

theorem exists_takes_readPart?
    (isRead : readPart? mark least greatest text = some (part, rest)) :
    ∃ front, text = front ++ rest ∧ Takes (readPart? mark least greatest) front rest part := by
  by_cases isMark : text.head? = some mark
  · obtain ⟨text, rfl⟩ := List.head?_eq_some_iff.1 isMark
    obtain ⟨digits, rfl, free, again⟩ := exists_readPart?_of_mark noPoint isRead
    exact ⟨mark :: digits, rfl, free, fun other _ => again other⟩
  · rw [readPart?_of_not_mark isMark] at isRead
    cases isRead
    refine ⟨[], rfl, List.not_mem_nil, fun other sameHead => ?_⟩
    rw [List.nil_append, readPart?_of_not_mark (sameHead ▸ isMark)]

end Parts

theorem readDate?_eq (text : List Char) :
    readDate? text = (readYear? text).bind fun (year, afterYear) =>
      if afterYear.head? = some '-' then
        (readPart? '-' 1 12 afterYear).bind fun (month, afterMonth) =>
          (readPart? '-' 1 31 afterMonth).map fun (day, rest) => (⟨year, month, day⟩, rest)
      else some (⟨year, 1, 1⟩, afterYear) := by
  unfold readDate?
  refine Option.bind_congr fun ⟨year, afterYear⟩ _ => ?_
  dsimp only
  split
  · rw [List.head?_cons, if_pos rfl]
    refine Option.bind_congr fun ⟨month, afterMonth⟩ _ => ?_
    cases readPart? '-' 1 31 afterMonth <;> rfl
  · next noMark =>
    refine (if_neg fun isMark => ?_).symm
    obtain ⟨tail, rfl⟩ := List.head?_eq_some_iff.1 isMark
    exact noMark tail rfl

theorem head?_append_congr (front : List Char) {other rest : List Char}
    (sameHead : other.head? = rest.head?) : (front ++ other).head? = (front ++ rest).head? := by
  rw [List.head?_append, List.head?_append, sameHead]

theorem exists_takes_readDate? {text rest : List Char} {date : Date}
    (isRead : readDate? text = some (date, rest)) :
    ∃ front, text = front ++ rest ∧ Takes readDate? front rest date := by
  rw [readDate?_eq] at isRead
  obtain ⟨⟨year, afterYear⟩, yearRead, others⟩ := Option.bind_eq_some_iff.1 isRead
  obtain ⟨yearFront, rfl, yearTaken⟩ := exists_takes_readYear? yearRead
  dsimp only at others
  split_ifs at others with isMark
  · obtain ⟨⟨month, afterMonth⟩, monthRead, dayRead⟩ := Option.bind_eq_some_iff.1 others
    obtain ⟨⟨day, afterDay⟩, isDay, isDate⟩ := Option.map_eq_some_iff.1 dayRead
    cases isDate
    obtain ⟨monthFront, rfl, monthTaken⟩ := exists_takes_readPart? (by decide) monthRead
    obtain ⟨dayFront, rfl, dayTaken⟩ := exists_takes_readPart? (by decide) isDay
    refine ⟨yearFront ++ (monthFront ++ dayFront), by simp only [List.append_assoc], ?_, ?_⟩
    · simp only [List.mem_append, not_or]
      exact ⟨yearTaken.noPoint, monthTaken.noPoint, dayTaken.noPoint⟩
    · intro other sameHead
      have dayHead := head?_append_congr dayFront sameHead
      have monthHead := head?_append_congr monthFront dayHead
      rw [List.append_assoc, List.append_assoc, readDate?_eq, yearTaken.again _ monthHead,
        Option.bind_some]
      dsimp only
      rw [if_pos (monthHead.trans isMark), monthTaken.again _ dayHead, Option.bind_some]
      dsimp only
      rw [dayTaken.again _ sameHead]
      rfl
  · cases others
    refine ⟨yearFront, rfl, yearTaken.noPoint, fun other sameHead => ?_⟩
    rw [readDate?_eq, yearTaken.again _ sameHead, Option.bind_some]
    exact if_neg fun isOther => isMark (sameHead ▸ isOther)

/-- A zone has no point. -/
theorem not_mem_point_of_readZone? {text : List Char} {ahead? : Option Int}
    (isRead : readZone? text = some ahead?) : '.' ∉ text := by
  unfold readZone? at isRead
  split at isRead
  · exact List.not_mem_nil
  · decide
  · decide
  · next sign rest _ _ =>
    obtain ⟨⟨hours, afterHours⟩, hoursRead, others⟩ := Option.bind_eq_some_iff.1 isRead
    obtain ⟨⟨minutes, last⟩, minutesRead, others⟩ := Option.bind_eq_some_iff.1 others
    dsimp only at minutesRead others
    obtain ⟨hourDigits, isRest, -, hourDigit, -⟩ := exists_fixedDigits? hoursRead
    obtain ⟨minuteDigits, isMinutes, -, minuteDigit, -⟩ := exists_fixedDigits? minutesRead
    have isSign : sign = '+' ∨ sign = '-' := by
      split_ifs at others with _ isPlus isMinus
      · exact .inl isPlus
      · exact .inr isMinus
    have isEnd : last = [] := by
      split_ifs at others with inRange
      all_goals exact inRange.2.2
    have inHours : '.' ∉ afterHours := by
      intro member
      have inMinutes : '.' ∈ skipColon afterHours := by
        unfold skipColon
        split
        · simpa using member
        · exact member
      rw [isMinutes, isEnd, List.append_nil] at inMinutes
      exact not_mem_point_of_digits minuteDigit inMinutes
    rw [isRest, List.mem_cons, List.mem_append, not_or, not_or]
    refine ⟨?_, not_mem_point_of_digits hourDigit, inHours⟩
    rcases isSign with rfl | rfl <;> decide

/-! ## Fractions -/

/-- One or more digits behind a point. -/
structure AreDecimals (digits : List Char) : Prop where
  nonempty : digits ≠ []
  allDigits : ∀ c ∈ digits, c.isDigit

/-- A fraction of a second in front of what follows it, with the milliseconds that it adds. There may
be none. -/
inductive IsFraction : List Char → List Char → Nat → Prop where
  | none (rest : List Char) : IsFraction [] rest 0
  | decimals {digits rest : List Char} (areDecimals : AreDecimals digits)
      (ends : rest.dropWhile Char.isDigit = rest) :
      IsFraction ('.' :: digits) rest (fractionMillis digits)

theorem IsFraction.lt {fraction rest : List Char} {added : Nat}
    (isFraction : IsFraction fraction rest added) : added < 1000 := by
  cases isFraction with
  | none => decide
  | decimals areDecimals ends => exact fractionMillis_lt areDecimals.allDigits

theorem exists_isFraction_of_readFraction? {text digits rest : List Char}
    (isRead : readFraction? text = some (digits, rest)) :
    ∃ fraction, text = fraction ++ rest ∧ IsFraction fraction rest (fractionMillis digits) := by
  unfold readFraction? at isRead
  split at isRead
  · next text =>
    dsimp only at isRead
    split_ifs at isRead with isEmpty
    cases isRead
    refine ⟨'.' :: text.takeWhile Char.isDigit, ?_, .decimals ⟨isEmpty, ?_⟩ ?_⟩
    · rw [List.cons_append, List.takeWhile_append_dropWhile]
    · exact fun c member => List.mem_takeWhile_imp member
    · exact List.dropWhile_idempotent _ _
  · cases isRead
    exact ⟨[], rfl, .none _⟩

theorem readFraction?_of_not_point {text : List Char} (noPoint : '.' ∉ text) :
    readFraction? text = some ([], text) := by
  unfold readFraction?
  split
  · exact absurd List.mem_cons_self noPoint
  · rfl

/-- The seconds behind hours and minutes, with the digits of a fraction. Without their mark, there are
none of either. -/
def readSeconds? (text : List Char) : Option (Nat × List Char × List Char) :=
  (readPart? ':' 0 59 text).bind fun (second, afterSecond) =>
    (if text.head? = some ':' then readFraction? afterSecond else some ([], text)).map (second, ·)

theorem exists_isFraction_of_readSeconds? {text digits rest : List Char} {second : Nat}
    (isRead : readSeconds? text = some (second, digits, rest)) (noPoint : '.' ∉ rest) :
    ∃ front fraction, text = front ++ fraction ++ rest ∧ '.' ∉ front ∧
      IsFraction fraction rest (fractionMillis digits) ∧
      readSeconds? (front ++ rest) = some (second, [], rest) := by
  have whole := isRead
  unfold readSeconds? at isRead
  obtain ⟨⟨second, afterSecond⟩, secondRead, others⟩ := Option.bind_eq_some_iff.1 isRead
  obtain ⟨⟨digits, rest⟩, fractionRead, same⟩ := Option.map_eq_some_iff.1 others
  cases same
  split_ifs at fractionRead with isMark
  · obtain ⟨secondText, rfl⟩ := List.head?_eq_some_iff.1 isMark
    obtain ⟨secondDigits, rfl, free, again⟩ := exists_readPart?_of_mark (by decide) secondRead
    obtain ⟨fraction, rfl, isFraction⟩ := exists_isFraction_of_readFraction? fractionRead
    refine ⟨':' :: secondDigits, fraction, by simp only [List.append_assoc, List.cons_append], free,
      isFraction, ?_⟩
    unfold readSeconds?
    rw [List.cons_append, again, Option.bind_some]
    dsimp only
    rw [List.head?_cons, if_pos rfl, readFraction?_of_not_point noPoint]
    rfl
  · cases fractionRead
    exact ⟨[], [], rfl, List.not_mem_nil, .none _, whole⟩

theorem readTime?_eq (text : List Char) :
    readTime? text = (fixedDigits? 2 text).bind fun (hour, afterHour) =>
      if afterHour.head? = some ':' then
        (readPart? ':' 0 59 afterHour).bind fun (minute, afterMinute) =>
          (readSeconds? afterMinute).bind fun (second, fraction, rest) =>
            if hour ≤ 23 ∨ (hour = 24 ∧ minute = 0 ∧ second = 0 ∧ fraction.all (· = '0')) then
              some (⟨hour, minute, second, fractionMillis fraction⟩, rest)
            else none
      else none := by
  unfold readTime?
  refine Option.bind_congr fun ⟨hour, afterHour⟩ _ => ?_
  dsimp only
  split
  · rw [List.head?_cons, if_pos rfl]
    refine Option.bind_congr fun ⟨minute, afterMinute⟩ _ => ?_
    unfold readSeconds?
    rw [Option.bind_assoc]
    refine Option.bind_congr fun ⟨second, afterSecond⟩ _ => ?_
    dsimp only
    split
    · rw [List.head?_cons, if_pos rfl]
      cases readFraction? afterSecond <;> rfl
    · next noMark =>
      rw [if_neg]
      · rfl
      · intro isMark
        obtain ⟨tail, rfl⟩ := List.head?_eq_some_iff.1 isMark
        exact noMark tail rfl
  · next noMark =>
    refine (if_neg fun isMark => ?_).symm
    obtain ⟨tail, rfl⟩ := List.head?_eq_some_iff.1 isMark
    exact noMark tail rfl

/-- A time of day is read with a fraction of a second or without it, in front of what has no point. -/
theorem exists_isFraction_of_readTime? {text rest : List Char} {time : TimeOfDay}
    (isRead : readTime? text = some (time, rest)) (noPoint : '.' ∉ rest) :
    ∃ front fraction, text = front ++ fraction ++ rest ∧ '.' ∉ front ∧
      IsFraction fraction rest time.millisecond ∧
      readTime? (front ++ rest) = some ({ time with millisecond := 0 }, rest) := by
  rw [readTime?_eq] at isRead
  obtain ⟨⟨hour, afterHour⟩, hourRead, others⟩ := Option.bind_eq_some_iff.1 isRead
  obtain ⟨hourDigits, rfl, -, hourDigit, hourAgain⟩ := exists_fixedDigits? hourRead
  dsimp only at others
  split_ifs at others with isMark
  obtain ⟨⟨minute, afterMinute⟩, minuteRead, others⟩ := Option.bind_eq_some_iff.1 others
  obtain ⟨⟨second, digits, after⟩, secondsRead, others⟩ := Option.bind_eq_some_iff.1 others
  dsimp only at others secondsRead
  split_ifs at others with inRange
  cases others
  obtain ⟨minuteText, rfl⟩ := List.head?_eq_some_iff.1 isMark
  obtain ⟨minuteDigits, rfl, minuteFree, minuteAgain⟩ :=
    exists_readPart?_of_mark (by decide) minuteRead
  obtain ⟨front, fraction, rfl, frontFree, isFraction, secondsAgain⟩ :=
    exists_isFraction_of_readSeconds? secondsRead noPoint
  have midnight : hour ≤ 23 ∨
      (hour = 24 ∧ minute = 0 ∧ second = 0 ∧ ([] : List Char).all (· = '0')) := by
    rcases inRange with early | ⟨late, isMinute, isSecond, _⟩
    · exact .inl early
    · exact .inr ⟨late, isMinute, isSecond, rfl⟩
  refine ⟨hourDigits ++ ':' :: (minuteDigits ++ front), fraction, ?_, ?_, isFraction, ?_⟩
  · simp only [List.append_assoc, List.cons_append]
  · simp only [List.mem_append, List.mem_cons, not_or] at minuteFree ⊢
    exact ⟨not_mem_point_of_digits hourDigit, minuteFree.1, minuteFree.2, frontFree⟩
  · rw [List.append_assoc, List.cons_append, List.append_assoc, readTime?_eq, hourAgain,
      Option.bind_some]
    dsimp only
    rw [List.head?_cons, if_pos rfl, minuteAgain, Option.bind_some]
    dsimp only
    rw [secondsAgain, Option.bind_some]
    dsimp only
    rw [if_pos midnight]
    rfl

/-! ## Times -/

/-- The time of day behind a date, and the minutes ahead of universal time that are given, if any
are. -/
def readMoment? : List Char → Option (TimeOfDay × Option Int)
  | [] => some (⟨0, 0, 0, 0⟩, some 0)
  | mark :: text =>
    if mark = 'T' ∨ mark = 't' then
      (readTime? text).bind fun (time, zone) => (readZone? zone).map (time, ·)
    else none

theorem millis?_eq (zone : LocalZone) (text : List Char) :
    millis? zone text = (readDate? text).bind fun (date, rest) =>
      (readMoment? rest).bind fun (time, ahead?) =>
        inRange? (zone.resolve (date.daysSinceEpoch * 86400000 + time.millis) ahead?) := by
  unfold millis?
  refine Option.bind_congr fun ⟨date, rest⟩ _ => ?_
  cases rest with
  | nil => rfl
  | cons mark rest =>
    unfold readMoment?
    dsimp only
    split
    · cases readTime? rest with
      | none => rfl
      | some read =>
        obtain ⟨time, zoneText⟩ := read
        simp only [Option.bind_eq_bind, Option.bind_some]
        cases readZone? zoneText <;> rfl
    · rfl

theorem exists_isFraction_of_readMoment? {text : List Char} {time : TimeOfDay}
    {ahead? : Option Int} (isRead : readMoment? text = some (time, ahead?)) :
    ∃ front fraction zone, text = front ++ fraction ++ zone ∧ '.' ∉ front ∧ '.' ∉ zone ∧
      IsFraction fraction zone time.millisecond ∧ (front ++ zone).head? = text.head? ∧
      readMoment? (front ++ zone) = some ({ time with millisecond := 0 }, ahead?) := by
  cases text with
  | nil =>
    cases isRead
    exact ⟨[], [], [], rfl, List.not_mem_nil, List.not_mem_nil, .none _, rfl, rfl⟩
  | cons mark text =>
    unfold readMoment? at isRead
    dsimp only at isRead
    split_ifs at isRead with isMark
    obtain ⟨⟨time, zone⟩, timeRead, others⟩ := Option.bind_eq_some_iff.1 isRead
    obtain ⟨ahead?, zoneRead, same⟩ := Option.map_eq_some_iff.1 others
    cases same
    have zoneFree := not_mem_point_of_readZone? zoneRead
    obtain ⟨front, fraction, rfl, frontFree, isFraction, again⟩ :=
      exists_isFraction_of_readTime? timeRead zoneFree
    have markFree : '.' ≠ mark := by
      rcases isMark with rfl | rfl <;> decide
    refine ⟨mark :: front, fraction, zone, by simp only [List.cons_append], ?_, zoneFree,
      isFraction, rfl, ?_⟩
    · rw [List.mem_cons, not_or]
      exact ⟨markFree, frontFree⟩
    · rw [List.cons_append]
      unfold readMoment?
      dsimp only
      rw [if_pos isMark, again, Option.bind_some]
      dsimp only
      rw [zoneRead]
      rfl

theorem inRange?_eq_some {millis found : Int} :
    inRange? millis = some found ↔
      millis = found ∧ -latestMillis ≤ millis ∧ millis ≤ latestMillis := by
  unfold inRange?
  split_ifs with inRange
  · rw [Option.some.injEq]
    exact ⟨fun same => ⟨same, inRange⟩, fun same => same.1⟩
  · constructor
    · intro found
      cases found
    · rintro ⟨-, within⟩
      exact absurd within inRange

/-- Whole seconds are the last ones that begin before a time. -/
theorem wholeSeconds_eq_iff {millis seconds : Int} :
    wholeSeconds millis = seconds ↔ seconds * 1000 ≤ millis ∧ millis < seconds * 1000 + 1000 := by
  unfold wholeSeconds
  rw [Int.fdiv_eq_ediv_of_nonneg _ (by decide)]
  omega

/-- The last whole second of a time is a time as well. -/
theorem inRange?_of_added {seconds millis : Int} {added : Nat} (small : added < 1000)
    (inRange : inRange? (seconds * 1000 + added) = some millis) :
    inRange? (seconds * 1000) = some (wholeSeconds millis * 1000) := by
  obtain ⟨rfl, fromBelow, fromAbove⟩ := inRange?_eq_some.1 inRange
  have isSeconds : wholeSeconds (seconds * 1000 + added) = seconds :=
    wholeSeconds_eq_iff.2 (by omega)
  rw [isSeconds, inRange?_eq_some]
  unfold latestMillis at fromBelow fromAbove ⊢
  omega

/-- The clocks of a zone show a time of the same second as universal time does. -/
theorem LocalZone.exists_resolve (zone : LocalZone) (seconds : Int) (ahead? : Option Int) :
    ∃ resolved : Int, ∀ added : Nat, added < 1000 →
      zone.resolve (seconds * 1000 + added) ahead? = resolved * 1000 + added := by
  cases ahead? with
  | some minutes =>
    refine ⟨seconds - minutes * 60, fun added _ => ?_⟩
    unfold resolve
    dsimp only
    omega
  | none =>
    refine ⟨seconds - zone.secondsAhead seconds, fun added small => ?_⟩
    have isSecond : wholeSeconds (seconds * 1000 + added) = seconds :=
      wholeSeconds_eq_iff.2 (by omega)
    unfold resolve toUniversal
    dsimp only
    rw [isSecond]
    omega

/-- Everything but the milliseconds of a time of day makes whole seconds. -/
theorem exists_seconds (date : Date) (time : TimeOfDay) :
    ∃ seconds : Int, ∀ added : Nat,
      date.daysSinceEpoch * 86400000 + TimeOfDay.millis { time with millisecond := added } =
        seconds * 1000 + added := by
  refine ⟨date.daysSinceEpoch * 86400 + ((time.hour * 60 + time.minute) * 60 + time.second),
    fun added => ?_⟩
  unfold TimeOfDay.millis
  dsimp only
  omega

/-- Without its fraction of a second, a text names the beginning of the second that it lies in. -/
theorem exists_isFraction_of_millis? {zone : LocalZone} {text : List Char} {millis : Int}
    (accepted : millis? zone text = some millis) :
    ∃ front fraction rest added, text = front ++ fraction ++ rest ∧ '.' ∉ front ∧ '.' ∉ rest ∧
      IsFraction fraction rest added ∧
      millis? zone (front ++ rest) = some (wholeSeconds millis * 1000) := by
  rw [millis?_eq] at accepted
  obtain ⟨⟨date, rest⟩, dateRead, others⟩ := Option.bind_eq_some_iff.1 accepted
  obtain ⟨⟨time, ahead?⟩, momentRead, inRange⟩ := Option.bind_eq_some_iff.1 others
  obtain ⟨dateFront, rfl, dateTaken⟩ := exists_takes_readDate? dateRead
  obtain ⟨front, fraction, rest, rfl, frontFree, restFree, isFraction, sameHead, again⟩ :=
    exists_isFraction_of_readMoment? momentRead
  obtain ⟨seconds, isWhole⟩ := exists_seconds date time
  obtain ⟨resolved, isResolved⟩ := zone.exists_resolve seconds ahead?
  refine ⟨dateFront ++ front, fraction, rest, time.millisecond, ?_, ?_, restFree, isFraction, ?_⟩
  · simp only [List.append_assoc]
  · rw [List.mem_append, not_or]
    exact ⟨dateTaken.noPoint, frontFree⟩
  · have added := isResolved time.millisecond isFraction.lt
    have notAdded := isResolved 0 (by decide)
    rw [← isWhole] at added notAdded
    rw [Nat.cast_zero, Int.add_zero] at notAdded
    rw [List.append_assoc, millis?_eq, dateTaken.again _ sameHead, Option.bind_some]
    dsimp only at inRange ⊢
    rw [again, Option.bind_some]
    dsimp only
    rw [notAdded]
    exact inRange?_of_added isFraction.lt (added ▸ inRange)

end ClusterAgent.Calendar
