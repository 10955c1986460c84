import Passbook.Proofs.Months
import Passbook.Proofs.Texts
import Passbook.Proofs.Turns
import Passbook.Time.Reader

/-! An instant is read back from the texts that are written of it. Each numeral is as wide as the reader takes it to be, the parts of a
date on the calendar give back its day, and the parts of a time of day its microseconds. -/
namespace Passbook
open Time

namespace Text

theorem isDigit_digit : ∀ d < 10, isDigit (Char.ofNat (48 + d)) = true := by decide

theorem digitValue_digit : ∀ d < 10, digitValue (Char.ofNat (48 + d)) = d := by decide

theorem isDigit_of_mem_digits {width n : Nat} {c : Char} (among : c ∈ digits width n) : isDigit c = true := by
  induction width generalizing n with
  | zero => cases among
  | succ width ih =>
    rw [digits, List.mem_append, List.mem_singleton] at among
    rcases among with among | rfl
    · exact ih among
    · exact isDigit_digit _ (Nat.mod_lt n (by decide))

theorem ofDigits_digits {width n : Nat} (room : n < 10 ^ width) : ofDigits (digits width n) = n := by
  induction width generalizing n with
  | zero =>
    have : n = 0 := by omega
    rw [this]
    rfl
  | succ width ih =>
    have rest : ofDigits (digits width (n / 10)) = n / 10 := ih (by omega)
    have last := digitValue_digit (n % 10) (Nat.mod_lt n (by decide))
    unfold ofDigits at rest ⊢
    rw [digits, List.foldl_append, rest, List.foldl_cons, List.foldl_nil, last]
    omega

end Text

namespace Time

theorem readDigits_digits {width n : Nat} (room : n < 10 ^ width) (rest : List Char) :
    readDigits width (Text.digits width n ++ rest) = some (n, rest) := by
  have length := Text.length_digits width n
  have head : (Text.digits width n ++ rest).take width = Text.digits width n := List.take_left' length
  have tail : (Text.digits width n ++ rest).drop width = rest := List.drop_left' length
  have all : (Text.digits width n).all Text.isDigit = true := List.all_eq_true.mpr fun _ => Text.isDigit_of_mem_digits
  simp only [readDigits, head, tail, length, all, Text.ofDigits_digits room, and_self, if_true]

def dateChars (d : Date) : List Char := Text.digits 4 d.year ++ '-' :: (Text.digits 2 d.month ++ '-' :: Text.digits 2 d.day)

def timeChars (hour minute second : Nat) (rest : List Char) : List Char :=
  Text.digits 2 hour ++ ':' :: (Text.digits 2 minute ++ ':' :: (Text.digits 2 second ++ rest))

section
variable {d : Date} {n hour minute second micro : Nat}

theorem digits_append_eq_cons (width n : Nat) (rest : List Char) :
    ∃ c tail, Text.digits (width + 1) n ++ rest = c :: tail ∧ Text.isDigit c = true := by
  cases shape : Text.digits (width + 1) n with
  | nil => cases (Text.length_digits (width + 1) n).symm.trans (congrArg List.length shape)
  | cons c tail => exact ⟨c, tail ++ rest, rfl, Text.isDigit_of_mem_digits (shape ▸ List.mem_cons_self)⟩

theorem readDate_dateChars (year : d.year < 10 ^ 4) (month : d.month < 10 ^ 2) (day : d.day < 10 ^ 2) (rest : List Char) (width : Nat) :
    readDate (dateChars d ++ rest) width = some ⟨d.year, d.month, d.day⟩ := by
  have noWeek : (Text.digits 2 d.month ++ '-' :: (Text.digits 2 d.day ++ rest)).head? ≠ some 'W' := by
    obtain ⟨c, tail, shape, digit⟩ := digits_append_eq_cons 1 d.month ('-' :: (Text.digits 2 d.day ++ rest))
    rw [shape, List.head?_cons]
    intro same
    cases same
    cases digit
  simp only [dateChars, List.append_assoc, List.cons_append]
  unfold readDate
  rw [readDigits_digits year]
  simp only [bind, Option.bind_some, List.head?_cons, if_true, List.drop_one, List.tail_cons, noWeek, if_false, ne_eq,
    readDigits_digits month, readDigits_digits day, not_true_eq_false, and_false]
  rfl

theorem readParts_colon (room : n < 10 ^ 2) (t : WrittenTime) {i : Nat} {colons : Bool} (on : i = 0 ∨ colons = true) (left : Nat)
    {next : List Char} (more : next ≠ []) :
    readParts t i colons (left + 1) (Text.digits 2 n ++ ':' :: next) = readParts (setPart t i n) (i + 1) true left next := by
  obtain ⟨c, rest, rfl⟩ := List.exists_cons_of_ne_nil more
  rw [readParts, readDigits_digits room]
  rcases on with rfl | rfl
  · rfl
  · simp only [bind, Option.bind_some, beq_self_eq_true, ite_self, Bool.and_self, if_true]

theorem readParts_last (room : n < 10 ^ 2) (t : WrittenTime) (i : Nat) (colons : Bool) (left : Nat) :
    readParts t i colons (left + 1) (Text.digits 2 n) = some (setPart t i n) := by
  have read := readDigits_digits room []
  rw [List.append_nil] at read
  rw [readParts, read]
  rfl

theorem readParts_fraction (room : n < 10 ^ 2) (small : micro < 10 ^ 6) (t : WrittenTime) {i : Nat} (inside : i ≠ 0) (left : Nat) :
    readParts t i true (left + 1) (Text.digits 2 n ++ '.' :: Text.digits 6 micro) =
      some { setPart t i n with micro, leftover := false } := by
  have length := Text.length_digits 6 micro
  have read := readDigits_digits small []
  rw [List.append_nil] at read
  obtain ⟨c, rest, shape, _⟩ := digits_append_eq_cons 5 micro []
  rw [List.append_nil] at shape
  have fraction (t : WrittenTime) : readFraction t (Text.digits 6 micro) = some { t with micro, leftover := false } := by
    simp [readFraction, length, read]
  rw [readParts, readDigits_digits room, shape]
  simp only [bind, Option.bind_some, inside, if_false]
  rw [← shape, fraction]
  rfl

/-- What may stand behind the seconds: nothing, or a fraction of six digits. -/
def IsFraction (micro : Nat) (chars : List Char) : Prop := chars = [] ∧ micro = 0 ∨ chars = '.' :: Text.digits 6 micro

variable {fraction : List Char}

theorem readTimeOfDay_timeChars (hours : hour < 10 ^ 2) (minutes : minute < 10 ^ 2) (seconds : second < 10 ^ 2) (micros : micro < 10 ^ 6)
    (written : IsFraction micro fraction) :
    readTimeOfDay (timeChars hour minute second fraction) = some ⟨hour, minute, second, micro, false⟩ := by
  have more (n : Nat) (rest : List Char) : Text.digits 2 n ++ rest ≠ [] := List.append_ne_nil_of_left_ne_nil (by simp [Text.digits]) _
  unfold readTimeOfDay timeChars
  rw [readParts_colon hours _ (.inl rfl) _ (more _ _), readParts_colon minutes _ (.inr rfl) _ (more _ _)]
  rcases written with ⟨rfl, rfl⟩ | rfl
  · rw [List.append_nil, readParts_last seconds]
    rfl
  · rw [readParts_fraction seconds micros _ (by decide)]
    rfl

theorem startsZone_of_mem_timeChars (written : IsFraction micro fraction) {c : Char} (among : c ∈ timeChars hour minute second fraction) :
    startsZone c = false := by
  have ofDigit (digit : Text.isDigit c = true) : startsZone c = false := by
    simp only [startsZone, Bool.or_eq_false_iff, beq_eq_false_iff_ne]
    refine ⟨⟨?_, ?_⟩, ?_⟩ <;> rintro rfl <;> cases digit
  have inFraction (among : c ∈ fraction) : startsZone c = false := by
    rcases written with ⟨rfl, _⟩ | rfl
    · cases among
    · rcases List.mem_cons.mp among with rfl | among
      · rfl
      · exact ofDigit (Text.isDigit_of_mem_digits among)
  simp only [timeChars, List.mem_append, List.mem_cons] at among
  rcases among with among | rfl | among | rfl | among | among
  · exact ofDigit (Text.isDigit_of_mem_digits among)
  · rfl
  · exact ofDigit (Text.isDigit_of_mem_digits among)
  · rfl
  · exact ofDigit (Text.isDigit_of_mem_digits among)
  · exact inFraction among

def zoneChars : List Char := '+' :: (Text.digits 2 0 ++ ':' :: Text.digits 2 0)

/-- What may stand behind a time of day to say that it is one of universal time. -/
def IsZone (chars : List Char) : Prop := chars = zoneChars ∨ chars = ['Z']

variable {zone : List Char}

theorem readTime_timeChars (hours : hour < 10 ^ 2) (minutes : minute < 10 ^ 2) (seconds : second < 10 ^ 2) (micros : micro < 10 ^ 6)
    (written : IsFraction micro fraction) (marked : IsZone zone) :
    readTime (timeChars hour minute second fraction ++ zone) = some (⟨hour, minute, second, micro, false⟩, some (0, 0)) := by
  have outside : ∀ c ∈ timeChars hour minute second fraction, (!startsZone c) = true := by
    intro c among
    rw [startsZone_of_mem_timeChars written among]
    rfl
  have before : (timeChars hour minute second fraction ++ zone).takeWhile (fun c => !startsZone c) =
      timeChars hour minute second fraction := by
    rw [List.takeWhile_append_of_pos outside]
    rcases marked with rfl | rfl <;> exact List.append_nil _
  have behind : (timeChars hour minute second fraction ++ zone).dropWhile (fun c => !startsZone c) = zone := by
    rw [List.dropWhile_append_of_pos outside]
    rcases marked with rfl | rfl <;> rfl
  unfold readTime
  rw [before, behind, readTimeOfDay_timeChars hours minutes seconds micros written]
  rcases marked with rfl | rfl <;> rfl

theorem length_dateChars (d : Date) : (dateChars d).length = 10 := by
  simp [dateChars, Text.length_digits]

theorem dateWidth?_dateChars (d : Date) (rest : List Char) : dateWidth? (dateChars d ++ rest) = some 10 := by
  have length : (dateChars d ++ rest).length ≠ 7 := by
    rw [List.length_append, length_dateChars]
    omega
  have hyphen : isAt (dateChars d ++ rest) 4 '-' = true := by
    rw [isAt, dateChars, List.append_assoc, List.getElem?_append_right (Text.length_digits 4 _).le, Text.length_digits]
    rfl
  have noWeek : isAt (dateChars d ++ rest) 5 'W' = false := by
    obtain ⟨c, tail, shape, digit⟩ := digits_append_eq_cons 1 d.month ('-' :: Text.digits 2 d.day)
    have behind : (Text.digits 4 d.year).length ≤ 5 := by
      rw [Text.length_digits]
      decide
    rw [isAt, dateChars, shape, List.append_assoc, List.getElem?_append_right behind, Text.length_digits]
    refine beq_eq_false_iff_ne.mpr fun same => ?_
    cases same
    cases digit
  simp only [dateWidth?, length, if_false, hyphen, noWeek, if_true, Bool.false_eq_true]

theorem readParted_chars (year : d.year < 10 ^ 4) (month : d.month < 10 ^ 2) (day : d.day < 10 ^ 2) (hours : hour < 10 ^ 2)
    (minutes : minute < 10 ^ 2) (seconds : second < 10 ^ 2) (micros : micro < 10 ^ 6) (written : IsFraction micro fraction)
    (marked : IsZone zone) :
    readParted (dateChars d ++ 'T' :: (timeChars hour minute second fraction ++ zone)) =
      some (⟨d.year, d.month, d.day⟩, ⟨hour, minute, second, micro, false⟩, some (0, 0)) := by
  have after : (dateChars d ++ 'T' :: (timeChars hour minute second fraction ++ zone)).drop 10 =
      'T' :: (timeChars hour minute second fraction ++ zone) := List.drop_left' (length_dateChars d)
  unfold readParted
  rw [dateWidth?_dateChars]
  simp only [bind, Option.bind_some, readDate_dateChars year month day, after]
  have width : separatorWidth ('T' :: (timeChars hour minute second fraction ++ zone)) = 1 := rfl
  rw [width, List.drop_one, List.tail_cons, readTime_timeChars hours minutes seconds micros written marked]
  rfl

end

theorem Reading.ofText_of_ascii {text : String} (ascii : Text.Ascii text) (long : 7 ≤ text.toList.length) {d : WrittenDate}
    {t : WrittenTime} {zone : Option (Int × Int)} (parted : readParted text.toList = some (d, t, zone)) :
    Reading.ofText text = (do
      let offset ← offsetOf zone
      let wall ← Reading.wallOf d.year d.month d.day t.hour t.minute t.second t.micro
      return ⟨wall, offset⟩) := by
  have codes : Text.codes text = text.toList.map Char.toNat := Text.Plain.codesOf_eq ascii.plain
  have whole : ∀ code ∈ Text.codes text, Text.isHalf code = false := by
    intro code among
    rw [codes] at among
    obtain ⟨c, _, rfl⟩ := List.mem_map.mp among
    exact Text.Plain.isHalf_toNat c
  have plain : plainSeparator (Text.codes text) = Text.codes text := by
    have nowhere : separatorPlaces.find? (fun i => ((Text.codes text)[i]?.map Text.isHalf).getD false) = none := by
      refine List.find?_eq_none.mpr fun i _ half => ?_
      cases there : (Text.codes text)[i]? with
      | none =>
        rw [there] at half
        cases half
      | some code =>
        rw [there, Option.map_some, whole code (List.mem_of_getElem? there)] at half
        cases half
    unfold plainSeparator
    rw [nowhere]
  have chars : ((Text.codes text).flatMap Text.bytesOfCode).map Char.ofNat = text.toList := by
    have bytes := ascii.utf8Bytes_eq
    unfold Text.utf8Bytes at bytes
    rw [bytes, codes, List.map_map]
    refine List.map_id'' ?_ _
    exact Char.ofNat_toNat
  have enough : ¬ ((Text.codes text).length < 7 ∨ (Text.codes text).any Text.isHalf = true) := by
    rw [not_or, List.any_eq_true, codes, List.length_map]
    refine ⟨by omega, ?_⟩
    rintro ⟨code, among, half⟩
    rw [← codes] at among
    rw [whole code among] at half
    cases half
  unfold Reading.ofText
  simp only [plain, enough, if_false, chars, parted]

namespace Date

theorem locate_inside {lengths : List Nat} {n : Nat} (inside : n < lengths.sum) (month : Nat) :
    ∃ length, lengths[(locate month lengths n).1 - month]? = some length ∧ (locate month lengths n).2 ≤ length := by
  induction lengths generalizing month n with
  | nil => exact absurd inside (Nat.not_lt_zero n)
  | cons first lengths ih =>
    rw [List.sum_cons] at inside
    unfold locate
    split
    · rename_i here
      refine ⟨first, ?_, here⟩
      rw [Nat.sub_self]
      rfl
    · obtain ⟨length, there, within⟩ := ih (by omega : n - first < lengths.sum) (month + 1)
      have later := locate_ge (month + 1) lengths (n - first)
      have behind : (locate (month + 1) lengths (n - first)).1 - month = (locate (month + 1) lengths (n - first)).1 - (month + 1) + 1 := by
        omega
      refine ⟨length, ?_, within⟩
      rw [behind, List.getElem?_cons_succ]
      exact there

theorem ofDayNumber_isValid (n : Nat) : (ofDayNumber n).IsValid := by
  have low : 1 ≤ (ofDayNumber n).month := (month_ofDayNumber n).symm ▸ locate_ge 1 _ _
  have early : 1 ≤ (ofDayNumber n).day := (day_ofDayNumber n).symm ▸ one_le_locate 1 _ _
  obtain ⟨length, there, within⟩ := locate_inside (placeInYear_lt_sum n) 1
  rw [← month_ofDayNumber, monthLengths_getElem? _ low (month_le_twelve n)] at there
  cases there
  exact ⟨Nat.le_add_left 1 _, low, month_le_twelve n, early, within⟩

theorem dayNumber_ofDayNumber (n : Nat) : (ofDayNumber n).dayNumber = n := by
  -- Both days have the same date, and of two days the later has the later date.
  have same := ofDayNumber_dayNumber (ofDayNumber_isValid n)
  have apart {m n : Nat} (below : m < n) : ofDayNumber m ≠ ofDayNumber n := by
    intro equal
    have precedes := ofDayNumber_precedes below
    rw [equal] at precedes
    simp only [Precedes, and_false, or_false] at precedes
    omega
  rcases Nat.lt_trichotomy (ofDayNumber n).dayNumber n with below | equal | above
  · exact absurd same (apart below)
  · exact equal
  · exact absurd same.symm (apart above)

end Date

theorem Reading.wallOf_of_isValid {d : Date} {hour minute second micro : Nat} (valid : d.IsValid) (last : d.year ≤ 9999)
    (hours : hour < 24) (minutes : minute < 60) (seconds : second < 60) (micros : micro < 1000000) :
    wallOf d.year d.month d.day hour minute second micro =
      match Instant.ofMicros? (d.dayNumber * 86400000000 + ((hour * 60 + minute) * 60 + second) * 1000000 + micro) with
      | some i => .ok i
      | none => .error .unreachable := by
  obtain ⟨start, low, high, early, late⟩ := valid
  have short (leap : Bool) : ∀ length ∈ monthLengths leap, length ≤ 31 := by cases leap <;> decide
  have month := short _ _ (List.mem_of_getElem? (Date.monthLengths_getElem? d.year low high))
  have sized {n : Nat} (small : n < 1000000) : ¬ ((n : Int) < -0x80000000 ∨ 0x80000000 ≤ (n : Int)) := by omega
  have inYears : ¬ ((d.year : Int) < 1 ∨ 9999 < (d.year : Int)) := by omega
  have inMonth : ¬ ((d.day : Int) < 1 ∨ monthLength d.year d.month < d.day) := by omega
  have inside {which : Part} {n : Nat} (within : which.bounds.1 ≤ n ∧ n ≤ which.bounds.2) : check which n = .ok () := if_pos within
  have hour_ : check .hour hour = .ok () := inside ⟨Int.natCast_nonneg _, show (hour : Int) ≤ 23 by omega⟩
  have minute_ : check .minute minute = .ok () := inside ⟨Int.natCast_nonneg _, show (minute : Int) ≤ 59 by omega⟩
  have second_ : check .second second = .ok () := inside ⟨Int.natCast_nonneg _, show (second : Int) ≤ 59 by omega⟩
  have micro_ : check .microsecond micro = .ok () := inside ⟨Int.natCast_nonneg _, show (micro : Int) ≤ 999999 by omega⟩
  have month_ : check .month d.month = .ok () :=
    inside ⟨show (1 : Int) ≤ d.month by omega, show (d.month : Int) ≤ 12 by omega⟩
  unfold wallOf
  simp only [List.forIn_cons, List.forIn_nil, sized (by omega : d.year < 1000000), sized (by omega : d.month < 1000000),
    sized (by omega : d.day < 1000000), sized (by omega : hour < 1000000), sized (by omega : minute < 1000000),
    sized (by omega : second < 1000000), sized micros, inYears, inMonth, hour_, minute_, second_, micro_, month_, if_false,
    Int.toNat_natCast]
  have same : Date.mk d.year d.month d.day = d := rfl
  rw [same]
  generalize Instant.ofMicros? (d.dayNumber * 86400000000 + ((hour * 60 + minute) * 60 + second) * 1000000 + micro) = instant
  cases instant <;> rfl

namespace Instant
variable (i : Instant)

theorem date_isValid : i.date.IsValid := Date.ofDayNumber_isValid _

theorem wallOf_numbers :
    Reading.wallOf i.date.year i.date.month i.date.day (i.timeOfDay / 1000000 / 3600 : Nat) (i.timeOfDay / 1000000 / 60 % 60 : Nat)
      (i.timeOfDay / 1000000 % 60 : Nat) i.microsecond = .ok i := by
  have time := i.timeOfDay_lt
  have micro : i.microsecond = i.timeOfDay % 1000000 := (Nat.mod_mod_of_dvd i.micros (by decide)).symm
  have day : i.date.dayNumber = i.micros / microsPerDay := Date.dayNumber_ofDayNumber _
  have parts : i.micros = i.micros / microsPerDay * microsPerDay + i.timeOfDay := (Nat.div_add_mod' i.micros microsPerDay).symm
  have whole : (i.date.dayNumber * 86400000000 + (((i.timeOfDay / 1000000 / 3600 : Nat) * 60 +
      (i.timeOfDay / 1000000 / 60 % 60 : Nat)) * 60 + (i.timeOfDay / 1000000 % 60 : Nat)) * 1000000 + i.microsecond : Int) =
      i.micros := by
    rw [day, micro]
    unfold microsPerDay at parts ⊢
    omega
  have there : ofMicros? i.micros = some i := dif_pos ⟨Int.natCast_nonneg _, i.inSpan⟩
  rw [Reading.wallOf_of_isValid i.date_isValid i.year_le (by omega) (by omega) (by omega) (by omega), whole, there]

theorem secondsChars_append (fraction : List Char) :
    i.secondsChars ++ fraction = dateChars i.date ++ 'T' ::
      timeChars (i.timeOfDay / 1000000 / 3600) (i.timeOfDay / 1000000 / 60 % 60) (i.timeOfDay / 1000000 % 60) fraction := by
  simp only [secondsChars, dateChars, timeChars, List.append_assoc, List.cons_append]

theorem chars_ascii {fraction zone : List Char} (written : IsFraction i.microsecond fraction) (marked : IsZone zone) :
    Text.Ascii (String.ofList (i.secondsChars ++ fraction ++ zone)) := by
  have digits (width n : Nat) : ∀ c ∈ Text.digits width n, c.toNat < 0x80 := by
    intro c among
    have digit := Text.isDigit_of_mem_digits among
    simp only [Text.isDigit, Bool.and_eq_true, decide_eq_true_eq] at digit
    exact Nat.lt_of_le_of_lt (Char.le_def.mp digit.2) (by decide)
  have inFraction : ∀ c ∈ fraction, c.toNat < 0x80 := by
    rcases written with ⟨rfl, _⟩ | rfl
    · exact fun c among => nomatch among
    · exact List.forall_mem_cons.mpr ⟨by decide, digits _ _⟩
  have inZone : ∀ c ∈ zone, c.toNat < 0x80 := by
    rcases marked with rfl | rfl
    · simp only [zoneChars, List.forall_mem_cons, List.forall_mem_append]
      exact ⟨by decide, digits _ _, by decide, digits _ _⟩
    · simp
  simp only [Text.Ascii, String.toList_ofList, secondsChars, List.forall_mem_append, List.forall_mem_cons]
  and_intros <;> first | exact digits _ _ | exact inFraction | exact inZone | decide

/-- With or without a fraction of zeros, what is written of an instant is read as the instant. -/
theorem ofText_chars {fraction zone : List Char} (written : IsFraction i.microsecond fraction) (marked : IsZone zone) :
    Reading.ofText (String.ofList (i.secondsChars ++ fraction ++ zone)) = .ok (.universal i) := by
  have time := i.timeOfDay_lt
  have year : i.date.year < 10 ^ 4 := Nat.lt_succ_of_le i.year_le
  have month : i.date.month < 10 ^ 2 := Date.month_ofDayNumber_lt _
  have day : i.date.day < 10 ^ 2 := Date.day_ofDayNumber_lt _
  have hour : i.timeOfDay / 1000000 / 3600 < 10 ^ 2 := by omega
  have minute : i.timeOfDay / 1000000 / 60 % 60 < 10 ^ 2 := by omega
  have second : i.timeOfDay / 1000000 % 60 < 10 ^ 2 := by omega
  have micro : i.microsecond < 10 ^ 6 := Nat.mod_lt _ (by decide)
  have chars : (String.ofList (i.secondsChars ++ fraction ++ zone)).toList = dateChars i.date ++ 'T' ::
      (timeChars (i.timeOfDay / 1000000 / 3600) (i.timeOfDay / 1000000 / 60 % 60) (i.timeOfDay / 1000000 % 60) fraction ++ zone) := by
    rw [String.toList_ofList, secondsChars_append, List.append_assoc, List.cons_append]
  have long : 7 ≤ (String.ofList (i.secondsChars ++ fraction ++ zone)).toList.length := by
    rw [chars, List.length_append, length_dateChars]
    omega
  have parted := readParted_chars year month day hour minute second micro written marked
  rw [← chars] at parted
  rw [Reading.ofText_of_ascii (i.chars_ascii written marked) long parted]
  simp only [i.wallOf_numbers]
  rfl

theorem briefChars_isFraction : ∃ fraction, IsFraction i.microsecond fraction ∧ i.briefChars = i.secondsChars ++ fraction := by
  by_cases whole : i.microsecond = 0
  · exact ⟨[], .inl ⟨rfl, whole⟩, (if_pos whole).trans (List.append_nil _).symm⟩
  · exact ⟨i.fractionChars, .inr rfl, if_neg whole⟩

theorem ofText_stamp : Reading.ofText i.stamp = .ok (.universal i) := i.ofText_chars (.inr rfl) (.inl rfl)

theorem ofText_text : Reading.ofText (Reading.universal i).text = .ok (.universal i) := by
  have zone : ((Reading.universal i).offset.map Offset.chars).getD [] = zoneChars := rfl
  obtain ⟨fraction, written, brief⟩ := i.briefChars_isFraction
  unfold Reading.text
  rw [zone]
  exact brief ▸ i.ofText_chars written (.inl rfl)

theorem ofText_zuluText : Reading.ofText i.zuluText = .ok (.universal i) := by
  obtain ⟨fraction, written, brief⟩ := i.briefChars_isFraction
  unfold zuluText
  exact brief ▸ i.ofText_chars written (.inr rfl)

end Instant

end Time
end Passbook
