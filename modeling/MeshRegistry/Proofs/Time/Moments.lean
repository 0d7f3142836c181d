import Mathlib.Data.List.Lex
import Mathlib.Data.String.Basic
import MeshRegistry.Proofs.Json.Numerals
import MeshRegistry.Proofs.Time.Calendar
import MeshRegistry.Time.Instant

/-!
# Reading an instant back

The text of an instant is a date and a time of day in fields of fixed width, and only years past 9999
are longer and have a sign.  A reader of this form finds the instant again, and texts without a sign
are in the order of the instants.
-/

namespace MeshRegistry.Time

/-! ## Numbers of a fixed width -/

theorem length_padded {width n : Nat} (hwidth : 0 < width) (hn : n < 10 ^ width) :
    (padded width n).length = width := by
  have hdigits := (Nat.length_toDigits_le_iff (b := 10) (by decide) hwidth).2 hn
  rw [padded, List.length_append, List.length_replicate]
  omega

theorem isDigit_of_mem_padded {width n : Nat} : ∀ c ∈ padded width n, c.isDigit = true := by
  intro c hc
  rw [padded, List.mem_append, List.mem_replicate] at hc
  rcases hc with ⟨-, rfl⟩ | hc
  · rfl
  · exact Json.isDigit_of_mem_toDigits c hc

theorem ofDigitChars_padded (width n : Nat) : Nat.ofDigitChars 10 (padded width n) 0 = n := by
  rw [padded, Nat.ofDigitChars_append, Nat.ofDigitChars_replicate_zero, Nat.mul_zero,
    Nat.ofDigitChars_ten_toDigits]

/-- The last digit of a number is what is left when it is divided by ten. -/
theorem padded_succ {width : Nat} (hwidth : 0 < width) (n : Nat) :
    padded (width + 1) n = padded width (n / 10) ++ [(n % 10).digitChar] := by
  by_cases hn : n < 10
  · rw [padded, padded, Nat.toDigits_of_lt_base hn, Nat.div_eq_of_lt hn, Nat.mod_eq_of_lt hn,
      Nat.toDigits_zero, ← List.replicate_succ']
    simp only [List.length_singleton, Nat.add_sub_cancel, Nat.sub_add_cancel hwidth]
  · rw [padded, padded, Nat.toDigits_of_base_le (by decide) (Nat.le_of_not_lt hn),
      List.length_append, List.length_singleton, Nat.add_sub_add_right, List.append_assoc]

theorem digitChar_lt : ∀ b < 10, ∀ a < b, a.digitChar < b.digitChar := by
  decide

/-- A smaller number comes first, whatever stands behind. -/
theorem padded_append_lt {width x y : Nat} (hwidth : 0 < width) (hy : y < 10 ^ width)
    (h : x < y) (s t : List Char) : padded width x ++ s < padded width y ++ t := by
  induction width, hwidth using Nat.le_induction generalizing x y s t with
  | base =>
      have hx : x < 10 := by omega
      simp only [padded, Nat.toDigits_of_lt_base hx, Nat.toDigits_of_lt_base (b := 10) hy]
      exact List.cons_lt_cons_iff.2 (.inl (digitChar_lt y hy x h))
  | succ width hwidth ih =>
      rw [padded_succ hwidth, padded_succ hwidth, List.append_assoc, List.append_assoc]
      -- Either the digits in front decide already, or they agree and the last digit does.
      rcases Nat.lt_or_ge (x / 10) (y / 10) with hlt | hge
      · exact ih (by omega) hlt _ _
      · have heq : x / 10 = y / 10 := by omega
        have hlast : (x % 10).digitChar < (y % 10).digitChar :=
          digitChar_lt _ (Nat.mod_lt y (by decide)) _ (by omega)
        rw [heq]
        exact List.append_left_lt (List.cons_lt_cons_iff.2 (.inl hlast))

section Order

variable {width x y : Nat} {p : Prop} {s t : List Char}

/-- Of texts that start with numbers, the numbers decide, and what stands behind equal numbers. -/
theorem padded_append_lt_of (hwidth : 0 < width) (hy : y < 10 ^ width) (h : x < y ∨ x = y ∧ p)
    (hrest : p → s < t) : padded width x ++ s < padded width y ++ t := by
  rcases h with h | ⟨rfl, h⟩
  · exact padded_append_lt hwidth hy h s t
  · exact List.append_left_lt (hrest h)

/-- The same behind a mark. -/
theorem cons_padded_append_lt_of {mark : Char} (hwidth : 0 < width) (hy : y < 10 ^ width)
    (h : x < y ∨ x = y ∧ p) (hrest : p → s < t) :
    mark :: (padded width x ++ s) < mark :: (padded width y ++ t) :=
  List.cons_lt_cons_self.2 (padded_append_lt_of hwidth hy h hrest)

end Order

/-! ## Moments -/

/-- A date with a time of day. -/
structure Moment where
  date : Date
  hour : Nat
  minute : Nat
  second : Nat
  milli : Nat
deriving DecidableEq, Repr

namespace Moment

structure IsValid (m : Moment) : Prop where
  date : m.date.IsValid
  hour_lt : m.hour < 24
  minute_lt : m.minute < 60
  second_lt : m.second < 60
  milli_lt : m.milli < 1000

/-- The milliseconds from the start of 1970 to a moment. -/
def millis (m : Moment) : Nat :=
  (((m.date.number * 24 + m.hour) * 60 + m.minute) * 60 + m.second) * 1000 + m.milli

/-- The moment so many milliseconds after the start of 1970. -/
def ofMillis (millis : Nat) : Moment :=
  { date := Date.ofDays (millis / 86400000)
    hour := millis % 86400000 / 3600000
    minute := millis % 86400000 / 60000 % 60
    second := millis % 86400000 / 1000 % 60
    milli := millis % 86400000 % 1000 }

theorem isValid_ofMillis (millis : Nat) : (ofMillis millis).IsValid where
  date := Date.isValid_ofDays _
  hour_lt := by
    dsimp only [ofMillis]
    omega
  minute_lt := Nat.mod_lt _ (by decide)
  second_lt := Nat.mod_lt _ (by decide)
  milli_lt := Nat.mod_lt _ (by decide)

theorem millis_ofMillis (count : Nat) : (ofMillis count).millis = count := by
  dsimp only [ofMillis, millis]
  rw [Date.number_ofDays]
  omega

theorem IsValid.div_millis {m : Moment} (hm : m.IsValid) : m.millis / 86400000 = m.date.number := by
  have hhour := hm.hour_lt
  have hminute := hm.minute_lt
  have hsecond := hm.second_lt
  have hmilli := hm.milli_lt
  unfold millis
  omega

/-- A count of milliseconds stands for one moment. -/
theorem IsValid.date_ofMillis {m : Moment} (hm : m.IsValid) : (ofMillis m.millis).date = m.date := by
  apply Date.eq_of_number_eq (Date.isValid_ofDays _) hm.date
  exact (Date.number_ofDays _).trans hm.div_millis

/-- Earlier by the date, or at the same date by the time of day. -/
def Before (m m' : Moment) : Prop :=
  m.date.Before m'.date ∨
    m.date = m'.date ∧ (m.hour < m'.hour ∨ m.hour = m'.hour ∧ (m.minute < m'.minute ∨
      m.minute = m'.minute ∧ (m.second < m'.second ∨
        m.second = m'.second ∧ m.milli < m'.milli)))

theorem before_of_millis_lt {m m' : Moment} (hm : m.IsValid) (hm' : m'.IsValid)
    (h : m.millis < m'.millis) : m.Before m' := by
  have hnumber : m.date.number ≤ m'.date.number := by
    rw [← hm.div_millis, ← hm'.div_millis]
    exact Nat.div_le_div_right h.le
  rcases Nat.lt_or_eq_of_le hnumber with hlt | heq
  · exact .inl (Date.before_of_number_lt hm'.date hlt)
  · refine .inr ⟨Date.eq_of_number_eq hm.date hm'.date heq, ?_⟩
    have hminute := hm'.minute_lt
    have hsecond := hm'.second_lt
    have hmilli := hm'.milli_lt
    have hminute' := hm.minute_lt
    have hsecond' := hm.second_lt
    have hmilli' := hm.milli_lt
    unfold millis at h
    omega

/-! ## The text of a moment -/

def text (m : Moment) : List Char :=
  yearText m.date.year ++ ('-' :: (padded 2 m.date.month ++ ('-' :: (padded 2 m.date.day ++
    ('T' :: (padded 2 m.hour ++ (':' :: (padded 2 m.minute ++ (':' :: (padded 2 m.second ++
      ('.' :: (padded 3 m.milli ++ ['Z']))))))))))))

theorem instantText_eq (millis : Nat) :
    instantText millis = (ofMillis (if millis < endOfTime then millis else 0)).text := by
  simp only [instantText, text, ofMillis, List.append_assoc, List.cons_append]

theorem IsValid.month_lt {m : Moment} (hm : m.IsValid) : m.date.month < 10 ^ 2 :=
  Nat.lt_of_le_of_lt hm.date.month_le (by decide)

theorem IsValid.day_lt {m : Moment} (hm : m.IsValid) : m.date.day < 10 ^ 2 :=
  Nat.lt_of_le_of_lt (hm.date.day_le.trans (daysIn_le _ _)) (by decide)

theorem IsValid.hour_lt_pow {m : Moment} (hm : m.IsValid) : m.hour < 10 ^ 2 :=
  hm.hour_lt.trans (by decide)

theorem IsValid.minute_lt_pow {m : Moment} (hm : m.IsValid) : m.minute < 10 ^ 2 :=
  hm.minute_lt.trans (by decide)

theorem IsValid.second_lt_pow {m : Moment} (hm : m.IsValid) : m.second < 10 ^ 2 :=
  hm.second_lt.trans (by decide)

/-- Up to the year 9999 earlier moments have earlier texts: each field has the width of every other
of its kind, and the first that differs decides. -/
theorem text_lt {m m' : Moment} (hm' : m'.IsValid) (hyear : m'.date.year ≤ 9999)
    (h : m.Before m') : m.text < m'.text := by
  have hyears : m.date.year ≤ m'.date.year := by
    rcases h with (hlt | ⟨heq, -⟩) | ⟨heq, -⟩
    · exact hlt.le
    · exact heq.le
    · rw [heq]
  -- The fields in one chain, in the order of the text.
  have hfields : m.date.year < m'.date.year ∨ m.date.year = m'.date.year ∧
      (m.date.month < m'.date.month ∨ m.date.month = m'.date.month ∧
        (m.date.day < m'.date.day ∨ m.date.day = m'.date.day ∧
          (m.hour < m'.hour ∨ m.hour = m'.hour ∧ (m.minute < m'.minute ∨
            m.minute = m'.minute ∧ (m.second < m'.second ∨
              m.second = m'.second ∧ m.milli < m'.milli))))) := by
    rcases h with hlt | ⟨heq, htime⟩
    · unfold Date.Before at hlt
      omega
    · rw [heq]
      omega
  rw [text, text, yearText, yearText, if_pos hyear, if_pos (hyears.trans hyear)]
  refine padded_append_lt_of (by decide) (by omega) hfields ?_
  intro hbehindYear
  refine cons_padded_append_lt_of (by decide) hm'.month_lt hbehindYear ?_
  intro hbehindMonth
  refine cons_padded_append_lt_of (by decide) hm'.day_lt hbehindMonth ?_
  intro htime
  refine cons_padded_append_lt_of (by decide) hm'.hour_lt_pow htime ?_
  intro hbehindHour
  refine cons_padded_append_lt_of (by decide) hm'.minute_lt_pow hbehindHour ?_
  intro hbehindMinute
  refine cons_padded_append_lt_of (by decide) hm'.second_lt_pow hbehindMinute ?_
  intro hmilli
  exact List.cons_lt_cons_self.2 (padded_append_lt (by decide) hm'.milli_lt hmilli _ _)

/-! ## Reading a text -/

/-- A number of so many digits in front, and what stands behind it. -/
def number? (width : Nat) (cs : List Char) : Option (Nat × List Char) :=
  let digits := cs.take width
  if digits.length = width ∧ digits.all Char.isDigit = true then
    some (Nat.ofDigitChars 10 digits 0, cs.drop width)
  else none

/-- What stands behind a mark, if it is there. -/
def behind? (mark : Char) : List Char → Option (List Char)
  | [] => none
  | c :: rest => if c = mark then some rest else none

/-- A year of four digits, or of more behind a plus sign and without a zero in front. -/
def year? : List Char → Option (Nat × List Char)
  | '+' :: cs =>
    let digits := cs.takeWhile Char.isDigit
    if 5 ≤ digits.length ∧ digits.head? ≠ some '0' then
      some (Nat.ofDigitChars 10 digits 0, cs.dropWhile Char.isDigit)
    else none
  | cs => number? 4 cs

/-- The moment that a text of the form YYYY-MM-DDTHH:MM:SS.mmmZ names. -/
def read? (cs : List Char) : Option Moment := do
  let (year, cs) ← year? cs
  let (month, cs) ← number? 2 (← behind? '-' cs)
  let (day, cs) ← number? 2 (← behind? '-' cs)
  let (hour, cs) ← number? 2 (← behind? 'T' cs)
  let (minute, cs) ← number? 2 (← behind? ':' cs)
  let (second, cs) ← number? 2 (← behind? ':' cs)
  let (milli, cs) ← number? 3 (← behind? '.' cs)
  if cs = ['Z'] then some ⟨⟨year, month, day⟩, hour, minute, second, milli⟩ else none

theorem number?_padded {width n : Nat} (hwidth : 0 < width) (hn : n < 10 ^ width)
    (rest : List Char) : number? width (padded width n ++ rest) = some (n, rest) := by
  have hlength := length_padded hwidth hn
  have htake : (padded width n ++ rest).take width = padded width n := List.take_left' hlength
  have hdrop : (padded width n ++ rest).drop width = rest := List.drop_left' hlength
  have hdigits : (padded width n).all Char.isDigit = true :=
    List.all_eq_true.2 isDigit_of_mem_padded
  rw [number?, htake, hdrop, if_pos ⟨hlength, hdigits⟩, ofDigitChars_padded]

theorem behind?_cons (mark : Char) (rest : List Char) :
    behind? mark (mark :: rest) = some rest := if_pos rfl

theorem year?_of_head?_ne {cs : List Char} (h : cs.head? ≠ some '+') : year? cs = number? 4 cs := by
  unfold year?
  split
  · exact absurd rfl h
  · rfl

theorem year?_yearText (year : Nat) (rest : List Char) :
    year? (yearText year ++ '-' :: rest) = some (year, '-' :: rest) := by
  by_cases hyear : year ≤ 9999
  · rw [yearText, if_pos hyear, year?_of_head?_ne, number?_padded (by decide) (by omega)]
    have hlength : (padded 4 year).length = 4 := length_padded (by decide) (by omega)
    obtain ⟨c, cs, hcs⟩ := List.exists_cons_of_length_pos (l := padded 4 year) (by omega)
    have hdigit := isDigit_of_mem_padded c (hcs ▸ List.mem_cons_self)
    rw [hcs, List.cons_append, List.head?_cons]
    rintro ⟨rfl⟩
    exact absurd hdigit (by decide)
  · have hdigits : ∀ c ∈ Nat.toDigits 10 year, c.isDigit = true := Json.isDigit_of_mem_toDigits
    have hlength : ¬ (Nat.toDigits 10 year).length ≤ 4 := by
      rw [Nat.length_toDigits_le_iff (by decide) (by decide)]
      omega
    have htake : (Nat.toDigits 10 year ++ '-' :: rest).takeWhile Char.isDigit =
        Nat.toDigits 10 year := by
      rw [List.takeWhile_append_of_pos hdigits, List.takeWhile_cons_of_neg (by decide),
        List.append_nil]
    have hdrop : (Nat.toDigits 10 year ++ '-' :: rest).dropWhile Char.isDigit = '-' :: rest := by
      rw [List.dropWhile_append_of_pos hdigits, List.dropWhile_cons_of_neg (by decide)]
    rw [yearText, if_neg hyear, List.cons_append, year?, htake, hdrop,
      if_pos ⟨by omega, Json.head?_toDigits_ne (by omega)⟩, Nat.ofDigitChars_ten_toDigits]

/-- Reading goes on behind a mark and a number. -/
theorem behind?_bind_number? {α : Type} {width n : Nat} (hwidth : 0 < width) (hn : n < 10 ^ width)
    (mark : Char) (rest : List Char) (read : Nat × List Char → Option α) :
    ((behind? mark (mark :: (padded width n ++ rest))).bind fun cs => (number? width cs).bind read) =
      read (n, rest) := by
  rw [behind?_cons, Option.bind_some, number?_padded hwidth hn, Option.bind_some]

/-- The text of a moment names it. -/
theorem read?_text {m : Moment} (hm : m.IsValid) : read? m.text = some m := by
  rw [read?, text, year?_yearText]
  dsimp only [Option.bind_eq_bind, Option.bind_some]
  rw [behind?_bind_number? (by decide) hm.month_lt, behind?_bind_number? (by decide) hm.day_lt,
    behind?_bind_number? (by decide) hm.hour_lt_pow,
    behind?_bind_number? (by decide) hm.minute_lt_pow,
    behind?_bind_number? (by decide) hm.second_lt_pow,
    behind?_bind_number? (by decide) hm.milli_lt]
  exact if_pos rfl

end Moment

/-! ## What a clock shows -/

/-- The last year of which a clock shows dates. -/
def lastYear : Nat := 262142

/-- So many milliseconds after the start of 1970 there is a date up to the last year. -/
def IsRepresentable (millis : Nat) : Prop :=
  ∃ m : Moment, m.IsValid ∧ m.date.year ≤ lastYear ∧ m.millis = millis

theorem isRepresentable_iff (millis : Nat) : IsRepresentable millis ↔ millis < endOfTime := by
  have hdays : daysBetween 1970 (lastYear + 1) * 86400000 = endOfTime := by
    rw [daysBetween_eq_sub (by decide)]
    rfl
  have hyear : ∀ m : Moment, m.IsValid → (m.date.year ≤ lastYear ↔ m.millis < endOfTime) := by
    intro m hm
    rw [← hdays, ← Nat.div_lt_iff_lt_mul (by decide), hm.div_millis, ← Nat.lt_succ_iff]
    exact hm.date.year_lt_iff (lastYear + 1)
  constructor
  · rintro ⟨m, hm, hle, rfl⟩
    exact (hyear m hm).1 hle
  · intro hlt
    have hmillis := Moment.millis_ofMillis millis
    refine ⟨.ofMillis millis, Moment.isValid_ofMillis millis, ?_, hmillis⟩
    rwa [hyear _ (Moment.isValid_ofMillis millis), hmillis]

namespace Clock

theorem toList_text (c : Clock) : c.text.toList = instantText c.millis.toNat :=
  String.toList_ofList

theorem toList_text_of_lt {c : Clock} (h : c.millis.toNat < endOfTime) :
    c.text.toList = (Moment.ofMillis c.millis.toNat).text := by
  rw [toList_text, Moment.instantText_eq, if_pos h]

/-- A clock shows the instant that it stands at: its text is that of a date and time of day of the
calendar, just so many milliseconds after the start of 1970, as long as there is a date to show, and
otherwise that of a clock at zero.  Up to the year 9999 a clock that is behind shows a text that
comes before. -/
theorem text_names_instant :
    (∀ c : Clock, IsRepresentable c.millis.toNat →
        ∃ m : Moment, m.IsValid ∧ m.millis = c.millis.toNat ∧
          Moment.read? c.text.toList = some m) ∧
      (∀ (c c' : Clock) (m : Moment), m.IsValid → m.date.year ≤ 9999 →
        m.millis = c'.millis.toNat → c.millis < c'.millis → c.text < c'.text) ∧
      (∀ c : Clock, ¬ IsRepresentable c.millis.toNat → c.text = (Clock.mk 0).text) ∧
      ∀ c : Clock, 2 ^ 63 ≤ c.millis.toNat → ¬ IsRepresentable c.millis.toNat := by
  simp only [isRepresentable_iff]
  refine ⟨?_, ?_, ?_, ?_⟩
  · intro c hc
    refine ⟨.ofMillis c.millis.toNat, Moment.isValid_ofMillis _, Moment.millis_ofMillis _, ?_⟩
    rw [toList_text_of_lt hc]
    exact Moment.read?_text (Moment.isValid_ofMillis _)
  · intro c c' m hm hyear hmillis hlt
    have hlt' : c.millis.toNat < c'.millis.toNat := hlt
    have hend : c'.millis.toNat < endOfTime :=
      (isRepresentable_iff _).1 ⟨m, hm, hyear.trans (by decide), hmillis⟩
    rw [String.lt_iff_toList_lt, toList_text_of_lt hend, toList_text_of_lt (hlt'.trans hend)]
    apply Moment.text_lt (Moment.isValid_ofMillis _)
    · rwa [← hmillis, hm.date_ofMillis]
    · apply Moment.before_of_millis_lt (Moment.isValid_ofMillis _) (Moment.isValid_ofMillis _)
      rwa [Moment.millis_ofMillis, Moment.millis_ofMillis]
  · intro c hc
    have hstart : (Clock.mk 0).millis.toNat < endOfTime := by decide
    rw [← String.toList_inj, toList_text_of_lt hstart, toList_text, Moment.instantText_eq,
      if_neg hc]
    rfl
  · intro c hc
    unfold endOfTime
    omega

/-- The first instant behind a leap day, and one for which there is no date. -/
theorem text_names_instant_leapDay :
    (∃ m : Moment, m.IsValid ∧ m.millis = 951868800000 ∧
        Moment.read? (Clock.mk 951868800000).text.toList = some m) ∧
      (Clock.mk 951868799999).text < (Clock.mk 951868800000).text ∧
      (Clock.mk 9223372036854775808).text = (Clock.mk 0).text := by
  obtain ⟨hnames, hbefore, hlate, hhuge⟩ := text_names_instant
  have hvalid : Moment.IsValid ⟨⟨2000, 3, 1⟩, 0, 0, 0, 0⟩ :=
    ⟨⟨by decide, by decide, by decide, by decide, by decide⟩, by decide, by decide, by decide,
      by decide⟩
  have hmillis : Moment.millis ⟨⟨2000, 3, 1⟩, 0, 0, 0, 0⟩ = 951868800000 := by
    rw [Moment.millis, Date.number, daysBetween_eq_sub (by decide)]
    rfl
  exact ⟨hnames ⟨951868800000⟩ ⟨_, hvalid, by decide, hmillis⟩,
    hbefore ⟨951868799999⟩ ⟨951868800000⟩ _ hvalid (by decide) hmillis (by decide),
    hlate ⟨9223372036854775808⟩ (hhuge ⟨9223372036854775808⟩ (by decide))⟩

end Clock

end MeshRegistry.Time
