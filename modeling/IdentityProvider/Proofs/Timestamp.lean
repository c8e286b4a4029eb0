import Mathlib.Data.String.Basic
import IdentityProvider.Proofs.Calendar
import IdentityProvider.Proofs.Saml.Issue
/-! The text of an instant: its shape, what it reads back as, and its order. The validity window of an assertion
lasts a day. -/

namespace IdentityProvider

def fixedDigits : Nat → Nat → List Char
  | 0, _ => []
  | width + 1, n => fixedDigits width (n / 10) ++ [Nat.digitChar (n % 10)]

lemma toNat_digit (n : Nat) : (Nat.digitChar (n % 10)).toNat = 48 + n % 10 :=
  Nat.toNat_digitChar_of_lt_ten (Nat.mod_lt n (by decide))

lemma fixedDigits_zero (width : Nat) : fixedDigits width 0 = List.replicate width '0' := by
  induction width with
  | zero => rfl
  | succ width ih =>
    rw [fixedDigits, Nat.zero_div, ih, List.replicate_succ']
    rfl

lemma paddedDecimal_eq {width n : Nat} (hw : 0 < width) (h : n < 10 ^ width) :
    Text.paddedDecimal width n = fixedDigits width n := by
  induction width generalizing n with
  | zero => cases hw
  | succ width ih =>
    rw [fixedDigits, Text.paddedDecimal, Text.decimal, Nat.toString_eq_repr, Nat.toList_repr]
    by_cases hn : n < 10
    · rw [Nat.toDigits_of_lt_base hn, Nat.div_eq_of_lt hn, Nat.mod_eq_of_lt hn, fixedDigits_zero]
      rfl
    · have hdiv : n / 10 < 10 ^ width := by
        rw [Nat.pow_succ] at h
        omega
      have hwidth : 0 < width := by
        rcases Nat.eq_zero_or_pos width with rfl | hpos
        · omega
        · exact hpos
      rw [← ih hwidth hdiv, Text.paddedDecimal, Text.decimal, Nat.toString_eq_repr, Nat.toList_repr,
        Nat.toDigits_of_base_le (by decide) (Nat.le_of_not_lt hn), List.length_append, List.length_singleton,
        Nat.add_sub_add_right, List.append_assoc]

lemma foldlM_fixedDigits (width : Nat) {n : Nat} (h : n < 10 ^ width) (k : Nat) :
    (fixedDigits width n).foldlM (fun m d => (Text.decimalValue d).map (10 * m + ·)) k =
      some (k * 10 ^ width + n) := by
  induction width generalizing n with
  | zero =>
    have hn : n = 0 := by simpa using h
    simp [fixedDigits, hn]
  | succ width ih =>
    have hdiv : n / 10 < 10 ^ width := by
      rw [Nat.pow_succ] at h
      omega
    have hdigit : Text.decimalValue (Nat.digitChar (n % 10)) = some (n % 10) := by
      have hall : ∀ d : Fin 10, Text.decimalValue (Nat.digitChar d) = some d.val := by decide
      exact hall ⟨n % 10, Nat.mod_lt n (by decide)⟩
    have hsum : 10 * (k * 10 ^ width + n / 10) + n % 10 = k * 10 ^ (width + 1) + n := by
      rw [Nat.pow_succ, ← Nat.mul_assoc]
      omega
    rw [fixedDigits, List.foldlM_append, ih hdiv]
    simp [hdigit, hsum]

lemma numeral_fixedDigits {width n : Nat} (h : n < 10 ^ (width + 1)) :
    Text.numeral 10 Text.decimalValue (fixedDigits (width + 1) n) = some n := by
  have hf := foldlM_fixedDigits (width + 1) h 0
  cases hd : fixedDigits (width + 1) n with
  | nil => simp [fixedDigits] at hd
  | cons c cs =>
    rw [hd, Nat.zero_mul, Nat.zero_add] at hf
    exact hf

lemma lt_of_fixedDigits {width m n : Nat} (hm : m < 10 ^ width) (hn : n < 10 ^ width) {xs ys : List Char}
    (h : fixedDigits width m ++ xs < fixedDigits width n ++ ys) : m < n ∨ m = n ∧ xs < ys := by
  induction width generalizing m n xs ys with
  | zero =>
    have hm : m = 0 := by simpa using hm
    have hn : n = 0 := by simpa using hn
    exact Or.inr ⟨hm.trans hn.symm, h⟩
  | succ width ih =>
    rw [fixedDigits, fixedDigits, List.append_assoc, List.append_assoc] at h
    rw [Nat.pow_succ] at hm hn
    rcases ih (by omega) (by omega) h with hlt | ⟨heq, hrest⟩
    · exact Or.inl (by omega)
    · rw [List.singleton_append, List.singleton_append, List.cons_lt_cons_iff] at hrest
      rcases hrest with hd | ⟨hd, hrest⟩
      · have hnat : (Nat.digitChar (m % 10)).toNat < (Nat.digitChar (n % 10)).toNat := hd
        rw [toNat_digit, toNat_digit] at hnat
        exact Or.inl (by omega)
      · have hnat := congrArg Char.toNat hd
        rw [toNat_digit, toNat_digit] at hnat
        exact Or.inr ⟨by omega, hrest⟩

/-- A `d` stands for a digit, and everything else for itself. -/
def timestampShape : String :=
  "dddd-dd-ddTdd:dd:ddZ"

def HasTimestampShape (s : String) : Prop :=
  List.Forall₂ (fun p c => if p = 'd' then c.isDigit = true else c = p) timestampShape.toList s.toList

def numberAt? (cs : List Char) (start width : Nat) : Option Nat :=
  Text.numeral 10 Text.decimalValue ((cs.drop start).take width)

def readTimestamp? (s : String) : Option Int := do
  let cs := s.toList
  let date : CalendarDate := ⟨← numberAt? cs 0 4, ← numberAt? cs 5 2, ← numberAt? cs 8 2⟩
  let hour ← numberAt? cs 11 2
  let minute ← numberAt? cs 14 2
  let second ← numberAt? cs 17 2
  if date.IsValid ∧ hour < 24 ∧ minute < 60 ∧ second < 60 then
    some (86400 * date.dayNumber + 3600 * hour + 60 * minute + second)
  else none

def FallsOn (second : Int) (d : CalendarDate) : Prop :=
  d.IsValid ∧ (0 ≤ d.year ∧ d.year ≤ 9999) ∧ d.dayNumber = second / 86400

def HasFourDigitYear (second : Int) : Prop :=
  ∃ d, FallsOn second d

def stampText (d : CalendarDate) (time : Nat) : List Char :=
  fixedDigits 4 d.year.toNat ++ '-' :: (fixedDigits 2 d.month ++ '-' :: (fixedDigits 2 d.day ++ 'T' ::
    (fixedDigits 2 (time / 3600) ++ ':' :: (fixedDigits 2 (time / 60 % 60) ++
      ':' :: (fixedDigits 2 (time % 60) ++ ['Z'])))))

section Text

variable {i : Instant} {d : CalendarDate}

lemma CalendarDate.IsValid.day_lt (h : d.IsValid) : d.month < 10 ^ 2 ∧ d.day < 10 ^ 2 := by
  obtain ⟨⟨_, hm⟩, _, hd⟩ := h
  have hlength : monthLength d.year d.month ≤ 31 := by
    unfold monthLength
    split <;> try split
    all_goals omega
  omega

lemma FallsOn.text_eq (h : FallsOn i.seconds d) (hn : i.nanos < 10 ^ 9) :
    i.text.toList = stampText d (i.seconds % 86400).toNat := by
  obtain ⟨hv, ⟨hy₀, hy⟩, hd⟩ := h
  have hdate : CalendarDate.ofDays (i.seconds.fdiv 86400) = d := by
    rw [Int.fdiv_eq_ediv_of_nonneg _ (by decide), ← hd, CalendarDate.dayNumber_eq hv hy₀,
      CalendarDate.ofDays_toDays hv]
  have htime : (i.seconds.fmod 86400).toNat = (i.seconds % 86400).toNat := by
    rw [Int.fmod_eq_emod_of_nonneg _ (by decide)]
  have hnanos : i.nanos / 1000000000 = 0 := by omega
  have hyear : Instant.yearText d.year = fixedDigits 4 d.year.toNat := by
    rw [Instant.yearText, if_pos ⟨hy₀, hy⟩, paddedDecimal_eq (by decide) (by omega)]
  have htwo : ∀ n < 100, Text.paddedDecimal 2 n = fixedDigits 2 n := fun n hn => paddedDecimal_eq (by decide) hn
  simp only [Instant.text, hdate, htime, hnanos, hyear, String.toList_ofList, Nat.add_zero, stampText]
  rw [htwo _ hv.day_lt.1, htwo _ hv.day_lt.2, htwo _ (by omega), htwo _ (by omega), htwo _ (by omega)]
  simp

lemma hasTimestampShape_of_eq {s : String} {time : Nat} (h : s.toList = stampText d time) :
    HasTimestampShape s := by
  have hshape : timestampShape.toList = ['d', 'd', 'd', 'd', '-', 'd', 'd', '-', 'd', 'd', 'T', 'd', 'd', ':',
    'd', 'd', ':', 'd', 'd', 'Z'] := by decide
  rw [HasTimestampShape, h, hshape]
  simp [stampText, fixedDigits]
  omega

lemma FallsOn.readTimestamp (h : FallsOn i.seconds d) (hn : i.nanos < 10 ^ 9) :
    readTimestamp? i.text = some i.seconds := by
  have htext := h.text_eq hn
  obtain ⟨hv, ⟨hy₀, hy⟩, hd⟩ := h
  have hyear : numberAt? i.text.toList 0 4 = some d.year.toNat := by
    rw [htext]
    exact numeral_fixedDigits (show d.year.toNat < 10 ^ 4 by omega)
  have hmonth : numberAt? i.text.toList 5 2 = some d.month := by
    rw [htext]
    exact numeral_fixedDigits hv.day_lt.1
  have hday : numberAt? i.text.toList 8 2 = some d.day := by
    rw [htext]
    exact numeral_fixedDigits hv.day_lt.2
  have htwo : ∀ n < 60, Text.numeral 10 Text.decimalValue (fixedDigits 2 n) = some n :=
    fun n hn => numeral_fixedDigits (Nat.lt_trans hn (by decide))
  have hhour : numberAt? i.text.toList 11 2 = some ((i.seconds % 86400).toNat / 3600) := by
    rw [htext]
    exact htwo _ (by omega)
  have hminute : numberAt? i.text.toList 14 2 = some ((i.seconds % 86400).toNat / 60 % 60) := by
    rw [htext]
    exact htwo _ (by omega)
  have hsecond : numberAt? i.text.toList 17 2 = some ((i.seconds % 86400).toNat % 60) := by
    rw [htext]
    exact htwo _ (by omega)
  have hdate : (⟨(d.year.toNat : Int), d.month, d.day⟩ : CalendarDate) = d := by
    rw [Int.toNat_of_nonneg hy₀]
  have hranges : d.IsValid ∧ (i.seconds % 86400).toNat / 3600 < 24 ∧ (i.seconds % 86400).toNat / 60 % 60 < 60 ∧
      (i.seconds % 86400).toNat % 60 < 60 := ⟨hv, by omega⟩
  have hseconds : 86400 * d.dayNumber + 3600 * ((i.seconds % 86400).toNat / 3600 : Nat) +
      60 * ((i.seconds % 86400).toNat / 60 % 60 : Nat) + ((i.seconds % 86400).toNat % 60 : Nat) = i.seconds := by
    rw [hd]
    omega
  simp only [readTimestamp?, hyear, hmonth, hday, hhour, hminute, hsecond, bind, Option.bind, hdate,
    if_pos hranges, hseconds]

example : readTimestamp? "2000-02-29T23:59:59Z" = some 951868799 := by
  decide +kernel

example : readTimestamp? "1900-02-29T23:59:59Z" = none := by
  decide +kernel

lemma before_of_stampText_lt {d e : CalendarDate} (hd : d.IsValid) (he : e.IsValid)
    (hy : 0 ≤ d.year ∧ d.year ≤ 9999) (hz : 0 ≤ e.year ∧ e.year ≤ 9999) {s t : Nat} (hs : s < 86400)
    (ht : t < 86400) (h : stampText d s < stampText e t) :
    d.Before e ∨ d = e ∧ s < t := by
  have hc : ∀ (c : Char) (xs ys : List Char), c :: xs < c :: ys → xs < ys := by
    intro c xs ys h
    rw [List.cons_lt_cons_iff] at h
    rcases h with h | h
    · exact absurd h (Char.lt_irrefl c)
    · exact h.2
  have hyear : d.year.toNat < 10 ^ 4 ∧ e.year.toNat < 10 ^ 4 := by omega
  have htime : ∀ n < 60, n < 10 ^ 2 := by omega
  rcases lt_of_fixedDigits hyear.1 hyear.2 h with hlt | ⟨hyeq, h⟩
  · exact Or.inl (Or.inl (by omega))
  have hyeq : d.year = e.year := by omega
  rcases lt_of_fixedDigits hd.day_lt.1 he.day_lt.1 (hc _ _ _ h) with hlt | ⟨hmeq, h⟩
  · exact Or.inl (Or.inr ⟨hyeq, Or.inl hlt⟩)
  rcases lt_of_fixedDigits hd.day_lt.2 he.day_lt.2 (hc _ _ _ h) with hlt | ⟨hdeq, h⟩
  · exact Or.inl (Or.inr ⟨hyeq, Or.inr ⟨hmeq, hlt⟩⟩)
  have heq : d = e := by
    cases d
    cases e
    simp_all only
  refine Or.inr ⟨heq, ?_⟩
  rcases lt_of_fixedDigits (htime _ (by omega)) (htime _ (by omega)) (hc _ _ _ h) with hlt | ⟨hhour, h⟩
  · omega
  rcases lt_of_fixedDigits (htime _ (by omega)) (htime _ (by omega)) (hc _ _ _ h) with hlt | ⟨hminute, h⟩
  · omega
  rcases lt_of_fixedDigits (htime _ (by omega)) (htime _ (by omega)) (hc _ _ _ h) with hlt | ⟨_, h⟩
  · omega
  · exact absurd h (List.lt_irrefl _)

end Text

lemma hasFourDigitYear_iff {second : Int} :
    HasFourDigitYear second ↔ -62167219200 ≤ second ∧ second ≤ 253402300799 := by
  have hstart : (CalendarDate.mk 1970 1 1).dayCount = 719528 := by
    have he := CalendarDate.IsValid.dayCount_eq (d := ⟨1970, 1, 1⟩) (by decide) (by decide)
    have ht : (CalendarDate.mk 1970 1 1).toDays = 0 := by decide
    omega
  have hyears := CalendarDate.sum_yearLength 10000
  constructor
  · rintro ⟨d, hv, ⟨hy₀, hy⟩, hd⟩
    have hlt := hv.dayCount_lt_years hy₀ (show d.year < 10000 by omega)
    rw [CalendarDate.dayNumber, hstart] at hd
    rw [show (10000 : Int).toNat = 10000 from rfl] at hlt
    omega
  · rintro ⟨hlo, hhi⟩
    obtain ⟨d, hv, hy₀, hc⟩ := CalendarDate.exists_dayCount (second / 86400 + 719528).toNat
    have hy : d.year ≤ 9999 := by
      by_contra hlt
      have hmono := CalendarDate.sum_years_mono (show (10000 : Int) ≤ d.year by omega)
      rw [show (10000 : Int).toNat = 10000 from rfl] at hmono
      rw [CalendarDate.dayCount] at hc
      omega
    refine ⟨d, hv, ⟨hy₀, hy⟩, ?_⟩
    rw [CalendarDate.dayNumber, hstart, hc]
    omega

section Order

variable {a b : Instant}

lemma seconds_lt_of_text_lt (ha : a.nanos < 10 ^ 9) (hb : b.nanos < 10 ^ 9) (hya : HasFourDigitYear a.seconds)
    (hyb : HasFourDigitYear b.seconds) (h : a.text < b.text) : a.seconds < b.seconds := by
  obtain ⟨d, hd⟩ := hya
  obtain ⟨e, he⟩ := hyb
  rw [String.lt_iff_toList_lt, hd.text_eq ha, he.text_eq hb] at h
  obtain ⟨hdv, hdy, hday⟩ := hd
  obtain ⟨hev, hey, heday⟩ := he
  rcases before_of_stampText_lt hdv hev hdy hey (by omega) (by omega) h with hbefore | ⟨rfl, htime⟩
  · have hlt := hdv.dayNumber_lt hdy.1 hbefore
    omega
  · omega

lemma text_lt_iff (ha : a.nanos < 10 ^ 9) (hb : b.nanos < 10 ^ 9) (hya : HasFourDigitYear a.seconds)
    (hyb : HasFourDigitYear b.seconds) : a.text < b.text ↔ a.seconds < b.seconds := by
  refine ⟨seconds_lt_of_text_lt ha hb hya hyb, fun h => ?_⟩
  rcases lt_trichotomy a.text b.text with hlt | heq | hgt
  · exact hlt
  · obtain ⟨d, hd⟩ := hya
    obtain ⟨e, he⟩ := hyb
    have hsame : some a.seconds = some b.seconds := by
      rw [← hd.readTimestamp ha, ← he.readTimestamp hb, heq]
    rw [Option.some.injEq] at hsame
    omega
  · have hrev := seconds_lt_of_text_lt hb ha hyb hya hgt
    omega

end Order

namespace Instant

def nanoseconds (i : Instant) : Int :=
  10 ^ 9 * i.seconds + i.nanos

def last : Instant :=
  ⟨lastSecond, 999999999⟩

/-- The instant 24 hours later. An inserted second does not count. -/
def dayLater (i : Instant) : Instant :=
  ⟨i.seconds + 86400, i.nanos % 10 ^ 9⟩

lemma dayLater_le_iff (i : Instant) : i.dayLater.nanoseconds ≤ last.nanoseconds ↔
    i.seconds + 86400 ≤ lastSecond := by
  simp only [nanoseconds, dayLater, last]
  omega

end Instant

lemma starting_eq (i : Instant) : Validity.starting? i =
    if i.dayLater.nanoseconds ≤ Instant.last.nanoseconds then some ⟨i.text, i.dayLater.text⟩ else none := by
  rw [Validity.starting?, Instant.addSeconds?, assertionLifetime]
  simp only [i.dayLater_le_iff]
  split_ifs
  · rfl
  · rfl

/-- An assertion is valid from its instant, rounded down to the second, for 86400 seconds, and texts of instants
are in the order of their seconds. No window begins within the last 24 hours. -/
theorem validity_window :
    (∀ i : Instant, i.nanos < 10 ^ 9 → HasFourDigitYear i.seconds →
      HasFourDigitYear (i.seconds + 86400) → ∀ j, ∃ v, (validityFrom i).Returns j v j ∧ v.issued = i.text ∧
        (HasTimestampShape v.issued ∧ readTimestamp? v.issued = some i.seconds) ∧
        HasTimestampShape v.expires ∧ readTimestamp? v.expires = some (i.seconds + 86400)) ∧
    (∀ a b : Instant, a.nanos < 10 ^ 9 → b.nanos < 10 ^ 9 → HasFourDigitYear a.seconds →
    HasFourDigitYear b.seconds →
      (a.text < b.text ↔ a.seconds < b.seconds)) ∧
    ∀ (i : Instant) (j : Journal), if Instant.last.nanoseconds < i.dayLater.nanoseconds then
      (validityFrom i).run.run j = (.error (.serialization "issue instant out of range"), j)
    else ∃ v, (validityFrom i).Returns j v j := by
  refine ⟨?_, fun a b ha hb hya hyb => text_lt_iff ha hb hya hyb, ?_⟩
  · intro i hn hy hy' j
    have hlast : i.dayLater.nanoseconds ≤ Instant.last.nanoseconds := by
      rw [i.dayLater_le_iff, Instant.lastSecond]
      have hbound := (hasFourDigitYear_iff.mp hy').2
      omega
    have hlater : i.dayLater.nanos < 10 ^ 9 := Nat.mod_lt _ (by decide)
    obtain ⟨d, hd⟩ := hy
    obtain ⟨e, he⟩ := hy'
    refine ⟨⟨i.text, i.dayLater.text⟩, ?_, rfl, ⟨?_, hd.readTimestamp hn⟩, ?_, ?_⟩
    · rw [returns_validityFrom, starting_eq, if_pos hlast]
      exact ⟨rfl, rfl⟩
    · exact hasTimestampShape_of_eq (hd.text_eq hn)
    · exact hasTimestampShape_of_eq (FallsOn.text_eq (i := i.dayLater) he hlater)
    · exact FallsOn.readTimestamp (i := i.dayLater) he hlater
  · intro i j
    split_ifs with h
    · have hnone : Validity.starting? i = none := by rw [starting_eq, if_neg (not_le.mpr h)]
      rw [validityFrom, hnone]
      rfl
    · refine ⟨⟨i.text, i.dayLater.text⟩, ?_⟩
      rw [returns_validityFrom, starting_eq, if_pos (not_lt.mp h)]
      exact ⟨rfl, rfl⟩

theorem validity_window_leap_day :
    (∃ v, (validityFrom ⟨-58060801, 500000000⟩).Returns ⟨.sequential "_", []⟩ v ⟨.sequential "_", []⟩ ∧
      v.issued = "1968-02-28T23:59:59Z" ∧ readTimestamp? v.issued = some (-58060801) ∧
      readTimestamp? v.expires = some (-57974401)) ∧
    "1968-02-28T23:59:59Z" < "1970-01-01T00:00:00Z" := by
  have hissue : (⟨-58060801, 500000000⟩ : Instant).text = "1968-02-28T23:59:59Z" := by decide +kernel
  have hepoch : (⟨0, 0⟩ : Instant).text = "1970-01-01T00:00:00Z" := by decide +kernel
  have hyear : HasFourDigitYear (-58060801) := hasFourDigitYear_iff.mpr (by decide)
  have hyear' : HasFourDigitYear (-58060801 + 86400) := hasFourDigitYear_iff.mpr (by decide)
  have hyear₀ : HasFourDigitYear 0 := hasFourDigitYear_iff.mpr (by decide)
  obtain ⟨hwindow, horder, _⟩ := validity_window
  obtain ⟨v, hv, htext, ⟨_, hread⟩, _, hexpires⟩ := hwindow ⟨-58060801, 500000000⟩ (by decide) hyear hyear'
    ⟨.sequential "_", []⟩
  refine ⟨⟨v, hv, htext.trans hissue, hread, hexpires⟩, ?_⟩
  rw [← hissue, ← hepoch]
  exact (horder ⟨-58060801, 500000000⟩ ⟨0, 0⟩ (by decide) (by decide) hyear hyear₀).mpr (by decide)

end IdentityProvider
