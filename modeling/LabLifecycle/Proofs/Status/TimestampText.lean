import LabLifecycle.Proofs.Json.Codecs
import LabLifecycle.Proofs.Text.Encoding
import LabLifecycle.Timestamp
import Mathlib.Algebra.Group.Nat.Defs

/-!
# Timestamps written and read again

The text of a timestamp is one of the many notations that are read, and it is read as the
timestamp. Every number in it stands in front of something that is no digit, so each step of
reading takes just what was written for it. A leap second is written as second 60 and read as such.
-/
namespace LabLifecycle

namespace Date

theorem ofParts?_self (d : Date) : ofParts? d.year d.month d.day = some d :=
  dif_pos ⟨d.isCalendarYear, d.month_pos, d.month_le, d.day_pos, d.day_le⟩

theorem day_le_31 (d : Date) : d.day ≤ 31 := by
  refine Nat.le_trans d.day_le ?_
  unfold daysInMonth
  split
  · split <;> decide
  · split <;> decide

end Date

namespace Timestamp

/-! ### Numbers with zeros in front -/

theorem digitsValue_eq (ds : List Char) : digitsValue ds = Nat.ofDigitChars 10 ds 0 := by
  simp only [digitsValue, Nat.ofDigitChars_eq_foldl, digitValue, Nat.mul_comm 10]

theorem toList_zeroPadded (width n : Nat) : (zeroPadded width n).toList =
    List.replicate (width - (Nat.toDigits 10 n).length) '0' ++ Nat.toDigits 10 n := by
  simp only [zeroPadded, String.toList_append, String.toList_ofList, Nat.toString_eq_repr,
    Nat.toList_repr, ← String.length_toList]

/-- Digits that denote a number. -/
structure Denotes (n : Nat) (ds : List Char) : Prop where
  isDigit : ∀ c ∈ ds, c.isDigit = true
  ne_nil : ds ≠ []
  value : digitsValue ds = n

theorem denotes_zeroPadded (width n : Nat) : Denotes n (zeroPadded width n).toList := by
  rw [toList_zeroPadded]
  refine ⟨fun c hc => ?_, List.append_ne_nil_of_right_ne_nil _ Nat.toDigits_ne_nil, ?_⟩
  · rcases List.mem_append.mp hc with hc | hc
    · rw [List.eq_of_mem_replicate hc]
      rfl
    · exact Nat.isDigit_of_mem_toDigits (by decide) (by decide) hc
  · rw [digitsValue_eq, Nat.ofDigitChars_append, Nat.ofDigitChars_replicate_zero, Nat.mul_zero,
      Nat.ofDigitChars_ten_toDigits]

theorem length_zeroPadded {width n : Nat} (hwidth : 0 < width) (hn : n < 10 ^ width) :
    (zeroPadded width n).toList.length = width := by
  have hlength := (Nat.length_toDigits_le_iff (by decide) hwidth).mpr hn
  rw [toList_zeroPadded, List.length_append, List.length_replicate]
  omega

/-! ### Steps of reading -/

/-- The text does not go on with a digit. -/
def Stops (rest : List Char) : Prop := ∀ c ∈ rest.head?, c.isDigit = false

theorem stops_cons {c : Char} (hc : c.isDigit = false) (rest : List Char) : Stops (c :: rest) := by
  intro d hd
  cases hd
  exact hc

theorem isWhiteSpace_of_isDigit {c : Char} (hc : c.isDigit = true) : isWhiteSpace c = false := by
  have hdigits : ∀ n < 58, 48 ≤ n → isWhiteSpace (Char.ofNat n) = false := by decide
  obtain ⟨n, hhigh, hlow, rfl⟩ := exists_ofNat_of_isDigit hc
  exact hdigits n hhigh hlow

section Steps
variable {n : Nat} {ds rest : List Char}

theorem skipSpace_cons {c : Char} (hc : isWhiteSpace c = false) :
    skipSpace (c :: rest) = c :: rest :=
  List.dropWhile_cons_of_neg (by simp [hc])

theorem Denotes.skipSpace (h : Denotes n ds) : skipSpace (ds ++ rest) = ds ++ rest := by
  obtain ⟨c, ds', rfl⟩ := List.exists_cons_of_ne_nil h.ne_nil
  exact skipSpace_cons (isWhiteSpace_of_isDigit (h.isDigit c (List.mem_cons_self ..)))

theorem Denotes.digits {most : Nat} (h : Denotes n ds) (hmost : ds.length ≤ most)
    (hrest : Stops rest) : digits most (ds ++ rest) = .ok (ds, rest) := by
  have hleading : leadingDigits most (ds ++ rest) = ds := by
    have hstop : (rest.take (most - ds.length)).takeWhile Char.isDigit = [] := by
      cases rest with
      | nil => rw [List.take_nil, List.takeWhile_nil]
      | cons c rest =>
        cases most - ds.length with
        | zero => rfl
        | succ k => rw [List.take_succ_cons, List.takeWhile_cons_of_neg (by simp [hrest c rfl])]
    rw [leadingDigits, List.take_append, List.take_of_length_le hmost,
      List.takeWhile_append_of_pos h.isDigit, hstop, List.append_nil]
  obtain ⟨c, ds', rfl⟩ := List.exists_cons_of_ne_nil h.ne_nil
  have hc := h.isDigit c (List.mem_cons_self ..)
  rw [List.cons_append] at hleading ⊢
  rw [Timestamp.digits, if_pos hc, hleading, ← List.cons_append, List.drop_left]

theorem Denotes.number {low high : Nat} (h : Denotes n ds) (hlength : ds.length ≤ 2)
    (hrest : Stops rest) (hlow : low ≤ n) (hhigh : n ≤ high) :
    number low high (ds ++ rest) = .ok (n, rest) := by
  have hrange : (low ≤ n && n ≤ high) = true := by simp [hlow, hhigh]
  simp only [Timestamp.number, h.skipSpace, h.digits hlength hrest, Json.ok_bind, h.value, hrange,
    if_true]
  rfl

theorem mark_cons {c : Char} (hc : isWhiteSpace c = false) : mark c (c :: rest) = .ok rest := by
  simp only [mark, skipSpace_cons hc, if_true]

end Steps

/-! ### The parts of a timestamp -/

/-- Years of the calendar have 32 bits. -/
theorem range_of_isCalendarYear {y : Int} (hy : isCalendarYear y = true) :
    (-0x80000000 ≤ y && y < 0x80000000) = true := by
  simp only [isCalendarYear, Bool.and_eq_true, decide_eq_true_eq] at hy ⊢
  omega

section Year
variable {n : Nat} {y : Int} {ds rest : List Char}

theorem year_minus (h : Denotes n ds) (hn : -(n : Int) = y) (hy : isCalendarYear y = true)
    (hrest : Stops rest) : year ('-' :: (ds ++ rest)) = .ok (y, rest) := by
  have hspace : skipSpace ('-' :: (ds ++ rest)) = '-' :: (ds ++ rest) := rfl
  have hdigits := h.digits (by simp : ds.length ≤ (ds ++ rest).length) hrest
  simp -implicitDefEqProofs only [year, hspace, hdigits, Json.ok_bind, h.value, hn, pure,
    Except.pure]
  rw [if_pos (range_of_isCalendarYear hy)]

theorem year_plus (h : Denotes n ds) (hn : (n : Int) = y) (hy : isCalendarYear y = true)
    (hrest : Stops rest) : year ('+' :: (ds ++ rest)) = .ok (y, rest) := by
  have hspace : skipSpace ('+' :: (ds ++ rest)) = '+' :: (ds ++ rest) := rfl
  have hdigits := h.digits (by simp : ds.length ≤ (ds ++ rest).length) hrest
  simp -implicitDefEqProofs only [year, hspace, hdigits, Json.ok_bind, h.value, hn, pure,
    Except.pure]
  rw [if_pos (range_of_isCalendarYear hy)]

theorem year_unsigned (h : Denotes n ds) (hlength : ds.length ≤ 4) (hn : (n : Int) = y)
    (hy : isCalendarYear y = true) (hrest : Stops rest) : year (ds ++ rest) = .ok (y, rest) := by
  have hspace : skipSpace (ds ++ rest) = ds ++ rest := h.skipSpace
  have hdigits := h.digits hlength hrest
  obtain ⟨c, ds', rfl⟩ := List.exists_cons_of_ne_nil h.ne_nil
  have hc := h.isDigit c (List.mem_cons_self ..)
  simp only [List.cons_append] at hspace hdigits ⊢
  unfold year
  split
  · cases hspace ▸ ‹skipSpace _ = _›
    cases hc
  · cases hspace ▸ ‹skipSpace _ = _›
    cases hc
  · simp -implicitDefEqProofs only [hspace, hdigits, Json.ok_bind, h.value, hn, pure, Except.pure]
    rw [if_pos (range_of_isCalendarYear hy)]

end Year

theorem toList_cons_append (c : Char) (s : String) :
    (String.ofList [c] ++ s).toList = c :: s.toList := by
  rw [String.toList_append, String.toList_ofList, List.singleton_append]

/-- Outside of four digits there is a sign, so that all digits are taken. -/
theorem year_yearText {y : Int} (hy : isCalendarYear y = true) {rest : List Char}
    (hrest : Stops rest) : year ((yearText y).toList ++ rest) = .ok (y, rest) := by
  unfold yearText
  split
  · rename_i hplain
    simp only [Bool.and_eq_true, decide_eq_true_eq] at hplain
    have hlength : (zeroPadded 4 y.toNat).toList.length = 4 :=
      length_zeroPadded (by decide) (by omega)
    exact year_unsigned (denotes_zeroPadded 4 y.toNat) (Nat.le_of_eq hlength)
      (Int.toNat_of_nonneg hplain.1) hy hrest
  · have hdenotes := denotes_zeroPadded 4 y.natAbs
    split
    · have hsign : ("-" ++ zeroPadded 4 y.natAbs).toList = '-' :: (zeroPadded 4 y.natAbs).toList :=
        toList_cons_append '-' _
      rw [hsign, List.cons_append]
      exact year_minus hdenotes (by omega) hy hrest
    · have hsign : ("+" ++ zeroPadded 4 y.natAbs).toList = '+' :: (zeroPadded 4 y.natAbs).toList :=
        toList_cons_append '+' _
      rw [hsign, List.cons_append]
      exact year_plus hdenotes (by omega) hy hrest

/-- A fraction in `width` digits counts in units of the last digit. -/
theorem fraction_zeroPadded {width n nanos : Nat} (hwidth : 0 < width) (hmost : width ≤ 9)
    (hn : n < 10 ^ width) (hnanos : n * 10 ^ (9 - width) = nanos) {rest : List Char}
    (hrest : Stops rest) :
    fraction (("." ++ zeroPadded width n).toList ++ rest) = .ok (nanos, rest) := by
  have hden := denotes_zeroPadded width n
  have hlength := length_zeroPadded hwidth hn
  have hvalue : digitsValue ((zeroPadded width n).toList ++ List.replicate (9 - width) '0') =
      nanos := by
    rw [digitsValue_eq, Nat.ofDigitChars_append, Nat.ofDigitChars_replicate_zero,
      ← digitsValue_eq, hden.value, Nat.mul_comm, hnanos]
  have hdrop : rest.dropWhile Char.isDigit = rest := by
    cases rest with
    | nil => rfl
    | cons c rest => exact List.dropWhile_cons_of_neg (by simp [hrest c rfl])
  have hpoint : ("." ++ zeroPadded width n).toList = '.' :: (zeroPadded width n).toList :=
    toList_cons_append '.' _
  rw [hpoint, List.cons_append]
  simp only [fraction, hden.digits (Nat.le_trans (Nat.le_of_eq hlength) hmost) hrest, Json.ok_bind,
    hlength, hvalue, hdrop]
  rfl

theorem fraction_fractionText {nanos : Nat} (hnanos : nanos < nanosPerSecond) {rest : List Char}
    (hrest : Stops rest) (hpoint : rest.head? ≠ some '.') :
    fraction ((fractionText nanos).toList ++ rest) = .ok (nanos, rest) := by
  have hnanos : nanos < 1000000000 := hnanos
  unfold fractionText
  split
  · rename_i hzero
    subst hzero
    unfold fraction
    split
    · exact absurd (congrArg List.head? ‹_›) hpoint
    · rfl
  -- As few of three, six and nine digits as there can be.
  split
  · exact fraction_zeroPadded (by decide) (by decide) (by omega) (by omega) hrest
  split
  · exact fraction_zeroPadded (by decide) (by decide) (by omega) (by omega) hrest
  · exact fraction_zeroPadded (by decide) (by decide) (by omega) (by omega) hrest

/-! ### Whole timestamps -/

theorem ofParts?_self (t : Timestamp) : ofParts? t.date t.second t.nanos = some t :=
  dif_pos ⟨t.second_lt, t.nanos_lt, t.leap⟩

/-- Two digits before a mark. -/
theorem number_zeroPadded {low high n : Nat} {rest : List Char} (hlow : low ≤ n) (hhigh : n ≤ high)
    (hmost : high < 100) (hrest : Stops rest) :
    number low high ((zeroPadded 2 n).toList ++ rest) = .ok (n, rest) := by
  have hlength : (zeroPadded 2 n).toList.length = 2 :=
    length_zeroPadded (by decide) (Nat.lt_of_le_of_lt hhigh hmost)
  exact (denotes_zeroPadded 2 n).number (Nat.le_of_eq hlength) hrest hlow hhigh

/-- There is a second 60 in a leap second only. -/
theorem leap_eq (t : Timestamp) : (if t.second % 60 + t.nanos / nanosPerSecond = 60 then 1 else 0) =
    t.nanos / nanosPerSecond := by
  have hnanos : t.nanos < 2 * 1000000000 := t.nanos_lt
  have hleap : 1000000000 ≤ t.nanos → t.second % 60 = 59 := t.leap
  have hsize : nanosPerSecond = 1000000000 := rfl
  rw [hsize]
  split <;> omega

theorem second_le_60 (t : Timestamp) : t.second % 60 + t.nanos / nanosPerSecond ≤ 60 := by
  have hnanos : t.nanos < 2 * 1000000000 := t.nanos_lt
  have hsize : nanosPerSecond = 1000000000 := rfl
  rw [hsize]
  omega

theorem clock_eq (t : Timestamp) : (t.second / 3600 * 60 + t.second / 60 % 60) * 60 +
    (t.second % 60 + t.nanos / nanosPerSecond - t.nanos / nanosPerSecond) = t.second := by
  omega

/-- The date on which a second of a day falls is that day. -/
theorem shift?_self (t : Timestamp) : shift? t.date t.second = some (t.date, t.second) := by
  have hlow : ¬ (t.second : Int) < 0 := Int.not_lt.mpr (Int.natCast_nonneg _)
  have hhigh : (t.second : Int) < secondsPerDay := Int.ofNat_lt.mpr t.second_lt
  rw [shift?, if_neg hlow, if_pos hhigh, Int.toNat_natCast]

theorem toList_text (t : Timestamp) : t.text.toList =
    (yearText t.date.year).toList ++ '-' :: ((zeroPadded 2 t.date.month).toList ++
      '-' :: ((zeroPadded 2 t.date.day).toList ++ 'T' :: ((zeroPadded 2 (t.second / 3600)).toList ++
        ':' :: ((zeroPadded 2 (t.second / 60 % 60)).toList ++
          ':' :: ((zeroPadded 2 (t.second % 60 + t.nanos / nanosPerSecond)).toList ++
            ((fractionText (t.nanos % nanosPerSecond)).toList ++ ['Z'])))))) := by
  simp [text]

theorem stops_fractionText (nanos : Nat) {rest : List Char} (hrest : Stops rest) :
    Stops ((fractionText nanos).toList ++ rest) := by
  have hpoint : ∀ s : String, Stops (("." ++ s).toList ++ rest) := fun s => by
    rw [toList_cons_append '.' s, List.cons_append]
    exact stops_cons rfl _
  unfold fractionText
  split
  · exact hrest
  split
  · exact hpoint _
  split
  · exact hpoint _
  · exact hpoint _

/-- What is written of a timestamp is read as the timestamp. -/
theorem read_text (t : Timestamp) : read t.text = .ok t := by
  have hsecond : t.second < 86400 := t.second_lt
  have hnext : Stops ((fractionText (t.nanos % nanosPerSecond)).toList ++ ['Z']) :=
    stops_fractionText _ (stops_cons rfl [])
  -- The parts one after the other, each with what follows it.
  have hyear := fun rest => year_yearText t.date.isCalendarYear (stops_cons (c := '-') rfl rest)
  have hmonth := fun rest => number_zeroPadded t.date.month_pos t.date.month_le (by decide)
    (stops_cons (c := '-') rfl rest)
  have hday := fun rest => number_zeroPadded t.date.day_pos t.date.day_le_31 (by decide)
    (stops_cons (c := 'T') rfl rest)
  have hhour := fun rest => number_zeroPadded (Nat.zero_le (t.second / 3600))
    (by omega : t.second / 3600 ≤ 23) (by decide) (stops_cons (c := ':') rfl rest)
  have hminute := fun rest => number_zeroPadded (Nat.zero_le (t.second / 60 % 60))
    (by omega : t.second / 60 % 60 ≤ 59) (by decide) (stops_cons (c := ':') rfl rest)
  have hlast := number_zeroPadded (Nat.zero_le _) t.second_le_60 (by decide) hnext
  have hfraction := fraction_fractionText (Nat.mod_lt t.nanos (by decide : 0 < nanosPerSecond))
    (stops_cons (c := 'Z') rfl []) nofun
  have hdash : ∀ rest, mark '-' ('-' :: rest) = .ok rest := fun _ => mark_cons rfl
  have hcolon : ∀ rest, mark ':' (':' :: rest) = .ok rest := fun _ => mark_cons rfl
  have hseparator : ∀ rest, separator ('T' :: rest) = .ok rest := fun _ => rfl
  have hoffset : offset (skipSpace ['Z']) = .ok (0, []) := rfl
  have hend : (skipSpace []).isEmpty = true := rfl
  -- Steps by definition would make the kernel count up to the limits.
  simp -implicitDefEqProofs only [read, toList_text, hyear, hmonth, hday, hhour, hminute, hlast,
    hfraction, hdash, hcolon, hseparator, hoffset, hend, Json.ok_bind, Date.ofParts?_self,
    leap_eq, clock_eq, Int.sub_zero, shift?_self, Nat.mod_add_div', ofParts?_self]
  rfl

end Timestamp
end LabLifecycle
