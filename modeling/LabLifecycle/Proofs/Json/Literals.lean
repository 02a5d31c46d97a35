import LabLifecycle.Json.Print
import LabLifecycle.Json.Reading
import Mathlib.Data.List.TakeDrop

/-!
# Literals of numbers

A literal is read with everything that belongs to it and nothing else. Integers are written in
decimal notation, and read as the integers that they are as long as they have 64 bits.
-/
namespace LabLifecycle

namespace Bytes

/-! ### Decimal notation -/

/-- Decimal digits of a number, without a needless zero in front. -/
structure IsDecimal (n : Nat) (digits : Bytes) : Prop where
  digit : ∀ d ∈ digits, isDigit d = true
  value : digitsValue digits = n
  ne_nil : digits ≠ []
  short : digits.head? = some 0x30 → digits.length = 1

theorem isDecimal_singleton : ∀ n < 10, IsDecimal n [0x30 + n.toUInt8] := by
  intro n hn
  have hdigit : ∀ n < 10, isDigit (0x30 + Nat.toUInt8 n) = true ∧
      digitsValue [0x30 + Nat.toUInt8 n] = n := by decide
  obtain ⟨h, hvalue⟩ := hdigit n hn
  exact ⟨by simpa using h, hvalue, by simp, fun _ => rfl⟩

theorem IsDecimal.snoc {m k : Nat} {digits : Bytes} (h : IsDecimal m digits) (hm : 0 < m)
    (hk : k < 10) : IsDecimal (m * 10 + k) (digits ++ [0x30 + k.toUInt8]) := by
  have hlast := isDecimal_singleton k hk
  have hvalue : digitValue (0x30 + k.toUInt8) = k := by
    simpa [digitsValue] using hlast.value
  refine ⟨?_, ?_, by simp, fun hhead => ?_⟩
  · intro d hd
    rcases List.mem_append.mp hd with hd | hd
    · exact h.digit d hd
    · exact hlast.digit d hd
  · have hdigits := h.value
    simp only [digitsValue, List.foldl_append, List.foldl_cons, List.foldl_nil] at hdigits ⊢
    rw [hdigits, hvalue]
  -- A zero in front would be the only digit before the last one, and that is the number zero.
  · obtain ⟨d, rest, rfl⟩ := List.exists_cons_of_ne_nil h.ne_nil
    obtain rfl : d = 0x30 := by simpa using hhead
    have hrest : rest = [] := by simpa using h.short rfl
    subst hrest
    have hzero : m = 0 := h.value.symm
    omega

theorem decimalAux_isDecimal {fuel n : Nat} (h : n < fuel) (tail : Bytes) :
    ∃ digits, IsDecimal n digits ∧ decimalAux fuel n tail = digits ++ tail := by
  induction fuel generalizing n tail with
  | zero => omega
  | succ fuel ih =>
    have hlast : n % 10 < 10 := Nat.mod_lt _ (by decide)
    rw [decimalAux]
    by_cases hzero : n / 10 = 0
    · refine ⟨[0x30 + (n % 10).toUInt8], ?_, by simp [hzero]⟩
      have hn : n % 10 = n := by omega
      simpa [hn] using isDecimal_singleton (n % 10) hlast
    · obtain ⟨digits, hdigits, heq⟩ := ih (by omega : n / 10 < fuel)
        ((0x30 + (n % 10).toUInt8) :: tail)
      have hsnoc := hdigits.snoc (Nat.pos_of_ne_zero hzero) hlast
      rw [Nat.div_add_mod' n 10] at hsnoc
      exact ⟨_, hsnoc, by simp [hzero, heq]⟩

theorem isDecimal_decimal (n : Nat) : IsDecimal n (decimal n) := by
  obtain ⟨digits, hdigits, heq⟩ := decimalAux_isDecimal (Nat.lt_succ_self n) []
  rw [List.append_nil] at heq
  rw [decimal, heq]
  exact hdigits

theorem beq_of_isDigit {b c : UInt8} (hb : isDigit b = true) (hc : isDigit c = false) :
    (b == c) = false := by
  rw [beq_eq_false_iff_ne]
  rintro rfl
  rw [hb] at hc
  cases hc

end Bytes

namespace Json

open Bytes (IsDecimal isDigit)

/-! ### Numbers -/

namespace Number

/-- The number is an integer. -/
def IsInt : Number → Prop
  | int _ => True
  | float _ => False

/-- If the number is an integer, it has 64 bits, with or without a sign. -/
def InRange : Number → Prop
  | int z => -0x8000000000000000 ≤ z ∧ z ≤ 0xFFFFFFFFFFFFFFFF
  | float _ => True

end Number

/-- What follows a number does not go on with it. -/
def Delimited (rest : Bytes) : Prop :=
  ∀ b ∈ rest.head?, isDigit b = false ∧ b ≠ 0x2E ∧ b ≠ 0x65 ∧ b ≠ 0x45

theorem spanDigits_append {digits rest : Bytes} (hdigits : ∀ d ∈ digits, isDigit d = true)
    (hrest : ∀ b ∈ rest.head?, isDigit b = false) :
    spanDigits (digits ++ rest) = (digits, rest) := by
  have hstop : rest.takeWhile isDigit = [] ∧ rest.dropWhile isDigit = rest := by
    cases rest with
    | nil => exact ⟨rfl, rfl⟩
    | cons b rest => simp [hrest b rfl]
  rw [spanDigits, List.span_eq_takeWhile_dropWhile, List.takeWhile_append_of_pos hdigits,
    List.dropWhile_append_of_pos hdigits, hstop.1, hstop.2, List.append_nil]

/-! ### Literals -/

/-- Digits, at least one. -/
structure IsDigits (digits : Bytes) : Prop where
  digit : ∀ d ∈ digits, isDigit d = true
  ne_nil : digits ≠ []

/-- The notation of a number after its sign: digits without a needless zero in front, then digits
after a point if there is one, and then an exponent with a sign of its own if there is one. -/
structure Literal where
  whole : Bytes
  part : Option Bytes
  exponent : Option (Bool × Bytes)
  isDigits_whole : IsDigits whole
  short : whole.head? = some 0x30 → whole.length = 1
  isDigits_part : ∀ p ∈ part, IsDigits p
  isDigits_exponent : ∀ e ∈ exponent, IsDigits e.2

namespace Literal

/-- The digits after the point with the point. -/
def partBytes : Option Bytes → Bytes
  | none => []
  | some digits => 0x2E :: digits

/-- The exponent with its letter and its sign. -/
def exponentBytes : Option (Bool × Bytes) → Bytes
  | none => []
  | some (down, digits) => 0x65 :: (if down then 0x2D else 0x2B) :: digits

/-- The literal as it is written. -/
def bytes (n : Literal) : Bytes := n.whole ++ (partBytes n.part ++ exponentBytes n.exponent)

/-- The number of an exponent. -/
def power (e : Bool × Bytes) : Int :=
  if e.1 then -(Bytes.digitsValue e.2 : Int) else Bytes.digitsValue e.2

/-- What the literal is read as. -/
def number (n : Literal) (negative : Bool) : Except Flaw Number :=
  numberOf negative n.whole n.part (n.exponent.map power)

theorem isEmpty_eq_false {digits : Bytes} (h : IsDigits digits) : digits.isEmpty = false := by
  simpa using h.ne_nil

theorem readExponent_exponentBytes {negative : Bool} {whole rest : Bytes} {part : Option Bytes}
    {e : Option (Bool × Bytes)} (he : ∀ x ∈ e, IsDigits x.2) (hrest : Delimited rest) :
    readExponent negative whole part (exponentBytes e ++ rest) =
      (.number (numberOf negative whole part (e.map power)), .ok rest) := by
  cases e with
  | none =>
    rw [exponentBytes, List.nil_append]
    unfold readExponent
    split
    · exact absurd rfl (hrest _ rfl).2.2.1
    · exact absurd rfl (hrest _ rfl).2.2.2
    · rfl
  | some e =>
    obtain ⟨down, digits⟩ := e
    have hdigits : IsDigits digits := he _ rfl
    have hspan := spanDigits_append hdigits.digit fun b hb => (hrest b hb).1
    cases down with
    | false => simp [readExponent, exponentBytes, hspan, isEmpty_eq_false hdigits, power]
    | true => simp [readExponent, exponentBytes, hspan, isEmpty_eq_false hdigits, power]

theorem head_exponentBytes {e : Option (Bool × Bytes)} {rest : Bytes} (hrest : Delimited rest) :
    ∀ b ∈ (exponentBytes e ++ rest).head?, isDigit b = false ∧ b ≠ 0x2E := by
  cases e with
  | none => exact fun b hb => ⟨(hrest b hb).1, (hrest b hb).2.1⟩
  | some e =>
    rintro b ⟨⟩
    exact ⟨rfl, by decide⟩

/-- A literal is read whatever follows, as long as that does not go on with it. -/
theorem read (n : Literal) (negative : Bool) {rest : Bytes} (hrest : Delimited rest) :
    readNumber negative (n.bytes ++ rest) = (.number (n.number negative), .ok rest) := by
  obtain ⟨whole, part, exponent, hwhole, hshort, hpart, hexponent⟩ := n
  have hzero : (whole.head? == some 0x30 && decide (1 < whole.length)) = false := by
    rw [Bool.and_eq_false_iff]
    by_cases hhead : whole.head? = some 0x30
    · exact Or.inr (by simp [hshort hhead])
    · exact Or.inl (by simpa using hhead)
  have hhead := head_exponentBytes (e := exponent) hrest
  have hread : ∀ part, readExponent negative whole part (exponentBytes exponent ++ rest) = _ :=
    fun part => readExponent_exponentBytes hexponent hrest
  simp only [bytes, number, List.append_assoc]
  cases part with
  | none =>
    have hspan := spanDigits_append hwhole.digit fun b hb => (hhead b hb).1
    simp only [partBytes, List.nil_append, readNumber, hspan, isEmpty_eq_false hwhole, hzero,
      Bool.false_eq_true, if_false]
    split
    · exact absurd rfl (hhead _ (by simp [*])).2
    · exact hread none
  | some digits =>
    have hdigits : IsDigits digits := hpart _ rfl
    have hpoint : ∀ rest, spanDigits (whole ++ 0x2E :: rest) = (whole, 0x2E :: rest) :=
      fun rest => spanDigits_append hwhole.digit (by rintro b ⟨⟩; rfl)
    have hspan := spanDigits_append hdigits.digit fun b hb => (hhead b hb).1
    simp only [partBytes, List.cons_append, readNumber, hpoint, hspan, isEmpty_eq_false hwhole,
      isEmpty_eq_false hdigits, hzero, Bool.false_eq_true, if_false, hread]

/-- A whole number in decimal notation. -/
def ofDecimal {n : Nat} {digits : Bytes} (h : IsDecimal n digits) : Literal where
  whole := digits
  part := none
  exponent := none
  isDigits_whole := ⟨h.digit, h.ne_nil⟩
  short := h.short
  isDigits_part := nofun
  isDigits_exponent := nofun

theorem bytes_ofDecimal {n : Nat} {digits : Bytes} (h : IsDecimal n digits) :
    (ofDecimal h).bytes = digits := List.append_nil digits

end Literal

theorem numberOf_of_isDecimal {n : Nat} {digits : Bytes} (h : IsDecimal n digits)
    (hn : n ≤ maxWord) : numberOf false digits none none = .ok (.int n) := by
  simp [numberOf, h.value, hn]

theorem numberOf_neg_of_isDecimal {n : Nat} {digits : Bytes} (h : IsDecimal n digits)
    (hpos : 0 < n) (hn : n ≤ 0x8000000000000000) :
    numberOf true digits none none = .ok (.int (-n)) := by
  have hword : n ≤ maxWord := Nat.le_trans hn (by decide)
  simp [numberOf, h.value, hn, hpos, hword]

end Json
end LabLifecycle
