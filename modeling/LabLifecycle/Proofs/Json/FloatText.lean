import LabLifecycle.Proofs.Json.ReadBack
import LabLifecycle.Proofs.Text.Encoding
import Mathlib.Data.List.DropRight

/-!
# Floating-point numbers in documents

A floating-point number is written as a literal, whichever of its notations is taken, so it is read
as a number too. Which one it is takes a rounding, and is left open here. With that, every written
document is read to its end.
-/
namespace LabLifecycle

/-- Decimal digits, at least one. -/
structure Numeral (digits : List Char) : Prop where
  isDigit : ∀ c ∈ digits, c.isDigit = true
  ne_nil : digits ≠ []

/-- Decimal digits without a needless zero in front. -/
structure WholeNumeral (digits : List Char) : Prop extends Numeral digits where
  short : digits.head? = some '0' → digits.length = 1

/-- The bytes of some characters. -/
def encoded (cs : List Char) : Bytes := cs.flatMap String.utf8EncodeChar

theorem encoded_append (cs ds : List Char) : encoded (cs ++ ds) = encoded cs ++ encoded ds :=
  List.flatMap_append

theorem encoded_cons (c : Char) (cs : List Char) :
    encoded (c :: cs) = String.utf8EncodeChar c ++ encoded cs := List.flatMap_cons

/-- A digit is a byte of its own. -/
theorem utf8EncodeChar_of_isDigit {c : Char} (hc : c.isDigit = true) :
    ∃ b, String.utf8EncodeChar c = [b] ∧ Bytes.isDigit b = true ∧ (b = 0x30 → c = '0') := by
  have hdigits : ∀ n < 58, 48 ≤ n → String.utf8EncodeChar (Char.ofNat n) = [UInt8.ofNat n] ∧
      Bytes.isDigit (UInt8.ofNat n) = true ∧ (UInt8.ofNat n = 0x30 → Char.ofNat n = '0') := by
    decide
  obtain ⟨n, hhigh, hlow, rfl⟩ := exists_ofNat_of_isDigit hc
  exact ⟨_, hdigits n hhigh hlow⟩

open Json (IsDigits Literal)

theorem Numeral.isDigits {digits : List Char} (h : Numeral digits) :
    IsDigits (encoded digits) := by
  obtain ⟨hdigits, hne⟩ := h
  refine ⟨fun b hb => ?_, fun hnil => ?_⟩
  · obtain ⟨c, hc, hb⟩ := List.mem_flatMap.mp hb
    obtain ⟨b', hc', hb', -⟩ := utf8EncodeChar_of_isDigit (hdigits c hc)
    rw [hc', List.mem_singleton] at hb
    rwa [hb]
  · obtain ⟨c, rest, rfl⟩ := List.exists_cons_of_ne_nil hne
    obtain ⟨b, hb, -⟩ := utf8EncodeChar_of_isDigit (hdigits c (List.mem_cons_self ..))
    rw [encoded_cons, hb] at hnil
    cases hnil

theorem WholeNumeral.short_encoded {digits : List Char} (h : WholeNumeral digits)
    (hhead : (encoded digits).head? = some 0x30) : (encoded digits).length = 1 := by
  obtain ⟨c, rest, rfl⟩ := List.exists_cons_of_ne_nil h.ne_nil
  obtain ⟨b, hb, -, hzero⟩ := utf8EncodeChar_of_isDigit (h.isDigit c (List.mem_cons_self ..))
  rw [encoded_cons, hb] at hhead ⊢
  have hc : c = '0' := hzero (by simpa using hhead)
  have hlength := h.short (by rw [hc, List.head?_cons])
  rw [List.length_cons, Nat.add_eq_right, List.length_eq_zero_iff] at hlength
  rw [hlength]
  rfl

namespace Binary64

/-! ### Shortest digits -/

/-- Digits of which the first one stands for a power of ten: none for zero, and no zero in
front. -/
structure Leading (digits : List Char) (power : Int) : Prop where
  isDigit : ∀ c ∈ digits, c.isDigit = true
  head_ne : digits.head? ≠ some '0'
  power_of_nil : digits = [] → power = 0

variable {x : Binary64}

theorem roundsTo_zero (hx : x.mantissa ≠ 0) (e : Int) : x.roundsTo 0 e = false := by
  have hratio : ∀ den, ofRatio x.negative 0 den = some ⟨x.negative, 0, -1074⟩ := fun _ => if_pos rfl
  have hdecimal : ofDecimal x.negative 0 e = some ⟨x.negative, 0, -1074⟩ := by
    rw [ofDecimal]
    split
    · rw [Nat.zero_mul, hratio]
    · rw [hratio]
  rw [roundsTo, hdecimal]
  refine beq_eq_false_iff_ne.mpr fun h => hx ?_
  rw [← h]

/-- Of two neighbours one that rounds to the number is not zero. -/
theorem neighbour_ne_zero (hx : x.mantissa ≠ 0) {low digits : Nat} {e power : Int}
    {nearHigh : Bool} (h : (match x.roundsTo low e, x.roundsTo (low + 1) e with
      | true, true => some (if nearHigh then low + 1 else low, e)
      | true, false => some (low, e)
      | false, true => some (low + 1, e)
      | false, false => none) = some (digits, power)) : digits ≠ 0 := by
  have hlow : x.roundsTo low e = true → low ≠ 0 := by
    rintro hrounds rfl
    rw [roundsTo_zero hx] at hrounds
    cases hrounds
  split at h
  · rename_i hrounds _
    have hlow := hlow hrounds
    cases h
    split <;> omega
  · rename_i hrounds _
    cases h
    exact hlow hrounds
  · cases h
    exact Nat.succ_ne_zero low
  · cases h

theorem decimalOf_ne_zero (hx : x.mantissa ≠ 0) {precision digits : Nat} {e : Int}
    (h : x.decimalOf precision = some (digits, e)) : digits ≠ 0 := by
  unfold decimalOf at h
  exact neighbour_ne_zero hx h

/-- Nothing at all is found, or digits that are not zero. -/
theorem shortestFrom_cases (hx : x.mantissa ≠ 0) (fuel precision : Nat) :
    x.shortestFrom fuel precision = (0, 0) ∨ (x.shortestFrom fuel precision).1 ≠ 0 := by
  induction fuel generalizing precision with
  | zero => exact Or.inl rfl
  | succ fuel ih =>
    rw [shortestFrom]
    split
    · rename_i d hd
      exact Or.inr (decimalOf_ne_zero hx hd)
    · exact ih (precision + 1)

theorem head_toDigits {n : Nat} (hn : n ≠ 0) : (Nat.toDigits 10 n).head? ≠ some '0' := by
  induction n using Nat.strongRecOn with
  | ind n ih =>
    rw [Nat.toDigits_eq_if (by decide)]
    split
    · rename_i hlt
      have hdigits : ∀ n < 10, n ≠ 0 → [Nat.digitChar n].head? ≠ some '0' := by decide
      exact hdigits n hlt hn
    · rename_i hge
      have hdiv : n / 10 ≠ 0 := by omega
      rw [List.head?_append_of_ne_nil _ Nat.toDigits_ne_nil]
      exact ih (n / 10) (Nat.div_lt_self (Nat.pos_of_ne_zero hn) (by decide)) hdiv

theorem leading_shortest (hx : x.mantissa ≠ 0) : Leading x.shortest.1 x.shortest.2 := by
  have hcases := shortestFrom_cases hx 17 1
  unfold shortest
  generalize x.shortestFrom 17 1 = found at hcases ⊢
  obtain ⟨digits, e⟩ := found
  rcases hcases with hnone | hdigits
  · cases hnone
    have hnil : Leading [] 0 := ⟨nofun, nofun, fun _ => rfl⟩
    exact hnil
  · have hkept : (Nat.toDigits 10 digits).rdropWhile (· == '0') <+: Nat.toDigits 10 digits :=
      List.rdropWhile_prefix _ _
    have hhead := head_toDigits hdigits
    -- What is dropped are zeros, so the first digit stays.
    have hne : (Nat.toDigits 10 digits).rdropWhile (· == '0') ≠ [] := by
      intro hnil
      obtain ⟨c, rest, hall⟩ :=
        List.exists_cons_of_ne_nil (Nat.toDigits_ne_nil (b := 10) (n := digits))
      have hzero := List.rdropWhile_eq_nil_iff.mp hnil c (by simp [hall])
      rw [hall, List.head?_cons, ne_eq, Option.some.injEq] at hhead
      exact hhead (by simpa using hzero)
    refine ⟨fun c hc => ?_, fun hzero => ?_, fun hnil => absurd hnil hne⟩
    · exact Nat.isDigit_of_mem_toDigits (by decide) (by decide) (hkept.mem hc)
    · obtain ⟨tail, htail⟩ := hkept
      rw [← htail, List.head?_append_of_ne_nil _ hne] at hhead
      exact hhead hzero

/-! ### Notations -/

theorem wholeNumeral_zero : WholeNumeral ['0'] :=
  ⟨⟨List.forall_mem_singleton.mpr rfl, by decide⟩, fun _ => rfl⟩

theorem isDigit_of_mem_zeros {n : Nat} {c : Char} (hc : c ∈ List.replicate n '0') :
    c.isDigit = true := by
  rw [List.eq_of_mem_replicate hc]
  rfl

/-- Plain notation has a point with digits around it, or is a whole number. -/
theorem plain_cases {digits : List Char} {power : Int} (h : Leading digits power) :
    WholeNumeral (plain digits power) ∨ ∃ whole part, WholeNumeral whole ∧ Numeral part ∧
      plain digits power = whole ++ '.' :: part := by
  unfold plain
  dsimp only
  by_cases hnil : digits = []
  · rw [h.power_of_nil hnil, hnil]
    exact .inl wholeNumeral_zero
  have hdigits : Numeral digits := ⟨h.isDigit, hnil⟩
  split
  · split
    · refine .inl ⟨⟨fun c hc => ?_, List.append_ne_nil_of_left_ne_nil hnil _⟩, fun hhead => ?_⟩
      · rcases List.mem_append.mp hc with hc | hc
        · exact h.isDigit c hc
        · exact isDigit_of_mem_zeros hc
      · rw [List.head?_append_of_ne_nil _ hnil] at hhead
        exact absurd hhead h.head_ne
    · rename_i hlong
      refine .inr ⟨_, _, ⟨⟨fun c hc => h.isDigit c (List.mem_of_mem_take hc), ?_⟩, fun hhead => ?_⟩,
        ⟨fun c hc => h.isDigit c (List.mem_of_mem_drop hc), ?_⟩, rfl⟩
      · simpa using hnil
      · rw [List.head?_take, if_neg (Nat.succ_ne_zero _)] at hhead
        exact absurd hhead h.head_ne
      · rw [ne_eq, List.drop_eq_nil_iff]
        exact hlong
  · refine .inr ⟨['0'], _, wholeNumeral_zero, ⟨fun c hc => ?_, ?_⟩, rfl⟩
    · rcases List.mem_append.mp hc with hc | hc
      · exact isDigit_of_mem_zeros hc
      · exact h.isDigit c hc
    · exact List.append_ne_nil_of_right_ne_nil _ hnil

theorem point_not_mem_sign : '.' ∉ x.sign := by
  unfold sign
  split <;> decide

theorem toList_display (hx : x.mantissa ≠ 0) :
    x.display.toList = x.sign ++ plain x.shortest.1 x.shortest.2 := by
  rw [display, String.toList_ofList, if_neg hx]

theorem toList_pointed (hx : x.mantissa ≠ 0) : ∃ whole part, WholeNumeral whole ∧ Numeral part ∧
    x.pointed.toList = x.sign ++ (whole ++ '.' :: part) := by
  have hdisplay := toList_display hx
  unfold pointed
  dsimp only
  rcases plain_cases (leading_shortest hx) with hwhole | ⟨whole, part, hwhole, hpart, hplain⟩
  · refine ⟨_, ['0'], hwhole, wholeNumeral_zero.toNumeral, ?_⟩
    have hpoint : '.' ∉ x.display.toList := by
      rw [hdisplay, List.mem_append, not_or]
      exact ⟨point_not_mem_sign, fun hmem => absurd (hwhole.isDigit _ hmem) (by decide)⟩
    rw [if_pos (by simpa [isWhole] using hpoint), String.toList_append, hdisplay, List.append_assoc]
    rfl
  · refine ⟨whole, part, hwhole, hpart, ?_⟩
    have hpoint : '.' ∈ x.display.toList := by
      rw [hdisplay, hplain]
      simp
    rw [if_neg (by simpa [isWhole] using hpoint), hdisplay, hplain]

/-- A whole number with a part after the point. -/
theorem exists_literal_pointed {whole part : List Char} (hwhole : WholeNumeral whole)
    (hpart : Numeral part) : ∃ n : Literal, n.bytes = encoded (whole ++ '.' :: part) := by
  refine ⟨⟨encoded whole, some (encoded part), none, hwhole.isDigits, hwhole.short_encoded, ?_,
    by simp⟩, ?_⟩
  · rintro _ ⟨⟩
    exact hpart.isDigits
  · rw [encoded_append, encoded_cons]
    simp only [Literal.bytes, Literal.partBytes, Literal.exponentBytes, List.append_nil]
    rfl

/-- A digit, a part after the point if there is one, and an exponent. -/
theorem exists_literal_scientific {c : Char} {rest exponent : List Char}
    (hdigits : ∀ d ∈ c :: rest, d.isDigit = true) (down : Bool) (hexponent : Numeral exponent) :
    ∃ n : Literal, n.bytes = encoded ([c] ++ (if rest.isEmpty then [] else '.' :: rest) ++
      'e' :: (if down then '-' else '+') :: exponent) := by
  have hwhole : WholeNumeral [c] :=
    ⟨⟨fun d hd => hdigits d (by simpa using Or.inl hd), by simp⟩, fun _ => rfl⟩
  have hsign : String.utf8EncodeChar (if down then '-' else '+') =
      [if down then 0x2D else 0x2B] := by
    cases down <;> rfl
  have hletter : String.utf8EncodeChar 'e' = [0x65] := rfl
  have hpoint : String.utf8EncodeChar '.' = [0x2E] := rfl
  have hnil : encoded [] = [] := rfl
  cases rest with
  | nil =>
    refine ⟨⟨encoded [c], none, some (down, encoded exponent), hwhole.isDigits,
      hwhole.short_encoded, by simp, ?_⟩, ?_⟩
    · rintro _ ⟨⟩
      exact hexponent.isDigits
    · simp [Literal.bytes, Literal.partBytes, Literal.exponentBytes, encoded_cons, hsign, hletter,
        hnil]
  | cons d rest =>
    have hrest : Numeral (d :: rest) :=
      ⟨fun e he => hdigits e (List.mem_cons_of_mem _ he), by simp⟩
    refine ⟨⟨encoded [c], some (encoded (d :: rest)), some (down, encoded exponent),
      hwhole.isDigits, hwhole.short_encoded, ?_, ?_⟩, ?_⟩
    · rintro _ ⟨⟩
      exact hrest.isDigits
    · rintro _ ⟨⟩
      exact hexponent.isDigits
    · simp [Literal.bytes, Literal.partBytes, Literal.exponentBytes, encoded_append, encoded_cons,
        hsign, hletter, hpoint, hnil]

theorem numeral_toDigits (n : Nat) : Numeral (Nat.toDigits 10 n) :=
  ⟨fun _ hc => Nat.isDigit_of_mem_toDigits (by decide) (by decide) hc, Nat.toDigits_ne_nil⟩

/-- The letter of an exponent, its sign and its digits. -/
theorem toList_exponent (power : Int) :
    (if power < 0 then "e-" ++ toString (-power) else "e+" ++ toString power).toList =
      'e' :: (if decide (power < 0) then '-' else '+') :: Nat.toDigits 10 power.natAbs := by
  have hnat : ∀ k : Nat, (toString (k : Int)).toList = Nat.toDigits 10 k := fun k => Nat.toList_repr
  by_cases hpower : power < 0
  · have hneg : -power = (power.natAbs : Int) := by omega
    rw [if_pos hpower, decide_eq_true hpower, String.toList_append, hneg, hnat]
    rfl
  · have hpos : power = (power.natAbs : Int) := by omega
    rw [if_neg hpower, decide_eq_false hpower, String.toList_append]
    nth_rewrite 1 [hpos]
    rw [hnat]
    rfl

/-- Whichever notation is taken, it is a literal after the sign. -/
theorem exists_literal (x : Binary64) :
    ∃ n : Literal, textBytes x.pointedOrScientific = encoded x.sign ++ n.bytes := by
  unfold pointedOrScientific
  split
  · obtain ⟨n, hn⟩ := exists_literal_pointed wholeNumeral_zero wholeNumeral_zero.toNumeral
    refine ⟨n, ?_⟩
    rw [hn, textBytes_ofList, ← encoded_append]
    rfl
  · rename_i hx
    dsimp only
    split
    · obtain ⟨whole, part, hwhole, hpart, htext⟩ := toList_pointed hx
      obtain ⟨n, hn⟩ := exists_literal_pointed hwhole hpart
      refine ⟨n, ?_⟩
      rw [hn, textBytes_eq_flatMap, htext, ← encoded_append]
      rfl
    · rename_i hpower
      have hleading := leading_shortest hx
      -- Zero is in the range of plain notation.
      have hne : x.shortest.1 ≠ [] := by
        intro hnil
        rw [hleading.power_of_nil hnil] at hpower
        exact hpower rfl
      obtain ⟨c, rest, hdigits⟩ := List.exists_cons_of_ne_nil hne
      obtain ⟨n, hn⟩ := exists_literal_scientific (hdigits ▸ hleading.isDigit)
        (decide (x.shortest.2 < 0)) (numeral_toDigits x.shortest.2.natAbs)
      refine ⟨n, ?_⟩
      rw [hn, textBytes_append, textBytes_ofList, textBytes_eq_flatMap, toList_exponent, hdigits,
        ← encoded_append, List.append_assoc]
      simp only [encoded, ← List.flatMap_append, List.append_assoc]
      rfl

end Binary64

/-! ### Documents -/

namespace Json
variable {l : Layout}

/-- Every number is read as a number, or as one that is out of range. -/
theorem exists_readsAs_number (n : Number) : ∃ x, ReadsAs l (.number n) (.number x) := by
  cases n with
  | int z => exact ⟨_, readsAs_int z⟩
  | float x =>
    obtain ⟨n, hn⟩ := x.exists_literal
    refine ⟨_, .of_literal n x.negative fun depth => ?_⟩
    rw [printAt, printNumber, hn, Binary64.sign]
    cases x.negative <;> rfl

theorem exists_forall₂ {α β : Type} {p : α → β → Prop} {as : List α}
    (h : ∀ a ∈ as, ∃ b, p a b) : ∃ bs, List.Forall₂ p as bs := by
  induction as with
  | nil => exact ⟨[], .nil⟩
  | cons a as ih =>
    obtain ⟨⟨b, hb⟩, has⟩ := List.forall_mem_cons.mp h
    obtain ⟨bs, hbs⟩ := ih has
    exact ⟨b :: bs, .cons hb hbs⟩

/-- Every written value is read to its end. The induction is on its levels. -/
theorem exists_readsAs (v : Value) : ∃ r, ReadsAs l v r := by
  obtain ⟨depth, hdepth⟩ : ∃ depth, v.nesting ≤ depth := ⟨_, Nat.le_refl _⟩
  induction depth using Nat.strongRecOn generalizing v with
  | ind depth ih =>
    cases v with
    | null => exact ⟨_, readsBack_null⟩
    | bool b => exact ⟨_, readsBack_bool b⟩
    | number n =>
      obtain ⟨x, hx⟩ := exists_readsAs_number (l := l) n
      exact ⟨_, hx⟩
    | text s => exact ⟨_, readsBack_text s⟩
    | array items =>
      obtain ⟨depth, rfl, hitems⟩ := Value.nesting_array_le_iff.mp hdepth
      obtain ⟨readings, h⟩ := exists_forall₂ fun v hv =>
        ih depth (Nat.lt_succ_self _) v (hitems v hv)
      exact ⟨_, readsAs_array h⟩
    | object members =>
      obtain ⟨depth, rfl, hmembers⟩ := Value.nesting_object_le_iff.mp hdepth
      obtain ⟨readings, h⟩ : ∃ readings, List.Forall₂ (MemberReadsAs l) members readings := by
        refine exists_forall₂ fun m hm => ?_
        obtain ⟨r, hr⟩ := ih depth (Nat.lt_succ_self _) m.2 (hmembers m hm)
        exact ⟨(.ok m.1, r), rfl, hr⟩
      exact ⟨_, readsAs_object h⟩

end Json
end LabLifecycle
