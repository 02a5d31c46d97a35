import LabLifecycle.Proofs.Text.Encoding
import Mathlib.Algebra.Group.Nat.Defs

/-!
# The byte order of texts

Texts come in the order of their characters, and this is the order of their encodings byte by
byte. The bytes of a character are the digits of its number in base 64, from the first to the last,
each behind a mark. The mark of the first byte grows with the number of bytes, so a longer encoding
comes behind a shorter one, and two of one length come in the order of their digits.
-/
namespace LabLifecycle

/-- Of two numbers of the same digits, the lower one has the lower digit in front, or the same one
there and the lower number behind it. -/
theorem front_lt_or {p d e r s : Nat} (hs : s < p) (h : r + p * d < s + p * e) :
    d < e ∨ d = e ∧ r < s := by
  rcases Nat.lt_trichotomy d e with hde | rfl | hed
  · exact .inl hde
  · exact .inr ⟨rfl, Nat.lt_of_add_lt_add_right h⟩
  · have hnext : p * e + p ≤ p * d := Nat.mul_le_mul_left p hed
    omega

namespace Bytes

theorem ofNat_lt_ofNat {m n : Nat} (hn : n < 256) (h : m < n) : UInt8.ofNat m < UInt8.ofNat n := by
  rw [UInt8.lt_iff_toNat_lt, UInt8.toNat_ofNat', UInt8.toNat_ofNat', Nat.mod_eq_of_lt hn,
    Nat.mod_eq_of_lt (Nat.lt_trans h hn)]
  exact h

/-! ### One character -/

/-- The last `n` digits of a number in base 64, each behind the mark of a continuation byte. -/
def trail (v : Nat) : Nat → Bytes
  | 0 => []
  | n + 1 => UInt8.ofNat (v / 64 ^ n % 64 + 0x80) :: trail v n

/-- The induction is on the number of digits, which are compared from the first one on. -/
theorem trail_append_lt {v w n : Nat} (h : v % 64 ^ n < w % 64 ^ n) (a b : Bytes) :
    trail v n ++ a < trail w n ++ b := by
  induction n with
  | zero =>
    rw [Nat.pow_zero, Nat.mod_one, Nat.mod_one] at h
    exact absurd h (Nat.lt_irrefl 0)
  | succ n ih =>
    rw [Nat.mod_pow_succ, Nat.mod_pow_succ] at h
    rw [trail, trail, List.cons_append, List.cons_append, List.cons_lt_cons_iff]
    rcases front_lt_or (Nat.mod_lt w (Nat.pow_pos (by decide))) h with hfront | ⟨hsame, hbehind⟩
    · have hdigit : w / 64 ^ n % 64 < 64 := Nat.mod_lt _ (by decide)
      exact .inl (ofNat_lt_ofNat (by omega) (Nat.add_lt_add_right hfront 0x80))
    · exact .inr ⟨by rw [hsame], ih hbehind⟩

/-- How many continuation bytes a character takes. -/
def owed (v : Nat) : Nat :=
  if v ≤ 0x7F then 0 else if v ≤ 0x7FF then 1 else if v ≤ 0xFFFF then 2 else 3

/-- The mark of a first byte, by the number of bytes behind it. The last one is above all. -/
def mark : Nat → Nat
  | 0 => 0
  | 1 => 0xC0
  | 2 => 0xE0
  | 3 => 0xF0
  | _ => 0xF5

/-- The first byte of a character. -/
def front (v : Nat) : Nat := v / 64 ^ owed v + mark (owed v)

theorem toNat_val_lt (c : Char) : c.val.toNat < 0x110000 := by
  have hvalid : c.val.toNat < 0xD800 ∨ 0xDFFF < c.val.toNat ∧ c.val.toNat < 0x110000 := c.valid
  omega

/-- The bytes of a character: the first one, and the last digits behind it. -/
theorem utf8EncodeChar_eq_cons (c : Char) :
    String.utf8EncodeChar c =
      UInt8.ofNat (front c.val.toNat) :: trail c.val.toNat (owed c.val.toNat) := by
  have hvalid : c.val.toNat < 0x110000 := toNat_val_lt c
  unfold String.utf8EncodeChar front owed
  generalize c.val.toNat = v at hvalid ⊢
  dsimp only
  split
  · simp [trail, mark]
  split
  · have hfront : v / 64 % 32 = v / 64 := Nat.mod_eq_of_lt (by omega)
    simp [trail, mark, hfront]
  split
  · have hfront : v / 4096 % 16 = v / 4096 := Nat.mod_eq_of_lt (by omega)
    simp [trail, mark, hfront]
  · have hfront : v / 262144 % 8 = v / 262144 := Nat.mod_eq_of_lt (by omega)
    simp [trail, mark, hfront]

theorem owed_le (v : Nat) : owed v ≤ 3 := by
  unfold owed
  repeat' split
  all_goals decide

theorem owed_le_owed {v w : Nat} (h : v ≤ w) : owed v ≤ owed w := by
  unfold owed
  repeat' split
  all_goals omega

theorem mark_le_mark : ∀ n ≤ 4, ∀ m ≤ n, mark m ≤ mark n := by decide

/-- A first byte stays below the next mark. -/
theorem front_lt_mark {v : Nat} (h : v < 0x110000) : front v < mark (owed v + 1) := by
  unfold front owed
  repeat' split
  all_goals
    simp only [mark]
    omega

/-- The more bytes a character takes, the higher is the first one. -/
theorem front_lt_front {v w : Nat} (hv : v < 0x110000) (h : owed v < owed w) :
    front v < front w :=
  calc front v < mark (owed v + 1) := front_lt_mark hv
    _ ≤ mark (owed w) := mark_le_mark _ (Nat.le_succ_of_le (owed_le w)) _ h
    _ ≤ front w := Nat.le_add_left ..

theorem front_lt {v : Nat} (h : v < 0x110000) : front v < 256 :=
  calc front v < mark (owed v + 1) := front_lt_mark h
    _ ≤ mark 4 := mark_le_mark 4 (Nat.le_refl 4) _ (Nat.succ_le_succ (owed_le v))
    _ < 256 := by decide

/-- A character that comes earlier has the lower encoding, whatever follows. -/
theorem utf8EncodeChar_append_lt {c d : Char} (h : c < d) (a b : Bytes) :
    String.utf8EncodeChar c ++ a < String.utf8EncodeChar d ++ b := by
  have hlt : c.val.toNat < d.val.toNat := h
  have hw : d.val.toNat < 0x110000 := toNat_val_lt d
  rw [utf8EncodeChar_eq_cons, utf8EncodeChar_eq_cons, List.cons_append, List.cons_append,
    List.cons_lt_cons_iff]
  generalize c.val.toNat = v, d.val.toNat = w at *
  rcases Nat.lt_or_eq_of_le (owed_le_owed (Nat.le_of_lt hlt)) with howed | howed
  · exact .inl (ofNat_lt_ofNat (front_lt hw) (front_lt_front (Nat.lt_trans hlt hw) howed))
  · -- The fronts are the digits above those of the continuation bytes.
    have hdigits := hlt
    rw [← Nat.mod_add_div v (64 ^ owed v), ← Nat.mod_add_div w (64 ^ owed w), howed] at hdigits
    rcases front_lt_or (Nat.mod_lt w (Nat.pow_pos (by decide))) hdigits with
      hfront | ⟨hsame, hbehind⟩
    · refine .inl (ofNat_lt_ofNat (front_lt hw) ?_)
      rw [front, front, howed]
      exact Nat.add_lt_add_right hfront _
    · refine .inr ⟨?_, ?_⟩
      · rw [front, front, howed, hsame]
      · rw [howed]
        exact trail_append_lt hbehind a b

end Bytes

/-! ### Texts -/

/-- The induction follows the comparison of the characters. -/
theorem flatMap_utf8EncodeChar_lt {cs ds : List Char} (h : cs < ds) :
    cs.flatMap String.utf8EncodeChar < ds.flatMap String.utf8EncodeChar := by
  induction h with
  | nil =>
    rw [List.flatMap_nil, List.flatMap_cons, Bytes.utf8EncodeChar_eq_cons]
    exact List.nil_lt_cons ..
  | rel hchar => exact Bytes.utf8EncodeChar_append_lt hchar ..
  | cons _ ih => exact List.append_left_lt ih

/-- Texts are in the order of their encodings. -/
theorem textBytes_lt_iff {s t : String} : textBytes s < textBytes t ↔ s < t := by
  have hmono : ∀ {s t : String}, s < t → textBytes s < textBytes t := by
    intro s t h
    rw [textBytes_eq_flatMap, textBytes_eq_flatMap]
    exact flatMap_utf8EncodeChar_lt h
  refine ⟨fun h => ?_, hmono⟩
  by_cases hst : s < t
  · exact hst
  by_cases hts : t < s
  · exact absurd (hmono hts) (List.lt_asymm h)
  · obtain rfl : s = t := String.le_antisymm (String.not_lt.mp hts) (String.not_lt.mp hst)
    exact absurd h (List.lt_irrefl _)

end LabLifecycle
