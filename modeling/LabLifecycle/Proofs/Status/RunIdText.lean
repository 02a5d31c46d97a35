import LabLifecycle.Proofs.Text.Encoding
import LabLifecycle.RunId
import Mathlib.Algebra.Group.Nat.Defs

/-!
# Run identifiers written and read again

The text of a run identifier has a digit for each place of its number to the base 32. Every digit
is read as its value, in upper or lower case, so the values add up to the number again: no digit
stands for two values, and 26 places hold all of the 128 bits.
-/
namespace LabLifecycle.RunId

/-! ### Places to the base 32 -/

/-- The values of the last `count` digits of a number, the most significant one first. -/
def places : Nat → Nat → List Nat
  | 0, _ => []
  | count + 1, n => places count (n / 32) ++ [n % 32]

theorem digits_eq_map (count n : Nat) : digits count n = (places count n).map digit := by
  induction count generalizing n with
  | zero => rfl
  | succ count ih => rw [digits, places, ih, List.map_append, List.map_singleton]

theorem length_places (count n : Nat) : (places count n).length = count := by
  induction count generalizing n with
  | zero => rfl
  | succ count ih => rw [places, List.length_append, ih, List.length_singleton]

theorem lt_of_mem_places {count n : Nat} : ∀ v ∈ places count n, v < 32 := by
  induction count generalizing n with
  | zero => nofun
  | succ count ih =>
    intro v hv
    rcases List.mem_append.mp hv with hv | hv
    · exact ih v hv
    · rw [List.mem_singleton.mp hv]
      exact Nat.mod_lt n (by decide)

/-- Places add up to what they were taken from, as far as they reach. -/
theorem foldl_places (count n : Nat) :
    (places count n).foldl (fun n d => n * 32 + d) 0 = n % 32 ^ count := by
  induction count generalizing n with
  | zero => rw [places, List.foldl_nil, Nat.pow_zero, Nat.mod_one]
  | succ count ih =>
    rw [places, List.foldl_append, List.foldl_cons, List.foldl_nil, ih, Nat.pow_succ',
      Nat.mod_mul, Nat.mul_comm, Nat.add_comm]

/-! ### Digits in either case -/

/-- A character is its own upper case, but for 26 letters. -/
theorem toUpper_cases (c : Char) : c.toUpper = c ∨ ∃ n < 26, c = Char.ofNat (n + 97) := by
  by_cases h : 'a'.val ≤ c.val ∧ c.val ≤ 'z'.val
  · have hlow : 97 ≤ c.toNat := h.1
    have hhigh : c.toNat ≤ 122 := h.2
    refine .inr ⟨c.toNat - 97, by omega, ?_⟩
    rw [Nat.sub_add_cancel hlow, Char.ofNat_toNat]
  · exact .inl (dif_neg h)

/-- Whatever holds of the digits and of the lower-case letters holds of digits in either case. -/
theorem of_toUpper_eq_digit {p : Char → Prop} (hdigit : ∀ v < 32, p (digit v))
    (hletter : ∀ n < 26, p (Char.ofNat (n + 97))) {c : Char} {v : Nat} (hv : v < 32)
    (hc : c.toUpper = digit v) : p c := by
  rcases toUpper_cases c with hsame | ⟨n, hn, rfl⟩
  · rw [← hsame, hc]
    exact hdigit v hv
  · exact hletter n hn

theorem findIdx?_digit : ∀ v < 32, alphabet.findIdx? (· == digit v) = some v := by decide

theorem toUpper_digit : ∀ v < 32, (digit v).toUpper = digit v := by decide

theorem toUpper_toLower_digit : ∀ v < 32, (digit v).toLower.toUpper = digit v := by decide

variable {cs : List Char} {values : List Nat}

theorem mapM_digitValue? (hcs : cs.map Char.toUpper = values.map digit)
    (h : ∀ v ∈ values, v < 32) : cs.mapM digitValue? = some values := by
  induction values generalizing cs with
  | nil =>
    obtain rfl := List.map_eq_nil_iff.mp hcs
    rfl
  | cons v values ih =>
    obtain ⟨c, cs, rfl, hc, hcs⟩ := List.map_eq_cons_iff.mp hcs
    obtain ⟨hv, hvalues⟩ := List.forall_mem_cons.mp h
    have hvalue : digitValue? c = some v := by rw [digitValue?, hc, findIdx?_digit v hv]
    rw [List.mapM_cons, hvalue, ih hcs hvalues]
    rfl

theorem length_flatMap_utf8EncodeChar (hcs : cs.map Char.toUpper = values.map digit)
    (h : ∀ v ∈ values, v < 32) : (cs.flatMap String.utf8EncodeChar).length = values.length := by
  induction values generalizing cs with
  | nil =>
    obtain rfl := List.map_eq_nil_iff.mp hcs
    rfl
  | cons v values ih =>
    obtain ⟨c, cs, rfl, hc, hcs⟩ := List.map_eq_cons_iff.mp hcs
    obtain ⟨hv, hvalues⟩ := List.forall_mem_cons.mp h
    have hlength : (String.utf8EncodeChar c).length = 1 :=
      of_toUpper_eq_digit (p := fun c => (String.utf8EncodeChar c).length = 1) (by decide)
        (by decide) hv hc
    rw [List.flatMap_cons, List.length_append, hlength, ih hcs hvalues, List.length_cons,
      Nat.add_comm]

/-! ### Texts -/

theorem utf8ByteSize_eq_length (s : String) : s.utf8ByteSize = (textBytes s).length := by
  rw [textBytes, String.toUTF8_eq_toByteArray, Array.length_toList]
  rfl

theorem value_lt (r : RunId) : r.value.toNat < 32 ^ width :=
  Nat.lt_of_lt_of_le r.value.isLt (by decide)

theorem toList_text (r : RunId) : r.text.toList = (places width r.value.toNat).map digit := by
  rw [text, String.toList_ofList, digits_eq_map]

/-- What leaves the digits as they are leaves a text as it is. -/
theorem map_text {f : Char → Char} (hf : ∀ v < 32, f (digit v) = digit v) (r : RunId) :
    r.text.map f = r.text := by
  rw [← String.toList_inj, String.toList_map, toList_text, List.map_map]
  exact List.map_congr_left fun v hv => hf v (lt_of_mem_places v hv)

theorem toUpper_text (r : RunId) : r.text.toUpper = r.text := map_text toUpper_digit r

/-- What is written of a run identifier is read as the run identifier, in either case. -/
theorem parse_of_toUpper {s : String} {r : RunId} (h : s.toUpper = r.text) : parse s = .ok r := by
  have hchars : s.toList.map Char.toUpper = (places width r.value.toNat).map digit := by
    rw [← String.toList_map, ← toList_text, ← h, String.toUpper]
  have hsize : s.utf8ByteSize = width := by
    rw [utf8ByteSize_eq_length, textBytes_eq_flatMap,
      length_flatMap_utf8EncodeChar hchars lt_of_mem_places, length_places]
  have hvalue : ofNat ((places width r.value.toNat).foldl (fun n d => n * 32 + d) 0) = r := by
    rw [foldl_places, Nat.mod_eq_of_lt r.value_lt, ofNat, BitVec.ofNat_toNat, BitVec.setWidth_eq]
  rw [parse, if_neg (not_not_intro hsize), mapM_digitValue? hchars lt_of_mem_places]
  simp only [hvalue]

theorem parse_text (r : RunId) : parse r.text = .ok r := parse_of_toUpper r.toUpper_text

end LabLifecycle.RunId
