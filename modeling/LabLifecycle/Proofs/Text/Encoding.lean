import LabLifecycle.Text.Bytes

/-!
# Text as bytes and back

Reading the UTF-8 encoding of a text gives the text again, also where ill-formed parts would be
replaced. So whatever bytes are known to be the encoding of a text go through a text unchanged.
-/
namespace LabLifecycle

theorem textBytes_ofList (cs : List Char) :
    textBytes (String.ofList cs) = cs.flatMap String.utf8EncodeChar := by
  rw [textBytes, String.toUTF8_eq_toByteArray, String.toByteArray_ofList, List.utf8Encode,
    List.toList_data_toByteArray]

theorem textBytes_eq_flatMap (s : String) :
    textBytes s = s.toList.flatMap String.utf8EncodeChar := by
  rw [← textBytes_ofList, String.ofList_toList]

theorem textBytes_append (s t : String) : textBytes (s ++ t) = textBytes s ++ textBytes t := by
  rw [textBytes_eq_flatMap, textBytes_eq_flatMap, textBytes_eq_flatMap, String.toList_append,
    List.flatMap_append]

/-- There are ten digits. -/
theorem exists_ofNat_of_isDigit {c : Char} (hc : c.isDigit = true) :
    ∃ n < 58, 48 ≤ n ∧ c = Char.ofNat n := by
  rw [Char.isDigit, Bool.and_eq_true, decide_eq_true_eq, decide_eq_true_eq] at hc
  have hlow : 48 ≤ c.toNat := hc.1
  have hhigh : c.toNat ≤ 57 := hc.2
  exact ⟨c.toNat, Nat.lt_succ_of_le hhigh, hlow, (Char.ofNat_toNat c).symm⟩

namespace Bytes

/-! ### Continuation bytes -/

theorem continuation_ofNat {k : Nat} (hk : k < 64) (owed bits : Nat) (rest : Bytes) :
    continuation (owed + 1) bits (UInt8.ofNat (k + 0x80) :: rest) =
      continuation owed (bits * 64 + k) rest := by
  have hrange : ∀ k < 64, (0x80 ≤ UInt8.ofNat (k + 0x80) && UInt8.ofNat (k + 0x80) ≤ 0xBF) = true ∧
      (UInt8.ofNat (k + 0x80)).toNat - 0x80 = k := by decide
  obtain ⟨hrange, hvalue⟩ := hrange k hk
  rw [continuation, if_pos hrange, hvalue]

/-- A first byte with the bits `n`, and how many bytes are owed then. The second byte is held to
the shortest encoding of a character. -/
theorem followers_two : ∀ n < 32, 2 ≤ n →
    followers (UInt8.ofNat (n + 0xC0)) = some (0x80, 0xBF, 0) := by decide

theorem followers_three : ∀ n < 16, followers (UInt8.ofNat (n + 0xE0)) =
    some (if n = 0 then 0xA0 else 0x80, if n = 13 then 0x9F else 0xBF, 1) := by decide

theorem followers_four : ∀ n < 5, followers (UInt8.ofNat (n + 0xF0)) =
    some (if n = 0 then 0x90 else 0x80, if n = 4 then 0x8F else 0xBF, 2) := by decide

/-- The first byte of a longer sequence and the byte after it. -/
theorem nextChar_of_followers {first low high : UInt8} {owed k bits : Nat} {more left : Bytes}
    (hfirst : ¬ first < 0x80) (hfollowers : followers first = some (low, high, owed)) (hk : k < 64)
    (hlow : low.toNat ≤ k + 0x80) (hhigh : k + 0x80 ≤ high.toNat)
    (hbits : continuation owed
      ((first.toNat % if owed = 0 then 32 else if owed = 1 then 16 else 8) * 64 + k) more =
        (bits, true, left)) :
    nextChar first (UInt8.ofNat (k + 0x80) :: more) = (Char.ofNat bits, left) := by
  have hsecond : (UInt8.ofNat (k + 0x80)).toNat = k + 0x80 := by
    rw [UInt8.toNat_ofNat']
    exact Nat.mod_eq_of_lt (by omega)
  have hrange : (low ≤ UInt8.ofNat (k + 0x80) && UInt8.ofNat (k + 0x80) ≤ high) = true := by
    simp only [Bool.and_eq_true, decide_eq_true_eq, UInt8.le_iff_toNat_le, hsecond]
    exact ⟨hlow, hhigh⟩
  simp only [nextChar, if_neg hfirst, hfollowers, hrange, if_true, hsecond, Nat.add_sub_cancel,
    hbits]

theorem nextChar_two {n k : Nat} (hn : n < 32) (hshort : 2 ≤ n) (hk : k < 64) (rest : Bytes) :
    nextChar (UInt8.ofNat (n + 0xC0)) (UInt8.ofNat (k + 0x80) :: rest) =
      (Char.ofNat (n * 64 + k), rest) := by
  have hfirst : ∀ n < 32, ¬ UInt8.ofNat (n + 0xC0) < 0x80 ∧
      (UInt8.ofNat (n + 0xC0)).toNat % 32 = n := by decide
  obtain ⟨hfirst, hbits⟩ := hfirst n hn
  refine nextChar_of_followers hfirst (followers_two n hn hshort) hk ?_ ?_ ?_
  · exact Nat.le_add_left ..
  · exact Nat.le_of_lt_succ (Nat.add_lt_add_right hk 0x80)
  · rw [if_pos rfl, hbits, continuation]

theorem nextChar_three {n j k : Nat} (hn : n < 16) (hj : j < 64) (hk : k < 64)
    (hshort : n = 0 → 0x20 ≤ j) (hsurrogate : n = 13 → j < 0x20) (rest : Bytes) :
    nextChar (UInt8.ofNat (n + 0xE0))
        (UInt8.ofNat (j + 0x80) :: UInt8.ofNat (k + 0x80) :: rest) =
      (Char.ofNat ((n * 64 + j) * 64 + k), rest) := by
  have hfirst : ∀ n < 16, ¬ UInt8.ofNat (n + 0xE0) < 0x80 ∧
      (UInt8.ofNat (n + 0xE0)).toNat % 16 = n := by decide
  obtain ⟨hfirst, hbits⟩ := hfirst n hn
  refine nextChar_of_followers hfirst (followers_three n hn) hj ?_ ?_ ?_
  · split
    · exact Nat.add_le_add_right (hshort ‹_›) 0x80
    · exact Nat.le_add_left ..
  · split
    · exact Nat.le_of_lt_succ (Nat.add_lt_add_right (hsurrogate ‹_›) 0x80)
    · exact Nat.le_of_lt_succ (Nat.add_lt_add_right hj 0x80)
  · rw [if_neg (by decide), if_pos rfl, hbits, continuation_ofNat hk, continuation]

theorem nextChar_four {n i j k : Nat} (hn : n < 5) (hi : i < 64) (hj : j < 64) (hk : k < 64)
    (hshort : n = 0 → 0x10 ≤ i) (hlast : n = 4 → i < 0x10) (rest : Bytes) :
    nextChar (UInt8.ofNat (n + 0xF0))
        (UInt8.ofNat (i + 0x80) :: UInt8.ofNat (j + 0x80) :: UInt8.ofNat (k + 0x80) :: rest) =
      (Char.ofNat (((n * 64 + i) * 64 + j) * 64 + k), rest) := by
  have hfirst : ∀ n < 5, ¬ UInt8.ofNat (n + 0xF0) < 0x80 ∧
      (UInt8.ofNat (n + 0xF0)).toNat % 8 = n := by decide
  obtain ⟨hfirst, hbits⟩ := hfirst n hn
  refine nextChar_of_followers hfirst (followers_four n hn) hi ?_ ?_ ?_
  · split
    · exact Nat.add_le_add_right (hshort ‹_›) 0x80
    · exact Nat.le_add_left ..
  · split
    · exact Nat.le_of_lt_succ (Nat.add_lt_add_right (hlast ‹_›) 0x80)
    · exact Nat.le_of_lt_succ (Nat.add_lt_add_right hi 0x80)
  · rw [if_neg (by decide), if_neg (by decide), hbits, continuation_ofNat hj,
      continuation_ofNat hk, continuation]

/-! ### Texts -/

/-- The first character of an encoded text is read, and nothing else of it. -/
theorem nextChar_utf8EncodeChar (c : Char) (rest : Bytes) :
    ∃ b more, String.utf8EncodeChar c = b :: more ∧ nextChar b (more ++ rest) = (c, rest) := by
  have hvalid : c.val.toNat < 0xD800 ∨ 0xDFFF < c.val.toNat ∧ c.val.toNat < 0x110000 := c.valid
  have hc : Char.ofNat c.val.toNat = c := Char.ofNat_toNat c
  have hmod : ∀ m, m % 0x40 < 64 := fun m => Nat.mod_lt m (by decide)
  unfold String.utf8EncodeChar
  generalize c.val.toNat = v at hvalid hc ⊢
  by_cases h1 : v ≤ 0x7F
  · have hfirst : UInt8.ofNat v < 0x80 ∧ (UInt8.ofNat v).toNat = v := by
      have hascii : ∀ v < 0x80, UInt8.ofNat v < 0x80 ∧ (UInt8.ofNat v).toNat = v := by decide
      exact hascii v (Nat.lt_succ_of_le h1)
    refine ⟨_, _, if_pos h1, ?_⟩
    simp only [nextChar, if_pos hfirst.1, hfirst.2, hc, List.nil_append]
  by_cases h2 : v ≤ 0x7FF
  · refine ⟨_, _, by rw [if_neg h1, if_pos h2], ?_⟩
    refine (nextChar_two (Nat.mod_lt _ (by decide)) (by omega) (hmod v) rest).trans ?_
    rw [← hc]
    congr 2
    omega
  by_cases h3 : v ≤ 0xFFFF
  · refine ⟨_, _, by rw [if_neg h1, if_neg h2, if_pos h3], ?_⟩
    refine (nextChar_three (Nat.mod_lt _ (by decide)) (hmod (v / 64)) (hmod v) (by omega)
      (by omega) rest).trans ?_
    rw [← hc]
    congr 2
    omega
  · refine ⟨_, _, by rw [if_neg h1, if_neg h2, if_neg h3], ?_⟩
    refine (nextChar_four (by omega) (hmod (v / 4096)) (hmod (v / 64)) (hmod v) (by omega)
      (by omega) rest).trans ?_
    rw [← hc]
    congr 2
    omega

theorem lossyChars_flatMap {cs : List Char} {fuel : Nat}
    (h : (cs.flatMap String.utf8EncodeChar).length ≤ fuel) :
    lossyChars fuel (cs.flatMap String.utf8EncodeChar) = cs := by
  induction cs generalizing fuel with
  | nil => cases fuel <;> rfl
  | cons c cs ih =>
    obtain ⟨b, more, hc, hnext⟩ := nextChar_utf8EncodeChar c (cs.flatMap String.utf8EncodeChar)
    rw [List.flatMap_cons, hc, List.cons_append] at h ⊢
    cases fuel with
    | zero => exact absurd h (Nat.not_succ_le_zero _)
    | succ fuel =>
      simp only [List.length_cons, List.length_append] at h
      rw [lossyChars, hnext]
      exact congrArg _ (ih (by omega))

/-- Reading an encoded text replaces nothing. -/
@[simp] theorem lossyText_textBytes (s : String) : lossyText (textBytes s) = s := by
  rw [textBytes_eq_flatMap, lossyText, lossyChars_flatMap (Nat.le_refl _), String.ofList_toList]

/-- Texts with the same encoding are the same. -/
theorem textBytes_injective : Function.Injective textBytes := fun s t h => by
  rw [← lossyText_textBytes s, h, lossyText_textBytes]

/-- Bytes that are read as a text are its encoding. -/
theorem text?_eq_some_iff {b : Bytes} {s : String} : text? b = some s ↔ textBytes s = b := by
  constructor
  · intro h
    rw [text?, String.fromUTF8?] at h
    split at h
    · cases h
      exact List.toList_toArray
    · cases h
  · rintro rfl
    exact text?_textBytes s

/-! ### Encodings -/

/-- The bytes are the encoding of a text. -/
def IsText (b : Bytes) : Prop := ∃ s, textBytes s = b

theorem isText_textBytes (s : String) : IsText (textBytes s) := ⟨s, rfl⟩

theorem IsText.textBytes_lossyText {b : Bytes} (h : IsText b) : textBytes (lossyText b) = b := by
  obtain ⟨s, rfl⟩ := h
  rw [lossyText_textBytes]

theorem IsText.append {b c : Bytes} (hb : IsText b) (hc : IsText c) : IsText (b ++ c) := by
  obtain ⟨s, rfl⟩ := hb
  obtain ⟨t, rfl⟩ := hc
  exact ⟨s ++ t, textBytes_append s t⟩

theorem isText_utf8EncodeChar (c : Char) : IsText (String.utf8EncodeChar c) :=
  ⟨String.ofList [c], by rw [textBytes_ofList, List.flatMap_singleton]⟩

/-- A character is a single byte of ASCII, or has none of them in its encoding. -/
theorem utf8EncodeChar_cases (c : Char) :
    (∃ b, b < 0x80 ∧ String.utf8EncodeChar c = [b]) ∨
      ∀ b ∈ String.utf8EncodeChar c, ¬ b < 0x80 := by
  have hascii : ∀ v < 0x80, UInt8.ofNat v < 0x80 := by decide
  have hmore : ∀ k < 64, ¬ UInt8.ofNat (k + 0x80) < 0x80 := by decide
  have htwo : ∀ n < 32, ¬ UInt8.ofNat (n + 0xC0) < 0x80 := by decide
  have hthree : ∀ n < 16, ¬ UInt8.ofNat (n + 0xE0) < 0x80 := by decide
  have hfour : ∀ n < 8, ¬ UInt8.ofNat (n + 0xF0) < 0x80 := by decide
  have hmod : ∀ m, ¬ UInt8.ofNat (m % 0x40 + 0x80) < 0x80 := fun m =>
    hmore _ (Nat.mod_lt m (by decide))
  unfold String.utf8EncodeChar
  dsimp only
  split
  · rename_i h
    exact Or.inl ⟨_, hascii _ (Nat.lt_succ_of_le h), rfl⟩
  refine Or.inr ?_
  split
  · simp only [List.forall_mem_cons]
    exact ⟨htwo _ (Nat.mod_lt _ (by decide)), hmod _, nofun⟩
  split
  · simp only [List.forall_mem_cons]
    exact ⟨hthree _ (Nat.mod_lt _ (by decide)), hmod _, hmod _, nofun⟩
  · simp only [List.forall_mem_cons]
    exact ⟨hfour _ (Nat.mod_lt _ (by decide)), hmod _, hmod _, hmod _, nofun⟩

theorem utf8EncodeChar_ofNat :
    ∀ n < 0x80, String.utf8EncodeChar (Char.ofNat n) = [UInt8.ofNat n] := by decide

theorem isText_of_ascii {b : Bytes} (h : ∀ x ∈ b, x < 0x80) : IsText b := by
  induction b with
  | nil => exact isText_textBytes ""
  | cons x b ih =>
    obtain ⟨hx, hb⟩ := List.forall_mem_cons.mp h
    have hchar := utf8EncodeChar_ofNat x.toNat hx
    rw [UInt8.ofNat_toNat] at hchar
    exact (hchar ▸ isText_utf8EncodeChar (Char.ofNat x.toNat)).append (ih hb)

/-- For fixed bytes the test can be computed. -/
theorem isText_of_all {b : Bytes} (h : b.all (· < 0x80) = true) : IsText b :=
  isText_of_ascii fun x hx => of_decide_eq_true (List.all_eq_true.mp h x hx)

/-! ### Characters of ASCII -/

theorem utf8EncodeChar_of_lt {c : Char} (hc : c.toNat < 0x80) :
    String.utf8EncodeChar c = [asciiByte c] := by
  have h := utf8EncodeChar_ofNat c.toNat hc
  rwa [Char.ofNat_toNat] at h

theorem asciiByte_lt {c : Char} (hc : c.toNat < 0x80) : asciiByte c < 0x80 := by
  have hascii : ∀ n < 0x80, n.toUInt8 < 0x80 := by decide
  exact hascii c.toNat hc

/-- A character of ASCII stands in a text if its byte stands in the encoding. -/
theorem asciiByte_mem_textBytes_iff {c : Char} (hc : c.toNat < 0x80) {s : String} :
    asciiByte c ∈ textBytes s ↔ c ∈ s.toList := by
  rw [textBytes_eq_flatMap, List.mem_flatMap]
  constructor
  · rintro ⟨d, hd, hmem⟩
    -- The byte is no part of a longer encoding, so it is the whole encoding of a character.
    rcases utf8EncodeChar_cases d with ⟨b, -, hb⟩ | hlong
    · rw [hb, List.mem_singleton] at hmem
      have hsame : textBytes (String.ofList [d]) = textBytes (String.ofList [c]) := by
        rw [textBytes_ofList, textBytes_ofList, List.flatMap_singleton, List.flatMap_singleton,
          hb, utf8EncodeChar_of_lt hc, hmem]
      have hchar : d = c := by simpa using textBytes_injective hsame
      exact hchar ▸ hd
    · exact absurd (asciiByte_lt hc) (hlong _ hmem)
  · intro h
    refine ⟨c, h, ?_⟩
    rw [utf8EncodeChar_of_lt hc]
    exact List.mem_singleton_self _

end Bytes
end LabLifecycle
