import LabLifecycle.Json.Decode
import LabLifecycle.Proofs.Json.ReadBack
import LabLifecycle.Proofs.Text.Encoding

/-!
# Written documents

A written document is the encoding of a text, so it can be kept as a text and comes out of it
unchanged. Decoded again, it gives what its value decodes to, with any white space after it.
-/
namespace LabLifecycle.Json

open Bytes (IsText isText_of_all isText_of_ascii isText_textBytes)

/-! ### Documents are texts -/

theorem escapeByte_of_ascii {b : UInt8} (h : b < 0x80) : ∀ e ∈ escapeByte b, e < 0x80 := by
  have hascii : ∀ n < 0x80, (escapeByte (UInt8.ofNat n)).all (· < 0x80) = true := by decide
  have hb := hascii b.toNat h
  rw [UInt8.ofNat_toNat] at hb
  exact fun e he => of_decide_eq_true (List.all_eq_true.mp hb e he)

theorem escapeByte_of_not_ascii {b : UInt8} (h : ¬ b < 0x80) : escapeByte b = [b] := by
  have hne : ∀ c, c < 0x80 → (b == c) = false := by
    rintro c hc
    rw [beq_eq_false_iff_ne]
    rintro rfl
    exact h hc
  have hcontrol : ¬ b < 0x20 := fun hlt => h (UInt8.lt_trans hlt (by decide))
  simp only [escapeByte, hne 0x22 (by decide), hne 0x5C (by decide), hne 0x08 (by decide),
    hne 0x09 (by decide), hne 0x0A (by decide), hne 0x0C (by decide), hne 0x0D (by decide),
    hcontrol, Bool.false_eq_true, if_false]

theorem flatMap_escapeByte_of_not_ascii {bytes : Bytes} (h : ∀ b ∈ bytes, ¬ b < 0x80) :
    bytes.flatMap escapeByte = bytes := by
  induction bytes with
  | nil => rfl
  | cons b bytes ih =>
    obtain ⟨hb, hbytes⟩ := List.forall_mem_cons.mp h
    rw [List.flatMap_cons, escapeByte_of_not_ascii hb, ih hbytes, List.singleton_append]

theorem isText_flatMap_escapeByte (cs : List Char) :
    IsText ((cs.flatMap String.utf8EncodeChar).flatMap escapeByte) := by
  induction cs with
  | nil => exact isText_textBytes ""
  | cons c cs ih =>
    rw [List.flatMap_cons, List.flatMap_append]
    refine IsText.append ?_ ih
    rcases Bytes.utf8EncodeChar_cases c with ⟨b, hb, hc⟩ | hc
    · rw [hc, List.flatMap_singleton]
      exact isText_of_ascii (escapeByte_of_ascii hb)
    · rw [flatMap_escapeByte_of_not_ascii hc]
      exact Bytes.isText_utf8EncodeChar c

theorem isText_printText (s : String) : IsText (printText s) := by
  rw [printText, textBytes_eq_flatMap]
  exact (isText_of_all (b := [0x22]) (by decide)).append
    ((isText_flatMap_escapeByte _).append (isText_of_all (by decide)))

theorem isText_decimal (n : Nat) : IsText (Bytes.decimal n) := by
  refine isText_of_ascii fun b hb => ?_
  have hdigit := (Bytes.isDecimal_decimal n).digit b hb
  simp only [Bytes.isDigit, Bool.and_eq_true, decide_eq_true_eq] at hdigit
  exact UInt8.lt_of_le_of_lt hdigit.2 (by decide)

theorem isText_printNumber (n : Number) : IsText (printNumber n) := by
  cases n with
  | float x => exact isText_textBytes _
  | int z =>
    cases z with
    | ofNat n => exact isText_decimal n
    | negSucc n => exact (isText_of_all (b := [0x2D]) (by decide)).append (isText_decimal (n + 1))

theorem isText_newline (l : Layout) (depth : Nat) : IsText (l.newline depth) := by
  refine isText_of_ascii fun b hb => ?_
  rcases eq_of_isSpace (isSpace_of_mem_newline b hb) with rfl | rfl | rfl | rfl <;> decide

theorem isText_colon (l : Layout) : IsText l.colon :=
  isText_of_all (by cases l <;> decide)

/-- A byte of ASCII before the encoding of a text. -/
theorem isText_cons {b : UInt8} {rest : Bytes} (hb : b < 0x80) (h : IsText rest) :
    IsText (b :: rest) :=
  (isText_of_ascii (b := [b]) (by simpa using hb)).append h

mutual

theorem isText_printAt (l : Layout) : (depth : Nat) → (v : Value) → IsText (printAt l depth v)
  | _, .null => by
    rw [printAt]
    exact isText_textBytes _
  | _, .bool b => by
    rw [printAt]
    cases b
    all_goals exact isText_textBytes _
  | _, .number n => by
    rw [printAt]
    exact isText_printNumber n
  | _, .text s => by
    rw [printAt]
    exact isText_printText s
  | _, .array [] => by
    rw [printAt]
    exact isText_of_all (by decide)
  | depth, .array (v :: rest) => by
    rw [printAt]
    exact isText_cons (by decide) <| ((((isText_newline l _).append
      (isText_printAt l (depth + 1) v)).append (isText_printItems l (depth + 1) rest)).append
      (isText_newline l _)).append (isText_of_all (by decide))
  | _, .object [] => by
    rw [printAt]
    exact isText_of_all (by decide)
  | depth, .object ((k, v) :: rest) => by
    rw [printAt]
    exact isText_cons (by decide) <| ((((((isText_newline l _).append (isText_printText k)).append
      (isText_colon l)).append (isText_printAt l (depth + 1) v)).append
      (isText_printMembers l (depth + 1) rest)).append
      (isText_newline l _)).append (isText_of_all (by decide))

theorem isText_printItems (l : Layout) :
    (depth : Nat) → (items : List Value) → IsText (printItems l depth items)
  | _, [] => isText_textBytes ""
  | depth, v :: rest => by
    rw [printItems]
    exact isText_cons (by decide) <| ((isText_newline l _).append
      (isText_printAt l depth v)).append (isText_printItems l depth rest)

theorem isText_printMembers (l : Layout) :
    (depth : Nat) → (members : List (String × Value)) → IsText (printMembers l depth members)
  | _, [] => isText_textBytes ""
  | depth, (k, v) :: rest => by
    rw [printMembers]
    exact isText_cons (by decide) <| ((((isText_newline l _).append (isText_printText k)).append
      (isText_colon l)).append (isText_printAt l depth v)).append
      (isText_printMembers l depth rest)

end

/-- A document that is kept as text loses nothing. -/
theorem textBytes_printString (l : Layout) (v : Value) :
    textBytes (printString l v) = print l v :=
  (isText_printAt l 0 v).textBytes_lossyText

/-! ### Texts without escapes -/

/-- The character is a byte of ASCII that a string has as it is. -/
def IsPlain (c : Char) : Prop := c.toNat < 0x80 ∧ escapeByte (asciiByte c) = [asciiByte c]

instance (c : Char) : Decidable (IsPlain c) :=
  inferInstanceAs (Decidable (c.toNat < 0x80 ∧ escapeByte (asciiByte c) = [asciiByte c]))

theorem flatMap_escapeByte_of_plain {cs : List Char} (h : ∀ c ∈ cs, IsPlain c) :
    (cs.flatMap String.utf8EncodeChar).flatMap escapeByte = cs.flatMap String.utf8EncodeChar := by
  induction cs with
  | nil => rfl
  | cons c cs ih =>
    obtain ⟨⟨hascii, hescape⟩, hcs⟩ := List.forall_mem_cons.mp h
    rw [List.flatMap_cons, List.flatMap_append, Bytes.utf8EncodeChar_of_lt hascii,
      List.flatMap_singleton, hescape, ih hcs]

/-- A text of plain characters is written between quotes. -/
theorem printString_text {s : String} (h : ∀ c ∈ s.toList, IsPlain c) (l : Layout) :
    printString l (.text s) = "\"" ++ s ++ "\"" := by
  refine Bytes.textBytes_injective ?_
  rw [textBytes_printString, print, printAt, printText, textBytes_append, textBytes_append,
    textBytes_eq_flatMap s, flatMap_escapeByte_of_plain h]
  rfl

/-! ### Decoding a document -/

/-- A written document with white space after it is decoded as what it is read as. -/
theorem decode_of_readsAs {α : Type} {decoder : Decoder α} {l : Layout} {v : Value} {r : Reading}
    (h : ReadsAs l v r) {space : Bytes} (hspace : ∀ b ∈ space, isSpace b = true) :
    decode decoder (print l v ++ space) = decoder depthLimit r := by
  have hdelimited : Delimited space := by
    have hempty : Delimited [] := nofun
    simpa using delimited_append_of_space hspace hempty
  have hskip : skipSpace space = [] := by
    have h := skipSpace_append hspace []
    rwa [List.append_nil] at h
  rw [decode, read_print h hdelimited]
  cases hdecode : decoder depthLimit r with
  | error fault => simp only [hdecode, bind, Except.bind]
  | ok a =>
    simp only [hdecode, bind, Except.bind, sound, hskip]
    rfl

/-- A written document with white space after it is decoded as its value. -/
theorem decode_print {α : Type} {decoder : Decoder α} {l : Layout} {v : Value} {depth : Nat}
    (hv : v.Fits (fun n => n.IsInt ∧ n.InRange) depth) {a : α}
    (ha : decoder depthLimit v.reading = .ok a) {space : Bytes}
    (hspace : ∀ b ∈ space, isSpace b = true) :
    decode decoder (print l v ++ space) = .ok a := by
  rw [decode_of_readsAs (readsBack_of_fits hv) hspace, ha]

/-- A document that is decoded was read, and its reading was decoded. -/
theorem of_decode {α : Type} {decoder : Decoder α} {document : Bytes} {a : α}
    (h : decode decoder document = .ok a) : decoder depthLimit (read document).1 = .ok a := by
  unfold decode at h
  generalize hread : read document = pair at h ⊢
  obtain ⟨reading, rest⟩ := pair
  cases hdecode : decoder depthLimit reading with
  | error fault => simp [hdecode, bind, Except.bind] at h
  | ok b =>
    simp only [hdecode, bind, Except.bind] at h
    split at h
    · cases h
    · split at h
      · cases h
        rfl
      · cases h

end LabLifecycle.Json
