import LabLifecycle.Proofs.Json.Extent
import LabLifecycle.Proofs.Json.Literals
import Mathlib.Data.List.Forall2

/-!
# Reading what was written

What a written value is read as follows from what its parts are read as, in either layout and
whatever follows it. It is read back as the value itself as long as the numbers in it are integers
of 64 bits. Floating-point numbers are left aside: their notation is read with a rounding of its
own.
-/
namespace LabLifecycle

namespace Json

open Bytes (IsDecimal isDigit)

/-! ### Strings -/

theorem hexValue_hexDigit :
    ∀ n < 32, hexValue (hexDigit (UInt8.ofNat n / 16)) = some (n / 16) ∧
      hexValue (hexDigit (UInt8.ofNat n % 16)) = some (n % 16) := by decide

theorem encodeCode_of_lt : ∀ n < 32, encodeCode n = [UInt8.ofNat n] := by decide

/-- How a byte of a text is written: with a letter, with its code, or as it is. -/
inductive Escaped (b : UInt8) : Bytes → Prop
  | letter {e : UInt8} (he : e ≠ 0x75) (hsimple : simpleEscape e = some b) : Escaped b [0x5C, e]
  | code (hlt : b.toNat < 32) :
      Escaped b [0x5C, 0x75, 0x30, 0x30, hexDigit (b / 16), hexDigit (b % 16)]
  | plain (hquote : b ≠ 0x22) (hslash : b ≠ 0x5C) (hge : ¬ b < 0x20) : Escaped b [b]

theorem Escaped.ite {b c e : UInt8} {written : Bytes} (he : e ≠ 0x75)
    (hsimple : simpleEscape e = some c) (hwritten : b ≠ c → Escaped b written) :
    Escaped b (if b == c then [0x5C, e] else written) := by
  split
  · rename_i h
    rw [eq_of_beq h]
    exact .letter he hsimple
  · rename_i h
    exact hwritten (by simpa using h)

theorem escaped_escapeByte (b : UInt8) : Escaped b (escapeByte b) := by
  refine .ite (by decide) rfl fun hquote => .ite (by decide) rfl fun hslash =>
    .ite (by decide) rfl fun _ => .ite (by decide) rfl fun _ => .ite (by decide) rfl fun _ =>
    .ite (by decide) rfl fun _ => .ite (by decide) rfl fun _ => ?_
  split
  · rename_i hlt
    exact .code hlt
  · rename_i hge
    exact .plain hquote hslash hge

theorem readHex_code {b : UInt8} (hlt : b.toNat < 32) (rest : Bytes) :
    readHex (0x30 :: 0x30 :: hexDigit (b / 16) :: hexDigit (b % 16) :: rest) =
      .ok (b.toNat, rest) := by
  obtain ⟨hhigh, hlow⟩ := hexValue_hexDigit _ hlt
  have hzero : hexValue 0x30 = some 0 := rfl
  rw [UInt8.ofNat_toNat] at hhigh hlow
  simp only [readHex, hzero, hhigh, hlow]
  congr 2
  omega

theorem readString_escapeByte (fuel : Nat) (c : Content) (b : UInt8) (rest : Bytes) :
    readString (fuel + 1) c (escapeByte b ++ rest) = readString fuel (c.add [b]) rest := by
  have hescaped := escaped_escapeByte b
  generalize escapeByte b = written at hescaped
  cases hescaped with
  | letter he hsimple => simp [readString, hsimple]
  | code hlt =>
    have hcode := encodeCode_of_lt _ hlt
    rw [UInt8.ofNat_toNat] at hcode
    have hlow : ¬ 0xDC00 ≤ b.toNat := by omega
    have hhigh : ¬ 0xD800 ≤ b.toNat := by omega
    simp [readString, readHex_code hlt, hcode, hlow, hhigh]
  | plain hquote hslash hge => simp [readString, hquote, hslash, hge]

theorem readString_flatMap_escapeByte {bytes : Bytes} {fuel : Nat} (h : bytes.length < fuel)
    (done rest : Bytes) :
    readString fuel (.ok done) (bytes.flatMap escapeByte ++ 0x22 :: rest) =
      (Content.text (.ok (bytes.reverse ++ done)), .ok rest) := by
  induction bytes generalizing fuel done with
  | nil =>
    obtain ⟨fuel, rfl⟩ := Nat.exists_eq_add_one_of_ne_zero (Nat.ne_of_gt h)
    simp [readString]
  | cons b bytes ih =>
    rw [List.length_cons] at h
    obtain ⟨fuel, rfl⟩ := Nat.exists_eq_add_one_of_ne_zero (by omega : fuel ≠ 0)
    rw [List.flatMap_cons, List.append_assoc, readString_escapeByte]
    have hrest := ih (by omega : bytes.length < fuel) (b :: done)
    simpa [Content.add, Except.map] using hrest

/-- A written text without its opening quote. -/
def quoted (s : String) : Bytes := (textBytes s).flatMap escapeByte ++ [0x22]

theorem printText_eq (s : String) : printText s = 0x22 :: quoted s := rfl

theorem length_textBytes_lt (s : String) : (textBytes s).length < (quoted s).length := by
  have hlength : ∀ bytes : Bytes, bytes.length ≤ (bytes.flatMap escapeByte).length := by
    intro bytes
    induction bytes with
    | nil => exact Nat.le_refl _
    | cons b bytes ih =>
      have hpos : 0 < (escapeByte b).length := by
        have hescaped := escaped_escapeByte b
        generalize escapeByte b = written at hescaped ⊢
        cases hescaped <;> exact Nat.succ_pos _
      rw [List.flatMap_cons, List.length_append, List.length_cons]
      omega
  rw [quoted, List.length_append, List.length_singleton]
  exact Nat.lt_succ_of_le (hlength _)

theorem readString_quoted {s : String} {fuel : Nat} (h : (quoted s).length ≤ fuel) (rest : Bytes) :
    readString fuel (.ok []) (quoted s ++ rest) = (.ok s, .ok rest) := by
  have hfuel := Nat.lt_of_lt_of_le (length_textBytes_lt s) h
  have hread := readString_flatMap_escapeByte hfuel [] rest
  have htext : Content.text (.ok ((textBytes s).reverse ++ [])) = .ok s := by
    simp [Content.text, bind, Except.bind]
  rw [htext] at hread
  simpa [quoted] using hread

/-! ### White space -/

theorem skipSpace_append {space : Bytes} (h : ∀ b ∈ space, isSpace b = true) (rest : Bytes) :
    skipSpace (space ++ rest) = skipSpace rest := by
  induction space with
  | nil => rfl
  | cons b space ih =>
    rw [List.cons_append, skipSpace, if_pos (h b (List.mem_cons_self ..))]
    exact ih fun c hc => h c (List.mem_cons_of_mem _ hc)

theorem skipSpace_cons {b : UInt8} (h : isSpace b = false) (rest : Bytes) :
    skipSpace (b :: rest) = b :: rest := by
  rw [skipSpace, if_neg (by simp [h])]

theorem eq_of_isSpace {b : UInt8} (h : isSpace b = true) :
    b = 0x20 ∨ b = 0x09 ∨ b = 0x0A ∨ b = 0x0D := by
  simpa only [isSpace, Bool.or_eq_true, beq_iff_eq, or_assoc] using h

theorem isSpace_of_isDigit {b : UInt8} (hb : isDigit b = true) : isSpace b = false := by
  have hne : ∀ c, isDigit c = false → (b == c) = false := fun c => Bytes.beq_of_isDigit hb
  simp [isSpace, hne 0x20 rfl, hne 0x09 rfl, hne 0x0A rfl, hne 0x0D rfl]

theorem isSpace_of_mem_newline {l : Layout} {depth : Nat} :
    ∀ b ∈ l.newline depth, isSpace b = true := by
  intro b hb
  cases l with
  | compact => cases hb
  | indented =>
    rcases List.mem_cons.mp hb with rfl | hb
    · rfl
    · rw [List.eq_of_mem_replicate hb]
      rfl

theorem skipSpace_newline {l : Layout} {depth : Nat} {b : UInt8} (h : isSpace b = false)
    (rest : Bytes) : skipSpace (l.newline depth ++ b :: rest) = b :: rest := by
  rw [skipSpace_append isSpace_of_mem_newline, skipSpace_cons h]

theorem readValue_append_of_space {space : Bytes} (h : ∀ b ∈ space, isSpace b = true)
    (fuel : Nat) (rest : Bytes) : readValue fuel (space ++ rest) = readValue fuel rest := by
  cases fuel with
  | zero => rfl
  | succ fuel => simp only [readValue, skipSpace_append h]

theorem readItems_append_of_space {space : Bytes} (h : ∀ b ∈ space, isSpace b = true)
    (fuel : Nat) (rest : Bytes) : readItems fuel (space ++ rest) = readItems fuel rest := by
  cases fuel with
  | zero => rfl
  | succ fuel => simp only [readItems, readValue_append_of_space h]

theorem delimited_cons {b : UInt8} (h : isDigit b = false ∧ b ≠ 0x2E ∧ b ≠ 0x65 ∧ b ≠ 0x45)
    (rest : Bytes) : Delimited (b :: rest) := by
  intro c hc
  cases hc
  exact h

theorem delimited_append_of_space {space rest : Bytes} (h : ∀ b ∈ space, isSpace b = true)
    (hrest : Delimited rest) : Delimited (space ++ rest) := by
  cases space with
  | nil => exact hrest
  | cons b space =>
    refine delimited_cons ?_ _
    rcases eq_of_isSpace (h b (List.mem_cons_self ..)) with rfl | rfl | rfl | rfl <;> decide

/-! ### Values -/

mutual

/-- What a document says that holds the value. -/
def Value.reading : Value → Reading
  | .null => .null
  | .bool b => .bool b
  | .number n => .number (.ok n)
  | .text s => .text (.ok s)
  | .array items => .array (readingOfItems items) .closed
  | .object members => .object (readingOfMembers members) .closed

/-- What a document says that holds some items. -/
def readingOfItems : List Value → List Reading
  | [] => []
  | v :: rest => v.reading :: readingOfItems rest

/-- What a document says that holds some members. -/
def readingOfMembers : List (String × Value) → List (Except Flaw String × Reading)
  | [] => []
  | (k, v) :: rest => (.ok k, v.reading) :: readingOfMembers rest

end

theorem readingOfItems_eq_map (items : List Value) :
    readingOfItems items = items.map Value.reading := by
  induction items with
  | nil => rfl
  | cons v rest ih => rw [readingOfItems, ih, List.map_cons]

theorem readingOfMembers_eq_map (members : List (String × Value)) :
    readingOfMembers members = members.map fun m => (.ok m.1, m.2.reading) := by
  induction members with
  | nil => rfl
  | cons m rest ih => rw [readingOfMembers, ih, List.map_cons]

/-- What is written of a value is read in some way, whatever follows, and cannot be taken for the
end of a list. -/
structure ReadsAs (l : Layout) (v : Value) (r : Reading) : Prop where
  start : ∀ depth, ∃ b rest, printAt l depth v = b :: rest ∧ isSpace b = false ∧ b ≠ 0x5D
  read : ∀ depth fuel rest, (printAt l depth v).length ≤ fuel → Delimited rest →
    readValue fuel (printAt l depth v ++ rest) = (r, .ok rest)

/-- A written value is read back. -/
def ReadsBack (l : Layout) (v : Value) : Prop := ReadsAs l v v.reading

section Tokens
variable (fuel : Nat) (rest : Bytes)

theorem readValue_digit {b : UInt8} (hb : isDigit b = true) :
    readValue (fuel + 1) (b :: rest) = readNumber false (b :: rest) := by
  have hne : ∀ c, isDigit c = false → (b == c) = false := fun c => Bytes.beq_of_isDigit hb
  simp [readValue, skipSpace_cons (isSpace_of_isDigit hb), hb, hne 0x6E rfl, hne 0x74 rfl,
    hne 0x66 rfl, hne 0x2D rfl]

theorem readValue_minus : readValue (fuel + 1) (0x2D :: rest) = readNumber true rest := rfl

theorem readValue_quote : readValue (fuel + 1) (0x22 :: rest) =
    (.text (readString fuel (.ok []) rest).1, (readString fuel (.ok []) rest).2) := rfl

theorem readValue_array {b : UInt8} {items : Bytes} (hskip : skipSpace rest = b :: items)
    (hb : b ≠ 0x5D) : readValue (fuel + 1) (0x5B :: rest) =
      (.array (readItems fuel (b :: items)).1 (.ofRest (readItems fuel (b :: items)).2),
        (readItems fuel (b :: items)).2) := by
  have hopen : skipSpace (0x5B :: rest) = 0x5B :: rest := rfl
  have hdigit : isDigit 0x5B = false := rfl
  simp [readValue, hopen, hdigit, hskip, hb]

theorem readValue_object {members : Bytes} (hskip : skipSpace rest = 0x22 :: members) :
    readValue (fuel + 1) (0x7B :: rest) =
      (.object (readMembers fuel members).1 (.ofRest (readMembers fuel members).2),
        (readMembers fuel members).2) := by
  have hopen : skipSpace (0x7B :: rest) = 0x7B :: rest := rfl
  have hdigit : isDigit 0x7B = false := rfl
  simp [readValue, hopen, hdigit, hskip]

end Tokens

variable {l : Layout} {r : Reading}

/-- Something is written, so there is fuel for a first step. -/
theorem ReadsAs.of_succ {v : Value}
    (hstart : ∀ depth, ∃ b rest, printAt l depth v = b :: rest ∧ isSpace b = false ∧ b ≠ 0x5D)
    (hread : ∀ depth fuel rest, (printAt l depth v).length ≤ fuel + 1 → Delimited rest →
      readValue (fuel + 1) (printAt l depth v ++ rest) = (r, .ok rest)) :
    ReadsAs l v r := by
  refine ⟨hstart, fun depth fuel rest hfuel hrest => ?_⟩
  cases fuel with
  | zero =>
    obtain ⟨b, written, hb, -⟩ := hstart depth
    rw [hb] at hfuel
    exact absurd hfuel (Nat.not_succ_le_zero _)
  | succ fuel => exact hread depth fuel rest hfuel hrest

/-- A value that is written in the same way at every depth. -/
theorem ReadsAs.of_printed {v : Value} {b : UInt8} {written : Bytes}
    (hprint : ∀ depth, printAt l depth v = b :: written) (hspace : isSpace b = false)
    (hclose : b ≠ 0x5D) (hread : ∀ fuel rest, written.length ≤ fuel → Delimited rest →
      readValue (fuel + 1) (b :: (written ++ rest)) = (r, .ok rest)) :
    ReadsAs l v r := by
  refine .of_succ (fun depth => ⟨b, written, hprint depth, hspace, hclose⟩) ?_
  intro depth fuel rest hfuel hrest
  rw [hprint, List.length_cons] at hfuel
  rw [hprint, List.cons_append]
  exact hread fuel rest (Nat.le_of_succ_le_succ hfuel) hrest

theorem readsBack_null : ReadsBack l .null :=
  ReadsAs.of_printed (b := 0x6E) (fun _ => by rw [printAt]; rfl) rfl (by decide) fun _ _ _ _ => rfl

theorem readsBack_bool (b : Bool) : ReadsBack l (.bool b) := by
  cases b with
  | true =>
    exact ReadsAs.of_printed (b := 0x74) (fun _ => by rw [printAt]; rfl) rfl (by decide)
      fun _ _ _ _ => rfl
  | false =>
    exact ReadsAs.of_printed (b := 0x66) (fun _ => by rw [printAt]; rfl) rfl (by decide)
      fun _ _ _ _ => rfl

/-- A literal is read as its number. -/
theorem ReadsAs.of_literal {v : Value} (n : Literal) (negative : Bool)
    (hprint : ∀ depth, printAt l depth v = (if negative then [0x2D] else []) ++ n.bytes) :
    ReadsAs l v (.number (n.number negative)) := by
  cases negative with
  | false =>
    obtain ⟨b, whole, hwhole⟩ := List.exists_cons_of_ne_nil n.isDigits_whole.ne_nil
    have hb : isDigit b = true := n.isDigits_whole.digit b (by simp [hwhole])
    have hclose : b ≠ 0x5D := beq_eq_false_iff_ne.mp (Bytes.beq_of_isDigit hb rfl)
    have hbytes : n.bytes =
        b :: (whole ++ (Literal.partBytes n.part ++ Literal.exponentBytes n.exponent)) := by
      rw [Literal.bytes, hwhole, List.cons_append]
    refine .of_printed (fun depth => (hprint depth).trans hbytes) (isSpace_of_isDigit hb) hclose ?_
    intro fuel rest _ hrest
    rw [readValue_digit _ _ hb, ← List.cons_append, ← hbytes, n.read false hrest]
  | true =>
    refine .of_printed hprint rfl (by decide) ?_
    intro fuel rest _ hrest
    rw [readValue_minus]
    exact n.read true hrest

/-- An integer is read as the number of its digits, however many there are. -/
theorem readsAs_int (z : Int) : ReadsAs l (.number (.int z))
    (.number (numberOf (decide (z < 0)) (Bytes.decimal z.natAbs) none none)) := by
  cases z with
  | ofNat n =>
    refine .of_literal (.ofDecimal (Bytes.isDecimal_decimal n)) false fun _ => ?_
    rw [printAt, printNumber, printInt, Literal.bytes_ofDecimal]
    rfl
  | negSucc n =>
    rw [decide_eq_true (Int.negSucc_lt_zero n)]
    refine .of_literal (.ofDecimal (Bytes.isDecimal_decimal (n + 1))) true fun _ => ?_
    rw [printAt, printNumber, printInt, Literal.bytes_ofDecimal]
    rfl

theorem readsBack_int {z : Int} (hz : (Number.int z).InRange) :
    ReadsBack l (.number (.int z)) := by
  obtain ⟨hlow, hhigh⟩ := hz
  have hdecimal := Bytes.isDecimal_decimal z.natAbs
  have hnumber : numberOf (decide (z < 0)) (Bytes.decimal z.natAbs) none none = .ok (.int z) := by
    by_cases hz : z < 0
    · rw [decide_eq_true hz, numberOf_neg_of_isDecimal hdecimal (by omega) (by omega)]
      congr 2
      omega
    · have hword : z.natAbs ≤ maxWord := by
        have hmax : maxWord = 0xFFFFFFFFFFFFFFFF := rfl
        omega
      rw [decide_eq_false hz, numberOf_of_isDecimal hdecimal hword]
      congr 2
      omega
  have hreads := readsAs_int (l := l) z
  rwa [hnumber] at hreads

theorem readsBack_text (s : String) : ReadsBack l (.text s) := by
  refine ReadsAs.of_printed (fun _ => by rw [printAt, printText_eq]) rfl (by decide) ?_
  intro fuel rest hfuel _
  rw [readValue_quote, readString_quoted hfuel]
  rfl

theorem readItems_last {v : Value} (hv : ReadsAs l v r) {depth fuel : Nat} {rest tail : Bytes}
    (hfuel : (printAt l depth v).length ≤ fuel) (hrest : Delimited rest)
    (hskip : skipSpace rest = 0x5D :: tail) :
    readItems (fuel + 1) (printAt l depth v ++ rest) = ([r], .ok tail) := by
  rw [readItems, hv.read depth fuel rest hfuel hrest]
  simp only [hskip]

theorem readItems_comma {v : Value} (hv : ReadsAs l v r) {depth fuel : Nat} {rest tail : Bytes}
    (hfuel : (printAt l depth v).length ≤ fuel) (hrest : Delimited rest)
    (hskip : skipSpace rest = 0x2C :: tail) :
    readItems (fuel + 1) (printAt l depth v ++ rest) =
      (r :: (readItems fuel tail).1, (readItems fuel tail).2) := by
  rw [readItems, hv.read depth fuel rest hfuel hrest]
  simp only [hskip]

/-- The induction is on the items after the first one. Each takes a comma at least, so there
is fuel left for the step from item to item. -/
theorem readItems_printItems {v : Value} {items : List Value} {readings : List Reading}
    (hv : ReadsAs l v r) (h : List.Forall₂ (ReadsAs l) items readings) {depth fuel : Nat}
    (hfuel : (printAt l depth v).length + (printItems l depth items).length < fuel)
    (outer : Nat) (rest : Bytes) :
    readItems fuel (printAt l depth v ++ (printItems l depth items ++
      (l.newline outer ++ 0x5D :: rest))) = (r :: readings, .ok rest) := by
  obtain ⟨fuel, rfl⟩ := Nat.exists_eq_add_one_of_ne_zero (Nat.ne_zero_of_lt hfuel)
  induction h generalizing v r fuel with
  | nil =>
    have hdelimited : Delimited (l.newline outer ++ 0x5D :: rest) :=
      delimited_append_of_space isSpace_of_mem_newline (delimited_cons (by decide) rest)
    rw [printItems, List.nil_append, readItems_last hv (by omega) hdelimited
      (skipSpace_newline rfl rest)]
  | cons hw _ ih =>
    simp only [printItems, List.length_cons, List.length_append] at hfuel
    obtain ⟨fuel, rfl⟩ := Nat.exists_eq_add_one_of_ne_zero (by omega : fuel ≠ 0)
    simp only [printItems, List.cons_append, List.append_assoc]
    rw [readItems_comma hv (by omega) (delimited_cons (by decide) _) (skipSpace_cons rfl _),
      readItems_append_of_space isSpace_of_mem_newline, ih hw fuel (by omega)]

theorem readsAs_array {items : List Value} {readings : List Reading}
    (h : List.Forall₂ (ReadsAs l) items readings) :
    ReadsAs l (.array items) (.array readings .closed) := by
  cases h with
  | nil =>
    refine .of_succ (fun depth => ⟨0x5B, [0x5D], by rw [printAt], rfl, by decide⟩) ?_
    intro depth fuel rest _ _
    rw [printAt]
    rfl
  | @cons v r items readings hv hitems =>
    refine .of_succ (fun depth => ⟨0x5B, _, by rw [printAt], rfl, by decide⟩) ?_
    intro depth fuel rest hfuel _
    simp only [printAt, List.length_cons, List.length_append] at hfuel
    obtain ⟨b, written, hwritten, hspace, hclose⟩ := hv.start (depth + 1)
    have hread := readItems_printItems hv hitems
      (by omega : (printAt l (depth + 1) v).length + (printItems l (depth + 1) items).length < fuel)
      depth rest
    simp only [hwritten, List.cons_append] at hread
    simp only [printAt, hwritten, List.cons_append, List.append_assoc, List.nil_append]
    rw [readValue_array _ _ (skipSpace_newline hspace _) hclose, hread]
    rfl

theorem readsBack_array {items : List Value} (h : ∀ v ∈ items, ReadsBack l v) :
    ReadsBack l (.array items) := by
  rw [ReadsBack, Value.reading, readingOfItems_eq_map]
  exact readsAs_array (List.forall₂_map_right_iff.mpr (List.forall₂_same.mpr h))

/-! ### Objects -/

theorem colon_eq (l : Layout) :
    ∃ space, (∀ b ∈ space, isSpace b = true) ∧ l.colon = 0x3A :: space := by
  cases l with
  | compact => exact ⟨[], by simp, rfl⟩
  | indented => exact ⟨[0x20], by simp [isSpace], rfl⟩

/-- What is written of a member is read as its name and a value. -/
def MemberReadsAs (l : Layout) (m : String × Value) (n : Except Flaw String × Reading) : Prop :=
  n.1 = .ok m.1 ∧ ReadsAs l m.2 n.2

section Members
variable {k : String} {v : Value} {depth fuel : Nat} {rest tail : Bytes}

theorem readMembers_last (hv : ReadsAs l v r) (hname : (quoted k).length ≤ fuel)
    (hfuel : (printAt l depth v).length ≤ fuel) (hrest : Delimited rest)
    (hskip : skipSpace rest = 0x7D :: tail) :
    readMembers (fuel + 1) (quoted k ++ (l.colon ++ (printAt l depth v ++ rest))) =
      ([(.ok k, r)], .ok tail) := by
  obtain ⟨space, hspace, hcolon⟩ := colon_eq l
  rw [readMembers, readString_quoted hname, hcolon]
  simp only [List.cons_append, skipSpace_cons (rfl : isSpace 0x3A = false),
    readValue_append_of_space hspace, hv.read depth fuel rest hfuel hrest, hskip]

theorem readMembers_comma {name : Bytes} (hv : ReadsAs l v r)
    (hname : (quoted k).length ≤ fuel) (hfuel : (printAt l depth v).length ≤ fuel)
    (hrest : Delimited rest) (hskip : skipSpace rest = 0x2C :: tail)
    (hquote : skipSpace tail = 0x22 :: name) :
    readMembers (fuel + 1) (quoted k ++ (l.colon ++ (printAt l depth v ++ rest))) =
      ((.ok k, r) :: (readMembers fuel name).1, (readMembers fuel name).2) := by
  obtain ⟨space, hspace, hcolon⟩ := colon_eq l
  rw [readMembers, readString_quoted hname, hcolon]
  simp only [List.cons_append, skipSpace_cons (rfl : isSpace 0x3A = false),
    readValue_append_of_space hspace, hv.read depth fuel rest hfuel hrest, hskip, hquote]

end Members

/-- The induction is on the members after the first one, as with items. -/
theorem readMembers_printMembers {k : String} {v : Value} {members : List (String × Value)}
    {readings : List (Except Flaw String × Reading)} (hv : ReadsAs l v r)
    (h : List.Forall₂ (MemberReadsAs l) members readings) {depth fuel : Nat}
    (hfuel : (quoted k).length + (printAt l depth v).length +
      (printMembers l depth members).length < fuel)
    (outer : Nat) (rest : Bytes) :
    readMembers fuel (quoted k ++ (l.colon ++ (printAt l depth v ++ (printMembers l depth members ++
      (l.newline outer ++ 0x7D :: rest))))) = ((.ok k, r) :: readings, .ok rest) := by
  obtain ⟨fuel, rfl⟩ := Nat.exists_eq_add_one_of_ne_zero (Nat.ne_zero_of_lt hfuel)
  induction h generalizing k v r fuel with
  | nil =>
    have hdelimited : Delimited (l.newline outer ++ 0x7D :: rest) :=
      delimited_append_of_space isSpace_of_mem_newline (delimited_cons (by decide) rest)
    rw [printMembers, List.nil_append, readMembers_last hv (by omega) (by omega) hdelimited
      (skipSpace_newline rfl rest)]
  | @cons m n _ _ hm _ ih =>
    obtain ⟨k', v'⟩ := m
    obtain ⟨name, r'⟩ := n
    obtain ⟨rfl, hv'⟩ : name = .ok k' ∧ ReadsAs l v' r' := hm
    simp only [printMembers, printText_eq, List.length_cons, List.length_append] at hfuel
    obtain ⟨fuel, rfl⟩ := Nat.exists_eq_add_one_of_ne_zero (by omega : fuel ≠ 0)
    simp only [printMembers, printText_eq, List.cons_append, List.append_assoc]
    rw [readMembers_comma hv (by omega) (by omega)
      (delimited_cons (by decide) _) (skipSpace_cons rfl _) (skipSpace_newline rfl _),
      ih hv' fuel (by omega)]

theorem readsAs_object {members : List (String × Value)}
    {readings : List (Except Flaw String × Reading)}
    (h : List.Forall₂ (MemberReadsAs l) members readings) :
    ReadsAs l (.object members) (.object readings .closed) := by
  cases h with
  | nil =>
    refine .of_succ (fun depth => ⟨0x7B, [0x7D], by rw [printAt], rfl, by decide⟩) ?_
    intro depth fuel rest _ _
    rw [printAt]
    rfl
  | @cons m n members readings hm hmembers =>
    obtain ⟨k, v⟩ := m
    obtain ⟨name, r⟩ := n
    obtain ⟨rfl, hv⟩ : name = .ok k ∧ ReadsAs l v r := hm
    refine .of_succ (fun depth => ⟨0x7B, _, by rw [printAt], rfl, by decide⟩) ?_
    intro depth fuel rest hfuel _
    simp only [printAt, printText_eq, List.length_cons, List.length_append] at hfuel
    have hread := readMembers_printMembers (k := k) hv hmembers (by omega :
      (quoted k).length + (printAt l (depth + 1) v).length +
        (printMembers l (depth + 1) members).length < fuel) depth rest
    simp only [printAt, printText_eq, List.cons_append, List.append_assoc, List.nil_append]
    rw [readValue_object _ _ (skipSpace_newline rfl _), hread]
    rfl

theorem readsBack_object {members : List (String × Value)}
    (h : ∀ m ∈ members, ReadsBack l m.2) : ReadsBack l (.object members) := by
  rw [ReadsBack, Value.reading, readingOfMembers_eq_map]
  exact readsAs_object (List.forall₂_map_right_iff.mpr
    (List.forall₂_same.mpr fun m hm => ⟨rfl, h m hm⟩))

/-! ### Documents -/

/-- The induction is on the levels of the value. -/
theorem readsBack_of_fits {depth : Nat} {v : Value}
    (h : v.Fits (fun n => n.IsInt ∧ n.InRange) depth) : ReadsBack l v := by
  induction depth using Nat.strongRecOn generalizing v with
  | ind depth ih =>
    cases v with
    | null => exact readsBack_null
    | bool b => exact readsBack_bool b
    | number n =>
      obtain ⟨hint, hrange⟩ := Value.fits_number.mp h
      cases n with
      | int z => exact readsBack_int hrange
      | float x => exact hint.elim
    | text s => exact readsBack_text s
    | array items =>
      obtain ⟨depth, rfl, hitems⟩ := Value.fits_array_iff.mp h
      exact readsBack_array fun v hv => ih depth (Nat.lt_succ_self _) (hitems v hv)
    | object members =>
      obtain ⟨depth, rfl, hmembers⟩ := Value.fits_object_iff.mp h
      exact readsBack_object fun m hm => ih depth (Nat.lt_succ_self _) (hmembers m hm)

/-- A written document is read to its end. -/
theorem read_print {v : Value} (h : ReadsAs l v r) {rest : Bytes} (hrest : Delimited rest) :
    read (print l v ++ rest) = (r, .ok rest) := by
  refine h.read 0 _ rest ?_ hrest
  rw [print, List.length_append]
  omega

end Json
end LabLifecycle
