import LabLifecycle.Proofs.Json.ReadBack

/-!
# Numbers that are read

Whatever a document says, an integer that is read from it has 64 bits. A larger one, and a
negative zero, comes out as a floating-point number.
-/
namespace LabLifecycle.Json

mutual

/-- The numbers that a document gives, as far as it can be read. -/
def Reading.numbers : Reading → List Number
  | .number (.ok n) => [n]
  | .array items _ => numbersOfReadings items
  | .object members _ => numbersOfNamed members
  | _ => []

/-- The numbers in some items. -/
def numbersOfReadings : List Reading → List Number
  | [] => []
  | r :: rest => r.numbers ++ numbersOfReadings rest

/-- The numbers in some members. -/
def numbersOfNamed : List (Except Flaw String × Reading) → List Number
  | [] => []
  | (_, r) :: rest => r.numbers ++ numbersOfNamed rest

end

/-- Every number in the reading is of a kind. -/
def Reading.Numbers (p : Number → Prop) (r : Reading) : Prop := ∀ n ∈ r.numbers, p n

section Numbers
variable {p : Number → Prop}

@[simp] theorem numbers_ok {n : Number} : (Reading.number (.ok n)).Numbers p ↔ p n := by
  simp [Reading.Numbers, Reading.numbers]

@[simp] theorem numbers_array {items : List Reading} {ending : Ending} :
    (Reading.array items ending).Numbers p ↔ ∀ r ∈ items, r.Numbers p := by
  have hnumbers : (Reading.array items ending).numbers = items.flatMap Reading.numbers := by
    rw [Reading.numbers]
    induction items with
    | nil => rfl
    | cons r rest ih => rw [numbersOfReadings, ih, List.flatMap_cons]
  simp only [Reading.Numbers, hnumbers, List.mem_flatMap]
  exact ⟨fun h r hr n hn => h n ⟨r, hr, hn⟩, fun h n ⟨r, hr, hn⟩ => h r hr n hn⟩

@[simp] theorem numbers_object {members : List (Except Flaw String × Reading)}
    {ending : Ending} :
    (Reading.object members ending).Numbers p ↔ ∀ m ∈ members, m.2.Numbers p := by
  have hnumbers : (Reading.object members ending).numbers =
      members.flatMap (·.2.numbers) := by
    rw [Reading.numbers]
    induction members with
    | nil => rfl
    | cons m rest ih => rw [numbersOfNamed, ih, List.flatMap_cons]
  simp only [Reading.Numbers, hnumbers, List.mem_flatMap]
  exact ⟨fun h m hm n hn => h n ⟨m, hm, hn⟩, fun h n ⟨m, hm, hn⟩ => h m hm n hn⟩

/-- A reading without numbers. -/
theorem numbers_of_eq_nil {r : Reading} (h : r.numbers = []) : r.Numbers p := by
  simp [Reading.Numbers, h]

end Numbers

/-! ### Literals -/

theorem inRange_floatOf {negative : Bool} {significand : Nat} {exponent : Int} :
    (Reading.number (floatOf negative significand exponent)).Numbers Number.InRange := by
  unfold floatOf
  split
  · exact numbers_of_eq_nil rfl
  · split
    · exact numbers_ok.mpr trivial
    · exact numbers_of_eq_nil rfl

theorem inRange_numberOf {negative : Bool} {whole : Bytes} {part : Option Bytes}
    {exponent : Option Int} :
    (Reading.number (numberOf negative whole part exponent)).Numbers Number.InRange := by
  unfold numberOf
  dsimp only
  split
  · rename_i hshort
    have hword : Bytes.digitsValue whole ≤ 0xFFFFFFFFFFFFFFFF := by
      simp only [Bool.and_eq_true, decide_eq_true_eq] at hshort
      exact hshort.2
    split
    · refine numbers_ok.mpr ?_
      simp only [Number.InRange]
      omega
    · split
      · rename_i hlow
        simp only [Bool.and_eq_true, decide_eq_true_eq] at hlow
        refine numbers_ok.mpr ?_
        simp only [Number.InRange]
        omega
      · exact inRange_floatOf
  · exact inRange_floatOf

theorem numbers_ite_missingDigit {p : Number → Prop} {n : Except Flaw Number}
    (hn : (Reading.number n).Numbers p) (digits rest : Bytes) :
    (if digits.isEmpty then missingDigit rest else (.number n, .ok rest)).1.Numbers p := by
  split
  · exact numbers_of_eq_nil rfl
  · exact hn

theorem inRange_readExponent (negative : Bool) (whole : Bytes) (part : Option Bytes)
    (rest : Bytes) : (readExponent negative whole part rest).1.Numbers Number.InRange := by
  unfold readExponent
  split
  · exact numbers_ite_missingDigit inRange_numberOf _ _
  · exact numbers_ite_missingDigit inRange_numberOf _ _
  · exact inRange_numberOf

theorem inRange_readNumber (negative : Bool) (b : Bytes) :
    (readNumber negative b).1.Numbers Number.InRange := by
  unfold readNumber
  dsimp only
  split
  · exact numbers_of_eq_nil rfl
  · split
    · exact numbers_of_eq_nil rfl
    · split
      · split
        · exact numbers_of_eq_nil rfl
        · exact inRange_readExponent _ _ _ _
      · exact inRange_readExponent _ _ _ _

theorem numbers_readLetters {p : Number → Prop} {r : Reading} (hr : r.numbers = [])
    (letters b : Bytes) : (readLetters r letters b).1.Numbers p := by
  fun_induction readLetters r letters b with
  | case1 rest => exact numbers_of_eq_nil hr
  | case2 => exact numbers_of_eq_nil rfl
  | case3 _ _ _ _ _ ih => exact ih
  | case4 => exact numbers_of_eq_nil rfl

/-! ### Documents -/

/-- The integers that are read have 64 bits, whatever is read. -/
structure InRange (fuel : Nat) : Prop where
  value : ∀ b, (readValue fuel b).1.Numbers Number.InRange
  items : ∀ b, ∀ r ∈ (readItems fuel b).1, r.Numbers Number.InRange
  members : ∀ b, ∀ m ∈ (readMembers fuel b).1, m.2.Numbers Number.InRange

theorem InRange.value_succ {fuel : Nat} (h : InRange fuel) (b : Bytes) :
    (readValue (fuel + 1) b).1.Numbers Number.InRange := by
  unfold readValue
  split
  · exact numbers_of_eq_nil rfl
  · rename_i b rest _
    split
    · exact numbers_readLetters (by rfl) _ _
    split
    · exact numbers_readLetters (by rfl) _ _
    split
    · exact numbers_readLetters (by rfl) _ _
    split
    · exact inRange_readNumber _ _
    split
    · exact inRange_readNumber _ _
    split
    · exact numbers_of_eq_nil rfl
    split
    · split
      · exact numbers_of_eq_nil rfl
      · exact numbers_of_eq_nil rfl
      · exact numbers_array.mpr (h.items _)
    split
    · split
      · exact numbers_of_eq_nil rfl
      · exact numbers_of_eq_nil rfl
      · exact numbers_object.mpr (h.members _)
      · exact numbers_of_eq_nil rfl
    · exact numbers_of_eq_nil rfl

theorem InRange.items_succ {fuel : Nat} (h : InRange fuel) (b : Bytes) :
    ∀ r ∈ (readItems (fuel + 1) b).1, r.Numbers Number.InRange := by
  unfold readItems
  dsimp only
  have hvalue := h.value b
  split
  · simpa using hvalue
  · split
    · simpa using hvalue
    · simpa using hvalue
    · exact List.forall_mem_cons.mpr ⟨hvalue, h.items _⟩
    · simpa using hvalue

theorem InRange.members_succ {fuel : Nat} (h : InRange fuel) (b : Bytes) :
    ∀ m ∈ (readMembers (fuel + 1) b).1, m.2.Numbers Number.InRange := by
  have hbroken : ∀ flaw, (Reading.broken flaw).Numbers Number.InRange := fun _ =>
    numbers_of_eq_nil rfl
  have hmissing : Reading.missing.Numbers Number.InRange := numbers_of_eq_nil rfl
  unfold readMembers
  dsimp only
  split
  · simpa using hbroken _
  · split
    · simpa using hmissing
    · rename_i rest _
      have hvalue := h.value rest
      split
      · simpa using hvalue
      · split
        · simpa using hvalue
        · simpa using hvalue
        · split
          · simpa using ⟨hvalue, hmissing⟩
          · exact List.forall_mem_cons.mpr ⟨hvalue, h.members _⟩
          · simpa [nameless] using ⟨hvalue, hbroken _⟩
        · simpa using hvalue
    · simpa using hbroken _

theorem inRange (fuel : Nat) : InRange fuel := by
  induction fuel with
  | zero => exact ⟨fun _ => numbers_of_eq_nil rfl, by simp [readItems], by simp [readMembers]⟩
  | succ fuel ih => exact ⟨ih.value_succ, ih.items_succ, ih.members_succ⟩

theorem inRange_read (document : Bytes) : (read document).1.Numbers Number.InRange :=
  (inRange _).value document

end LabLifecycle.Json
