import LabLifecycle.Proofs.Json.Codecs
import Mathlib.Data.List.Basic

/-!
# Records and their members

An encoded record is an object in which a member may be left out. `Record.Takes` follows such
an object member by member: what was written fills its slot of the draft, and what was left
out leaves the slot as it was. The other way round, a property of drafts that every field of a
record keeps holds of every draft that is read, from an object in any order of its members or
from an array.
-/
namespace LabLifecycle.Json

/-! ### Members that may be left out -/

section Omitted
variable {α : Type} {name : String} {encode : α → Value} {q : Value → Prop}

@[simp] theorem forall_mem_optional {a : Option α} :
    (∀ m ∈ optional name encode a, q m.2) ↔ ∀ x ∈ a, q (encode x) := by
  cases a <;> simp [optional]

theorem nonempty_eq_ite (l : List α) : nonempty name encode l =
    if l.isEmpty then [] else [(name, .array (l.map encode))] := by
  cases l <;> rfl

end Omitted

namespace Record
variable {δ α β : Type} {r : Record δ α} {depth : Nat} {d d' d'' : δ}

/-! ### Reading what was encoded -/

/-- Reading the members takes one draft to another. -/
def Takes (r : Record δ α) (depth : Nat) (members : List (String × Value)) (d d' : δ) : Prop :=
  r.readMembers depth (readingOfMembers members) d = .ok d'

theorem Takes.append {members more : List (String × Value)} (h : r.Takes depth members d d')
    (hmore : r.Takes depth more d' d'') : r.Takes depth (members ++ more) d d'' := by
  induction members generalizing d with
  | nil =>
    cases h
    exact hmore
  | cons m members ih =>
    rw [Takes, readingOfMembers, readMembers] at h
    rw [List.cons_append, Takes, readingOfMembers, readMembers]
    simp only [sound, ok_bind] at h ⊢
    split at h
    · exact ih h
    · split at h
      · cases h
      · rename_i f hfield hfilled
        obtain ⟨e, he, h⟩ := bind_eq_ok_iff.mp h
        simp only [if_neg hfilled, he, ok_bind]
        exact ih h

section Slot
variable {name : String} {required : Bool} {floor : Nat} {encode : β → Value}

/-- A member that is read for the first time goes into its slot. -/
theorem readMembers_slot {get : δ → Option β} {set : δ → Option β → δ} {decode : Decoder β}
    (hfield : r.fields.find? (·.name == name) = some (.slot name required get set decode))
    (hd : get d = none) (reading : Reading) (members : List (Except Flaw String × Reading)) :
    r.readMembers depth ((.ok name, reading) :: members) d =
      decode depth reading >>= fun b => r.readMembers depth members (set d (some b)) := by
  simp only [readMembers, sound, ok_bind, hfield, Field.slot, hd, Option.isSome_none,
    Bool.false_eq_true, if_false]
  cases decode depth reading <;> rfl

theorem Takes.slot {get : δ → Option β} {set : δ → Option β → δ} {decode : Decoder β}
    (hfield : r.fields.find? (·.name == name) = some (.slot name required get set decode))
    (hdecode : decode.Inverts encode floor) {b : β}
    (hnesting : ∀ m ∈ [(name, encode b)], m.2.nesting ≤ depth) (hd : get d = none) :
    r.Takes depth [(name, encode b)] d (set d (some b)) := by
  have hread : decode depth (encode b).reading = .ok b :=
    hdecode.reads depth b (hnesting _ (List.mem_singleton_self _))
  rw [Takes, readingOfMembers, readMembers_slot hfield hd, hread]
  rfl

/-- A member that is left out under a condition. -/
theorem Takes.unless {get : δ → Option β} {set : δ → Option β → δ} {decode : Decoder β}
    (hfield : r.fields.find? (·.name == name) = some (.slot name required get set decode))
    (hdecode : decode.Inverts encode floor) {c : Bool} {b : β}
    (hnesting : ∀ m ∈ (if c then [] else [(name, encode b)] : List (String × Value)),
      m.2.nesting ≤ depth) (hd : get d = none) (hset : set d none = d) :
    r.Takes depth (if c then [] else [(name, encode b)]) d
      (set d (if c then none else some b)) := by
  cases c with
  | true =>
    simp only [if_true, hset]
    rfl
  | false => exact .slot hfield hdecode hnesting hd

/-- A list that is left out when there is nothing in it. -/
theorem Takes.nonempty {get : δ → Option (List β)} {set : δ → Option (List β) → δ}
    {decode : Decoder β}
    (hfield : r.fields.find? (·.name == name) = some (.slot name required get set (.list decode)))
    (hdecode : decode.Inverts encode floor) {l : List β}
    (hnesting : ∀ m ∈ Json.nonempty name encode l, m.2.nesting ≤ depth) (hd : get d = none)
    (hset : set d none = d) :
    r.Takes depth (Json.nonempty name encode l) d
      (set d (if l.isEmpty then none else some l)) := by
  rw [nonempty_eq_ite] at hnesting ⊢
  exact .unless hfield hdecode.list hnesting hd hset

/-- A member that is left out when there is nothing to write. -/
theorem Takes.optional {get : δ → Option (Option β)} {set : δ → Option (Option β) → δ}
    {decode : Decoder β}
    (hfield : r.fields.find? (·.name == name) = some (.slot name required get set (.option decode)))
    (hdecode : decode.Inverts encode floor) {a : Option β}
    (hnesting : ∀ m ∈ Json.optional name encode a, m.2.nesting ≤ depth) (hd : get d = none)
    (hset : set d none = d) (hnull : ∀ b, (encode b).reading ≠ .null) :
    r.Takes depth (Json.optional name encode a) d (set d (a.map some)) := by
  cases a with
  | none =>
    simp only [Option.map_none, hset]
    rfl
  | some b =>
    have hread : decode depth (encode b).reading = .ok b :=
      hdecode.reads depth b (hnesting _ (List.mem_singleton_self _))
    have hoption : Decoder.option decode depth (encode b).reading = .ok (some b) := by
      rw [Decoder.option, hread]
      · rfl
      · exact hnull b
    rw [Takes, Json.optional, readingOfMembers, readMembers_slot hfield hd, hoption]
    rfl

end Slot

/-- The members of an object give what the draft stands for that they fill. -/
theorem decode_object {members : List (String × Value)} (h : r.Takes depth members r.blank d)
    (hfilled : r.fields.find? (fun f => f.required && !f.filled d) = none) :
    r.decode (depth + 1) (Value.object members).reading = .ok (r.build d) := by
  rw [Value.reading, decode, descend]
  rw [Takes] at h
  simp only [h, ok_bind, Ending.check, hfilled]
  rfl

end Record

/-! ### What every draft keeps -/

section Keeps
variable {δ α β : Type} {p : Number → Prop} {depth : Nat} {q : δ → Prop}

/-- Reading the field keeps a property of drafts, if the numbers read are of a kind. -/
def Field.Keeps (f : Field δ) (p : Number → Prop) (depth : Nat) (q : δ → Prop) : Prop :=
  ∀ reading d d', reading.Numbers p → f.read depth reading d = .ok d' → q d → q d'

end Keeps

section Written
variable {β : Type} {p : Number → Prop} {depth floor : Nat} {decode : Decoder β}
  {encode : β → Value} {reading : Reading}

theorem fits_member (h : decode.Inverts encode floor) (name : String) (hfloor : floor ≤ depth) :
    ∀ reading b, reading.Numbers p → decode depth reading = .ok b →
      ∀ m ∈ [(name, encode b)], m.2.Fits p depth := by
  intro reading b hreading hb m hm
  rw [List.mem_singleton.mp hm]
  exact h.fits p depth reading b hfloor hreading hb

theorem fits_unless (h : decode.Inverts encode floor) (name : String) (c : β → Bool)
    (hfloor : floor ≤ depth) : ∀ reading b, reading.Numbers p → decode depth reading = .ok b →
      ∀ m ∈ (if c b then [] else [(name, encode b)] : List (String × Value)),
        m.2.Fits p depth := by
  intro reading b hreading hb m hm
  split at hm
  · cases hm
  · exact fits_member h name hfloor reading b hreading hb m hm

theorem fits_nonempty (h : decode.Inverts encode floor) (name : String)
    (hfloor : floor + 1 ≤ depth) : ∀ reading l, reading.Numbers p →
      Decoder.list decode depth reading = .ok l →
      ∀ m ∈ nonempty name encode l, m.2.Fits p depth := by
  intro reading l
  rw [nonempty_eq_ite]
  exact fits_unless h.list name List.isEmpty hfloor reading l

theorem fits_optional (h : decode.Inverts encode floor) (name : String)
    (hfloor : floor ≤ depth) : ∀ reading b, reading.Numbers p →
      Decoder.option decode depth reading = .ok b →
      ∀ m ∈ optional name encode b, m.2.Fits p depth := by
  intro reading b hreading hb
  unfold Decoder.option at hb
  split at hb
  · cases hb
    simp [optional]
  · obtain ⟨x, hx, rfl⟩ := map_eq_ok_iff.mp hb
    exact fits_member h name hfloor reading x hreading hx

end Written

section Keeps
variable {δ α β : Type} {p : Number → Prop} {depth : Nat} {q : δ → Prop}

namespace Record
variable {r : Record δ α}

theorem keeps_readMembers (hfields : ∀ f ∈ r.fields, f.Keeps p depth q)
    {members : List (Except Flaw String × Reading)} (hmembers : ∀ m ∈ members, m.2.Numbers p)
    {d d' : δ} (h : r.readMembers depth members d = .ok d') (hd : q d) : q d' := by
  induction members generalizing d with
  | nil =>
    cases h
    exact hd
  | cons m members ih =>
    obtain ⟨hm, hmembers⟩ := List.forall_mem_cons.mp hmembers
    rw [readMembers] at h
    obtain ⟨name, -, h⟩ := bind_eq_ok_iff.mp h
    split at h
    · exact ih hmembers h hd
    · rename_i f hfield
      split at h
      · cases h
      · obtain ⟨e, he, h⟩ := bind_eq_ok_iff.mp h
        have hf := hfields f (List.mem_of_find?_eq_some hfield)
        exact ih hmembers h (hf _ _ _ hm he hd)

theorem keeps_readItems {fields : List (Field δ)} (hfields : ∀ f ∈ fields, f.Keeps p depth q)
    {items : List Reading} (hitems : ∀ i ∈ items, i.Numbers p) {ending : Ending} {index : Nat}
    {d d' : δ} (h : r.readItems depth ending index fields items d = .ok d') (hd : q d) : q d' := by
  induction fields generalizing items index d with
  | nil =>
    cases items with
    | nil =>
      obtain ⟨-, -, h⟩ := bind_eq_ok_iff.mp h
      cases h
      exact hd
    | cons _ _ => cases h
  | cons f fields ih =>
    obtain ⟨hf, hfields⟩ := List.forall_mem_cons.mp hfields
    cases items with
    | nil =>
      rw [readItems] at h
      obtain ⟨-, -, h⟩ := bind_eq_ok_iff.mp h
      split at h
      · cases h
      · exact ih hfields hitems h hd
    | cons i items =>
      obtain ⟨hi, hitems⟩ := List.forall_mem_cons.mp hitems
      rw [readItems] at h
      obtain ⟨e, he, h⟩ := bind_eq_ok_iff.mp h
      exact ih hfields hitems h (hf _ _ _ hi he hd)

/-- What the blank draft has and every field keeps, the draft has that a value is built from. -/
theorem of_decode (hfields : ∀ f ∈ r.fields, f.Keeps p depth q) (hblank : q r.blank)
    {reading : Reading} (hreading : reading.Numbers p) {a : α}
    (h : r.decode (depth + 1) reading = .ok a) : ∃ d, q d ∧ r.build d = a := by
  unfold decode at h
  split at h
  · obtain ⟨d, hd, h⟩ := bind_eq_ok_iff.mp h
    obtain ⟨-, -, h⟩ := bind_eq_ok_iff.mp h
    split at h
    · cases h
    · cases h
      exact ⟨d, keeps_readMembers hfields (numbers_object.mp hreading) hd hblank, rfl⟩
  · obtain ⟨d, hd, h⟩ := bind_eq_ok_iff.mp h
    cases h
    exact ⟨d, keeps_readItems hfields (numbers_array.mp hreading) hd hblank, rfl⟩
  · exact absurd h unexpected_ne_ok

/-- What is written of a draft fits the levels. -/
def Written (r : Record δ α) (members : α → List (String × Value)) (p : Number → Prop)
    (depth : Nat) (d : δ) : Prop :=
  ∀ m ∈ members (r.build d), m.2.Fits p depth

/-- Filling a slot keeps what is written of a draft within the levels, if it changes nothing
but what is written of the slot. -/
theorem keeps_slot {members : α → List (String × Value)} {name : String} {required : Bool}
    {get : δ → Option β} {set : δ → Option β → δ} {decode : Decoder β}
    {written : β → List (String × Value)}
    (hwritten : ∀ reading b, reading.Numbers p → decode depth reading = .ok b →
      ∀ m ∈ written b, m.2.Fits p depth)
    (hset : ∀ d b, ∀ m ∈ members (r.build (set d (some b))),
      m ∈ members (r.build d) ∨ m ∈ written b) :
    (Field.slot name required get set decode).Keeps p depth (r.Written members p depth) := by
  intro reading d d' hreading hread hd m hm
  obtain ⟨b, hb, rfl⟩ := map_eq_ok_iff.mp hread
  rcases hset d b m hm with hm | hm
  · exact hd m hm
  · exact hwritten reading b hreading hb m hm

/-- A record inverts its encoder if the members of a value fill a draft of it, and if what is
written of a draft goes on to fit. -/
theorem inverts {members : α → List (String × Value)} {floor : Nat}
    (hreads : ∀ depth a, (∀ m ∈ members a, m.2.nesting ≤ depth) →
      ∃ d, r.Takes depth (members a) r.blank d ∧
        r.fields.find? (fun f => f.required && !f.filled d) = none ∧ r.build d = a)
    (hblank : ∀ p depth, floor ≤ depth → r.Written members p depth r.blank)
    (hkeeps : ∀ p depth, floor ≤ depth →
      r.fields.Forall (·.Keeps p depth (r.Written members p depth))) :
    Decoder.Inverts r.decode (fun a => .object (members a)) (floor + 1) := by
  refine ⟨fun depth a ha => ?_, fun p depth reading a hfloor hreading h => ?_⟩
  · obtain ⟨depth, rfl, hnesting⟩ := Value.nesting_object_le_iff.mp ha
    obtain ⟨d, htakes, hfilled, rfl⟩ := hreads depth a hnesting
    exact decode_object htakes hfilled
  · obtain ⟨depth, rfl⟩ := Nat.exists_eq_add_one_of_ne_zero (Nat.ne_zero_of_lt hfloor)
    have hfloor := Nat.le_of_succ_le_succ hfloor
    have hfields := List.forall_iff_forall_mem.mp (hkeeps p depth hfloor)
    obtain ⟨d, hd, rfl⟩ := of_decode hfields (hblank p depth hfloor) hreading h
    exact Value.fits_object_succ.mpr hd

end Record
end Keeps
end LabLifecycle.Json
