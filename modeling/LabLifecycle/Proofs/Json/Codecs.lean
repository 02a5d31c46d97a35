import LabLifecycle.ExperimentJson
import LabLifecycle.Proofs.Json.Ranges

/-!
# Encoders and their decoders

A decoder `Inverts` an encoder if it takes every encoded value back, and if what it accepts
fits the levels it was given when it is encoded again. Both hold as long as enough levels are
allowed: for the first as many as the value has, for the second as many as the encoder uses
for things that a document may leave out.
-/
namespace LabLifecycle.Json

/-! ### Steps that may fail -/

theorem bind_eq_ok_iff {ε α β : Type} {x : Except ε α} {f : α → Except ε β} {b : β} :
    x >>= f = .ok b ↔ ∃ a, x = .ok a ∧ f a = .ok b := by
  cases x <;> simp [bind, Except.bind]

theorem map_eq_ok_iff {ε α β : Type} {x : Except ε α} {f : α → β} {b : β} :
    x.map f = .ok b ↔ ∃ a, x = .ok a ∧ f a = b := by
  cases x <;> simp [Except.map]

theorem ok_bind {ε α β : Type} (a : α) (f : α → Except ε β) : (Except.ok a >>= f) = f a := rfl

theorem mapM_map_of_forall {ε α β γ : Type} {f : β → Except ε γ} {g : α → β} {h : α → γ}
    {l : List α} (hl : ∀ a ∈ l, f (g a) = .ok (h a)) : (l.map g).mapM f = .ok (l.map h) := by
  induction l with
  | nil => rfl
  | cons a l ih =>
    rw [List.map_cons, List.mapM_cons, hl a (List.mem_cons_self ..), ok_bind,
      ih fun b hb => hl b (List.mem_cons_of_mem _ hb)]
    rfl

theorem mem_of_mapM_eq_ok {ε α β : Type} {f : α → Except ε β} {l : List α} {bs : List β}
    (h : l.mapM f = .ok bs) : ∀ b ∈ bs, ∃ a ∈ l, f a = .ok b := by
  induction l generalizing bs with
  | nil =>
    cases h
    intro b hb
    cases hb
  | cons a l ih =>
    rw [List.mapM_cons] at h
    obtain ⟨b, hb, h⟩ := bind_eq_ok_iff.mp h
    obtain ⟨rest, hrest, h⟩ := bind_eq_ok_iff.mp h
    cases h
    refine List.forall_mem_cons.mpr ⟨⟨a, List.mem_cons_self .., hb⟩, fun c hc => ?_⟩
    obtain ⟨a', ha', hc⟩ := ih hrest c hc
    exact ⟨a', List.mem_cons_of_mem _ ha', hc⟩

theorem sound_eq_ok_iff {α : Type} {x : Except Flaw α} {a : α} :
    sound x = .ok a ↔ x = .ok a := by
  cases x <;> simp [sound, broken]

theorem descend_eq_ok_iff {α : Type} {depth : Nat} {inside : Nat → Except Fault α} {a : α} :
    descend depth inside = .ok a ↔ ∃ d, depth = d + 1 ∧ inside d = .ok a := by
  cases depth <;> simp [descend, broken]

/-- What is not expected is never accepted. -/
theorem unexpected_ne_ok {α : Type} {expected : String} {r : Reading} {a : α} :
    r.unexpected expected ≠ .ok a := by
  intro h
  cases r with
  | number n => cases n <;> simp [Reading.unexpected, sound, unfit, broken, bind, Except.bind] at h
  | text s => cases s <;> simp [Reading.unexpected, sound, unfit, broken, bind, Except.bind] at h
  | _ => simp [Reading.unexpected, unfit, broken] at h

/-! ### Single values -/

namespace Decoder
variable {α : Type} {decode : Decoder α} {encode : α → Value} {floor : Nat}

/-- The decoder takes back what is encoded, and nothing that would not fit when it is encoded
again where `floor` levels are allowed at least. -/
structure Inverts (decode : Decoder α) (encode : α → Value) (floor : Nat) : Prop where
  reads : ∀ depth a, (encode a).nesting ≤ depth → decode depth (encode a).reading = .ok a
  fits : ∀ p depth r a, floor ≤ depth → r.Numbers p → decode depth r = .ok a →
    (encode a).Fits p depth

theorem text_inverts : text.Inverts .text 0 := ⟨fun _ _ _ => rfl, fun _ _ _ _ _ _ _ => by simp⟩

theorem textAs_reading {parse : String → Except String α} {s : String} {a : α}
    (h : parse s = .ok a) (expected : String) (depth : Nat) :
    textAs expected parse depth (Value.text s).reading = .ok a := by
  simp only [Value.reading, textAs, sound, ok_bind, h]
  rfl

/-- Texts in a notation of their own, each of which is read back. -/
theorem textAs_inverts {expected : String} {parse : String → Except String α} {write : α → String}
    (h : ∀ a, parse (write a) = .ok a) :
    (textAs expected parse).Inverts (fun a => .text (write a)) 0 :=
  ⟨fun depth a _ => textAs_reading (h a) expected depth,
    fun _ _ _ a _ _ _ => Value.fits_text (write a)⟩

/-- Variants that are found by their names. -/
theorem variant_inverts {variants : List (String × α)} {name : α → String}
    (h : ∀ a, variants.find? (·.1 == name a) = some (name a, a)) :
    (variant variants).Inverts (fun a => .text (name a)) 0 := by
  refine ⟨fun depth a _ => ?_, fun _ _ _ a _ _ _ => Value.fits_text (name a)⟩
  simp only [Value.reading, variant, sound, ok_bind, pick, h]

theorem natUpTo_eq_ok {limit n depth : Nat} {expected : String} {r : Reading}
    (h : natUpTo limit expected depth r = .ok n) : r = .number (.ok (.int n)) ∧ n ≤ limit := by
  unfold natUpTo at h
  split at h
  · rename_i z
    split at h
    · rename_i hz
      simp only [Bool.and_eq_true, decide_eq_true_eq] at hz
      obtain rfl : z.toNat = n := by simpa using h
      rw [Int.toNat_of_nonneg hz.1]
      exact ⟨rfl, by omega⟩
    · cases h
  · exact absurd h unexpected_ne_ok

theorem natUpTo_reading {limit n : Nat} (h : n ≤ limit) (expected : String) (depth : Nat) :
    natUpTo limit expected depth (Value.ofNat n).reading = .ok n := by
  have hn : ((0 : Int) ≤ n && (n : Int) ≤ limit) = true := by simpa using h
  simp only [Value.ofNat, Value.reading, natUpTo, hn, if_true, Int.toNat_natCast]

/-- Words of a width, read as numbers up to the largest one. -/
theorem natUpTo_inverts {limit : Nat} {expected : String} {ofNat : Nat → α} {toNat : α → Nat}
    (hle : ∀ a, toNat a ≤ limit) (hof : ∀ a, ofNat (toNat a) = a)
    (hto : ∀ n ≤ limit, toNat (ofNat n) = n) :
    Inverts (fun depth r => (natUpTo limit expected depth r).map ofNat)
      (fun a => Value.ofNat (toNat a)) 0 := by
  refine ⟨fun depth a _ => ?_, fun p depth r a _ hp h => ?_⟩
  · rw [natUpTo_reading (hle a), Except.map, hof]
  · obtain ⟨n, hn, rfl⟩ := map_eq_ok_iff.mp h
    obtain ⟨rfl, hlimit⟩ := natUpTo_eq_ok hn
    rw [hto n hlimit]
    exact Value.fits_number.mpr (numbers_ok.mp hp)

theorem word32_inverts : word32.Inverts (fun n => Value.ofNat n.toNat) 0 :=
  natUpTo_inverts (fun n => Nat.le_sub_one_of_lt n.toNat_lt_size)
    (fun _ => UInt32.ofNat_toNat) (fun _ hn => by
      have hlt : _ < UInt32.size := Nat.lt_of_le_pred (by decide) hn
      exact UInt32.toNat_ofNat_of_lt' hlt)

theorem word8_inverts : word8.Inverts (fun n => Value.ofNat n.toNat) 0 :=
  natUpTo_inverts (fun n => Nat.le_of_lt_succ n.toNat_lt_size)
    (fun _ => UInt8.ofNat_toNat) (fun _ hn => UInt8.toNat_ofNat_of_lt' (Nat.lt_succ_of_le hn))

/-! ### Free-form data -/

/-- The induction is on the levels of the value. -/
theorem value_reading {v : Value} {depth : Nat} (h : v.nesting ≤ depth) :
    value depth v.reading = .ok v := by
  induction depth using Nat.strongRecOn generalizing v with
  | ind depth ih =>
    cases v with
    | array items =>
      obtain ⟨depth, rfl, hitems⟩ := Value.nesting_array_le_iff.mp h
      have hread : (items.map Value.reading).mapM (value depth) = .ok (items.map id) :=
        mapM_map_of_forall fun v hv => ih depth (Nat.lt_succ_self _) (hitems v hv)
      rw [Value.reading, readingOfItems_eq_map, value, hread, List.map_id]
      rfl
    | object members =>
      obtain ⟨depth, rfl, hmembers⟩ := Value.nesting_object_le_iff.mp h
      rw [Value.reading, readingOfMembers_eq_map, value, mapM_map_of_forall (h := id), List.map_id]
      · rfl
      · intro m hm
        rw [ih depth (Nat.lt_succ_self _) (hmembers m hm)]
        rfl
    | _ => simp [Value.reading, value, sound, ok_bind, pure, Except.pure]

theorem value_fits {p : Number → Prop} {r : Reading} {depth : Nat} {v : Value}
    (hr : r.Numbers p) (h : value depth r = .ok v) : v.Fits p depth := by
  induction depth using Nat.strongRecOn generalizing r v with
  | ind depth ih =>
    cases r with
    | null =>
      rw [value] at h
      cases h
      exact Value.fits_null
    | bool b =>
      rw [value] at h
      cases h
      exact Value.fits_bool b
    | number n =>
      rw [value] at h
      obtain ⟨n, hn, h⟩ := bind_eq_ok_iff.mp h
      cases h
      rw [sound_eq_ok_iff.mp hn] at hr
      exact Value.fits_number.mpr (numbers_ok.mp hr)
    | text s =>
      rw [value] at h
      obtain ⟨s, -, h⟩ := bind_eq_ok_iff.mp h
      cases h
      exact Value.fits_text s
    | array items ending =>
      cases depth with
      | zero => cases h
      | succ depth =>
        rw [value] at h
        obtain ⟨vs, hvs, h⟩ := bind_eq_ok_iff.mp h
        obtain ⟨-, -, h⟩ := bind_eq_ok_iff.mp h
        cases h
        refine Value.fits_array_succ.mpr fun v hv => ?_
        obtain ⟨r, hmem, hread⟩ := mem_of_mapM_eq_ok hvs v hv
        exact ih depth (Nat.lt_succ_self _) (numbers_array.mp hr r hmem) hread
    | object members ending =>
      cases depth with
      | zero => cases h
      | succ depth =>
        rw [value] at h
        obtain ⟨vs, hvs, h⟩ := bind_eq_ok_iff.mp h
        obtain ⟨-, -, h⟩ := bind_eq_ok_iff.mp h
        cases h
        refine Value.fits_object_succ.mpr fun m hm => ?_
        obtain ⟨e, hmem, hread⟩ := mem_of_mapM_eq_ok hvs m hm
        obtain ⟨name, -, hread⟩ := bind_eq_ok_iff.mp hread
        obtain ⟨v, hv, hread⟩ := bind_eq_ok_iff.mp hread
        cases hread
        exact ih depth (Nat.lt_succ_self _) (numbers_object.mp hr e hmem) hv
    | broken flaw =>
      rw [value] at h
      cases h
    | missing =>
      rw [value] at h
      cases h

theorem metadata_inverts : metadata.Inverts (·.value) 0 := by
  refine ⟨fun depth m hm => ?_, fun p depth r m _ hr h => ?_⟩
  · rw [metadata, value_reading hm, Except.map, Metadata.ofValue_value]
  · obtain ⟨v, hv, rfl⟩ := map_eq_ok_iff.mp h
    exact (value_fits hr hv).normalize

/-! ### Lists and maps -/

theorem Inverts.list (h : decode.Inverts encode floor) :
    (Decoder.list decode).Inverts (fun as => .array (as.map encode)) (floor + 1) := by
  refine ⟨fun depth as has => ?_, fun p depth r as hfloor hr has => ?_⟩
  · obtain ⟨depth, rfl, hitems⟩ := Value.nesting_array_le_iff.mp has
    have hread : ((as.map encode).map Value.reading).mapM (decode depth) = .ok (as.map id) := by
      rw [List.map_map]
      exact mapM_map_of_forall fun a ha => h.reads depth a (hitems _ (List.mem_map_of_mem ha))
    rw [Value.reading, readingOfItems_eq_map, Decoder.list, descend, hread, List.map_id]
    rfl
  · unfold Decoder.list at has
    split at has
    · obtain ⟨depth, rfl, has⟩ := descend_eq_ok_iff.mp has
      obtain ⟨bs, hbs, has⟩ := bind_eq_ok_iff.mp has
      obtain ⟨-, -, has⟩ := bind_eq_ok_iff.mp has
      cases has
      refine Value.fits_array_succ.mpr fun v hv => ?_
      obtain ⟨a, ha, rfl⟩ := List.mem_map.mp hv
      obtain ⟨r, hmem, hread⟩ := mem_of_mapM_eq_ok hbs a ha
      exact h.fits p depth r a (Nat.le_of_succ_le_succ hfloor) (numbers_array.mp hr r hmem) hread
    · exact absurd has unexpected_ne_ok

theorem members_reading {entries : List (String × α)} {depth : Nat}
    (h : ∀ e ∈ entries, decode depth (encode e.2).reading = .ok e.2) :
    members decode depth (readingOfMembers (entries.map fun e => (e.1, encode e.2))) =
      .ok entries := by
  induction entries with
  | nil => rfl
  | cons e entries ih =>
    obtain ⟨he, hentries⟩ := List.forall_mem_cons.mp h
    rw [List.map_cons, readingOfMembers, members, he, ih hentries]
    rfl

theorem textMap_inverts : (map text).Inverts ofTextMap 0 := by
  refine ⟨fun depth m hm => ?_, fun p depth r m _ _ h => ?_⟩
  · obtain ⟨depth, rfl, -⟩ := Value.nesting_object_le_iff.mp hm
    have hread : members text depth (readingOfMembers (m.entries.map fun e => (e.1, .text e.2))) =
        .ok m.entries := members_reading fun _ _ => rfl
    rw [ofTextMap, Value.reading, map, descend, hread]
    exact congrArg _ m.ofList_entries
  · unfold map at h
    split at h
    · obtain ⟨depth, rfl, -⟩ := descend_eq_ok_iff.mp h
      refine Value.fits_object_succ.mpr fun v hv => ?_
      obtain ⟨e, -, rfl⟩ := List.mem_map.mp hv
      exact Value.fits_text e.2
    · exact absurd h unexpected_ne_ok

end Decoder
end LabLifecycle.Json
