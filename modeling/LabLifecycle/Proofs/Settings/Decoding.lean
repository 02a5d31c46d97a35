import LabLifecycle.Config
import LabLifecycle.Proofs.Json.Codecs
import LabLifecycle.Proofs.Toml.Order
import Mathlib

/-!
# Settings that are decoded

A document gives settings exactly if every entry of its table has one of the five keys and a value
of the kind of that key, and if the command prefix is not empty. The entries are looked at one after
the other, and the table has them in the order in which they stand in the document. So the problem
that is reported is the one that stands first.
-/
namespace LabLifecycle

open Json (bind_eq_ok_iff ok_bind)
open Toml (Value Table)

/-! ### Steps that may fail -/

section Steps
variable {ε α β : Type} {e : ε}

theorem bind_pure_eq_ok_iff {x : Except ε α} {f : α → β} {b : β} :
    (x >>= fun a => pure (f a)) = .ok b ↔ ∃ a, x = .ok a ∧ f a = b := by
  cases x <;> simp [bind, Except.bind, pure, Except.pure]

theorem bind_pure_eq_error_iff {x : Except ε α} {f : α → β} :
    (x >>= fun a => pure (f a)) = .error e ↔ x = .error e := by
  cases x <;> simp [bind, Except.bind, pure, Except.pure]

theorem mapM_cons_eq_ok_iff {f : α → Except ε β} {a : α} {l : List α} {bs : List β} :
    (a :: l).mapM f = .ok bs ↔ ∃ b, f a = .ok b ∧ ∃ rest, l.mapM f = .ok rest ∧ b :: rest = bs := by
  simp only [List.mapM_cons, bind_eq_ok_iff, pure, Except.pure, Except.ok.injEq]

theorem mapM_cons_eq_error_iff {f : α → Except ε β} {a : α} {l : List α} :
    (a :: l).mapM f = .error e ↔ f a = .error e ∨ ∃ b, f a = .ok b ∧ l.mapM f = .error e := by
  rw [List.mapM_cons]
  cases f a with
  | error e' => simp [bind, Except.bind]
  | ok b =>
    rw [ok_bind, bind_pure_eq_error_iff]
    simp

end Steps

namespace EngineConfig

/-! ### Single values -/

section Values
variable {expected : String} {v : Value} {m : Mismatch}

theorem text_eq_ok_iff {s : String} : text expected v = .ok s ↔ v = .text s := by
  cases v <;> simp [text, mistyped]

theorem text_eq_error_iff :
    text expected v = .error m ↔ (∀ s, v ≠ .text s) ∧ m = .kind v.found expected := by
  cases v <;> simp [text, mistyped, eq_comm]

theorem truth_eq_ok_iff {b : Bool} : truth v = .ok b ↔ v = .bool b := by
  cases v <;> simp [truth, mistyped]

theorem truth_eq_error_iff :
    truth v = .error m ↔ (∀ b, v ≠ .bool b) ∧ m = .kind v.found "a boolean" := by
  cases v <;> simp [truth, mistyped, eq_comm]

theorem natural_eq_ok_iff {n : Nat} : natural v = .ok n ↔ v = .int n := by
  cases v with
  | int z =>
    by_cases hz : 0 ≤ z
    · simp only [natural, if_pos hz, Except.ok.injEq, Value.int.injEq]
      omega
    · simp only [natural, if_neg hz, reduceCtorEq, Value.int.injEq, false_iff]
      omega
  | _ => simp [natural, mistyped]

theorem natural_eq_error_iff : natural v = .error m ↔
    (∀ z, v ≠ .int z) ∧ m = .kind v.found "u64" ∨
      ∃ z, z < 0 ∧ v = .int z ∧ m = .range (.int z) "u64" := by
  cases v with
  | int z =>
    by_cases hz : 0 ≤ z
    · simp [natural, hz, Int.not_lt.mpr hz]
    · simp [natural, hz, eq_comm, Int.not_le.mp hz]
  | _ => simp [natural, mistyped, eq_comm]

/-- What is wrong with a value that should be a list of texts: it is no list, or its first item
that is no text. -/
inductive ListProblem (expected : String) : Value → Mismatch → Prop
  | kind {v : Value} (hv : ∀ items, v ≠ .array items) :
    ListProblem expected v (.kind v.found "a sequence")
  | item (before : List String) {v : Value} (hv : ∀ s, v ≠ .text s) (after : List Value) :
    ListProblem expected (.array (before.map .text ++ v :: after)) (.kind v.found expected)

theorem mapM_text_eq_ok_iff {items : List Value} {texts : List String} :
    items.mapM (text expected) = .ok texts ↔ items = texts.map .text := by
  induction items generalizing texts with
  | nil => cases texts <;> simp [pure, Except.pure]
  | cons v items ih =>
    simp only [mapM_cons_eq_ok_iff, text_eq_ok_iff, ih]
    constructor
    · rintro ⟨s, rfl, rest, rfl, rfl⟩
      rfl
    · intro h
      cases texts with
      | nil => cases h
      | cons s rest =>
        obtain ⟨rfl, rfl⟩ := List.cons_eq_cons.mp h
        exact ⟨s, rfl, rest, rfl, rfl⟩

theorem mapM_text_eq_error_iff {items : List Value} : items.mapM (text expected) = .error m ↔
    ∃ (before : List String) (v : Value) (after : List Value),
      items = before.map .text ++ v :: after ∧ (∀ s, v ≠ .text s) ∧
        m = .kind v.found expected := by
  induction items with
  | nil => simp [pure, Except.pure]
  | cons v items ih =>
    rw [mapM_cons_eq_error_iff, text_eq_error_iff]
    constructor
    · rintro (⟨hv, rfl⟩ | ⟨s, hs, hrest⟩)
      · exact ⟨[], v, items, rfl, hv, rfl⟩
      · obtain ⟨before, w, after, rfl, hw, rfl⟩ := ih.mp hrest
        rw [text_eq_ok_iff.mp hs]
        exact ⟨s :: before, w, after, rfl, hw, rfl⟩
    · rintro ⟨before, w, after, heq, hw, rfl⟩
      cases before with
      | nil =>
        obtain ⟨rfl, -⟩ := List.cons_eq_cons.mp heq
        exact .inl ⟨hw, rfl⟩
      | cons s before =>
        obtain ⟨rfl, rfl⟩ := List.cons_eq_cons.mp heq
        exact .inr ⟨s, rfl, ih.mpr ⟨before, w, after, rfl, hw, rfl⟩⟩

theorem texts_eq_ok_iff {ss : List String} :
    texts expected v = .ok ss ↔ v = .array (ss.map .text) := by
  cases v with
  | array items => simp [texts, mapM_text_eq_ok_iff]
  | _ => simp [texts, mistyped]

theorem texts_eq_error_iff : texts expected v = .error m ↔ ListProblem expected v m := by
  constructor
  · intro h
    unfold texts at h
    split at h
    · obtain ⟨before, w, after, rfl, hw, rfl⟩ := mapM_text_eq_error_iff.mp h
      exact .item before hw after
    · rename_i hv
      cases h
      exact .kind hv
  · intro h
    cases h with
    | kind hv =>
      unfold texts
      split
      · exact absurd rfl (hv _)
      · rfl
    | item before hw after => exact mapM_text_eq_error_iff.mpr ⟨before, _, after, rfl, hw, rfl⟩

end Values

/-! ### Single entries -/

/-- The entry has one of the keys and a value of the kind of that key. -/
inductive Fits : String → Value → Prop
  | commandStart (s : String) : Fits "command_prefix" (.text s)
  | searchPath (dirs : List String) : Fits "search_path" (.array (dirs.map .text))
  | hookTimeoutMs (n : Nat) (hn : n ≤ 2 ^ 63 - 1) : Fits "hook_timeout_ms" (.int n)
  | dryRun (b : Bool) : Fits "dry_run" (.bool b)
  | defaultApps (apps : List String) : Fits "default_apps" (.array (apps.map .text))

/-- What is wrong with an entry: there is no such key, or the value is not of the kind of the
key. -/
inductive Problem : String → Value → Mismatch → Prop
  | unknown {key : String} {v : Value} (hkey : key ∉ keys) :
    Problem key v (.unknownField key keys)
  | commandStart {v : Value} (hv : ∀ s, v ≠ .text s) :
    Problem "command_prefix" v (.kind v.found "a string")
  | searchPath {v : Value} {m : Mismatch} (h : ListProblem "path string" v m) :
    Problem "search_path" v m
  | hookTimeoutMs {v : Value} (hv : ∀ z, v ≠ .int z) :
    Problem "hook_timeout_ms" v (.kind v.found "u64")
  | negative {z : Int} (hz : z < 0) : Problem "hook_timeout_ms" (.int z) (.range (.int z) "u64")
  | dryRun {v : Value} (hv : ∀ b, v ≠ .bool b) : Problem "dry_run" v (.kind v.found "a boolean")
  | defaultApps {v : Value} {m : Mismatch} (h : ListProblem "a string" v m) :
    Problem "default_apps" v m

/-- The entry puts its value into the field of its key. -/
inductive Puts (c : EngineConfig) : String → Value → EngineConfig → Prop
  | commandStart (s : String) : Puts c "command_prefix" (.text s) { c with commandStart := s }
  | searchPath (dirs : List String) :
    Puts c "search_path" (.array (dirs.map .text)) { c with searchPath := some dirs }
  | hookTimeoutMs (n : Nat) : Puts c "hook_timeout_ms" (.int n) { c with hookTimeoutMs := some n }
  | dryRun (b : Bool) : Puts c "dry_run" (.bool b) { c with dryRun := b }
  | defaultApps (apps : List String) :
    Puts c "default_apps" (.array (apps.map .text)) { c with defaultApps := apps }

section Entry
variable {c c' : EngineConfig} {key : String} {v : Value} {m : Mismatch}

theorem set_commandStart : c.set "command_prefix" v =
    text "a string" v >>= fun s => pure { c with commandStart := s } := rfl

theorem set_searchPath : c.set "search_path" v =
    texts "path string" v >>= fun dirs => pure { c with searchPath := some dirs } := rfl

theorem set_hookTimeoutMs : c.set "hook_timeout_ms" v =
    natural v >>= fun n => pure { c with hookTimeoutMs := some n } := rfl

theorem set_dryRun : c.set "dry_run" v = truth v >>= fun b => pure { c with dryRun := b } := rfl

theorem set_defaultApps : c.set "default_apps" v =
    texts "a string" v >>= fun apps => pure { c with defaultApps := apps } := rfl

theorem set_of_not_mem (h : key ∉ keys) : c.set key v = .error (.unknownField key keys) := by
  simp only [keys, List.mem_cons, List.not_mem_nil, or_false, not_or] at h
  obtain ⟨h₁, h₂, h₃, h₄, h₅⟩ := h
  rw [set, if_neg h₁, if_neg h₂, if_neg h₃, if_neg h₄, if_neg h₅]

theorem key_cases (key : String) : key = "command_prefix" ∨ key = "search_path" ∨
    key = "hook_timeout_ms" ∨ key = "dry_run" ∨ key = "default_apps" ∨ key ∉ keys := by
  by_cases h : key ∈ keys
  · simp only [keys, List.mem_cons, List.not_mem_nil, or_false] at h
    tauto
  · simp [h]

/-- What one entry does that fits. -/
theorem set_eq_ok_iff : c.set key v = .ok c' ↔ c.Puts key v c' := by
  constructor
  · intro h
    rcases key_cases key with rfl | rfl | rfl | rfl | rfl | hkey
    · obtain ⟨s, hs, rfl⟩ := bind_pure_eq_ok_iff.mp (set_commandStart ▸ h)
      rw [text_eq_ok_iff.mp hs]
      exact .commandStart s
    · obtain ⟨dirs, hdirs, rfl⟩ := bind_pure_eq_ok_iff.mp (set_searchPath ▸ h)
      rw [texts_eq_ok_iff.mp hdirs]
      exact .searchPath dirs
    · obtain ⟨n, hn, rfl⟩ := bind_pure_eq_ok_iff.mp (set_hookTimeoutMs ▸ h)
      rw [natural_eq_ok_iff.mp hn]
      exact .hookTimeoutMs n
    · obtain ⟨b, hb, rfl⟩ := bind_pure_eq_ok_iff.mp (set_dryRun ▸ h)
      rw [truth_eq_ok_iff.mp hb]
      exact .dryRun b
    · obtain ⟨apps, happs, rfl⟩ := bind_pure_eq_ok_iff.mp (set_defaultApps ▸ h)
      rw [texts_eq_ok_iff.mp happs]
      exact .defaultApps apps
    · rw [set_of_not_mem hkey] at h
      cases h
  · intro h
    cases h with
    | commandStart s => rfl
    | searchPath dirs => rw [set_searchPath, texts_eq_ok_iff.mpr rfl, ok_bind]; rfl
    | hookTimeoutMs n => rw [set_hookTimeoutMs, natural_eq_ok_iff.mpr rfl, ok_bind]; rfl
    | dryRun b => rfl
    | defaultApps apps => rw [set_defaultApps, texts_eq_ok_iff.mpr rfl, ok_bind]; rfl

/-- What is wrong with one entry that does not fit. -/
theorem set_eq_error_iff : c.set key v = .error m ↔ Problem key v m := by
  constructor
  · intro h
    rcases key_cases key with rfl | rfl | rfl | rfl | rfl | hkey
    · rw [set_commandStart, bind_pure_eq_error_iff, text_eq_error_iff] at h
      obtain ⟨hv, rfl⟩ := h
      exact .commandStart hv
    · rw [set_searchPath, bind_pure_eq_error_iff, texts_eq_error_iff] at h
      exact .searchPath h
    · rw [set_hookTimeoutMs, bind_pure_eq_error_iff, natural_eq_error_iff] at h
      rcases h with ⟨hv, rfl⟩ | ⟨z, hz, rfl, rfl⟩
      · exact .hookTimeoutMs hv
      · exact .negative hz
    · rw [set_dryRun, bind_pure_eq_error_iff, truth_eq_error_iff] at h
      obtain ⟨hv, rfl⟩ := h
      exact .dryRun hv
    · rw [set_defaultApps, bind_pure_eq_error_iff, texts_eq_error_iff] at h
      exact .defaultApps h
    · rw [set_of_not_mem hkey] at h
      cases h
      exact .unknown hkey
  · intro h
    cases h with
    | unknown hkey => exact set_of_not_mem hkey
    | commandStart hv => exact bind_pure_eq_error_iff.mpr (text_eq_error_iff.mpr ⟨hv, rfl⟩)
    | searchPath h => exact bind_pure_eq_error_iff.mpr (texts_eq_error_iff.mpr h)
    | hookTimeoutMs hv =>
      exact bind_pure_eq_error_iff.mpr (natural_eq_error_iff.mpr (.inl ⟨hv, rfl⟩))
    | negative hz =>
      exact bind_pure_eq_error_iff.mpr (natural_eq_error_iff.mpr (.inr ⟨_, hz, rfl, rfl⟩))
    | dryRun hv => exact bind_pure_eq_error_iff.mpr (truth_eq_error_iff.mpr ⟨hv, rfl⟩)
    | defaultApps h => exact bind_pure_eq_error_iff.mpr (texts_eq_error_iff.mpr h)

end Entry

/-! ### All entries -/

theorem fits_iff {key : String} {v : Value} (hv : v.InRange) (c : EngineConfig) :
    Fits key v ↔ ∃ c', c.Puts key v c' := by
  constructor
  · intro h
    cases h with
    | commandStart s => exact ⟨_, .commandStart s⟩
    | searchPath dirs => exact ⟨_, .searchPath dirs⟩
    | hookTimeoutMs n _ => exact ⟨_, .hookTimeoutMs n⟩
    | dryRun b => exact ⟨_, .dryRun b⟩
    | defaultApps apps => exact ⟨_, .defaultApps apps⟩
  · rintro ⟨c', h⟩
    cases h with
    | commandStart s => exact .commandStart s
    | searchPath dirs => exact .searchPath dirs
    | hookTimeoutMs n =>
      simp only [Value.InRange] at hv
      exact .hookTimeoutMs n (by omega)
    | dryRun b => exact .dryRun b
    | defaultApps apps => exact .defaultApps apps

/-- A problem with the first entry of a table that does not fit. -/
def FirstProblem (table : Table) (m : Mismatch) : Prop :=
  ∃ (before : Table) (key : String) (v : Value) (after : Table),
    table = before ++ (key, v) :: after ∧ (∀ e ∈ before, Fits e.1 e.2) ∧ Problem key v m

section Entries
variable {c c' : EngineConfig} {table : Table} {m : Mismatch}

theorem setAll_cons_eq_ok_iff {key : String} {v : Value} : c.setAll ((key, v) :: table) = .ok c' ↔
    ∃ c₁, c.Puts key v c₁ ∧ c₁.setAll table = .ok c' := by
  simp only [setAll, bind_eq_ok_iff, set_eq_ok_iff]

theorem setAll_eq_ok_iff (hrange : ∀ e ∈ table, e.2.InRange) :
    (∃ c', c.setAll table = .ok c') ↔ ∀ e ∈ table, Fits e.1 e.2 := by
  induction table generalizing c with
  | nil => simp [setAll]
  | cons e table ih =>
    obtain ⟨hv, hrange⟩ := List.forall_mem_cons.mp hrange
    rw [List.forall_mem_cons, fits_iff hv c]
    constructor
    · rintro ⟨c', h⟩
      obtain ⟨c₁, hputs, h⟩ := setAll_cons_eq_ok_iff.mp h
      exact ⟨⟨c₁, hputs⟩, (ih hrange).mp ⟨c', h⟩⟩
    · rintro ⟨⟨c₁, hputs⟩, h⟩
      obtain ⟨c', h⟩ := (ih (c := c₁) hrange).mpr h
      exact ⟨c', setAll_cons_eq_ok_iff.mpr ⟨c₁, hputs, h⟩⟩

theorem setAll_append {before : Table} (h : c.setAll before = .ok c') (after : Table) :
    c.setAll (before ++ after) = c'.setAll after := by
  induction before generalizing c with
  | nil =>
    cases h
    rfl
  | cons e before ih =>
    obtain ⟨c₁, hputs, h⟩ := setAll_cons_eq_ok_iff.mp h
    rw [List.cons_append, setAll, set_eq_ok_iff.mpr hputs, ok_bind, ih h]

/-- Settings of which no entry is a problem are found, so what is reported is the first one. -/
theorem setAll_eq_error_iff (hrange : ∀ e ∈ table, e.2.InRange) :
    c.setAll table = .error m ↔ FirstProblem table m := by
  constructor
  · intro h
    induction table generalizing c with
    | nil => cases h
    | cons e table ih =>
      obtain ⟨hv, hrange⟩ := List.forall_mem_cons.mp hrange
      cases hset : c.set e.1 e.2 with
      | error m' =>
        rw [setAll, hset] at h
        cases h
        exact ⟨[], e.1, e.2, table, rfl, nofun, set_eq_error_iff.mp hset⟩
      | ok c₁ =>
        rw [setAll, hset, ok_bind] at h
        obtain ⟨before, key, v, after, rfl, hbefore, hproblem⟩ := ih hrange h
        have he := (fits_iff hv c).mpr ⟨c₁, set_eq_ok_iff.mp hset⟩
        exact ⟨e :: before, key, v, after, rfl, List.forall_mem_cons.mpr ⟨he, hbefore⟩, hproblem⟩
  · rintro ⟨before, key, v, after, rfl, hbefore, hproblem⟩
    have hrange := fun e he => hrange e (List.mem_append_left _ he)
    obtain ⟨c₁, hc₁⟩ := (setAll_eq_ok_iff (c := c) hrange).mpr hbefore
    rw [setAll_append hc₁, setAll, set_eq_error_iff.mpr hproblem]
    rfl

end Entries

/-! ### What the settings are -/

/-- The field of a key is what a table gives, and what it was if the table gives nothing. -/
def Tells {α : Type} (table : Table) (key : String) (written : α → Value → Prop) (was is : α) :
    Prop :=
  (∃ v, (key, v) ∈ table ∧ written is v) ∨ key ∉ table.map (·.1) ∧ is = was

section Tells
variable {α : Type} {table table' : Table} {key key' : String} {written : α → Value → Prop}
  {v : Value} {was is is' between : α}

theorem Tells.cons (h : Tells table key written between is)
    (hself : key' = key → written between v) (hother : key' ≠ key → between = was) :
    Tells ((key', v) :: table) key written was is := by
  rcases h with ⟨w, hw, his⟩ | ⟨hnone, rfl⟩
  · exact .inl ⟨w, List.mem_cons_of_mem _ hw, his⟩
  · by_cases heq : key' = key
    · subst heq
      exact .inl ⟨v, List.mem_cons_self .., hself rfl⟩
    · refine .inr ⟨?_, hother heq⟩
      rw [List.map_cons, List.mem_cons, not_or]
      exact ⟨Ne.symm heq, hnone⟩

theorem eq_of_nodup_keys {w : Value} (hnodup : (table.map (·.1)).Nodup) (hv : (key, v) ∈ table)
    (hw : (key, w) ∈ table) : v = w := by
  have h := List.inj_on_of_nodup_map hnodup hv hw rfl
  simpa using h

theorem Tells.unique (hnodup : (table.map (·.1)).Nodup)
    (hwritten : ∀ a b v, written a v → written b v → a = b)
    (h : Tells table key written was is) (h' : Tells table key written was is') : is = is' := by
  rcases h with ⟨v, hv, his⟩ | ⟨hnone, rfl⟩
  · rcases h' with ⟨w, hw, his'⟩ | ⟨hnone, -⟩
    · obtain rfl := eq_of_nodup_keys hnodup hv hw
      exact hwritten _ _ _ his his'
    · exact absurd (List.mem_map_of_mem hv) hnone
  · rcases h' with ⟨w, hw, -⟩ | ⟨-, rfl⟩
    · exact absurd (List.mem_map_of_mem hw) hnone
    · rfl

theorem Tells.perm (h : Tells table key written was is) (hperm : table'.Perm table) :
    Tells table' key written was is := by
  rcases h with ⟨v, hv, his⟩ | ⟨hnone, his⟩
  · exact .inl ⟨v, hperm.mem_iff.mpr hv, his⟩
  · exact .inr ⟨fun hmem => hnone ((hperm.map _).mem_iff.mp hmem), his⟩

end Tells

/-- The settings are what a table gives, and what they were where it gives nothing. -/
structure Reflects (table : Table) (was is : EngineConfig) : Prop where
  commandStart : Tells table "command_prefix" (fun s v => v = .text s)
    was.commandStart is.commandStart
  searchPath : Tells table "search_path"
    (fun given v => ∃ dirs, given = some dirs ∧ v = .array (dirs.map .text))
    was.searchPath is.searchPath
  hookTimeoutMs : Tells table "hook_timeout_ms"
    (fun given v => ∃ n : Nat, given = some n ∧ v = .int n) was.hookTimeoutMs is.hookTimeoutMs
  dryRun : Tells table "dry_run" (fun b v => v = .bool b) was.dryRun is.dryRun
  defaultApps : Tells table "default_apps" (fun apps v => v = .array (apps.map .text))
    was.defaultApps is.defaultApps

namespace Reflects
variable {table table' : Table} {key : String} {v : Value} {was is is' between : EngineConfig}

theorem cons (h : Reflects table between is) (hputs : was.Puts key v between) :
    Reflects ((key, v) :: table) was is where
  commandStart := h.commandStart.cons (by cases hputs <;> simp) (by cases hputs <;> simp)
  searchPath := h.searchPath.cons (by cases hputs <;> simp) (by cases hputs <;> simp)
  hookTimeoutMs := h.hookTimeoutMs.cons (by cases hputs <;> simp) (by cases hputs <;> simp)
  dryRun := h.dryRun.cons (by cases hputs <;> simp) (by cases hputs <;> simp)
  defaultApps := h.defaultApps.cons (by cases hputs <;> simp) (by cases hputs <;> simp)

theorem of_setAll (h : was.setAll table = .ok is) : Reflects table was is := by
  induction table generalizing was with
  | nil =>
    cases h
    exact ⟨.inr ⟨nofun, rfl⟩, .inr ⟨nofun, rfl⟩, .inr ⟨nofun, rfl⟩, .inr ⟨nofun, rfl⟩,
      .inr ⟨nofun, rfl⟩⟩
  | cons e table ih =>
    obtain ⟨between, hputs, h⟩ := setAll_cons_eq_ok_iff.mp h
    exact (ih h).cons hputs

theorem map_text_injective {l l' : List String} (h : l.map Value.text = l'.map .text) : l = l' :=
  List.map_injective_iff.mpr (fun _ _ => Value.text.inj) h

theorem unique (hnodup : (table.map (·.1)).Nodup) (h : Reflects table was is)
    (h' : Reflects table was is') : is = is' := by
  have hstart := h.commandStart.unique hnodup (by rintro s t v rfl ⟨⟩; rfl) h'.commandStart
  have hpath := h.searchPath.unique hnodup (by
    rintro _ _ v ⟨dirs, rfl, rfl⟩ ⟨dirs', rfl, heq⟩
    rw [map_text_injective (Value.array.inj heq)]) h'.searchPath
  have htimeout := h.hookTimeoutMs.unique hnodup (by
    rintro _ _ v ⟨n, rfl, rfl⟩ ⟨n', rfl, heq⟩
    rw [Int.ofNat_inj.mp (Value.int.inj heq)]) h'.hookTimeoutMs
  have hdry := h.dryRun.unique hnodup (by rintro b b' v rfl ⟨⟩; rfl) h'.dryRun
  have happs := h.defaultApps.unique hnodup (by
    rintro apps apps' v rfl heq
    exact map_text_injective (Value.array.inj heq)) h'.defaultApps
  cases is
  cases is'
  simp only at hstart hpath htimeout hdry happs
  rw [hstart, hpath, htimeout, hdry, happs]

theorem perm (h : Reflects table was is) (hperm : table'.Perm table) : Reflects table' was is :=
  ⟨h.commandStart.perm hperm, h.searchPath.perm hperm, h.hookTimeoutMs.perm hperm,
    h.dryRun.perm hperm, h.defaultApps.perm hperm⟩

/-- The command prefix is empty exactly if the table gives it as such. -/
theorem isEmpty_iff (h : Reflects table {} is) (hnodup : (table.map (·.1)).Nodup) :
    is.commandStart.isEmpty = true ↔ ("command_prefix", .text "") ∈ table := by
  rw [String.isEmpty_iff]
  rcases h.commandStart with ⟨v, hv, rfl⟩ | ⟨hnone, hdefault⟩
  · constructor
    · intro hempty
      rwa [← hempty]
    · intro hempty
      exact Value.text.inj (eq_of_nodup_keys hnodup hv hempty)
  · refine ⟨fun hempty => ?_, fun hempty => absurd (List.mem_map_of_mem hempty) hnone⟩
    rw [hdefault] at hempty
    exact absurd hempty (by decide : defaultCommandStart ≠ "")

end Reflects

/-! ### Documents -/

/-- What is reported about a document: the problem with the entry that stands before all others that
do not fit, or if all of them do, that the command prefix is empty. -/
inductive Refused (ls : List Toml.Line) (table : Table) : ConfigError → Prop
  | unfit {key : String} {v : Value} {m : Mismatch} (hmem : (key, v) ∈ table)
    (hproblem : Problem key v m)
    (hfirst : ∀ e ∈ table, e.1 ≠ key → ¬ Fits e.1 e.2 → Toml.place ls key < Toml.place ls e.1) :
    Refused ls table (.unfit m)
  | emptyStart (hfits : ∀ e ∈ table, Fits e.1 e.2)
    (hempty : ("command_prefix", .text "") ∈ table) : Refused ls table .emptyStart

section Documents
variable {ls : List Toml.Line} {table table' : Table} {m : Mismatch} {c : EngineConfig}

/-- In a table that has its entries in the order of the document, the first problem is the one that
stands first. -/
theorem refused_unfit_iff
    (hascending : table.Pairwise fun e e' => Toml.place ls e.1 < Toml.place ls e'.1) :
    Refused ls table (.unfit m) ↔ FirstProblem table m := by
  constructor
  · rintro (⟨hmem, hproblem, hfirst⟩ | -)
    obtain ⟨before, after, rfl⟩ := List.append_of_mem hmem
    refine ⟨before, _, _, after, rfl, fun e he => ?_, hproblem⟩
    have hlt := (List.pairwise_append.mp hascending).2.2 e he _ (List.mem_cons_self ..)
    by_contra hunfit
    have hne : e.1 ≠ _ := fun heq => hlt.ne (congrArg _ heq)
    exact hlt.asymm (hfirst e (List.mem_append_left _ he) hne hunfit)
  · rintro ⟨before, key, v, after, rfl, hbefore, hproblem⟩
    refine .unfit (List.mem_append_right _ (List.mem_cons_self ..)) hproblem ?_
    intro e he hne hunfit
    rcases List.mem_append.mp he with he | he
    · exact absurd (hbefore e he) hunfit
    · have htail := List.pairwise_cons.mp (List.pairwise_append.mp hascending).2.1
      rcases List.mem_cons.mp he with rfl | he
      · exact absurd rfl hne
      · exact htail.1 e he

theorem ofTable_eq_ok_iff (hnodup : (table.map (·.1)).Nodup) (hrange : ∀ e ∈ table, e.2.InRange) :
    ofTable table = .ok c ↔ (∀ e ∈ table, Fits e.1 e.2) ∧
      ("command_prefix", .text "") ∉ table ∧ Reflects table {} c := by
  have hall := setAll_eq_ok_iff (c := {}) hrange
  constructor
  · intro h
    unfold ofTable at h
    split at h
    · cases h
    · rename_i c' hset
      have hreflects := Reflects.of_setAll hset
      split at h
      · cases h
      · rename_i hempty
        cases h
        exact ⟨hall.mp ⟨c, hset⟩, mt (hreflects.isEmpty_iff hnodup).mpr hempty, hreflects⟩
  · rintro ⟨hfits, hempty, hreflects⟩
    obtain ⟨c', hset⟩ := hall.mpr hfits
    obtain rfl := (Reflects.of_setAll hset).unique hnodup hreflects
    rw [ofTable, hset]
    exact if_neg (mt (hreflects.isEmpty_iff hnodup).mp hempty)

theorem ofTable_eq_error_iff (hnodup : (table.map (·.1)).Nodup)
    (hrange : ∀ e ∈ table, e.2.InRange)
    (hascending : table.Pairwise fun e e' => Toml.place ls e.1 < Toml.place ls e'.1)
    {e : ConfigError} : ofTable table = .error e ↔ Refused ls table e := by
  have hall := setAll_eq_ok_iff (c := {}) hrange
  constructor
  · intro h
    unfold ofTable at h
    split at h
    · rename_i m hset
      cases h
      exact (refused_unfit_iff hascending).mpr ((setAll_eq_error_iff hrange).mp hset)
    · rename_i c' hset
      split at h
      · rename_i hempty
        cases h
        exact .emptyStart (hall.mp ⟨c', hset⟩)
          (((Reflects.of_setAll hset).isEmpty_iff hnodup).mp hempty)
      · cases h
  · intro h
    cases h with
    | unfit hmem hproblem hfirst =>
      have hproblem := (refused_unfit_iff hascending).mp (.unfit hmem hproblem hfirst)
      rw [ofTable, (setAll_eq_error_iff hrange).mpr hproblem]
    | emptyStart hfits hempty =>
      obtain ⟨c', hset⟩ := hall.mpr hfits
      rw [ofTable, hset]
      exact if_pos (((Reflects.of_setAll hset).isEmpty_iff hnodup).mpr hempty)

theorem parse_of_read {document : String} (h : Toml.read document = some table) :
    parse document = ofTable table := by
  rw [parse, h]

/-- A document gives settings exactly if each entry of it has one of the five keys and a value of
its kind, and if it does not give an empty command prefix. The settings are the ones that it gives,
with the defaults where it gives nothing, in whatever order they stand. Otherwise the entry is
reported that stands first in the document among those that do not fit, and the empty prefix only if
there is none. A table stands at its own header if it has one, also where a header of a table below
it comes before. -/
theorem parse_document {document : String} (h : Toml.read document = some table) :
    ∃ ls, Toml.lines document = some ls ∧
      (∀ key, key ∈ table.map (·.1) ↔ some key ∈ Toml.named false ls) ∧
      ((∃ c, parse document = .ok c) ↔
        (∀ e ∈ table, Fits e.1 e.2) ∧ ("command_prefix", .text "") ∉ table) ∧
      (∀ c, parse document = .ok c → ∀ c', Reflects table {} c' ↔ c' = c) ∧
      (∀ document' table', Toml.read document' = some table' → table'.Perm table →
        ∀ c, parse document = .ok c ↔ parse document' = .ok c) ∧
      ∀ e, parse document = .error e ↔ Refused ls table e := by
  obtain ⟨ls, -, -, hlines, -⟩ := Toml.read_eq_some_iff.mp h
  obtain ⟨hnamed, hascending⟩ := Toml.keys_of_read hlines h
  have hsound := Toml.sound_of_read h
  have hok := fun c => ofTable_eq_ok_iff (c := c) hsound.1 hsound.2
  rw [parse_of_read h]
  refine ⟨ls, hlines, hnamed, ⟨?_, ?_⟩, fun c hc c' => ⟨?_, ?_⟩,
    fun document' table' h' hperm c => ?_,
    fun e => ofTable_eq_error_iff hsound.1 hsound.2 hascending⟩
  · rintro ⟨c, hc⟩
    exact ⟨((hok c).mp hc).1, ((hok c).mp hc).2.1⟩
  · rintro ⟨hfits, hempty⟩
    obtain ⟨c, hset⟩ := (setAll_eq_ok_iff (c := {}) hsound.2).mpr hfits
    exact ⟨c, (hok c).mpr ⟨hfits, hempty, .of_setAll hset⟩⟩
  · intro hc'
    exact hc'.unique hsound.1 ((hok c).mp hc).2.2
  · rintro rfl
    exact ((hok c').mp hc).2.2
  · have hsound' := Toml.sound_of_read h'
    have hmem : ∀ e, e ∈ table' ↔ e ∈ table := fun e => hperm.mem_iff
    rw [parse_of_read h', hok, ofTable_eq_ok_iff hsound'.1 hsound'.2]
    simp only [hmem]
    have hreflects : Reflects table {} c ↔ Reflects table' {} c :=
      ⟨fun h => h.perm hperm, fun h => h.perm hperm.symm⟩
    rw [hreflects]

end Documents
end EngineConfig

/-! ### Sample documents -/

namespace Sample

/-- A document that gives three of the settings. -/
def settings : String :=
  "dry_run = true # no commands\n'default_apps' = [\"ntp\", 'tap']\nhook_timeout_ms = 0x5DC\n"

/-- Its entries. -/
def settingsTable : Toml.Table :=
  [("dry_run", .bool true), ("default_apps", .array [.text "ntp", .text "tap"]),
    ("hook_timeout_ms", .int 1500)]

/-- What they say. -/
def dryRuns : EngineConfig :=
  { hookTimeoutMs := some 1500, dryRun := true, defaultApps := ["ntp", "tap"] }

/-- A document with two tables, one of which has its own header below the other one. -/
def reopened : String := "[b.c]\n[a]\n[b]"

end Sample

namespace EngineConfig

/-- The document gives these settings, and defaults for the prefix and the search path. -/
theorem sample_settings : Toml.read Sample.settings = some Sample.settingsTable ∧
    (∃ c, parse Sample.settings = .ok c) ∧
    ∀ c, parse Sample.settings = .ok c → c = Sample.dryRuns := by
  have hread : Toml.read Sample.settings = some Sample.settingsTable := by cbv
  obtain ⟨-, -, -, hok, hreflects, -⟩ := parse_document hread
  refine ⟨hread, hok.mpr ⟨?_, by simp [Sample.settingsTable]⟩, fun c hc => ?_⟩
  · simp only [Sample.settingsTable, List.forall_mem_cons]
    exact ⟨.dryRun true, .defaultApps ["ntp", "tap"], .hookTimeoutMs 1500 (by decide),
      List.forall_mem_nil _⟩
  · refine ((hreflects c hc Sample.dryRuns).mp ?_).symm
    exact {
      commandStart := .inr ⟨by decide, rfl⟩
      searchPath := .inr ⟨by decide, rfl⟩
      hookTimeoutMs := .inl ⟨.int 1500, by simp [Sample.settingsTable], 1500, rfl, rfl⟩
      dryRun := .inl ⟨.bool true, by simp [Sample.settingsTable], rfl⟩
      defaultApps := .inl ⟨.array [.text "ntp", .text "tap"], by simp [Sample.settingsTable], rfl⟩ }

/-- Where a key is named first does not decide what is reported: both tables are unknown, and the
one that is reported is not the one that the first line names. -/
theorem reopened_reported_later : ∃ ls table,
    Toml.lines Sample.reopened = some ls ∧ Toml.read Sample.reopened = some table ∧
    (∃ v, ("b", v) ∈ table ∧ Problem "b" v (.unknownField "b" keys)) ∧
    Toml.firstNamed ls "b" < Toml.firstNamed ls "a" ∧
    parse Sample.reopened = .error (.unfit (.unknownField "a" keys)) := by
  refine ⟨[.opens ["b"] "c", .opens [] "a", .opens [] "b"],
    [("a", .table []), ("b", .table [("c", .table [])])], by cbv, by cbv, ?_, by decide, by cbv⟩
  exact ⟨_, List.mem_cons_of_mem _ (List.mem_cons_self ..), .unknown (by decide)⟩

/-- The first problem is reported, and it comes before the empty prefix. -/
example : parse "command_prefix = ''\nsearch_path = ['/opt', 7, 8]\ntimeout = 3" =
    .error (.unfit (.kind (.int 7) "path string")) := by cbv

end EngineConfig
end LabLifecycle
