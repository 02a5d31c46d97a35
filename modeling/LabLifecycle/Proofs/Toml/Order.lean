import LabLifecycle.Proofs.Toml.Tables

/-!
# The order of a document

A key of a document stands at the first line that names it. A pair behind a header names none: it
belongs to the table of the header. There is one exception. A table can be implied by the header of
a table below it and have a header of its own later on, and then it stands at its own header.

The entries that a document builds stand in this order. Every line keeps `Builder.Follows`, which
says so of the lines up to it. It takes that no table has two headers of its own.
-/
namespace LabLifecycle.Toml

/-! ### Where keys stand -/

namespace Line

/-- The line is a header. -/
def isHeader : Line → Bool
  | opens _ _ | adds _ _ => true
  | defines _ _ _ => false

/-- The first part of the key on the line. -/
def top : Line → String
  | opens path name | adds path name | defines path name _ => path.headD name

/-- The key of the document that the line names. A pair that belongs to a table names none. -/
def named? (inTable : Bool) (l : Line) : Option String :=
  if inTable && !l.isHeader then none else some l.top

/-- The key of the document that has its own header on the line. -/
def opened? : Line → Option String
  | opens [] name => some name
  | _ => none

end Line

/-- The keys of the document that lines name, one after another. -/
def named : Bool → List Line → List (Option String)
  | _, [] => []
  | inTable, l :: rest => l.named? inTable :: named (inTable || l.isHeader) rest

/-- The first line that names a key. -/
def firstNamed (ls : List Line) (key : String) : Nat := (named false ls).idxOf (some key)

/-- The line at which a key stands: its own header, or if it has none, the first one that names
it. -/
def place (ls : List Line) (key : String) : Nat :=
  if some key ∈ ls.map Line.opened? then (ls.map Line.opened?).idxOf (some key)
  else firstNamed ls key

section Places
variable {ls : List Line} {l : Line} {key : String} {inTable : Bool}

theorem length_named : (named inTable ls).length = ls.length := by
  induction ls generalizing inTable with
  | nil => rfl
  | cons l rest ih => rw [named, List.length_cons, ih, List.length_cons]

theorem named_concat (inTable : Bool) (ls : List Line) (l : Line) :
    named inTable (ls ++ [l]) =
      named inTable ls ++ [l.named? (inTable || ls.any Line.isHeader)] := by
  induction ls generalizing inTable with
  | nil => simp [named]
  | cons l' rest ih => simp [named, ih, Bool.or_assoc]

/-- A header names the key that it is the own header of. -/
theorem Line.named?_of_opened? (h : l.opened? = some key) : l.named? inTable = some key := by
  cases l with
  | opens path name =>
    cases path with
    | nil => simpa [opened?, named?, isHeader, top] using h
    | cons part path => cases h
  | adds path name => cases h
  | defines path name v => cases h

theorem named_of_opened (h : some key ∈ ls.map Line.opened?) : some key ∈ named inTable ls := by
  induction ls generalizing inTable with
  | nil => cases h
  | cons l rest ih =>
    rw [named, List.mem_cons]
    rcases List.mem_cons.mp h with h | h
    · exact .inl (Line.named?_of_opened? h.symm).symm
    · exact .inr (ih h)

/-- A key stands at one of the lines that there are, if one of them names it. -/
theorem place_lt (h : some key ∈ named false ls) : place ls key < ls.length := by
  unfold place
  split
  · rename_i hopened
    simpa using List.idxOf_lt_length_of_mem hopened
  · rw [firstNamed, ← length_named]
    exact List.idxOf_lt_length_of_mem h

/-- A further line does not move a key that is named already, unless it is its own header. -/
theorem place_concat_of_named (h : some key ∈ named false ls) (hl : l.opened? ≠ some key) :
    place (ls ++ [l]) key = place ls key := by
  have hopened : some key ∈ (ls ++ [l]).map Line.opened? ↔ some key ∈ ls.map Line.opened? := by
    simp [hl.symm]
  unfold place firstNamed
  rw [named_concat, List.idxOf_append_of_mem h]
  by_cases hown : some key ∈ ls.map Line.opened?
  · rw [if_pos (hopened.mpr hown), if_pos hown, List.map_append, List.idxOf_append_of_mem hown]
  · rw [if_neg (mt hopened.mp hown), if_neg hown]

/-- A key stands at its own header. -/
theorem place_concat_of_opened (h : some key ∉ ls.map Line.opened?) (hl : l.opened? = some key) :
    place (ls ++ [l]) key = ls.length := by
  have hmap : (ls ++ [l]).map Line.opened? = ls.map Line.opened? ++ [some key] := by simp [hl]
  rw [place, hmap, if_pos (by simp), List.idxOf_append_of_notMem h]
  simp

/-- A key stands at the first line that names it, also if this is its own header. -/
theorem place_concat_of_new (h : some key ∉ named false ls)
    (hl : l.named? (ls.any Line.isHeader) = some key) :
    place (ls ++ [l]) key = ls.length := by
  have hnew : some key ∉ ls.map Line.opened? := mt named_of_opened h
  by_cases hown : l.opened? = some key
  · exact place_concat_of_opened hnew hown
  · have hnone : some key ∉ (ls ++ [l]).map Line.opened? := by simp [hnew, Ne.symm hown]
    rw [place, if_neg hnone, firstNamed, named_concat, Bool.false_or, hl,
      List.idxOf_append_of_notMem h, length_named]
    simp

end Places

/-! ### Keys under construction -/

/-- The keys with another one behind them, unless it is there already. -/
def withKey (keys : List String) (key : String) : List String :=
  if key ∈ keys then keys else keys ++ [key]

section Keys
variable {keys : List String} {key : String}

theorem withKey_of_mem (h : key ∈ keys) : withKey keys key = keys := if_pos h

theorem withKey_of_not_mem (h : key ∉ keys) : withKey keys key = keys ++ [key] := if_neg h

theorem mem_withKey {other : String} : other ∈ withKey keys key ↔ other ∈ keys ∨ other = key := by
  unfold withKey
  split
  · rename_i h
    constructor
    · exact .inl
    · rintro (hother | rfl)
      · exact hother
      · exact h
  · simp

@[simp] theorem withKey_withKey : withKey (withKey keys key) key = withKey keys key :=
  withKey_of_mem (mem_withKey.mpr (.inr rfl))

end Keys

namespace Entries

/-- The keys of the entries. -/
def keys (entries : Entries) : List String := entries.map (·.1)

section
variable {entries entries' : Entries} {made origin : Origin}
  {change : Origin → Entries → Option Entries} {path : List String} {key part : String}
  {node : Node}

theorem lookup_eq_none_iff : entries.lookup key = none ↔ key ∉ keys entries := by
  simp only [List.lookup_eq_none_iff, keys, List.mem_map, not_exists, not_and, bne_iff_ne]
  exact forall₂_congr fun e _ => ne_comm

theorem mem_keys_of_lookup (h : entries.lookup key = some node) : key ∈ keys entries := by
  by_contra hkey
  rw [lookup_eq_none_iff.mpr hkey] at h
  cases h

theorem keys_concat (h : entries.lookup key = none) :
    keys (entries ++ [(key, node)]) = withKey (keys entries) key := by
  rw [withKey_of_not_mem (lookup_eq_none_iff.mp h)]
  exact List.map_append

theorem keys_replace : keys (replace entries key node) = keys entries := map_fst_replace

theorem lookup_cons_of_ne {name : String} (h : key ≠ name) :
    List.lookup key ((name, node) :: entries) = entries.lookup key := by
  rw [List.lookup_cons, beq_eq_false_iff_ne.mpr h]

theorem lookup_replace_self {old : Node} (h : entries.lookup key = some old) :
    (replace entries key node).lookup key = some node := by
  induction entries with
  | nil => cases h
  | cons e rest ih =>
    obtain ⟨name, first⟩ := e
    rw [replace, List.map_cons]
    by_cases hname : name = key
    · rw [if_pos (by simpa using hname)]
      exact List.lookup_cons_self
    · rw [lookup_cons_of_ne (Ne.symm hname)] at h
      rw [if_neg (by simpa using hname), lookup_cons_of_ne (Ne.symm hname)]
      exact ih h

theorem lookup_replace_of_ne {other : String} (h : other ≠ key) :
    (replace entries key node).lookup other = entries.lookup other := by
  induction entries with
  | nil => rfl
  | cons e rest ih =>
    obtain ⟨name, first⟩ := e
    rw [replace, List.map_cons]
    by_cases hname : name = key
    · subst hname
      rw [if_pos (by simp), lookup_cons_of_ne h, lookup_cons_of_ne h]
      exact ih
    · rw [if_neg (by simpa using hname), List.lookup_cons, List.lookup_cons]
      cases other == name with
      | true => rfl
      | false => exact ih

theorem lookup_erase_of_ne {other : String} (h : other ≠ key) :
    (erase entries key).lookup other = entries.lookup other := by
  induction entries with
  | nil => rfl
  | cons e rest ih =>
    obtain ⟨name, first⟩ := e
    by_cases hname : name = key
    · subst hname
      rw [erase, List.filter_cons_of_neg (by simp), lookup_cons_of_ne h]
      exact ih
    · rw [erase, List.filter_cons_of_pos (by simpa using hname), List.lookup_cons,
        List.lookup_cons]
      cases other == name with
      | true => rfl
      | false => exact ih

/-- A change below a key leaves the keys as they are, or adds this one. -/
theorem keys_alter (h : alter made change (part :: path) origin entries = some entries') :
    keys entries' = withKey (keys entries) part := by
  cases altered_of_alter h with
  | made hpart _ => exact keys_concat hpart
  | replaced hpart _ _ =>
    rw [withKey_of_mem (mem_keys_of_lookup hpart)]
    exact keys_replace

/-- Of a change at the end of a path the keys see its first part only. -/
theorem keys_alter_headD (h : alter made change path origin entries = some entries')
    (hchange : ∀ inner, change origin entries = some inner →
      keys inner = withKey (keys entries) key) :
    keys entries' = withKey (keys entries) (path.headD key) := by
  cases path with
  | nil => exact hchange entries' h
  | cons part path => exact keys_alter h

theorem keys_define {v : Value} (h : entries.define path key v = some entries') :
    keys entries' = withKey (keys entries) (path.headD key) := by
  refine keys_alter_headD h fun inner hinner => ?_
  split at hinner
  · cases hinner
  · split at hinner
    · cases hinner
    · rename_i hkey
      cases hinner
      exact keys_concat (Option.not_isSome_iff_eq_none.mp hkey)

theorem keys_putTable {table : Entries} (h : entries.putTable path key table = some entries') :
    keys entries' = withKey (keys entries) (path.headD key) := by
  refine keys_alter_headD h fun inner hinner => ?_
  split at hinner
  · cases hinner
  · rename_i hkey
    cases hinner
    exact keys_concat (Option.not_isSome_iff_eq_none.mp hkey)

theorem keys_openTables (h : entries.openTables path key = some entries') :
    keys entries' = withKey (keys entries) (path.headD key) := by
  refine keys_alter_headD h fun inner hinner => ?_
  split at hinner
  · rename_i hkey
    cases hinner
    exact keys_concat hkey
  · rename_i hkey
    cases hinner
    exact (withKey_of_mem (mem_keys_of_lookup hkey)).symm
  · cases hinner

theorem keys_pushTable {table : Entries} (h : entries.pushTable path key table = some entries') :
    keys entries' = withKey (keys entries) (path.headD key) := by
  refine keys_alter_headD h fun inner hinner => ?_
  split at hinner
  · rename_i hkey
    cases hinner
    rw [withKey_of_mem (mem_keys_of_lookup hkey)]
    exact keys_replace
  · cases hinner

/-- A table that is taken out of the entries themselves leaves the other ones. -/
theorem keys_takeOut_nil {table : Entries} (h : entries.takeOut [] key = some (table, entries')) :
    keys entries' = (keys entries).filter (· ≠ key) := by
  rcases takeOut_cases h with ⟨hkey, hrest⟩ | ⟨-, hrest⟩
  · cases hrest
    refine (List.filter_eq_self.mpr fun other hother => ?_).symm
    have hne : other ≠ key := fun heq => lookup_eq_none_iff.mp hkey (heq ▸ hother)
    simpa using hne
  · cases hrest
    rw [keys, erase, keys, List.filter_map]
    exact congrArg (List.map _) (List.filter_congr fun e _ => Bool.eq_iff_iff.mpr (by simp))

theorem keys_takeOut_cons {table : Entries}
    (h : entries.takeOut (part :: path) key = some (table, entries')) :
    keys entries' = withKey (keys entries) part := by
  rcases takeOut_cases h with ⟨-, hrest⟩ | ⟨-, hrest⟩
  · exact keys_alter hrest
  · exact keys_alter hrest

end

/-! ### Headers of their own -/

/-- The key stands for a table that has had its own header. -/
def HasHeader (entries : Entries) (key : String) : Prop :=
  ∃ inner, entries.lookup key = some (.table .header inner)

namespace HasHeader
variable {entries entries' : Entries} {made origin : Origin}
  {change : Origin → Entries → Option Entries} {path : List String} {key name : String}
  {node old : Node}

theorem append (h : HasHeader entries key) (more : Entries) : HasHeader (entries ++ more) key := by
  obtain ⟨inner, h⟩ := h
  exact ⟨inner, by rw [List.lookup_append, h, Option.some_or]⟩

/-- Another entry is replaced, or the table of the key by one that keeps its header. -/
theorem replace (h : HasHeader entries key) (hname : entries.lookup name = some old)
    (hnode : ∀ inner, old = .table .header inner → ∃ inner', node = .table .header inner') :
    HasHeader (replace entries name node) key := by
  obtain ⟨inner, h⟩ := h
  by_cases heq : key = name
  · subst heq
    rw [h] at hname
    obtain ⟨inner', rfl⟩ := hnode inner (Option.some.inj hname).symm
    exact ⟨inner', lookup_replace_self h⟩
  · exact ⟨inner, by rw [lookup_replace_of_ne heq, h]⟩

/-- Tables below a key can be changed without a change to its header. -/
theorem alter (h : HasHeader entries key)
    (hchange : ∀ inner, path = [] → change origin entries = some inner → HasHeader inner key)
    (halter : alter made change path origin entries = some entries') :
    HasHeader entries' key := by
  cases path with
  | nil => exact hchange entries' rfl halter
  | cons part path =>
    cases altered_of_alter halter with
    | made _ _ => exact h.append _
    | replaced hpart _ hheader => exact h.replace hpart hheader

theorem putTable {table : Entries} (h : HasHeader entries key)
    (hput : entries.putTable path name table = some entries') : HasHeader entries' key := by
  refine h.alter (fun inner _ hinner => ?_) hput
  split at hinner
  · cases hinner
  · cases hinner
    exact h.append _

theorem pushTable {table : Entries} (h : HasHeader entries key)
    (hpush : entries.pushTable path name table = some entries') : HasHeader entries' key := by
  refine h.alter (fun inner _ hinner => ?_) hpush
  split at hinner
  · rename_i hname
    cases hinner
    exact h.replace hname nofun
  · cases hinner

theorem openTables (h : HasHeader entries key)
    (hopen : entries.openTables path name = some entries') : HasHeader entries' key := by
  refine h.alter (fun inner _ hinner => ?_) hopen
  split at hinner
  · cases hinner
    exact h.append _
  · cases hinner
    exact h
  · cases hinner

/-- What is taken out is another table, for this one has had its header. -/
theorem takeOut {table : Entries} (h : HasHeader entries key)
    (htake : entries.takeOut path name = some (table, entries')) : HasHeader entries' key := by
  rcases takeOut_cases htake with ⟨-, hrest⟩ | ⟨hfind, hrest⟩
  · refine h.alter (fun inner _ hinner => ?_) hrest
    cases hinner
    exact h
  · refine h.alter (fun inner hpath hinner => ?_) hrest
    subst hpath
    cases hinner
    obtain ⟨inner, h⟩ := h
    have hne : key ≠ name := by
      rintro rfl
      rw [find?, h] at hfind
      cases hfind
    exact ⟨inner, by rw [lookup_erase_of_ne hne, h]⟩

theorem takeOut_self (h : HasHeader entries key) : entries.takeOut [] key = none := by
  obtain ⟨inner, h⟩ := h
  rw [Entries.takeOut, find?, h]

end HasHeader

theorem hasHeader_putTable {entries entries' table : Entries} {key : String}
    (h : entries.putTable [] key table = some entries') : entries'.HasHeader key := by
  unfold putTable alter at h
  split at h
  · cases h
  · rename_i hkey
    cases h
    refine ⟨table, ?_⟩
    rw [List.lookup_append, Option.not_isSome_iff_eq_none.mp hkey, Option.none_or]
    exact List.lookup_cons_self

end Entries

/-! ### Line by line -/

namespace Builder

/-- The keys that the document has if no further line names one. -/
def keys (b : Builder) : List String :=
  match b.place with
  | none => b.current.keys
  | some (path, name) => withKey b.root.keys (path.headD name)

/-- The table of the key has had its own header. It is the open one, or it has been put in its
place. -/
def HasHeader (b : Builder) (key : String) : Prop :=
  b.place.isSome = true ∧
    (b.place = some ([], key) ∧ b.isElement = false ∨ b.root.HasHeader key)

section
variable {b b' : Builder} {entries : Entries} {path : List String} {name key : String} {l : Line}

theorem keys_of_place_eq_none (h : b.place = none) : b.keys = b.current.keys := by rw [keys, h]

theorem keys_of_place (h : b.place = some (path, name)) :
    b.keys = withKey b.root.keys (path.headD name) := by rw [keys, h]

theorem keys_close (h : b.close = some entries) : entries.keys = b.keys := by
  unfold close at h
  split at h
  · rename_i hplace
    cases h
    exact (keys_of_place_eq_none hplace).symm
  · rename_i hplace
    rw [keys_of_place hplace]
    split at h
    · exact Entries.keys_pushTable h
    · exact Entries.keys_putTable h

theorem HasHeader.close (h : b.HasHeader key) (hclose : b.close = some entries) :
    entries.HasHeader key := by
  obtain ⟨hplace, h⟩ := h
  unfold Builder.close at hclose
  split at hclose
  · rename_i hnone
    rw [hnone] at hplace
    cases hplace
  · rename_i path name hsome
    rw [hsome, Option.some.injEq, Prod.mk.injEq] at h
    split at hclose
    · rename_i helement
      rcases h with ⟨-, helement'⟩ | h
      · rw [helement] at helement'
        cases helement'
      · exact h.pushTable hclose
    · rcases h with ⟨⟨rfl, rfl⟩, -⟩ | h
      · exact Entries.hasHeader_putTable hclose
      · exact h.putTable hclose

/-- What a line makes of the keys. One that has its own header there moves behind all others, one
that is named there for the first time comes behind them, and else nothing changes. -/
theorem keys_add (h : b.add l = some b') :
    (∃ key, l.opened? = some key ∧ b'.keys = b.keys.filter (· ≠ key) ++ [key]) ∨
    (∃ key, l.opened? = none ∧ l.named? b.place.isSome = some key ∧
      b'.keys = withKey b.keys key) ∨
    (l.opened? = none ∧ l.named? b.place.isSome = none ∧ b'.keys = b.keys) := by
  cases step_of_add h with
  | @opens path name root root' current hclose htake =>
    rw [← keys_close hclose, keys_of_place rfl]
    cases path with
    | nil =>
      refine .inl ⟨name, rfl, ?_⟩
      rw [Entries.keys_takeOut_nil htake]
      exact withKey_of_not_mem (by simp)
    | cons part path =>
      refine .inr (.inl ⟨part, rfl, by simp [Line.named?, Line.isHeader, Line.top], ?_⟩)
      rw [Entries.keys_takeOut_cons htake]
      exact withKey_withKey
  | @adds path name root root' hclose hopen =>
    refine .inr (.inl ⟨path.headD name, rfl, by simp [Line.named?, Line.isHeader, Line.top], ?_⟩)
    rw [← keys_close hclose, keys_of_place rfl, Entries.keys_openTables hopen]
    exact withKey_withKey
  | defines hdefine =>
    cases hplace : b.place with
    | none =>
      refine .inr (.inl ⟨_, rfl, rfl, ?_⟩)
      rw [keys_of_place_eq_none rfl, keys_of_place_eq_none hplace]
      exact Entries.keys_define hdefine
    | some place =>
      refine .inr (.inr ⟨rfl, rfl, ?_⟩)
      rw [keys_of_place rfl, keys_of_place hplace]

theorem isSome_place_add (h : b.add l = some b') :
    b'.place.isSome = (b.place.isSome || l.isHeader) := by
  cases step_of_add h with
  | opens _ _ => simp [Line.isHeader]
  | adds _ _ => simp [Line.isHeader]
  | defines _ => simp [Line.isHeader]

theorem HasHeader.add (h : b.HasHeader key) (hadd : b.add l = some b') : b'.HasHeader key := by
  cases step_of_add hadd with
  | opens hclose htake => exact ⟨rfl, .inr ((h.close hclose).takeOut htake)⟩
  | adds hclose hopen => exact ⟨rfl, .inr ((h.close hclose).openTables hopen)⟩
  | defines _ => exact h

/-- A table has its own header once. -/
theorem add_of_opened? (hl : l.opened? = some key) (h : b.add l = some b') :
    ¬ b.HasHeader key ∧ b'.HasHeader key := by
  cases step_of_add h with
  | @opens path name root root' current hclose htake =>
    cases path with
    | nil =>
      cases hl
      refine ⟨fun hheader => ?_, rfl, .inl ⟨rfl, rfl⟩⟩
      rw [(hheader.close hclose).takeOut_self] at htake
      cases htake
    | cons part path => cases hl
  | adds _ _ => cases hl
  | defines _ => cases hl

end

/-- The document under construction follows the lines that have been read: it has the keys that
they name, in the order in which they stand. -/
structure Follows (b : Builder) (ls : List Line) : Prop where
  inTable : b.place.isSome = ls.any Line.isHeader
  named : ∀ key, key ∈ b.keys ↔ some key ∈ named false ls
  ascending : b.keys.Pairwise fun key key' => Toml.place ls key < Toml.place ls key'
  hasHeader : ∀ key, some key ∈ ls.map Line.opened? → b.HasHeader key

namespace Follows
variable {b b' : Builder} {ls rest : List Line} {l : Line} {key : String}

theorem nil : Follows {} [] where
  inTable := rfl
  named _ := by simp [keys, Entries.keys, Toml.named]
  ascending := .nil
  hasHeader _ h := (List.not_mem_nil h).elim

/-- The keys that a line does not move stay in their order. -/
theorem pairwise_concat (h : b.Follows ls) {keys : List String} (hsub : keys.Sublist b.keys)
    (hkeys : ∀ key ∈ keys, l.opened? ≠ some key) :
    keys.Pairwise fun key key' => Toml.place (ls ++ [l]) key < Toml.place (ls ++ [l]) key' := by
  refine (h.ascending.sublist hsub).imp_of_mem fun {key key'} hkey hkey' hlt => ?_
  rw [place_concat_of_named ((h.named key).mp (hsub.subset hkey)) (hkeys key hkey),
    place_concat_of_named ((h.named key').mp (hsub.subset hkey')) (hkeys key' hkey')]
  exact hlt

/-- A key that stands at the last line comes behind those that the line does not move. -/
theorem pairwise_concat_key (h : b.Follows ls) {keys : List String} (hsub : keys.Sublist b.keys)
    (hkeys : ∀ key ∈ keys, l.opened? ≠ some key) (hkey : Toml.place (ls ++ [l]) key = ls.length) :
    (keys ++ [key]).Pairwise fun key key' =>
      Toml.place (ls ++ [l]) key < Toml.place (ls ++ [l]) key' := by
  refine List.pairwise_append.mpr ⟨h.pairwise_concat hsub hkeys, List.pairwise_singleton _ _, ?_⟩
  intro other hother key' hkey'
  have hnamed := (h.named other).mp (hsub.subset hother)
  rw [List.mem_singleton.mp hkey', hkey, place_concat_of_named hnamed (hkeys other hother)]
  exact place_lt hnamed

theorem add (h : b.Follows ls) (hadd : b.add l = some b') : b'.Follows (ls ++ [l]) := by
  have hnamed := named_concat false ls l
  rw [Bool.false_or, ← h.inTable] at hnamed
  constructor
  case inTable => rw [isSome_place_add hadd, h.inTable, List.any_append]; simp
  case named =>
    intro key
    rw [hnamed, List.mem_append, ← h.named key, List.mem_singleton]
    rcases keys_add hadd with ⟨own, hown, hkeys⟩ | ⟨new, -, hnew, hkeys⟩ | ⟨-, hnone, hkeys⟩
    · rw [hkeys, Line.named?_of_opened? hown]
      by_cases heq : key = own
      · simp [heq]
      · simp [heq]
    · rw [hkeys, hnew, mem_withKey, Option.some.injEq]
    · rw [hkeys, hnone]
      simp
  case ascending =>
    rcases keys_add hadd with ⟨own, hown, hkeys⟩ | ⟨new, hother, hnew, hkeys⟩ | ⟨hother, -, hkeys⟩
    · -- The key has not had its own header before, so it stands here.
      have hfirst : some own ∉ ls.map Line.opened? := fun hmem =>
        (add_of_opened? hown hadd).1 (h.hasHeader own hmem)
      rw [hkeys]
      refine h.pairwise_concat_key List.filter_sublist (fun key hkey => ?_)
        (place_concat_of_opened hfirst hown)
      rw [hown]
      simpa using Ne.symm (of_decide_eq_true (List.mem_filter.mp hkey).2)
    · rw [hkeys]
      by_cases hmem : new ∈ b.keys
      · rw [withKey_of_mem hmem]
        exact h.pairwise_concat (List.Sublist.refl _) (by simp [hother])
      · rw [withKey_of_not_mem hmem]
        exact h.pairwise_concat_key (List.Sublist.refl _) (by simp [hother])
          (place_concat_of_new (mt (h.named new).mpr hmem) (h.inTable ▸ hnew))
    · rw [hkeys]
      exact h.pairwise_concat (List.Sublist.refl _) (by simp [hother])
  case hasHeader =>
    intro key hkey
    rw [List.map_append, List.mem_append] at hkey
    rcases hkey with hkey | hkey
    · exact (h.hasHeader key hkey).add hadd
    · exact (add_of_opened? (by simpa [eq_comm] using hkey) hadd).2

theorem addAll (h : b.Follows ls) (hadd : rest.foldlM Builder.add b = some b') :
    b'.Follows (ls ++ rest) := by
  induction rest generalizing b ls with
  | nil =>
    cases hadd
    rwa [List.append_nil]
  | cons l rest ih =>
    rw [List.foldlM_cons] at hadd
    obtain ⟨b₁, hfirst, hadd⟩ := Option.bind_eq_some_iff.mp hadd
    have hall := ih (h.add hfirst) hadd
    rwa [List.append_assoc, List.singleton_append] at hall

end Follows
end Builder

/-- A table that is read has the keys that the lines of the document name, in the order of the
places where they stand. -/
theorem keys_of_read {text : String} {ls : List Line} {table : Table}
    (hlines : lines text = some ls) (h : read text = some table) :
    (∀ key, key ∈ table.map (·.1) ↔ some key ∈ named false ls) ∧
      table.Pairwise fun e e' => place ls e.1 < place ls e'.1 := by
  obtain ⟨ls', b, entries, hls, hb, hclose, rfl⟩ := read_eq_some_iff.mp h
  obtain rfl : ls = ls' := Option.some.inj (hlines.symm.trans hls)
  have hfollows : b.Follows ls := Builder.Follows.nil.addAll hb
  have hkeys : (finishEntries entries).map (·.1) = b.keys := by
    rw [← Builder.keys_close hclose, finishEntries_eq_map, List.map_map]
    rfl
  refine ⟨fun key => ?_, ?_⟩
  · rw [hkeys]
    exact hfollows.named key
  · have hascending := hfollows.ascending
    rwa [← hkeys, List.pairwise_map] at hascending

end LabLifecycle.Toml
