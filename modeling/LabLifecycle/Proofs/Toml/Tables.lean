import LabLifecycle.Toml.Document
import Mathlib.Data.List.Nodup

/-!
# The table of a document

However a document spreads a table over headers and keys with points, there is one entry for each
key of it, and an integer has 64 bits, sign included. Both are kept by every line that is read.
-/
namespace LabLifecycle.Toml

/-! ### Values and lines that are read -/

/-- If the value is an integer, it has 64 bits. -/
def Value.InRange : Value → Prop
  | .int z => -0x8000000000000000 ≤ z ∧ z ≤ 0x7FFFFFFFFFFFFFFF
  | _ => True

section Scalars
variable {v : Value} {s rest : List Char}

theorem inRange_basedInteger {base : Nat} {isDigit : Char → Bool}
    (h : basedInteger base isDigit s = some (v, rest)) : v.InRange := by
  obtain ⟨⟨ds, s⟩, -, h⟩ := Option.bind_eq_some_iff.mp h
  dsimp only at h
  split at h
  · rename_i hle
    cases h
    have hle : ofDigits base ds ≤ 0x7FFFFFFFFFFFFFFF := hle
    simp only [Value.InRange]
    omega
  · cases h

theorem inRange_floatOf {negative : Bool} {whole part : List Char} {exponent : Int}
    (h : floatOf negative whole part exponent = some v) : v.InRange := by
  unfold floatOf at h
  split at h
  · cases h
  · cases h
    trivial

theorem inRange_magnitude {negative : Bool} (h : magnitude negative s = some (v, rest)) :
    v.InRange := by
  obtain ⟨⟨whole, s⟩, -, h⟩ := Option.bind_eq_some_iff.mp h
  dsimp only at h
  split at h
  · obtain ⟨⟨part, s⟩, -, h⟩ := Option.bind_eq_some_iff.mp h
    obtain ⟨⟨e, s⟩, -, h⟩ := Option.bind_eq_some_iff.mp h
    obtain ⟨x, hx, h⟩ := Option.bind_eq_some_iff.mp h
    cases h
    exact inRange_floatOf hx
  · obtain ⟨⟨e, s⟩, -, h⟩ := Option.bind_eq_some_iff.mp h
    split at h
    · obtain ⟨x, hx, h⟩ := Option.bind_eq_some_iff.mp h
      cases h
      exact inRange_floatOf hx
    · have hmax : maxInt = 0x7FFFFFFFFFFFFFFF := rfl
      -- One more number is negative than not.
      cases negative
      all_goals
        simp only [Bool.false_eq_true, if_false, if_true] at h
        split at h
        · cases h
          simp only [Value.InRange]
          omega
        · cases h

theorem inRange_number (h : number s = some (v, rest)) : v.InRange := by
  unfold number at h
  split at h
  · exact inRange_basedInteger h
  · exact inRange_basedInteger h
  · exact inRange_basedInteger h
  · dsimp only at h
    split at h
    · cases h
      trivial
    · cases h
      trivial
    · exact inRange_magnitude h

theorem inRange_scalar (h : scalar s = some (v, rest)) : v.InRange := by
  have htext : (string s).map (fun r => (Value.text r.1, r.2)) = some (v, rest) → v.InRange := by
    intro h
    obtain ⟨r, -, hr⟩ := Option.map_eq_some_iff.mp h
    cases hr
    trivial
  unfold scalar at h
  split at h
  · exact htext h
  · exact htext h
  · cases h
    trivial
  · cases h
    trivial
  · split at h
    · cases h
      trivial
    · exact inRange_number h

theorem inRange_readValue {fuel depth : Nat} (h : readValue fuel depth s = some (v, rest)) :
    v.InRange := by
  unfold readValue at h
  split at h
  · cases h
  · split at h
    · cases h
    · cases h
    · obtain ⟨⟨items, s⟩, -, h⟩ := Option.bind_eq_some_iff.mp h
      cases h
      trivial
    · split at h
      · cases h
        trivial
      · obtain ⟨⟨entries, s⟩, -, h⟩ := Option.bind_eq_some_iff.mp h
        cases h
        trivial
    · exact inRange_scalar h

/-- If the line defines an integer, it has 64 bits. -/
def Line.InRange : Line → Prop
  | .defines _ _ v => v.InRange
  | _ => True

theorem inRange_readHeader {line : Line} (h : readHeader s = some (line, rest)) :
    line.InRange := by
  unfold readHeader at h
  split at h
  · obtain ⟨⟨⟨path, name⟩, s⟩, -, h⟩ := Option.bind_eq_some_iff.mp h
    obtain ⟨s, -, h⟩ := Option.bind_eq_some_iff.mp h
    obtain ⟨s, -, h⟩ := Option.bind_eq_some_iff.mp h
    obtain ⟨s, -, h⟩ := Option.bind_eq_some_iff.mp h
    cases h
    trivial
  · obtain ⟨⟨⟨path, name⟩, s⟩, -, h⟩ := Option.bind_eq_some_iff.mp h
    obtain ⟨s, -, h⟩ := Option.bind_eq_some_iff.mp h
    obtain ⟨s, -, h⟩ := Option.bind_eq_some_iff.mp h
    cases h
    trivial

theorem inRange_readPair {line : Line} (h : readPair s = some (line, rest)) : line.InRange := by
  obtain ⟨⟨⟨path, name⟩, s⟩, -, h⟩ := Option.bind_eq_some_iff.mp h
  obtain ⟨s, -, h⟩ := Option.bind_eq_some_iff.mp h
  obtain ⟨⟨v, s⟩, hvalue, h⟩ := Option.bind_eq_some_iff.mp h
  obtain ⟨s, -, h⟩ := Option.bind_eq_some_iff.mp h
  cases h
  exact inRange_readValue hvalue

/-- The induction is on the steps, one for each line. -/
theorem inRange_readLines {fuel : Nat} {lines : List Line} (h : readLines fuel s = some lines) :
    ∀ line ∈ lines, line.InRange := by
  induction fuel generalizing s lines with
  | zero => cases h
  | succ fuel ih =>
    unfold readLines at h
    split at h
    · cases h
      exact fun line hline => (List.not_mem_nil hline).elim
    · obtain ⟨⟨line, s⟩, hline, h⟩ := Option.bind_eq_some_iff.mp h
      obtain ⟨rest, hrest, h⟩ := Option.bind_eq_some_iff.mp h
      cases h
      exact List.forall_mem_cons.mpr ⟨inRange_readHeader hline, ih hrest⟩
    · split at h
      · exact ih h
      · obtain ⟨⟨line, s⟩, hline, h⟩ := Option.bind_eq_some_iff.mp h
        obtain ⟨rest, hrest, h⟩ := Option.bind_eq_some_iff.mp h
        cases h
        exact List.forall_mem_cons.mpr ⟨inRange_readPair hline, ih hrest⟩

end Scalars

/-! ### Entries of a table under construction -/

namespace Entries

/-- Replacing an entry keeps the keys. -/
theorem map_fst_replace {entries : Entries} {key : String} {node : Node} :
    (replace entries key node).map (·.1) = entries.map (·.1) := by
  rw [replace, List.map_map]
  refine List.map_congr_left fun e _ => ?_
  by_cases hkey : e.1 = key
  · simp [hkey]
  · simp [hkey]

/-- What a change below a key makes of entries: there is a table or an array of tables for the key
now, and a table that has had its header still is one. -/
inductive Altered (entries : Entries) (key : String) : Entries → Prop
  | made {node : Node} (hkey : entries.lookup key = none) (hnode : ∀ v, node ≠ .value v) :
    Altered entries key (entries ++ [(key, node)])
  | replaced {old node : Node} (hkey : entries.lookup key = some old)
    (hnode : ∀ v, node ≠ .value v)
    (hheader : ∀ inner, old = .table .header inner → ∃ inner', node = .table .header inner') :
    Altered entries key (replace entries key node)

theorem altered_of_alter {made origin : Origin} {change : Origin → Entries → Option Entries}
    {key : String} {path : List String} {entries entries' : Entries}
    (h : alter made change (key :: path) origin entries = some entries') :
    Altered entries key entries' := by
  unfold alter at h
  split at h
  · rename_i hkey
    obtain ⟨inner, -, h⟩ := Option.bind_eq_some_iff.mp h
    cases h
    exact .made hkey nofun
  · rename_i hkey
    split at h
    · cases h
    · obtain ⟨inner, -, h⟩ := Option.bind_eq_some_iff.mp h
      cases h
      refine .replaced hkey nofun fun _ hold => ⟨inner, ?_⟩
      cases hold
      rfl
  · rename_i hkey
    obtain ⟨last, -, h⟩ := Option.bind_eq_some_iff.mp h
    obtain ⟨inner, -, h⟩ := Option.bind_eq_some_iff.mp h
    cases h
    exact .replaced hkey nofun nofun
  · cases h

/-- A table that is taken out has been implied, or there is none. -/
theorem takeOut_cases {path : List String} {key : String} {entries entries' table : Entries}
    (h : entries.takeOut path key = some (table, entries')) :
    (find? path key entries = none ∧
      alter .implied (fun _ e => some e) path .header entries = some entries') ∨
    (find? path key entries = some (.table .implied table) ∧
      alter .implied (fun _ e => some (e.erase key)) path .header entries = some entries') := by
  unfold takeOut at h
  split at h
  · rename_i hfind
    obtain ⟨rest, hrest, heq⟩ := Option.map_eq_some_iff.mp h
    cases heq
    exact .inl ⟨hfind, hrest⟩
  · rename_i hfind
    obtain ⟨rest, hrest, heq⟩ := Option.map_eq_some_iff.mp h
    cases heq
    exact .inr ⟨hfind, hrest⟩
  · cases h

/-- The keys are distinct, and the integers among the values have 64 bits. -/
structure Sound (entries : Entries) : Prop where
  nodup : (entries.map (·.1)).Nodup
  inRange : ∀ e ∈ entries, ∀ v, e.2 = .value v → v.InRange

namespace Sound
variable {entries entries' : Entries} {path : List String} {key : String} {node : Node}

theorem nil : Sound [] := ⟨List.nodup_nil, nofun⟩

theorem append (h : Sound entries) (hkey : entries.lookup key = none)
    (hnode : ∀ v, node = .value v → v.InRange) : Sound (entries ++ [(key, node)]) := by
  refine ⟨?_, fun e he => ?_⟩
  · rw [List.map_append, List.map_singleton, List.nodup_append_comm, List.singleton_append,
      List.nodup_cons]
    refine ⟨fun hmem => ?_, h.nodup⟩
    obtain ⟨e, he, rfl⟩ := List.mem_map.mp hmem
    simpa using List.lookup_eq_none_iff.mp hkey e he
  · rcases List.mem_append.mp he with he | he
    · exact h.inRange e he
    · rw [List.mem_singleton.mp he]
      exact hnode

theorem replace (h : Sound entries) (hnode : ∀ v, node = .value v → v.InRange) :
    Sound (replace entries key node) := by
  refine ⟨?_, fun e he => ?_⟩
  · rw [map_fst_replace]
    exact h.nodup
  · obtain ⟨e', he', rfl⟩ := List.mem_map.mp he
    split
    · exact hnode
    · exact h.inRange e' he'

theorem erase (h : Sound entries) : Sound (erase entries key) :=
  ⟨h.nodup.sublist (List.filter_sublist.map _), fun e he => h.inRange e (List.mem_of_mem_filter he)⟩

/-- Below the entries themselves only tables change, so a change has to be sound in place only. -/
theorem alter {made origin : Origin} {change : Origin → Entries → Option Entries}
    (h : Sound entries)
    (hchange : ∀ origin inner, path = [] → change origin entries = some inner → Sound inner)
    (halter : alter made change path origin entries = some entries') : Sound entries' := by
  cases path with
  | nil => exact hchange origin entries' rfl halter
  | cons key path =>
    cases altered_of_alter halter with
    | made hkey hnode => exact h.append hkey fun v hv => absurd hv (hnode v)
    | replaced _ hnode _ => exact h.replace fun v hv => absurd hv (hnode v)

/-- Adding something under a key that is not there yet. -/
theorem append_unless (h : Sound entries) (hnode : ∀ v, node = .value v → v.InRange)
    {inner : Entries}
    (hinner : (if (entries.lookup key).isSome then none else some (entries ++ [(key, node)])) =
      some inner) : Sound inner := by
  split at hinner
  · cases hinner
  · rename_i hkey
    cases hinner
    exact h.append (Option.not_isSome_iff_eq_none.mp hkey) hnode

theorem define {v : Value} (h : Sound entries) (hv : v.InRange)
    (hdefine : entries.define path key v = some entries') : Sound entries' := by
  refine h.alter (fun origin inner _ hinner => ?_) hdefine
  split at hinner
  · cases hinner
  · exact h.append_unless (by rintro _ ⟨⟩; exact hv) hinner

theorem takeOut {table : Entries} (h : Sound entries)
    (htake : entries.takeOut path key = some (table, entries')) : Sound entries' := by
  rcases takeOut_cases htake with ⟨-, hrest⟩ | ⟨-, hrest⟩
  · refine h.alter (fun _ inner _ hinner => ?_) hrest
    cases hinner
    exact h
  · refine h.alter (fun _ inner _ hinner => ?_) hrest
    cases hinner
    exact h.erase

theorem putTable {table : Entries} (h : Sound entries)
    (hput : entries.putTable path key table = some entries') : Sound entries' := by
  refine h.alter (fun _ _ _ hinner => h.append_unless ?_ hinner) hput
  nofun

theorem openTables (h : Sound entries) (hopen : entries.openTables path key = some entries') :
    Sound entries' := by
  refine h.alter (fun _ inner _ hinner => ?_) hopen
  split at hinner
  · rename_i hkey
    cases hinner
    exact h.append hkey nofun
  · cases hinner
    exact h
  · cases hinner

theorem pushTable {table : Entries} (h : Sound entries)
    (hpush : entries.pushTable path key table = some entries') : Sound entries' := by
  refine h.alter (fun _ inner _ hinner => ?_) hpush
  split at hinner
  · cases hinner
    exact h.replace nofun
  · cases hinner

end Sound
end Entries

/-! ### Documents -/

namespace Builder

/-- What a line makes of a document under construction: a header puts the open table in its place
and opens another one, and a pair goes into the open table. -/
inductive Step (b : Builder) : Line → Builder → Prop
  | opens {path : List String} {name : String} {root root' current : Entries}
    (hclose : b.close = some root) (htake : root.takeOut path name = some (current, root')) :
    Step b (.opens path name) { root := root', current := current, place := some (path, name) }
  | adds {path : List String} {name : String} {root root' : Entries}
    (hclose : b.close = some root) (hopen : root.openTables path name = some root') :
    Step b (.adds path name) { root := root', place := some (path, name), isElement := true }
  | defines {path : List String} {name : String} {v : Value} {current : Entries}
    (hdefine : b.current.define path name v = some current) :
    Step b (.defines path name v) { b with current := current }

/-- The entries of the whole document are sound: before the first header those of the open table,
afterwards those of the root. -/
structure Sound (b : Builder) : Prop where
  root : b.root.Sound
  current : b.place = none → b.current.Sound

variable {b b' : Builder}

theorem step_of_add {line : Line} (h : b.add line = some b') : b.Step line b' := by
  cases line with
  | opens path name =>
    obtain ⟨root, hclose, h⟩ := Option.bind_eq_some_iff.mp h
    obtain ⟨⟨current, root'⟩, htake, h⟩ := Option.bind_eq_some_iff.mp h
    cases h
    exact .opens hclose htake
  | adds path name =>
    obtain ⟨root, hclose, h⟩ := Option.bind_eq_some_iff.mp h
    obtain ⟨root', hopen, h⟩ := Option.bind_eq_some_iff.mp h
    cases h
    exact .adds hclose hopen
  | defines path name v =>
    obtain ⟨current, hdefine, h⟩ := Option.bind_eq_some_iff.mp h
    cases h
    exact .defines hdefine

theorem Sound.close {entries : Entries} (h : b.Sound) (hclose : b.close = some entries) :
    entries.Sound := by
  unfold Builder.close at hclose
  split at hclose
  · rename_i hplace
    cases hclose
    exact h.current hplace
  · split at hclose
    · exact h.root.pushTable hclose
    · exact h.root.putTable hclose

theorem Sound.add {line : Line} (h : b.Sound) (hline : line.InRange)
    (hadd : b.add line = some b') : b'.Sound := by
  cases step_of_add hadd with
  | opens hclose htake => exact ⟨(h.close hclose).takeOut htake, nofun⟩
  | adds hclose hopen => exact ⟨(h.close hclose).openTables hopen, nofun⟩
  | defines hdefine => exact ⟨h.root, fun hplace => (h.current hplace).define hline hdefine⟩

theorem Sound.addAll {lines : List Line} (h : b.Sound) (hlines : ∀ line ∈ lines, line.InRange)
    (hadd : lines.foldlM Builder.add b = some b') : b'.Sound := by
  induction lines generalizing b with
  | nil =>
    cases hadd
    exact h
  | cons line rest ih =>
    obtain ⟨hline, hrest⟩ := List.forall_mem_cons.mp hlines
    rw [List.foldlM_cons] at hadd
    obtain ⟨b₁, hfirst, hadd⟩ := Option.bind_eq_some_iff.mp hadd
    exact ih (h.add hline hfirst) hrest hadd

end Builder

theorem finishEntries_eq_map (entries : Entries) :
    finishEntries entries = entries.map fun e => (e.1, e.2.finish) := by
  induction entries with
  | nil => rfl
  | cons e entries ih => rw [finishEntries, ih, List.map_cons]

theorem inRange_finish {node : Node} (h : ∀ v, node = .value v → v.InRange) :
    node.finish.InRange := by
  cases node with
  | value v =>
    rw [Node.finish]
    exact h v rfl
  | table origin entries =>
    rw [Node.finish]
    trivial
  | tables elements =>
    rw [Node.finish]
    trivial

/-- A document that is read has lines, and they build what it says. -/
theorem read_eq_some_iff {text : String} {table : Table} : read text = some table ↔
    ∃ ls b entries, lines text = some ls ∧ ls.foldlM Builder.add {} = some b ∧
      b.close = some entries ∧ finishEntries entries = table := by
  simp only [read, build, Option.bind_eq_bind, Option.bind_eq_some_iff, Option.pure_def,
    Option.some.injEq]
  constructor
  · rintro ⟨ls, hls, entries, ⟨b, hb, hclose⟩, hfinish⟩
    exact ⟨ls, b, entries, hls, hb, hclose, hfinish⟩
  · rintro ⟨ls, b, entries, hls, hb, hclose, hfinish⟩
    exact ⟨ls, hls, entries, ⟨b, hb, hclose⟩, hfinish⟩

/-- A table that is read has one entry for each of its keys, and its integers have 64 bits. -/
theorem sound_of_read {text : String} {table : Table} (h : read text = some table) :
    (table.map (·.1)).Nodup ∧ ∀ e ∈ table, e.2.InRange := by
  obtain ⟨ls, b, entries, hls, hb, hclose, rfl⟩ := read_eq_some_iff.mp h
  have hblank : Builder.Sound {} := ⟨.nil, fun _ => .nil⟩
  have hsound := (hblank.addAll (inRange_readLines hls) hb).close hclose
  rw [finishEntries_eq_map]
  refine ⟨by simpa [Function.comp_def] using hsound.nodup, fun e he => ?_⟩
  obtain ⟨e', he', rfl⟩ := List.mem_map.mp he
  exact inRange_finish (hsound.inRange e' he')

end LabLifecycle.Toml
