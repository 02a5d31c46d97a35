import LabLifecycle.Host.FileTree

/-!
# The way to a file leads through its directory

A path that ends in the name of a file leads to a file only if the path before it leads to a
directory that has an entry of that name. What stands on the way, links among it, makes no
difference: the way is followed part by part, and the last part is looked up where the others
have led.
-/
namespace LabLifecycle

/-- A name that an entry of a directory can have: it is not empty, is no way to a directory
itself, and has no slash in it. -/
structure IsFileName (name : Bytes) : Prop where
  nonempty : name ≠ []
  not_here : name ≠ [0x2E]
  not_up : name ≠ [0x2E, 0x2E]
  single : 0x2F ∉ name

instance (name : Bytes) : Decidable (IsFileName name) :=
  decidable_of_iff (name ≠ [] ∧ name ≠ [0x2E] ∧ name ≠ [0x2E, 0x2E] ∧ 0x2F ∉ name)
    ⟨fun ⟨h, hhere, hup, hsingle⟩ => ⟨h, hhere, hup, hsingle⟩,
      fun ⟨h, hhere, hup, hsingle⟩ => ⟨h, hhere, hup, hsingle⟩⟩

/-! ### Parts of a path -/

/-- A file name behind a slash is a part of its own. -/
theorem pathParts_append_slash {name : Bytes} (hname : 0x2F ∉ name) (path : Bytes) :
    pathParts (path ++ 0x2F :: name) = pathParts path ++ [name] := by
  rw [pathParts, List.splitOn_append_cons_self, List.splitOn_eq_singleton hname, pathParts]

theorem isAbsolute_append {path : Bytes} (h : path ≠ []) (more : Bytes) :
    isAbsolute (path ++ more) = isAbsolute path := by
  obtain ⟨b, rest, rfl⟩ := List.exists_cons_of_ne_nil h
  rfl

namespace FileTree

/-- Every entry stands under names that it can have. -/
def WellNamed (t : FileTree) : Prop := ∀ e ∈ t.entries, ∀ name ∈ e.1, IsFileName name

instance (t : FileTree) : Decidable t.WellNamed := inferInstanceAs (Decidable (∀ _, _))

variable {t : FileTree} {name : Bytes}

/-- A directory lists the names under which something stands in it. -/
theorem mem_names_iff {place : Place} :
    name ∈ t.names place ↔ t.entry? (place ++ [name]) ≠ none := by
  have hplace : ∀ p : Place, (∃ n, p.getLast? = some n ∧ p.dropLast = place ∧ n = name) ↔
      p = place ++ [name] := by
    intro p
    constructor
    · rintro ⟨n, hlast, rfl, rfl⟩
      obtain ⟨above, rfl⟩ := List.getLast?_eq_some_iff.mp hlast
      rw [List.dropLast_concat]
    · rintro rfl
      exact ⟨name, List.getLast?_concat, List.dropLast_concat, rfl⟩
  unfold entry?
  rw [if_neg (by simp), ← Option.isSome_iff_ne_none, List.lookup_isSome_iff, names,
    List.mem_filterMap]
  refine exists_congr fun e => and_congr_right fun _ => ?_
  rw [beq_iff_eq, eq_comm (a := place ++ [name]), ← hplace]
  cases e.1.getLast? with
  | none => simp
  | some n => by_cases hdirectory : e.1.dropLast = place <;> simp [hdirectory]

theorem WellNamed.isFileName (h : t.WellNamed) {place : Place} (hname : name ∈ t.names place) :
    IsFileName name := by
  obtain ⟨e, he, hlast⟩ := List.mem_filterMap.mp hname
  split at hlast
  · rename_i n hn
    split at hlast
    · cases hlast
      exact h e he _ (List.mem_of_getLast? hn)
    · cases hlast
  · cases hlast

/-! ### The way to a file -/

/-- Where the parts of a path and then a name lead to something, the parts alone lead to a
directory that has the name, also if they end in a slash. -/
def LeadsThrough (t : FileTree) (name : Bytes)
    (lead : List Bytes → Place → Except FileError (Place × Option FileEntry)) : Prop :=
  ∀ parts place found e, lead (parts ++ [name]) place = .ok (found, some e) →
    ∃ directory, lead parts place = .ok (directory, some .directory) ∧
      lead (parts ++ [[]]) place = .ok (directory, some .directory) ∧
      name ∈ t.names directory

/-- The induction is on the parts. Before the last one no part may be missing or a file. -/
theorem LeadsThrough.follow
    {onward : List Bytes → Place → Except FileError (Place × Option FileEntry)}
    (hname : IsFileName name) (honward : t.LeadsThrough name onward) :
    t.LeadsThrough name (t.follow onward) := by
  intro parts place found e h
  induction parts generalizing place with
  | nil =>
    refine ⟨place, rfl, by simp [FileTree.follow], mem_names_iff.mpr ?_⟩
    rw [List.nil_append, FileTree.follow, if_neg (by simp [hname.nonempty, hname.not_here]),
      if_neg hname.not_up] at h
    cases hentry : t.entry? (place ++ [name]) with
    | none => simp [hentry] at h
    | some e => exact Option.some_ne_none e
  | cons part rest ih =>
    have hrest : ∀ last : Bytes, (rest ++ [last]).isEmpty = false := by simp
    simp only [List.cons_append, FileTree.follow] at h ⊢
    split at h
    · rename_i hstay
      simp only [if_pos hstay]
      exact ih _ h
    rename_i hstay
    simp only [if_neg hstay]
    split at h
    · rename_i hup
      simp only [if_pos hup]
      exact ih _ h
    rename_i hup
    simp only [if_neg hup]
    cases hentry : t.entry? (place ++ [part]) with
    | none => simp [hentry, hrest] at h
    | some e =>
      simp only [hentry] at h ⊢
      cases e with
      | directory => exact ih _ h
      | link target =>
        simp only at h ⊢
        split at h
        · cases h
        · rename_i htarget
          simp only [if_neg htarget]
          rw [← List.append_assoc] at h
          simp only [← List.append_assoc]
          exact honward _ _ _ _ h
      | _ => simp [hrest] at h

theorem leadsThrough_walk (hname : IsFileName name) (links : Nat) :
    t.LeadsThrough name (t.walk links) := by
  induction links with
  | zero =>
    intro parts place found e h
    cases h
  | succ links ih => exact ih.follow hname

/-- A path that leads to something in a directory leads through it, whether or not the path of
the directory ends in a slash. -/
theorem resolve_directory (hname : IsFileName name) {start found : Place} {path : Bytes}
    {e : FileEntry} (h : t.resolve start (path ++ 0x2F :: name) = .ok (found, e)) :
    ∃ directory, name ∈ t.names directory ∧
      t.resolve start (path ++ [0x2F]) = .ok (directory, .directory) ∧
      (path ≠ [] → t.resolve start path = .ok (directory, .directory)) := by
  have hslash : ∀ last : Bytes, 0x2F ∉ last → t.find start (path ++ 0x2F :: last) =
      t.walk (linkLimit + 1) (pathParts path ++ [last])
        (if isAbsolute (path ++ [0x2F]) then [] else start) := by
    intro last hlast
    rw [find, if_neg (by simp), pathParts_append_slash hlast]
    cases path <;> rfl
  have hfind : t.find start (path ++ 0x2F :: name) = .ok (found, some e) := by
    rw [resolve] at h
    split at h
    · cases h
      assumption
    all_goals cases h
  rw [hslash name hname.single] at hfind
  obtain ⟨directory, hdirectory, hended, hmem⟩ :=
    leadsThrough_walk hname (linkLimit + 1) _ _ _ _ hfind
  refine ⟨directory, hmem, ?_, fun hpath => ?_⟩
  · rw [resolve, hslash [] (by simp), hended]
  · rw [isAbsolute_append hpath] at hdirectory
    rw [resolve, find, if_neg (by simpa using hpath), hdirectory]

end FileTree
end LabLifecycle
