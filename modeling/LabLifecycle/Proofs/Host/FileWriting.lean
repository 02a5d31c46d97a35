import LabLifecycle.Host.FileTree

/-!
# What is written is there to be read

Writing to a path puts a file where the path leads to, and leaves all other places as they were.
The way to that place does not lead through it, so the same path leads there again, and what was
written is read.
-/
namespace LabLifecycle

namespace FileTree
variable {t : FileTree}

/-- What is put at a place below the root stands there, and other places keep what they have. -/
theorem entry?_put {place : Place} (hplace : place ≠ []) (e : FileEntry) (other : Place) :
    entry? (t.put place e) other = if other = place then some e else t.entry? other := by
  have hkept : ∀ entries : List (Place × FileEntry), other ≠ place →
      (entries.filter (·.1 != place)).lookup other = entries.lookup other := by
    intro entries hne
    induction entries with
    | nil => rfl
    | cons head rest ih =>
      rw [List.filter_cons, List.lookup_cons]
      split
      · rw [List.lookup_cons, ih]
      · rename_i hhead
        have hhead : head.1 = place := by simpa using hhead
        rw [ih, hhead, beq_eq_false_iff_ne.mpr hne]
  unfold entry? put
  by_cases hroot : other = []
  · subst hroot
    rw [if_neg (Ne.symm hplace)]
    rfl
  · have hroot : other.isEmpty = false := by simpa using hroot
    simp only [hroot, Bool.false_eq_true, if_false, List.lookup_cons]
    by_cases hother : other = place
    · simp [hother]
    · rw [beq_eq_false_iff_ne.mpr hother, if_neg hother]
      exact hkept _ hother

/-! ### Where a way ends -/

/-- Whatever a way ends at stands there, if it is no directory. -/
def EndsWhereItStands (t : FileTree)
    (lead : List Bytes → Place → Except FileError (Place × Option FileEntry)) : Prop :=
  ∀ parts place found x, lead parts place = .ok (found, x) → x ≠ some .directory →
    t.entry? found = x

/-- The induction is on the parts: only the last one can lead to anything but a directory. -/
theorem EndsWhereItStands.follow
    {onward : List Bytes → Place → Except FileError (Place × Option FileEntry)}
    (honward : t.EndsWhereItStands onward) : t.EndsWhereItStands (t.follow onward) := by
  intro parts place found x h hx
  induction parts generalizing place with
  | nil =>
    cases h
    exact absurd rfl hx
  | cons part rest ih =>
    rw [FileTree.follow] at h
    split at h
    · exact ih _ h
    split at h
    · exact ih _ h
    cases hentry : t.entry? (place ++ [part]) with
    | none =>
      simp only [hentry] at h
      split at h
      · cases h
        exact hentry
      · cases h
    | some e =>
      simp only [hentry] at h
      cases e with
      | directory => exact ih _ h
      | link target =>
        simp only at h
        split at h
        · cases h
        · exact honward _ _ _ _ h hx
      | _ =>
        simp only at h
        split at h
        · cases h
          exact hentry
        · cases h

theorem endsWhereItStands_walk (links : Nat) : t.EndsWhereItStands (t.walk links) := by
  induction links with
  | zero =>
    intro parts place found x h
    cases h
  | succ links ih => exact ih.follow

/-! ### Ways to a place that is written to -/

/-- Where one way leads to a place and what stands there, another one leads to the place as
well, and to something else there. -/
def LeadsAgain (found : Place) (x : Option FileEntry) (e : FileEntry)
    (lead lead' : List Bytes → Place → Except FileError (Place × Option FileEntry)) : Prop :=
  ∀ parts place, lead parts place = .ok (found, x) → lead' parts place = .ok (found, some e)

/-- A way does not lead through its end, unless that is a directory or a link. -/
theorem LeadsAgain.follow {found : Place} {x : Option FileEntry} {mode : Nat} {content : Bytes}
    {onward onward' : List Bytes → Place → Except FileError (Place × Option FileEntry)}
    (hfound : t.entry? found = x) (hdirectory : x ≠ some .directory)
    (hlink : ∀ target, x ≠ some (.link target))
    (honward : LeadsAgain found x (.file mode content) onward onward') :
    LeadsAgain found x (.file mode content) (t.follow onward)
      ((t.put found (.file mode content)).follow onward') := by
  have hroot : found ≠ [] := by
    rintro rfl
    exact hdirectory hfound.symm
  intro parts place h
  induction parts generalizing place with
  | nil =>
    cases h
    exact absurd rfl hdirectory
  | cons part rest ih =>
    rw [FileTree.follow] at h ⊢
    split at h
    · rename_i hstay
      rw [if_pos hstay]
      exact ih _ h
    rename_i hstay
    rw [if_neg hstay]
    split at h
    · rename_i hup
      rw [if_pos hup]
      exact ih _ h
    rename_i hup
    rw [if_neg hup]
    simp only [entry?_put hroot]
    by_cases hnext : place ++ [part] = found
    · -- The way is at its end, so this is the last part, and the new file is found there.
      have hlast : rest.isEmpty = true := by
        simp only [hnext, hfound] at h
        cases x with
        | none => exact Classical.byContradiction fun hrest => by simp [hrest] at h
        | some y =>
          cases y with
          | directory => exact absurd rfl hdirectory
          | link target => exact absurd rfl (hlink target)
          | _ => exact Classical.byContradiction fun hrest => by simp [hrest] at h
      simp only [hnext, if_pos, hlast]
    · rw [if_neg hnext]
      cases hentry : t.entry? (place ++ [part]) with
      | none =>
        simp only [hentry] at h
        split at h
        · cases h
          exact absurd rfl hnext
        · cases h
      | some e =>
        simp only [hentry] at h ⊢
        cases e with
        | directory => exact ih _ h
        | link target =>
          simp only at h ⊢
          split at h
          · cases h
          · rename_i htarget
            rw [if_neg htarget]
            exact honward _ _ h
        | _ =>
          simp only at h
          split at h
          · cases h
            exact absurd rfl hnext
          · cases h

theorem leadsAgain_walk {found : Place} {x : Option FileEntry} {mode : Nat} {content : Bytes}
    (hfound : t.entry? found = x) (hdirectory : x ≠ some .directory)
    (hlink : ∀ target, x ≠ some (.link target)) (links : Nat) :
    LeadsAgain found x (.file mode content) (t.walk links)
      ((t.put found (.file mode content)).walk links) := by
  induction links with
  | zero =>
    intro parts place h
    cases h
  | succ links ih => exact ih.follow hfound hdirectory hlink

/-! ### Reading what was written -/

/-- A path that is written to leads to no directory, and what it leads to stands there. -/
theorem target_eq_ok {start found : Place} {path : Bytes} {x : Option FileEntry}
    (h : t.target start path = .ok (found, x)) :
    t.find start path = .ok (found, x) ∧ x ≠ some .directory ∧ t.entry? found = x := by
  have hfind : t.find start path = .ok (found, x) ∧ x ≠ some .directory := by
    rw [target] at h
    split at h
    · cases h
    · cases h
    · rename_i hdirectory
      refine ⟨h, ?_⟩
      rintro rfl
      exact hdirectory _ h
  refine ⟨hfind.1, hfind.2, ?_⟩
  have hwalk := hfind.1
  rw [find] at hwalk
  split at hwalk
  · cases hwalk
  · exact endsWhereItStands_walk _ _ _ _ _ hwalk hfind.2

/-- After a file was put where a path leads to, the path leads to the file. -/
theorem read_put {start found : Place} {path content : Bytes} {x : Option FileEntry} {mode : Nat}
    (h : t.target start path = .ok (found, x)) (hlink : ∀ target, x ≠ some (.link target)) :
    (t.put found (.file mode content)).read start path = .ok content := by
  obtain ⟨hfind, hdirectory, hfound⟩ := target_eq_ok h
  have hagain : (t.put found (.file mode content)).find start path =
      .ok (found, some (.file mode content)) := by
    rw [find] at hfind ⊢
    split at hfind
    · cases hfind
    · rename_i hpath
      rw [if_neg hpath]
      exact leadsAgain_walk hfound hdirectory hlink _ _ _ hfind
  rw [read, resolve, hagain]

end FileTree
end LabLifecycle
