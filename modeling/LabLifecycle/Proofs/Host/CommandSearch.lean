import LabLifecycle.Host.CommandSearch
import LabLifecycle.Proofs.Host.Directories
import LabLifecycle.Proofs.Text.Encoding

/-!
# Listing commands and locating them

A search lists what follows a start in the names that it reads from its directories, and locates
a command by putting its name behind one directory after another. Both see the same commands:
what stands in a directory has a plain file name, and a plain file name behind the path of a
directory leads nowhere but into that directory.
-/
namespace LabLifecycle

/-- A plain file name is a name that an entry of a directory can have. -/
theorem isPlainFileName_iff {name : String} :
    isPlainFileName name = true ↔ IsFileName (textBytes name) := by
  have hne : ∀ other, name ≠ other ↔ textBytes name ≠ textBytes other := fun other =>
    Bytes.textBytes_injective.ne_iff.symm
  have hempty : textBytes "" = [] := rfl
  have hhere : textBytes "." = [0x2E] := rfl
  have hup : textBytes ".." = [0x2E, 0x2E] := rfl
  have hslash : '/' ∈ name.toList ↔ 0x2F ∈ textBytes name :=
    (Bytes.asciiByte_mem_textBytes_iff (c := '/') (by decide)).symm
  simp only [isPlainFileName, Bool.and_eq_true, bne_iff_ne, Bool.not_eq_true', ← Bool.not_eq_true,
    List.contains_iff_mem, hne, hempty, hhere, hup, hslash]
  exact ⟨fun ⟨⟨⟨h, hhere⟩, hup⟩, hsingle⟩ => ⟨h, hhere, hup, hsingle⟩,
    fun ⟨h, hhere, hup, hsingle⟩ => ⟨⟨⟨h, hhere⟩, hup⟩, hsingle⟩⟩

/-- The path of a command is the path of its directory, a slash and its file name. A slash that
the path of the directory ends in is not written twice. -/
theorem CommandPath.textBytes_text {p : CommandPath} (h : p.directory ≠ "") :
    ∃ path, textBytes p.text = path ++ 0x2F :: textBytes p.file ∧
      (textBytes p.directory = path ++ [0x2F] ∨ textBytes p.directory = path ∧ path ≠ []) := by
  have hempty : p.directory.isEmpty = false := by simpa using h
  rw [text, hempty, Bool.false_or]
  split
  · rename_i hslash
    obtain ⟨before, hbefore⟩ := String.Slice.endsWith_string_iff.mp hslash
    rw [String.copy_toSlice] at hbefore
    have hdirectory : p.directory = String.ofList before ++ "/" := by
      rw [← String.toList_inj, String.toList_append, String.toList_ofList]
      exact hbefore.symm
    refine ⟨textBytes (String.ofList before), ?_, .inl ?_⟩
    · rw [hdirectory, textBytes_append, textBytes_append, List.append_assoc]
      rfl
    · rw [hdirectory, textBytes_append]
      rfl
  · refine ⟨textBytes p.directory, ?_, .inr ⟨rfl, fun hnone => h ?_⟩⟩
    · rw [textBytes_append, textBytes_append, List.append_assoc]
      rfl
    · exact Bytes.textBytes_injective hnone

namespace CommandSearch

/-- What follows a start in a name is what has to be put behind it. -/
theorem remainder?_eq_some_iff {start name rest : String} :
    remainder? start name = some rest ↔ name = start ++ rest ∧ rest ≠ "" := by
  have hpositive : ∀ t : String, 0 < t.length ↔ t ≠ "" := fun t => by
    rw [Nat.pos_iff_ne_zero, Ne, String.length_eq_zero_iff]
  rw [remainder?]
  constructor
  · intro h
    split at h
    · rename_i hstart
      obtain ⟨hbegins, hlength⟩ := Bool.and_eq_true_iff.mp hstart
      obtain ⟨more, hmore⟩ := List.isPrefixOf_iff_prefix.mp hbegins
      have hname : name = start ++ String.ofList more := by
        rw [← String.toList_inj, String.toList_append, String.toList_ofList, hmore]
      cases h
      rw [← hmore, ← String.length_toList, List.drop_left, ← hpositive]
      rw [hname, String.length_append] at hlength
      exact ⟨hname, by simpa using hlength⟩
    · cases h
  · rintro ⟨rfl, h⟩
    have hlength : start.length < (start ++ rest).length := by
      rw [String.length_append]
      exact Nat.lt_add_of_pos_right ((hpositive rest).mpr h)
    have hbegins : start.toList.isPrefixOf (start ++ rest).toList = true := by
      rw [List.isPrefixOf_iff_prefix, String.toList_append]
      exact List.prefix_append ..
    rw [hbegins, decide_eq_true hlength, Bool.and_self, if_pos rfl, String.toList_append,
      ← String.length_toList, List.drop_left, String.ofList_toList]

variable {s : CommandSearch} {start name : String}

theorem mem_findIn_iff {directory : String} : name ∈ s.findIn start directory ↔
    start ++ name ∈ s.names directory ∧ s.isExecutable ⟨directory, start ++ name⟩ ∧ name ≠ "" := by
  rw [findIn, List.mem_filterMap]
  simp only [List.mem_filter, remainder?_eq_some_iff]
  constructor
  · rintro ⟨_, ⟨hmem, hexecutable⟩, rfl, hname⟩
    exact ⟨hmem, hexecutable, hname⟩
  · rintro ⟨hmem, hexecutable, hname⟩
    exact ⟨_, ⟨hmem, hexecutable⟩, rfl, hname⟩

theorem mem_find_iff :
    name ∈ s.find start ↔ ∃ directory ∈ s.directories, name ∈ s.findIn start directory := by
  rw [find, SortedMap.mem_keys_ofList, List.map_map]
  simp

/-- A command is located in the first directory that has it to run. -/
theorem locate_eq_some_iff {command : String} {path : CommandPath} :
    s.locate command = some path ↔ isPlainFileName command = true ∧ path.file = command ∧
      s.isExecutable path = true ∧
      ∃ before after, s.directories = before ++ path.directory :: after ∧
        ∀ directory ∈ before, s.isExecutable ⟨directory, command⟩ = false := by
  rw [locate]
  split
  · rename_i hplain
    rw [List.find?_eq_some_iff_append]
    constructor
    · rintro ⟨hexecutable, first, others, hpaths, hfirst⟩
      obtain ⟨before, more, hdirectories, rfl, hmore⟩ := List.map_eq_append_iff.mp hpaths
      obtain ⟨directory, after, rfl, rfl, -⟩ := List.map_eq_cons_iff.mp hmore
      refine ⟨hplain, rfl, hexecutable, before, after, hdirectories, fun other hother => ?_⟩
      simpa using hfirst _ (List.mem_map_of_mem hother)
    · rintro ⟨-, hfile, hexecutable, before, after, hdirectories, hbefore⟩
      refine ⟨hexecutable, before.map fun d => ⟨d, command⟩, after.map fun d => ⟨d, command⟩,
        ?_, fun other hother => ?_⟩
      · rw [hdirectories, List.map_append, List.map_cons, ← hfile]
      · obtain ⟨directory, hdirectory, rfl⟩ := List.mem_map.mp hother
        simpa using hbefore directory hdirectory
  · rename_i hplain
    simp [hplain]

theorem isSome_locate_iff {command : String} : (s.locate command).isSome ↔
    isPlainFileName command = true ∧
      ∃ directory ∈ s.directories, s.isExecutable ⟨directory, command⟩ = true := by
  rw [locate]
  split
  · rename_i hplain
    simp [hplain, List.find?_isSome]
  · rename_i hplain
    simp [hplain]

/-- The names in a directory that are text are names of files. -/
theorem isPlainFileName_of_mem_names (hnames : s.tree.WellNamed) {directory : String}
    (h : name ∈ s.names directory) : isPlainFileName name = true := by
  rw [names] at h
  split at h
  · obtain ⟨bytes, hbytes, htext⟩ := List.mem_filterMap.mp h
    rw [isPlainFileName_iff, Bytes.text?_eq_some_iff.mp htext]
    exact hnames.isFileName hbytes
  · cases h

/-- Where a plain file name leads to an executable behind a directory, the directory has it. -/
theorem mem_names_of_isExecutable {directory command : String} (hdirectory : directory ≠ "")
    (hplain : isPlainFileName command = true)
    (h : s.isExecutable ⟨directory, command⟩ = true) : command ∈ s.names directory := by
  have hname := isPlainFileName_iff.mp hplain
  obtain ⟨path, htext, hpath⟩ :=
    CommandPath.textBytes_text (p := ⟨directory, command⟩) hdirectory
  obtain ⟨found, e, hresolve⟩ : ∃ found e, s.tree.resolve s.start
      (path ++ 0x2F :: textBytes command) = .ok (found, e) := by
    rw [isExecutable, htext, FileTree.isExecutable] at h
    split at h
    · exact ⟨_, _, ‹_›⟩
    · exact ⟨_, _, ‹_›⟩
    · cases h
  obtain ⟨place, hmem, hslash, hplace⟩ := FileTree.resolve_directory hname hresolve
  have hplace : s.tree.resolve s.start (textBytes directory) = .ok (place, .directory) := by
    rcases hpath with hpath | ⟨hpath, hne⟩
    · rw [hpath, hslash]
    · rw [hpath, hplace hne]
  rw [names, hplace]
  exact List.mem_filterMap.mpr ⟨_, hmem, Bytes.text?_textBytes command⟩

/-- What is listed under a start is what can be located behind it. -/
theorem mem_find_iff_isSome_locate (hnames : s.tree.WellNamed)
    (hdirectories : ∀ directory ∈ s.directories, directory ≠ "") (hname : name ≠ "") :
    name ∈ s.find start ↔ (s.locate (start ++ name)).isSome := by
  rw [mem_find_iff, isSome_locate_iff]
  constructor
  · rintro ⟨directory, hdirectory, hmem⟩
    obtain ⟨hmem, hexecutable, -⟩ := mem_findIn_iff.mp hmem
    exact ⟨isPlainFileName_of_mem_names hnames hmem, directory, hdirectory, hexecutable⟩
  · rintro ⟨hplain, directory, hdirectory, hexecutable⟩
    have hmem := mem_names_of_isExecutable (hdirectories directory hdirectory) hplain hexecutable
    exact ⟨directory, hdirectory, mem_findIn_iff.mpr ⟨hmem, hexecutable, hname⟩⟩

end CommandSearch
end LabLifecycle
