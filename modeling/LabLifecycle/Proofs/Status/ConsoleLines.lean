import LabLifecycle.Engine.Trace
import Mathlib.Data.List.Basic

/-!
# Reports on the console

A console line says everything about a report but its run: the mark comes first, the pass and the
stage come last, and whatever stands between the quotes is the name of the app. Names are written
as they are, so a name with a line feed breaks its line. Without such names the console shows a
line for each report, and the reports can be told from it.
-/
namespace LabLifecycle

/-! ### Lines of a text -/

/-- The text consists of the lines, each ended by a line feed. -/
structure ConsistsOf (text : String) (lines : List String) : Prop where
  eq_join : text = String.join (lines.map (· ++ "\n"))
  unbroken : ∀ line ∈ lines, '\n' ∉ line.toList

theorem toList_join_ended (lines : List String) :
    (String.join (lines.map (· ++ "\n"))).toList = lines.flatMap fun l => l.toList ++ ['\n'] := by
  rw [String.toList_join, List.flatMap_map]
  simp only [String.toList_append]
  rfl

/-- Up to the first line feed, two texts that go on are the same. -/
theorem eq_of_append_newline_eq {a b s t : List Char} (ha : '\n' ∉ a) (hb : '\n' ∉ b)
    (h : a ++ '\n' :: s = b ++ '\n' :: t) : a = b ∧ s = t := by
  induction a generalizing b with
  | nil =>
    cases b with
    | nil => exact ⟨rfl, List.tail_eq_of_cons_eq h⟩
    | cons c b => exact absurd (List.mem_cons.mpr (.inl (List.head_eq_of_cons_eq h))) hb
  | cons c a ih =>
    cases b with
    | nil => exact absurd (List.mem_cons.mpr (.inl (List.head_eq_of_cons_eq h).symm)) ha
    | cons d b =>
      obtain ⟨rfl, htail⟩ := List.cons_eq_cons.mp h
      obtain ⟨rfl, hrest⟩ := ih (List.not_mem_of_not_mem_cons ha) (List.not_mem_of_not_mem_cons hb)
        htail
      exact ⟨rfl, hrest⟩

/-- A text consists of its lines in one way only. -/
theorem ConsistsOf.unique {text : String} {lines lines' : List String}
    (h : ConsistsOf text lines) (h' : ConsistsOf text lines') : lines = lines' := by
  obtain ⟨htext, hunbroken⟩ := h
  obtain ⟨htext', hunbroken'⟩ := h'
  have hchars := congrArg String.toList (htext.symm.trans htext')
  rw [toList_join_ended, toList_join_ended] at hchars
  clear htext htext'
  induction lines generalizing lines' with
  | nil =>
    cases lines' with
    | nil => rfl
    | cons l' lines' => simp at hchars
  | cons l lines ih =>
    cases lines' with
    | nil => simp at hchars
    | cons l' lines' =>
      obtain ⟨hl, hunbroken⟩ := List.forall_mem_cons.mp hunbroken
      obtain ⟨hl', hunbroken'⟩ := List.forall_mem_cons.mp hunbroken'
      simp only [List.flatMap_cons, List.append_assoc, List.singleton_append] at hchars
      obtain ⟨hline, hrest⟩ := eq_of_append_newline_eq hl hl' hchars
      rw [String.toList_inj.mp hline, ih hunbroken hunbroken' hrest]

/-! ### The line of a report -/

namespace Report

/-- What a report says besides its run. -/
def outcome (r : Report) : String × Pass × Stage × AppStatus := (r.app, r.pass, r.stage, r.status)

/-- The name of the app has no line feed. -/
def Unbroken (r : Report) : Prop := '\n' ∉ r.app.toList

instance (r : Report) : Decidable r.Unbroken := inferInstanceAs (Decidable ('\n' ∉ r.app.toList))

/-- What comes before the name of an app. -/
def opening (s : AppStatus) : List Char := ("[" ++ mark s ++ "] '").toList

/-- What comes after the name of an app. -/
def closing (p : Pass) (s : Stage) : List Char :=
  ("' " ++ kind p ++ " app (" ++ s.name ++ ")").toList

theorem toList_line (r : Report) :
    r.line.toList = opening r.status ++ (r.app.toList ++ closing r.pass r.stage) := by
  simp only [line, opening, closing, String.toList_append, List.append_assoc]

theorem length_opening (s : AppStatus) : (opening s).length = 5 := by cases s <;> rfl

theorem opening_injective {s s' : AppStatus} (h : opening s = opening s') : s = s' := by
  cases s <;> cases s' <;> first | rfl | (revert h; decide)

/-- No ending of a line is the end of another one. -/
theorem closing_of_suffix {p p' : Pass} {s s' : Stage} (h : closing p s <:+ closing p' s') :
    p = p' ∧ s = s' := by
  cases p <;> cases p' <;> cases s <;> cases s' <;> first | exact ⟨rfl, rfl⟩ | (revert h; decide)

/-- Two names with something behind them that are the same as wholes are the same. -/
theorem eq_of_append_closing_eq {a a' : List Char} {p p' : Pass} {s s' : Stage}
    (h : a ++ closing p s = a' ++ closing p' s') : a = a' ∧ p = p' ∧ s = s' := by
  have hsuffix : closing p s <:+ a' ++ closing p' s' := h ▸ List.suffix_append a _
  have hsuffix' := List.suffix_append a' (closing p' s')
  obtain ⟨rfl, rfl⟩ : p = p' ∧ s = s' := by
    rcases Nat.le_total (closing p s).length (closing p' s').length with hle | hle
    · exact closing_of_suffix (List.suffix_of_suffix_length_le hsuffix hsuffix' hle)
    · obtain ⟨rfl, rfl⟩ :=
        closing_of_suffix (List.suffix_of_suffix_length_le hsuffix' hsuffix hle)
      exact ⟨rfl, rfl⟩
  exact ⟨List.append_cancel_right h, rfl, rfl⟩

/-- A line says what the report says besides its run, whatever the name is, and no more. -/
theorem line_eq_iff {r r' : Report} : r.line = r'.line ↔ r.outcome = r'.outcome := by
  constructor
  · intro h
    have hchars := congrArg String.toList h
    rw [toList_line, toList_line] at hchars
    obtain ⟨hopening, hrest⟩ := List.append_inj hchars
      ((length_opening r.status).trans (length_opening r'.status).symm)
    obtain ⟨happ, hpass, hstage⟩ := eq_of_append_closing_eq hrest
    rw [outcome, outcome, String.toList_inj.mp happ, hpass, hstage, opening_injective hopening]
  · intro h
    simp only [outcome, Prod.mk.injEq] at h
    obtain ⟨happ, hpass, hstage, hstatus⟩ := h
    rw [line, line, happ, hpass, hstage, hstatus]

theorem newline_not_mem_opening (s : AppStatus) : '\n' ∉ opening s := by cases s <;> decide

theorem newline_not_mem_closing (p : Pass) (s : Stage) : '\n' ∉ closing p s := by
  cases p <;> cases s <;> decide

/-- A line has the line feeds of the name, and no other. -/
theorem count_newline_line (r : Report) :
    r.line.toList.count '\n' = r.app.toList.count '\n' := by
  rw [toList_line, List.count_append, List.count_append,
    List.count_eq_zero_of_not_mem (newline_not_mem_opening r.status),
    List.count_eq_zero_of_not_mem (newline_not_mem_closing r.pass r.stage), Nat.zero_add,
    Nat.add_zero]

theorem Unbroken.line {r : Report} (h : r.Unbroken) : '\n' ∉ r.line.toList := by
  rw [← List.count_eq_zero, count_newline_line, List.count_eq_zero]
  exact h

end Report

/-! ### The console -/

open Report

theorem consoleText_eq_join (reports : List Report) :
    consoleText reports = String.join ((reports.map line).map (· ++ "\n")) := by
  rw [consoleText, List.map_map]
  rfl

theorem consistsOf_consoleText {reports : List Report} (h : ∀ r ∈ reports, r.Unbroken) :
    ConsistsOf (consoleText reports) (reports.map line) := by
  refine ⟨consoleText_eq_join reports, fun l hl => ?_⟩
  obtain ⟨r, hr, rfl⟩ := List.mem_map.mp hl
  exact (h r hr).line

/-- There is a line feed for each report, and one for each in a name. -/
theorem count_newline_consoleText (reports : List Report) :
    (consoleText reports).toList.count '\n' =
      reports.length + (reports.flatMap fun r => r.app.toList).count '\n' := by
  rw [consoleText_eq_join, toList_join_ended]
  induction reports with
  | nil => rfl
  | cons r reports ih =>
    simp only [List.map_cons, List.flatMap_cons, List.count_append, List.length_cons,
      count_newline_line, ih]
    have hend : ['\n'].count '\n' = 1 := rfl
    omega

theorem map_line_eq_iff {reports reports' : List Report} :
    reports.map line = reports'.map line ↔ reports.map outcome = reports'.map outcome := by
  induction reports generalizing reports' with
  | nil => cases reports' <;> simp
  | cons r reports ih =>
    cases reports' with
    | nil => simp
    | cons r' reports' => simp only [List.map_cons, List.cons_eq_cons, line_eq_iff, ih]

/-- The console has as many line feeds as there are reports exactly if no name has one. Then it
consists of the lines of the reports in their order, and says everything about them but their runs.
Each single line does so whatever the name is. -/
theorem console_shows_reports (reports : List Report) :
    ((consoleText reports).toList.count '\n' = reports.length ↔ ∀ r ∈ reports, r.Unbroken) ∧
    (∀ r r' : Report, r.line = r'.line ↔ r.outcome = r'.outcome) ∧
    ((∀ r ∈ reports, r.Unbroken) →
      (∀ lines, ConsistsOf (consoleText reports) lines ↔ lines = reports.map line) ∧
      ∀ reports' : List Report, (∀ r ∈ reports', r.Unbroken) →
        (consoleText reports = consoleText reports' ↔
          reports.map outcome = reports'.map outcome)) := by
  refine ⟨?_, fun r r' => line_eq_iff, fun h => ⟨fun lines => ⟨fun hlines => ?_, ?_⟩, ?_⟩⟩
  · rw [count_newline_consoleText, Nat.add_eq_left, List.count_eq_zero]
    simp only [List.mem_flatMap, not_exists, not_and, Unbroken]
  · exact hlines.unique (consistsOf_consoleText h)
  · rintro rfl
    exact consistsOf_consoleText h
  · intro reports' h'
    rw [← map_line_eq_iff]
    constructor
    · intro htext
      exact (consistsOf_consoleText h).unique (htext ▸ consistsOf_consoleText h')
    · intro hlines
      rw [consoleText_eq_join, consoleText_eq_join, hlines]

namespace Sample

/-- Two apps that went well in the first run. -/
def pair : List Report := ["tap", "ntp"].map fun app => ⟨default, app, .configure, .default, .ok⟩

/-- One app, under a name that ends its line and begins another one. -/
def forged : List Report :=
  [⟨default, "tap' default app (configure)\n[✓] 'ntp", .configure, .default, .ok⟩]

end Sample

/-- Two reports give two lines, and the other way round the console shows something else. -/
theorem sample_pair : (∀ r ∈ Sample.pair, r.Unbroken) ∧
    (∀ lines, ConsistsOf (consoleText Sample.pair) lines ↔ lines =
      ["[✓] 'tap' default app (configure)", "[✓] 'ntp' default app (configure)"]) ∧
    consoleText Sample.pair ≠ consoleText Sample.pair.reverse := by
  have hunbroken : ∀ r ∈ Sample.pair, r.Unbroken := by decide
  obtain ⟨hlines, hsame⟩ := (console_shows_reports Sample.pair).2.2 hunbroken
  refine ⟨hunbroken, hlines, fun h => ?_⟩
  have houtcome := (hsame Sample.pair.reverse (by decide)).mp h
  revert houtcome
  decide

/-- A name with a line feed makes one report look like two. -/
theorem name_breaks_line : (consoleText Sample.forged).toList.count '\n' = 2 ∧
    Sample.forged.length = 1 ∧ consoleText Sample.forged = consoleText Sample.pair :=
  ⟨by decide, rfl, by decide⟩

end LabLifecycle
