import LabLifecycle.Engine.Trace
import LabLifecycle.Proofs.Json.Codecs
import LabLifecycle.Proofs.Json.Documents
import LabLifecycle.Proofs.Status.RunIdText
import LabLifecycle.Proofs.Text.ByteOrder
import Mathlib

/-!
# The order of run identifiers

All texts of run identifiers have the same number of digits, with the most significant one in
front, and the digits ascend with their values. So the texts are in byte order exactly as the
numbers are, with the same letters before and after them too. A log that is sorted by the texts of
its runs is sorted by their numbers, in which the millisecond of the start comes first. No letter
of a text means another digit in lower case.
-/
namespace LabLifecycle

namespace RunId

/-! ### The order of numbers -/

theorem not_lt {a b : RunId} : ¬ a < b ↔ b ≤ a := Nat.not_lt

theorem lt_or_eq_or_gt (a b : RunId) : a < b ∨ a = b ∨ b < a := by
  rcases Nat.lt_trichotomy a.value.toNat b.value.toNat with h | h | h
  · exact .inl h
  · exact .inr (.inl (congrArg RunId.mk (BitVec.eq_of_toNat_eq h)))
  · exact .inr (.inr h)

/-- The millisecond in which a run was started: its number without the last 80 bits, which are
random. -/
def millis (r : RunId) : Nat := r.value.toNat >>> 80

theorem lt_of_millis_lt {a b : RunId} (h : a.millis < b.millis) : a < b := by
  refine Nat.lt_of_not_le fun hle => ?_
  rw [millis, millis, Nat.shiftRight_eq_div_pow, Nat.shiftRight_eq_div_pow] at h
  exact absurd (Nat.div_le_div_right hle) (Nat.not_le_of_lt h)

/-! ### The order of texts -/

theorem digit_lt_digit : ∀ w < 32, ∀ v < w, digit v < digit w := by decide

/-- The induction is on the number of digits, and takes off the last one: it decides only where
the numbers before it are the same. -/
theorem digits_append_lt {count m n : Nat} (hn : n < 32 ^ count) (h : m < n) (a b : List Char) :
    digits count m ++ a < digits count n ++ b := by
  induction count generalizing m n a b with
  | zero =>
    rw [Nat.pow_zero] at hn
    omega
  | succ count ih =>
    have hfront : n / 32 < 32 ^ count := Nat.div_lt_of_lt_mul (by rwa [← Nat.pow_succ'])
    have hcases : m / 32 < n / 32 ∨ m / 32 = n / 32 ∧ m % 32 < n % 32 := by omega
    rw [digits, digits, List.append_assoc, List.append_assoc, List.singleton_append,
      List.singleton_append]
    rcases hcases with hlt | ⟨hsame, hlast⟩
    · exact ih hfront hlt _ _
    · have hdigit := digit_lt_digit (n % 32) (Nat.mod_lt n (by decide)) (m % 32) hlast
      rw [hsame]
      exact List.append_left_lt (List.cons_lt_cons_iff.mpr (.inl hdigit))

/-- What is written of runs is in byte order exactly as the runs are. -/
def InOrder (write : RunId → String) : Prop :=
  ∀ a b, a < b ↔ textBytes (write a) < textBytes (write b)

theorem inOrder_of_mono {write : RunId → String}
    (h : ∀ a b, a < b → textBytes (write a) < textBytes (write b)) : InOrder write := by
  refine fun a b => ⟨h a b, fun hlt => ?_⟩
  rcases lt_or_eq_or_gt a b with hab | rfl | hba
  · exact hab
  · exact absurd hlt (List.lt_irrefl _)
  · exact absurd (h b a hba) (List.lt_asymm hlt)

/-- The order is kept where the texts have the same letters before and after them. -/
theorem inOrder_enclosed (before after : String) :
    InOrder fun r => before ++ r.text ++ after := by
  refine inOrder_of_mono fun a b h => ?_
  rw [textBytes_lt_iff, String.lt_iff]
  simp only [String.toList_append, List.append_assoc, text, String.toList_ofList]
  exact List.append_left_lt (digits_append_lt b.value_lt h _ _)

namespace InOrder
variable {write : RunId → String} (h : InOrder write) {a b : RunId}
include h

theorem le_iff : a ≤ b ↔ textBytes (write a) ≤ textBytes (write b) := by
  rw [← RunId.not_lt, ← List.not_lt, h b a]

theorem eq_iff : write a = write b ↔ a = b := by
  refine ⟨fun hsame => ?_, congrArg write⟩
  have hirrefl : ∀ a b, write a = write b → ¬ a < b := by
    intro a b hsame hlt
    rw [h a b, hsame] at hlt
    exact List.lt_irrefl _ hlt
  rcases lt_or_eq_or_gt a b with hlt | rfl | hgt
  · exact absurd hlt (hirrefl a b hsame)
  · rfl
  · exact absurd hgt (hirrefl b a hsame.symm)

end InOrder

theorem inOrder_display : InOrder display := by
  have hdisplay : display = fun r => "run-" ++ r.text ++ "" := by
    funext r
    rw [String.append_empty, display]
  rw [hdisplay]
  exact inOrder_enclosed "run-" ""

/-! ### Documents -/

/-- The text of a run identifier as a JSON document. -/
def document (r : RunId) (l : Json.Layout) : String := Json.printString l r.toJson

/-- Read a run identifier from a JSON document. -/
def decode (document : Bytes) : Except Json.Fault RunId := Json.decode ofJson document

/-- No digit is escaped, in upper case or in lower case. -/
theorem isPlain_of_toUpper {s : String} {r : RunId} (h : s.toUpper = r.text) :
    ∀ c ∈ s.toList, Json.IsPlain c := by
  intro c hc
  have hupper : c.toUpper ∈ (places width r.value.toNat).map digit := by
    rw [← toList_text, ← h, String.toUpper, String.toList_map]
    exact List.mem_map_of_mem hc
  obtain ⟨v, hv, hdigit⟩ := List.mem_map.mp hupper
  exact of_toUpper_eq_digit (by decide) (by decide) (lt_of_mem_places v hv) hdigit.symm

theorem document_eq (r : RunId) (l : Json.Layout) : r.document l = "\"" ++ r.text ++ "\"" :=
  Json.printString_text (isPlain_of_toUpper r.toUpper_text) l

theorem inOrder_document (l : Json.Layout) : InOrder (document · l) := by
  simp only [document_eq]
  exact inOrder_enclosed "\"" "\""

theorem toUpper_eq_quote {c : Char} (h : c.toUpper = '"') : c = '"' := by
  have hletter : ∀ n < 26, (Char.ofNat (n + 97)).toUpper ≠ '"' := by decide
  rcases toUpper_cases c with hsame | ⟨n, hn, rfl⟩
  · rw [← hsame, h]
  · exact absurd h (hletter n hn)

/-- What is a text between quotes in upper case was a text between quotes before. -/
theorem eq_enclosed_of_toUpper {s t : String} (h : s.toUpper = "\"" ++ t ++ "\"") :
    ∃ u : String, s = "\"" ++ u ++ "\"" ∧ u.toUpper = t := by
  have hchars := congrArg String.toList h
  rw [String.toUpper, String.toList_map, String.toList_append, String.toList_append,
    List.map_eq_append_iff] at hchars
  obtain ⟨front, back, hs, hfront, hback⟩ := hchars
  obtain ⟨opening, inside, rfl, hopening, hinside⟩ := List.map_eq_append_iff.mp hfront
  obtain ⟨c, rfl, hc⟩ := List.map_eq_singleton_iff.mp hopening
  obtain ⟨d, rfl, hd⟩ := List.map_eq_singleton_iff.mp hback
  obtain rfl := toUpper_eq_quote hc
  obtain rfl := toUpper_eq_quote hd
  refine ⟨String.ofList inside, ?_, ?_⟩
  · rw [← String.toList_inj, hs]
    simp only [String.toList_append, String.toList_ofList]
    rfl
  · rw [← String.toList_inj, String.toUpper, String.toList_map, String.toList_ofList, hinside]

/-- A run is decoded from its document in whatever case each letter of it is. -/
theorem decode_of_toUpper {s : String} {r : RunId} {l : Json.Layout}
    (h : s.toUpper = r.document l) : decode (textBytes s) = .ok r := by
  rw [document_eq] at h
  obtain ⟨u, rfl, hu⟩ := eq_enclosed_of_toUpper h
  have hread : ofJson Json.depthLimit (Json.Value.text u).reading = .ok r :=
    Json.Decoder.textAs_reading (parse_of_toUpper hu) "a string" _
  have hfits : (Json.Value.text u).Fits (fun n => n.IsInt ∧ n.InRange) 0 := Json.Value.fits_text u
  have hdecode : decode (Json.print l (.text u) ++ []) = .ok r :=
    Json.decode_print hfits hread nofun
  rwa [List.append_nil, ← Json.textBytes_printString,
    Json.printString_text (isPlain_of_toUpper hu)] at hdecode

/-- What leaves digits and quotes as they are leaves a document as it is. -/
theorem map_document {f : Char → Char} (hdigit : ∀ v < 32, f (digit v) = digit v)
    (hquote : f '"' = '"') (r : RunId) (l : Json.Layout) :
    (r.document l).map f = r.document l := by
  have htext := congrArg String.toList (map_text hdigit r)
  have hquotes : "\"".toList.map f = "\"".toList := congrArg ([·]) hquote
  rw [String.toList_map] at htext
  rw [document_eq, ← String.toList_inj, String.toList_map, String.toList_append,
    String.toList_append, List.map_append, List.map_append, htext, hquotes]

theorem toUpper_document (r : RunId) (l : Json.Layout) : (r.document l).toUpper = r.document l :=
  map_document toUpper_digit rfl r l

theorem toUpper_toLower_document (r : RunId) (l : Json.Layout) :
    (r.document l).toLower.toUpper = r.document l :=
  String.map_map.trans (map_document toUpper_toLower_digit rfl r l)

/-! ### The order of starts -/

/-- The places of runs in an ascending list are in the order of the runs. -/
theorem idxOf_le_idxOf_iff {runs : List RunId} (hruns : runs.Pairwise (· < ·)) {a b : RunId}
    (ha : a ∈ runs) (hb : b ∈ runs) : runs.idxOf a ≤ runs.idxOf b ↔ a ≤ b := by
  have hlt : ∀ {a b : RunId}, a ∈ runs → b ∈ runs → runs.idxOf a < runs.idxOf b → a < b := by
    intro a b ha hb h
    have h := List.pairwise_iff_getElem.mp hruns _ _ (List.idxOf_lt_length_of_mem ha)
      (List.idxOf_lt_length_of_mem hb) h
    rwa [List.getElem_idxOf, List.getElem_idxOf] at h
  constructor
  · intro h
    rcases Nat.lt_or_eq_of_le h with h | h
    · exact Nat.le_of_lt (hlt ha hb h)
    · obtain rfl := (List.idxOf_inj ha).mp h
      exact Nat.le_refl _
  · intro h
    refine Nat.le_of_not_lt fun hgt => ?_
    exact not_lt.mpr h (hlt hb ha hgt)

end RunId

/-! ### Sorted logs -/

/-- The text by which an entry of the log names its run. -/
def LogEntry.runText : LogEntry → String
  | .span .. => ""
  | .event _ _ details => (details.lookup "run_id").getD ""

/-- A log in the byte order of the texts of its runs. -/
def sortedByRun (log : List LogEntry) : List LogEntry :=
  log.mergeSort fun x y => textBytes x.runText ≤ textBytes y.runText

theorem Report.runText_logEntry (r : Report) : r.logEntry.runText = r.run.display := rfl

/-- A log of reports is sorted by any order of the reports that agrees with that of their runs. -/
theorem sortedByRun_logEntry {reports : List Report} {le : Report → Report → Bool}
    (hle : ∀ r ∈ reports, ∀ s ∈ reports, le r s = decide (r.run ≤ s.run)) :
    sortedByRun (reports.map Report.logEntry) = (reports.mergeSort le).map Report.logEntry := by
  refine (List.map_mergeSort fun r hr s hs => ?_).symm
  rw [hle r hr s hs, Report.runText_logEntry, Report.runText_logEntry, decide_eq_decide]
  exact RunId.inOrder_display.le_iff

namespace RunId

/-- Runs are in the order of their texts, displayed and as JSON, so distinct runs have distinct
texts. A log that is sorted by text is sorted by run. If the numbers ascended as the runs were
started, it is sorted by start, and whatever the random bits are, a run of an earlier millisecond
comes before one of a later millisecond. A run is decoded from its JSON text, as it is written, in
lower case, and with each letter in either case. -/
theorem texts_in_order (l : Json.Layout) :
    (∀ a b : RunId, a < b ↔ textBytes a.display < textBytes b.display) ∧
    (∀ a b : RunId, a < b ↔ textBytes (a.document l) < textBytes (b.document l)) ∧
    (∀ a b : RunId, (a.display = b.display ↔ a = b) ∧ (a.document l = b.document l ↔ a = b)) ∧
    (∀ reports : List Report, sortedByRun (reports.map Report.logEntry) =
      (reports.mergeSort fun r s => r.run ≤ s.run).map Report.logEntry) ∧
    (∀ starts : List RunId, starts.Pairwise (· < ·) →
      ∀ reports : List Report, (∀ r ∈ reports, r.run ∈ starts) →
        sortedByRun (reports.map Report.logEntry) =
          (reports.mergeSort fun r s => starts.idxOf r.run ≤ starts.idxOf s.run).map
            Report.logEntry) ∧
    (∀ a b : RunId, a.millis < b.millis → textBytes a.display < textBytes b.display) ∧
    ∀ a : RunId, decode (textBytes (a.document l)) = .ok a ∧
      decode (textBytes (a.document l).toLower) = .ok a ∧
      ∀ s : String, s.toUpper = a.document l → decode (textBytes s) = .ok a := by
  refine ⟨inOrder_display, inOrder_document l, fun a b => ?_, fun reports => ?_,
    fun starts hstarts reports hreports => ?_, fun a b h => ?_, fun a => ?_⟩
  · exact ⟨inOrder_display.eq_iff, (inOrder_document l).eq_iff⟩
  · exact sortedByRun_logEntry fun _ _ _ _ => rfl
  · refine sortedByRun_logEntry fun r hr s hs => ?_
    rw [decide_eq_decide]
    exact idxOf_le_idxOf_iff hstarts (hreports r hr) (hreports s hs)
  · exact (inOrder_display a b).mp (lt_of_millis_lt h)
  · exact ⟨decode_of_toUpper (a.toUpper_document l),
      decode_of_toUpper (a.toUpper_toLower_document l), fun s h => decode_of_toUpper h⟩

end RunId

namespace Sample

/-- Two runs of one millisecond, and one of the next. -/
def starts : List RunId := [
  ⟨1469922850259#48 ++ 7#80⟩, ⟨1469922850259#48 ++ 0xD6764C61EFB99302BD5B#80⟩,
  ⟨1469922850260#48 ++ 0#80⟩]

/-- What two apps reported of them, the last run first. -/
def hindsight : List Report := starts.reverse.flatMap fun run =>
  ["tap", "ntp"].map fun app => ⟨run, app, .configure, .default, .ok⟩

end Sample

namespace RunId

/-- The log is sorted by text into the order of the starts, the last run has the highest text, and
the second one is read from a document with its letters in mixed cases. -/
theorem sample_log : Sample.starts.Pairwise (· < ·) ∧
    (∀ r ∈ Sample.hindsight, r.run ∈ Sample.starts) ∧
    (sortedByRun (Sample.hindsight.map Report.logEntry)).map LogEntry.runText = [
      "run-01ARZ3NDEK0000000000000007", "run-01ARZ3NDEK0000000000000007",
      "run-01ARZ3NDEKTSV4RRFFQ69G5FAV", "run-01ARZ3NDEKTSV4RRFFQ69G5FAV",
      "run-01ARZ3NDEM0000000000000000", "run-01ARZ3NDEM0000000000000000"] ∧
    Sample.starts[1].millis < Sample.starts[2].millis ∧
    textBytes Sample.starts[1].display < textBytes Sample.starts[2].display ∧
    "\"01arz3NDEKtsv4RRFFQ69g5fav\"".toUpper = Sample.starts[1].document .compact ∧
    decode (textBytes "\"01arz3NDEKtsv4RRFFQ69g5fav\"") = .ok Sample.starts[1] := by
  obtain ⟨-, -, -, -, hsorted, hmillis, hdecode⟩ := texts_in_order .compact
  have hstarts : Sample.starts.Pairwise (· < ·) := by decide
  have hruns : ∀ r ∈ Sample.hindsight, r.run ∈ Sample.starts := by decide
  have hlater : Sample.starts[1].millis < Sample.starts[2].millis := by decide
  have hupper : "\"01arz3NDEKtsv4RRFFQ69g5fav\"".toUpper = Sample.starts[1].document .compact := by
    rw [document_eq, ← String.toList_inj, String.toUpper, String.toList_map]
    decide
  refine ⟨hstarts, hruns, ?_, hlater, hmillis _ _ hlater, hupper, (hdecode _).2.2 _ hupper⟩
  rw [hsorted _ hstarts _ hruns]
  cbv

end RunId
end LabLifecycle
