import LabLifecycle.Proofs.Json.Documents
import LabLifecycle.Proofs.Json.Records
import LabLifecycle.Proofs.Status.RunIdText
import LabLifecycle.Proofs.Status.TimestampText
import LabLifecycle.Status

/-!
# Status records written and read again

A status record comes back unchanged from the document that is written of it, whatever notation
it was first read from: a run identifier in lower case or with bits to spare, a variant as an
object, a time with an offset. What is written is a normal form, so it is written the same again.
-/
namespace LabLifecycle

open Json Json.Record

/-! ### The fields of a record -/

theorem RunId.inverts : RunId.ofJson.Inverts RunId.toJson 0 := Decoder.textAs_inverts parse_text

theorem Timestamp.inverts : Timestamp.ofJson.Inverts Timestamp.toJson 0 :=
  Decoder.textAs_inverts fun t => by rw [parse, read_text, Except.mapError]

theorem Stage.inverts : Stage.ofJson.Inverts Stage.toJson 0 :=
  Decoder.variant_inverts fun s => by cases s <;> decide

theorem Pass.inverts : Pass.ofJson.Inverts Pass.toJson 0 :=
  Decoder.variant_inverts fun p => by cases p <;> decide

theorem AppStatus.inverts : AppStatus.ofJson.Inverts AppStatus.toJson 0 :=
  Decoder.variant_inverts fun s => by cases s <;> decide

namespace StatusRecord

/-- A record is one object of texts. -/
theorem fits_toJson (r : StatusRecord) (p : Number → Prop) (depth : Nat) :
    r.toJson.Fits p (depth + 1) := by
  simp [toJson, RunId.toJson, Stage.toJson, Pass.toJson, AppStatus.toJson, Timestamp.toJson]

theorem inverts : ofJson.Inverts toJson 1 := by
  refine ⟨fun depth r hr => ?_, fun p depth _ r hdepth _ _ => ?_⟩
  · obtain ⟨depth, rfl, -⟩ := Value.nesting_object_le_iff.mp hr
    have htext : ∀ (name s : String), ∀ m ∈ [(name, Value.text s)], m.2.nesting ≤ depth := by
      simp [Value.nesting]
    -- The members fill the slots of a draft in their order.
    have htakes : record.Takes depth _ record.blank _ :=
      (Takes.slot rfl RunId.inverts (htext "run_id" r.run.text) rfl).append <|
      (Takes.slot rfl Decoder.text_inverts (htext "app" r.app) rfl).append <|
      (Takes.slot rfl Stage.inverts (htext "stage" r.stage.name) rfl).append <|
      (Takes.slot rfl Pass.inverts (htext "pass" r.pass.name) rfl).append <|
      (Takes.slot rfl AppStatus.inverts (htext "status" r.status.name) rfl).append <|
      Takes.slot rfl Timestamp.inverts (htext "at" r.time.text) rfl
    exact decode_object htakes rfl
  · obtain ⟨depth, rfl⟩ := Nat.exists_eq_add_one_of_ne_zero (Nat.ne_zero_of_lt hdepth)
    exact r.fits_toJson p depth

/-! ### Documents -/

/-- The document of a record. -/
def print (r : StatusRecord) (l : Layout) : Bytes := Json.print l r.toJson

/-- The document of a record as text. -/
def text (r : StatusRecord) (l : Layout) : String := printString l r.toJson

/-- Read a record from a JSON document. -/
def decode (document : Bytes) : Except Fault StatusRecord := Json.decode ofJson document

theorem textBytes_text (r : StatusRecord) (l : Layout) : textBytes (r.text l) = r.print l :=
  textBytes_printString l r.toJson

theorem decode_print (r : StatusRecord) (l : Layout) : decode (r.print l) = .ok r := by
  have hfits := r.fits_toJson (fun n => n.IsInt ∧ n.InRange) 126
  have hreads := inverts.reads depthLimit r hfits.nesting
  have h : decode (r.print l ++ []) = .ok r := Json.decode_print hfits hreads nofun
  rwa [List.append_nil] at h

/-- Every record is read from the text that is written of it, so distinct ones have distinct
texts. A record that was decoded from any document is decoded again from its text, and what is
written of it then is the same text. -/
theorem text_read_back (l : Layout) :
    (∀ r : StatusRecord, decode (textBytes (r.text l)) = .ok r) ∧
    (∀ r r' : StatusRecord, r.text l = r'.text l ↔ r = r') ∧
    ∀ document r, decode document = .ok r →
      decode (textBytes (r.text l)) = decode document ∧
      ∀ r', decode (textBytes (r.text l)) = .ok r' → r'.text l = r.text l := by
  have hread : ∀ r : StatusRecord, decode (textBytes (r.text l)) = .ok r := by
    intro r
    rw [textBytes_text, decode_print]
  refine ⟨hread, fun r r' => ⟨fun h => ?_, congrArg (text · l)⟩, fun document r h => ⟨?_, ?_⟩⟩
  · have hsame := congrArg (fun s => decode (textBytes s)) h
    simpa only [hread, Except.ok.injEq] using hsame
  · rw [hread, h]
  · intro r' hr'
    rw [hread] at hr'
    cases hr'
    rfl

end StatusRecord

/-! ### A record in other notations -/

namespace Sample

/-- A record in another order of its members and with one more of them: a leap second with an
offset, variants as objects, an escaped name, and an identifier of more than 128 bits in lower
case. -/
def notice : Bytes := textBytes <|
  "\x7b\"at\": \"2017-01-01 05:29:60.25+05:30\", \"status\": \x7b\"ok\": null\x7d, " ++
  "\"pass\": \x7b\"scenario\": null\x7d, \"stage\": \"pre-start\", " ++
  "\"app\": \"t\\u0061p\\n\", \"host\": 1.5, " ++
  "\"run_id\": \"zzzzzzzzzzzzzzzzzzzzzzzzzz\" \x7d"

/-- What it says. -/
def noticed : StatusRecord where
  run := ⟨BitVec.allOnes 128⟩
  app := "tap\n"
  stage := .preStart
  pass := .scenario
  status := .ok
  time := ((Date.ofParts? 2016 12 31).bind (Timestamp.ofParts? · 86399 1250000000)).get (by decide)

end Sample

namespace StatusRecord

/-- The record is read from its own document and from the one that is written of it. -/
theorem sample_notice : decode Sample.notice = .ok Sample.noticed ∧
    decode (textBytes (Sample.noticed.text .compact)) = decode Sample.notice ∧
    ∀ r', decode (textBytes (Sample.noticed.text .compact)) = .ok r' →
      r'.text .compact = Sample.noticed.text .compact := by
  have hdecode : decode Sample.notice = .ok Sample.noticed := by decide +kernel
  exact ⟨hdecode, (text_read_back .compact).2.2 Sample.notice Sample.noticed hdecode⟩

end StatusRecord
end LabLifecycle
