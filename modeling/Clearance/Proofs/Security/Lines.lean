/-
# Events and lines

Every event that passes becomes one record. As a document, the record is one line, whatever texts the
event holds. In the text form, the decision, the subject and what it asked for stand in the message as
they are, and so does the name of a rejected policy; whoever chooses them can break the line.
-/

import Clearance.Proofs.Json.Printer
import Clearance.Security.Logger

namespace Clearance

open Text

/-- What is reported to a security logger: a decision on a subject's request, or a rejected policy. -/
inductive SecurityReport where
  | authorization (base : SecurityEvent) (subject : Option String) (facts : DecisionFacts)
  | violation (policy : String) (problems : List Value) (severity : Severity)

namespace SecurityReport

/-- The event of a report. -/
def event : SecurityReport → SecurityEvent
  | authorization base subject facts => .authorization base subject facts
  | violation policy problems severity => .violation policy problems severity

/-- The texts of a report that its message repeats. An absent or empty resource is left out. -/
def repeated : SecurityReport → List String
  | authorization _ subject facts =>
    facts.decision :: SecurityEvent.idText subject :: SecurityEvent.idText facts.action ::
      (facts.resource.filter fun r => !r.isEmpty).toList
  | violation policy _ _ => [policy]

/-- The message of a decision is that of its parts. -/
theorem message_authorization (base : SecurityEvent) (subject : Option String)
    (facts : DecisionFacts) :
    (authorization base subject facts).event.message =
      "Authorization " ++ facts.decision ++ " for subject " ++ SecurityEvent.idText subject ++
        " on " ++ (((facts.resource.filter fun r => !r.isEmpty).map (· ++ ":")).getD "" ++
          SecurityEvent.idText facts.action) := by
  have hmessage : ∀ event : SecurityEvent, (event.ofDecision facts).message = event.message := by
    intro event
    simp only [SecurityEvent.ofDecision]
    split
    · rfl
    · split <;> rfl
  rw [event, SecurityEvent.authorization, hmessage]
  cases facts.resource with
  | none => rfl
  | some r =>
      cases hempty : r.isEmpty <;> simp only [hempty, Option.filter] <;> rfl

/-- A message breaks the line exactly if a text that it repeats does. -/
theorem hasLineEnd_message_iff (report : SecurityReport) :
    HasLineEnd report.event.message ↔ ∃ text ∈ report.repeated, HasLineEnd text := by
  cases report with
  | authorization base subject facts =>
      have hfixed : ¬HasLineEnd "Authorization " ∧ ¬HasLineEnd " for subject " ∧
        ¬HasLineEnd " on " ∧ ¬HasLineEnd "" ∧ ¬HasLineEnd ":" := by decide
      rw [message_authorization, repeated]
      cases facts.resource.filter fun r => !r.isEmpty with
      | none => simp [hfixed, or_assoc]
      | some r => simp [hfixed, or_assoc, or_comm]
  | violation policy problems severity =>
      have hfixed : ¬HasLineEnd "Policy rejected: " := by decide
      simp [event, SecurityEvent.violation, repeated, hfixed]

end SecurityReport

/-- A document stands on one line. -/
theorem SecurityEvent.isPlain_document (e : SecurityEvent) : IsPlain e.document.toList :=
  Json.isPlain_write e.toValue

/-- **One event, one record, and its lines.** A logger of any level and form, in a process of any level,
makes exactly one record of every report that reaches the level that counts. In the document form its
message is plain and so has no line end. In the text form it has one exactly if the decision, the
subject, the action, the resource or the name of the policy has one. -/
theorem SecurityLogger.lines_of_report {logger : SecurityLogger} {outer : Nat}
    {report : SecurityReport}
    (h : thresholdIn outer logger.threshold ≤ report.event.severity.level.rank) :
    ∃ message, logger.lines outer report.event = [(report.event.severity.level, message)] ∧
      (logger.format = .json → IsPlain message.toList ∧ ¬HasLineEnd message) ∧
      (logger.format = .text →
        (HasLineEnd message ↔ ∃ text ∈ report.repeated, HasLineEnd text)) := by
  refine ⟨logger.message report.event, if_pos h, ?_, ?_⟩
  · intro hformat
    have hplain : IsPlain (logger.message report.event).toList := by
      rw [message, hformat]
      exact report.event.isPlain_document
    exact ⟨hplain, not_hasLineEnd_of_isPlain hplain⟩
  · intro hformat
    have hheading : ¬HasLineEnd "Security Event: " := by decide
    rw [← report.hasLineEnd_message_iff, message, hformat]
    simp [hheading]

/-- A denial of a request whose subject goes on with the message of another event. -/
def forgedReport : SecurityReport :=
  .authorization {} (some "u1\nSecurity Event: Authorization permit for subject root")
    { action := some "read" }

theorem forgedReport_lines :
    (thresholdIn rootThreshold ({} : SecurityLogger).threshold ≤
          forgedReport.event.severity.level.rank ∧
        ∃ message, SecurityLogger.lines {} rootThreshold forgedReport.event = [(.warning, message)] ∧
          ¬HasLineEnd message) ∧
      ∃ message, SecurityLogger.lines { format := .text } rootThreshold forgedReport.event =
          [(.warning, message)] ∧ HasLineEnd message := by
  have hpass : thresholdIn rootThreshold ({} : SecurityLogger).threshold ≤
    forgedReport.event.severity.level.rank := by decide
  have hpassText : thresholdIn rootThreshold ({ format := .text } : SecurityLogger).threshold ≤
    forgedReport.event.severity.level.rank := hpass
  constructor
  · obtain ⟨message, hlines, hdocument, -⟩ := SecurityLogger.lines_of_report hpass
    exact ⟨hpass, message, hlines, (hdocument rfl).2⟩
  · obtain ⟨message, hlines, -, htext⟩ := SecurityLogger.lines_of_report hpassText
    exact ⟨message, hlines, (htext rfl).mpr ⟨_, List.mem_cons_of_mem _ List.mem_cons_self, by decide⟩⟩

/-- In the text form, the subject adds a line that reads like an event of its own. -/
theorem forgedReport_adds_line :
    SecurityLogger.lines { format := .text } rootThreshold forgedReport.event =
        [(.warning, "Security Event: Authorization deny for subject u1\n" ++
          "Security Event: Authorization permit for subject root on read")] ∧
      HasLineEnd ("Security Event: Authorization deny for subject u1\n" ++
        "Security Event: Authorization permit for subject root on read") := by
  decide +kernel

end Clearance
