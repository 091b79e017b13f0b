/-
# Refused changes of the logger

A change of the logger takes the handlers of the current one away before it is known whether there will
be a new one. If the change is refused, the current logger stays without handlers of its own. Where the
file is what cannot be had, even the threshold is already the new one. What is logged from then on
reaches at most what the process has for everything, or its last resort.
-/

import Clearance.Security.Logger
import Mathlib.Tactic.ByContra

namespace Clearance

/-- What is critical reaches every threshold that can be given. -/
theorem le_critical_of_mem_thresholds : ∀ word ∈ thresholds, word.2 ≤ LogLevel.critical.rank := by
  decide

theorem SecurityLogger.threshold_le_of_create {level format : String} {logger : SecurityLogger}
    (h : create level format = .ok logger) : logger.threshold ≤ LogLevel.critical.rank := by
  simp only [create] at h
  cases hfound : thresholds.lookup (Text.upper level) with
  | none =>
      rw [hfound] at h
      cases h
  | some threshold =>
      obtain ⟨before, after, hsplit, -⟩ := List.lookup_eq_some_iff.mp hfound
      have hmem : (Text.upper level, threshold) ∈ thresholds := by
        rw [hsplit]
        exact List.mem_append_right before List.mem_cons_self
      rw [hfound] at h
      dsimp only at h
      split at h
      · cases h
        exact le_critical_of_mem_thresholds _ hmem
      · split at h
        · cases h
          exact le_critical_of_mem_thresholds _ hmem
        · cases h

namespace LoggerRegistry

variable {r : LoggerRegistry} {request : LoggerRequest} {fault : Fault}

/-! ## The loggers of a process -/

/-- The states that the loggers of a process get into. -/
inductive IsReached : LoggerRegistry → Prop
  | start : IsReached {}
  | get {r : LoggerRegistry} (h : IsReached r) : IsReached r.get.2
  | configure {r : LoggerRegistry} (h : IsReached r) (request : LoggerRequest) :
      IsReached (r.configure request).2
  | shutdown {r : LoggerRegistry} (h : IsReached r) : IsReached r.shutdown

/-- There are handlers only if there is a current logger, and what is critical reaches them all. -/
structure IsSound (r : LoggerRegistry) : Prop where
  held : r.current = none → r.held = []
  threshold : r.threshold ≤ LogLevel.critical.rank
  thresholds : ∀ handler ∈ r.held, handler.threshold ≤ LogLevel.critical.rank

/-- What can come of making a logger: it is refused before anything was done, it is refused when the
handlers have been taken away, or it is there with its handlers. -/
theorem install_cases (r : LoggerRegistry) (request : LoggerRequest) :
    (∃ fault, SecurityLogger.create request.level request.format = .error fault ∧
        r.install request = (.error fault, r)) ∨
      ∃ logger, SecurityLogger.create request.level request.format = .ok logger ∧
        ((∃ fault, r.install request =
            (.error fault, { r with threshold := logger.threshold, held := [] })) ∨
          r.install request = (.ok (r.next, logger), {
            current := some (r.next, logger)
            next := r.next + 1
            threshold := logger.threshold
            held := request.handlers logger })) := by
  simp only [install]
  cases hcreate : SecurityLogger.create request.level request.format with
  | error fault => exact .inl ⟨fault, rfl, rfl⟩
  | ok logger =>
      refine .inr ⟨logger, rfl, ?_⟩
      cases request.file.bind LogFile.refusal with
      | some reason => exact .inl ⟨_, rfl⟩
      | none => exact .inr rfl

namespace IsSound

theorem install (hr : r.IsSound) (request : LoggerRequest) : (r.install request).2.IsSound := by
  rcases r.install_cases request with
    ⟨fault, -, hinstall⟩ | ⟨logger, hcreate, hinstall⟩
  · rw [hinstall]
    exact hr
  have hthreshold := SecurityLogger.threshold_le_of_create hcreate
  rcases hinstall with ⟨fault, hinstall⟩ | hinstall
  · rw [hinstall]
    exact ⟨fun _ => rfl, hthreshold, nofun⟩
  · rw [hinstall]
    refine ⟨nofun, hthreshold, fun handler hhandler => ?_⟩
    -- Each handler has the threshold of the logger.
    have hsame : handler.threshold = logger.threshold := by
      simp only [LoggerRequest.handlers, List.mem_append, List.mem_map] at hhandler
      rcases hhandler with ⟨file, -, rfl⟩ | hconsole
      · rfl
      · split at hconsole
        · rw [List.mem_singleton.mp hconsole]
        · cases hconsole
    rw [hsame]
    exact hthreshold

theorem silence (hr : r.IsSound) : r.silence.IsSound := by
  simp only [LoggerRegistry.silence]
  split
  · exact ⟨fun _ => rfl, hr.threshold, nofun⟩
  · exact hr

end IsSound

theorem held_silence (hr : r.IsSound) : r.silence.held = [] := by
  simp only [silence]
  split
  · rfl
  · rename_i hcurrent
    exact hr.held (by simpa using hcurrent)

theorem IsReached.isSound (h : r.IsReached) : r.IsSound := by
  induction h with
  | start => exact ⟨fun _ => rfl, Nat.zero_le _, nofun⟩
  | @get r _ ih =>
      simp only [LoggerRegistry.get]
      cases r.current with
      | none => exact ih.install {}
      | some logger => exact ih
  | configure _ request ih => exact ih.silence.install request
  | shutdown _ ih => exact ⟨fun _ => held_silence ih, ih.silence.threshold, ih.silence.thresholds⟩

/-! ## Reaching handlers -/

end LoggerRegistry

/-- The handler of the logger that a recipient is, if it is one. -/
def LogRecipient.own? : LogRecipient → Option LogHandler
  | own handler => some handler
  | outer _ | lastResort => none

theorem LogProcess.filterMap_own?_recipients (p : LogProcess) (held : List LogHandler) (rank : Nat) :
    (p.recipients held rank).filterMap LogRecipient.own? =
      held.filter (·.threshold ≤ rank) := by
  simp only [recipients]
  split
  · rename_i hnone
    rw [Bool.and_eq_true, List.isEmpty_iff] at hnone
    rw [hnone.1]
    split <;> rfl
  · have hown : LogRecipient.own? ∘ LogRecipient.own = some := rfl
    have houter : ((p.handlers.filter (·.threshold ≤ rank)).map LogRecipient.outer).filterMap
        LogRecipient.own? = [] := by
      rw [List.filterMap_map]
      exact List.filterMap_eq_nil_iff.mpr fun _ _ => rfl
    rw [List.filterMap_append, List.filterMap_map, hown, List.filterMap_some, houter,
      List.append_nil]

/-- The threshold that is left when a logger is refused: the one that was asked for if only the file
cannot be had, and else the old one. -/
def LoggerRequest.refusedThreshold (request : LoggerRequest) (old : Nat) : Nat :=
  match SecurityLogger.create request.level request.format with
  | .ok logger => logger.threshold
  | .error _ => old

namespace LoggerRegistry

variable {r : LoggerRegistry} {request : LoggerRequest} {fault : Fault}

/-- The handlers of its own that an event reaches which is logged through the current logger. -/
def reached (r : LoggerRegistry) (p : LogProcess) (e : SecurityEvent) : List LogHandler :=
  (r.deliver p e).filterMap (·.1.own?)

theorem reached_eq (r : LoggerRegistry) (p : LogProcess) (e : SecurityEvent) :
    r.reached p e =
      if r.current.isSome ∧ thresholdIn p.threshold r.threshold ≤ e.severity.level.rank then
        r.held.filter (·.threshold ≤ e.severity.level.rank)
      else [] := by
  rw [reached, deliver]
  cases r.current with
  | none => rfl
  | some current =>
      simp only [Option.isSome_some, true_and]
      split
      · rw [List.filterMap_map]
        exact p.filterMap_own?_recipients r.held _
      · rfl

/-- In a reached state, what is critical tells whether there are handlers. -/
theorem reached_eq_nil_iff (hr : r.IsSound) :
    (∀ p e, r.reached p e = []) ↔ r.held = [] := by
  constructor
  · intro hnone
    by_contra hsome
    have hcurrent : r.current.isSome := by
      rw [Option.isSome_iff_ne_none]
      exact fun hcurrent => hsome (hr.held hcurrent)
    have hpasses : thresholdIn rootThreshold r.threshold ≤ LogLevel.critical.rank := by
      rw [thresholdIn]
      split
      · decide
      · exact hr.threshold
    have hall : r.held.filter (·.threshold ≤ LogLevel.critical.rank) = r.held :=
      List.filter_eq_self.mpr fun handler hhandler => by simpa using hr.thresholds handler hhandler
    have hcritical := hnone {} { severity := .critical }
    rw [reached_eq, if_pos ⟨hcurrent, hpasses⟩] at hcritical
    exact hsome (hall.symm.trans hcritical)
  · intro hnone p e
    rw [reached_eq, hnone]
    split <;> rfl

/-! ## Refusals -/

/-- A refused change keeps the current logger, takes its handlers away, and may leave the threshold that
was asked for. -/
theorem configure_of_error (hr : r.IsSound) (h : (r.configure request).1 = .error fault) :
    (r.configure request).2 =
      { r with threshold := request.refusedThreshold r.threshold, held := [] } := by
  have hsilence : r.silence = { r with held := [] } := by
    rw [← held_silence hr]
    simp only [silence]
    split <;> rfl
  rw [configure] at h ⊢
  rw [LoggerRequest.refusedThreshold]
  rcases r.silence.install_cases request with
    ⟨fault', hcreate, hinstall⟩ | ⟨logger, hcreate, ⟨fault', hinstall⟩ | hinstall⟩
  · rw [hinstall, hcreate]
    exact hsilence
  · rw [hinstall, hcreate, hsilence]
  · rw [hinstall] at h
    cases h

/-- **A refused change silences the logger.** In every state that the loggers of a process get into, a
change that is refused keeps the current logger with its form, but takes its handlers away, so nothing
that is logged through it reaches a handler of its own, in whatever process; it was the same before only
if there were no handlers. The shared threshold is as it was if the level or the form was refused, and
the new one if the file was. So all is as it was exactly if there were no handlers and the threshold is
not another one. -/
theorem configure_refused (hr : r.IsReached) (h : (r.configure request).1 = .error fault) :
    (r.configure request).2 =
        { r with threshold := request.refusedThreshold r.threshold, held := [] } ∧
      (∀ p e, (r.configure request).2.reached p e = []) ∧
      ((∀ p e, r.reached p e = []) ↔ r.held = []) ∧
      ((r.configure request).2 = r ↔
        r.held = [] ∧ request.refusedThreshold r.threshold = r.threshold) := by
  have hleft := configure_of_error hr.isSound h
  refine ⟨hleft, fun p e => ?_, reached_eq_nil_iff hr.isSound, ?_⟩
  · rw [hleft, reached_eq]
    split <;> rfl
  · rw [hleft]
    constructor
    · intro hsame
      exact ⟨(congrArg held hsame).symm, congrArg threshold hsame⟩
    · rintro ⟨hheld, hthreshold⟩
      rw [hthreshold, ← hheld]

/-- A logger of errors in the text form. -/
def errorLogger : LoggerRegistry := (configure {} { level := "error", format := "text" }).2

/-- A change to a file that cannot be opened, and to another level. -/
def lostFile : LoggerRequest := { level := "debug", file := some ⟨"/x/log", some "no such disk"⟩ }

theorem errorLogger_refused :
    (errorLogger.configure lostFile).2 = { errorLogger with threshold := 10, held := [] } ∧
      (∀ p e, (errorLogger.configure lostFile).2.reached p e = []) ∧
      (errorLogger.configure lostFile).2 ≠ errorLogger := by
  have hrefused : (errorLogger.configure lostFile).1 = .error (.failure (.configuration
      ("Failed to setup security log file: " ++ "no such disk") (some "log_file"))) := rfl
  obtain ⟨hleft, hreached, -, hsame⟩ :=
    configure_refused (.configure .start { level := "error", format := "text" }) hrefused
  refine ⟨hleft, hreached, fun hequal => ?_⟩
  exact List.cons_ne_nil _ _ (hsame.mp hequal).1

/-- The standard logger loses its console when it is to get a level that does not exist: what is
critical goes to the last resort, and what is not goes nowhere. -/
theorem standardLogger_silenced :
    let standard := (get {}).2
    standard.current = some (0, ⟨20, .json⟩) ∧ standard.held = [⟨none, 20, .json⟩] ∧
      (standard.configure { level := "nope" }).1 =
        .error (.failure (.configuration "Invalid log level: nope" (some "log_level"))) ∧
      (standard.configure { level := "nope" }).2 = { standard with held := [] } ∧
      (standard.deliver {} {}).map (·.1) = [.own ⟨none, 20, .json⟩] ∧
      (standard.configure { level := "nope" }).2.deliver {} {} = [] ∧
      ((standard.configure { level := "nope" }).2.deliver {} { severity := .critical }).map (·.1) =
        [.lastResort] :=
  ⟨rfl, rfl, rfl, rfl, rfl, rfl, rfl⟩

end LoggerRegistry

end Clearance
