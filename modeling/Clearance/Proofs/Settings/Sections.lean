/-
# Sections of a configuration

A section is built from the options that are given for it. It is built exactly if what is given, with
the defaults filled in and the level of the log in capitals, are the options of the section, and no
number of it is refused. This is told once for all ways to build a section, so that a section is read
from a dictionary, and read again from its own options, by the same lemmas.
-/

import Clearance.Proofs.Ordered
import Clearance.Proofs.Text.Blank
import Clearance.Settings.Basic
import Mathlib.Data.List.Nodup

namespace Clearance

/-! ## Options of sections -/

/-- The options of the section for the cache. -/
def CacheSettings.options (c : CacheSettings) : Settings.Options :=
  [("enabled", c.enabled), ("max_size", c.maxSize.toValue), ("ttl_seconds", c.lifetime.toValue)]

/-- The options of the section for batches. -/
def BatchSettings.options (b : BatchSettings) : Settings.Options :=
  [("width", b.width.toValue), ("pause_seconds", b.pause.toValue)]

/-- The options of the section for the audit. -/
def AuditSettings.options (a : AuditSettings) : Settings.Options :=
  [("enabled", a.enabled), ("queue_size", a.queueSize.toValue),
    ("shutdown_timeout", a.shutdownTimeout.toValue)]

/-- The options of the section for security logging. -/
def LoggingSettings.options (l : LoggingSettings) : Settings.Options :=
  [("enabled", l.enabled), ("log_level", .text l.level.name), ("log_format", .text l.format.name),
    ("log_file", l.file), ("max_file_size", l.maxFileSize.toValue), ("backup_count", l.backupCount)]

/-- No number of the section for the cache is refused. -/
structure CacheSettings.IsAccepted (c : CacheSettings) : Prop where
  maxSize : c.maxSize.isBelow 1 = false
  lifetime : c.lifetime.isAtMost 0 = false

/-- No number of the section for batches is refused. -/
structure BatchSettings.IsAccepted (b : BatchSettings) : Prop where
  width : b.width.isBelow 1 = false
  pause : b.pause.isBelow 0 = false

/-- No number of the section for the audit is refused. -/
structure AuditSettings.IsAccepted (a : AuditSettings) : Prop where
  queueSize : a.queueSize.isBelow 1 = false
  shutdownTimeout : a.shutdownTimeout.isBelow 0 = false

/-- No number of the section for security logging is refused. -/
structure LoggingSettings.IsAccepted (l : LoggingSettings) : Prop where
  maxFileSize : l.maxFileSize.isBelow 1024 = false

namespace Settings

/-- What is given for each option, or else its default. -/
def filled (defaults given : Options) : Options :=
  defaults.map fun (name, default) => (name, option given name default)

/-- The options with the level of the log in capitals. -/
def levelled (options : Options) : Options :=
  options.map fun (name, value) =>
    (name, if name = "log_level" then .text (Text.upper value.plain) else value)

variable {options given defaults : Options} {name : String}

theorem option_of_mem (hnodup : (Ordered.keys options).Nodup) {value : Value}
    (h : (name, value) ∈ options) (default : Value) : option options name default = value := by
  rw [option, Ordered.get?_of_mem hnodup h, Option.getD_some]

/-- Nothing is filled in where every option is given. -/
theorem filled_eq_self (hkeys : Ordered.keys given = Ordered.keys defaults)
    (hnodup : (Ordered.keys defaults).Nodup) : filled defaults given = given := by
  have hgiven : (Ordered.keys given).Nodup := hkeys ▸ hnodup
  have hlength : given.length = defaults.length := by
    simpa [Ordered.keys] using congrArg List.length hkeys
  apply List.ext_getElem
  · rw [filled, List.length_map, hlength]
  · intro i hi hi'
    have hi : i < defaults.length := by simpa [filled] using hi
    have hname : given[i].1 = defaults[i].1 := by
      have hget := congrArg (·[i]?) hkeys
      simpa [Ordered.keys, hi, hi'] using hget
    have hvalue : option given given[i].1 defaults[i].2 = given[i].2 :=
      option_of_mem hgiven (List.getElem_mem hi') _
    simp only [filled, List.getElem_map, ← hname, hvalue]

/-! ## Steps of building -/

section Steps

variable {α β : Type}

theorem bind_eq_ok_iff {x : Except Fault α} {f : α → Except Fault β} {b : β} :
    (x >>= f) = .ok b ↔ ∃ a, x = .ok a ∧ f a = .ok b := by
  cases x with
  | error fault => exact ⟨nofun, fun ⟨_, h, _⟩ => nomatch h⟩
  | ok a => exact ⟨fun h => ⟨a, rfl, h⟩, fun ⟨_, rfl, h⟩ => h⟩

theorem reject_eq_ok_iff {bad : Bool} {message key : String} {u : Unit} :
    reject bad message key = .ok u ↔ bad = false := by
  cases bad with
  | false => exact iff_of_true rfl rfl
  | true => exact iff_of_false nofun nofun

theorem ofValue_eq_ok_iff {v : Value} {n : Number} : Number.ofValue v = .ok n ↔ v = n.toValue := by
  constructor
  · intro h
    cases v <;> cases h <;> rfl
  · rintro rfl
    cases n <;> rfl

theorem number_eq_ok_iff {default n : Number} :
    number options name default = .ok n ↔ option options name default.toValue = n.toValue :=
  ofValue_eq_ok_iff

end Steps

theorem find?_level_eq_some_iff {word : String} {level : LogLevel} :
    (LogLevel.all.find? fun l => l.name == word) = some level ↔ word = level.name := by
  constructor
  · intro h
    have hname := List.find?_some h
    exact (beq_iff_eq.mp hname).symm
  · rintro rfl
    cases level <;> decide

/-! ## Sections -/

/-- What it takes to build a section, and to read it again from its options. -/
structure Builds {α : Type} [Inhabited α] (build : Options → Except Fault α) (view : α → Options)
    (known : List String) (IsAccepted : α → Prop) : Prop where
  built_iff : ∀ given c, build given = .ok c ↔
    levelled (filled (view default) given) = view c ∧ IsAccepted c
  accepted_default : IsAccepted default
  keys : ∀ c, Ordered.keys (view c) = known
  nodup : known.Nodup
  levelled : ∀ c, levelled (view c) = view c

theorem cacheSection_builds : Builds cacheSection CacheSettings.options
    ["enabled", "max_size", "ttl_seconds"] CacheSettings.IsAccepted where
  built_iff given c := by
    have hview : levelled (filled (CacheSettings.options default) given) = c.options ↔
        option given "enabled" (.bool false) = c.enabled ∧
          option given "max_size" (.int 1000) = c.maxSize.toValue ∧
            option given "ttl_seconds" (.float 60.0) = c.lifetime.toValue := by
      simp [levelled, filled, CacheSettings.options, default, Number.toValue]
    rw [hview]
    simp only [cacheSection, bind_eq_ok_iff, number_eq_ok_iff, reject_eq_ok_iff]
    constructor
    · rintro ⟨maxSize, hmaxSize, -, hmaxSizeOk, lifetime, hlifetime, -, hlifetimeOk, hc⟩
      obtain rfl := Except.ok.inj hc
      exact ⟨⟨rfl, hmaxSize, hlifetime⟩, ⟨hmaxSizeOk, hlifetimeOk⟩⟩
    · rintro ⟨⟨henabled, hmaxSize, hlifetime⟩, ⟨hmaxSizeOk, hlifetimeOk⟩⟩
      refine ⟨c.maxSize, hmaxSize, (), hmaxSizeOk, c.lifetime, hlifetime, (), hlifetimeOk, ?_⟩
      rw [henabled]
      rfl
  accepted_default := ⟨by decide, by decide⟩
  keys c := rfl
  nodup := by decide
  levelled c := rfl

theorem batchSection_builds : Builds batchSection BatchSettings.options ["width", "pause_seconds"]
    BatchSettings.IsAccepted where
  built_iff given b := by
    have hview : levelled (filled (BatchSettings.options default) given) = b.options ↔
        option given "width" (.int 10) = b.width.toValue ∧
          option given "pause_seconds" (.float 0.0) = b.pause.toValue := by
      simp [levelled, filled, BatchSettings.options, default, Number.toValue]
    rw [hview]
    simp only [batchSection, bind_eq_ok_iff, number_eq_ok_iff, reject_eq_ok_iff]
    constructor
    · rintro ⟨width, hwidth, -, hwidthOk, pause, hpause, -, hpauseOk, hb⟩
      obtain rfl := Except.ok.inj hb
      exact ⟨⟨hwidth, hpause⟩, ⟨hwidthOk, hpauseOk⟩⟩
    · rintro ⟨⟨hwidth, hpause⟩, ⟨hwidthOk, hpauseOk⟩⟩
      exact ⟨b.width, hwidth, (), hwidthOk, b.pause, hpause, (), hpauseOk, rfl⟩
  accepted_default := ⟨by decide, by decide⟩
  keys b := rfl
  nodup := by decide
  levelled b := rfl

theorem auditSection_builds : Builds auditSection AuditSettings.options
    ["enabled", "queue_size", "shutdown_timeout"] AuditSettings.IsAccepted where
  built_iff given a := by
    have hview : levelled (filled (AuditSettings.options default) given) = a.options ↔
        option given "enabled" (.bool true) = a.enabled ∧
          option given "queue_size" (.int 1000) = a.queueSize.toValue ∧
            option given "shutdown_timeout" (.float 5.0) = a.shutdownTimeout.toValue := by
      simp [levelled, filled, AuditSettings.options, default, Number.toValue]
    rw [hview]
    simp only [auditSection, bind_eq_ok_iff, number_eq_ok_iff, reject_eq_ok_iff]
    constructor
    · rintro ⟨queueSize, hqueueSize, -, hqueueSizeOk, timeout, htimeout, -, htimeoutOk, ha⟩
      obtain rfl := Except.ok.inj ha
      exact ⟨⟨rfl, hqueueSize, htimeout⟩, ⟨hqueueSizeOk, htimeoutOk⟩⟩
    · rintro ⟨⟨henabled, hqueueSize, htimeout⟩, ⟨hqueueSizeOk, htimeoutOk⟩⟩
      refine ⟨a.queueSize, hqueueSize, (), hqueueSizeOk, a.shutdownTimeout, htimeout, (),
        htimeoutOk, ?_⟩
      rw [henabled]
      rfl
  accepted_default := ⟨by decide, by decide⟩
  keys a := rfl
  nodup := by decide
  levelled a := rfl

/-! ## The section for security logging -/

/-- What integers, sequences and dictionaries begin with when they are written. -/
def marks : List Char := "-0123456789[(\x7b".toList

theorem upper_ne_name {s : String} {c : Char} (hc : c ∈ marks) (hs : s.toList.head? = some c)
    (level : LogLevel) : Text.upper s ≠ level.name := by
  intro hname
  obtain ⟨rest, hs⟩ := List.head?_eq_some_iff.mp hs
  have hmarks : marks.all fun c => Text.upperChar c == [c] := by decide +kernel
  have hupper : Text.upperChar c = [c] := beq_iff_eq.mp (List.all_eq_true.mp hmarks c hc)
  have hhead : (Text.upper s).toList.head? = some c := by
    rw [Text.upper, String.toList_ofList, hs, List.flatMap_cons, hupper]
    rfl
  have hletters : marks.all fun c => level.name.toList.head? != some c := by
    cases level <;> decide
  rw [hname] at hhead
  exact bne_iff_ne.mp (List.all_eq_true.mp hletters c hc) hhead

theorem mem_marks_of_isDigit {c : Char} (h : c.isDigit = true) : c ∈ marks := by
  have hcode : c.toNat ≤ 57 := by
    simp only [Char.isDigit, ge_iff_le, UInt32.le_iff_toNat_le, Bool.and_eq_true,
      decide_eq_true_eq] at h
    exact h.2
  have hdigits : ∀ n < 128, (Char.ofNat n).isDigit = true → Char.ofNat n ∈ marks := by
    decide +kernel
  exact Text.forall_ascii (P := fun c => c.isDigit = true → c ∈ marks) hdigits (by omega) h

theorem exists_mark_int (n : Int) : ∃ c ∈ marks, (toString n).toList.head? = some c := by
  rw [Int.toString_eq_repr, Int.repr_eq_if]
  split
  · rw [Nat.repr_eq_ofList_toDigits, String.toList_ofList]
    cases hdigits : Nat.toDigits 10 n.toNat with
    | nil => exact absurd hdigits Nat.toDigits_ne_nil
    | cons c rest =>
        have hdigit : c.isDigit :=
          Nat.isDigit_of_mem_toDigits (b := 10) (n := n.toNat) (by decide) (by decide)
            (hdigits ▸ List.mem_cons_self)
        exact ⟨c, mem_marks_of_isDigit hdigit, rfl⟩
  · exact ⟨'-', by decide, by rw [String.toList_append]; rfl⟩

/-- A value that is too long or too deep to be written would begin with a mark. -/
theorem exists_mark_of_plainFault? {v : Value} (h : v.plainFault? ≠ none) :
    ∃ c ∈ marks, v.plain.toList.head? = some c := by
  cases v with
  | null | bool _ | float _ | text _ | moment _ => exact absurd rfl h
  | int n => exact exists_mark_int n
  | list items => exact ⟨'[', by decide, by simp [Value.plain, Value.literal]⟩
  | tuple items =>
      refine ⟨'(', by decide, ?_⟩
      match items with
      | [] | [_] | _ :: _ :: _ => simp [Value.plain, Value.literal]
  | set items =>
      match items with
      | [] => exact absurd rfl h
      | _ :: _ => exact ⟨'\x7b', by decide, by simp [Value.plain, Value.literal]⟩
  | dict entries => exact ⟨'\x7b', by decide, by simp [Value.plain, Value.literal]⟩

theorem logLevel_eq_ok_iff {v : Value} {level : LogLevel} :
    logLevel v = .ok level ↔ Text.upper v.plain = level.name := by
  by_cases hwritten : v.plainFault? = none
  · have hplained : v.plained = .ok v.plain := by rw [Value.plained, hwritten]
    rw [logLevel, hplained, ← find?_level_eq_some_iff]
    simp only [bind, Except.bind]
    cases LogLevel.all.find? fun l => l.name == Text.upper v.plain with
    | none => simp [refuse]
    | some found => simp [pure, Except.pure]
  · refine iff_of_false (fun h => ?_) fun hname => ?_
    · obtain ⟨fault, hfault⟩ := Option.ne_none_iff_exists'.mp hwritten
      rw [logLevel, Value.plained, hfault] at h
      cases h
    · obtain ⟨c, hc, hs⟩ := exists_mark_of_plainFault? hwritten
      exact upper_ne_name hc hs level hname

theorem logFormat_eq_ok_iff {v : Value} {format : LogFormat} :
    logFormat v = .ok format ↔ v = .text format.name := by
  constructor
  · intro h
    simp only [logFormat] at h
    split at h
    · cases h
      rfl
    · cases h
      rfl
    · cases hplained : Value.plained v with
      | error fault => rw [hplained] at h; cases h
      | ok word => rw [hplained] at h; cases h
  · rintro rfl
    cases format <;> rfl

theorem loggingSection_builds : Builds loggingSection LoggingSettings.options
    ["enabled", "log_level", "log_format", "log_file", "max_file_size", "backup_count"]
    LoggingSettings.IsAccepted where
  built_iff given l := by
    have hview : levelled (filled (LoggingSettings.options default) given) = l.options ↔
        option given "enabled" (.bool true) = l.enabled ∧
          Text.upper (option given "log_level" (.text "INFO")).plain = l.level.name ∧
            option given "log_format" (.text "json") = .text l.format.name ∧
              option given "log_file" .null = l.file ∧
                option given "max_file_size" (.int 10485760) = l.maxFileSize.toValue ∧
                  option given "backup_count" (.int 5) = l.backupCount := by
      simp [levelled, filled, LoggingSettings.options, default, Number.toValue, LogLevel.name,
        LogFormat.name]
    rw [hview]
    simp only [loggingSection, bind_eq_ok_iff, logLevel_eq_ok_iff, logFormat_eq_ok_iff,
      number_eq_ok_iff, reject_eq_ok_iff]
    constructor
    · rintro ⟨level, hlevel, format, hformat, maxFileSize, hmaxFileSize, -, hmaxFileSizeOk, hl⟩
      obtain rfl := Except.ok.inj hl
      exact ⟨⟨rfl, hlevel, hformat, rfl, hmaxFileSize, rfl⟩, ⟨hmaxFileSizeOk⟩⟩
    · rintro ⟨⟨henabled, hlevel, hformat, hfile, hmaxFileSize, hbackupCount⟩, ⟨hmaxFileSizeOk⟩⟩
      refine ⟨l.level, hlevel, l.format, hformat, l.maxFileSize, hmaxFileSize, (), hmaxFileSizeOk, ?_⟩
      rw [henabled, hfile, hbackupCount]
      rfl
  accepted_default := ⟨by decide⟩
  keys l := rfl
  nodup := by decide
  levelled l := by
    have hlevel : Text.upper l.level.name = l.level.name := by cases l.level <;> decide
    simp [Settings.levelled, LoggingSettings.options, Value.plain, hlevel]

end Settings

end Clearance
