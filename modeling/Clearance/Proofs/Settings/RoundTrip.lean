/-
# Configurations as dictionaries

A configuration is built from a dictionary exactly if the keys are known, the sections are
dictionaries of known keys, and no number is refused; and then it is what the dictionary gives,
completed by the defaults. This leaves out in which order the checks are made, so the dictionary of a
configuration, which needs no completion, is seen to give it again.
-/

import Clearance.Proofs.Settings.Sections

namespace Clearance.Settings

variable {entries : List (Value × Value)} {options : Options} {known : List String} {name : String}

/-! ## Keys -/

/-- What a dictionary has under texts. -/
def textEntries (entries : List (Value × Value)) : Options :=
  entries.filterMap fun entry =>
    match entry.1 with
    | .text key => some (key, entry.2)
    | _ => none

/-- Every key of a dictionary is a known text. -/
def HasOnly (known : List String) (entries : List (Value × Value)) : Prop :=
  ∀ e ∈ entries, ∃ key ∈ known, e.1 = .text key

/-- The options as the entries of a dictionary. -/
def asEntries (options : Options) : List (Value × Value) :=
  options.map fun (name, value) => (.text name, value)

@[simp]
theorem textEntries_asEntries (options : Options) : textEntries (asEntries options) = options := by
  induction options with
  | nil => rfl
  | cons entry rest ih => exact congrArg (entry :: ·) ih

theorem ofFields_inj {options' : Options} :
    Value.ofFields options = .ofFields options' ↔ options = options' := by
  constructor
  · intro h
    have hentries : asEntries options = asEntries options' := Value.dict.inj h
    rw [← textEntries_asEntries options, hentries, textEntries_asEntries]
  · rintro rfl
    rfl

theorem hasOnly_asEntries (h : ∀ key ∈ Ordered.keys options, key ∈ known) :
    HasOnly known (asEntries options) := by
  intro e he
  obtain ⟨entry, hentry, rfl⟩ := List.mem_map.mp he
  exact ⟨entry.1, h entry.1 (List.mem_map_of_mem hentry), rfl⟩

theorem textKeys?_asEntries (options : Options) : textKeys? (asEntries options) = some options := by
  induction options with
  | nil => rfl
  | cons entry rest ih =>
      change (textKeys? (asEntries rest)).map _ = _
      rw [ih]
      rfl

theorem eq_asEntries_of_textKeys? (h : textKeys? entries = some options) :
    entries = asEntries options := by
  induction entries generalizing options with
  | nil =>
      obtain rfl := Option.some.inj h
      rfl
  | cons entry rest ih =>
      obtain ⟨key, value⟩ := entry
      cases key with
      | text key =>
          obtain ⟨more, hmore, rfl⟩ := Option.map_eq_some_iff.mp h
          rw [ih hmore]
          rfl
      | _ => cases h

theorem HasOnly.eq_asEntries (h : HasOnly known entries) :
    entries = asEntries (textEntries entries) := by
  induction entries with
  | nil => rfl
  | cons entry rest ih =>
      obtain ⟨key, value⟩ := entry
      obtain ⟨⟨word, -, hword⟩, hrest⟩ := List.forall_mem_cons.mp h
      obtain rfl : key = .text word := hword
      exact congrArg (_ :: ·) (ih hrest)

/-- A dictionary gives options if it has known keys only, and then all that it has under them. -/
theorem knownOptions_eq_ok_iff {what : String} {key : Option String} :
    knownOptions what key known entries = .ok options ↔
      HasOnly known entries ∧ options = textEntries entries := by
  simp only [knownOptions]
  constructor
  · intro h
    cases htext : textKeys? entries with
    | none =>
        rw [htext] at h
        cases h
    | some given =>
        rw [htext] at h
        dsimp only at h
        split at h
        next hunknown =>
          obtain rfl := Except.ok.inj h
          obtain rfl := eq_asEntries_of_textKeys? htext
          refine ⟨hasOnly_asEntries ?_, (textEntries_asEntries given).symm⟩
          simpa [Ordered.keys] using hunknown
        next => cases h
  · rintro ⟨hknown, rfl⟩
    have hentries := hknown.eq_asEntries
    generalize textEntries entries = given at hentries
    subst hentries
    rw [textKeys?_asEntries]
    have hunknown : ((given.map (·.1)).filter fun k => !known.contains k).isEmpty = true := by
      rw [List.isEmpty_iff, List.filter_eq_nil_iff]
      intro key hkey
      obtain ⟨entry, hentry, rfl⟩ := List.mem_map.mp hkey
      obtain ⟨word, hword, heq⟩ := hknown _ (List.mem_map_of_mem hentry)
      obtain rfl := Value.text.inj heq
      simpa using hword
    dsimp only
    rw [if_pos hunknown]

/-! ## Sections of a dictionary -/

/-- A value is a dictionary of known keys. -/
def IsSection (known : List String) (v : Value) : Prop :=
  ∃ entries, v = .dict entries ∧ HasOnly known entries

/-- What is given for a section. -/
def givenFor (name : String) (options : Options) : Options :=
  match Ordered.get? name options with
  | some (.dict entries) => textEntries entries
  | _ => []

theorem filled_nil (defaults : Options) : filled defaults [] = defaults := by
  simp [filled, option]

section Sections

variable {α : Type} [Inhabited α] {build : Options → Except Fault α} {view : α → Options}
  {IsAccepted : α → Prop}

theorem Builds.build_nil (h : Builds build view known IsAccepted) : build [] = .ok default := by
  rw [h.built_iff, filled_nil, h.levelled]
  exact ⟨rfl, h.accepted_default⟩

theorem Builds.levelled_filled_view (h : Builds build view known IsAccepted) (c : α) :
    Settings.levelled (filled (view default) (view c)) = view c := by
  have hkeys : Ordered.keys (view c) = Ordered.keys (view default) := (h.keys c).trans (h.keys _).symm
  have hnodup : (Ordered.keys (view default)).Nodup := h.keys default ▸ h.nodup
  rw [filled_eq_self hkeys hnodup, h.levelled]

/-- A section is read if it is missing or a dictionary of known keys, and then it is built of what is
given for it. -/
theorem Builds.readSection_eq_ok_iff (h : Builds build view known IsAccepted) {c : α} :
    readSection options name known build = .ok c ↔
      (∀ v, Ordered.get? name options = some v → IsSection known v) ∧
        Settings.levelled (filled (view default) (givenFor name options)) = view c ∧
          IsAccepted c := by
  rw [← h.built_iff]
  simp only [readSection, givenFor]
  cases hget : Ordered.get? name options with
  | none =>
      dsimp only
      rw [h.build_nil]
      have hmissing : ∀ v, none = some v → IsSection known v := fun v hv =>
        absurd hv.symm (Option.some_ne_none v)
      exact (and_iff_right hmissing).symm
  | some v =>
      simp only [Option.some.injEq, forall_eq']
      cases v with
      | dict entries =>
          dsimp only
          rw [bind_eq_ok_iff]
          constructor
          · rintro ⟨given, hgiven, hc⟩
            obtain ⟨hknown, rfl⟩ := knownOptions_eq_ok_iff.mp hgiven
            exact ⟨⟨entries, rfl, hknown⟩, hc⟩
          · rintro ⟨⟨entries', heq, hknown⟩, hc⟩
            obtain rfl := Value.dict.inj heq
            exact ⟨_, knownOptions_eq_ok_iff.mpr ⟨hknown, rfl⟩, hc⟩
      | _ =>
          constructor
          · intro hread
            cases hread
          · rintro ⟨⟨_, hdict, -⟩, -⟩
            cases hdict

end Sections

/-! ## The whole -/

/-- The options at the top, apart from the sections. -/
def topOptions (s : Settings) : Options :=
  [("role_attributes_override", s.roleOverrides), ("strict_rule_references", s.strictReferences),
    ("validate_operators", s.validateOperators),
    ("request_timeout", (s.requestTimeout.map Number.toValue).getD .null),
    ("database_url", s.databaseUrl)]

/-- The options of the sections. -/
def sections (s : Settings) : List (String × Options) :=
  [("cache", s.cache.options), ("batch", s.batch.options), ("audit", s.audit.options),
    ("logging", s.logging.options)]

theorem topOptions_default : topOptions default =
    [("role_attributes_override", .bool true), ("strict_rule_references", .bool false),
      ("validate_operators", .bool false), ("request_timeout", .null), ("database_url", .null)] :=
  rfl

theorem sections_default : sections default =
    [("cache", CacheSettings.options default), ("batch", BatchSettings.options default),
      ("audit", AuditSettings.options default), ("logging", LoggingSettings.options default)] :=
  rfl

/-- All options, those of each section as one dictionary. -/
def fields (s : Settings) : Options :=
  s.topOptions ++ s.sections.map fun (name, options) => (name, .ofFields options)

theorem toValue_eq (s : Settings) : s.toValue = .ofFields s.fields := rfl

theorem keys_fields (s : Settings) : Ordered.keys s.fields = topKeys := rfl

/-- The keys are known, and what stands under the name of a section is a dictionary of known keys. -/
structure IsWellFormed (entries : List (Value × Value)) : Prop where
  keys : HasOnly topKeys entries
  sections : ∀ part ∈ sections default, ∀ v, Ordered.get? part.1 (textEntries entries) = some v →
    IsSection (Ordered.keys part.2) v

/-- Every option with what a dictionary gives for it, or else its default. -/
def completed (entries : List (Value × Value)) : Value :=
  .ofFields (filled (topOptions default) (textEntries entries) ++
    (sections default).map fun (name, defaults) =>
      (name, .ofFields (levelled (filled defaults (givenFor name (textEntries entries))))))

/-- No number of the configuration is refused. -/
structure IsAccepted (s : Settings) : Prop where
  cache : s.cache.IsAccepted
  batch : s.batch.IsAccepted
  audit : s.audit.IsAccepted
  logging : s.logging.IsAccepted
  requestTimeout : ∀ n ∈ s.requestTimeout, n.isAtMost 0 = false

section Timeout

variable {v : Value} {rest : Option Number → Except Fault Settings} {s : Settings}

theorem givenTimeout_eq_ok_iff :
    (do
      let n ← Number.ofValue v
      reject (n.isAtMost 0) "request_timeout must be positive" "request_timeout"
      let requestTimeout ← pure (some n)
      rest requestTimeout) = .ok s ↔
      ∃ n : Number, v = n.toValue ∧ n.isAtMost 0 = false ∧ rest (some n) = .ok s := by
  simp only [bind_eq_ok_iff, ofValue_eq_ok_iff, reject_eq_ok_iff]
  constructor
  · rintro ⟨n, hv, -, hn, _, hsome, hrest⟩
    obtain rfl := Except.ok.inj hsome
    exact ⟨n, hv, hn, hrest⟩
  · rintro ⟨n, hv, hn, hrest⟩
    exact ⟨n, hv, (), hn, some n, rfl, hrest⟩

/-- A timeout is read if it is missing or a number that is not refused. -/
theorem timeout_eq_ok_iff :
    (match v with
      | .null => (.ok none : Except Fault (Option Number)) >>= rest
      | v => do
        let n ← Number.ofValue v
        reject (n.isAtMost 0) "request_timeout must be positive" "request_timeout"
        let requestTimeout ← pure (some n)
        rest requestTimeout) = .ok s ↔
      ∃ timeout : Option Number, v = (timeout.map Number.toValue).getD .null ∧
        (∀ n ∈ timeout, n.isAtMost 0 = false) ∧ rest timeout = .ok s := by
  constructor
  · intro h
    split at h
    next => exact ⟨none, rfl, nofun, h⟩
    next =>
      obtain ⟨n, rfl, hn, hrest⟩ := givenTimeout_eq_ok_iff.mp h
      refine ⟨some n, rfl, ?_, hrest⟩
      rintro _ ⟨⟩
      exact hn
  · rintro ⟨timeout, rfl, hok, hrest⟩
    cases timeout with
    | none => exact hrest
    | some n =>
        have hn : n.isAtMost 0 = false := hok n rfl
        -- The kind of the number decides the case of the match.
        cases n <;> exact givenTimeout_eq_ok_iff.mpr ⟨_, rfl, hn, hrest⟩

end Timeout

theorem completed_eq_toValue_iff {s : Settings} : completed entries = s.toValue ↔
    filled (topOptions default) (textEntries entries) = s.topOptions ∧
      (sections default).map (fun part =>
        (part.1, levelled (filled part.2 (givenFor part.1 (textEntries entries))))) = s.sections := by
  rw [completed, toValue_eq, ofFields_inj]
  constructor
  · intro h
    obtain ⟨htop, hsections⟩ := List.append_inj h rfl
    refine ⟨htop, ?_⟩
    simpa [sections, ofFields_inj] using hsections
  · rintro ⟨htop, hsections⟩
    rw [htop, fields, ← hsections, List.map_map]
    rfl

/-- Which configuration is built from a dictionary, if any, without the order of the checks. -/
theorem ofEntries_eq_ok_iff {s : Settings} :
    ofEntries entries = .ok s ↔
      IsWellFormed entries ∧ completed entries = s.toValue ∧ s.IsAccepted := by
  rw [completed_eq_toValue_iff]
  simp only [ofEntries, bind_eq_ok_iff, knownOptions_eq_ok_iff,
    cacheSection_builds.readSection_eq_ok_iff, batchSection_builds.readSection_eq_ok_iff,
    auditSection_builds.readSection_eq_ok_iff, loggingSection_builds.readSection_eq_ok_iff]
  constructor
  · rintro ⟨_, ⟨hkeys, rfl⟩, cache, ⟨hcacheForm, hcache, hcacheOk⟩,
      batch, ⟨hbatchForm, hbatch, hbatchOk⟩, audit, ⟨hauditForm, haudit, hauditOk⟩,
      logging, ⟨hloggingForm, hlogging, hloggingOk⟩, h⟩
    obtain ⟨timeout, htimeout, htimeoutOk, hs⟩ := timeout_eq_ok_iff.mp h
    obtain rfl := Except.ok.inj hs
    refine ⟨⟨hkeys, ?_⟩, ⟨?_, ?_⟩, ⟨hcacheOk, hbatchOk, hauditOk, hloggingOk, htimeoutOk⟩⟩
    · simp only [sections_default, List.forall_mem_cons]
      exact ⟨hcacheForm, hbatchForm, hauditForm, hloggingForm, List.forall_mem_nil _⟩
    · simp only [topOptions_default, filled, List.map_cons, List.map_nil, htimeout]
      rfl
    · simp only [sections_default, List.map_cons, hcache, hbatch, haudit, hlogging, List.map_nil]
      rfl
  · rintro ⟨⟨hkeys, hforms⟩, ⟨htop, hsections⟩, hok⟩
    simp only [sections_default, List.forall_mem_cons] at hforms
    obtain ⟨hcacheForm, hbatchForm, hauditForm, hloggingForm, -⟩ := hforms
    simp only [sections, List.map_cons, List.map_nil, List.cons.injEq, Prod.mk.injEq, true_and,
      and_true] at hsections
    obtain ⟨hcache, hbatch, haudit, hlogging⟩ := hsections
    rw [topOptions_default] at htop
    simp only [filled, topOptions, List.map_cons, List.map_nil, List.cons.injEq, Prod.mk.injEq,
      true_and, and_true] at htop
    obtain ⟨hrole, hstrict, hvalidate, htimeout, hdatabase⟩ := htop
    refine ⟨_, ⟨hkeys, rfl⟩, s.cache, ⟨hcacheForm, hcache, hok.cache⟩,
      s.batch, ⟨hbatchForm, hbatch, hok.batch⟩, s.audit, ⟨hauditForm, haudit, hok.audit⟩,
      s.logging, ⟨hloggingForm, hlogging, hok.logging⟩, ?_⟩
    refine timeout_eq_ok_iff.mpr ⟨s.requestTimeout, htimeout, hok.requestTimeout, ?_⟩
    rw [hrole, hstrict, hvalidate, hdatabase]
    rfl

theorem ofValue_dict : ofValue (.dict entries) = ofEntries entries := by
  cases entries with
  | nil => rfl
  | cons entry rest => rfl

/-! ## The own dictionary -/

theorem isWellFormed_fields (s : Settings) : IsWellFormed (asEntries s.fields) where
  keys := hasOnly_asEntries fun _ hkey => keys_fields s ▸ hkey
  sections := by
    rw [textEntries_asEntries]
    simp only [sections_default, List.forall_mem_cons]
    refine ⟨?_, ?_, ?_, ?_, List.forall_mem_nil _⟩
    all_goals
      intro v hv
      obtain rfl := Option.some.inj hv
      exact ⟨_, rfl, hasOnly_asEntries fun _ => id⟩

theorem completed_fields (s : Settings) : completed (asEntries s.fields) = s.toValue := by
  rw [completed_eq_toValue_iff, textEntries_asEntries]
  have hcache : givenFor "cache" s.fields = s.cache.options := rfl
  have hbatch : givenFor "batch" s.fields = s.batch.options := rfl
  have haudit : givenFor "audit" s.fields = s.audit.options := rfl
  have hlogging : givenFor "logging" s.fields = s.logging.options := rfl
  constructor
  · rfl
  · simp only [sections_default, List.map_cons, List.map_nil, hcache, hbatch, haudit, hlogging,
      cacheSection_builds.levelled_filled_view, batchSection_builds.levelled_filled_view,
      auditSection_builds.levelled_filled_view, loggingSection_builds.levelled_filled_view]
    rfl

/-- A configuration without a refused number is built from its own dictionary. -/
theorem ofValue_toValue {s : Settings} (h : s.IsAccepted) : ofValue s.toValue = .ok s := by
  change ofValue (.dict (asEntries s.fields)) = .ok s
  rw [ofValue_dict, ofEntries_eq_ok_iff]
  exact ⟨isWellFormed_fields s, completed_fields s, h⟩

/-! ## Malformed dictionaries -/

/-- There is an unknown key, a section that is no dictionary, or a section with an unknown key. -/
inductive IsMalformed (entries : List (Value × Value)) : Prop
  | key {e : Value × Value} (hentry : e ∈ entries) (hunknown : ∀ key ∈ topKeys, e.1 ≠ .text key)
  | kind {part : String × Options} {v : Value} (hpart : part ∈ sections default)
      (hget : Ordered.get? part.1 (textEntries entries) = some v) (hkind : ∀ inner, v ≠ .dict inner)
  | option {part : String × Options} {inner : List (Value × Value)} {e : Value × Value}
      (hpart : part ∈ sections default)
      (hget : Ordered.get? part.1 (textEntries entries) = some (.dict inner)) (hentry : e ∈ inner)
      (hunknown : ∀ key ∈ Ordered.keys part.2, e.1 ≠ .text key)

theorem IsMalformed.not_isWellFormed (h : IsMalformed entries) : ¬IsWellFormed entries := by
  rintro ⟨hkeys, hsections⟩
  cases h with
  | key hentry hunknown =>
      obtain ⟨key, hkey, heq⟩ := hkeys _ hentry
      exact hunknown key hkey heq
  | kind hpart hget hkind =>
      obtain ⟨inner, heq, -⟩ := hsections _ hpart _ hget
      exact hkind inner heq
  | option hpart hget hentry hunknown =>
      obtain ⟨inner, heq, hinner⟩ := hsections _ hpart _ hget
      obtain rfl := Value.dict.inj heq
      obtain ⟨key, hkey, heq⟩ := hinner _ hentry
      exact hunknown key hkey heq

/-- What is built from a dictionary is the dictionary completed by the defaults, and is built again
from its own dictionary. Nothing is built from a malformed dictionary. -/
structure RoundTrips (entries : List (Value × Value)) : Prop where
  completes : ∀ s, ofValue (.dict entries) = .ok s → s.toValue = completed entries
  restores : ∀ s, ofValue (.dict entries) = .ok s → ofValue s.toValue = .ok s
  refuses : IsMalformed entries → ∃ fault, ofValue (.dict entries) = .error fault

theorem ofValue_roundTrips (entries : List (Value × Value)) : RoundTrips entries where
  completes s hs := by
    rw [ofValue_dict, ofEntries_eq_ok_iff] at hs
    exact hs.2.1.symm
  restores s hs := by
    rw [ofValue_dict, ofEntries_eq_ok_iff] at hs
    exact ofValue_toValue hs.2.2
  refuses hmalformed := by
    cases hs : ofValue (.dict entries) with
    | error fault => exact ⟨fault, rfl⟩
    | ok s =>
        rw [ofValue_dict, ofEntries_eq_ok_iff] at hs
        exact absurd hs.1 hmalformed.not_isWellFormed

/-- A dictionary that gives a timeout, a lifetime and a level. -/
def nightDictionary : List (Value × Value) :=
  [(.text "request_timeout", .float 2.5),
    (.text "cache", .dict [(.text "ttl_seconds", .int 30), (.text "enabled", .bool true)]),
    (.text "logging", .dict [(.text "log_level", .text "debug")])]

/-- The configuration that the dictionary gives. -/
def nightSettings : Settings :=
  { requestTimeout := some (.real 2.5)
    cache := { enabled := .bool true, lifetime := .int 30 }
    logging := { level := .debug } }

theorem nightDictionary_roundTrips :
    ofValue (.dict nightDictionary) = .ok nightSettings ∧
      nightSettings.toValue = completed nightDictionary ∧
      ofValue nightSettings.toValue = .ok nightSettings ∧
      ∃ fault, ofValue (.dict [(.text "cache", .dict [(.text "ttl", .int 30)])]) = .error fault := by
  have hnight : ofValue (.dict nightDictionary) = .ok nightSettings := rfl
  refine ⟨hnight, (ofValue_roundTrips nightDictionary).completes _ hnight,
    (ofValue_roundTrips nightDictionary).restores _ hnight, ?_⟩
  have hcache : ("cache", CacheSettings.options default) ∈ sections default := by
    simp [sections_default]
  refine (ofValue_roundTrips _).refuses (.option hcache rfl (List.mem_singleton.mpr rfl) ?_)
  simp [Ordered.keys, CacheSettings.options]

end Clearance.Settings
