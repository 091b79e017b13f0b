/-
# Spellings of names

Stored names are words with underscores between them. Spelled with capitals in place of the
underscores, such a name is led back to its stored form word by word: every capital follows a letter
or a digit in lower case, but for the one after a word of a single letter, which has become a capital
itself.
-/

import Clearance.Proofs.Attribute.Referring

namespace Clearance

/-! ## ASCII letters -/

theorem endsWord_iff {c : Char} :
    endsWord c = true ↔ 97 ≤ c.toNat ∧ c.toNat ≤ 122 ∨ 48 ≤ c.toNat ∧ c.toNat ≤ 57 := by
  simp only [endsWord, Bool.or_eq_true, Bool.and_eq_true, decide_eq_true_eq, Char.le_def,
    UInt32.le_iff_toNat_le]
  rfl

theorem isCapital_iff {c : Char} :
    ('A' ≤ c && c ≤ 'Z') = true ↔ 65 ≤ c.toNat ∧ c.toNat ≤ 90 := by
  simp only [Bool.and_eq_true, decide_eq_true_eq, Char.le_def, UInt32.le_iff_toNat_le]
  rfl

theorem not_isCapital_of_endsWord {c : Char} (h : endsWord c = true) :
    ¬('A' ≤ c && c ≤ 'Z') = true := by
  rw [isCapital_iff]
  rw [endsWord_iff] at h
  omega

namespace Text

/-- Lower case of an ASCII text goes character by character. -/
theorem lowerFrom_eq_map {cs : List Char} (h : ∀ c ∈ cs, c.toNat < 128) (before : List Char) :
    lowerFrom before cs = cs.map Char.toLower := by
  induction cs generalizing before with
  | nil => rfl
  | cons c rest ih =>
      obtain ⟨hc, hrest⟩ := List.forall_mem_cons.mp h
      have hlower : lowerChar before c rest = [c.toLower] := by
        have hdotted : ¬(c.toNat == 0x130) = true := by simp; omega
        have hsigma : ¬(c.toNat == 0x3A3) = true := by simp; omega
        rw [lowerChar, if_neg hdotted, if_neg hsigma]
        refine congrArg (· :: []) (forall_ascii (P := fun c =>
          Char.ofNat (lowerCode c.toNat) = c.toLower) ?_ hc)
        decide
      rw [lowerFrom, hlower, ih hrest, List.map_cons, List.singleton_append]

end Text

theorem toLower_of_endsWord {c : Char} (h : endsWord c = true) : c.toLower = c := by
  have hcode : c.toNat < 128 := by
    rw [endsWord_iff] at h
    omega
  revert h
  exact Text.forall_ascii (P := fun c => endsWord c = true → c.toLower = c) (by decide) hcode

/-- Underscores and the characters of words are in lower case. -/
theorem map_toLower_eq_self {cs : List Char} (h : ∀ c ∈ cs, c = '_' ∨ endsWord c = true) :
    cs.map Char.toLower = cs := by
  calc
    cs.map Char.toLower = cs.map id := by
      refine List.map_congr_left fun c hc => ?_
      rcases h c hc with rfl | hends
      · rfl
      · exact toLower_of_endsWord hends
    _ = cs := List.map_id cs

/-! ## Where underscores go -/

/-- Putting underscores in adds nothing else. -/
theorem mem_underscored {c : Char} {previous : Option Char} {cs : List Char}
    (h : c ∈ underscored previous cs) : c = '_' ∨ c ∈ cs := by
  induction cs generalizing previous with
  | nil => cases h
  | cons first rest ih =>
      rw [underscored] at h
      split at h
      · rcases List.mem_cons.mp h with hmark | h
        · exact .inl hmark
        · rcases List.mem_cons.mp h with rfl | h
          · exact .inr List.mem_cons_self
          · exact (ih h).imp_right (List.mem_cons_of_mem _)
      · rcases List.mem_cons.mp h with rfl | h
        · exact .inr List.mem_cons_self
        · exact (ih h).imp_right (List.mem_cons_of_mem _)

/-- Up to the next capital, nothing is put in. -/
theorem underscored_append {cs : List Char} (h : ∀ c ∈ cs, ¬('A' ≤ c && c ≤ 'Z') = true)
    (previous : Char) (rest : List Char) :
    underscored (some previous) (cs ++ rest) =
      cs ++ underscored (some (cs.getLast?.getD previous)) rest := by
  induction cs generalizing previous with
  | nil => rfl
  | cons c cs ih =>
      obtain ⟨hc, hcs⟩ := List.forall_mem_cons.mp h
      have hput : ¬('A' ≤ c && c ≤ 'Z' && (some previous).any endsWord) = true :=
        fun hput => hc (Bool.and_eq_true_iff.mp hput).1
      rw [List.cons_append, underscored, if_neg hput, ih hcs, List.getLast?_cons,
        Option.getD_some]
      rfl

/-- A text without capitals is left as it is. -/
theorem underscored_eq_self {cs : List Char} (h : ∀ c ∈ cs, ¬('A' ≤ c && c ≤ 'Z') = true)
    (previous : Option Char) : underscored previous cs = cs := by
  induction cs generalizing previous with
  | nil => rfl
  | cons c cs ih =>
      obtain ⟨hc, hcs⟩ := List.forall_mem_cons.mp h
      have hput : ¬('A' ≤ c && c ≤ 'Z' && previous.any endsWord) = true :=
        fun hput => hc (Bool.and_eq_true_iff.mp hput).1
      rw [underscored, if_neg hput, ih hcs]

/-! ## Words of names -/

/-- A word of a stored name: a lower-case letter, and after it lower-case letters or digits. -/
structure NameWord where
  first : Char
  rest : List Char
  isLetter_first : 'a' ≤ first ∧ first ≤ 'z'
  isLetterOrDigit_rest : ∀ c ∈ rest, ('a' ≤ c ∧ c ≤ 'z') ∨ ('0' ≤ c ∧ c ≤ '9')

namespace NameWord

/-- A word as it is stored. -/
def text (w : NameWord) : List Char := w.first :: w.rest

/-- A word with its first letter in upper case. -/
def capitalized (w : NameWord) : List Char := w.first.toUpper :: w.rest

/-- Words as they are stored, with underscores between them. -/
def stored (w : NameWord) (ws : List NameWord) : String :=
  String.ofList (['_'].intercalate ((w :: ws).map text))

/-- The first word as it is, and the others capitalized right after it. -/
def camelCase (w : NameWord) (ws : List NameWord) : String :=
  String.ofList (w.text ++ ws.flatMap capitalized)

variable (w : NameWord)

theorem toNat_first : 97 ≤ w.first.toNat ∧ w.first.toNat ≤ 122 := by
  obtain ⟨hfirst, hlast⟩ := w.isLetter_first
  rw [Char.le_def, UInt32.le_iff_toNat_le] at hfirst hlast
  exact ⟨hfirst, hlast⟩

theorem endsWord_first : endsWord w.first = true := endsWord_iff.mpr (.inl w.toNat_first)

theorem endsWord_rest : ∀ c ∈ w.rest, endsWord c = true := by
  intro c hc
  simpa [endsWord] using w.isLetterOrDigit_rest c hc

theorem endsWord_text : ∀ c ∈ w.text, endsWord c = true := by
  intro c hc
  rcases List.mem_cons.mp hc with rfl | hc
  · exact w.endsWord_first
  · exact w.endsWord_rest c hc

/-- The capital of a letter is ASCII, is a capital, ends no word, and goes back to the letter. -/
theorem toUpper_first :
    w.first.toUpper.toNat < 128 ∧ ('A' ≤ w.first.toUpper && w.first.toUpper ≤ 'Z') = true ∧
      endsWord w.first.toUpper = false ∧ w.first.toUpper.toLower = w.first := by
  obtain ⟨hfirst, hlast⟩ := w.toNat_first
  refine Text.forall_ascii (c := w.first) (P := fun c => 97 ≤ c.toNat ∧ c.toNat ≤ 122 →
    c.toUpper.toNat < 128 ∧ ('A' ≤ c.toUpper && c.toUpper ≤ 'Z') = true ∧
      endsWord c.toUpper = false ∧ c.toUpper.toLower = c) ?_ (by omega) ⟨hfirst, hlast⟩
  decide

theorem ascii_text : ∀ c ∈ w.text, c.toNat < 128 := by
  intro c hc
  have hends := endsWord_iff.mp (w.endsWord_text c hc)
  omega

theorem ascii_capitalized : ∀ c ∈ w.capitalized, c.toNat < 128 := by
  intro c hc
  rcases List.mem_cons.mp hc with rfl | hc
  · exact w.toUpper_first.1
  · exact w.ascii_text c (List.mem_cons_of_mem _ hc)

theorem map_toLower_rest : w.rest.map Char.toLower = w.rest :=
  map_toLower_eq_self fun c hc => .inr (w.endsWord_rest c hc)

theorem map_toLower_capitalized : w.capitalized.map Char.toLower = w.text := by
  rw [capitalized, List.map_cons, w.toUpper_first.2.2.2, map_toLower_rest, text]

/-- A capitalized word ends like a word, unless it is a single letter. -/
theorem endsWord_last_iff :
    endsWord (w.rest.getLast?.getD w.first.toUpper) = true ↔ w.rest ≠ [] := by
  cases hrest : w.rest with
  | nil => simp [w.toUpper_first.2.2.1]
  | cons c cs =>
      have hmem : cs.getLast?.getD c ∈ w.rest := by
        rw [hrest]
        exact List.mem_of_getLast? List.getLast?_cons
      rw [List.getLast?_cons, Option.getD_some, w.endsWord_rest _ hmem]
      simp

/-! ## From capitals to underscores -/

/-- The texts of words with an underscore before each. -/
def marked (ws : List NameWord) : List Char := ws.flatMap fun w => '_' :: w.text

theorem intercalate_text (ws : List NameWord) :
    ['_'].intercalate ((w :: ws).map text) = w.text ++ marked ws := by
  induction ws generalizing w with
  | nil => simp [marked]
  | cons v vs ih =>
      rw [List.map_cons, List.map_cons, List.intercalate_cons_cons, ← List.map_cons, ih v, marked,
        marked, List.flatMap_cons]
      simp

/-- A capitalized word gets an underscore in front if it follows the end of a word. -/
theorem underscored_capitalized (previous : Char) (cs : List Char) :
    underscored (some previous) (w.capitalized ++ cs) =
      (if endsWord previous then ['_'] else []) ++ w.capitalized ++
        underscored (some (w.rest.getLast?.getD w.first.toUpper)) cs := by
  have hrest := underscored_append
    (fun c hc => not_isCapital_of_endsWord (w.endsWord_rest c hc)) w.first.toUpper cs
  rw [capitalized, List.cons_append, underscored, hrest, w.toUpper_first.2.1, Bool.true_and,
    Option.any_some]
  cases endsWord previous <;> simp

/-- Capitalized words after a character come to their stored form exactly if the character ends a
word and so does each of them that another one follows. -/
theorem toLower_underscored_iff (previous : Char) (ws : List NameWord) :
    (underscored (some previous) (ws.flatMap capitalized)).map Char.toLower = marked ws ↔
      (ws ≠ [] → endsWord previous = true) ∧ ∀ v ∈ ws.dropLast, v.rest ≠ [] := by
  induction ws generalizing previous with
  | nil => simp [underscored, marked]
  | cons v vs ih =>
      rw [List.flatMap_cons, underscored_capitalized, List.map_append, List.map_append,
        map_toLower_capitalized, marked, List.flatMap_cons, ← marked]
      cases hends : endsWord previous with
      | false =>
          -- Without an underscore the word's own first letter would have to be one.
          have hmark : v.first ≠ '_' := by
            intro heq
            have hends := v.endsWord_first
            rw [heq] at hends
            exact absurd hends (by decide)
          simp [text, hmark]
      | true =>
          have hlast := ih (v.rest.getLast?.getD v.first.toUpper)
          rw [endsWord_last_iff] at hlast
          rw [if_pos rfl, List.map_singleton, List.append_assoc, List.singleton_append,
            List.cons_append, show Char.toLower '_' = '_' from rfl, List.cons_inj_right,
            List.append_cancel_left_eq, hlast]
          cases vs <;> simp

theorem ascii_camelCase (ws : List NameWord) :
    ∀ c ∈ w.text ++ ws.flatMap capitalized, c.toNat < 128 := by
  intro c hc
  rcases List.mem_append.mp hc with hc | hc
  · exact w.ascii_text c hc
  · obtain ⟨v, -, hv⟩ := List.mem_flatMap.mp hc
    exact v.ascii_capitalized c hv

/-- The text before the first capital stays, and each word after it is judged by what it follows. -/
theorem snakeCase_camelCase (ws : List NameWord) :
    snakeCase (camelCase w ws) = String.ofList (w.text ++
      (underscored (some (w.rest.getLast?.getD w.first)) (ws.flatMap capitalized)).map Char.toLower) := by
  have hput : ¬('A' ≤ w.first && w.first ≤ 'Z' && (none : Option Char).any endsWord) = true := by
    simp
  have hbegin : underscored none (w.text ++ ws.flatMap capitalized) =
      w.text ++ underscored (some (w.rest.getLast?.getD w.first)) (ws.flatMap capitalized) := by
    rw [text, List.cons_append, underscored, if_neg hput, underscored_append
      (fun c hc => not_isCapital_of_endsWord (w.endsWord_rest c hc))]
    rfl
  have hascii : ∀ c ∈ underscored none (w.text ++ ws.flatMap capitalized), c.toNat < 128 := by
    intro c hc
    rcases mem_underscored hc with rfl | hc
    · decide
    · exact w.ascii_camelCase ws c hc
  have htext : w.text.map Char.toLower = w.text :=
    map_toLower_eq_self fun c hc => .inr (w.endsWord_text c hc)
  rw [snakeCase, camelCase, String.toList_ofList, Text.lower, String.toList_ofList,
    Text.lowerFrom_eq_map hascii, hbegin, List.map_append, htext]

theorem mem_stored {ws : List NameWord} {c : Char} (h : c ∈ (stored w ws).toList) :
    c = '_' ∨ endsWord c = true := by
  rw [stored, String.toList_ofList, intercalate_text, List.mem_append] at h
  rcases h with h | h
  · exact .inr (w.endsWord_text c h)
  · obtain ⟨v, -, hv⟩ := List.mem_flatMap.mp h
    exact (List.mem_cons.mp hv).imp_right (v.endsWord_text c)

/-- A stored name is in its stored form. -/
theorem snakeCase_stored (ws : List NameWord) : snakeCase (stored w ws) = stored w ws := by
  have hcapital : ∀ c ∈ (stored w ws).toList, ¬('A' ≤ c && c ≤ 'Z') = true := by
    intro c hc
    rcases w.mem_stored hc with rfl | hends
    · decide
    · exact not_isCapital_of_endsWord hends
  have hascii : ∀ c ∈ (stored w ws).toList, c.toNat < 128 := by
    intro c hc
    rcases w.mem_stored hc with rfl | hends
    · decide
    · rw [endsWord_iff] at hends
      omega
  have hlower : (stored w ws).toList.map Char.toLower = (stored w ws).toList :=
    map_toLower_eq_self fun c hc => w.mem_stored hc
  rw [snakeCase, underscored_eq_self hcapital, String.ofList_toList, Text.lower,
    Text.lowerFrom_eq_map hascii, hlower, String.ofList_toList]

/-- A name spelled with capitals comes to the stored one exactly if no word but the first and the
last is a single letter. -/
theorem snakeCase_camelCase_iff (ws : List NameWord) :
    snakeCase (camelCase w ws) = stored w ws ↔ ∀ v ∈ ws.dropLast, v.rest ≠ [] := by
  have hends : endsWord (w.rest.getLast?.getD w.first) = true := by
    apply w.endsWord_text
    exact List.mem_of_getLast? List.getLast?_cons
  rw [snakeCase_camelCase, stored, intercalate_text, String.ofList_inj, List.append_cancel_left_eq,
    toLower_underscored_iff]
  simp [hends]

end NameWord

/-! ## Finding stored names -/

/-- An attribute is found by another spelling of its name, if none has that spelling itself. -/
theorem AttributeMap.findQualified_of_snakeCase {m : AttributeMap} {category : Option String}
    {name spelling : String} {a : Attribute} (hsnake : snakeCase spelling = name)
    (hname : m.get? (attributeKey (normalizeCategory category) name) = some a)
    (hspelling : m.get? (attributeKey (normalizeCategory category) spelling) = none) :
    m.findQualified category spelling = some a := by
  have hne : name ≠ spelling := by
    rintro rfl
    rw [hname] at hspelling
    cases hspelling
  simp only [findQualified, hspelling, hsnake, if_neg hne, hname]

/-- **Names spelled with capitals.** For any words, the name that has capitals in place of the
underscores is rewritten to the stored name exactly if no inner word is a single letter; the stored
name is left as it is; and under that condition, in every map that has an attribute of the stored name
in a category and none of the other spelling, the other spelling finds it. -/
theorem NameWord.spelling_finds_stored (w : NameWord) (ws : List NameWord) :
    (snakeCase (camelCase w ws) = stored w ws ↔ ∀ v ∈ ws.dropLast, v.text.length ≠ 1) ∧
      snakeCase (stored w ws) = stored w ws ∧
      ((∀ v ∈ ws.dropLast, v.text.length ≠ 1) →
        ∀ (m : AttributeMap) (category : Option String) (a : Attribute),
          m.get? (attributeKey (normalizeCategory category) (stored w ws)) = some a →
          m.get? (attributeKey (normalizeCategory category) (camelCase w ws)) = none →
            m.findQualified category (camelCase w ws) = some a) := by
  have hletter : (∀ v ∈ ws.dropLast, v.text.length ≠ 1) ↔ ∀ v ∈ ws.dropLast, v.rest ≠ [] := by
    simp [text]
  have hiff := w.snakeCase_camelCase_iff ws
  rw [← hletter] at hiff
  refine ⟨hiff, w.snakeCase_stored ws, ?_⟩
  intro hwords m category a hname hspelling
  exact AttributeMap.findQualified_of_snakeCase (hiff.mpr hwords) hname hspelling

/-- A word of the name of the last login. -/
def lastWord : NameWord := ⟨'l', ['a', 's', 't'], by decide, by simp⟩

@[inherit_doc lastWord]
def loginWord : NameWord := ⟨'l', ['o', 'g', 'i', 'n'], by decide, by simp⟩

@[inherit_doc lastWord]
def atWord : NameWord := ⟨'a', ['t'], by decide, by simp⟩

/-- A subject's last login, under its stored name. -/
def lastLogin : Attribute := ⟨"17", "last_login_at", "string", "subject", "2024-03-06"⟩

/-- A user's last login is found with capitals, although a user counts as a subject. -/
theorem lastLogin_found :
    lastWord.camelCase [loginWord, atWord] = "lastLoginAt" ∧
      snakeCase (lastWord.camelCase [loginWord, atWord]) = "last_login_at" ∧
      (AttributeMap.insert {} lastLogin).findQualified (some "user")
        (lastWord.camelCase [loginWord, atWord]) = some lastLogin := by
  have hwords : ∀ v ∈ [loginWord, atWord].dropLast, v.text.length ≠ 1 := by decide
  have hnormal : normalizeCategory (some "user") = "subject" := by decide +kernel
  obtain ⟨hsnake, -, hfinds⟩ := lastWord.spelling_finds_stored [loginWord, atWord]
  refine ⟨rfl, hsnake.mpr hwords, hfinds hwords _ _ _ ?_ ?_⟩ <;> rw [hnormal]
  · decide
  · decide

/-- An inner word of one letter runs into the word after it. -/
example : snakeCase "planBCode" = "plan_bcode" := by decide +kernel

end Clearance
