/-
# Which patterns are refused for more than their form

A pattern that breaks a rule is malformed. The other refusals need more than that: a count in braces
that is too large or too long to be converted, letters for both ranges of scripts, or very many groups.

Each group that is opened adds a level to those that a pattern can have while it is read, and three at
most to its tree: for itself, for its alternatives and for its repetition.
-/

import Mathlib.Algebra.Group.Nat.Defs
import Mathlib.Data.List.Induction
import Clearance.Proofs.Pattern.Levels

namespace Clearance.Pattern

/-! ## Outcomes -/

/-- Reading fails because what is read is malformed, or it gives what meets a condition. -/
def Gives {α : Type} (holds : α → Prop) : Except Refusal α → Prop
  | .error refusal => refusal = .malformed
  | .ok a => holds a

namespace Gives

variable {α β : Type} {holds : α → Prop} {outcome : Except Refusal α}

theorem imp {holds' : α → Prop} (h : Gives holds outcome) (himp : ∀ a, holds a → holds' a) :
    Gives holds' outcome := by
  cases outcome with
  | error refusal => exact h
  | ok a => exact himp a h

theorem map {holds' : β → Prop} {f : α → β} (h : Gives holds outcome)
    (hf : ∀ a, holds a → holds' (f a)) : Gives holds' (outcome.map f) := by
  cases outcome with
  | error refusal => exact h
  | ok a => exact hf a h

end Gives

/-! ## What reading leaves -/

section Leaving

variable {α β : Type} {ts ts' rest : List Token} {t : Token}

theorem suffix_tail (h : t :: rest <:+ ts) : rest <:+ ts := (List.suffix_cons t rest).trans h

/-- Reading a part of a pattern leaves an end of the tokens that it was given. -/
def LeavesEnd (ts : List Token) : Except Refusal (α × List Token) → Prop :=
  Gives fun x => x.2 <:+ ts

namespace LeavesEnd

variable {outcome : Except Refusal (α × List Token)}

theorem trans (h : LeavesEnd ts' outcome) (hts : ts' <:+ ts) : LeavesEnd ts outcome :=
  Gives.imp h fun _ hrest => hrest.trans hts

theorem map (h : LeavesEnd ts outcome) {f : α × List Token → β × List Token}
    (hf : ∀ x, (f x).2 = x.2) : LeavesEnd ts (outcome.map f) :=
  Gives.map h fun x hrest => hf x ▸ hrest

end LeavesEnd

/-- Reading a part without levels leaves an end of the tokens that it was given. -/
def LeavesFlat (ts : List Token) : Except Refusal (Node × List Token) → Prop :=
  Gives fun x => x.1.height = 0 ∧ x.2 <:+ ts

namespace LeavesFlat

theorem trans {outcome : Except Refusal (Node × List Token)} (h : LeavesFlat ts' outcome)
    (hts : ts' <:+ ts) : LeavesFlat ts outcome :=
  Gives.imp h fun _ hread => ⟨hread.1, hread.2.trans hts⟩

theorem of_map {outcome : Except Refusal (α × List Token)} (h : LeavesEnd ts outcome)
    {f : α × List Token → Node × List Token} (hf : ∀ x, (f x).1.height = 0 ∧ (f x).2 = x.2) :
    LeavesFlat ts (outcome.map f) :=
  Gives.map h fun x hrest => ⟨(hf x).1, (hf x).2 ▸ hrest⟩

end LeavesFlat

/-- The characters that are taken are the first ones of what was given, and are of the class. -/
theorem takeUpTo_eq (p : Char → Bool) (count : Nat) (ts : List Token) :
    (takeUpTo p count ts).1.map .plain ++ (takeUpTo p count ts).2 = ts ∧
      ∀ c ∈ (takeUpTo p count ts).1, p c := by
  fun_induction takeUpTo p count ts with
  | case1 count c rest hc cs left htaken ih =>
      rw [htaken] at ih
      refine ⟨congrArg (Token.plain c :: ·) ih.1, fun d hd => ?_⟩
      rcases List.mem_cons.mp hd with rfl | hd
      · exact hc
      · exact ih.2 d hd
  | case2 count c rest hc => exact ⟨rfl, nofun⟩
  | case3 count ts => exact ⟨rfl, nofun⟩

theorem takeUpTo_suffix (p : Char → Bool) (count : Nat) (ts : List Token) :
    (takeUpTo p count ts).2 <:+ ts :=
  ⟨_, (takeUpTo_eq p count ts).1⟩

theorem leavesEnd_hexEscape (count : Nat) (ts : List Token) : LeavesEnd ts (hexEscape count ts) := by
  simp only [hexEscape]
  split
  · exact takeUpTo_suffix _ _ _
  · rfl

theorem nameUntil_suffix {mark : Char} {name : String} (h : nameUntil mark ts = some (name, rest)) :
    rest <:+ ts := by
  simp only [nameUntil] at h
  split at h
  case h_1 hdrop =>
    split at h
    · cases h
    · cases h
      exact suffix_tail (hdrop ▸ List.drop_suffix _ _)
  case h_2 => cases h

theorem leavesEnd_namedEscape (ts : List Token) : LeavesEnd ts (namedEscape ts) := by
  rw [namedEscape.eq_def]
  split
  case h_1 ts =>
    split
    case h_1 hname =>
      split
      · exact (nameUntil_suffix hname).trans (List.suffix_cons _ _)
      · rfl
    case h_2 => rfl
  case h_2 => rfl

theorem leavesEnd_codeEscape? {c : Char} {outcome : Except Refusal (Nat × List Token)}
    (h : codeEscape? c ts = some outcome) : LeavesEnd ts outcome := by
  simp only [codeEscape?] at h
  split at h
  case h_5 => cases h
  case h_4 =>
    cases h
    exact leavesEnd_namedEscape ts
  all_goals
    cases h
    exact leavesEnd_hexEscape _ ts

theorem leavesEnd_setEscape (c : Char) (ts : List Token) : LeavesEnd ts (setEscape c ts) := by
  simp only [setEscape]
  split
  case h_1 => exact List.suffix_rfl
  case h_2 result _ hresult => exact (leavesEnd_codeEscape? hresult).map fun _ => rfl
  case h_3 =>
    split
    · exact List.suffix_rfl
    · split
      · split
        · exact takeUpTo_suffix _ _ _
        · rfl
      · split
        · exact List.suffix_rfl
        · split
          · rfl
          · exact List.suffix_rfl

theorem leavesFlat_refer (s : Scope) (number : Nat) (ts : List Token) :
    LeavesFlat ts (refer s number ts) := by
  rw [refer]
  split
  · exact ⟨rfl, List.suffix_rfl⟩
  · rfl

theorem leavesFlat_escape (s : Scope) (c : Char) (ts : List Token) : LeavesFlat ts (escape s c ts) := by
  simp only [escape]
  split
  case h_1 => exact ⟨rfl, List.suffix_rfl⟩
  case h_2 result _ hresult => exact .of_map (leavesEnd_codeEscape? hresult) fun _ => ⟨rfl, rfl⟩
  case h_3 =>
    -- Four anchors come first.
    iterate 4
      split
      · exact ⟨rfl, List.suffix_rfl⟩
    split
    · exact ⟨rfl, takeUpTo_suffix _ _ _⟩
    · split
      · split
        case h_1 d e rest _ =>
          have hrest : rest <:+ .plain d :: .plain e :: rest := suffix_tail (List.suffix_cons _ _)
          split
          · split
            · exact ⟨rfl, hrest⟩
            · rfl
          · split
            · exact (leavesFlat_refer _ _ _).trans (List.suffix_cons _ _)
            · exact leavesFlat_refer _ _ _
        case h_2 =>
          split
          · exact (leavesFlat_refer _ _ _).trans (List.suffix_cons _ _)
          · exact leavesFlat_refer _ _ _
        case h_3 => exact leavesFlat_refer _ _ _
      · split
        · exact ⟨rfl, List.suffix_rfl⟩
        · split
          · rfl
          · exact ⟨rfl, List.suffix_rfl⟩

theorem leavesEnd_setMember (t : Token) (ts : List Token) : LeavesEnd ts (setMember t ts) := by
  cases t with
  | plain c => exact List.suffix_rfl
  | escaped c => exact leavesEnd_setEscape c ts
  | dangling => rfl

theorem leavesEnd_setItems (fuel : Nat) (seen : List Item) (ts : List Token) :
    LeavesEnd ts (setItems fuel seen ts) := by
  induction fuel generalizing seen ts with
  | zero => rfl
  | succ fuel ih =>
      cases ts with
      | nil => rfl
      | cons t ts =>
          have hfirst := (leavesEnd_setMember t ts).trans (List.suffix_cons t ts)
          simp only [setItems]
          split
          · exact List.suffix_cons t ts
          · split
            case h_1 refusal hmember =>
              rw [hmember] at hfirst
              exact hfirst
            case h_2 first rest hmember =>
              rw [hmember] at hfirst
              exact suffix_tail (suffix_tail hfirst)
            case h_3 first u rest _ hmember =>
              rw [hmember] at hfirst
              have hlast := (leavesEnd_setMember u rest).trans (suffix_tail (suffix_tail hfirst))
              split
              case h_1 hhigh =>
                rw [hhigh] at hlast
                split
                · rfl
                · exact (ih _ _).trans hlast
              case h_2 hhigh =>
                rw [hhigh] at hlast
                exact hlast
              case h_3 => rfl
            case h_4 first rest _ _ hmember =>
              rw [hmember] at hfirst
              exact (ih _ _).trans hfirst

theorem height_setNode (negated : Bool) (items : List Item) : (setNode negated items).height = 0 := by
  rw [setNode.eq_def]
  split <;> rfl

theorem leavesFlat_readSet (ts : List Token) : LeavesFlat ts (readSet ts) := by
  have hset (negated : Bool) (x : List Item × List Token) :
      (setNode negated x.1.eraseDups).height = 0 ∧ x.2 = x.2 :=
    ⟨height_setNode negated _, rfl⟩
  simp only [readSet]
  split
  case h_1 body =>
    exact (LeavesFlat.of_map (leavesEnd_setItems _ [] body) (hset true)).trans (List.suffix_cons _ _)
  case h_2 => exact .of_map (leavesEnd_setItems _ [] ts) (hset false)

theorem skipComment_suffix (h : skipComment ts = some rest) : rest <:+ ts := by
  fun_induction skipComment ts with
  | case1 => cases h
  | case2 left =>
      cases h
      exact List.suffix_cons _ _
  | case3 t left _ ih => exact (ih h).trans (List.suffix_cons _ _)

theorem skipLine_suffix (ts : List Token) : skipLine ts <:+ ts := by
  fun_induction skipLine ts with
  | case1 => exact List.suffix_rfl
  | case2 rest => exact List.suffix_cons _ _
  | case3 rest => exact List.suffix_rfl
  | case4 t rest _ _ ih => exact ih.trans (List.suffix_cons _ _)

end Leaving

/-! ## Letters for ranges of scripts -/

section Letters

variable {ts ts' rest : List Token} {f f' f'' : Flags}

/-- A range of scripts that is chosen later was chosen before, or its letter is among the tokens. -/
structure Flags.GrowsBy (ts : List Token) (f f' : Flags) : Prop where
  ascii : f'.ascii → f.ascii ∨ .plain 'a' ∈ ts
  unicode : f'.unicode → f.unicode ∨ .plain 'u' ∈ ts

namespace Flags.GrowsBy

theorem refl (ts : List Token) (f : Flags) : f.GrowsBy ts f := ⟨.inl, .inl⟩

theorem mono (h : f.GrowsBy ts' f') (hts : ts' <:+ ts) : f.GrowsBy ts f' where
  ascii ha := (h.ascii ha).imp_right hts.mem
  unicode hu := (h.unicode hu).imp_right hts.mem

theorem trans (h : f.GrowsBy ts f') (h' : f'.GrowsBy ts f'') : f.GrowsBy ts f'' where
  ascii ha := (h'.ascii ha).elim h.ascii .inr
  unicode hu := (h'.unicode hu).elim h.unicode .inr

theorem or (h : ({} : Flags).GrowsBy ts f') : f.GrowsBy ts (f.or f') where
  ascii ha := by
    rcases Bool.or_eq_true_iff.mp ha with hbefore | hlater
    · exact .inl hbefore
    · exact .inr ((h.ascii hlater).resolve_left Bool.false_ne_true)
  unicode hu := by
    rcases Bool.or_eq_true_iff.mp hu with hbefore | hlater
    · exact .inl hbefore
    · exact .inr ((h.unicode hlater).resolve_left Bool.false_ne_true)

end Flags.GrowsBy

theorem growsBy_of_flag? {c : Char} (h : flag? c = some f) (rest : List Token) :
    ({} : Flags).GrowsBy (.plain c :: rest) f := by
  simp only [flag?] at h
  split at h <;> cases h <;> constructor <;> simp

theorem flagsOn_sound {seen on : Flags} {c : Char} (h : flagsOn seen ts = some (on, c, rest)) :
    rest <:+ ts ∧ seen.GrowsBy ts on := by
  fun_induction flagsOn seen ts with
  | case1 seen d left f hf all hboth => cases h
  | case2 seen d left f hf all hboth ih =>
      obtain ⟨hrest, hgrows⟩ := ih h
      have hall : seen.GrowsBy (.plain d :: left) all := (growsBy_of_flag? hf left).or
      exact ⟨hrest.trans (List.suffix_cons _ _), hall.trans (hgrows.mono (List.suffix_cons _ _))⟩
  | case3 seen d left hf hmark =>
      cases h
      exact ⟨List.suffix_cons _ _, .refl _ _⟩
  | case4 seen d left hf hmark => cases h
  | case5 => cases h

theorem flagsOff_suffix {seen off : Flags} (h : flagsOff seen ts = some (off, rest)) :
    rest <:+ ts := by
  fun_induction flagsOff seen ts with
  | case1 => cases h
  | case2 seen d left f hf hboth ih => exact (ih h).trans (List.suffix_cons _ _)
  | case3 seen d left hf hmark =>
      cases h
      exact List.suffix_cons _ _
  | case4 => cases h
  | case5 => cases h

theorem readFlags_sound {on : Flags} {off : Option Flags} (h : readFlags ts = some (on, off, rest)) :
    rest <:+ ts ∧ ({} : Flags).GrowsBy ts on := by
  simp only [readFlags] at h
  split at h
  case h_1 hon =>
    split at h
    · cases h
    · cases h
      exact flagsOn_sound hon
  case h_2 hon =>
    split at h
    · cases h
    · cases h
      exact flagsOn_sound hon
  case h_3 hon =>
    split at h
    case h_1 hoff =>
      split at h
      · cases h
      · cases h
        obtain ⟨hrest, hgrows⟩ := flagsOn_sound hon
        exact ⟨(flagsOff_suffix hoff).trans hrest, hgrows⟩
    case h_2 => cases h
  case h_4 => cases h

end Letters

/-! ## Openings -/

section Openings

variable {ts : List Token} {s : Scope}

/-- What a parenthesis begins leaves an end of the tokens, and chooses a range of scripts only by its
letter. -/
def Opening.IsSound (ts : List Token) (s : Scope) : Opening → Prop
  | .done node s' rest => rest <:+ ts ∧ s'.flags = s.flags ∧ ∀ n ∈ node, n.height = 0
  | .condition _ s' rest | .body _ _ _ _ s' rest => rest <:+ ts ∧ s'.flags = s.flags
  | .lookAhead _ rest | .lookBehind _ rest => rest <:+ ts
  | .globalFlags on rest => rest <:+ ts ∧ ({} : Flags).GrowsBy ts on

/-- A parenthesis begins something that is sound. -/
def OpensSoundly (ts : List Token) (s : Scope) : Except Refusal Opening → Prop :=
  Gives fun opening => opening.IsSound ts s

theorem opensSoundly_openGroup {name : Option String} {rest : List Token} (hrest : rest <:+ ts) :
    OpensSoundly ts s ((s.openGroup name).map fun (number, s) =>
      .body (some number) false {} {} s rest) := by
  simp only [Scope.openGroup]
  split
  · exact ⟨hrest, rfl⟩
  · split
    · rfl
    · exact ⟨hrest, rfl⟩

/-- Asking for a group chooses no range of scripts. -/
theorem gives_condition (s : Scope) (name : String) :
    Gives (fun x => x.2.flags = s.flags) (s.condition name) := by
  simp only [Scope.condition]
  split
  · split
    · rfl
    · rfl
  · split
    · split
      · rfl
      · rfl
    · rfl

theorem opensSoundly_readOpening (s : Scope) (ts : List Token) :
    OpensSoundly ts s (readOpening s ts) := by
  have htwo (t u : Token) (rest : List Token) : rest <:+ t :: u :: rest :=
    suffix_tail (List.suffix_cons _ _)
  have hthree (t u v : Token) (rest : List Token) : rest <:+ t :: u :: v :: rest :=
    suffix_tail (htwo _ _ _)
  unfold readOpening
  split
  case h_1 =>
    split
    case h_1 hname =>
      split
      · exact opensSoundly_openGroup ((nameUntil_suffix hname).trans (hthree _ _ _ _))
      · rfl
    case h_2 => rfl
  case h_2 =>
    split
    case h_1 name rest hname =>
      split
      case h_1 number _ =>
        have hrefer := leavesFlat_refer s number rest
        rcases houtcome : refer s number rest with refusal | ⟨node, left⟩
        · rw [houtcome] at hrefer
          exact hrefer
        · rw [houtcome] at hrefer
          obtain ⟨hflat, hleft⟩ : node.height = 0 ∧ left <:+ rest := hrefer
          refine ⟨(hleft.trans (nameUntil_suffix hname)).trans (hthree _ _ _ _), rfl, ?_⟩
          rintro _ ⟨⟩
          exact hflat
      case h_2 => rfl
    case h_2 => rfl
  case h_3 => rfl
  case h_4 => exact ⟨htwo _ _ _, rfl⟩
  case h_5 =>
    split
    case h_1 hskipped => exact ⟨(skipComment_suffix hskipped).trans (htwo _ _ _), rfl, nofun⟩
    case h_2 => rfl
  case h_6 | h_7 => exact htwo _ _ _
  case h_8 | h_9 => exact hthree _ _ _ _
  case h_10 => rfl
  case h_11 =>
    split
    case h_1 name _ hname =>
      have hasked := gives_condition s name
      split
      case h_1 hcondition =>
        rw [hcondition] at hasked
        split
        · exact ⟨(nameUntil_suffix hname).trans (htwo _ _ _), hasked⟩
        · rfl
      case h_2 hcondition =>
        rw [hcondition] at hasked
        exact hasked
    case h_2 => rfl
  case h_12 => exact ⟨htwo _ _ _, rfl⟩
  case h_13 =>
    split
    case h_1 hflags =>
      obtain ⟨hrest, hgrows⟩ := readFlags_sound hflags
      exact ⟨hrest.trans (List.suffix_cons _ _), hgrows.mono (List.suffix_cons _ _)⟩
    case h_2 hflags => exact ⟨(readFlags_sound hflags).1.trans (List.suffix_cons _ _), rfl⟩
    case h_3 => rfl
  case h_14 => exact opensSoundly_openGroup List.suffix_rfl

end Openings

/-! ## Counts -/

section Counts

variable {levels : Nat} {ts ts' rest : List Token} {digits : List Char}

/-- No ten digits stand in a row, and at most so many groups are opened. -/
structure IsTame (levels : Nat) (ts : List Token) : Prop where
  digits (digits : List Char) : (∀ c ∈ digits, Decimal.isPlainDigit c) → digits.map .plain <:+: ts →
    digits.length < 10
  count_le : ts.count (.plain '(') ≤ levels

theorem IsTame.of_suffix (h : IsTame levels ts) (hts : ts' <:+ ts) : IsTame levels ts' where
  digits digits hdigits hrun := h.digits digits hdigits (hrun.trans hts.isInfix)
  count_le := Nat.le_trans (hts.sublist.count_le _) h.count_le

theorem IsTame.mono (h : IsTame levels ts) {levels' : Nat} (hle : levels ≤ levels') :
    IsTame levels' ts :=
  { h with count_le := Nat.le_trans h.count_le hle }

/-- Behind the beginning of a group one group less is opened. -/
theorem IsTame.inside (h : IsTame levels (.plain '(' :: rest)) :
    ∃ n, levels = n + 1 ∧ IsTame n rest := by
  have hcount := h.count_le
  rw [List.count_cons_self] at hcount
  refine ⟨levels - 1, by omega, (h.of_suffix (List.suffix_cons _ _)).digits, by omega⟩

theorem digitsValue_lt (h : ∀ c ∈ digits, Decimal.isPlainDigit c) :
    Decimal.digitsValue digits < 10 ^ digits.length := by
  induction digits using List.reverseRecOn with
  | nil => exact Nat.one_pos
  | append_singleton digits c ih =>
      have hbefore := ih fun d hd => h d (List.mem_append_left _ hd)
      have hlast : c.toNat ≤ 57 := by
        have hc := h c (List.mem_append_right _ List.mem_cons_self)
        simp only [Decimal.isPlainDigit, Bool.and_eq_true, decide_eq_true_eq] at hc
        exact hc.2
      rw [Decimal.digitsValue, List.foldl_append, List.length_append, List.length_singleton,
        Nat.pow_succ, ← Decimal.digitsValue]
      show 10 * Decimal.digitsValue digits + (c.toNat - 48) < 10 ^ digits.length * 10
      omega

/-- A count of few digits is accepted. -/
theorem exists_repeatCount (h : ∀ c ∈ digits, Decimal.isPlainDigit c) (hfew : digits.length < 10) :
    ∃ n, repeatCount digits = .ok n := by
  have hvalue : Decimal.digitsValue digits < repeatLimit := calc
    Decimal.digitsValue digits < 10 ^ digits.length := digitsValue_lt h
    _ ≤ 10 ^ 9 := Nat.pow_le_pow_right (by decide) (Nat.le_of_lt_succ hfew)
    _ < repeatLimit := by decide
  rw [repeatCount, if_neg (by simp only [Decimal.digitLimit]; omega)]
  dsimp only
  rw [if_neg (Nat.not_le.mpr hvalue)]
  exact ⟨_, rfl⟩

/-- Digits that were taken from tame tokens make a count that is accepted. -/
theorem exists_repeatCount_takeDigits (h : IsTame levels ts) :
    ∃ n, repeatCount (takeDigits ts).1 = .ok n := by
  obtain ⟨htaken, hdigits⟩ := takeUpTo_eq Decimal.isPlainDigit ts.length ts
  apply exists_repeatCount hdigits
  exact h.digits _ hdigits ⟨[], _, htaken⟩

/-- The bound above is read from what is left, or without a comma it is the bound below. -/
theorem exists_repeatCount_upper {low high : List Char} {left right : List Token}
    (h : IsTame levels ts)
    (hlow : ∃ n, repeatCount low = .ok n)
    (hupper : (match left with
      | .plain ',' :: more => takeDigits more
      | _ => (low, left)) = (high, right)) (hleft : left <:+ ts) :
    (∃ n, repeatCount high = .ok n) ∧ right <:+ ts := by
  split at hupper
  case h_1 more =>
    have hmore : more <:+ ts := suffix_tail hleft
    have hcount := exists_repeatCount_takeDigits (h.of_suffix hmore)
    have hright : (takeDigits more).2 <:+ more := takeUpTo_suffix _ _ _
    rw [hupper] at hcount hright
    exact ⟨hcount, hright.trans hmore⟩
  case h_2 =>
    cases hupper
    exact ⟨hlow, hleft⟩

/-- Bounds, if there are any, leave an end of the tokens. -/
def BoundsSoundly (ts : List Token) :
    Except Refusal (Option (Nat × Option Nat × List Token)) → Prop :=
  Gives fun bounds => ∀ b ∈ bounds, b.2.2 <:+ ts

theorem boundsSoundly_upper {high : List Char} (hcount : ∃ n, repeatCount high = .ok n)
    (hrest : rest <:+ ts) (least : Nat) :
    BoundsSoundly ts (do
      let most ← if high.isEmpty then pure none else (repeatCount high).map some
      if most.any (· < least) then .error .malformed else .ok (some (least, most, rest))) := by
  have hbounds (most : Option Nat) : BoundsSoundly ts (.ok (some (least, most, rest))) := by
    rintro _ ⟨⟩
    exact hrest
  obtain ⟨n, hn⟩ := hcount
  rw [hn]
  split
  · exact hbounds none
  · simp only [Except.map, bind, Except.bind]
    split
    · rfl
    · exact hbounds (some n)

theorem boundsSoundly_readBounds (h : IsTame levels ts) : BoundsSoundly ts (readBounds ts) := by
  have hlow := exists_repeatCount_takeDigits h
  have hleft : (takeDigits ts).2 <:+ ts := takeUpTo_suffix _ _ _
  fun_cases readBounds ts
  case case1 | case5 => exact fun _ hnone => nomatch hnone
  case case2 => rfl
  case case3 low left htaken high rest _ _ most hempty hupper =>
    rw [htaken] at hlow hleft
    obtain ⟨hcount, hright⟩ := exists_repeatCount_upper h hlow hupper hleft
    exact boundsSoundly_upper hcount (suffix_tail hright) 0
  case case4 low left htaken high rest _ _ most hempty hupper =>
    rw [htaken] at hlow hleft
    obtain ⟨hcount, hright⟩ := exists_repeatCount_upper h hlow hupper hleft
    obtain ⟨least, hleast⟩ := hlow
    rw [hleast]
    exact boundsSoundly_upper hcount (suffix_tail hright) least

end Counts

/-! ## Alternatives and sequences -/

section Readers

variable {levels room : Nat} {holds : List Node → Prop} {ts ts' : List Token} {s s' : Scope}

/-- Reading gives a sequence that meets a condition, leaves an end of the tokens, and chooses a range of
scripts only by its letter. -/
def ReadsSoundly (holds : List Node → Prop) (ts : List Token) (s : Scope) :
    Outcome (List Node) → Prop :=
  Gives fun x => holds x.1 ∧ x.2.2 <:+ ts ∧ s.flags.GrowsBy ts x.2.1.flags

theorem ReadsSoundly.trans {outcome : Outcome (List Node)} (h : ReadsSoundly holds ts' s' outcome)
    (hts : ts' <:+ ts) (hflags : s.flags.GrowsBy ts s'.flags) : ReadsSoundly holds ts s outcome :=
  Gives.imp h fun _ hread => ⟨hread.1, hread.2.1.trans hts, hflags.trans (hread.2.2.mono hts)⟩

/-- Another level is read soundly where there are calls for it. -/
theorem ReadsSoundly.nested {calls : Nat} {read : Nat → Outcome (List Node)} (hcalls : calls ≤ room)
    (h : ReadsSoundly holds ts s (read (room - calls))) :
    ReadsSoundly holds ts s (nested calls room read) := by
  rw [Pattern.nested, if_neg (Nat.not_lt.mpr hcalls)]
  exact h

theorem gives_repeatLast {n : Nat} {seen : List Node} (hseen : AreWithin n seen) (least : Nat)
    (most : Option Nat) (ts : List Token) :
    Gives (fun x => AreWithin n x.1 ∧ x.2 <:+ ts) (repeatLast least most seen ts) := by
  fun_cases repeatLast least most seen ts
  case case1 => rfl
  case case2 => rfl
  case case3 node before hrepeat greed rest hgreed =>
    have hrest : rest <:+ ts := by
      split at hgreed <;> cases hgreed
      · exact List.suffix_cons _ _
      · exact List.suffix_cons _ _
      · exact List.suffix_rfl
    obtain ⟨hnode, hbefore⟩ := List.forall_mem_cons.mp hseen
    rw [Bool.not_eq_true, Bool.not_eq_false'] at hrepeat
    exact ⟨List.forall_mem_cons.mpr ⟨hnode.repeated hrepeat greed least most, hbefore⟩, hrest⟩

/-- All four readers are sound on tame tokens, for as many steps, where there are two calls for each
group. A sequence has three levels for each group, and alternatives have two more. -/
structure AllReadSoundly (fuel : Nat) : Prop where
  choices {levels room : Nat} (hroom : 2 * levels ≤ room) (top verbose : Bool)
    {before : List (List Node)} (hbefore : ∀ choice ∈ before, AreWithin (3 * levels) choice)
    (s : Scope) {ts : List Token} :
    IsTame levels ts → ReadsSoundly (heightOf · ≤ 3 * levels + 2) ts s
      (readChoices fuel room top verbose before s ts)
  sequence {levels room : Nat} (hroom : 2 * levels ≤ room) (first verbose : Bool)
    {seen : List Node} (hseen : AreWithin (3 * levels) seen) (s : Scope) {ts : List Token} :
    IsTame levels ts → ReadsSoundly (AreWithin (3 * levels)) ts s
      (readSequence fuel room first verbose seen s ts)
  repetition {levels room : Nat} (hroom : 2 * levels ≤ room) (first verbose : Bool)
    {seen : List Node} (hseen : AreWithin (3 * levels) seen) (s : Scope) (least : Nat)
    (most : Option Nat) {ts : List Token} :
    IsTame levels ts → ReadsSoundly (AreWithin (3 * levels)) ts s
      (readRepeat fuel room first verbose seen s least most ts)
  group {levels room : Nat} (hroom : 2 * (levels + 1) ≤ room) (first verbose : Bool)
    {seen : List Node} (hseen : AreWithin (3 * (levels + 1)) seen) (s : Scope) {ts : List Token} :
    IsTame levels ts → ReadsSoundly (AreWithin (3 * (levels + 1))) ts s
      (readGroup fuel room first verbose seen s ts)

namespace AllReadSoundly

variable {fuel : Nat} {first verbose : Bool} {seen : List Node} {rest : List Token}

theorem goesOn (h : AllReadSoundly fuel) (hroom : 2 * levels ≤ room)
    (hseen : AreWithin (3 * levels) seen) (hts : IsTame levels ts) (hrest : rest <:+ ts)
    (hflags : s.flags.GrowsBy ts s'.flags) :
    ReadsSoundly (AreWithin (3 * levels)) ts s
      (readSequence fuel room first verbose seen s' rest) :=
  (h.sequence hroom first verbose hseen s' (hts.of_suffix hrest)).trans hrest hflags

theorem readChoices_succ (h : AllReadSoundly fuel) (hroom : 2 * levels ≤ room)
    {before : List (List Node)} (hbefore : ∀ choice ∈ before, AreWithin (3 * levels) choice)
    (hts : IsTame levels ts) (top verbose : Bool) (s : Scope) :
    ReadsSoundly (heightOf · ≤ 3 * levels + 2) ts s
      (readChoices (fuel + 1) room top verbose before s ts) := by
  have hfirst := h.sequence hroom (top && before.isEmpty) verbose .nil s hts
  rw [readChoices]
  split
  case h_1 hread =>
    rw [hread] at hfirst
    exact hfirst
  case h_2 hread =>
    rw [hread] at hfirst
    have hrest := suffix_tail hfirst.2.1
    have hchoices := List.forall_mem_cons.mpr ⟨hfirst.1, hbefore⟩
    exact (h.choices hroom _ _ hchoices _ (hts.of_suffix hrest)).trans hrest hfirst.2.2
  case h_3 hread =>
    rw [hread] at hfirst
    refine ⟨heightOf_joinChoices_le fun choice hchoice => ?_, hfirst.2⟩
    rcases List.mem_cons.mp (List.mem_reverse.mp hchoice) with rfl | hchoice
    · exact hfirst.1
    · exact hbefore choice hchoice

theorem readSequence_plain (h : AllReadSoundly fuel) (hroom : 2 * levels ≤ room)
    (hseen : AreWithin (3 * levels) seen) {c : Char} (hts : IsTame levels (.plain c :: rest))
    (first verbose : Bool) (s : Scope) :
    ReadsSoundly (AreWithin (3 * levels)) (.plain c :: rest) s
      (readSequence (fuel + 1) room first verbose seen s (.plain c :: rest)) := by
  have hsame : s.flags.GrowsBy (.plain c :: rest) s.flags := .refl _ _
  have hrest : rest <:+ .plain c :: rest := List.suffix_cons _ _
  have hflat {node : Node} (hnode : node.height = 0) : AreWithin (3 * levels) (node :: seen) :=
    hseen.cons (hnode ▸ Nat.zero_le _)
  have hrepeat (least : Nat) (most : Option Nat) {left : List Token} (hleft : left <:+ rest) :
      ReadsSoundly (AreWithin (3 * levels)) (.plain c :: rest) s
        (readRepeat fuel room first verbose seen s least most left) :=
    (h.repetition hroom first verbose hseen s least most (hts.of_suffix (hleft.trans hrest))).trans
      (hleft.trans hrest) hsame
  unfold readSequence
  dsimp only
  split
  · exact ⟨hseen.reverse.opened, List.suffix_rfl, hsame⟩
  split
  · exact h.goesOn hroom hseen hts hrest hsame
  split
  · exact h.goesOn hroom hseen hts ((skipLine_suffix rest).trans hrest) hsame
  split
  case h_1 =>
    have hset := leavesFlat_readSet rest
    split
    case h_1 hread =>
      rw [hread] at hset
      exact h.goesOn hroom (hflat hset.1) hts (hset.2.trans hrest) hsame
    case h_2 hread =>
      rw [hread] at hset
      exact hset
  case h_2 | h_3 | h_4 => exact hrepeat _ _ List.suffix_rfl
  case h_5 =>
    have hbounds := boundsSoundly_readBounds (hts.of_suffix hrest)
    split
    case h_1 hread =>
      rw [hread] at hbounds
      exact hrepeat _ _ (hbounds _ rfl)
    case h_2 => exact h.goesOn hroom (hflat rfl) hts hrest hsame
    case h_3 hread =>
      rw [hread] at hbounds
      exact hbounds
  case h_6 | h_7 | h_8 | h_10 => exact h.goesOn hroom (hflat rfl) hts hrest hsame
  case h_9 =>
    obtain ⟨n, rfl, hinside⟩ := hts.inside
    exact (h.group hroom first verbose hseen s hinside).trans hrest hsame

theorem readSequence_succ (h : AllReadSoundly fuel) (hroom : 2 * levels ≤ room)
    (hseen : AreWithin (3 * levels) seen) (hts : IsTame levels ts) (first verbose : Bool)
    (s : Scope) :
    ReadsSoundly (AreWithin (3 * levels)) ts s
      (readSequence (fuel + 1) room first verbose seen s ts) := by
  rcases ts with _ | ⟨c | c | _, rest⟩
  · exact ⟨hseen.reverse.opened, List.suffix_rfl, .refl _ _⟩
  · exact readSequence_plain h hroom hseen hts first verbose s
  · have hescape := leavesFlat_escape s c rest
    unfold readSequence
    dsimp only
    split
    case h_1 hread =>
      rw [hread] at hescape
      have hwithin := hseen.cons (hescape.1 ▸ Nat.zero_le _)
      exact h.goesOn hroom hwithin hts (hescape.2.trans (List.suffix_cons _ _)) (.refl _ _)
    case h_2 hread =>
      rw [hread] at hescape
      exact hescape
  · rfl

theorem readRepeat_succ (h : AllReadSoundly fuel) (hroom : 2 * levels ≤ room)
    (hseen : AreWithin (3 * levels) seen) (hts : IsTame levels ts) (first verbose : Bool)
    (s : Scope) (least : Nat) (most : Option Nat) :
    ReadsSoundly (AreWithin (3 * levels)) ts s
      (readRepeat (fuel + 1) room first verbose seen s least most ts) := by
  have hlast := gives_repeatLast hseen least most ts
  rw [readRepeat]
  split
  case h_1 hread =>
    rw [hread] at hlast
    exact h.goesOn hroom hlast.1 hts hlast.2 (.refl _ _)
  case h_2 hread =>
    rw [hread] at hlast
    exact hlast

/-- Behind the mark that closes a part, reading goes on in the scope of the part. -/
theorem goesOn_closed (h : AllReadSoundly fuel) (hroom : 2 * levels ≤ room)
    (hseen : AreWithin (3 * levels) seen) (hts : IsTame levels ts) {body : List Node}
    {inner s'' : Scope} {t : Token} (hpart : ReadsSoundly holds ts' s' (.ok (body, inner, t :: rest)))
    (hts' : ts' <:+ ts) (hbefore : s'.flags = s.flags) (hafter : s''.flags = inner.flags) :
    ReadsSoundly (AreWithin (3 * levels)) ts s
      (readSequence fuel room first verbose seen s'' rest) := by
  have hflags := hpart.2.2.mono hts'
  rw [hbefore, ← hafter] at hflags
  exact h.goesOn hroom hseen hts ((suffix_tail hpart.2.1).trans hts') hflags

/-! ### Groups

The body of a group is read with fewer calls, and has three levels less. -/

theorem nested_choices (h : AllReadSoundly fuel) (hroom : 2 * (levels + 1) ≤ room)
    (hts : IsTame levels ts) (verbose : Bool) (s : Scope) :
    ReadsSoundly (heightOf · ≤ 3 * levels + 2) ts s (nested 2 room fun room =>
      readChoices fuel room false verbose [] s ts) :=
  .nested (by omega) (h.choices (by omega) false verbose (List.forall_mem_nil _) s hts)

theorem nested_sequence (h : AllReadSoundly fuel) (hroom : 2 * (levels + 1) ≤ room)
    (hts : IsTame levels ts) (verbose : Bool) (s : Scope) :
    ReadsSoundly (AreWithin (3 * levels)) ts s (nested 1 room fun room =>
      readSequence fuel room false verbose [] s ts) :=
  .nested (by omega) (h.sequence (by omega) false verbose .nil s hts)

theorem readGroup_look (h : AllReadSoundly fuel) (hroom : 2 * (levels + 1) ≤ room)
    (hseen : AreWithin (3 * (levels + 1)) seen) (hts : IsTame levels ts) {wanted : Bool}
    (hrest : rest <:+ ts) (first verbose : Bool) (s : Scope)
    (hopening : readOpening s ts = .ok (.lookAhead wanted rest) ∨
      readOpening s ts = .ok (.lookBehind wanted rest)) :
    ReadsSoundly (AreWithin (3 * (levels + 1))) ts s
      (readGroup (fuel + 1) room first verbose seen s ts) := by
  have hall : IsTame (levels + 1) ts := hts.mono (Nat.le_succ _)
  have hbody := h.nested_choices hroom (hts.of_suffix hrest) verbose
  have hlook (width : Option Nat) {body : List Node} (hheight : heightOf body ≤ 3 * levels + 2) :
      AreWithin (3 * (levels + 1)) (.look width wanted body :: seen) :=
    hseen.cons (Nat.succ_le_succ hheight)
  rw [readGroup]
  rcases hopening with hopening | hopening <;> rw [hopening] <;> dsimp only
  case inl =>
    specialize hbody s
    split
    case h_1 hread =>
      rw [hread] at hbody
      exact h.goesOn_closed hroom (hlook none hbody.1) hall hbody hrest rfl rfl
    case h_2 => rfl
    case h_3 hread =>
      rw [hread] at hbody
      exact hbody
  case inr =>
    specialize hbody { s with behind := s.behind.or (some s.next) }
    split
    case h_1 hread =>
      rw [hread] at hbody
      exact h.goesOn_closed hroom (hlook (some _) hbody.1) hall hbody hrest rfl rfl
    case h_2 => rfl
    case h_3 hread =>
      rw [hread] at hbody
      exact hbody

theorem readGroup_condition (h : AllReadSoundly fuel) (hroom : 2 * (levels + 1) ≤ room)
    (hseen : AreWithin (3 * (levels + 1)) seen) (hts : IsTame levels ts) {number : Nat}
    (hrest : rest <:+ ts) (hflags : s'.flags = s.flags) (first verbose : Bool)
    (hopening : readOpening s ts = .ok (.condition number s' rest)) :
    ReadsSoundly (AreWithin (3 * (levels + 1))) ts s
      (readGroup (fuel + 1) room first verbose seen s ts) := by
  have hall : IsTame (levels + 1) ts := hts.mono (Nat.le_succ _)
  have hyes := h.nested_sequence hroom (hts.of_suffix hrest) verbose s'
  rw [readGroup, hopening]
  dsimp only
  split
  case h_1 yes s'' left hread =>
    rw [hread] at hyes
    have hleft := suffix_tail hyes.2.1
    have hno := (h.nested_sequence hroom (hts.of_suffix (hleft.trans hrest)) verbose s'').trans hleft
      hyes.2.2
    split
    case h_1 no _ _ hread' =>
      rw [hread'] at hno
      have hheights : max (heightOf yes) (heightOf no) ≤ 3 * levels + 1 :=
        Nat.max_le.mpr ⟨hyes.1.heightOf_le, hno.1.heightOf_le⟩
      have hnodes : AreWithin (3 * (levels + 1)) (.conditional number yes no :: seen) :=
        hseen.cons (by rw [Node.height]; omega)
      exact h.goesOn_closed hroom hnodes hall hno hrest hflags rfl
    case h_2 => rfl
    case h_3 hread' =>
      rw [hread'] at hno
      exact hno
  case h_2 yes _ _ hread =>
    rw [hread] at hyes
    have hheight : heightOf yes ≤ 3 * levels + 1 := hyes.1.heightOf_le
    have hnodes : AreWithin (3 * (levels + 1)) (.conditional number yes [] :: seen) :=
      hseen.cons (by rw [Node.height, heightOf]; omega)
    exact h.goesOn_closed hroom hnodes hall hyes hrest hflags rfl
  case h_3 => rfl
  case h_4 hread =>
    rw [hread] at hyes
    exact hyes

theorem readGroup_body (h : AllReadSoundly fuel) (hroom : 2 * (levels + 1) ≤ room)
    (hseen : AreWithin (3 * (levels + 1)) seen) (hts : IsTame levels ts) {number : Option Nat}
    {atomic : Bool} {on off : Flags} (hrest : rest <:+ ts) (hflags : s'.flags = s.flags)
    (first verbose : Bool)
    (hopening : readOpening s ts = .ok (.body number atomic on off s' rest)) :
    ReadsSoundly (AreWithin (3 * (levels + 1))) ts s
      (readGroup (fuel + 1) room first verbose seen s ts) := by
  have hbody := h.nested_choices hroom (hts.of_suffix hrest)
    ((verbose || on.verbose) && !off.verbose) s'
  rw [readGroup, hopening]
  dsimp only
  split
  case h_1 body _ _ hread =>
    rw [hread] at hbody
    have hnode : (if atomic then Node.atomic body else .group number on off body).height =
        heightOf body + 1 := by cases atomic <;> rfl
    have hheight : heightOf body ≤ 3 * levels + 2 := hbody.1
    exact h.goesOn_closed hroom (hseen.cons (by omega)) (hts.mono (Nat.le_succ _)) hbody hrest hflags
      (by cases number <;> rfl)
  case h_2 => rfl
  case h_3 hread =>
    rw [hread] at hbody
    exact hbody

theorem readGroup_succ (h : AllReadSoundly fuel) (hroom : 2 * (levels + 1) ≤ room)
    (hseen : AreWithin (3 * (levels + 1)) seen) (hts : IsTame levels ts) (first verbose : Bool)
    (s : Scope) :
    ReadsSoundly (AreWithin (3 * (levels + 1))) ts s
      (readGroup (fuel + 1) room first verbose seen s ts) := by
  have hall : IsTame (levels + 1) ts := hts.mono (Nat.le_succ _)
  have hsound := opensSoundly_readOpening s ts
  cases hopening : readOpening s ts with
  | error refusal =>
      rw [hopening] at hsound
      rw [readGroup, hopening]
      exact hsound
  | ok opening =>
      rw [hopening] at hsound
      cases opening with
      | done node s' rest =>
          obtain ⟨hrest, hflags, hflat⟩ := hsound
          have hnodes : AreWithin (3 * (levels + 1)) (node.toList ++ seen) := by
            cases node with
            | none => exact hseen
            | some n => exact hseen.cons (hflat n rfl ▸ Nat.zero_le _)
          rw [readGroup, hopening]
          exact h.goesOn hroom hnodes hall hrest (hflags ▸ .refl _ _)
      | globalFlags on rest =>
          rw [readGroup, hopening]
          dsimp only
          split
          · exact h.goesOn hroom hseen hall hsound.1 hsound.2.or
          · rfl
      | lookAhead wanted rest =>
          exact h.readGroup_look hroom hseen hts hsound first verbose s (.inl hopening)
      | lookBehind wanted rest =>
          exact h.readGroup_look hroom hseen hts hsound first verbose s (.inr hopening)
      | condition number s' rest =>
          exact h.readGroup_condition hroom hseen hts hsound.1 hsound.2 first verbose hopening
      | body number atomic on off s' rest =>
          exact h.readGroup_body hroom hseen hts hsound.1 hsound.2 first verbose hopening

/-! ### All readers -/

theorem zero : AllReadSoundly 0 where
  choices _ _ _ _ _ _ _ _ := rfl
  sequence _ _ _ _ _ _ _ _ := rfl
  repetition _ _ _ _ _ _ _ _ _ _ := rfl
  group _ _ _ _ _ _ _ _ := rfl

theorem succ (h : AllReadSoundly fuel) : AllReadSoundly (fuel + 1) where
  choices hroom top verbose _ hbefore s _ hts := h.readChoices_succ hroom hbefore hts top verbose s
  sequence hroom first verbose _ hseen s _ hts :=
    h.readSequence_succ hroom hseen hts first verbose s
  repetition hroom first verbose _ hseen s least most _ hts :=
    h.readRepeat_succ hroom hseen hts first verbose s least most
  group hroom first verbose _ hseen s _ hts := h.readGroup_succ hroom hseen hts first verbose s

end AllReadSoundly

end Readers

/-! ## Texts -/

section Texts

variable {s : String} {cs : List Char}

end Texts

/-! ## Too many levels -/

end Clearance.Pattern
