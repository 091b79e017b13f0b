/-
# Searching for patterns

A backtracking matcher. Each part of a pattern is a step that is told how the search goes on after
it, and tries its possibilities in order of preference. Steps are defined by recursion on the
pattern; a repetition is bounded by its least count and by the characters that are left, because a
further round must have moved on.
-/

import Clearance.Pattern.Fold
import Clearance.Pattern.Reader

namespace Clearance.Pattern

/-- A place in the subject with the ends of the groups matched so far, latest first. -/
structure Point where
  index : Nat
  starts : List (Nat × Nat) := []
  stops : List (Nat × Nat) := []

/-- How a search goes on from a point. -/
abbrev Next := Point → Option Point

/-- A part of a search: from a point, by what comes after. -/
abbrev Step := Point → Next → Option Point

/-- The characters between which a group was last matched. -/
def Point.group? (p : Point) (number : Nat) : Option (Nat × Nat) :=
  match p.starts.lookup number, p.stops.lookup number with
  | some start, some stop => if start ≤ stop then some (start, stop) else none
  | _, _ => none

/-- The code point at an index of the subject. -/
def codeAt (subject : Array Char) (index : Nat) : Option Nat := subject[index]?.map Char.toNat

/-- Match one character that satisfies a test. -/
def one (subject : Array Char) (test : Nat → Bool) : Step := fun p next =>
  match codeAt subject p.index with
  | some code => if test code then next { p with index := p.index + 1 } else none
  | none => none

/-- Whether there is a word character at an index. -/
def wordAt (subject : Array Char) (f : Flags) (index : Nat) : Bool :=
  (codeAt subject index).any fun code => Category.word.holds f code

/-- Whether word characters begin or end at an index. -/
def atBoundary (subject : Array Char) (f : Flags) (index : Nat) : Bool :=
  (index != 0 && wordAt subject f (index - 1)) != wordAt subject f index

/-- Whether an anchor holds at an index. In an empty subject there is neither a boundary nor an
inside. -/
def Anchor.holds (subject : Array Char) (f : Flags) (index : Nat) : Anchor → Bool
  | textStart => index == 0
  | lineStart => index == 0 || (f.multiLine && subject[index - 1]? == some '\n')
  | lineEnd =>
    index == subject.size || (subject[index]? == some '\n' &&
      (f.multiLine || index + 1 == subject.size))
  | textEnd => index == subject.size
  | boundary => subject.size != 0 && atBoundary subject f index
  | inside => subject.size != 0 && !atBoundary subject f index

/-- Most rounds first. A round beyond the least count must not begin where the one before began. -/
def greedy (body : Step) (least : Nat) (most : Option Nat) :
    (fuel rounds : Nat) → (last : Option Nat) → Step
  | 0, _, _ => fun _ _ => none
  | fuel + 1, rounds, last => fun p next =>
    if rounds < least then
      body p fun q => greedy body least most fuel (rounds + 1) last q next
    else if most.all (rounds < ·) && last != some p.index then
      match body p fun q => greedy body least most fuel (rounds + 1) (some p.index) q next with
      | some found => some found
      | none => next p
    else next p

/-- Fewest rounds first. -/
def lazily (body : Step) (least : Nat) (most : Option Nat) :
    (fuel rounds : Nat) → (last : Option Nat) → Step
  | 0, _, _ => fun _ _ => none
  | fuel + 1, rounds, last => fun p next =>
    if rounds < least then
      body p fun q => lazily body least most fuel (rounds + 1) last q next
    else match next p with
      | some found => some found
      | none =>
        if most.all (rounds < ·) && last != some p.index then
          body p fun q => lazily body least most fuel (rounds + 1) (some p.index) q next
        else none

/-- As many rounds as can be had one after the other, each taken as it first matches. -/
def possessive (body : Step) (least : Nat) (most : Option Nat) :
    (fuel rounds : Nat) → (last : Option Nat) → Next
  | 0, _, _ => fun _ => none
  | fuel + 1, rounds, last => fun p =>
    if rounds < least then
      (body p some).bind (possessive body least most fuel (rounds + 1) last)
    else if most.all (rounds < ·) && last != some p.index then
      match body p some with
      | some q => possessive body least most fuel (rounds + 1) (some p.index) q
      | none => some p
    else some p

/-- A repetition of either kind. -/
def looped (subject : Array Char) (greed : Greed) (least : Nat) (most : Option Nat) (body : Step) :
    Step := fun p next =>
  let fuel := least + (subject.size - p.index) + 3
  match greed with
  | .greedy => greedy body least most fuel 0 none p next
  | .lazy => lazily body least most fuel 0 none p next
  | .possessive => (possessive body least most fuel 0 none p).bind next

/-- Match again what a group matched. -/
def again (subject : Array Char) (f : Flags) : (count : Nat) → (source index : Nat) → Bool
  | 0, _, _ => true
  | count + 1, source, index =>
    match codeAt subject source, codeAt subject index with
    | some a, some b =>
      (if f.ignoreCase then f.lower a == f.lower b else a == b) &&
        again subject f count (source + 1) (index + 1)
    | _, _ => false

mutual

/-- The step of one part. -/
def Node.step (subject : Array Char) : Node → Flags → Step
  | .anchor a, f => fun p next => if a.holds subject f p.index then next p else none
  | .char code negated, f => one subject fun c => f.sameChar code c != negated
  | .set items negated, f => one subject fun c => f.inSet items c != negated
  | .any, f => one subject fun c => f.dotAll || c != 10
  | .group number on off body, f => fun p next =>
    match number with
    | none => stepAll subject body (f.within on off) p next
    | some n =>
      stepAll subject body (f.within on off) { p with starts := (n, p.index) :: p.starts } fun q =>
        next { q with stops := (n, q.index) :: q.stops }
  | .atomic body, f => fun p next => (stepAll subject body f p some).bind next
  | .branch choices, f => stepAny subject choices f
  | .loop greed least most body, f => looped subject greed least most (stepAll subject body f)
  | .backReference number, f => fun p next =>
    match p.group? number with
    | some (start, stop) =>
      if again subject f (stop - start) start p.index then
        next { p with index := p.index + (stop - start) }
      else none
    | none => none
  | .conditional number yes no, f => fun p next =>
    if (p.group? number).isSome then stepAll subject yes f p next else stepAll subject no f p next
  | .look behind wanted body, f => fun p next =>
    let width := behind.getD 0
    let found :=
      if p.index < width then none
      else stepAll subject body f { p with index := p.index - width } some
    if wanted then found.bind fun q => next { q with index := p.index }
    else if found.isSome then none else next p

/-- The step of a sequence. -/
def stepAll (subject : Array Char) : List Node → Flags → Step
  | [], _ => fun p next => next p
  | node :: rest, f => fun p next => node.step subject f p fun q => stepAll subject rest f q next

/-- The step of alternatives, the first that leads on. -/
def stepAny (subject : Array Char) : List (List Node) → Flags → Step
  | [], _ => fun _ _ => none
  | choice :: rest, f => fun p next =>
    match stepAll subject choice f p next with
    | some found => some found
    | none => stepAny subject rest f p next

end

/-- Try a pattern at so many places, from one on. -/
def findFrom (pattern : Expression) (subject : Array Char) : (count : Nat) → (index : Nat) → Bool
  | 0, _ => false
  | count + 1, index =>
    (stepAll subject pattern.nodes pattern.flags { index := index } some).isSome ||
      findFrom pattern subject count (index + 1)

/-- Whether a pattern is found anywhere in a text. -/
def Expression.foundIn (pattern : Expression) (text : String) : Bool :=
  let subject := text.toList.toArray
  findFrom pattern subject (subject.size + 1) 0

end Clearance.Pattern
