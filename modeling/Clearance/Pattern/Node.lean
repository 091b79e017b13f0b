/-
# Patterns

The tree of a text pattern: characters and sets, anchors, groups, alternatives, repetitions, back
references, conditions and looks around. Characters are given by their code points, so that a
pattern may name ones that no text holds.
-/

namespace Clearance.Pattern

/-- The options that letters in a pattern turn on and off. -/
structure Flags where
  ignoreCase : Bool := false
  multiLine : Bool := false
  dotAll : Bool := false
  verbose : Bool := false
  /-- Classes and case know ASCII only. -/
  ascii : Bool := false
  /-- Classes and case know all scripts; the default. -/
  unicode : Bool := false
  /-- Repetitions are refused. -/
  single : Bool := false
deriving DecidableEq

/-- The flags of either. -/
def Flags.or (a b : Flags) : Flags where
  ignoreCase := a.ignoreCase || b.ignoreCase
  multiLine := a.multiLine || b.multiLine
  dotAll := a.dotAll || b.dotAll
  verbose := a.verbose || b.verbose
  ascii := a.ascii || b.ascii
  unicode := a.unicode || b.unicode
  single := a.single || b.single

/-- The flags of both. -/
def Flags.and (a b : Flags) : Flags where
  ignoreCase := a.ignoreCase && b.ignoreCase
  multiLine := a.multiLine && b.multiLine
  dotAll := a.dotAll && b.dotAll
  verbose := a.verbose && b.verbose
  ascii := a.ascii && b.ascii
  unicode := a.unicode && b.unicode
  single := a.single && b.single

/-- The flags inside a group that turns some on and some off. Choosing a script range replaces the
one chosen before. -/
def Flags.within (outer on off : Flags) : Flags where
  ignoreCase := (outer.ignoreCase || on.ignoreCase) && !off.ignoreCase
  multiLine := (outer.multiLine || on.multiLine) && !off.multiLine
  dotAll := (outer.dotAll || on.dotAll) && !off.dotAll
  verbose := (outer.verbose || on.verbose) && !off.verbose
  ascii := if on.ascii || on.unicode then on.ascii else outer.ascii
  unicode := if on.ascii || on.unicode then on.unicode else outer.unicode
  single := outer.single

/-- A class of characters. -/
inductive Category where
  | digit
  | blank
  | word
deriving DecidableEq

/-- A member of a set of characters. -/
inductive Item where
  | code (n : Nat)
  | range (low high : Nat)
  | category (c : Category) (negated : Bool)
deriving DecidableEq

/-- A place between characters. -/
inductive Anchor where
  | textStart
  | lineStart
  | lineEnd
  | textEnd
  | boundary
  | inside
deriving DecidableEq

/-- How a repetition chooses its count: most first, fewest first, or most without going back. -/
inductive Greed where
  | greedy
  | lazy
  | possessive
deriving DecidableEq

/-- A part of a pattern. -/
inductive Node where
  | anchor (a : Anchor)
  | char (code : Nat) (negated : Bool)
  | set (items : List Item) (negated : Bool)
  | any
  /-- A group; only a numbered one is remembered. -/
  | group (number : Option Nat) (on off : Flags) (body : List Node)
  /-- A group that is not entered again once it has been left. -/
  | atomic (body : List Node)
  | branch (choices : List (List Node))
  | loop (greed : Greed) (least : Nat) (most : Option Nat) (body : List Node)
  | backReference (number : Nat)
  /-- One of two bodies, by whether a group has been matched. -/
  | conditional (number : Nat) (yes no : List Node)
  /-- A look ahead, or a look behind at a body of a fixed width. -/
  | look (behind : Option Nat) (wanted : Bool) (body : List Node)

/-- Fewest and most characters that a part can match. -/
structure Width where
  low : Nat
  high : Nat
deriving DecidableEq

/-- Widths are not counted beyond this. -/
def Width.limit : Nat := Nat.pow 2 64

/-- A width within the limit. -/
def Width.capped (w : Width) : Width := ⟨min w.low limit, min w.high limit⟩

mutual

/-- The width of one part, given the widths of the groups. -/
def Node.width (groups : List (Option Width)) : Node → Width
  | .anchor _ | .look .. => ⟨0, 0⟩
  | .char .. | .set .. | .any => ⟨1, 1⟩
  | .group _ _ _ body => widthOf groups body
  | .atomic body => widthOf groups body
  | .branch choices => widthOfChoices groups choices
  | .loop _ least most body =>
    let w := widthOf groups body
    let high := match most with
      | some n => w.high * n
      | none => if w.high == 0 then 0 else Width.limit
    ⟨w.low * least, high⟩
  | .backReference number => ((groups.getD (number - 1) none).getD ⟨0, 0⟩)
  | .conditional _ yes no =>
    let a := widthOf groups yes
    let b := widthOf groups no
    ⟨min a.low b.low, max a.high b.high⟩

/-- The width of a sequence. -/
def widthOf (groups : List (Option Width)) : List Node → Width
  | [] => ⟨0, 0⟩
  | node :: rest =>
    let a := node.width groups
    let b := widthOf groups rest
    Width.capped ⟨a.low + b.low, a.high + b.high⟩

/-- The least and the greatest width of alternatives. -/
def widthOfChoices (groups : List (Option Width)) : List (List Node) → Width
  | [] => ⟨Width.limit, 0⟩
  | choice :: rest =>
    let a := widthOf groups choice
    let b := widthOfChoices groups rest
    ⟨min a.low b.low, max a.high b.high⟩

end

mutual

/-- How many levels there are in one part: each has a call of its own when a pattern is made ready. -/
def Node.height : Node → Nat
  | .anchor _ | .char .. | .set .. | .any | .backReference _ => 0
  | .group _ _ _ body => heightOf body + 1
  | .atomic body => heightOf body + 1
  | .branch choices => heightOfChoices choices + 1
  | .loop _ _ _ body => heightOf body + 1
  | .conditional _ yes no => max (heightOf yes) (heightOf no) + 1
  | .look _ _ body => heightOf body + 1

/-- How many levels there are in a sequence. -/
def heightOf : List Node → Nat
  | [] => 0
  | node :: rest => max node.height (heightOf rest)

/-- How many levels there are in alternatives. -/
def heightOfChoices : List (List Node) → Nat
  | [] => 0
  | choice :: rest => max (heightOf choice) (heightOfChoices rest)

end

end Clearance.Pattern
