/-
# Reading patterns

From the text of a pattern to its tree. A backslash and the character behind it are one token. A
pattern that breaks a rule is refused; four faults are told apart from the rest because they are not
faults of form: a repeat count that is too large, two ranges of scripts chosen at once, a number with
more digits than are converted, and more levels than there are calls for.

A level takes two calls while a pattern is read, one for its alternatives and one for a sequence, and
up to three when the pattern is made ready. How many calls are left for that is taken to be the same
wherever a pattern is read. Of the number no more is used than that there are enough for three hundred
levels and not for five hundred.
-/

import Clearance.Decimal.Reading
import Clearance.Pattern.Node
import Clearance.Text.Name

namespace Clearance.Pattern

/-- Why a pattern is not accepted. -/
inductive Refusal where
  | malformed
  | repeatTooLarge
  | conflictingFlags
  | tooLong (digits : Nat)
  | tooDeep
deriving DecidableEq

/-- A character, alone or behind a backslash, or a backslash with nothing behind it. -/
inductive Token where
  | plain (c : Char)
  | escaped (c : Char)
  | dangling
deriving DecidableEq

/-- The tokens of a pattern. -/
def tokens : List Char → List Token
  | [] => []
  | ['\\'] => [.dangling]
  | '\\' :: c :: rest => .escaped c :: tokens rest
  | c :: rest => .plain c :: tokens rest

/-- A token as it was written. -/
def Token.chars : Token → List Char
  | plain c => [c]
  | escaped c => ['\\', c]
  | dangling => ['\\']

/-- What is known while a pattern is read. -/
structure Scope where
  /-- Flags for the whole pattern. -/
  flags : Flags := {}
  names : List (String × Nat) := []
  /-- The widths of the groups opened so far; an open group has none yet. -/
  widths : List (Option Width) := []
  /-- Inside a look behind, the number that the next group had at its start. -/
  behind : Option Nat := none
  /-- The group numbers that conditions ask for. -/
  conditions : List Nat := []
  /-- Whether some look behind has a body of varying width. -/
  varying : Bool := false
  /-- Whether something is repeated. -/
  repeats : Bool := false

/-- The number that the next group gets. -/
def Scope.next (s : Scope) : Nat := s.widths.length + 1

/-- Whether a group has been closed. -/
def Scope.isClosed (s : Scope) (number : Nat) : Bool :=
  number != 0 && (s.widths.getD (number - 1) none).isSome

/-- Whether a group may be referred to here: inside a look behind only if it was closed before. -/
def Scope.mayRefer (s : Scope) (number : Nat) : Bool :=
  match s.behind with
  | none => true
  | some first => s.isClosed number && number < first

/-- Reading fails, or gives a result with the scope and the tokens that are left. -/
abbrev Outcome (α : Type) := Except Refusal (α × Scope × List Token)

/-- How many calls are left for the levels of a pattern. -/
def room : Nat := 940

/-- Read what stands on another level, which takes so many of the calls that are left. -/
def nested {α : Type} (calls room : Nat) (read : Nat → Outcome α) : Outcome α :=
  if room < calls then .error .tooDeep else read (room - calls)

/-- Up to so many plain characters of a class. -/
def takeUpTo (p : Char → Bool) : (count : Nat) → List Token → List Char × List Token
  | count + 1, .plain c :: rest =>
    if p c then
      let (cs, left) := takeUpTo p count rest
      (c :: cs, left)
    else ([], .plain c :: rest)
  | _, ts => ([], ts)

/-- Plain digits as far as they go. -/
def takeDigits (ts : List Token) : List Char × List Token :=
  takeUpTo Decimal.isPlainDigit ts.length ts

/-- Whether a character is an octal digit. -/
def isOctal (c : Char) : Bool := '0' ≤ c && c ≤ '7'

/-- The value of a hexadecimal digit. -/
def hexDigit? (c : Char) : Option Nat :=
  if '0' ≤ c && c ≤ '9' then some (c.toNat - 48)
  else if 'a' ≤ c && c ≤ 'f' then some (c.toNat - 87)
  else if 'A' ≤ c && c ≤ 'F' then some (c.toNat - 55)
  else none

/-- The value of digits in a base. -/
def digitsIn (base : Nat) (cs : List Char) : Nat :=
  cs.foldl (fun n c => n * base + (hexDigit? c).getD 0) 0

/-- Whether a character is an ASCII letter. -/
def isLetter (c : Char) : Bool := ('a' ≤ c && c ≤ 'z') || ('A' ≤ c && c ≤ 'Z')

/-- Exactly so many hexadecimal digits, as a code point. -/
def hexEscape (count : Nat) (ts : List Token) : Except Refusal (Nat × List Token) :=
  let (cs, rest) := takeUpTo (fun c => (hexDigit? c).isSome) count ts
  let n := digitsIn 16 cs
  if cs.length == count && n ≤ 0x10FFFF then .ok (n, rest) else .error .malformed

/-- The text up to a mark, which must not be empty. -/
def nameUntil (mark : Char) : List Token → Option (String × List Token)
  | ts =>
    let name := ts.takeWhile (· != .plain mark)
    match ts.drop name.length with
    | _ :: rest =>
      if name.isEmpty then none else some (String.ofList (name.flatMap Token.chars), rest)
    | [] => none

/-- A character by its name in braces. -/
def namedEscape : List Token → Except Refusal (Nat × List Token)
  | .plain '\x7b' :: ts =>
    match nameUntil '\x7d' ts with
    | some (name, rest) =>
      match Text.named? name with
      | some n => .ok (n, rest)
      | none => .error .malformed
    | none => .error .malformed
  | _ => .error .malformed

/-- The class that an escaped letter stands for. -/
def categoryEscape? : Char → Option Item
  | 'd' => some (.category .digit false)
  | 'D' => some (.category .digit true)
  | 's' => some (.category .blank false)
  | 'S' => some (.category .blank true)
  | 'w' => some (.category .word false)
  | 'W' => some (.category .word true)
  | _ => none

/-- The control character that an escaped letter stands for. -/
def controlEscape? : Char → Option Nat
  | 'a' => some 7
  | 'f' => some 12
  | 'n' => some 10
  | 'r' => some 13
  | 't' => some 9
  | 'v' => some 11
  | _ => none

/-- Escapes by number or name that are the same inside and outside of sets. -/
def codeEscape? (c : Char) (ts : List Token) : Option (Except Refusal (Nat × List Token)) :=
  match c with
  | 'x' => some (hexEscape 2 ts)
  | 'u' => some (hexEscape 4 ts)
  | 'U' => some (hexEscape 8 ts)
  | 'N' => some (namedEscape ts)
  | _ => none

/-- An escape inside a set. -/
def setEscape (c : Char) (ts : List Token) : Except Refusal (Item × List Token) :=
  match categoryEscape? c, codeEscape? c ts with
  | some item, _ => .ok (item, ts)
  | none, some result => result.map fun (n, rest) => (.code n, rest)
  | none, none =>
    if c == 'b' then .ok (.code 8, ts)
    else if isOctal c then
      let (cs, rest) := takeUpTo isOctal 2 ts
      let n := digitsIn 8 (c :: cs)
      if n ≤ 0o377 then .ok (.code n, rest) else .error .malformed
    else match controlEscape? c with
      | some n => .ok (.code n, ts)
      | none =>
        if isLetter c || Decimal.isPlainDigit c then .error .malformed else .ok (.code c.toNat, ts)

/-- A back reference by number. -/
def refer (scope : Scope) (number : Nat) (rest : List Token) : Except Refusal (Node × List Token) :=
  if number < scope.next && scope.isClosed number && scope.mayRefer number then
    .ok (.backReference number, rest)
  else .error .malformed

/-- An escape outside of sets. Digits are an octal escape if there are three octal ones or the first
is zero, and a group's number otherwise. -/
def escape (scope : Scope) (c : Char) (ts : List Token) : Except Refusal (Node × List Token) :=
  match categoryEscape? c, codeEscape? c ts with
  | some item, _ => .ok (.set [item] false, ts)
  | none, some result => result.map fun (n, rest) => (.char n false, rest)
  | none, none =>
    if c == 'A' then .ok (.anchor .textStart, ts)
    else if c == 'Z' then .ok (.anchor .textEnd, ts)
    else if c == 'b' then .ok (.anchor .boundary, ts)
    else if c == 'B' then .ok (.anchor .inside, ts)
    else if c == '0' then
      let (cs, rest) := takeUpTo isOctal 2 ts
      .ok (.char (digitsIn 8 (c :: cs)) false, rest)
    else if Decimal.isPlainDigit c then
      match ts with
      | .plain d :: .plain e :: rest =>
        if isOctal c && isOctal d && isOctal e then
          let n := digitsIn 8 [c, d, e]
          if n ≤ 0o377 then .ok (.char n false, rest) else .error .malformed
        else if Decimal.isPlainDigit d then refer scope (digitsIn 10 [c, d]) (.plain e :: rest)
        else refer scope (digitsIn 10 [c]) ts
      | .plain d :: rest =>
        if Decimal.isPlainDigit d then refer scope (digitsIn 10 [c, d]) rest
        else refer scope (digitsIn 10 [c]) ts
      | _ => refer scope (digitsIn 10 [c]) ts
    else match controlEscape? c with
      | some n => .ok (.char n false, ts)
      | none => if isLetter c then .error .malformed else .ok (.char c.toNat false, ts)

/-- One end of a range or a lone member of a set. -/
def setMember : Token → List Token → Except Refusal (Item × List Token)
  | .plain c, ts => .ok (.code c.toNat, ts)
  | .escaped c, ts => setEscape c ts
  | .dangling, _ => .error .malformed

/-- The members of a set up to its closing bracket, which is a member in first place. -/
def setItems : (fuel : Nat) → (seen : List Item) → List Token →
    Except Refusal (List Item × List Token)
  | 0, _, _ | _, _, [] => .error .malformed
  | fuel + 1, seen, t :: ts =>
    if t == .plain ']' && !seen.isEmpty then .ok (seen.reverse, ts)
    else
      match setMember t ts with
      | .error refusal => .error refusal
      | .ok (first, .plain '-' :: .plain ']' :: rest) =>
        .ok ((.code '-'.toNat :: first :: seen).reverse, rest)
      | .ok (first, .plain '-' :: u :: rest) =>
        match first, setMember u rest with
        | .code low, .ok (.code high, rest) =>
          if high < low then .error .malformed
          else setItems fuel (.range low high :: seen) rest
        | _, .error refusal => .error refusal
        | _, _ => .error .malformed
      | .ok (first, rest) => setItems fuel (first :: seen) rest

/-- A set of items. A set of one character is that character. -/
def setNode (negated : Bool) : List Item → Node
  | [.code n] => .char n negated
  | items => .set items negated

/-- A set after its opening bracket. -/
def readSet (ts : List Token) : Except Refusal (Node × List Token) :=
  let (negated, body) := match ts with
    | .plain '^' :: rest => (true, rest)
    | _ => (false, ts)
  (setItems (body.length + 1) [] body).map fun (items, rest) => (setNode negated items.eraseDups, rest)

/-- Whether a text can name a group: a letter or underscore, then word characters. -/
def isName (s : String) : Bool :=
  match s.toList with
  | [] => false
  | c :: rest =>
    Text.isWord c.toNat && !Text.isDigit c.toNat && rest.all fun c => Text.isWord c.toNat

/-- The flag of a letter. -/
def flag? : Char → Option Flags
  | 'i' => some { ignoreCase := true }
  | 'm' => some { multiLine := true }
  | 's' => some { dotAll := true }
  | 'x' => some { verbose := true }
  | 'a' => some { ascii := true }
  | 'u' => some { unicode := true }
  | 't' => some { single := true }
  | _ => none

/-- Letters of flags that are turned on, and the sign after them. -/
def flagsOn : (seen : Flags) → List Token → Option (Flags × Char × List Token)
  | seen, .plain c :: rest =>
    match flag? c with
    | some f =>
      let all := seen.or f
      if all.ascii && all.unicode then none else flagsOn all rest
    | none => if c == ')' || c == ':' || c == '-' then some (seen, c, rest) else none
  | _, _ => none

/-- Letters of flags that are turned off, up to a colon. -/
def flagsOff : (seen : Flags) → List Token → Option (Flags × List Token)
  | seen, .plain c :: rest =>
    match flag? c with
    | some f => if f.ascii || f.unicode then none else flagsOff (seen.or f) rest
    | none => if c == ':' && seen != {} then some (seen, rest) else none
  | _, _ => none

/-- Flags after a question mark: for the whole pattern, or on and off for a group. -/
def readFlags (ts : List Token) : Option (Flags × Option Flags × List Token) :=
  match flagsOn {} ts with
  | some (on, ')', rest) => if on == {} then none else some (on, none, rest)
  | some (on, ':', rest) => if on == {} || on.single then none else some (on, some {}, rest)
  | some (on, _, rest) =>
    match flagsOff {} rest with
    | some (off, rest) =>
      if on.single || off.single || on.and off != {} then none else some (on, some off, rest)
    | none => none
  | none => none

/-- Skip a comment up to its closing parenthesis. -/
def skipComment : List Token → Option (List Token)
  | [] => none
  | .plain ')' :: rest => some rest
  | _ :: rest => skipComment rest

/-- Skip a comment up to the end of its line. -/
def skipLine : List Token → List Token
  | [] => []
  | .plain '\n' :: rest => rest
  | .dangling :: rest => .dangling :: rest
  | _ :: rest => skipLine rest

/-- Counts must stay below this. -/
def repeatLimit : Nat := 4294967295

/-- The count of a bound in braces. -/
def repeatCount (digits : List Char) : Except Refusal Nat :=
  if Decimal.digitLimit < digits.length then .error (.tooLong digits.length)
  else
    let n := Decimal.digitsValue digits
    if repeatLimit ≤ n then .error .repeatTooLarge else .ok n

/-- The bounds of a repetition in braces, if the braces hold bounds. -/
def readBounds (ts : List Token) : Except Refusal (Option (Nat × Option Nat × List Token)) :=
  let (low, rest) := takeDigits ts
  let (high, rest) := match rest with
    | .plain ',' :: more => takeDigits more
    | _ => (low, rest)
  match rest with
  | .plain '\x7d' :: rest =>
    if ts.head? == some (.plain '\x7d') then .ok none
    else if rest == [.dangling] then .error .malformed
    else do
      let least ← if low.isEmpty then pure 0 else repeatCount low
      let most ← if high.isEmpty then pure none else (repeatCount high).map some
      if most.any (· < least) then .error .malformed else .ok (some (least, most, rest))
  | _ => .ok none

/-- Whether a node may be repeated. -/
def Node.mayRepeat : Node → Bool
  | .anchor _ | .loop .. => false
  | _ => true

/-- The body of a repetition: a group that only holds together is opened. -/
def Node.repeated : Node → List Node
  | .group none on off body => if on == {} && off == {} then body else [.group none on off body]
  | node => [node]

/-- A sequence in which groups that only hold together are opened. -/
def opened (nodes : List Node) : List Node :=
  nodes.flatMap fun node => match node with
    | .group none on off body => if on == {} && off == {} then body else [node]
    | _ => [node]

/-- Put a repetition in place of the last node; the sequence is given last node first. -/
def repeatLast (least : Nat) (most : Option Nat) (seen : List Node) (ts : List Token) :
    Except Refusal (List Node × List Token) :=
  match seen with
  | [] => .error .malformed
  | node :: before =>
    if !node.mayRepeat then .error .malformed
    else
      let (greed, rest) := match ts with
        | .plain '?' :: rest => (Greed.lazy, rest)
        | .plain '+' :: rest => (Greed.possessive, rest)
        | _ => (Greed.greedy, ts)
      .ok (.loop greed least most node.repeated :: before, rest)

/-- The members that an alternative contributes to a set of characters. -/
def asItems? : List Node → Option (List Item)
  | [.char n false] => some [.code n]
  | [.set items false] => some items
  | _ => none

/-- Alternatives as one sequence; alternatives of one character each are a set. -/
def joinChoices : List (List Node) → List Node
  | [only] => only
  | choices =>
    match choices.mapM asItems? with
    | some items => [.set items.flatten.eraseDups false]
    | none => [.branch choices]

/-- Open a group, under a name if it has one. -/
def Scope.openGroup (s : Scope) (name : Option String) : Except Refusal (Nat × Scope) :=
  let number := s.next
  let opened := { s with widths := s.widths ++ [none] }
  match name with
  | none => .ok (number, opened)
  | some name =>
    if (s.names.lookup name).isSome then .error .malformed
    else .ok (number, { opened with names := (name, number) :: s.names })

/-- Close a group whose body has been read. -/
def Scope.closeGroup (s : Scope) (number : Nat) (body : List Node) : Scope :=
  { s with widths := s.widths.set (number - 1) (some (widthOf s.widths body)) }

/-- The group that a condition asks for, by name or by number. -/
def Scope.condition (s : Scope) (name : String) : Except Refusal (Nat × Scope) :=
  if isName name then
    match s.names.lookup name with
    | some number => .ok (number, s)
    | none => .error .malformed
  else match Decimal.readInt name with
    | .ok n =>
      if 1 ≤ n && n < 1073741823 then .ok (n.toNat, { s with conditions := n.toNat :: s.conditions })
      else .error .malformed
    | .error _ => .error .malformed

/-- What a parenthesis with a question mark begins. -/
inductive Opening where
  | done (node : Option Node) (scope : Scope) (rest : List Token)
  | lookAhead (wanted : Bool) (rest : List Token)
  | lookBehind (wanted : Bool) (rest : List Token)
  | condition (number : Nat) (scope : Scope) (rest : List Token)
  | body (number : Option Nat) (atomic : Bool) (on off : Flags) (scope : Scope) (rest : List Token)
  | globalFlags (on : Flags) (rest : List Token)

/-- Read what follows a parenthesis, up to the body of the group. -/
def readOpening (s : Scope) : List Token → Except Refusal Opening
  | .plain '?' :: .plain 'P' :: .plain '<' :: rest =>
    match nameUntil '>' rest with
    | some (name, rest) =>
      if isName name then (s.openGroup (some name)).map fun (number, s) =>
        .body (some number) false {} {} s rest
      else .error .malformed
    | none => .error .malformed
  | .plain '?' :: .plain 'P' :: .plain '=' :: rest =>
    match nameUntil ')' rest with
    | some (name, rest) =>
      match s.names.lookup name with
      | some number => (refer s number rest).map fun (node, rest) => .done (some node) s rest
      | none => .error .malformed
    | none => .error .malformed
  | .plain '?' :: .plain 'P' :: _ => .error .malformed
  | .plain '?' :: .plain ':' :: rest => .ok (.body none false {} {} s rest)
  | .plain '?' :: .plain '#' :: rest =>
    match skipComment rest with
    | some rest => .ok (.done none s rest)
    | none => .error .malformed
  | .plain '?' :: .plain '=' :: rest => .ok (.lookAhead true rest)
  | .plain '?' :: .plain '!' :: rest => .ok (.lookAhead false rest)
  | .plain '?' :: .plain '<' :: .plain '=' :: rest => .ok (.lookBehind true rest)
  | .plain '?' :: .plain '<' :: .plain '!' :: rest => .ok (.lookBehind false rest)
  | .plain '?' :: .plain '<' :: _ => .error .malformed
  | .plain '?' :: .plain '(' :: rest =>
    match nameUntil ')' rest with
    | some (name, rest) =>
      match s.condition name with
      | .ok (number, s) =>
        if s.mayRefer number then .ok (.condition number s rest) else .error .malformed
      | .error refusal => .error refusal
    | none => .error .malformed
  | .plain '?' :: .plain '>' :: rest => .ok (.body none true {} {} s rest)
  | .plain '?' :: rest =>
    match readFlags rest with
    | some (on, none, rest) => .ok (.globalFlags on rest)
    | some (on, some off, rest) => .ok (.body none false on off s rest)
    | none => .error .malformed
  | ts => (s.openGroup none).map fun (number, s) => .body (some number) false {} {} s ts

/-- Whether a character ends or separates alternatives. -/
def isStop (c : Char) : Bool := c == '|' || c == ')'

/-- Blanks that a verbose pattern may hold anywhere between its parts. -/
def isPatternBlank (c : Char) : Bool := c == ' ' || (9 ≤ c.toNat && c.toNat ≤ 13)

mutual

/-- Alternatives up to a closing parenthesis or the end. At the top, flags for the whole pattern take
effect with the next alternative. -/
def readChoices (fuel room : Nat) (top verbose : Bool) (before : List (List Node)) (s : Scope)
    (ts : List Token) : Outcome (List Node) :=
  match fuel with
  | 0 => .error .malformed
  | fuel + 1 =>
    match readSequence fuel room (top && before.isEmpty) verbose [] s ts with
    | .error refusal => .error refusal
    | .ok (nodes, s, .plain '|' :: rest) =>
      readChoices fuel room top (if top then s.flags.verbose else verbose) (nodes :: before) s rest
    | .ok (nodes, s, rest) => .ok (joinChoices (nodes :: before).reverse, s, rest)
termination_by structural fuel

/-- One alternative, after the nodes read already (last first). `first` holds where flags for the
whole pattern may stand. -/
def readSequence (fuel room : Nat) (first verbose : Bool) (seen : List Node) (s : Scope)
    (ts : List Token) : Outcome (List Node) :=
  match fuel with
  | 0 => .error .malformed
  | fuel + 1 =>
    match ts with
    | [] => .ok (opened seen.reverse, s, [])
    | .dangling :: _ => .error .malformed
    | .escaped c :: rest =>
      match escape s c rest with
      | .ok (node, rest) => readSequence fuel room first verbose (node :: seen) s rest
      | .error refusal => .error refusal
    | .plain c :: rest =>
      if isStop c then .ok (opened seen.reverse, s, ts)
      else if verbose && isPatternBlank c then readSequence fuel room first verbose seen s rest
      else if verbose && c == '#' then readSequence fuel room first verbose seen s (skipLine rest)
      else match c with
        | '[' =>
          match readSet rest with
          | .ok (node, rest) => readSequence fuel room first verbose (node :: seen) s rest
          | .error refusal => .error refusal
        | '?' => readRepeat fuel room first verbose seen s 0 (some 1) rest
        | '*' => readRepeat fuel room first verbose seen s 0 none rest
        | '+' => readRepeat fuel room first verbose seen s 1 none rest
        | '\x7b' =>
          match readBounds rest with
          | .ok (some (least, most, rest)) => readRepeat fuel room first verbose seen s least most rest
          | .ok none => readSequence fuel room first verbose (.char c.toNat false :: seen) s rest
          | .error refusal => .error refusal
        | '.' => readSequence fuel room first verbose (.any :: seen) s rest
        | '^' => readSequence fuel room first verbose (.anchor .lineStart :: seen) s rest
        | '$' => readSequence fuel room first verbose (.anchor .lineEnd :: seen) s rest
        | '(' => readGroup fuel room first verbose seen s rest
        | _ => readSequence fuel room first verbose (.char c.toNat false :: seen) s rest
termination_by structural fuel

/-- A repetition of the last node, and what follows. -/
def readRepeat (fuel room : Nat) (first verbose : Bool) (seen : List Node) (s : Scope) (least : Nat)
    (most : Option Nat) (ts : List Token) : Outcome (List Node) :=
  match fuel with
  | 0 => .error .malformed
  | fuel + 1 =>
    match repeatLast least most seen ts with
    | .ok (seen, rest) => readSequence fuel room first verbose seen { s with repeats := true } rest
    | .error refusal => .error refusal
termination_by structural fuel

/-- What a parenthesis begins, and what follows. -/
def readGroup (fuel room : Nat) (first verbose : Bool) (seen : List Node) (s : Scope)
    (ts : List Token) : Outcome (List Node) :=
  match fuel with
  | 0 => .error .malformed
  | fuel + 1 =>
    match readOpening s ts with
    | .error refusal => .error refusal
    | .ok (.done node s rest) => readSequence fuel room first verbose (node.toList ++ seen) s rest
    | .ok (.globalFlags on rest) =>
      if first && seen.isEmpty then
        let flags := s.flags.or on
        readSequence fuel room first flags.verbose seen { s with flags := flags } rest
      else .error .malformed
    | .ok (.lookAhead wanted rest) =>
      match nested 2 room fun room => readChoices fuel room false verbose [] s rest with
      | .ok (body, s, .plain ')' :: rest) =>
        readSequence fuel room first verbose (.look none wanted body :: seen) s rest
      | .ok _ => .error .malformed
      | .error refusal => .error refusal
    | .ok (.lookBehind wanted rest) =>
      let within := { s with behind := s.behind.or (some s.next) }
      match nested 2 room fun room => readChoices fuel room false verbose [] within rest with
      | .ok (body, inner, .plain ')' :: rest) =>
        let w := widthOf inner.widths body
        let fixed := w.low == w.high && w.low ≤ repeatLimit
        let s := { inner with behind := s.behind, varying := inner.varying || !fixed }
        readSequence fuel room first verbose (.look (some w.low) wanted body :: seen) s rest
      | .ok _ => .error .malformed
      | .error refusal => .error refusal
    | .ok (.condition number s rest) =>
      match nested 1 room fun room => readSequence fuel room false verbose [] s rest with
      | .ok (yes, s, .plain '|' :: rest) =>
        match nested 1 room fun room => readSequence fuel room false verbose [] s rest with
        | .ok (no, s, .plain ')' :: rest) =>
          readSequence fuel room first verbose (.conditional number yes no :: seen) s rest
        | .ok _ => .error .malformed
        | .error refusal => .error refusal
      | .ok (yes, s, .plain ')' :: rest) =>
        readSequence fuel room first verbose (.conditional number yes [] :: seen) s rest
      | .ok _ => .error .malformed
      | .error refusal => .error refusal
    | .ok (.body number atomic on off s rest) =>
      let verbosely := (verbose || on.verbose) && !off.verbose
      match nested 2 room fun room => readChoices fuel room false verbosely [] s rest with
      | .ok (body, s, .plain ')' :: rest) =>
        let s := (number.map fun n => s.closeGroup n body).getD s
        let node := if atomic then Node.atomic body else .group number on off body
        readSequence fuel room first verbose (node :: seen) s rest
      | .ok _ => .error .malformed
      | .error refusal => .error refusal
termination_by structural fuel

end

/-- A pattern that is ready to be searched for. -/
structure Expression where
  flags : Flags
  nodes : List Node

/-- Read a pattern. -/
def read (source : String) : Except Refusal Expression :=
  let ts := tokens source.toList
  match readChoices (4 * ts.length + 4) room true false [] {} ts with
  | .error refusal => .error refusal
  | .ok (nodes, s, rest) =>
    if s.flags.ascii && s.flags.unicode then .error .conflictingFlags
    else if !rest.isEmpty || s.conditions.any (s.next ≤ ·) then .error .malformed
    else if room < heightOf nodes then .error .tooDeep
    else if s.varying || (s.flags.single && s.repeats) then .error .malformed
    else .ok ⟨s.flags, nodes⟩

end Clearance.Pattern
