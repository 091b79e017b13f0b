/-
# Reading block documents

A reader for small configuration documents: mappings and sequences by indentation or in brackets,
plain and quoted scalars, and comments. Anchors, tags, block scalars and directives are refused.
-/

import Clearance.Json.Reader
import Clearance.Yaml.Scalar

namespace Clearance.Yaml

/-- A line that is neither empty nor a comment. -/
structure Line where
  indent : Nat
  chars : List Char

/-- Whether a quote may open after a character. -/
def opensToken (previous : Char) : Bool :=
  previous == ' ' || previous == '[' || previous == '\x7b' || previous == ',' || previous == ':'

/-- A line without its comment. The quote that is open, if any, hides the mark of comments. -/
def withoutComment (quote : Option Char) (previous : Char) : List Char → List Char
  | [] => []
  | c :: rest =>
    match quote with
    | some q => c :: withoutComment (if c == q then none else some q) c rest
    | none =>
      if c == '#' && (previous == ' ' || previous == '\t') then []
      else if (c == '\'' || c == '"') && opensToken previous then
        c :: withoutComment (some c) c rest
      else c :: withoutComment none c rest

/-- Whether a character is a blank inside a line. -/
def isGap (c : Char) : Bool := c == ' ' || c == '\t'

/-- A list without gaps at its ends. -/
def trimmed (cs : List Char) : List Char :=
  ((cs.dropWhile isGap).reverse.dropWhile isGap).reverse

/-- The lines of a document. A tab before the first sign of a line is kept, and nothing begins with
one. -/
def linesOf (cs : List Char) : List Line :=
  (Text.splitAt '\n' cs).filterMap fun raw =>
    let kept := withoutComment none ' ' raw
    let indent := (kept.takeWhile (· == ' ')).length
    let body := ((kept.drop indent).reverse.dropWhile isGap).reverse
    if body.isEmpty then none else some ⟨indent, body⟩

/-- A reader refuses without a reason: the message does not tell it. -/
abbrev Reader (α : Type) := List Char → Option (α × List Char)

/-- The characters of a text in single quotes, where two quotes are one. -/
def singleQuoted : Reader (List Char)
  | '\'' :: '\'' :: rest => (singleQuoted rest).map fun (cs, rest) => ('\'' :: cs, rest)
  | '\'' :: rest => some ([], rest)
  | c :: rest => (singleQuoted rest).map fun (cs, rest) => (c :: cs, rest)
  | [] => none

/-- The character of a short escape in double quotes. -/
def shortEscape? : Char → Option Char
  | '0' => some '\x00'
  | 'a' => some '\x07'
  | 'b' => some '\x08'
  | 't' | '\t' => some '\t'
  | 'n' => some '\n'
  | 'v' => some '\x0b'
  | 'f' => some '\x0c'
  | 'r' => some '\r'
  | 'e' => some '\x1b'
  | ' ' => some ' '
  | '"' => some '"'
  | '\\' => some '\\'
  | '/' => some '/'
  | 'N' => some '\u0085'
  | '_' => some '\u00a0'
  | 'L' => some '\u2028'
  | 'P' => some '\u2029'
  | _ => none

/-- The number of digits of an escape by number. -/
def escapeWidth? : Char → Option Nat
  | 'x' => some 2
  | 'u' => some 4
  | 'U' => some 8
  | _ => none

/-- The characters of a text in double quotes. -/
def doubleQuoted : (fuel : Nat) → Reader (List Char)
  | 0, _ | _, [] | _, ['\\'] => none
  | _ + 1, '"' :: rest => some ([], rest)
  | fuel + 1, '\\' :: c :: rest =>
    match escapeWidth? c, shortEscape? c with
    | some width, _ => do
      let digits := rest.take width
      if digits.length != width || digits.contains '_' then none
      else
        let code ← digitsIn? 16 digits
        let (cs, rest) ← doubleQuoted fuel (rest.drop width)
        some (Json.unitChar code :: cs, rest)
    | none, some e => (doubleQuoted fuel rest).map fun (cs, rest) => (e :: cs, rest)
    | none, none => none
  | fuel + 1, c :: rest => (doubleQuoted fuel rest).map fun (cs, rest) => (c :: cs, rest)

/-- A quoted text after its opening quote. -/
def quotedAfter (quote : Char) (cs : List Char) : Option (String × List Char) :=
  (if quote == '"' then doubleQuoted (cs.length + 1) cs else singleQuoted cs).map
    fun (body, rest) => (String.ofList body, rest)

/-- Whether a character separates the parts of a collection in brackets. -/
def isFlowMark (c : Char) : Bool :=
  c == ',' || c == '[' || c == ']' || c == '\x7b' || c == '\x7d'

/-- Characters that a plain scalar does not begin with. -/
def isIndicator (c : Char) : Bool :=
  isFlowMark c || c == '\t' || c == '#' || c == '&' || c == '*' || c == '!' || c == '|' || c == '>' ||
  c == '%' || c == '@' || c == '\x60' || c == '\'' || c == '"'

/-- Whether a plain scalar may begin here. -/
def mayBegin : List Char → Bool
  | [] => false
  | [c] => !isIndicator c && c != '-' && c != '?' && c != ':'
  | c :: next :: _ =>
    !isIndicator c && !((c == '-' || c == '?' || c == ':') && isGap next)

/-- The characters of a plain scalar inside brackets. -/
def flowPlain : List Char → List Char × List Char
  | [] => ([], [])
  | ':' :: rest =>
    match rest with
    | [] => ([], ':' :: rest)
    | c :: _ =>
      if isGap c || isFlowMark c then ([], ':' :: rest)
      else
        let (cs, left) := flowPlain rest
        (':' :: cs, left)
  | c :: rest =>
    if isFlowMark c then ([], c :: rest)
    else
      let (cs, left) := flowPlain rest
      (c :: cs, left)

/-- Write an entry of a mapping; an equal text key keeps its place and loses its value. -/
def setEntry (key value : Value) (entries : List (Value × Value)) : List (Value × Value) :=
  match key with
  | .text k => Json.setEntry k value entries
  | _ => entries ++ [(key, value)]

mutual

/-- A value inside brackets. -/
def flowValue (fuel : Nat) (cs : List Char) : Option (Value × List Char) :=
  match fuel, cs.dropWhile isGap with
  | 0, _ => none
  | fuel + 1, '[' :: rest => (flowItems fuel rest).map fun (items, rest) => (.list items, rest)
  | fuel + 1, '\x7b' :: rest =>
    (flowEntries fuel [] rest).map fun (entries, rest) => (.dict entries, rest)
  | _ + 1, c :: rest =>
    if c == '\'' || c == '"' then (quotedAfter c rest).map fun (s, rest) => (.text s, rest)
    else if mayBegin (c :: rest) then
      let (plain, left) := flowPlain (c :: rest)
      some (resolve (trimmed plain), left)
    else none
  | _ + 1, [] => none

/-- The items of a sequence in brackets, up to the closing one. -/
def flowItems (fuel : Nat) (cs : List Char) : Option (List Value × List Char) :=
  match fuel, cs.dropWhile isGap with
  | 0, _ | _, [] => none
  | _ + 1, ']' :: rest => some ([], rest)
  | fuel + 1, cs => do
    let (item, rest) ← flowValue fuel cs
    match rest.dropWhile isGap with
    | ',' :: rest =>
      let (items, rest) ← flowItems fuel rest
      some (item :: items, rest)
    | ']' :: rest => some ([item], rest)
    | _ => none

/-- The entries of a mapping in braces, up to the closing one. A key without a value has none. -/
def flowEntries (fuel : Nat) (seen : List (Value × Value)) (cs : List Char) :
    Option (List (Value × Value) × List Char) :=
  match fuel, cs.dropWhile isGap with
  | 0, _ | _, [] => none
  | _ + 1, '\x7d' :: rest => some (seen, rest)
  | fuel + 1, cs => do
    let (key, rest) ← flowValue fuel cs
    let (value, rest) ← match rest.dropWhile isGap with
      | ':' :: rest =>
        match rest.dropWhile isGap with
        | ',' :: more => some (.null, ',' :: more)
        | '\x7d' :: more => some (.null, '\x7d' :: more)
        | rest => flowValue fuel rest
      | rest => some (.null, rest)
    match rest.dropWhile isGap with
    | ',' :: rest => flowEntries fuel (setEntry key value seen) rest
    | '\x7d' :: rest => some (setEntry key value seen, rest)
    | _ => none

end

/-- A plain key up to its colon, and what follows the colon. -/
def plainKey : List Char → Option (List Char × List Char)
  | [] => none
  | ':' :: rest =>
    match rest with
    | [] => some ([], [])
    | c :: _ => if isGap c then some ([], rest) else (plainKey rest).map fun (k, r) => (':' :: k, r)
  | c :: rest => (plainKey rest).map fun (k, r) => (c :: k, r)

/-- The key of a line and the text of its value, if the line is an entry of a mapping. -/
def entryOf? (cs : List Char) : Option (Value × List Char) :=
  match cs with
  | [] => none
  | c :: rest =>
    if c == '\'' || c == '"' then
      match quotedAfter c rest with
      | some (key, rest) =>
        match rest.dropWhile isGap with
        | [':'] => some (.text key, [])
        | ':' :: d :: more => if isGap d then some (.text key, trimmed more) else none
        | _ => none
      | none => none
    else if mayBegin cs then
      (plainKey cs).map fun (key, rest) => (resolve (trimmed key), trimmed rest)
    else none

/-- Whether a line is an item of a sequence. -/
def isItem : List Char → Bool
  | ['-'] => true
  | '-' :: c :: _ => isGap c
  | _ => false

/-- A scalar or a collection in brackets that begins with the given text. Lines that are indented
further continue it. -/
def inlineValue : (fuel : Nat) → (outer : Option Nat) → List Char → List Line →
    Option (Value × List Line)
  | 0, _, _, _ => none
  | fuel + 1, outer, cs, lines =>
    let deeper := match lines with
      | line :: rest => if outer.all (· < line.indent) then some (line, rest) else none
      | [] => none
    let continued := deeper.bind fun (line, rest) =>
      inlineValue fuel outer (cs ++ ' ' :: line.chars) rest
    match cs with
    | [] => none
    | c :: _ =>
      if c == '[' || c == '\x7b' || c == '\'' || c == '"' then
        match flowValue (2 * cs.length + 2) cs with
        | some (value, rest) =>
          if (rest.all isGap) && deeper.isNone then some (value, lines) else none
        | none => continued
      else if mayBegin cs && (plainKey cs).isNone then
        if deeper.isSome then continued else some (resolve cs, lines)
      else none

mutual

/-- A value in lines of one indentation: a sequence, a mapping or a scalar. -/
def block (fuel : Nat) (lines : List Line) : Option (Value × List Line) :=
  match fuel, lines with
  | 0, _ | _, [] => none
  | fuel + 1, line :: rest =>
    if isItem line.chars then
      (blockItems fuel line.indent (line :: rest)).map fun (items, rest) => (.list items, rest)
    else if (entryOf? line.chars).isSome then
      (blockEntries fuel line.indent [] (line :: rest)).map fun (entries, rest) =>
        (.dict entries, rest)
    else
      let outer := if line.indent == 0 then none else some (line.indent - 1)
      inlineValue (rest.length + 2) outer line.chars rest

/-- What stands in the lines below a key or a dash that has nothing beside it. -/
def below (fuel : Nat) (indent : Nat) (lines : List Line) : Option (Value × List Line) :=
  match fuel, lines with
  | 0, _ => none
  | _ + 1, [] => some (.null, [])
  | fuel + 1, line :: rest =>
    if indent < line.indent then block fuel (line :: rest) else some (.null, line :: rest)

/-- The items of a sequence whose dashes stand at an indentation. -/
def blockItems (fuel : Nat) (indent : Nat) (lines : List Line) :
    Option (List Value × List Line) :=
  match fuel, lines with
  | 0, _ => none
  | _ + 1, [] => some ([], [])
  | fuel + 1, line :: rest =>
    if line.indent < indent || (line.indent == indent && !isItem line.chars) then
      some ([], line :: rest)
    else if line.indent != indent then none
    else do
      let gap := (line.chars.drop 1).takeWhile isGap
      let body := line.chars.drop (1 + gap.length)
      let (item, rest) ←
        if body.isEmpty then below fuel indent rest
        else block fuel (⟨indent + 1 + gap.length, body⟩ :: rest)
      let (items, rest) ← blockItems fuel indent rest
      some (item :: items, rest)

/-- The entries of a mapping whose keys stand at an indentation. -/
def blockEntries (fuel : Nat) (indent : Nat) (seen : List (Value × Value)) (lines : List Line) :
    Option (List (Value × Value) × List Line) :=
  match fuel, lines with
  | 0, _ => none
  | _ + 1, [] => some (seen, [])
  | fuel + 1, line :: rest =>
    if line.indent < indent then some (seen, line :: rest)
    else if line.indent != indent then none
    else do
      let (key, body) ← entryOf? line.chars
      let (value, rest) ←
        if body.isEmpty then
          match rest with
          | next :: _ =>
            if next.indent == indent && isItem next.chars then
              (blockItems fuel indent rest).map fun (items, rest) => (.list items, rest)
            else below fuel indent rest
          | [] => some (.null, [])
        else inlineValue (rest.length + 2) (some indent) body rest
      blockEntries fuel indent (setEntry key value seen) rest

end

/-- Read a document. An empty one is null. -/
def read (s : String) : Option Value :=
  let lines := linesOf s.toList
  let lines := match lines with
    | ⟨0, ['-', '-', '-']⟩ :: rest => rest
    | lines => lines
  match lines with
  | [] => some .null
  | lines =>
    match block (4 * s.toList.length + 4) lines with
    | some (value, []) => some value
    | _ => none

end Clearance.Yaml
