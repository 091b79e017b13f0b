/-
# Characters by name

Which character a name stands for. Syllables of Hangul are named after their sounds, and ideographs of
some kinds after their code points; all other names are looked up in a table. Only the names of Hangul
syllables and of unified ideographs must be written in capitals.
-/

import Clearance.Text.NameTable
import Clearance.Text.Pieces

namespace Clearance.Text

/-! ## Names in the table -/

/-- The value of a number in hexadecimal digits with capital letters. -/
def capitalHex? (digits : List Char) : Option Nat :=
  digits.foldlM (fun n c => ("0123456789ABCDEF".toList.idxOf? c).map (16 * n + ·)) 0

/-- A place in the table: the code point that is named next, and the words of the name before. -/
structure NameCursor where
  next : Nat := 0
  words : List (List Char) := []

/-- Go on by a name or to a code point. -/
def NameCursor.after (cursor : NameCursor) : List Char → NameCursor
  | [] => cursor
  | c :: rest =>
    if c.isLower then
      let middle := rest.takeWhile (· != '.')
      let shared := rest.length - middle.length
      { next := cursor.next + 1
        words := cursor.words.take (c.toNat - 'a'.toNat) ++
          (if middle.isEmpty then [] else splitAt ' ' middle) ++
          cursor.words.drop (cursor.words.length - shared) }
    else { cursor with next := (capitalHex? (c :: rest)).getD 0 }

/-- The pieces of a table: code points and what there is of names. -/
def namePieces (table : String) : List (List Char) :=
  (splitAt '\n' table.toList).flatMap (·.splitBy fun _ c => !c.isLower)

/-- Look for a name from a place on. -/
def findName (words : List (List Char)) : NameCursor → List (List Char) → Option Nat
  | _, [] => none
  | cursor, piece :: rest =>
    let cursor := cursor.after piece
    if cursor.words == words then some (cursor.next - 1) else findName words cursor rest

/-! ## Names that are made -/

/-- The sounds that a syllable of Hangul may begin with. -/
def firstSounds : List String :=
  ["G", "GG", "N", "D", "DD", "R", "M", "B", "BB", "S", "SS", "", "J", "JJ", "C", "K", "T", "P", "H"]

/-- The sounds in the middle of a syllable. -/
def middleSounds : List String :=
  ["A", "AE", "YA", "YAE", "EO", "E", "YEO", "YE", "O", "WA", "WAE", "OE", "YO", "U", "WEO", "WE",
    "WI", "YU", "EU", "YI", "I"]

/-- The sounds that a syllable may end with. -/
def lastSounds : List String :=
  ["", "G", "GG", "GS", "N", "NJ", "NH", "D", "L", "LG", "LM", "LB", "LS", "LT", "LP", "LH", "M",
    "B", "BS", "S", "SS", "NG", "J", "C", "K", "T", "P", "H"]

/-- The syllable of given sounds. -/
def syllable? (sounds : List Char) : Option Nat := do
  let isOpen (c : Char) : Bool := "AEIOUWY".toList.contains c
  let (first, rest) := sounds.span (!isOpen ·)
  let (middle, last) := rest.span isOpen
  let l ← firstSounds.idxOf? (String.ofList first)
  let v ← middleSounds.idxOf? (String.ofList middle)
  let t ← lastSounds.idxOf? (String.ofList last)
  return 0xAC00 + (l * middleSounds.length + v) * lastSounds.length + t

/-- Inclusive ranges of the unified ideographs. -/
def ideographRanges : List (Nat × Nat) :=
  [(0x3400, 0x4DBF), (0x4E00, 0x9FFF), (0x20000, 0x2A6DF), (0x2A700, 0x2B738), (0x2B740, 0x2B81D),
    (0x2B820, 0x2CEA1), (0x2CEB0, 0x2EBE0), (0x30000, 0x3134A)]

/-- The unified ideograph of given digits. -/
def ideograph? (digits : List Char) : Option Nat := do
  guard (digits.length == 4 || digits.length == 5)
  let code ← capitalHex? digits
  guard (ideographRanges.any fun (low, high) => low ≤ code && code ≤ high)
  return code

/-- Further characters that are named after their code points, with what their names begin with. -/
def numberedRanges : List (String × Nat × Nat) :=
  [("CJK COMPATIBILITY IDEOGRAPH-", 0xF900, 0xFA6D), ("CJK COMPATIBILITY IDEOGRAPH-", 0xFA70, 0xFAD9),
    ("CJK COMPATIBILITY IDEOGRAPH-", 0x2F800, 0x2FA1D),
    ("KHITAN SMALL SCRIPT CHARACTER-", 0x18B00, 0x18CD5), ("NUSHU CHARACTER-", 0x1B170, 0x1B2FB)]

/-- The character of a name that ends in its code point. -/
def numbered? (name : List Char) : Option Nat :=
  numberedRanges.findSome? fun (start, low, high) => do
    guard (startsWith start.toList name)
    let digits := name.drop start.toList.length
    let code ← capitalHex? digits
    guard (low ≤ code && code ≤ high && digits.length == (Nat.toDigits 16 code).length)
    return code

/-! ## All names -/

/-- The character that a name stands for. -/
def named? (name : String) : Option Nat :=
  let cs := name.toList
  let syllables := "HANGUL SYLLABLE ".toList
  let ideographs := "CJK UNIFIED IDEOGRAPH-".toList
  if startsWith syllables cs then syllable? (cs.drop syllables.length)
  else if startsWith ideographs cs then ideograph? (cs.drop ideographs.length)
  else
    let capitals := cs.map Char.toUpper
    (numbered? capitals).or (findName (splitAt ' ' capitals) {} (nameTables.flatMap namePieces))

end Clearance.Text
