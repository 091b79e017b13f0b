/-
# Documents on one line

A value is written in printable ASCII, whatever texts it holds: the characters of a string that are no
such character, or that have a meaning inside quotes, are escaped.
-/

import Clearance.Json.Printer
import Clearance.Proofs.Text.Plain

namespace Clearance.Json

open Text

theorem isPlain_escapedUnit (n : Nat) : IsPlain (escapedUnit n) := by
  simp [escapedUnit, isPlain_hex]

/-- Every character is written in plain ones. -/
theorem isPlain_writtenChar (c : Char) : IsPlain (writtenChar c) := by
  simp only [writtenChar]
  iterate 7
    split
    · decide
  split
  case isTrue hprintable =>
    simpa using hprintable
  split
  · exact isPlain_escapedUnit _
  · exact isPlain_append.mpr ⟨isPlain_escapedUnit _, isPlain_escapedUnit _⟩

theorem isPlain_writtenString (s : String) : IsPlain (writtenString s).toList := by
  rw [writtenString, String.toList_ofList]
  have hbody := isPlain_flatMap isPlain_writtenChar s.toList
  exact isPlain_append.mpr ⟨isPlain_cons.mpr ⟨by decide, hbody⟩, by decide⟩

theorem isPlain_writtenFloat (x : Float) : IsPlain (writtenFloat x).toList := by
  rw [writtenFloat]
  split
  · decide
  · split <;> decide
  · exact isPlain_text x

mutual

/-- Every value is written in plain characters. -/
theorem isPlain_write : ∀ v : Value, IsPlain (write v).toList
  | .null => by decide
  | .bool b => by cases b <;> decide
  | .int n => isPlain_int n
  | .float x => isPlain_writtenFloat x
  | .text s => isPlain_writtenString s
  | .list items => by
      have hitems := isPlain_writeItems items
      simp [write, hitems]
  | .tuple items => by
      have hitems := isPlain_writeItems items
      simp [write, hitems]
  | .set items => isPlain_writtenString _
  | .moment m => isPlain_writtenString _
  | .dict entries => by
      have hentries := isPlain_writeEntries entries
      simp [write, hentries]

theorem isPlain_writeItems : ∀ items : List Value, IsPlain (writeItems items).toList
  | [] => by decide
  | [item] => isPlain_write item
  | item :: next :: items => by
      have hitem := isPlain_write item
      have hitems := isPlain_writeItems (next :: items)
      simp [writeItems, hitem, hitems]

theorem isPlain_writeEntries :
    ∀ entries : List (Value × Value), IsPlain (writeEntries entries).toList
  | [] => by decide
  | [(key, value)] => by
      have hkey := isPlain_writtenString key.plain
      have hvalue := isPlain_write value
      simp [writeEntries, hkey, hvalue]
  | (key, value) :: next :: entries => by
      have hkey := isPlain_writtenString key.plain
      have hvalue := isPlain_write value
      have hentries := isPlain_writeEntries (next :: entries)
      simp [writeEntries, hkey, hvalue, hentries]

end

end Clearance.Json
