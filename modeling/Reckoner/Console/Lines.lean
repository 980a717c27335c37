import Reckoner.Text.Blank

/-!
# Lines of input

Bytes come as UTF-8. Lines end with a line feed, which a carriage return may precede; the last line
need not end.
-/

namespace Reckoner

/-- Cuts a list after every line feed, which is dropped. -/
def splitLines {α : Type} (isEnd : α → Bool) : List α → List (List α)
  | [] => []
  | c :: rest =>
    if isEnd c then [] :: splitLines isEnd rest
    else
      match splitLines isEnd rest with
      | [] => [[c]]
      | line :: lines => (c :: line) :: lines

namespace Text

/-- The text that bytes spell in UTF-8. -/
def ofUtf8? (bytes : List UInt8) : Option Text :=
  (String.fromUTF8? ⟨bytes.toArray⟩).map String.toList

/-- How many bytes a text takes in UTF-8. -/
def utf8Size (t : Text) : Nat :=
  t.foldr (fun c size => c.utf8Size + size) 0

/-- Drops one carriage return from the end. -/
def withoutReturn (t : Text) : Text :=
  if t.getLast? = some '\r' then t.dropLast else t

/-- The lines of a text. -/
def lines (t : Text) : List Text :=
  (splitLines (· == '\n') t).map withoutReturn

/-- The lines of the bytes, each of which may fail to be a text. -/
def linesOfUtf8 (bytes : List UInt8) : List (Option Text) :=
  (splitLines (· == 10) bytes).map fun line => (ofUtf8? line).map withoutReturn

end Text

end Reckoner
