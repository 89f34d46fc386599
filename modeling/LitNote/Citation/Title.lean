import LitNote.Text.Casing
import LitNote.Text.Letter
import LitNote.Value.Basic

/-!
The significant words of a title.  Markup is left out, words lose the marks at their edges, and
words that carry no meaning of their own are passed over unless nothing else is left.
-/

namespace LitNote.Title

def tagLength? : Text → Option Nat
  | '<' :: rest =>
    let body := rest.takeWhile (· != '>')
    if body.isEmpty || (rest.dropWhile (· != '>')).isEmpty then none else some (body.length + 1)
  | _ => none

/-- The number counts the characters of the last tag that are still to be passed over. -/
def withoutTagsFrom : Nat → Text → Text
  | _, [] => []
  | skip + 1, _ :: rest => withoutTagsFrom skip rest
  | 0, c :: rest =>
    match tagLength? (c :: rest) with
    | some n => withoutTagsFrom n rest
    | none => c :: withoutTagsFrom 0 rest

def withoutTags (s : Text) : Text := withoutTagsFrom 0 s

def stopWords : List Text :=
  ["a", "an", "the", "and", "or", "but", "on", "in", "at", "to", "for", "with", "of", "from", "by",
    "as", "into", "like", "near", "over", "past", "since", "upon", "about", "above", "across",
    "after", "against", "along", "among", "around", "before", "behind", "below", "beneath",
    "beside", "between", "beyond", "concerning", "considering", "despite", "down", "during",
    "except", "following", "inside", "minus", "onto", "opposite", "out", "outside", "per", "plus",
    "regarding", "round", "save", "through", "toward", "towards", "under", "underneath", "unlike",
    "until", "up", "versus", "via", "within", "without"].map String.toList

def trimMarks (word : Text) : Text :=
  ((word.dropWhile (!Text.isAsciiAlphanumeric ·)).reverse.dropWhile
    (!Text.isAsciiAlphanumeric ·)).reverse

def isSignificant (word : Text) : Bool :=
  !word.isEmpty && !stopWords.contains (Text.toLower word)

def isKeyChar (c : Char) : Bool :=
  (97 ≤ c.toNat && c.toNat ≤ 122) || Text.isAsciiDigit c

def chosen (title : Text) (count : Int) : List Text :=
  let words := Text.splitRuns Text.isBlank (withoutTags title)
  match (words.map trimMarks).filter isSignificant with
  | [] => ((Text.takeTo words count).map trimMarks).filter (!·.isEmpty)
  | significant => Text.takeTo significant count

def wordsOf (title : Text) (count : Int) : Text :=
  (Text.toLower (chosen title count).flatten).filter isKeyChar

def words (title : Value) (count : Int) : Text :=
  match title with
  | .text s => if s.isEmpty then [] else wordsOf s count
  | _ => []

def part (citation : Value) (count : Int) : Except Failure Text := do
  let fields ← citation.fields
  return words ((fields.field "title").orElse (fields.field "Title")) count

end LitNote.Title
