import LitNote.Citation.Key

/-!
Settings of notes: templates, key options, and the fields of the front matter.
-/

namespace LitNote

/-- A field of the citation that the front matter takes over, under its other name if it
has one. -/
structure StandardField where
  name : Value
  label : Value
  enabled : Value
  otherName : Value
deriving Repr, BEq, Inhabited

def isBlankOctet (octet : UInt8) : Bool := octet = 32 || (9 ≤ octet && octet ≤ 13)

def trimOctets (octets : List UInt8) : List UInt8 :=
  ((octets.dropWhile isBlankOctet).reverse.dropWhile isBlankOctet).reverse

/-- The key in the front matter.  The other name may be a text or bytes. -/
def StandardField.key (f : StandardField) : Except Failure Value :=
  match f.otherName with
  | .text s => .ok (if s.all Text.isBlank then f.name else .text (Text.trim s))
  | .bytes b => .ok (if b.all isBlankOctet then f.name else .bytes (trimOctets b))
  | v => .error (.noText v.kind)

/-- A field of the front matter that is rendered from a template.  It stands at the start, at the
end or after a standard field. -/
structure CustomField where
  name : Value
  template : Text
  enabled : Value
  after : Value
deriving Repr, BEq, Inhabited

structure Settings where
  fileName : Text
  header : Text
  chapterHeader : Text
  tag : Text
  key : Key.Options
  standard : List StandardField
  custom : List CustomField
deriving Repr, Inhabited

namespace Settings

def tagOf (body : String) : Text := Template.Token.tagRaw body.toList

def blockOf (sigil name : String) (content : Text) : Text :=
  tagOf (sigil ++ name) ++ content ++ tagOf ("/" ++ name)

def defaultFileName : Text := '@' :: tagOf "citekey"

def defaultHeader : Text :=
  "# ".toList ++ blockOf "#" "title" (tagOf "title") ++ blockOf "^" "title" (tagOf "citekey")
    ++ " \n\n _Notes_".toList

def defaultChapterHeader : Text :=
  "# ".toList
    ++ blockOf "#" "raw_pdflink"
      ("[[".toList ++ tagOf "raw_pdflink" ++ '|' :: tagOf "title" ++ "]]".toList)
    ++ blockOf "^" "raw_pdflink" (tagOf "title")
    ++ " (in ".toList ++ tagOf "container-title" ++ [')']

def defaultKey : Key.Options :=
  ⟨.text (tagOf "author|lowercase" ++ tagOf "title|titleword" ++ tagOf "year"),
    Key.Options.standard.minLength⟩

def standardField (name label : String) (enabled : Bool) : StandardField :=
  ⟨Value.ofString name, Value.ofString label, .bool enabled, .text []⟩

def defaultStandard : List StandardField :=
  [standardField "id" "ID" true, standardField "type" "Type" true,
    standardField "title" "Title" true, standardField "author" "Author" true,
    standardField "issued" "Date Issued" true,
    standardField "container-title" "Container Title" true,
    standardField "publisher" "Publisher" false, standardField "page" "Pages" false,
    standardField "volume" "Volume" false, standardField "URL" "URL" false,
    standardField "DOI" "DOI" false]

def endAnchor : Value := .text "end".toList

def startAnchor : Value := .text "start".toList

def customField (name : String) (template : Text) (enabled : Bool) : CustomField :=
  ⟨Value.ofString name, template, .bool enabled, endAnchor⟩

def arrayOf (name : String) (item : Text) : Text :=
  '[' :: blockOf "#" name (item ++ [',']) ++ [']']

def defaultCustom : List CustomField :=
  [customField "year" (tagOf "year") true, customField "dateCreated" (tagOf "currentDate") true,
    customField "reading-status" "to-read".toList true,
    customField "aliases" ("[\"".toList ++ tagOf "title|sentence" ++ "\"]".toList) true,
    customField "author-links"
      (arrayOf "authors" ("\"[[Author/".toList ++ tagOf "." ++ "]]\"".toList)) true,
    customField "attachment" (arrayOf "attachments" (tagOf ".")) true,
    customField "related" ('[' :: tagOf "links_string" ++ [']']) false]

def builtIn : Settings :=
  ⟨defaultFileName, defaultHeader, defaultChapterHeader, [], defaultKey, defaultStandard,
    defaultCustom⟩

end Settings

def CustomField.anchor (f : CustomField) : Value := f.after.orElse Settings.endAnchor

end LitNote
