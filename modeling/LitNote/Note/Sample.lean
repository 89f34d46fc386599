import LitNote.Note.Variables

/-!
Variables for looking at templates without a citation.
-/

namespace LitNote.Note

def str (s : String) : Value := .text s.toList

def strs (ss : List String) : Value := .list (ss.map str)

def obj (fields : List (String × Value)) : Value := .record (Record.ofFields fields)

def sampleAuthors : List (String × String) :=
  [("Smith", "John"), ("Rodriguez", "Maria"), ("Zhang", "Wei")]

def paperLink : String := "[[biblib/smith_neural2024/paper.pdf|PDF]]"

def supplementLink : String := "[[biblib/smith_neural2024/supplementary.html|HTML]]"

def quotedString (s : String) : String := "\"" ++ s ++ "\""

def sampleNames (asLists : Bool) : List (String × Value) :=
  [("author", .list (sampleAuthors.map fun (family, given) =>
      obj [("family", str family), ("given", str given)])),
    ("authors", if asLists then .list (sampleAuthors.map fun (family, given) =>
      str (given ++ " " ++ family)) else str "J. Smith et al."),
    ("authors_raw", .list (sampleAuthors.map fun (family, given) =>
      obj [("family", str family), ("given", str given), ("role", str "author")])),
    ("authors_family", .list (sampleAuthors.map (str ·.1))),
    ("authors_given", .list (sampleAuthors.map (str ·.2))),
    ("editors", if asLists then strs ["Emily Jones"] else str "E. Jones"),
    ("editors_family", strs ["Jones"]), ("editors_given", strs ["Emily"])]

def sampleWork : List (String × Value) :=
  [("id", str "smith_neural2024"), ("citekey", str "smith_neural2024"),
    ("type", str "article-journal"), ("title", str "Neural Networks for Climate Prediction"),
    ("issued", obj [("date-parts", .list [.list [.int 2024, .int 3, .int 15]])]),
    ("year", .int 2024), ("month", .int 3), ("day", .int 15),
    ("URL", str "https://example.org/10.1234/climate.2024.001"),
    ("DOI", str "10.1234/climate.2024.001"), ("publisher", str "Journal of Climate Science"),
    ("container-title", str "Journal of Climate Science"),
    ("abstract", str ("This study presents a novel neural network framework for improving " ++
      "climate model accuracy and computational efficiency.")),
    ("volume", .int 15), ("issue", .int 2), ("page", str "123-145"),
    ("publisher-place", str "Cambridge"), ("language", str "en")]

def sampleLinks : List (String × Value) :=
  [("pdflink", strs ["biblib/smith_neural2024/paper.pdf"]),
    ("raw_pdflink", str "biblib/smith_neural2024/paper.pdf"),
    ("attachments", strs [paperLink, supplementLink]), ("attachment", str paperLink),
    ("quoted_attachments", strs [quotedString paperLink, quotedString supplementLink]),
    ("quoted_attachment", str (quotedString paperLink)),
    ("links", strs ["[[Research/Climate Science/Overview]]", "[[Projects/ML Applications]]"]),
    ("linkPaths", strs ["Research/Climate Science/Overview.md", "Projects/ML Applications.md"]),
    ("links_string", str "[[Research/Climate Science/Overview]], [[Projects/ML Applications]]")]

/-- The sample.  For front matter the roles are lists of names, which array templates go through. -/
def sample (forFrontMatter : Bool) (now : Moment) : Record :=
  Record.ofFields (sampleWork ++ sampleNames forFrontMatter ++ sampleLinks ++ clockFields now)

end LitNote.Note
