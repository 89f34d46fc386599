import LitNote.Log
import LitNote.Main
import LitNote.Proofs.Failure
import LitNote.Proofs.Template.Body
import LitNote.Proofs.Template.OnePass
import LitNote.Proofs.Template.Token
import LitNote.Proofs.Template.Pieces
import LitNote.Proofs.Template.Spelling
import LitNote.Proofs.Template.RoundTrip
import LitNote.Proofs.Citation.Key
import LitNote.Proofs.Template.Gapped
import LitNote.Proofs.Template.Insertion
import LitNote.Proofs.Number.Decimal
import LitNote.Proofs.Json.Scalar
import LitNote.Proofs.Json.RoundTrip
import LitNote.Proofs.Template.Rendering
import LitNote.Proofs.ArrayLiteral
import LitNote.Proofs.FrontMatter.Structured
import LitNote.Proofs.Json.Shape
import LitNote.Proofs.FrontMatter.Preview
import LitNote.Proofs.Value.Equality
import LitNote.Proofs.Settings.Reader
import LitNote.Proofs.FrontMatter.Tags
import LitNote.Proofs.FrontMatter.Assembly
import LitNote.Proofs.Json.Unquoted
import LitNote.Proofs.Text.Casing
import LitNote.Proofs.ArrayLiteral.Depth
import LitNote.Proofs.ArrayLiteral.Items
import LitNote.Proofs.ArrayLiteral.Links
import LitNote.Proofs.FrontMatter.Attachment
import LitNote.Proofs.ArrayLiteral.Repair
import LitNote.Proofs.Template.Lookup
import LitNote.Proofs.Template.Composition
import LitNote.Proofs.Citation.Bracket
import LitNote.Proofs.Citation.Expansion
import LitNote.Proofs.Json.Progress
import LitNote.Proofs.Json.Depth
import LitNote.Proofs.Template.Guard
import LitNote.Proofs.Template.EntryPoints
import LitNote.Proofs.FrontMatter.Order
import LitNote.Proofs.ArrayLiteral.Quoted
import LitNote.Proofs.Note.Variables
import LitNote.Proofs.FrontMatter.TextArrays
import LitNote.Proofs.ArrayLiteral.Pieces
import LitNote.Proofs.ArrayLiteral.TrailingComma
import LitNote.Proofs.ArrayLiteral.Again
import LitNote.Proofs.Citation.Retraction
import LitNote.Proofs.Note.Path
import LitNote.Proofs.Citation.DefaultKey
import LitNote.Proofs.Template.Indexed
import LitNote.Proofs.Template.UrlCoding
import LitNote.Proofs.Citation.Title
import LitNote.Proofs.Value.Notation
import LitNote.Proofs.Citation.Year
import LitNote.Proofs.Template.DateStyle
import LitNote.Proofs.Note.ContributorLists
import LitNote.Proofs.Note.Compose
import LitNote.Proofs.Template.Partition
import LitNote.Proofs.Number.Numeral
import LitNote.Proofs.Template.RandomText
import LitNote.Proofs.Text.Spacing
import LitNote.Proofs.Text.Words
import LitNote.Proofs.Log
import LitNote.Proofs.CommandLine.KeyCommand
