import TableFile.Console.Directory
import TableFile.Main
import TableFile.Proofs.Console.Session
import TableFile.Proofs.Database.Layout
import TableFile.Proofs.Database.LetterCase
import TableFile.Proofs.Database.Listing
import TableFile.Proofs.Database.Reach
import TableFile.Proofs.Definition.Canonical
import TableFile.Proofs.Definition.Columns
import TableFile.Proofs.Definition.Default
import TableFile.Proofs.Definition.IndexColumn
import TableFile.Proofs.Definition.IndexKey
import TableFile.Proofs.Definition.Item
import TableFile.Proofs.Definition.ItemList
import TableFile.Proofs.Definition.Key
import TableFile.Proofs.Definition.KeyColumn
import TableFile.Proofs.Definition.KeyName
import TableFile.Proofs.Definition.Nesting
import TableFile.Proofs.Definition.RowId
import TableFile.Proofs.Definition.TopLevel
import TableFile.Proofs.Definition.WordName
import TableFile.Proofs.Machine.Page
import TableFile.Proofs.Machine.Source
import TableFile.Proofs.Page.CellExtent
import TableFile.Proofs.Page.CellFormat
import TableFile.Proofs.Page.Diagnosis
import TableFile.Proofs.Page.Format
import TableFile.Proofs.Query.Comparison
import TableFile.Proofs.Query.Condition
import TableFile.Proofs.Query.Coverage
import TableFile.Proofs.Query.Literal
import TableFile.Proofs.Query.Meaning
import TableFile.Proofs.Query.QuotedName
import TableFile.Proofs.Query.Spelling
import TableFile.Proofs.Record.Canonical
import TableFile.Proofs.Record.Format
import TableFile.Proofs.Record.Integers
import TableFile.Proofs.Record.Overrun
import TableFile.Proofs.Schema.Consistency
import TableFile.Proofs.Schema.Index
import TableFile.Proofs.Text.Blank
import TableFile.Proofs.Text.Keyword
import TableFile.Proofs.Text.Search
import TableFile.Proofs.Value.TwosComplement
import TableFile.Proofs.Varint.Groups
import TableFile.Proofs.Varint.Shortest
