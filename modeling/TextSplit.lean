import TextSplit.CharClass
import TextSplit.CharClass.Plain
import TextSplit.Cursor
import TextSplit.Cut
import TextSplit.Defaults
import TextSplit.Delimiter
import TextSplit.Delimiter.Plain
import TextSplit.Delimiter.Signed
import TextSplit.Failure
import TextSplit.Fault
import TextSplit.Folder
import TextSplit.Journal
import TextSplit.Journal.Level
import TextSplit.Journal.Note
import TextSplit.Journal.Processing
import TextSplit.Journal.Template
import TextSplit.Machine
import TextSplit.Number.Binary64
import TextSplit.Number.Integer
import TextSplit.PairSplitter
import TextSplit.PairSplitter.Plain
import TextSplit.Path
import TextSplit.Pattern
import TextSplit.Pattern.Engine
import TextSplit.Pattern.Fault
import TextSplit.Pattern.Flags
import TextSplit.Pattern.Reader
import TextSplit.Pattern.Tree
import TextSplit.Proofs.Boundary
import TextSplit.Proofs.Chunks
import TextSplit.Proofs.ClassUnion
import TextSplit.Proofs.Delivery
import TextSplit.Proofs.Description
import TextSplit.Proofs.EmptyMatches
import TextSplit.Proofs.Encoding
import TextSplit.Proofs.Entries
import TextSplit.Proofs.FailingRecord
import TextSplit.Proofs.Fields
import TextSplit.Proofs.Growth
import TextSplit.Proofs.Joining
import TextSplit.Proofs.JournalHistory
import TextSplit.Proofs.Leftmost
import TextSplit.Proofs.Limit
import TextSplit.Proofs.Occurrences
import TextSplit.Proofs.OneCharacter
import TextSplit.Proofs.PairTable
import TextSplit.Proofs.Pipeline
import TextSplit.Proofs.PlainData
import TextSplit.Proofs.Printing
import TextSplit.Proofs.Reading
import TextSplit.Proofs.Refusal
import TextSplit.Proofs.Rejoin
import TextSplit.Proofs.Reload
import TextSplit.Proofs.Restart
import TextSplit.Proofs.Rounds
import TextSplit.Proofs.Saving
import TextSplit.Proofs.Scan
import TextSplit.Proofs.Session
import TextSplit.Proofs.SettingsFile
import TextSplit.Proofs.Stretch
import TextSplit.Proofs.TableColumns
import TextSplit.Proofs.Tiling
import TextSplit.Proofs.TokenCount
import TextSplit.Proofs.TokenEnds
import TextSplit.Proofs.TokenTable
import TextSplit.Proofs.TrimmedStretch
import TextSplit.Proofs.TwoStages
import TextSplit.Proofs.UserColumns
import TextSplit.Proofs.WrittenForm
import TextSplit.Report
import TextSplit.Settings.Basic
import TextSplit.Settings.Draft
import TextSplit.Settings.File
import TextSplit.Settings.Plain
import TextSplit.Splitter
import TextSplit.Splitter.Plain
import TextSplit.Table
import TextSplit.Table.Cell
import TextSplit.Table.File
import TextSplit.Table.Heading
import TextSplit.Table.Processing
import TextSplit.Table.Sheet
import TextSplit.Text.Base64
import TextSplit.Text.Lines
import TextSplit.Text.Parts
import TextSplit.Text.Quoted
import TextSplit.Text.TextSet
import TextSplit.Text.Utf8
import TextSplit.Tokens
import TextSplit.Trim
import TextSplit.Unicode.Blank
import TextSplit.Unicode.Case
import TextSplit.Unicode.CharName
import TextSplit.Unicode.Identifier
import TextSplit.Unicode.Letter
import TextSplit.Unicode.Numeral
import TextSplit.Unicode.Printable
import TextSplit.Unicode.RangeTable
import TextSplit.Value
import TextSplit.Value.Order
import TextSplit.Value.Spelling
import TextSplit.Yaml.Meaning
import TextSplit.Yaml.Node
import TextSplit.Yaml.Quoted
import TextSplit.Yaml.Reader
import TextSplit.Yaml.Spot
import TextSplit.Yaml.Token
import TextSplit.Yaml.Writer
