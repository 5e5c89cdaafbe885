import TableDoc.CommandLine.Folder
import TableDoc.Json.Model
import TableDoc.Main
import TableDoc.Proofs.Entries
import TableDoc.Proofs.ColumnList
import TableDoc.Proofs.Attributes
import TableDoc.Proofs.Contribution
import TableDoc.Proofs.Places
import TableDoc.Proofs.DefaultExtent
import TableDoc.Proofs.EntryNesting
import TableDoc.Proofs.Locality
import TableDoc.Proofs.Opening
import TableDoc.Proofs.CreationReport
import TableDoc.Proofs.CreationPattern
import TableDoc.Proofs.FragmentReport
import TableDoc.Proofs.Concatenation
import TableDoc.Proofs.Lines
import TableDoc.Proofs.Decoding
import TableDoc.Proofs.ReaderValues
import TableDoc.Proofs.ReaderSteps
import TableDoc.Proofs.ParsedClauses
import TableDoc.Proofs.ParsedKinds
import TableDoc.Proofs.LetterForms
import TableDoc.Proofs.Refinement
import TableDoc.Proofs.Grid
import TableDoc.Proofs.NormalPaths
import TableDoc.Proofs.RoundTrip
import TableDoc.Proofs.SettingSources
import TableDoc.Proofs.Delivery
import TableDoc.Proofs.DefaultPlace
import TableDoc.Proofs.IndexCategory
import TableDoc.Proofs.Layout
import TableDoc.Proofs.EntryWords
import TableDoc.Proofs.IndexWording
import TableDoc.Proofs.QuotedContent
import TableDoc.Proofs.DefaultBounds
import TableDoc.Proofs.Outcome
import TableDoc.Proofs.Findings
import TableDoc.Proofs.IndexNames
import TableDoc.Proofs.MemberSuffixes
