import ElfInspect.Main
import ElfInspect.Session
import ElfInspect.Proofs.Results
import ElfInspect.Proofs.Simulation
import ElfInspect.Proofs.FaultInjection
import ElfInspect.Proofs.Layout
import ElfInspect.Proofs.Serving
import ElfInspect.Proofs.Checks
import ElfInspect.Proofs.Verdict
import ElfInspect.Proofs.Acceptance
import ElfInspect.Proofs.Utf8
import ElfInspect.Proofs.Assembly
import ElfInspect.Proofs.Drafts
import ElfInspect.Proofs.Image
import ElfInspect.Proofs.Canonical
import ElfInspect.Proofs.SectionRecords
import ElfInspect.Proofs.Truncation
import ElfInspect.Proofs.Accounts
import ElfInspect.Proofs.RecordedLength
import ElfInspect.Proofs.Noninterference
import ElfInspect.Proofs.ByteOrders
import ElfInspect.Proofs.Sessions
import ElfInspect.Proofs.LogTrace
import ElfInspect.Proofs.JsonGrammar
import ElfInspect.Proofs.JsonText
import ElfInspect.Proofs.JsonReport
import ElfInspect.Proofs.OneLine
import ElfInspect.Proofs.Messages
import ElfInspect.Proofs.Scopes
import ElfInspect.Proofs.CommandGrammar
import ElfInspect.Proofs.ReportLines
import ElfInspect.Proofs.TableLines
import ElfInspect.Proofs.SectionRows
import ElfInspect.Proofs.Runs
import ElfInspect.Proofs.PositionedRead
import ElfInspect.Proofs.RangeChecks
import ElfInspect.Proofs.Postconditions
import ElfInspect.Proofs.HandOver
import ElfInspect.Proofs.TruncationCounts
import ElfInspect.Proofs.Sequences
import ElfInspect.Proofs.Segments
import ElfInspect.Proofs.NameRuns
import ElfInspect.Proofs.Numerals
import ElfInspect.Proofs.HeaderLines
import ElfInspect.Proofs.Diagnoses
import ElfInspect.Proofs.FieldRuns
import ElfInspect.Proofs.Printable
import ElfInspect.Proofs.TableColumns
import ElfInspect.Proofs.SectionColumns
import ElfInspect.Proofs.Escapes
import ElfInspect.Proofs.PlainReports
import ElfInspect.Proofs.FlagLetters
