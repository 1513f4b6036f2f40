import LiteratePages.Main
import LiteratePages.Proofs.Code.Lexemes
import LiteratePages.Proofs.Code.Reparsing
import LiteratePages.Proofs.Page.CodeRuns
import LiteratePages.Proofs.Run.Sequence
import LiteratePages.Proofs.Template.Nesting
import LiteratePages.Proofs.Template.Substitution
import LiteratePages.Proofs.Code.LexerPlaces
import LiteratePages.Proofs.Code.Placement
import LiteratePages.Proofs.Code.ExpressionPlacement
import LiteratePages.Proofs.Code.FormatPlacement
import LiteratePages.Proofs.Code.ProgramPlacement
import LiteratePages.Proofs.Code.Provenance
import LiteratePages.Proofs.Run.Location
import LiteratePages.Proofs.Run.Capped
import LiteratePages.Proofs.Run.SizeCap
import LiteratePages.Proofs.Code.Occurrences
import LiteratePages.Proofs.Run.Relabeling
import LiteratePages.Proofs.Run.Faults
import LiteratePages.Proofs.Run.Coupling
import LiteratePages.Proofs.Run.Invariant
import LiteratePages.Proofs.Run.Machine
import LiteratePages.Proofs.Run.DepthCap
import LiteratePages.Proofs.Run.Frame
import LiteratePages.Proofs.Run.Identities
import LiteratePages.Proofs.Run.Mirroring
import LiteratePages.Proofs.Run.Noninterference
import LiteratePages.Proofs.Text.LineEnds
import LiteratePages.Proofs.Text.Margin
import LiteratePages.Proofs.Page.Rendering
import LiteratePages.Proofs.Page.Markup
import LiteratePages.Proofs.Template.Closing
import LiteratePages.Proofs.Template.Inclusion
import LiteratePages.Proofs.Code.Unplacing
import LiteratePages.Proofs.Code.TokenBoundaries
import LiteratePages.Proofs.Code.LineBreaks
import LiteratePages.Proofs.Code.Indentation
import LiteratePages.Proofs.Run.Literals
import LiteratePages.Proofs.Template.Ranges
import LiteratePages.Proofs.Template.Splicing
import LiteratePages.Proofs.Site.Pages
import LiteratePages.Proofs.Code.FormatWriting
import LiteratePages.Proofs.Page.ClosingLine
import LiteratePages.Proofs.Page.Resumption
import LiteratePages.Proofs.Run.Display
import LiteratePages.Proofs.Run.Interchange
import LiteratePages.Proofs.Template.Passing
import LiteratePages.Proofs.Run.SequenceBounds
import LiteratePages.Proofs.Code.Coverage
