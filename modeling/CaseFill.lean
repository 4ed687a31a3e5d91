import CaseFill.Buffer
import CaseFill.Main
import CaseFill.Proofs.Buffer
import CaseFill.Proofs.Host.Course
import CaseFill.Proofs.Host.Answers
import CaseFill.Proofs.Text.Search
import CaseFill.Proofs.Header
import CaseFill.Proofs.Symbol
import CaseFill.Proofs.Symbol.Flat
import CaseFill.Proofs.Sweep
import CaseFill.Proofs.Resolve.Trace
import CaseFill.Proofs.Resolve.Verdict
import CaseFill.Proofs.Resolve.Origin
import CaseFill.Proofs.Proposal.Site
import CaseFill.Proofs.Proposal.Rollback
import CaseFill.Proofs.Fix.Ending
import CaseFill.Proofs.Fix.Transaction
import CaseFill.Proofs.Fix.Commit
import CaseFill.Proofs.Fix.Braces
import CaseFill.Proofs.Server.Offer
import CaseFill.Proofs.Server.Session
import CaseFill.Proofs.LineEnding
import CaseFill.Proofs.Cases
import CaseFill.Proofs.Sweep.Course
import CaseFill.Proofs.Resolve.Cap
import CaseFill.Proofs.Proposal.Condition
import CaseFill.Proofs.Fix.Punctuation
import CaseFill.Proofs.Symbol.Preorder
import CaseFill.Proofs.Text.Token
import CaseFill.Proofs.Hover.Block
import CaseFill.Proofs.Hover.Declaration
import CaseFill.Proofs.Hover.Render
import CaseFill.Proofs.Header.Order
import CaseFill.Proofs.Header.Body
import CaseFill.Proofs.Server.Settings
import CaseFill.Proofs.Text.Boundary
import CaseFill.Proofs.Text.Column
import CaseFill.Proofs.Text.Match
import CaseFill.Proofs.Text.Word
import CaseFill.Proofs.Text.Slice
import CaseFill.Proofs.ByteReading
