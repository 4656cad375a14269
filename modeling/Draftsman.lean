import Draftsman.Main
import Draftsman.Proofs.CommandLine.Documents
import Draftsman.Proofs.Decimal.NumberText
import Draftsman.Proofs.Diagram.Canonical
import Draftsman.Proofs.Diagram.Growth
import Draftsman.Proofs.Diagram.MemberOrder
import Draftsman.Proofs.Extraction.Draft
import Draftsman.Proofs.Extraction.Names
import Draftsman.Proofs.Generation.Decoding
import Draftsman.Proofs.Generation.Fallback
import Draftsman.Proofs.Generation.Fence
import Draftsman.Proofs.Json.Grammar
import Draftsman.Proofs.Json.RoundTrip
import Draftsman.Proofs.Json.Sorting
import Draftsman.Proofs.Json.Soundness
import Draftsman.Proofs.Prose.Tokens
import Draftsman.Proofs.Markup.Participants
import Draftsman.Proofs.Markup.UseCases
import Draftsman.Proofs.Reply.Repair
import Draftsman.Proofs.Reply.Payload
import Draftsman.Proofs.Session.Histories
import Draftsman.Proofs.Session.Interleavings
import Draftsman.Proofs.Text.Solid
import Draftsman.Proofs.Markup.Lines
import Draftsman.Proofs.Markup.Tokens
import Draftsman.Proofs.Markup.ClassReading
import Draftsman.Proofs.Diagram.Merging
import Draftsman.Proofs.Explanation.Contents
import Draftsman.Proofs.Extraction.Appending
import Draftsman.Proofs.Markup.SequenceReading
import Draftsman.Proofs.Diagram.KeptItems
import Draftsman.Proofs.Reply.BareAnswer
import Draftsman.Proofs.Markup.UndeclaredEnds
import Draftsman.Proofs.Session.Isolation
import Draftsman.Proofs.Extraction.ClassNames
import Draftsman.Proofs.Extraction.Enumerations
import Draftsman.Proofs.Extraction.Objects
import Draftsman.Proofs.Extraction.Listings
import Draftsman.Proofs.Extraction.ClosedWords
import Draftsman.Proofs.Extraction.GrantedMethods
import Draftsman.Proofs.Prose.Splitting
import Draftsman.Proofs.Prose.BaseForms
import Draftsman.Proofs.Extraction.Quantifiers
import Draftsman.Proofs.Extraction.Respacing
import Draftsman.Proofs.Generation.UserText
import Draftsman.Proofs.Prose.Lookahead
import Draftsman.Proofs.Extraction.GrantedOrder
import Draftsman.Proofs.Markup.ParticipantWords
