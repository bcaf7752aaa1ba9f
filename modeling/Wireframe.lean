import Wireframe.Backend.Client
import Wireframe.Fault.Arguments
import Wireframe.Inputs.Decode
import Wireframe.Log.Sink
import Wireframe.Proofs.Design.Forms
import Wireframe.Proofs.Pipeline.Failures
import Wireframe.Proofs.Pipeline.SampleSuccess
import Wireframe.Service.Response
import Wireframe.Proofs.Reply.Answer
import Wireframe.Proofs.Layout.Placement
import Wireframe.Proofs.Pipeline.LayoutRun
import Wireframe.Proofs.Reply.Value
import Wireframe.Proofs.Json.Reader
import Wireframe.Proofs.Pipeline.LayoutResult
import Wireframe.Proofs.Pipeline.LayoutFailure
import Wireframe.Proofs.Pipeline.Blind
import Wireframe.Proofs.Pipeline.Handover
import Wireframe.Proofs.Layout.Fit
import Wireframe.Proofs.Layout.Acceptance
import Wireframe.Proofs.Pipeline.Delivery
import Wireframe.Proofs.Reply.Assignment
import Wireframe.Proofs.Inputs.Announcement
import Wireframe.Proofs.Reply.SampleBindings
import Wireframe.Proofs.Reply.SampleReferences
import Wireframe.Proofs.Reply.SampleNames
import Wireframe.Proofs.Pipeline.Questions
import Wireframe.Proofs.Service.LayoutResponse
import Wireframe.Proofs.Prompt.Design
import Wireframe.Proofs.Prompt.Outcome
import Wireframe.Proofs.Prompt.TableOrder
import Wireframe.Proofs.Reply.Blocks
import Wireframe.Proofs.Reply.Prose
import Wireframe.Proofs.Reply.Wrapping
import Wireframe.Proofs.Reply.Repair
import Wireframe.Proofs.Reply.Verbatim
import Wireframe.Proofs.Reply.SampleIdentifiers
import Wireframe.Proofs.Reply.SampleLiterals
import Wireframe.Proofs.Markup.Components
import Wireframe.Proofs.Prompt.Instructions
import Wireframe.Proofs.Inputs.Check
import Wireframe.Proofs.Layout.Departures
import Wireframe.Proofs.Layout.Arrangement
import Wireframe.Proofs.Backend.Session
import Wireframe.Proofs.Pipeline.Destinations
import Wireframe.Proofs.Backend.Health
import Wireframe.Proofs.Log.Nesting
import Wireframe.Proofs.Naming.Casing
