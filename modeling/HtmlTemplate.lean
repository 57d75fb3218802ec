import HtmlTemplate.Compiler
import HtmlTemplate.Expand.ScriptEvaluator
import HtmlTemplate.Proofs.Chains
import HtmlTemplate.Proofs.CompiledOutput
import HtmlTemplate.Proofs.ContentValues
import HtmlTemplate.Proofs.DepthGuard
import HtmlTemplate.Proofs.Edits
import HtmlTemplate.Proofs.ErrorTraces
import HtmlTemplate.Proofs.LaidOut
import HtmlTemplate.Proofs.PlainMarkup
import HtmlTemplate.Proofs.Preloading
import HtmlTemplate.Proofs.ProjectedContent
import HtmlTemplate.Proofs.ReceivedAttributes
import HtmlTemplate.Proofs.Rest
import HtmlTemplate.Proofs.SecondReading
import HtmlTemplate.Proofs.Sessions
import HtmlTemplate.Proofs.Siblings
import HtmlTemplate.Proofs.StackReplay
import HtmlTemplate.Text.PatternText
import HtmlTemplate.Proofs.DistributedAttributes
import HtmlTemplate.Proofs.EvaluatedAttributes
import HtmlTemplate.Proofs.PropReads
import HtmlTemplate.Proofs.LinkedLoops
import HtmlTemplate.Proofs.Loops
import HtmlTemplate.Proofs.DeepestTitle
import HtmlTemplate.Proofs.FailedReads
import HtmlTemplate.Proofs.SecondLayout
import HtmlTemplate.Proofs.GluedContent
import HtmlTemplate.Proofs.Supplanting
import HtmlTemplate.Proofs.FailedEdits
import HtmlTemplate.Proofs.SeparateCopies
import HtmlTemplate.Proofs.OpenFrames
import HtmlTemplate.Proofs.SoundBuilding
import HtmlTemplate.Proofs.UsableMarkers
import HtmlTemplate.Proofs.Scopes
import HtmlTemplate.Proofs.ReadNames
import HtmlTemplate.Proofs.EvaluatedNames
import HtmlTemplate.Proofs.ScopeEdits
import HtmlTemplate.Proofs.CommittedScripts
import HtmlTemplate.Proofs.LoadedOnce
import HtmlTemplate.Proofs.PlainDiagnostics
import HtmlTemplate.Proofs.Forwarding
import HtmlTemplate.Proofs.Switches
import HtmlTemplate.Proofs.RegisteredNames
import HtmlTemplate.Proofs.ShortestSegments
import HtmlTemplate.Proofs.ContextBlocks
