import LiveConfig.Config.OfJson
import LiveConfig.Main
import LiveConfig.Proofs.Evaluation.ShortCircuit
import LiveConfig.Proofs.Evaluation.Reading
import LiveConfig.Proofs.Evaluation.TailCalls
import LiveConfig.Proofs.Rewriting.Graft
import LiveConfig.Proofs.Grammar.Acceptance
import LiveConfig.Proofs.Lifecycle.Skipping
import LiveConfig.Proofs.Lifecycle.Statics
import LiveConfig.Session
import LiveConfig.Proofs.Rewriting.Draft
import LiveConfig.Proofs.Rewriting.DocumentOrder
import LiveConfig.Proofs.Rewriting.Observing
import LiveConfig.Proofs.Rewriting.Turns
import LiveConfig.Proofs.Rewriting.Settlement
import LiveConfig.Proofs.Rewriting.Verdict
import LiveConfig.Proofs.Rewriting.Asynchrony
import LiveConfig.Proofs.Rewriting.Entering
import LiveConfig.Proofs.Lifecycle.Rendering
import LiveConfig.Proofs.Lifecycle.Caching
import LiveConfig.Proofs.Grammar.Delimiters
import LiveConfig.Proofs.Lifecycle.Unobserved
import LiveConfig.Proofs.Rewriting.Counterparts
import LiveConfig.Proofs.Variables.Overriding
import LiveConfig.Proofs.Rewriting.Occurrences
import LiveConfig.Proofs.Rewriting.Reporting
import LiveConfig.Proofs.Variables.Isolation
import LiveConfig.Proofs.Lifecycle.Sessions
import LiveConfig.Proofs.Lifecycle.Pursuit
import LiveConfig.Proofs.Lifecycle.Snapshot
import LiveConfig.Proofs.Lifecycle.InFlight
import LiveConfig.Proofs.Variables.Viewing
import LiveConfig.Proofs.Rewriting.Inspecting
import LiveConfig.Proofs.Lifecycle.Detecting
import LiveConfig.Proofs.Evaluation.Mentions
import LiveConfig.Proofs.Evaluation.ChainEnds
import LiveConfig.Proofs.Grammar.Layout
import LiveConfig.Proofs.Grammar.Segments
import LiveConfig.Proofs.Values.LooseEquality
import LiveConfig.Proofs.Evaluation.Shortcut
import LiveConfig.Proofs.Evaluation.Members
import LiveConfig.Proofs.Text.Formatting
import LiveConfig.Proofs.Text.Splitting
import LiveConfig.Proofs.Functions.Registering
import LiveConfig.Proofs.Variables.Initializing
import LiveConfig.Proofs.Lifecycle.EarlyViews
import LiveConfig.Proofs.Grammar.Nesting
