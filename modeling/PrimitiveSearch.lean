import PrimitiveSearch.Answer.Basic
import PrimitiveSearch.Answer.Reading
import PrimitiveSearch.Answer.Writing
import PrimitiveSearch.Binary64.Basic
import PrimitiveSearch.Binary64.Notation
import PrimitiveSearch.Binary64.Reading
import PrimitiveSearch.Binary64.Shortest
import PrimitiveSearch.Catalogue
import PrimitiveSearch.Catalogue.Index
import PrimitiveSearch.Catalogue.Source
import PrimitiveSearch.CommandLine.Options
import PrimitiveSearch.CommandLine.Reading
import PrimitiveSearch.CommandLine.Run
import PrimitiveSearch.CommandLine.Usage
import PrimitiveSearch.Declaration.Parameter
import PrimitiveSearch.Declaration.Signature
import PrimitiveSearch.Declaration.Split
import PrimitiveSearch.Duration
import PrimitiveSearch.EngineModule.Header
import PrimitiveSearch.EngineModule.Layout
import PrimitiveSearch.EngineModule.Registration
import PrimitiveSearch.EngineModule.Render
import PrimitiveSearch.Host.Basic
import PrimitiveSearch.Host.ProgramRun
import PrimitiveSearch.Host.Reply
import PrimitiveSearch.Host.Unreadable
import PrimitiveSearch.Json.Fault
import PrimitiveSearch.Json.Lexeme
import PrimitiveSearch.Json.Number
import PrimitiveSearch.Json.Reading
import PrimitiveSearch.Json.Skip
import PrimitiveSearch.Json.Writing
import PrimitiveSearch.Main
import PrimitiveSearch.Model
import PrimitiveSearch.Path
import PrimitiveSearch.Pipeline.Build
import PrimitiveSearch.Pipeline.Engine
import PrimitiveSearch.Pipeline.Result
import PrimitiveSearch.Pipeline.Run
import PrimitiveSearch.Prompt.Instructions
import PrimitiveSearch.Prompt.Text
import PrimitiveSearch.Proposal.Basic
import PrimitiveSearch.Proposal.Check
import PrimitiveSearch.Proposal.Scan
import PrimitiveSearch.Rehearsal.Bench
import PrimitiveSearch.Rehearsal.Collaborators
import PrimitiveSearch.Rehearsal.Cue
import PrimitiveSearch.Rehearsal.FileTree
import PrimitiveSearch.Rehearsal.Script
import PrimitiveSearch.Report
import PrimitiveSearch.Search.Equipment
import PrimitiveSearch.Search.Module
import PrimitiveSearch.Search.Outcome
import PrimitiveSearch.Search.Plan
import PrimitiveSearch.Search.Progress
import PrimitiveSearch.Search.Round
import PrimitiveSearch.Search.Run
import PrimitiveSearch.Search.Summary
import PrimitiveSearch.Search.World
import PrimitiveSearch.Session.Basic
import PrimitiveSearch.Session.Tour
import PrimitiveSearch.Settings.Basic
import PrimitiveSearch.Settings.Derived
import PrimitiveSearch.Settings.Document
import PrimitiveSearch.Settings.Source
import PrimitiveSearch.Task.Basic
import PrimitiveSearch.Task.Document
import PrimitiveSearch.Task.Source
import PrimitiveSearch.Text.Basic
import PrimitiveSearch.Text.Letter
import PrimitiveSearch.Text.Numeral
import PrimitiveSearch.Text.Printable
import PrimitiveSearch.Text.Quoted
import PrimitiveSearch.Text.Ranges
import PrimitiveSearch.Text.Utf8
import PrimitiveSearch.Proofs.Text.Lines
import PrimitiveSearch.Proofs.Declaration.Grammar
import PrimitiveSearch.Proofs.Declaration.Arguments
import PrimitiveSearch.Proofs.Declaration.Key
import PrimitiveSearch.Proofs.Catalogue.Lookup
import PrimitiveSearch.Proofs.Answer.LastAnswer
import PrimitiveSearch.Proofs.Proposal.Body
import PrimitiveSearch.Proofs.Proposal.Block
import PrimitiveSearch.Proofs.Answer.RoundTrip
import PrimitiveSearch.Proofs.Search.Log
import PrimitiveSearch.Proofs.Search.Course
import PrimitiveSearch.Proofs.Search.Bookkeeping
import PrimitiveSearch.Proofs.Catalogue.Annotation
import PrimitiveSearch.Proofs.Catalogue.Reference
import PrimitiveSearch.Proofs.Prompt.Displayed
import PrimitiveSearch.Proofs.Search.Deeds
import PrimitiveSearch.Proofs.Search.Cancellation
import PrimitiveSearch.Proofs.Search.DataFlow
import PrimitiveSearch.Proofs.Pipeline.Discipline
import PrimitiveSearch.Proofs.Declaration.Choice
import PrimitiveSearch.Proofs.Text.Words
import PrimitiveSearch.Proofs.Answer.Verdict
import PrimitiveSearch.Proofs.Json.Scalar
import PrimitiveSearch.Proofs.Json.Compound
import PrimitiveSearch.Proofs.Task.Document
import PrimitiveSearch.Proofs.Settings.Document
import PrimitiveSearch.Proofs.EngineModule.Wrapper
import PrimitiveSearch.Proofs.Session.Trail
import PrimitiveSearch.Proofs.CommandLine.ExitCode
import PrimitiveSearch.Proofs.Proposal.Outermost
import PrimitiveSearch.Proofs.Text.Mention
import PrimitiveSearch.Proofs.Answer.Exactness
import PrimitiveSearch.Proofs.EngineModule.Agreement
import PrimitiveSearch.Proofs.EngineModule.Redefinition
import PrimitiveSearch.Proofs.Declaration.Bare
import PrimitiveSearch.Proofs.Proposal.Issues
import PrimitiveSearch.Proofs.Proposal.Naming
import PrimitiveSearch.Proofs.Declaration.EmptyArguments
import PrimitiveSearch.Proofs.Catalogue.Spacing
import PrimitiveSearch.Proofs.Pipeline.Results
import PrimitiveSearch.Proofs.Prompt.Echo
import PrimitiveSearch.Proofs.Prompt.Pairs
import PrimitiveSearch.Proofs.Search.Fallbacks
import PrimitiveSearch.Proofs.Json.Faithful
import PrimitiveSearch.Proofs.Json.Members
import PrimitiveSearch.Proofs.Settings.Members
import PrimitiveSearch.Proofs.Declaration.Joining
import PrimitiveSearch.Proofs.Proposal.Stretches
import PrimitiveSearch.Proofs.Binary64.Numeral
import PrimitiveSearch.Proofs.Report.Reading
import PrimitiveSearch.Proofs.Search.Costs
