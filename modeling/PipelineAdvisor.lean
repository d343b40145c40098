import PipelineAdvisor.Main
import PipelineAdvisor.Finding.Decode
import PipelineAdvisor.Json.Reader
import PipelineAdvisor.Proofs.Finding.Ranking
import PipelineAdvisor.Proofs.Rules.Check
import PipelineAdvisor.Proofs.Rules.Emission
import PipelineAdvisor.Proofs.Analysis.ReportOrder
import PipelineAdvisor.Proofs.Analysis.Isolation
import PipelineAdvisor.Proofs.Analysis.Identity
import PipelineAdvisor.Proofs.Yaml.Keys
import PipelineAdvisor.Proofs.Rules.Disclosure
import PipelineAdvisor.Proofs.Json.Stretches
import PipelineAdvisor.Proofs.Pipeline.StepPieces
import PipelineAdvisor.Proofs.Rules.OrbMatching
import PipelineAdvisor.Proofs.Yaml.MergeKeys
import PipelineAdvisor.Proofs.Yaml.MergedDocument
import PipelineAdvisor.Proofs.Pipeline.Sections
import PipelineAdvisor.Proofs.Pipeline.Names
import PipelineAdvisor.Proofs.Pipeline.DocumentOrder
import PipelineAdvisor.Proofs.Yaml.Inheritance
import PipelineAdvisor.Proofs.Pipeline.InheritedFields
import PipelineAdvisor.Proofs.Analysis.Selection
import PipelineAdvisor.Proofs.Pipeline.Replacement
import PipelineAdvisor.Proofs.Analysis.Independence
import PipelineAdvisor.Proofs.Pipeline.Spelling
import PipelineAdvisor.Proofs.Rules.Outline
import PipelineAdvisor.Proofs.Analysis.Respelling
import PipelineAdvisor.Proofs.Number.Rounding
import PipelineAdvisor.Proofs.Number.Decimals
import PipelineAdvisor.Proofs.Number.DecimalText
import PipelineAdvisor.Proofs.Json.Numbers
import PipelineAdvisor.Proofs.Json.Reading
import PipelineAdvisor.Proofs.Json.RoundTrip
import PipelineAdvisor.Proofs.Finding.Records
import PipelineAdvisor.Proofs.Report.DataReport
import PipelineAdvisor.Proofs.Number.WholeNumbers
import PipelineAdvisor.Proofs.Finding.Totals
import PipelineAdvisor.Proofs.Analysis.Reordering
import PipelineAdvisor.Proofs.Analysis.Subjects
import PipelineAdvisor.Proofs.Analysis.Remedies
import PipelineAdvisor.Proofs.Pipeline.Acceptance
import PipelineAdvisor.Proofs.Files.Tree
import PipelineAdvisor.Proofs.Command.Effects
import PipelineAdvisor.Proofs.Finding.Positions
import PipelineAdvisor.Proofs.Report.Threshold
import PipelineAdvisor.Proofs.Analysis.OrbDeclarations
import PipelineAdvisor.Proofs.Analysis.StepOrder
import PipelineAdvisor.Proofs.Number.Quotients
import PipelineAdvisor.Proofs.Yaml.Scalars
import PipelineAdvisor.Proofs.Text.Occurrences
import PipelineAdvisor.Proofs.Rules.InstallCommands
import PipelineAdvisor.Proofs.Rules.LongRuns
import PipelineAdvisor.Proofs.Rules.SecretScalars
import PipelineAdvisor.Proofs.Rules.Keywords
import PipelineAdvisor.Proofs.Finding.Promises
import PipelineAdvisor.Proofs.Analysis.Savings
import PipelineAdvisor.Proofs.Analysis.Bounds
import PipelineAdvisor.Proofs.Pipeline.WorkflowEntries
import PipelineAdvisor.Proofs.Analysis.Workflows
import PipelineAdvisor.Proofs.Report.Groups
import PipelineAdvisor.Proofs.Report.Wording
import PipelineAdvisor.Proofs.Report.Landmarks
import PipelineAdvisor.Proofs.Report.Frames
import PipelineAdvisor.Proofs.Report.Colour
import PipelineAdvisor.Proofs.Files.Paths
import PipelineAdvisor.Proofs.Settings.Search
import PipelineAdvisor.Proofs.Text.Joining
import PipelineAdvisor.Proofs.Rules.LeftmostRun
import PipelineAdvisor.Proofs.Yaml.Images
import PipelineAdvisor.Proofs.Pipeline.StepArray
import PipelineAdvisor.Proofs.Yaml.PlainScalars
import PipelineAdvisor.Proofs.Yaml.LiteralBlocks
import PipelineAdvisor.Proofs.Yaml.TokenQueue
import PipelineAdvisor.Proofs.Yaml.Layout
import PipelineAdvisor.Proofs.Yaml.TokenSteps
import PipelineAdvisor.Proofs.Yaml.LayoutTokens
import PipelineAdvisor.Proofs.Yaml.LayoutEvents
import PipelineAdvisor.Proofs.Yaml.LayoutNodes
import PipelineAdvisor.Proofs.Rules.SnippetLayouts
import PipelineAdvisor.Proofs.Analysis.ExampleDocuments
