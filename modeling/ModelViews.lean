import ModelViews.Main
import ModelViews.Proofs.Outcomes
import ModelViews.Proofs.Documentation
import ModelViews.Proofs.Contributions
import ModelViews.Proofs.Faults
import ModelViews.Proofs.Emission
import ModelViews.Proofs.TypedViews
import ModelViews.Proofs.Tables
import ModelViews.Proofs.Trees
import ModelViews.Proofs.ModuleNames
import ModelViews.Proofs.Publishing
import ModelViews.Proofs.KeptModules
import ModelViews.Proofs.Literals
import ModelViews.Proofs.ObjectText
import ModelViews.Proofs.Decoding
import ModelViews.Proofs.RelationViews
import ModelViews.Proofs.HiddenParts
import ModelViews.Proofs.Trimming
import ModelViews.Proofs.Lookups
import ModelViews.Proofs.DirectiveLines
import ModelViews.Proofs.DeclarationOrder
import ModelViews.Proofs.Warnings
import ModelViews.Proofs.MissingEnums
import ModelViews.Proofs.Ways
import ModelViews.Proofs.WholeTrees
import ModelViews.Proofs.Filling
import ModelViews.Proofs.Replacement
import ModelViews.Proofs.FailedRuns
import ModelViews.Proofs.Stages
import ModelViews.Proofs.Spellings
import ModelViews.Proofs.JsonText
import ModelViews.Proofs.JsonReading
import ModelViews.Proofs.Serving
import ModelViews.Proofs.JsonProgress
import ModelViews.Proofs.TextParts
import ModelViews.Proofs.LineGrammar
import ModelViews.Proofs.Limits
import ModelViews.Proofs.ForeignKeys
import ModelViews.Proofs.Sessions
import ModelViews.Proofs.Quoting
import ModelViews.Proofs.LiteralForms
import ModelViews.Proofs.DefinitionTerms
import ModelViews.Proofs.Precedence
import ModelViews.Proofs.DecimalLimits
import ModelViews.Proofs.SelectionKeys
import ModelViews.Proofs.EnumLiterals
import ModelViews.Proofs.Connections
import ModelViews.Proofs.ModelOptions
import ModelViews.Proofs.Deliveries
import ModelViews.Proofs.Escaping
import ModelViews.Proofs.Cutting
import ModelViews.Proofs.Layout
import ModelViews.Proofs.OpeningWords
import ModelViews.Proofs.Complaints
import ModelViews.Proofs.ReportedFailures
import ModelViews.Proofs.Refusals
import ModelViews.Proofs.ModuleText
import ModelViews.Proofs.ModuleGraph
import ModelViews.Proofs.JoinedDocumentation
import ModelViews.Proofs.AliasTable
import ModelViews.Proofs.IgnoredKeys
