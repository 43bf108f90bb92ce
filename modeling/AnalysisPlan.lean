import AnalysisPlan.Main
import AnalysisPlan.Proofs.Course
import AnalysisPlan.Proofs.Following
import AnalysisPlan.Proofs.Enlistment
import AnalysisPlan.Proofs.Pass
import AnalysisPlan.Proofs.Survivors
import AnalysisPlan.Proofs.Resolving
import AnalysisPlan.Proofs.Rearrangement
import AnalysisPlan.Proofs.Evaluation
import AnalysisPlan.Proofs.Loading
import AnalysisPlan.Proofs.AskedPaths
import AnalysisPlan.Proofs.PlannedNames
import AnalysisPlan.Proofs.PlannedTasks
import AnalysisPlan.Proofs.Layers
import AnalysisPlan.Proofs.IgnoredNames
import AnalysisPlan.Proofs.Thinning
import AnalysisPlan.Proofs.Destinations
import AnalysisPlan.Proofs.ShownUmbrellas
import AnalysisPlan.Proofs.OptionInfluence
import AnalysisPlan.Proofs.Applying
import AnalysisPlan.Proofs.NestedCalls
import AnalysisPlan.Proofs.Finalizing
import AnalysisPlan.Proofs.FailedRequests
import AnalysisPlan.Proofs.WrittenJson
import AnalysisPlan.Proofs.WrittenLines
import AnalysisPlan.Proofs.DocumentedPlan
import AnalysisPlan.Proofs.Agreement
import AnalysisPlan.Proofs.ListedPlugins
import AnalysisPlan.Proofs.ReadingLimits
import AnalysisPlan.Proofs.LoadFailures
import AnalysisPlan.Proofs.AnsweredFailures
import AnalysisPlan.Proofs.Wrapping
import AnalysisPlan.Proofs.LiteralMarkup
import AnalysisPlan.Proofs.FittingGrid
import AnalysisPlan.Proofs.PrintedMessages
import AnalysisPlan.Proofs.ReportMessages
import AnalysisPlan.Proofs.BothConsoles
import AnalysisPlan.Proofs.GraphHistory
import AnalysisPlan.Proofs.LateOptions
import AnalysisPlan.Proofs.FieldForms
import AnalysisPlan.Proofs.AndroidBlocks
import AnalysisPlan.Proofs.AnalysisBlocks
import AnalysisPlan.Proofs.BlockRoundTrip
import AnalysisPlan.Proofs.FlavorChoices
import AnalysisPlan.Proofs.SameSurvivors
import AnalysisPlan.Proofs.DeclaredCoordinates
import AnalysisPlan.Proofs.AssembledClasspath
import AnalysisPlan.Proofs.ListedVariants
import AnalysisPlan.Proofs.SourceDirectories
import AnalysisPlan.Proofs.VariantClasspaths
import AnalysisPlan.Proofs.BlockedSourceSets
import AnalysisPlan.Proofs.AlignedTable
import AnalysisPlan.Proofs.SimilarNames
import AnalysisPlan.Proofs.ProjectDirectory
