import Testsmith.Main
import Testsmith.Proofs.Actions
import Testsmith.Proofs.FileRewrite
import Testsmith.Proofs.StageRun
import Testsmith.Proofs.LoopRun
import Testsmith.Proofs.LoopProtocol
import Testsmith.Proofs.LoopFiles
import Testsmith.Proofs.OperationSteps
import Testsmith.Proofs.ParameterLists
import Testsmith.Proofs.ClassMethods
import Testsmith.Proofs.TestVerdict
import Testsmith.Proofs.Balance
import Testsmith.Proofs.PrintedSignatures
import Testsmith.Proofs.LosslessSplitting
import Testsmith.Proofs.ClassDependencies
import Testsmith.Proofs.TypeSyntax
import Testsmith.Proofs.ExtractorAgreement
import Testsmith.Proofs.FailureRecords
import Testsmith.Proofs.Replacement
import Testsmith.Proofs.EffectiveRepairs
import Testsmith.Proofs.Replies
import Testsmith.Proofs.Indifference
import Testsmith.Proofs.GenerationThenValidation
import Testsmith.Proofs.Frames
import Testsmith.Proofs.LargerBudgets
import Testsmith.Proofs.Footprints
import Testsmith.Proofs.OperationFootprints
import Testsmith.Proofs.WrittenJson
import Testsmith.Proofs.WrittenEnvelopes
import Testsmith.Proofs.WrittenPaths
import Testsmith.Proofs.ExecutedClasses
import Testsmith.Proofs.WrittenToml
import Testsmith.Proofs.DocumentReading
import Testsmith.Proofs.LoadedSettings
import Testsmith.Proofs.MalformedSymbols
import Testsmith.Proofs.ClassSymbols
import Testsmith.Proofs.ReportLifeCycle
import Testsmith.Proofs.ToolAnswers
import Testsmith.Proofs.RepairConvergence
import Testsmith.Proofs.PatchedSpans
import Testsmith.Proofs.ScaffoldLines
import Testsmith.Proofs.DeclaredNames
import Testsmith.Proofs.MirroredPaths
import Testsmith.Proofs.SeparateTestFiles
import Testsmith.Proofs.PathSpellings
import Testsmith.Proofs.MadeDirectories
import Testsmith.Proofs.OutputPlaces
import Testsmith.Proofs.UntouchedScaffolds
import Testsmith.Proofs.RecompiledScaffolds
import Testsmith.Proofs.Regeneration
import Testsmith.Proofs.UsableNames
import Testsmith.Proofs.Qualifiers
import Testsmith.Proofs.ImportLines
import Testsmith.Proofs.WholeKeywords
import Testsmith.Proofs.FirstGroups
import Testsmith.Proofs.FrozenStandards
import Testsmith.Proofs.KeptSettings
