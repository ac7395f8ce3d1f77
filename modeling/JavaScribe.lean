import JavaScribe.Logging
import JavaScribe.Proofs.NameBacktracking
import JavaScribe.Proofs.NameRuns
import JavaScribe.Proofs.RegisteredImports
import JavaScribe.Scribe
import JavaScribe.Text.Literal
import JavaScribe.Proofs.Shortening
import JavaScribe.Proofs.Capture
import JavaScribe.Proofs.Expansion
import JavaScribe.Proofs.WillingSinks
import JavaScribe.Proofs.Writing
import JavaScribe.Proofs.Layout
import JavaScribe.Proofs.LineWriting
import JavaScribe.Proofs.Construct
import JavaScribe.Proofs.Emission
import JavaScribe.Proofs.Runs
import JavaScribe.Proofs.Exits
import JavaScribe.Proofs.CallSteps
import JavaScribe.Proofs.Effects
import JavaScribe.Proofs.ScopeShape
import JavaScribe.Proofs.Places
import JavaScribe.Proofs.LeakedScopes
import JavaScribe.Proofs.Separators
import JavaScribe.Proofs.Braces
import JavaScribe.Proofs.BalancedBraces
import JavaScribe.Proofs.ArgumentFaults
import JavaScribe.Proofs.ShortenedRuns
import JavaScribe.Proofs.FailedOpenings
import JavaScribe.Proofs.StepFaults
import JavaScribe.Proofs.OpenTypes
import JavaScribe.Proofs.Rejections
import JavaScribe.Proofs.NamingRuns
import JavaScribe.Proofs.TakenTexts
import JavaScribe.Proofs.ConstructorNames
import JavaScribe.Proofs.Header
import JavaScribe.Proofs.IndentationUnits
import JavaScribe.Proofs.LogReplay
import JavaScribe.Proofs.JavaStrings
import JavaScribe.Proofs.LiteralReading
import JavaScribe.Proofs.LoggerTree
import JavaScribe.Proofs.LogDelivery
import JavaScribe.Proofs.Resolution
import JavaScribe.Proofs.ImportEffects
import JavaScribe.Proofs.LeadingSegments
import JavaScribe.Proofs.VariadicNames
import JavaScribe.Proofs.MisplacedCalls
import JavaScribe.Proofs.UnfilledPatterns
import JavaScribe.Proofs.ImportNames
import JavaScribe.Proofs.ImportCalls
import JavaScribe.Proofs.AnnotationLayout
import JavaScribe.Proofs.LongestQualifiers
import JavaScribe.Proofs.ShorteningTwice
import JavaScribe.Proofs.WrittenLines
import JavaScribe.Proofs.StatementReading
import JavaScribe.Proofs.JavadocReading
import JavaScribe.Proofs.TypesBeforePackage
import JavaScribe.Proofs.PatternSlots
import JavaScribe.Proofs.ModifierLists
