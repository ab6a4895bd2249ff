import PromptStream.Main
import PromptStream.Event.Log
import PromptStream.Unicode.Category
import PromptStream.Unicode.CategoryTable
import PromptStream.Unicode.Folding
import PromptStream.Unicode.Property
import PromptStream.Unicode.PropertyTable
import PromptStream.Unicode.Script
import PromptStream.Unicode.ScriptTable
import PromptStream.Pattern.CharSet
import PromptStream.Pattern.Node
import PromptStream.Pattern.ClassName
import PromptStream.Pattern.Escape
import PromptStream.Display.Shape
import PromptStream.Display.Values
import PromptStream.Event.Record
import PromptStream.Proofs.Engine.StoppedText
import PromptStream.Proofs.Engine.AfterFailure
import PromptStream.Proofs.Generation.History
import PromptStream.Proofs.Engine.GenerationRun
import PromptStream.Proofs.Engine.RecordedText
import PromptStream.Proofs.Generation.LiteralStop
import PromptStream.Proofs.Provider.EventStream
import PromptStream.Proofs.Outputs.DroppedWrite
import PromptStream.Proofs.Engine.FinishedResult
import PromptStream.Proofs.Engine.Drain
import PromptStream.Proofs.Engine.WholeTree
import PromptStream.Proofs.Engine.PathContext
import PromptStream.Proofs.Engine.NodeContext
import PromptStream.Proofs.Provider.StreamedAnswer
import PromptStream.Proofs.Engine.UnstoppedRun
import PromptStream.Proofs.Provider.ReportedError
import PromptStream.Proofs.Provider.SameResult
import PromptStream.Proofs.Engine.LoopStatus
import PromptStream.Proofs.Engine.PushTiming
import PromptStream.Proofs.Engine.NestedLoops
import PromptStream.Proofs.Engine.ChatLoop
import PromptStream.Proofs.State.Waiting
import PromptStream.Proofs.Outputs.RoundTrip
import PromptStream.Proofs.Outputs.IndependentWrites
import PromptStream.Proofs.Engine.WellNested
import PromptStream.Proofs.Engine.Laziness
import PromptStream.Proofs.Engine.ChoicesRun
import PromptStream.Proofs.Engine.FailedGeneration
import PromptStream.Proofs.Engine.CutGeneration
import PromptStream.Proofs.Engine.NextLiteral
import PromptStream.Proofs.Engine.Wrap
import PromptStream.Proofs.Engine.TemplatePositions
import PromptStream.Proofs.Engine.LoopIterations
import PromptStream.Proofs.Engine.StreamDelivery
import PromptStream.Proofs.Render.PassThrough
import PromptStream.Proofs.Prompt.Views
import PromptStream.Proofs.CommandLine.PassThrough
import PromptStream.Proofs.Engine.LineEndings
import PromptStream.Proofs.Text.Indentation
import PromptStream.Proofs.Engine.EmittedLiterals
import PromptStream.Proofs.Outputs.Growth
import PromptStream.Proofs.Provider.ChoiceNumbers
import PromptStream.Proofs.Generation.EmittedOffset
