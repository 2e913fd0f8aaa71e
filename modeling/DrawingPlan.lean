import DrawingPlan.Assistant.Commands
import DrawingPlan.Assistant.Completion
import DrawingPlan.Assistant.Console
import DrawingPlan.Assistant.Logging
import DrawingPlan.Assistant.Prompt
import DrawingPlan.Assistant.Settings
import DrawingPlan.Drawing.Basic
import DrawingPlan.Drawing.Entity
import DrawingPlan.Drawing.Extent
import DrawingPlan.Drawing.Filter
import DrawingPlan.Drawing.Geometry
import DrawingPlan.Drawing.Layers
import DrawingPlan.Drawing.NameTable
import DrawingPlan.Drawing.Survey
import DrawingPlan.Drawing.Transaction
import DrawingPlan.Drawing.Transform
import DrawingPlan.Entries
import DrawingPlan.Execution.Creation
import DrawingPlan.Execution.Editing
import DrawingPlan.Execution.Handler
import DrawingPlan.Execution.Run
import DrawingPlan.Fault
import DrawingPlan.Journal
import DrawingPlan.Json.Basic
import DrawingPlan.Json.Printer
import DrawingPlan.Json.Reader
import DrawingPlan.Json.Shown
import DrawingPlan.Json.Token
import DrawingPlan.Main
import DrawingPlan.Number.Decimal
import DrawingPlan.Number.FloatText
import DrawingPlan.Number.Hypotenuse
import DrawingPlan.Number.Layout
import DrawingPlan.Number.Nearest
import DrawingPlan.Number.Power
import DrawingPlan.Number.Scalar
import DrawingPlan.Number.Shortest
import DrawingPlan.Plan.Action
import DrawingPlan.Plan.Decoding
import DrawingPlan.Plan.Fence
import DrawingPlan.Plan.Field
import DrawingPlan.Plan.ActionReading
import DrawingPlan.Plane.Box
import DrawingPlan.Plane.Outline
import DrawingPlan.Plane.Point
import DrawingPlan.Proofs.Drawing.Change
import DrawingPlan.Proofs.Drawing.Session
import DrawingPlan.Proofs.Entries
import DrawingPlan.Text.Basic
import DrawingPlan.Text.Blank
import DrawingPlan.Text.Casing
import DrawingPlan.Text.CharClass
import DrawingPlan.Text.Digit
import DrawingPlan.Text.Printable
import DrawingPlan.Text.Quoted
import DrawingPlan.Text.Utf8
import DrawingPlan.Proofs.Drawing.Rollback
import DrawingPlan.Proofs.Execution.Changes
import DrawingPlan.Proofs.Assistant.Commands
import DrawingPlan.Proofs.Execution.Course
import DrawingPlan.Proofs.Execution.Outcome
import DrawingPlan.Proofs.Execution.Sequence
import DrawingPlan.Proofs.Number.Angle
import DrawingPlan.Proofs.Plan.WellFormed
import DrawingPlan.Proofs.Drawing.Faults
import DrawingPlan.Proofs.Execution.Entities
import DrawingPlan.Proofs.Execution.Decoded
import DrawingPlan.Proofs.Drawing.Selection
import DrawingPlan.Proofs.Execution.Effects
import DrawingPlan.Proofs.Execution.Counts
import DrawingPlan.Proofs.Execution.Growth
import DrawingPlan.Proofs.Drawing.LayerTable
import DrawingPlan.Proofs.Execution.LayerUse
import DrawingPlan.Proofs.Assistant.LayerLaw
import DrawingPlan.Proofs.Execution.Blame
import DrawingPlan.Proofs.Json.Trim
import DrawingPlan.Proofs.Plan.Payload
import DrawingPlan.Proofs.Text.Blank
import DrawingPlan.Proofs.Plane.Exact
import DrawingPlan.Proofs.Drawing.Similarity
import DrawingPlan.Proofs.Drawing.Content
import DrawingPlan.Proofs.Execution.Attributes
import DrawingPlan.Proofs.Drawing.Windows
import DrawingPlan.Proofs.Execution.Editing
import DrawingPlan.Proofs.Plan.Slots
import DrawingPlan.Proofs.Plan.Locality
import DrawingPlan.Proofs.Plan.Shapes
import DrawingPlan.Proofs.Drawing.Verdicts
import DrawingPlan.Proofs.Number.Order
import DrawingPlan.Proofs.Drawing.Rectangles
import DrawingPlan.Proofs.Drawing.InfiniteTurns
import DrawingPlan.Proofs.Drawing.Enclosure
import DrawingPlan.Proofs.Drawing.Composition
import DrawingPlan.Proofs.Drawing.Stretching
import DrawingPlan.Proofs.Execution.TurnedCreation
import DrawingPlan.Proofs.Execution.Repetition
import DrawingPlan.Proofs.Execution.Independence
import DrawingPlan.Proofs.Assistant.LayerAudit
import DrawingPlan.Proofs.Json.Literal
import DrawingPlan.Proofs.Plan.Spelling
import DrawingPlan.Proofs.Plan.NormalForm
import DrawingPlan.Proofs.Plan.UnclosedFence
import DrawingPlan.Proofs.Plan.Skips
import DrawingPlan.Proofs.Drawing.Walk
import DrawingPlan.Proofs.Json.Document
import DrawingPlan.Proofs.Text.Utf8
import DrawingPlan.Proofs.Assistant.ApiKey
import DrawingPlan.Proofs.Plan.WindowCorners
