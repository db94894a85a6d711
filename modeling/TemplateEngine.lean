import TemplateEngine.Fault.Report
import TemplateEngine.Host.Standard
import TemplateEngine.Main
import TemplateEngine.Script
import TemplateEngine.Proofs.Section.Move
import TemplateEngine.Proofs.Section.InStep
import TemplateEngine.Proofs.Section.Course
import TemplateEngine.Proofs.Section.Failure
import TemplateEngine.Proofs.Section.Echo
import TemplateEngine.Proofs.Engine.Failure
import TemplateEngine.Proofs.Program.Orderly
import TemplateEngine.Proofs.Engine.Repertoire
import TemplateEngine.Proofs.Engine.History
import TemplateEngine.Proofs.Engine.Resolution
import TemplateEngine.Proofs.Render.Occurrence
import TemplateEngine.Proofs.Render.Cover
import TemplateEngine.Proofs.Render.Surroundings
import TemplateEngine.Proofs.Render.Frame
import TemplateEngine.Proofs.Render.Act
import TemplateEngine.Proofs.Render.Body
import TemplateEngine.Proofs.Render.Chronicle
import TemplateEngine.Proofs.Render.Accounting
import TemplateEngine.Proofs.Engine.BodyCache
import TemplateEngine.Proofs.Render.Inside
import TemplateEngine.Proofs.Render.Leg
import TemplateEngine.Proofs.Render.Failure
import TemplateEngine.Proofs.Render.Evolve
import TemplateEngine.Proofs.Render.Exchange
import TemplateEngine.Proofs.Render.Precedence
import TemplateEngine.Proofs.Render.Stackless
import TemplateEngine.Proofs.Render.Refinement
import TemplateEngine.Proofs.Render.Chain
import TemplateEngine.Proofs.Source.InMemory
import TemplateEngine.Proofs.Source.FileTemplate
import TemplateEngine.Proofs.Engine.Containment
import TemplateEngine.Proofs.Engine.Bare
import TemplateEngine.Proofs.Escape.Entity
import TemplateEngine.Proofs.Escape.Pipeline
import TemplateEngine.Proofs.Capture.Ledger
import TemplateEngine.Proofs.CommandLine.Data
import TemplateEngine.Proofs.CommandLine.Files
import TemplateEngine.Proofs.CommandLine.AllOrNothing
import TemplateEngine.Proofs.CommandLine.Reporting
import TemplateEngine.Proofs.FileTree.Shape
import TemplateEngine.Proofs.Engine.Rivals
import TemplateEngine.Proofs.CommandLine.Override
import TemplateEngine.Proofs.Text.Pieces
import TemplateEngine.Proofs.TemplateName.Grammar
import TemplateEngine.Proofs.Function.Pipeline
import TemplateEngine.Proofs.Function.Registration
import TemplateEngine.Proofs.Function.Calling
import TemplateEngine.Proofs.Function.Identifier
import TemplateEngine.Proofs.Function.Denotation
import TemplateEngine.Proofs.Engine.Described
import TemplateEngine.Proofs.Engine.Configured
import TemplateEngine.Proofs.Render.Moment
