import CardTalk.Endpoint
import CardTalk.Main
import CardTalk.Proofs.Conduct.Basic
import CardTalk.Proofs.Conduct.Dispatch
import CardTalk.Proofs.Conduct.Engine
import CardTalk.Proofs.Conduct.Handler
import CardTalk.Proofs.Engine.Outside
import CardTalk.Proofs.Expr.Fuel
import CardTalk.Proofs.Expr.Layout
import CardTalk.Proofs.Expr.Lexing
import CardTalk.Proofs.Expr.Printing
import CardTalk.Proofs.Expr.Quoting
import CardTalk.Proofs.Find.Enumeration
import CardTalk.Proofs.Scene.Deck
import CardTalk.Proofs.Scene.Navigation
import CardTalk.Proofs.Scene.Writing
import CardTalk.Proofs.Script.Commands
import CardTalk.Proofs.Script.Line
import CardTalk.Proofs.Script.Printing
import CardTalk.Proofs.Session.Basic
import CardTalk.Proofs.Session.Navigation
import CardTalk.Proofs.Session.Order
import CardTalk.Proofs.Session.Saving
import CardTalk.Proofs.Session.Serialization
import CardTalk.Proofs.Engine.Reporting
import CardTalk.Proofs.Expr.Prose
import CardTalk.Proofs.Scene.Identifier
import CardTalk.Proofs.Table
import CardTalk.Proofs.Scene.Identity
import CardTalk.Proofs.Scene.Given
import CardTalk.Proofs.Scene.Distinct
import CardTalk.Proofs.Scene.Building
import CardTalk.Proofs.Session.Heartbeat
import CardTalk.Proofs.Engine.Bubbling
import CardTalk.Proofs.Expr.Literal
import CardTalk.Proofs.Script.Put
import CardTalk.Proofs.Scene.Named
import CardTalk.Proofs.Scene.Content
import CardTalk.Proofs.Engine.Putting
import CardTalk.Proofs.Engine.Appending
import CardTalk.Proofs.Session.Appending
import CardTalk.Proofs.Run
import CardTalk.Proofs.Engine.Looping
import CardTalk.Proofs.Text.Ways
import CardTalk.Proofs.Script.Handler
import CardTalk.Proofs.Engine.Isolation
import CardTalk.Proofs.Engine.Unresolved
import CardTalk.Proofs.Engine.Lasting
import CardTalk.Proofs.Engine.Going
import CardTalk.Proofs.Number.Value
import CardTalk.Proofs.Number.Binary
import CardTalk.Proofs.Number.Order
import CardTalk.Proofs.Number.Leading
import CardTalk.Proofs.Expr.Comparison
import CardTalk.Proofs.Engine.Counting
import CardTalk.Proofs.Number.Rounding
import CardTalk.Proofs.Scene.Attribute
import CardTalk.Proofs.Scene.Geometry
import CardTalk.Proofs.Scene.Setting
import CardTalk.Proofs.Text.Word
import CardTalk.Proofs.Scene.Destination
import CardTalk.Proofs.Script.Conditional
import CardTalk.Proofs.Script.Header
import CardTalk.Proofs.Expr.Plain
import CardTalk.Proofs.Expr.Containing
import CardTalk.Proofs.Variables
import CardTalk.Proofs.Script.Operand
import CardTalk.Proofs.Expr.Variable
import CardTalk.Proofs.Engine.Storing
import CardTalk.Proofs.Engine.Deferring
import CardTalk.Proofs.Number.Whole
import CardTalk.Proofs.Expr.Spacing
import CardTalk.Proofs.Expr.Calculation
import CardTalk.Config.Storage
import CardTalk.Proofs.Data.Overlay
import CardTalk.Proofs.Config.Storage
import CardTalk.Proofs.Config.Loading
import CardTalk.Proofs.Fault
import CardTalk.Proofs.Conduct.Confined
import CardTalk.Proofs.Engine.Answering
import CardTalk.Proofs.Markup
import CardTalk.Proofs.Script.Statement
import CardTalk.Proofs.Color
import CardTalk.Proofs.Expr.Tiling
import CardTalk.Proofs.Script.Set
import CardTalk.Proofs.Engine.Setting
import CardTalk.Proofs.Script.Separator
import CardTalk.Proofs.Scene.Path
