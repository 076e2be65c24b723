import Formulary.Main
import Formulary.Proofs.Controller.Schedule
import Formulary.Proofs.Provider.SingleFlight
import Formulary.Proofs.Controller.Highlight
import Formulary.Proofs.Controller.Independence
import Formulary.Proofs.Formula.Grammar
import Formulary.Proofs.Formula.Words
import Formulary.Proofs.Provider.Invalidation
import Formulary.Proofs.Expr.Line
import Formulary.Proofs.Expr.Parsing
import Formulary.Proofs.Formula.Reading
import Formulary.Proofs.Formula.Meaning
import Formulary.Proofs.Cache.Recency
import Formulary.Proofs.Provider.Lifecycle
import Formulary.Proofs.Provider.Cancellation
import Formulary.Proofs.Controller.Verdict
import Formulary.Proofs.Terminal.Answer
import Formulary.Proofs.Formula.Binding
import Formulary.Proofs.CommandLine.Typing
import Formulary.Proofs.Suggestion.Offline
import Formulary.Proofs.Formula.Magnitude
import Formulary.Proofs.Formula.Quotient
import Formulary.Proofs.Controller.Cursor
import Formulary.Proofs.Controller.Editing
import Formulary.Proofs.Controller.Burst
import Formulary.Proofs.Expr.Names
import Formulary.Proofs.Formula.Names
import Formulary.Proofs.Formula.Gaps
import Formulary.Proofs.Value.Notation
import Formulary.Proofs.Controller.Navigation
import Formulary.Proofs.Provider.Trimming
import Formulary.Proofs.Terminal.Window
import Formulary.Proofs.Config.Variables
import Formulary.Proofs.Suggestion.Reading
import Formulary.Proofs.Terminal.Backspace
