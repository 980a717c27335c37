import Reckoner.Text.Pattern
import Reckoner.Text.LowerCase
import Reckoner.Text.Quoted
import Reckoner.Error
import Reckoner.Token.Lexeme
import Reckoner.Expr
import Reckoner.Expr.Parser
import Reckoner.Expr.Printer
import Reckoner.Evaluation
import Reckoner.Filler
import Reckoner.Gate
import Reckoner.Pipeline
import Reckoner.Json
import Reckoner.Json.Literal
import Reckoner.Json.Printer
import Reckoner.Json.Reader
import Reckoner.ServiceReply
import Reckoner.History
import Reckoner.Settings
import Reckoner.Settings.Address
import Reckoner.Settings.Server
import Reckoner.Settings.Service
import Reckoner.Web.MediaType
import Reckoner.Web.Request
import Reckoner.Web.Response
import Reckoner.CommandLine
import Reckoner.Main
import Reckoner.Proofs.Grammar
import Reckoner.Proofs.Grammar.Complete
import Reckoner.Proofs.Grammar.Sound
import Reckoner.Proofs.Grammar.Exact
import Reckoner.Proofs.Number.Nearest
import Reckoner.Proofs.Number.Text
import Reckoner.Proofs.Number.Exponent
import Reckoner.Proofs.Number.Places
import Reckoner.Proofs.Number.Sign
import Reckoner.Proofs.Token.Separator
import Reckoner.Proofs.Token.Renders
import Reckoner.Proofs.Gate
import Reckoner.Proofs.Filler
import Reckoner.Proofs.Text.Words
import Reckoner.Proofs.Text.Respaced
import Reckoner.Proofs.Text.Case
import Reckoner.Proofs.Text.Tidy
import Reckoner.Proofs.Expr.Nodes
import Reckoner.Proofs.Expr.Printed
import Reckoner.Proofs.Expr.Units
import Reckoner.Proofs.Expr.RoundTrip
import Reckoner.Proofs.Expr.Settled
import Reckoner.Proofs.Expr.Canonical
import Reckoner.Proofs.Expr.CanonicalText
import Reckoner.Proofs.Expr.Literal
import Reckoner.Proofs.Expr.Layout
import Reckoner.Proofs.Expr.Operand
import Reckoner.Proofs.Answer
import Reckoner.Proofs.Pipeline.Local
import Reckoner.Proofs.Pipeline.Asking
import Reckoner.Proofs.Pipeline.Strict
import Reckoner.Proofs.Gate.Operand
import Reckoner.Proofs.Gate.Call
import Reckoner.Proofs.Expr.Annotated
import Reckoner.Proofs.Expr.Context
import Reckoner.Proofs.Expr.Recursion
import Reckoner.Proofs.Grammar.Length
import Reckoner.Proofs.Expr.Identity
import Reckoner.Proofs.Expr.Offence
import Reckoner.Proofs.Expr.Openings
import Reckoner.Proofs.Text.Paired
import Reckoner.Proofs.Expr.Slot
import Reckoner.Proofs.Expr.Respelled
import Reckoner.Proofs.Expr.Parentheses
import Reckoner.Proofs.History
import Reckoner.Proofs.Session
import Reckoner.Proofs.Session.Idle
import Reckoner.Proofs.Script
import Reckoner.Proofs.Json.Number
import Reckoner.Proofs.Json.RoundTrip
import Reckoner.Proofs.Pipeline.Answered
import Reckoner.Proofs.Web.Request
import Reckoner.Proofs.Web.Response
import Reckoner.Proofs.Token.Cutting
import Reckoner.Proofs.Grammar.Implied
import Reckoner.Proofs.Json.Spelling
import Reckoner.Proofs.Json.Exact
import Reckoner.Proofs.Json.Front
import Reckoner.Proofs.ServiceReply
import Reckoner.Proofs.ServiceReply.Content
import Reckoner.Proofs.Gate.Lexeme
import Reckoner.Proofs.Number.Value
import Reckoner.Proofs.Filler.Phrase
import Reckoner.Proofs.Filler.Pieces
import Reckoner.Proofs.Filler.Again
import Reckoner.Proofs.Gate.Compound
import Reckoner.Proofs.Token.Disallowed
import Reckoner.Proofs.Expr.Undefined
