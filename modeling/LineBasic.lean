import LineBasic.Association
import LineBasic.Attempt
import LineBasic.Console.Basic
import LineBasic.Console.Dialogue
import LineBasic.Console.Framed
import LineBasic.Console.Printout
import LineBasic.Effect
import LineBasic.Failure
import LineBasic.Fault
import LineBasic.Launch.Arguments
import LineBasic.Launch.Basic
import LineBasic.Launch.Folder
import LineBasic.Main
import LineBasic.Memory
import LineBasic.Number.Basic
import LineBasic.Number.Decimal
import LineBasic.Number.Numeral
import LineBasic.Number.Shortest
import LineBasic.Number.Spelled
import LineBasic.Number.Written
import LineBasic.Outlet
import LineBasic.Program
import LineBasic.Proofs.Alike
import LineBasic.Proofs.Atomic
import LineBasic.Proofs.Becoming
import LineBasic.Proofs.Captured
import LineBasic.Proofs.Causes
import LineBasic.Proofs.Counting
import LineBasic.Proofs.Delivery
import LineBasic.Proofs.Echo
import LineBasic.Proofs.Edited
import LineBasic.Proofs.Forgotten
import LineBasic.Proofs.Forward
import LineBasic.Proofs.FrontEnds
import LineBasic.Proofs.Geometry
import LineBasic.Proofs.Grammar.Course
import LineBasic.Proofs.Grammar.Extent
import LineBasic.Proofs.Grammar.Phrase
import LineBasic.Proofs.Grammar.Refusal
import LineBasic.Proofs.Grammar.Sentence
import LineBasic.Proofs.Grammar.Tracked
import LineBasic.Proofs.Grammar.Unparse
import LineBasic.Proofs.Grammar.Within
import LineBasic.Proofs.Host
import LineBasic.Proofs.Inked
import LineBasic.Proofs.Latest
import LineBasic.Proofs.Leading
import LineBasic.Proofs.Ledger
import LineBasic.Proofs.Lines
import LineBasic.Proofs.Listed
import LineBasic.Proofs.Listing
import LineBasic.Proofs.Mirror
import LineBasic.Proofs.Move
import LineBasic.Proofs.Order
import LineBasic.Proofs.Page
import LineBasic.Proofs.Parsed
import LineBasic.Proofs.Printed
import LineBasic.Proofs.Prompting
import LineBasic.Proofs.Reading
import LineBasic.Proofs.Rectangle
import LineBasic.Proofs.Refused
import LineBasic.Proofs.Rerun
import LineBasic.Proofs.Room
import LineBasic.Proofs.Rounding.Digits
import LineBasic.Proofs.Rounding.Exact
import LineBasic.Proofs.Rounding.Nearest
import LineBasic.Proofs.Rounding.Packed
import LineBasic.Proofs.Rounding.Scientific
import LineBasic.Proofs.Rounding.Shortest
import LineBasic.Proofs.Row
import LineBasic.Proofs.Scene
import LineBasic.Proofs.Sitting
import LineBasic.Proofs.Spelling.Column
import LineBasic.Proofs.Spelling.Lexeme
import LineBasic.Proofs.Spelling.Line
import LineBasic.Proofs.Spelling.Respaced
import LineBasic.Proofs.Spelling.RoundTrip
import LineBasic.Proofs.Spelling.Span
import LineBasic.Proofs.Spelling.Stray
import LineBasic.Proofs.Statement
import LineBasic.Proofs.Steady
import LineBasic.Proofs.Structured.Blocks
import LineBasic.Proofs.Structured.Run
import LineBasic.Proofs.Structured.Simulation
import LineBasic.Proofs.Structured.Walk
import LineBasic.Proofs.Suspended
import LineBasic.Proofs.Teardown
import LineBasic.Proofs.Typed
import LineBasic.Proofs.Undone
import LineBasic.Proofs.Variables
import LineBasic.Proofs.Visits
import LineBasic.Rehearsal
import LineBasic.Screen.Basic
import LineBasic.Screen.Border
import LineBasic.Screen.Grid
import LineBasic.Screen.Reading
import LineBasic.Session.Activity
import LineBasic.Session.Drive
import LineBasic.Session.Evaluate
import LineBasic.Session.Execute
import LineBasic.Session.State
import LineBasic.Syntax.Lexer
import LineBasic.Syntax.Node
import LineBasic.Syntax.Parser
import LineBasic.Syntax.Token
import LineBasic.Terminal.Action
import LineBasic.Terminal.Basic
import LineBasic.Terminal.Desk
import LineBasic.Terminal.Use
import LineBasic.Text.Ascii
import LineBasic.Text.Blank
import LineBasic.Text.Capital
import LineBasic.Text.Digit
import LineBasic.Text.Lines
import LineBasic.Text.Printable
import LineBasic.Text.Quoted
import LineBasic.Value
