import PageCheck.Main
import PageCheck.Proofs.Matcher.Literal
import PageCheck.Proofs.Matcher.Pattern
import PageCheck.Proofs.Pattern.Words
import PageCheck.Proofs.Run.Endings
import PageCheck.Proofs.Script.Arguments
import PageCheck.Proofs.Script.Growth
import PageCheck.Proofs.Script.Isolation
import PageCheck.Proofs.Script.LineAccounts
import PageCheck.Proofs.Script.LineGrammar
import PageCheck.Proofs.Script.Names
import PageCheck.Proofs.Script.Precedence
import PageCheck.Proofs.Script.References
import PageCheck.Proofs.Script.Repair
import PageCheck.Proofs.Script.Seeds
import PageCheck.Proofs.Script.TokenGrammar
import PageCheck.Proofs.Suite.Execution
import PageCheck.Proofs.Suite.Requests
import PageCheck.Proofs.Suite.RoundTrip
import PageCheck.Proofs.Suite.Silence
import PageCheck.Proofs.Suite.StatusCheck
import PageCheck.Proofs.Suite.WellFormed
import PageCheck.Proofs.Script.Quotes
import PageCheck.Proofs.Suite.ShortCircuit
import PageCheck.Proofs.Script.Failures
import PageCheck.Proofs.Script.LineForms
import PageCheck.Proofs.Assertion.Negation
import PageCheck.Proofs.Assertion.Headers
import PageCheck.Proofs.Script.HeaderForms
import PageCheck.Proofs.Script.HeaderArguments
import PageCheck.Proofs.Assertion.HeaderLines
import PageCheck.Proofs.Suite.Orders
import PageCheck.Proofs.Script.Layout
import PageCheck.Proofs.Report.Progress
import PageCheck.Proofs.Report.Colors
import PageCheck.Proofs.Report.Summary
import PageCheck.Proofs.Script.Signs
import PageCheck.Proofs.Script.Backslashes
