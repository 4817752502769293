import GuardedSql.Comparator.Spelling
import GuardedSql.Endpoint.Config
import GuardedSql.Exchange.Batch
import GuardedSql.Json.Printer
import GuardedSql.Statement.Call
import GuardedSql.Proofs.Exchange.Request
import GuardedSql.Proofs.Lexical.Comment
import GuardedSql.Proofs.Reading.Select
import GuardedSql.Proofs.Statement.Run
import GuardedSql.Proofs.Statement.Order
import GuardedSql.Proofs.Exchange.Gate
import GuardedSql.Proofs.Exchange.Join
import GuardedSql.Proofs.Url.Address
import GuardedSql.Proofs.Text.Percent
import GuardedSql.Proofs.Url.Host
import GuardedSql.Proofs.Url.Sound
import GuardedSql.Proofs.Url.Prefix
import GuardedSql.Proofs.Exchange.Confine
import GuardedSql.Proofs.Form
import GuardedSql.Proofs.Exchange.Payload
import GuardedSql.Proofs.Url.Extend
import GuardedSql.Proofs.Exchange.Target
import GuardedSql.Proofs.Json.Scalar
import GuardedSql.Proofs.Json.Parse
import GuardedSql.Proofs.Json.Texts
import GuardedSql.Proofs.Exchange.Rows
import GuardedSql.Proofs.Text.Runs
import GuardedSql.Proofs.Text.Trim
import GuardedSql.Proofs.Token.Grammar
import GuardedSql.Proofs.Statement.Emptiness
import GuardedSql.Proofs.Statement.Occupied
import GuardedSql.Proofs.Statement.Appended
import GuardedSql.Proofs.Statement.Preorder
import GuardedSql.Proofs.Statement.Conditions
import GuardedSql.Proofs.Reading.Literal
import GuardedSql.Proofs.Token.Range
import GuardedSql.Proofs.Token.Keyword
import GuardedSql.Proofs.Token.List
import GuardedSql.Proofs.Token.Name
import GuardedSql.Proofs.Literal.Integer
import GuardedSql.Proofs.Literal.Split
import GuardedSql.Proofs.Comparator.Spelling
