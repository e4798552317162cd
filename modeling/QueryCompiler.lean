import QueryCompiler.Data.NameMap
import QueryCompiler.Json.Basic
import QueryCompiler.Json.Read
import QueryCompiler.Json.Write
import QueryCompiler.Text.Split
import QueryCompiler.Text.CodeSet
import QueryCompiler.Text.CaseTables
import QueryCompiler.Text.DisplayTables
import QueryCompiler.Text.Blank
import QueryCompiler.Text.Case
import QueryCompiler.Text.Quoted
import QueryCompiler.Text.Decimal
import QueryCompiler.Text.Utf8
import QueryCompiler.Url.Form
import QueryCompiler.Url.Error
import QueryCompiler.Url.Ipv4
import QueryCompiler.Url.Ipv6
import QueryCompiler.Url.Punycode
import QueryCompiler.Url.IdnaTables
import QueryCompiler.Text.Marks
import QueryCompiler.Text.BidiTables
import QueryCompiler.Url.Idna
import QueryCompiler.Url.Host
import QueryCompiler.Url.Reference
import QueryCompiler.Request.Scalar
import QueryCompiler.Request.SortKey
import QueryCompiler.Request.FieldError
import QueryCompiler.Request.Basic
import QueryCompiler.Plan.Relation
import QueryCompiler.Plan.Error
import QueryCompiler.Plan.Select
import QueryCompiler.Plan.Call
import QueryCompiler.Plan.AllowList
import QueryCompiler.Plan.Rule
import QueryCompiler.Plan.Run
import QueryCompiler.Plan.Stages
import QueryCompiler.Plan.Adapter
import QueryCompiler.Plan.Session
import QueryCompiler.Config.Basic
import QueryCompiler.Config.Decode
import QueryCompiler.Config.Registry
import QueryCompiler.Cli.Similarity
import QueryCompiler.Cli.Interface
import QueryCompiler.Cli.Args
import QueryCompiler.Cli.Run
import QueryCompiler.Main
import QueryCompiler.Proofs.Trace
import QueryCompiler.Proofs.AllowIndex
import QueryCompiler.Proofs.Validation
import QueryCompiler.Proofs.FailStop
import QueryCompiler.Proofs.Enforcement
import QueryCompiler.Proofs.Reading
import QueryCompiler.Proofs.UrlQuery
import QueryCompiler.Proofs.Replay
import QueryCompiler.Proofs.Isolation
import QueryCompiler.Proofs.Building
import QueryCompiler.Proofs.Emission
import QueryCompiler.Proofs.Window
import QueryCompiler.Proofs.RelationName
import QueryCompiler.Proofs.Coercion
import QueryCompiler.Proofs.IncludeStage
import QueryCompiler.Proofs.SqlLiteral
