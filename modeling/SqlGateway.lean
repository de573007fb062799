import SqlGateway.Config.Save
import SqlGateway.Double.Arithmetic
import SqlGateway.Main
import SqlGateway.Proofs.Catalog.Listing
import SqlGateway.Proofs.Catalog.Opening
import SqlGateway.Proofs.Catalog.Scheme
import SqlGateway.Proofs.Command.Columns
import SqlGateway.Proofs.Command.Literals
import SqlGateway.Proofs.Command.Modes
import SqlGateway.Proofs.Config.RoundTrip
import SqlGateway.Proofs.Double.Rounding
import SqlGateway.Proofs.MySql.Batch
import SqlGateway.Proofs.MySql.Integers
import SqlGateway.Proofs.MySql.Returned
import SqlGateway.Proofs.Odbc.Displayed
import SqlGateway.Proofs.Postgres.ByteaText
import SqlGateway.Proofs.Postgres.Integers
import SqlGateway.Proofs.Postgres.Returned
import SqlGateway.Proofs.Rows.Drains
import SqlGateway.Proofs.Rows.Stopped
import SqlGateway.Proofs.Session.Answers
import SqlGateway.Proofs.Session.Buffers
import SqlGateway.Proofs.Session.Fetching
import SqlGateway.Proofs.Session.Invalidated
import SqlGateway.Proofs.Session.Names
import SqlGateway.Proofs.Session.Protocol
import SqlGateway.Proofs.Session.Resumed
import SqlGateway.Proofs.Sqlite.Execution
import SqlGateway.Proofs.Sqlite.Requests
import SqlGateway.Proofs.Text.Floating
import SqlGateway.Proofs.Text.Preview
import SqlGateway.Proofs.Value.Doubles
import SqlGateway.Proofs.Value.Numbers
import SqlGateway.Proofs.Value.Views
