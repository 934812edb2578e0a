import SqlConsole.Main
import SqlConsole.Proofs.Console.Import
import SqlConsole.Proofs.Console.Partition
import SqlConsole.Proofs.Delimited.RoundTrip
import SqlConsole.Proofs.Dump.Script
import SqlConsole.Proofs.Execute.Complete
import SqlConsole.Proofs.Dump.Penned
import SqlConsole.Proofs.Dump.Report
import SqlConsole.Proofs.Dump.Tables
import SqlConsole.Proofs.Dump.Rescan
import SqlConsole.Proofs.Sql.Numeral
import SqlConsole.Proofs.Sql.Reading
import SqlConsole.Proofs.Layout.Insert
import SqlConsole.Proofs.Console.Arguments
import SqlConsole.Proofs.Console.Startup
import SqlConsole.Proofs.Statement.Late
import SqlConsole.Proofs.Console.Leftover
import SqlConsole.Proofs.Statement.Trailing
import SqlConsole.Proofs.Console.Terminators
import SqlConsole.Proofs.Layout.Columns
import SqlConsole.Proofs.Execute.Agree
import SqlConsole.Proofs.World.SameBut
import SqlConsole.Proofs.Execute.Watched
import SqlConsole.Proofs.Execute.Plain
import SqlConsole.Proofs.Execute.Drained
import SqlConsole.Proofs.Console.Indifferent
import SqlConsole.Proofs.Console.Told
import SqlConsole.Proofs.Console.Interactive
import SqlConsole.Proofs.Engine.Faults
import SqlConsole.Proofs.World.Safe
import SqlConsole.Proofs.World.Ledger
import SqlConsole.Proofs.World.Custody
import SqlConsole.Proofs.Execute.Custody
import SqlConsole.Proofs.Dump.Custody
import SqlConsole.Proofs.Console.Custody
import SqlConsole.Proofs.Console.Copies
import SqlConsole.Proofs.Console.Installed
import SqlConsole.Proofs.Console.Conduct
import SqlConsole.Proofs.Console.Dispatched
import SqlConsole.Proofs.Console.Move
import SqlConsole.Proofs.Console.Inputs
import SqlConsole.Proofs.Console.Break
import SqlConsole.Proofs.Console.Roaming
import SqlConsole.Proofs.Console.Request
import SqlConsole.Proofs.Console.Uncaught
import SqlConsole.Proofs.Console.Sparing
import SqlConsole.Proofs.Console.Explain
import SqlConsole.Proofs.Console.Release
import SqlConsole.Proofs.Dump.Keys
import SqlConsole.Proofs.Console.SetUp
import SqlConsole.Proofs.Console.Quit
import SqlConsole.Proofs.Execute.Candid
import SqlConsole.Proofs.Dump.Candid
import SqlConsole.Proofs.Console.Candid
import SqlConsole.Proofs.Console.Interrupt
import SqlConsole.Proofs.Statement.Whole
import SqlConsole.Proofs.Dump.Separate
import SqlConsole.Proofs.World.Steady
import SqlConsole.Proofs.Execute.Steady
import SqlConsole.Proofs.Dump.Steady
import SqlConsole.Proofs.Console.Steady
import SqlConsole.Proofs.Console.Hooks
import SqlConsole.Proofs.Console.Unseen
import SqlConsole.Proofs.World.Woven
import SqlConsole.Proofs.Console.Doing
import SqlConsole.Proofs.Console.Traced
import SqlConsole.Proofs.Layout.Quoted
import SqlConsole.Proofs.Command.Words
import SqlConsole.Proofs.Console.Retries
import SqlConsole.Proofs.Console.Schema
import SqlConsole.Proofs.Delimited.Overlap
import SqlConsole.Proofs.Layout.Explain
import SqlConsole.Proofs.Layout.Fresh
import SqlConsole.Proofs.Console.Naming
import SqlConsole.Proofs.Layout.Html
import SqlConsole.Proofs.Layout.Reals
import SqlConsole.Proofs.Console.Listing
import SqlConsole.Proofs.Statement.BlankText
import SqlConsole.Proofs.Delimited.Lossless
import SqlConsole.Proofs.Sql.GeneralFormat
