import TerminalSessions.Main
import TerminalSessions.Registry.Description
import TerminalSessions.Registry.History
import TerminalSessions.Settings.LogLevel
import TerminalSessions.Files.Tree
import TerminalSessions.Json.Reader
import TerminalSessions.Proofs.Registry.Refinement
import TerminalSessions.Proofs.Console.LateStarts
import TerminalSessions.Proofs.Console.Captions
import TerminalSessions.Proofs.Registry.Edits
import TerminalSessions.Proofs.Registry.Reservations
import TerminalSessions.Proofs.Registry.Sequences
import TerminalSessions.Proofs.Registry.Signals
import TerminalSessions.Proofs.Registry.Reaping
import TerminalSessions.Proofs.Console.Reservations
import TerminalSessions.Proofs.Console.Openings
import TerminalSessions.Proofs.Console.Sizes
import TerminalSessions.Proofs.Json.Written
import TerminalSessions.Proofs.Json.WellFormed
import TerminalSessions.Proofs.Json.Objects
import TerminalSessions.Proofs.SavedTerminal.Layout
import TerminalSessions.Proofs.SavedTerminal.Text
import TerminalSessions.Proofs.SavedTerminal.File
import TerminalSessions.Proofs.Registry.Restart
import TerminalSessions.Proofs.Files.Alike
import TerminalSessions.Proofs.AuditLog.Rotation
import TerminalSessions.Proofs.AuditLog.Lines
import TerminalSessions.Proofs.AuditLog.Places
import TerminalSessions.Proofs.Console.Failures
import TerminalSessions.Proofs.Command
import TerminalSessions.Proofs.AuditLog.Commands
import TerminalSessions.Proofs.Console.Auditing
import TerminalSessions.Proofs.Command.Lines
import TerminalSessions.Proofs.Console.Texts
import TerminalSessions.Proofs.Console.Addressing
import TerminalSessions.Proofs.Registry.Resuming
import TerminalSessions.Proofs.Console.Listing
import TerminalSessions.Proofs.Registry.Independence
import TerminalSessions.Proofs.Registry.Lookups
import TerminalSessions.Proofs.Names
import TerminalSessions.Proofs.Settings.Acceptance
import TerminalSessions.Proofs.AuditLog.Limit
