import SessionKeeper.Application.Check
import SessionKeeper.Application.Context
import SessionKeeper.Assignment
import SessionKeeper.Binary64.Basic
import SessionKeeper.Binary64.Decimal
import SessionKeeper.Console
import SessionKeeper.Credential.Basic
import SessionKeeper.Credential.Reply
import SessionKeeper.Dictionary
import SessionKeeper.Fault.Basic
import SessionKeeper.Fault.Catalogue
import SessionKeeper.Fault.Problem
import SessionKeeper.Fault.Reported
import SessionKeeper.Http.Endpoint
import SessionKeeper.Http.Message
import SessionKeeper.Http.Wire
import SessionKeeper.Json.Basic
import SessionKeeper.Json.Lexeme
import SessionKeeper.Json.Printer
import SessionKeeper.Json.Reader
import SessionKeeper.Json.Same
import SessionKeeper.Ledger
import SessionKeeper.Listener.Basic
import SessionKeeper.Listener.Registry
import SessionKeeper.Log
import SessionKeeper.Main
import SessionKeeper.Session.Call
import SessionKeeper.Session.Client
import SessionKeeper.Session.Coordinator
import SessionKeeper.Session.Draft
import SessionKeeper.Session.Exchange
import SessionKeeper.Session.Notify
import SessionKeeper.Settings.Basic
import SessionKeeper.Settings.Environment
import SessionKeeper.Settings.Field
import SessionKeeper.Settings.File
import SessionKeeper.Settings.Load
import SessionKeeper.Settings.Timeout
import SessionKeeper.Task.Crew
import SessionKeeper.Task.Routine
import SessionKeeper.Task.Shared
import SessionKeeper.Text.Basic
import SessionKeeper.Text.Blank
import SessionKeeper.Text.Case
import SessionKeeper.Text.Digits
import SessionKeeper.Text.FormUrl
import SessionKeeper.Text.Printable
import SessionKeeper.Text.Quoted
import SessionKeeper.Text.Utf8
import SessionKeeper.Proofs.Task.History
import SessionKeeper.Proofs.Task.World
import SessionKeeper.Proofs.Task.Course
import SessionKeeper.Proofs.Task.Assertion
import SessionKeeper.Proofs.Task.Soundness
import SessionKeeper.Proofs.Task.Completion
import SessionKeeper.Proofs.Session.Telling
import SessionKeeper.Proofs.Session.Transition
import SessionKeeper.Proofs.Session.Attempt
import SessionKeeper.Proofs.Session.Calls
import SessionKeeper.Proofs.Credential.Grant
import SessionKeeper.Proofs.Session.Pairing
import SessionKeeper.Proofs.Listener.Roster
import SessionKeeper.Proofs.Session.Mirror
import SessionKeeper.Proofs.Session.Visit
import SessionKeeper.Proofs.Session.Renewal
import SessionKeeper.Proofs.Session.Fencing
import SessionKeeper.Proofs.Session.Convergence
import SessionKeeper.Proofs.Session.Target
import SessionKeeper.Proofs.Session.Surrender
import SessionKeeper.Proofs.Session.Announcement
import SessionKeeper.Proofs.Application.Stage
import SessionKeeper.Proofs.Application.Shutdown
import SessionKeeper.Proofs.Task.Run
import SessionKeeper.Proofs.Task.Enclosure
import SessionKeeper.Proofs.Session.Serial
import SessionKeeper.Proofs.Session.InOrder
import SessionKeeper.Proofs.Settings.Loading
import SessionKeeper.Proofs.Session.Failures
import SessionKeeper.Proofs.Task.Likeness
import SessionKeeper.Proofs.Session.Disguise
import SessionKeeper.Proofs.Application.Secrecy
import SessionKeeper.Proofs.Session.Round
import SessionKeeper.Proofs.Session.Login
import SessionKeeper.Proofs.Session.Logout
import SessionKeeper.Proofs.Session.Takeover
import SessionKeeper.Proofs.Session.Delegation
import SessionKeeper.Proofs.Session.Retry
import SessionKeeper.Proofs.Application.Checking
import SessionKeeper.Proofs.Task.Stint
import SessionKeeper.Proofs.Task.Plan
import SessionKeeper.Proofs.Task.Attendance
import SessionKeeper.Proofs.Application.Lifecycle
import SessionKeeper.Proofs.Task.Aloof
import SessionKeeper.Proofs.Session.Earning
import SessionKeeper.Proofs.Application.Straggler
import SessionKeeper.Proofs.Text.Encoding
import SessionKeeper.Proofs.Session.Revocation
import SessionKeeper.Proofs.Json.Grammar
import SessionKeeper.Proofs.Json.Scanning
import SessionKeeper.Proofs.Json.Lexing
import SessionKeeper.Proofs.Json.Parsing
import SessionKeeper.Proofs.Json.Printing
import SessionKeeper.Proofs.Credential.Decoding
import SessionKeeper.Proofs.Credential.RoundTrip
import SessionKeeper.Proofs.Credential.Classification
import SessionKeeper.Proofs.Settings.Offences
import SessionKeeper.Proofs.Settings.Address
import SessionKeeper.Proofs.Binary64.Range
import SessionKeeper.Proofs.Session.Usability
import SessionKeeper.Proofs.Settings.Origin
import SessionKeeper.Proofs.Settings.Shadowing
import SessionKeeper.Proofs.Listener.Changes
import SessionKeeper.Proofs.Listener.Membership
import SessionKeeper.Proofs.Listener.Isolation
import SessionKeeper.Proofs.Text.Quoting
import SessionKeeper.Proofs.Application.Showing
import SessionKeeper.Proofs.Dictionary.Entries
import SessionKeeper.Proofs.Session.Authorization
import SessionKeeper.Proofs.Ledger.Errors
import SessionKeeper.Proofs.Ledger.Bookkeeping
import SessionKeeper.Proofs.Application.Summary
