import Parley.Loopback.Script
import Parley.Main
import Parley.WebSocket.Encoding
import Parley.Proofs.Backend.Delivery
import Parley.Proofs.Loopback.Line
import Parley.Proofs.Loopback.Reader
import Parley.Proofs.Session.KeepAlive
import Parley.Proofs.Session.Lifecycle
import Parley.Proofs.Session.WriterTrace
import Parley.Proofs.Token.Issue
import Parley.Proofs.Session.Allowance
import Parley.Proofs.Session.Intake
import Parley.Proofs.Session.RateLimit
import Parley.Proofs.Session.RollingWindow
import Parley.Proofs.Session.Deadline
import Parley.Proofs.Chat.Room
import Parley.Proofs.Chat.Creation
import Parley.Proofs.Chat.Log
import Parley.Proofs.Web.Form
import Parley.Proofs.Web.Authentication
import Parley.Proofs.Web.Admission
import Parley.Proofs.Web.Refusals
import Parley.Proofs.Hub.FanOut
import Parley.Proofs.Hub.BoundedQueue
import Parley.Proofs.Backend.Forms
import Parley.Proofs.Backend.Rights
import Parley.Proofs.Chat.Seed
import Parley.Proofs.Session.Dispatch
import Parley.Proofs.Config
import Parley.Proofs.Hub.Envelope
import Parley.Proofs.Chat.Publisher
import Parley.Proofs.Session.Release
