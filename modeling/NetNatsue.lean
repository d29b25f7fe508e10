import NetNatsue.Foundations.Feed
import NetNatsue.Memory.Unpack
import NetNatsue.Memory.RoundTrip
import NetNatsue.Compat.HistoryTransferOut
import NetNatsue.Protocol.Decoding
import NetNatsue.Manager.InStep
import NetNatsue.Manager.Mail
import NetNatsue.Manager.HangUp
import NetNatsue.Manager.Pumping
import NetNatsue.Manager.Refusal
import NetNatsue.Manager.Runs
import NetNatsue.Manager.Delivery
import NetNatsue.Manager.Attempts
import NetNatsue.Manager.Agreement
import NetNatsue.Manager.Answers
import NetNatsue.Manager.Circuits
import NetNatsue.Manager.Outcome
import NetNatsue.Manager.Relay
import NetNatsue.Socket.Session
import NetNatsue.Manager.Reconnect
import NetNatsue.Manager.Watching
import NetNatsue.Manager.Spooling
import NetNatsue.Manager.Spelling
import NetNatsue.Manager.Outbox
import NetNatsue.Manager.LettingGo
import NetNatsue.Protocol.UserData
import NetNatsue.Manager.ServerList
import NetNatsue.Compat.Rereading
import NetNatsue.Manager.Figures
import NetNatsue.Manager.Deadlines
import NetNatsue.Manager.Bounds
import NetNatsue.Manager.Rotation
import NetNatsue.Manager.Carriage
import NetNatsue.Manager.Timeouts
import NetNatsue.Manager.Backlog
import NetNatsue.Manager.Upload
import NetNatsue.Manager.Ticks
import NetNatsue.Manager.Wire
import NetNatsue.Manager.Frames
