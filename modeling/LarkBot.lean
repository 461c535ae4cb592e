import LarkBot.Codex.Store.SessionLifetime
import LarkBot.Codex.Orchestrator.LiveAgreement
import LarkBot.Codex.Orchestrator.StatusMirror
import LarkBot.Codex.Orchestrator.ResponseDelivery
import LarkBot.Codex.Orchestrator.Isolation
import LarkBot.Codex.Orchestrator.Admission
import LarkBot.Codex.Orchestrator.ManagedServer
import LarkBot.Codex.Gateway.AnsweredOnce
import LarkBot.Codex.Gateway.ResolvedRequests
import LarkBot.Codex.Gateway.RequestReuse
import LarkBot.Codex.Gateway.Clients
import LarkBot.Server.Daemon.Process
import LarkBot.Server.Daemon.LarkRouting
import LarkBot.Codex.Interactive.Binding
import LarkBot.Codex.Gateway.Transparency
import LarkBot.Codex.Store.Atomicity
import LarkBot.Lark.TaskNotification
import LarkBot.Lark.TruncatedMentions
import LarkBot.Lark.FenceRule
import LarkBot.Codex.Orchestrator.Summaries
import LarkBot.Core.RedactionReach
import LarkBot.Server.Daemon.OutboxWorker
import LarkBot.Server.Daemon.Hooks
import LarkBot.Codex.AppServer.Handshake
import LarkBot.Codex.Orchestration.Agreement
import LarkBot.Lark.Replies
import LarkBot.Codex.AppServer.ReaderEnd
import LarkBot.Codex.AppServer.Stderr
import LarkBot.Server.Daemon.Spool
import LarkBot.Codex.Orchestrator.FinalAnswers
import LarkBot.Codex.Store.DueOutbox
import LarkBot.Commands.CodexArgs
import LarkBot.Codex.NotifyOverride
import LarkBot.Notification.Delivery
import LarkBot.Agent.SessionService
import LarkBot.Codex.Probe
import LarkBot.Codex.Orchestrator.ThreadRouting
import LarkBot.Codex.Orchestrator.Secrecy
import LarkBot.Codex.Interactive.Lifecycle
import LarkBot.Codex.Store.ReadBack
import LarkBot.Codex.Store.Migrations
import LarkBot.Lark.LongConnection
import LarkBot.Codex.HookCallback
import LarkBot.Server.Daemon.OutboxLedger
