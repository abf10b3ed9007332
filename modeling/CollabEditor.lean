import CollabEditor.Foundation.TransitionSystem
import CollabEditor.Foundation.History
import CollabEditor.Foundation.Except
import CollabEditor.Foundation.List
import CollabEditor.Foundation.InOrder
import CollabEditor.Foundation.Json
import CollabEditor.Foundation.Causal
import CollabEditor.Foundation.Sequence
import CollabEditor.Foundation.Splice
import CollabEditor.Foundation.Traced
import CollabEditor.Foundation.Ownership
import CollabEditor.Foundation.Observable
import CollabEditor.Foundation.Channel
import CollabEditor.Foundation.Horner
import CollabEditor.Foundation.FloatFormat
import CollabEditor.Foundation.Base64
import CollabEditor.Backend.Database
import CollabEditor.Backend.LockService
import CollabEditor.Backend.DocumentService
import CollabEditor.Backend.SharingService
import CollabEditor.Backend.WorkerSyncService
import CollabEditor.Backend.WebSocketTicketService
import CollabEditor.Backend.TokenKinds
import CollabEditor.Backend.Accounts
import CollabEditor.Backend.TokenSessions
import CollabEditor.Backend.DocumentWorkerProxyService
import CollabEditor.Backend.WorkerRouting
import CollabEditor.Backend.Requests
import CollabEditor.Backend.Confidentiality
import CollabEditor.Backend.Effects
import CollabEditor.Backend.Integrity
import CollabEditor.Backend.Versions
import CollabEditor.Backend.ExclusiveLease
import CollabEditor.Backend.LockRows
import CollabEditor.Backend.LockConflicts
import CollabEditor.Backend.Permissions
import CollabEditor.Backend.LockHolders
import CollabEditor.Backend.AccessRequests
import CollabEditor.Backend.Library
import CollabEditor.Backend.Leases
import CollabEditor.Backend.AccessHistory
import CollabEditor.Backend.PendingRequests
import CollabEditor.Backend.LostUpdate
import CollabEditor.Backend.LockGates
import CollabEditor.Backend.LockTtl
import CollabEditor.Worker.DocumentRuntime
import CollabEditor.Worker.DocumentManager
import CollabEditor.Worker.Edits
import CollabEditor.Worker.Sessions
import CollabEditor.Worker.FailedInitialization
import CollabEditor.Worker.IgnoredMessages
import CollabEditor.Worker.SyncRequests
import CollabEditor.Worker.RoomFields
import CollabEditor.Worker.UserCount
import CollabEditor.Worker.ChatHistory
import CollabEditor.Worker.ParticipantMap
import CollabEditor.Worker.CommitOrder
import CollabEditor.Hub.Protocol
import CollabEditor.Frontend.CollabWorkspace
import CollabEditor.Frontend.JwtInterceptor
import CollabEditor.Frontend.RefreshProgress
import CollabEditor.Frontend.RefreshQueue
import CollabEditor.Frontend.RefreshBranch
import CollabEditor.Frontend.AuthService
import CollabEditor.Frontend.CollabWebSocket
import CollabEditor.Frontend.CollabChat
import CollabEditor.Frontend.DocumentWorkspacePage
import CollabEditor.Frontend.EditorOnPage
import CollabEditor.Frontend.EntryGate
import CollabEditor.Frontend.PageVisits
import CollabEditor.Frontend.MarkdownYjsSession
import CollabEditor.Frontend.SharedText
import CollabEditor.Frontend.RemoteDeltas
import CollabEditor.Frontend.LocalChanges
import CollabEditor.Frontend.Convergence
import CollabEditor.Frontend.TextChanges
import CollabEditor.Frontend.CodeUnits
import CollabEditor.Frontend.CustomImage
import CollabEditor.Frontend.CodeBlocks
import CollabEditor.Hub.Cluster
import CollabEditor.Hub.ChatAdmission
import CollabEditor.Hub.Rooms
import CollabEditor.Hub.NodeRooms
import CollabEditor.Hub.Publishing
import CollabEditor.Hub.Reception
import CollabEditor.Hub.Layout
import CollabEditor.Hub.Connections
import CollabEditor.Hub.Delivery
import CollabEditor.Hub.CrossNode
import CollabEditor.Hub.Provenance
import CollabEditor.Hub.Announcements
import CollabEditor.Hub.Registration
import CollabEditor.Hub.Recipients
import CollabEditor.Hub.RoomCounts
import CollabEditor.Hub.SocketGaps
import CollabEditor.Hub.RedisSubscription
import CollabEditor.Platform.Relay
import CollabEditor.Platform.Attendance
import CollabEditor.Platform.Presence
import CollabEditor.Platform.CatchUp
import CollabEditor.Platform.EditEncoding
import CollabEditor.Platform.Entrances
import CollabEditor.Platform.ChatReplay
import CollabEditor.Platform.Deployment
import CollabEditor.Platform.Handover
import CollabEditor.Platform.Viewers
import CollabEditor.Platform.Workspaces
import CollabEditor.Platform.LibraryPage
import CollabEditor.Platform.Tickets
import CollabEditor.Worker.Server
import CollabEditor.Platform.SessionStart
import CollabEditor.Platform.Outsiders
import CollabEditor.Worker.Persistence
import CollabEditor.Worker.Removal
