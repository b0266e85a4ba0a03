import LociTerm.Library.Run
import LociTerm.Tmux.Ownership
import LociTerm.Tmux.KillGap
import LociTerm.Tmux.ResizeCache
import LociTerm.Tmux.Targets
import LociTerm.Tmux.Sections
import LociTerm.Ws.Announcement
import LociTerm.Ws.Settling
import LociTerm.Api.OrphanShells
import LociTerm.Auth.Characterisation
import LociTerm.Auth.FailingStore
import LociTerm.Auth.Authority
import LociTerm.Auth.Setup
import LociTerm.Auth.Tickets
import LociTerm.Client.Coherence
import LociTerm.Client.ServerErrors
import LociTerm.Client.OnScreen
import LociTerm.Client.OwnTab
import LociTerm.Client.LiveSocket
import LociTerm.Client.ServerSize
import LociTerm.Client.LateReplies
import LociTerm.Api.UploadRace
import LociTerm.Client.Paste
import LociTerm.Store.TreeRefinement
import LociTerm.Store.CreateOrder
import LociTerm.Client.BusyThenIdle
import LociTerm.Ws.Uplink
import LociTerm.Ws.Stream
import LociTerm.Client.DeletedTabs
import LociTerm.Tmux.ResizeTrace
import LociTerm.Client.DeletedWorkspace
import LociTerm.Client.Polling
import LociTerm.Api.CascadeKills
import LociTerm.Api.Workspaces
import LociTerm.Client.Desk
import LociTerm.Client.RememberedTabs
import LociTerm.Client.FirstRun
import LociTerm.Client.Mounting
import LociTerm.Client.Instances
import LociTerm.Client.Disposal
import LociTerm.Client.InputBar
import LociTerm.Client.Composition
import LociTerm.Library.Timers
import LociTerm.Client.Backoff
import LociTerm.Http.Journal
import LociTerm.Ws.Link
import LociTerm.Ws.Endings
import LociTerm.Client.ToastContainer
import LociTerm.Tmux.ExactNames
