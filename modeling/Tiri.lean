import Tiri.Layout.ColumnMoves
import Tiri.Layout.ViewOffset
import Tiri.Layout.HeightDistribution
import Tiri.Layout.FocusReturn
import Tiri.Ipc.RefreshWorkspaces
import Tiri.Ipc.RefreshWindows
import Tiri.Ipc.EventStream
import Tiri.Layout.FloatingOrder
import Tiri.Layout.SwitchState
import Tiri.Layout.ConfigReload
import Tiri.Layout.GestureRuns
import Tiri.Utils.Transaction
import Tiri.Compositor.WindowTables
import Tiri.Compositor.Hotplug
import Tiri.Compositor.Redraw
import Tiri.Compositor.SessionLock
import Tiri.Window.SizeOnce
import Tiri.Protocols.ExtWorkspaceMirror
import Tiri.Config.WorkspaceNames
import Tiri.Protocols.HeadMirror
import Tiri.Protocols.OutputTransactions
import Tiri.Config.OutputNames
import Tiri.Utils.Region
import Tiri.Compositor.PlacementOrder
import Tiri.Protocols.GammaExclusive
import Tiri.Ui.FocusTimestamps
import Tiri.Ui.PointContents
import Tiri.Protocols.ToplevelMirror
import Tiri.Protocols.ScreencopyAnswers
import Tiri.Ipc.RefreshCasts
import Tiri.Screencasting.SessionLifecycle
import Tiri.Ui.CursorTextures
import Tiri.Protocols.ApplyConfig
import Tiri.Utils.Watcher
import Tiri.Input.PointerButton
import Tiri.Input.PointerLocation
import Tiri.Handlers.LayerShell
import Tiri.Handlers.XdgShell
import Tiri.Screencasting.DynamicTarget
import Tiri.Config.RuleMerging
import Tiri.Input.PointerBinds
import Tiri.Ui.OverlayPlacement
import Tiri.Ui.CursorAtPointer
import Tiri.Screencasting.FramePacing
import Tiri.Input.TouchCancel
import Tiri.Screencasting.BufferQueue
import Tiri.Layout.FloatingPosition
import Tiri.Input.SwipeTracker
