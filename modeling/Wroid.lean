import Wroid.Runtime.AimFailures
import Wroid.Runtime.AimEdge
import Wroid.Session.Acceptance
import Wroid.Session.AimModes
import Wroid.Session.Surface
import Wroid.Session.HandoverOrder
import Wroid.Inject.FrameReader
import Wroid.Daemon.Clients
import Wroid.Desktop.FocusRelay
import Wroid.Desktop.RestorationSafety
import Wroid.Desktop.ReplacementSafety
import Wroid.Editor.ProfileSaveSafety
import Wroid.Hub.SideloadSafety
import Wroid.Hub.LibrarySafety
import Wroid.Inject.WaydroidBridgeSafety
import Wroid.Inject.WaydroidProperties
import Wroid.Input.MouseBatcher
import Wroid.Inject.PrivilegedBridge
import Wroid.Runtime.Suppression
import Wroid.Session.Suspension
import Wroid.Runtime.AimArithmetic
import Wroid.Desktop.LastSession
import Wroid.Core.ControlProfile
import Wroid.Android.EndOfDirectory
import Wroid.Cli.GpuSetup
import Wroid.Hub.Requests
import Wroid.Hub.InstallWorker
import Wroid.Hub.Cleanup
import Wroid.Editor.Requests
import Wroid.Editor.BackupSafety
import Wroid.Hub.PreferencePatches
import Wroid.Editor.GeometrySafety
import Wroid.Editor.UndoHistory
import Wroid.Editor.SavingPage
import Wroid.Hub.StartersSafety
import Wroid.Editor.ValidateAgreement
import Wroid.Inject.LiveKeyboardTiming
import Wroid.Inject.LiveKeyboardCommand
import Wroid.Inject.LiveMouseAim
import Wroid.Cli.InteractiveSwipes
import Wroid.Session.Taps
import Wroid.Cli.RegistrySafety
import Wroid.Session.Layers
import Wroid.Editor.Preview
import Wroid.Editor.PreviewAgreement
import Wroid.Editor.PreviewRuns
