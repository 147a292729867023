import OpenVixDiskLib.Auth.DeviceKey
import OpenVixDiskLib.Auth.Dialogue
import OpenVixDiskLib.Handle.Authenticate
import OpenVixDiskLib.Handle.Buffers
import OpenVixDiskLib.Handle.Logouts
import OpenVixDiskLib.Handle.Pinned
import OpenVixDiskLib.Handle.Refinement
import OpenVixDiskLib.Handle.SameRun
import OpenVixDiskLib.Handle.Silence
import OpenVixDiskLib.Handle.Speech
import OpenVixDiskLib.Handle.Trust
import OpenVixDiskLib.Nfc.ClientRun
import OpenVixDiskLib.Nfc.Coverage
import OpenVixDiskLib.Nfc.ErrorReplies
import OpenVixDiskLib.Nfc.OpIds
import OpenVixDiskLib.Nfc.Outcomes
import OpenVixDiskLib.Nfc.SkipTable
import OpenVixDiskLib.Nfc.WideRows
import OpenVixDiskLib.Server.Abandoned
import OpenVixDiskLib.Server.Lost
import OpenVixDiskLib.Server.Refinement
