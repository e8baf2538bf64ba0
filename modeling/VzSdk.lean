import VzSdk.Event.Wakeups
import VzSdk.Base.SignalLife
import VzSdk.Base.SlotLinks
import VzSdk.Sdk.JsonPackets
import VzSdk.Transport.Stream
import VzSdk.Sdk.TaskWait
import VzSdk.Sdk.PushManager
import VzSdk.Sdk.DeviceManage
import VzSdk.Sdk.Reconnect
import VzSdk.Sdk.Routing
import VzSdk.Sdk.PushLock
import VzSdk.Sdk.Removal
import VzSdk.Sdk.Records
import VzSdk.Sdk.Replies
import VzSdk.Sdk.IdRouting
import VzSdk.Sdk.Notifications
import VzSdk.Transport.Writability
import VzSdk.Transport.Heartbeat
import VzSdk.Event.HeapQueue
import VzSdk.Base.TypedValues
import VzSdk.Base.StrictBase64
import VzSdk.Base.FifoQueue
import VzSdk.Base.HexEncode
import VzSdk.Sdk.Routability
import VzSdk.Sdk.Responses
import VzSdk.Sdk.SerialSend
import VzSdk.Sdk.Images
import VzSdk.Sdk.TaskLife
import VzSdk.Sdk.Subscribing
import VzSdk.Sdk.SerialDev
import VzSdk.Sdk.Lookups
import VzSdk.Sdk.Storage
import VzSdk.Event.Resolving
