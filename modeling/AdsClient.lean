import AdsClient.Wire.Bytes
import AdsClient.Wire.Header
import AdsClient.Engine.Request
import AdsClient.Engine.Reply
import AdsClient.Notification.Frame
import AdsClient.Reader.RunInner
import AdsClient.Engine.Multiplexer
import AdsClient.Engine.Invariants
import AdsClient.Engine.Communicate
import AdsClient.Device.Fixup
import AdsClient.Udp.Message
import AdsClient.Udp.RoundTrip
import AdsClient.Device.SumUp
import AdsClient.Notification.Handles
import AdsClient.Device.Read
import AdsClient.Device.SumUpFrame
import AdsClient.Udp.Ranges
import AdsClient.Udp.Untrusted
import AdsClient.Device.Mapping
import AdsClient.Wire.Text
import AdsClient.Device.Control
import AdsClient.Notification.Single
import AdsClient.Udp.Services
