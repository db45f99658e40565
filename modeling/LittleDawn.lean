import LittleDawn.Isobus.AddressClaims
import LittleDawn.Isobus.BusFrames
import LittleDawn.Serial.BufferSafety
import LittleDawn.Serial.ChunkIndependence
import LittleDawn.Serial.MessageStream
import LittleDawn.Serial.ErrorDetection
import LittleDawn.Serial.Resync
import LittleDawn.Serial.Store
import LittleDawn.Terminal.ActiveMask
import LittleDawn.Terminal.CommandQueue
import LittleDawn.Terminal.Device
import LittleDawn.Terminal.Display
import LittleDawn.Terminal.Timers
import LittleDawn.Terminal.VtConnection
