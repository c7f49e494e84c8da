import NyuziSdmmc.Bytes
import NyuziSdmmc.Driver
import NyuziSdmmc.Answers
import NyuziSdmmc.Init
import NyuziSdmmc.Emulator
import NyuziSdmmc.Safety
import NyuziSdmmc.ReadReply
import NyuziSdmmc.Link
import NyuziSdmmc.ReadEnds
import NyuziSdmmc.Flush
import NyuziSdmmc.Device
import NyuziSdmmc.Board
import NyuziSdmmc.Host
import NyuziSdmmc.BlockArray
import NyuziSdmmc.L2CacheTest
import NyuziSdmmc.Verdict
import NyuziSdmmc.Stimulus
import NyuziSdmmc.Report
import NyuziSdmmc.Unknown
import NyuziSdmmc.Scratchpad
import NyuziSdmmc.IdleState
