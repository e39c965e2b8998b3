import LeosSdk.RadioShadow
import LeosSdk.RadioRetry
import LeosSdk.RadioDeadline
import LeosSdk.RadioCrc
import LeosSdk.RadioLoss
import LeosSdk.RadioSpi
import LeosSdk.RadioGpio
import LeosSdk.RadioConfigure
import LeosSdk.CanDrain
import LeosSdk.CanIrq
import LeosSdk.CanTable
import LeosSdk.CanCrc
import LeosSdk.CanConfigure
import LeosSdk.CyphalLedger
import LeosSdk.CyphalHeap
import LeosSdk.CyphalTx
import LeosSdk.CyphalTime
import LeosSdk.CyphalStop
import LeosSdk.CyphalFrames
import LeosSdk.CyphalHeartbeat
import LeosSdk.AdcDecode
import LeosSdk.RadioLink
import LeosSdk.RadioBusy
import LeosSdk.CyphalReceive
import LeosSdk.CanCrcErrors
import LeosSdk.PurpleboardReadings
import LeosSdk.CyphalBus
import LeosSdk.SpiPico
import LeosSdk.SpiBoard
import LeosSdk.SpiLinux
import LeosSdk.LogConsole
import LeosSdk.AdcBus
import LeosSdk.CanDriver
