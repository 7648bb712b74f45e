import SpiController.Config.Setting
import SpiController.Proofs.Ownership
import SpiController.Proofs.RegisterField
import SpiController.Session.Memory
import SpiController.Proofs.Interrupt
import SpiController.Proofs.Simulator.Reception
import SpiController.Proofs.Simulator.Transmission
import SpiController.Proofs.Simulator.ErrorReport
import SpiController.Proofs.OwnedBit
import SpiController.Proofs.LastOwner
import SpiController.Proofs.Refusal
import SpiController.Proofs.Simulator.Loopback
import SpiController.Proofs.ConfigurationReadback
import SpiController.Proofs.Simulator.FrameTiming
import SpiController.Proofs.Simulator.Recovery
import SpiController.Proofs.Simulator.InterruptMask
import SpiController.Proofs.Simulator.Busy
import SpiController.Proofs.BusDiscipline
import SpiController.Proofs.Simulator.CycleCount
import SpiController.Proofs.Simulator.WordTransfer
import SpiController.Proofs.Simulator.TimeSlicing
import SpiController.Proofs.DividerChoice
import SpiController.Proofs.Simulator.Polling
import SpiController.Proofs.UpperHalf
import SpiController.Proofs.SettingOrder
