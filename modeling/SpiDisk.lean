import SpiDisk.Bench.Controller
import SpiDisk.Bench.Trace
import SpiDisk.Rack
import SpiDisk.Proofs.Bus.Sharing
import SpiDisk.Proofs.Disk.Refinement
import SpiDisk.Proofs.Sim.Losses
import SpiDisk.Proofs.Card.DataCommands
import SpiDisk.Proofs.Card.Completion
import SpiDisk.Proofs.Register.Field
import SpiDisk.Proofs.Register.Mask
import SpiDisk.Proofs.Register.Cid
import SpiDisk.Proofs.Register.Csd
import SpiDisk.Proofs.Register.Capacity
import SpiDisk.Proofs.Sim.Punctual
import SpiDisk.Proofs.Sim.Hearing
import SpiDisk.Proofs.Sim.Reception
import SpiDisk.Proofs.Sim.Recognition
import SpiDisk.Proofs.Lockstep
import SpiDisk.Proofs.Card.Termination
import SpiDisk.Proofs.Disk.Isolation
import SpiDisk.Proofs.Card.Conversation
import SpiDisk.Proofs.Card.Protocol
import SpiDisk.Proofs.Card.Overdue
import SpiDisk.Proofs.Bus.Registry
import SpiDisk.Proofs.Bus.Rebinding
import SpiDisk.Proofs.Disk.Geometry
import SpiDisk.Proofs.Disk.Layout
import SpiDisk.Proofs.Disk.Capacity
import SpiDisk.Proofs.Bus.Signal
import SpiDisk.Proofs.Card.Request
import SpiDisk.Proofs.Card.WriteStream
import SpiDisk.Proofs.Card.ReadStream
import SpiDisk.Proofs.Disk.Identity
import SpiDisk.Proofs.Disk.Transfer
import SpiDisk.Proofs.Card.Polling
import SpiDisk.Proofs.Card.Dispatch
import SpiDisk.Proofs.Tick.Waiting
import SpiDisk.Proofs.Sim.Speed
