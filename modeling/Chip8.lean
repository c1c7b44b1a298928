import Chip8.Broadcast.Audience
import Chip8.Machine.History
import Chip8.Main
import Chip8.Memory.Span
import Chip8.Player.Settling
import Chip8.Timeline.History
import Chip8.Proofs.Machine.Arithmetic
import Chip8.Proofs.Machine.Bounds
import Chip8.Proofs.Machine.Calls
import Chip8.Proofs.Machine.Causes
import Chip8.Proofs.Machine.Drawing
import Chip8.Proofs.Machine.Faults
import Chip8.Proofs.Machine.Footprint
import Chip8.Proofs.Machine.Guarded
import Chip8.Proofs.Machine.InPlace
import Chip8.Proofs.Machine.Independence
import Chip8.Proofs.Machine.Indexing
import Chip8.Proofs.Machine.Keys
import Chip8.Proofs.Machine.Safety
import Chip8.Proofs.Machine.StraightLine
import Chip8.Proofs.Machine.Transfers
import Chip8.Proofs.Machine.Waiting
import Chip8.Proofs.Memory.Reading
import Chip8.Proofs.Metronome.Drift
import Chip8.Proofs.Metronome.InStep
import Chip8.Proofs.Metronome.Owed
import Chip8.Proofs.Metronome.Pace
import Chip8.Proofs.Metronome.Polling
import Chip8.Proofs.Player.Alike
import Chip8.Proofs.Player.Halting
import Chip8.Proofs.Player.InPlace
import Chip8.Proofs.Player.Mirror
import Chip8.Proofs.Player.Twins
import Chip8.Proofs.Pacer.Backlog
import Chip8.Proofs.Pacer.Course
import Chip8.Proofs.Pacer.InStep
import Chip8.Proofs.Pacer.Refusals
import Chip8.Proofs.Pacer.Replay
import Chip8.Proofs.Pacer.Restart
import Chip8.Proofs.Pacer.Steps
import Chip8.Proofs.Pacer.Stopped
import Chip8.Proofs.Pacer.Waking
import Chip8.Proofs.Timeline.Backlog
import Chip8.Proofs.Timeline.Lockstep
import Chip8.Proofs.Timeline.Order
import Chip8.Proofs.Timeline.Pacing
import Chip8.Proofs.Timeline.Pausing
import Chip8.Proofs.Broadcast.Delivery
import Chip8.Proofs.Screen.Stamps
import Chip8.Proofs.Machine.Randomness
import Chip8.Proofs.Machine.Visible
import Chip8.Proofs.Machine.Countdown
import Chip8.Proofs.Player.Countdown
import Chip8.Proofs.Player.Publications
import Chip8.Proofs.CommandLine.KeyJoining
