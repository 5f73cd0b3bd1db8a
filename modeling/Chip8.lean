import Chip8.Clock
import Chip8.CommandLine
import Chip8.Desktop.Launch
import Chip8.Document.Reader
import Chip8.InputMap
import Chip8.Machine.Run
import Chip8.Main
import Chip8.Settings
import Chip8.Yaml
import Chip8.Proofs.Atomicity
import Chip8.Proofs.Calls
import Chip8.Proofs.Configuration
import Chip8.Proofs.Drawing
import Chip8.Proofs.Framebuffer
import Chip8.Proofs.Invariant
import Chip8.Proofs.Flow
import Chip8.Proofs.Runs
import Chip8.Proofs.Forgetting
import Chip8.Proofs.Footprint
import Chip8.Proofs.Commutation
import Chip8.Proofs.Locality
import Chip8.Proofs.History
import Chip8.Proofs.Timers
import Chip8.Proofs.Readings
import Chip8.Proofs.Randomness
import Chip8.Proofs.Desktop.Session
import Chip8.Proofs.Desktop.Starting
import Chip8.Proofs.Desktop.Reaction
import Chip8.Proofs.Desktop.EventLoop
import Chip8.Proofs.KeyHistory
import Chip8.Proofs.Desktop.HeldKeys
import Chip8.Proofs.Desktop.Stopping
import Chip8.Proofs.Upscaling
import Chip8.Proofs.Pictures
import Chip8.Proofs.Desktop.Presenting
import Chip8.Proofs.Access
import Chip8.Proofs.Clipping
import Chip8.Proofs.Sprites
import Chip8.Proofs.Words
import Chip8.Proofs.Decoding
import Chip8.Proofs.Numerals
import Chip8.Proofs.Listings
import Chip8.Proofs.Arithmetic
import Chip8.Proofs.Transfers
import Chip8.Proofs.Blocks
import Chip8.Proofs.Documents
import Chip8.Proofs.Desktop.Phases
import Chip8.Proofs.Headless
import Chip8.Proofs.Desktop.Setup
import Chip8.Proofs.Desktop.Building
import Chip8.Proofs.Desktop.LoopCalls
import Chip8.Proofs.Desktop.Course
import Chip8.Proofs.Layouts
import Chip8.Proofs.Desktop.Launching
import Chip8.Proofs.Desktop.Objects
import Chip8.Proofs.Pacing
import Chip8.Proofs.Tracing
import Chip8.Proofs.Ticking
