import Chip8.Folder
import Chip8.Instr.Listing
import Chip8.Main
import Chip8.Proofs.Console.Chance
import Chip8.Proofs.Console.Disassembly
import Chip8.Proofs.Console.LifeCycle
import Chip8.Proofs.Console.Listed
import Chip8.Proofs.Console.Restart
import Chip8.Proofs.Console.Signals
import Chip8.Proofs.Console.Speed
import Chip8.Proofs.Console.Steering
import Chip8.Proofs.Console.Subroutine
import Chip8.Proofs.Console.Waiting
import Chip8.Proofs.Core.Arithmetic
import Chip8.Proofs.Core.Footprint
import Chip8.Proofs.Core.Strokes
import Chip8.Proofs.Core.Transfers
import Chip8.Proofs.Desktop.Keyboard
import Chip8.Proofs.Desktop.Observers
import Chip8.Proofs.Desktop.Painting
import Chip8.Proofs.Desktop.Redraw
import Chip8.Proofs.Desktop.Restarting
import Chip8.Proofs.Desktop.Sounding
import Chip8.Proofs.Instr.Assembly
import Chip8.Proofs.Launch.Arguments
import Chip8.Proofs.Launch.Opening
import Chip8.Proofs.Storage.Access
import Chip8.Proofs.Storage.Printouts
