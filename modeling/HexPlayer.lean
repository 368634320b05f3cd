import HexPlayer.Cartridge.Shelf
import HexPlayer.Host
import HexPlayer.Session.Run
import HexPlayer.StandIn.Machines
import HexPlayer.StandIn.Monitor
import HexPlayer.Terminal.Mode
import HexPlayer.Terminal.Screen
import HexPlayer.Proofs.Picture.Painting
import HexPlayer.Proofs.Picture.Rendering
import HexPlayer.Proofs.Picture.Tiling
import HexPlayer.Proofs.Picture.Clipping
import HexPlayer.Proofs.Picture.Bounds
import HexPlayer.Proofs.Pad.Bindings
import HexPlayer.Proofs.Cartridge.Reading
import HexPlayer.Proofs.Session.Steps
import HexPlayer.Proofs.Session.Strokes
import HexPlayer.Proofs.Session.Decisions
import HexPlayer.Proofs.Session.Serving
import HexPlayer.Proofs.Session.Devices
import HexPlayer.Proofs.Session.Recording
import HexPlayer.Proofs.Session.Motion
import HexPlayer.Proofs.Session.Docket
import HexPlayer.Proofs.Session.Tickets
import HexPlayer.Proofs.Session.Requests
import HexPlayer.Proofs.Session.Independence
import HexPlayer.Proofs.Session.Loading
import HexPlayer.Proofs.Session.Picture
import HexPlayer.Proofs.Session.Panels
import HexPlayer.Proofs.Session.Trace
import HexPlayer.Proofs.Session.Presenting
import HexPlayer.Proofs.Session.Selections
import HexPlayer.Proofs.Session.Draining
import HexPlayer.Proofs.Session.Fetching
import HexPlayer.Proofs.Session.Titles
import HexPlayer.Proofs.Session.Drawings
import HexPlayer.Proofs.Session.Failing
import HexPlayer.Proofs.Session.Untouched
import HexPlayer.Proofs.Session.Stepping
import HexPlayer.Proofs.Terminal.Alternation
import HexPlayer.Proofs.Terminal.Answers
import HexPlayer.Proofs.Terminal.Holding
import HexPlayer.Proofs.Terminal.Quitting
import HexPlayer.Proofs.Terminal.Showing
import HexPlayer.Proofs.Terminal.Moves
import HexPlayer.Proofs.Terminal.Touches
import HexPlayer.Proofs.Terminal.Batches
import HexPlayer.Proofs.Terminal.Keypad
import HexPlayer.Proofs.Terminal.Positions
import HexPlayer.Proofs.Host.Script
import HexPlayer.Proofs.Host.Cadence
import HexPlayer.Proofs.Host.Held
import HexPlayer.Proofs.Host.StateLine
import HexPlayer.Proofs.Host.Settling
import HexPlayer.Proofs.Host.Agreement
import HexPlayer.Proofs.Host.Limits
