import GamepadPool.Client
import GamepadPool.Main
import GamepadPool.Proofs.Pool.Accounts
import GamepadPool.Proofs.Pool.Provenance
import GamepadPool.Proofs.Session.Reading
import GamepadPool.Proofs.Session.Consistency
import GamepadPool.Proofs.Pool.Losses
import GamepadPool.Proofs.Server.Calls
import GamepadPool.Proofs.Server.Frames
import GamepadPool.Proofs.Format.Axis
import GamepadPool.Proofs.Session.Containment
import GamepadPool.Proofs.Pad.Translation
import GamepadPool.Proofs.Format.Joystick
import GamepadPool.Proofs.Session.PassThrough
import GamepadPool.Proofs.Server.Replies
import GamepadPool.Proofs.Wire.Commands
import GamepadPool.Proofs.Wire.Messages
import GamepadPool.Proofs.Client.Answers
import GamepadPool.Proofs.Session.Renegotiation
import GamepadPool.Proofs.Server.Sessions
import GamepadPool.Proofs.Server.Refusals
import GamepadPool.Proofs.Server.Numbers
import GamepadPool.Proofs.Server.Isolation
import GamepadPool.Proofs.Format.FirstFit
import GamepadPool.Proofs.Format.LastWrite
import GamepadPool.Proofs.Pool.Exclusive
import GamepadPool.Proofs.Pool.Rescan
import GamepadPool.Proofs.Pool.Independence
import GamepadPool.Proofs.Pool.Clearing
import GamepadPool.Proofs.Files.Locks
import GamepadPool.Proofs.Session.Registers
import GamepadPool.Proofs.Session.Enumeration
import GamepadPool.Proofs.Session.Addresses
import GamepadPool.Proofs.Text.Names
import GamepadPool.Proofs.Format.Monotone
import GamepadPool.Proofs.Pad.Directory
import GamepadPool.Proofs.Pad.EventNodes
import GamepadPool.Proofs.Session.Filtering
import GamepadPool.Proofs.Text.Guids
import GamepadPool.Proofs.Pad.Rest
import GamepadPool.Proofs.Catalog.Numbering
