import Bytebeat.Main
import Bytebeat.Service.Handle
import Bytebeat.Proofs.Tool.Pack
import Bytebeat.Proofs.Tool.Format
import Bytebeat.Proofs.Layout.Passes
import Bytebeat.Proofs.Packing.Repack
import Bytebeat.Proofs.Packing.Grammar
import Bytebeat.Proofs.Packing.Pairs
import Bytebeat.Proofs.Packing.Writable
import Bytebeat.Proofs.Tool.Call
import Bytebeat.Proofs.Service.Pack
import Bytebeat.Proofs.Tool.Registrations
import Bytebeat.Proofs.Service.Run
import Bytebeat.Proofs.Service.Environment
import Bytebeat.Proofs.Service.Loading
import Bytebeat.Proofs.Service.Format
import Bytebeat.Proofs.Tool.Runs
import Bytebeat.Proofs.Service.Surfaces
import Bytebeat.Proofs.Layout.Escapes
import Bytebeat.Proofs.Tool.Unpack
import Bytebeat.Proofs.Console.Pipe
import Bytebeat.Proofs.Packing.Blocks
import Bytebeat.Proofs.Packing.Padding
import Bytebeat.Proofs.Layout.Packed
import Bytebeat.Proofs.Packing.Again
import Bytebeat.Proofs.Tool.Cycle
import Bytebeat.Proofs.Tool.LaidOut
import Bytebeat.Proofs.Layout.Parts
import Bytebeat.Proofs.Size.Rounding
import Bytebeat.Proofs.Size.Units
import Bytebeat.Proofs.Service.Outcomes
import Bytebeat.Proofs.Tool.Omitted
import Bytebeat.Proofs.Tool.Outcomes
import Bytebeat.Proofs.Console.Layout
import Bytebeat.Proofs.Size.Accuracy
import Bytebeat.Proofs.Size.Order
import Bytebeat.Proofs.Packing.Starts
import Bytebeat.Proofs.Text.Joining
