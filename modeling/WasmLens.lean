import WasmLens.Main
import WasmLens.Proofs.Module.Exposure
import WasmLens.Proofs.Session.Lifecycle
import WasmLens.Session.Description
import WasmLens.Proofs.Machine.Run
import WasmLens.Proofs.Machine.Image
import WasmLens.Proofs.Module.Compiled
import WasmLens.Proofs.Machine.Memories
import WasmLens.Proofs.Session.Moments
import WasmLens.Proofs.Wasm.Bodies
import WasmLens.Proofs.Module.Checked
import WasmLens.Proofs.Session.Linking
import WasmLens.Proofs.Session.Globals
import WasmLens.Proofs.Session.Memories
import WasmLens.Proofs.Session.Wiring
import WasmLens.Proofs.Session.GlobalAccess
import WasmLens.Proofs.Machine.Literals
import WasmLens.Proofs.Session.Sharing
import WasmLens.Proofs.Session.Housing
import WasmLens.Proofs.Session.Declaring
import WasmLens.Proofs.Session.MemoryCap
import WasmLens.Proofs.Session.CapOrder
import WasmLens.Proofs.Session.Backing
import WasmLens.Proofs.Session.Provision
import WasmLens.Proofs.Session.FirstMemory
import WasmLens.Proofs.Session.Instantiable
import WasmLens.Proofs.Code.Layout
import WasmLens.Proofs.Module.Locations
import WasmLens.Proofs.Session.Catalog
import WasmLens.Proofs.Code.Tiling
import WasmLens.Proofs.Module.Warnings
import WasmLens.Proofs.Session.FunctionHandles
import WasmLens.Proofs.Session.Redeclaring
import WasmLens.Proofs.Code.Lookup
import WasmLens.Proofs.Module.MemoryCount
import WasmLens.Proofs.Module.Labels
import WasmLens.Proofs.Interleaving
import WasmLens.Proofs.Module.Naming
import WasmLens.Proofs.Module.NameSections
import WasmLens.Proofs.Cli.Assigning
import WasmLens.Proofs.Session.Seeding
import WasmLens.Proofs.Machine.Kinds
import WasmLens.Proofs.Machine.Typing
import WasmLens.Proofs.Wasm.Operands
import WasmLens.Proofs.Machine.Assembly
import WasmLens.Proofs.Wasm.Tables
import WasmLens.Proofs.Module.Program
import WasmLens.Proofs.Session.Suiting
import WasmLens.Proofs.Session.Invoking
import WasmLens.Proofs.Memory.Accesses
import WasmLens.Proofs.Session.Repeating
import WasmLens.Proofs.Text.Digits
import WasmLens.Proofs.Toml.Lines
import WasmLens.Proofs.Config.Settings
import WasmLens.Proofs.Floating.Patterns
import WasmLens.Proofs.Floating.Rounding
import WasmLens.Proofs.Floating.Shortest
import WasmLens.Proofs.Floating.Text
import WasmLens.Proofs.Number.Integer
import WasmLens.Proofs.Value.Text
import WasmLens.Proofs.Cli.Feeding
import WasmLens.Proofs.Signature
import WasmLens.Proofs.Value.Integers
import WasmLens.Proofs.Code.Rebuilding
import WasmLens.Proofs.Cli.Calling
