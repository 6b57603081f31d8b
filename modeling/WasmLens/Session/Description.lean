import WasmLens.Session.Basic
import WasmLens.Text.Quoted

/-!
# Descriptions

Modules and sessions as text, for whoever looks into a running program.
-/
namespace WasmLens

open Text

def ExternKind.constructorName : ExternKind → String
  | .function => "Function"
  | .table => "Table"
  | .memory => "Memory"
  | .global => "Global"

def Warning.description : Warning → String
  | .unsupportedImport module name kind =>
    record "UnsupportedImport"
      [("module", quoted module), ("name", quoted name), ("kind", kind.constructorName)]
  | .unsupportedType location index type =>
    record "UnsupportedValueType"
      [("location", quoted location), ("index", toString index), ("ty", quoted type)]
  | .multipleMemories count => record "MultipleMemories" [("count", toString count)]
  | .malformedNames message => record "MalformedNameSection" [("message", quoted message)]

def CompiledModule.description (m : CompiledModule) : String :=
  openRecord "CompiledModule"
    [("name", quotedOption m.outline.name), ("imports", toString m.outline.imports.length),
      ("exports", toString m.outline.exports.length),
      ("warnings", list (m.outline.warnings.map Warning.description))]

def Session.Phase.constructorName : Session.Phase → String
  | .compiled => "Compiled"
  | .importsDeclared => "ImportsDeclared"
  | .instantiated => "Instantiated"
  | .failed => "Failed"

def Session.description (s : Session) : String :=
  openRecord "Session"
    [("module", s.module.description), ("state", s.phase.constructorName),
      ("functions", toString s.catalog.size), ("timer", s.timer.text)]

end WasmLens
