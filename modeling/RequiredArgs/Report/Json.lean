/-
# Reports and configurations as JSON texts

All fields of a report are written, in the order of their declaration, except a diagnostic's rule
number. Reading asks for every written field and skips fields of other names.
-/

import RequiredArgs.Config.Basic
import RequiredArgs.Json.Printer
import RequiredArgs.Report.Basic

namespace RequiredArgs

open Json (Value)

namespace Diagnostic

/-- The written fields of a diagnostic, in the order in which they are declared. -/
def fields : List String :=
  ["kind", "code", "file", "line", "column", "offset", "function", "rule", "message"]

/-- A diagnostic as JSON. -/
def toJson (d : Diagnostic) : Value :=
  .obj [("kind", .str d.kind.word), ("code", .str d.code), ("file", .str d.file),
    ("line", .int d.line.toNat), ("column", .int d.column.toNat), ("offset", .int d.offset.toNat),
    ("function", .str d.function), ("rule", .str d.rule), ("message", .str d.message)]

/-- The diagnostic that a JSON value writes, with rule number zero. -/
def ofJson? (v : Value) : Option Diagnostic := do
  let ms ← Json.recordMembers? fields v
  guard (Json.distinctNames (ms.filter (fields.contains ·.1)))
  let kind ← Json.field? ms "kind" none fun v => v.str?.bind DiagnosticKind.ofWord?
  let code ← Json.field? ms "code" none Value.str?
  let file ← Json.field? ms "file" none Value.str?
  let line ← Json.field? ms "line" none Value.word32?
  let column ← Json.field? ms "column" none Value.word32?
  let offset ← Json.field? ms "offset" none Value.word64?
  let function ← Json.field? ms "function" none Value.str?
  let rule ← Json.field? ms "rule" none Value.str?
  let message ← Json.field? ms "message" none Value.str?
  return { kind, code, file, line, column, offset, function, rule, message }

end Diagnostic

namespace Report

/-- The fields of the counters, in the order in which they are declared. -/
def Info.fields : List String :=
  ["rules", "functions_analyzed", "functions_skipped", "parse_failures"]

/-- The counters as JSON. -/
def Info.toJson (i : Info) : Value :=
  .obj [("rules", .int i.rules.toNat), ("functions_analyzed", .int i.functionsAnalyzed.toNat),
    ("functions_skipped", .int i.functionsSkipped.toNat),
    ("parse_failures", .int i.parseFailures.toNat)]

/-- The counters that a JSON value writes. -/
def Info.ofJson? (v : Value) : Option Info := do
  let ms ← Json.recordMembers? Info.fields v
  guard (Json.distinctNames (ms.filter (Info.fields.contains ·.1)))
  let rules ← Json.field? ms "rules" none Value.word32?
  let functionsAnalyzed ← Json.field? ms "functions_analyzed" none Value.word32?
  let functionsSkipped ← Json.field? ms "functions_skipped" none Value.word32?
  let parseFailures ← Json.field? ms "parse_failures" none Value.word32?
  return { rules, functionsAnalyzed, functionsSkipped, parseFailures }

/-- The fields of a report, in the order in which they are declared. -/
def fields : List String :=
  ["version", "command", "status", "files_analyzed", "diagnostics", "info"]

/-- A report as JSON. -/
def toJson (r : Report) : Value :=
  .obj [("version", .str r.version), ("command", .str r.command), ("status", .str r.status),
    ("files_analyzed", .arr (r.filesAnalyzed.map .str)),
    ("diagnostics", .arr (r.diagnostics.map Diagnostic.toJson)), ("info", r.info.toJson)]

/-- The report that a JSON value writes. -/
def ofJson? (v : Value) : Option Report := do
  let ms ← Json.recordMembers? fields v
  guard (Json.distinctNames (ms.filter (fields.contains ·.1)))
  let version ← Json.field? ms "version" none Value.str?
  let command ← Json.field? ms "command" none Value.str?
  let status ← Json.field? ms "status" none Value.str?
  let filesAnalyzed ← Json.field? ms "files_analyzed" none (Value.listOf? Value.str?)
  let diagnostics ← Json.field? ms "diagnostics" none (Value.listOf? Diagnostic.ofJson?)
  let info ← Json.field? ms "info" none Info.ofJson?
  return { version, command, status, filesAnalyzed, diagnostics, info }

/-- The report as a JSON text. -/
def json (r : Report) : String := r.toJson.pretty

end Report

/-- The configuration as a JSON text. -/
def Config.json (c : Config) : String := c.toJson.pretty

end RequiredArgs
