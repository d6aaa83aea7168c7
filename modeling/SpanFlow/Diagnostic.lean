import SpanFlow.Propagation.Jaeger
import SpanFlow.Recording.Exporter

/-!
# Diagnostics

Misuse and failures that no caller is told about are reported as diagnostics. Each has a level, a
name, and fields with further texts.
-/

namespace SpanFlow

/-- How serious a diagnostic is. -/
inductive Diagnostic.Level where
  | debug
  | warn
  | error
  deriving DecidableEq

/-- Something that is reported. -/
inductive Diagnostic where
  /-- A guard was closed out of turn. -/
  | outOfOrderClose
  /-- A span was called on after a call on it had failed half-way. -/
  | poisonedSpan
  /-- A header was there and could not be read. -/
  | unreadableHeader (header : String) (fault : Jaeger.Fault)
  /-- An exporter failed to shut down. -/
  | shutdownFailed (error : ExportError)
  /-- A provider that was shut down before was released. -/
  | releasedAfterShutdown
  /-- An exporter failed to export. -/
  | exportFailed (error : ExportError)
  /-- The environment asks for limits that are refused. -/
  | refusedLimits (error : Limits.Error)
  deriving DecidableEq

namespace Diagnostic

/-- The level of a diagnostic. -/
def level : Diagnostic → Level
  | outOfOrderClose | refusedLimits _ => .warn
  | poisonedSpan => .error
  | _ => .debug

/-- The word for a level. -/
def Level.word : Level → String
  | debug => "DEBUG"
  | warn => "WARN"
  | error => "ERROR"

/-- The name of a diagnostic. -/
def name : Diagnostic → String
  | outOfOrderClose => "Context.OutOfOrderDrop"
  | poisonedSpan => "SpanRef.LockPoisoned"
  | unreadableHeader _ _ => "JaegerPropagator.ExtractFailed"
  | shutdownFailed _ => "TracerProvider.ShutdownError"
  | releasedAfterShutdown => "TracerProvider.Drop.AlreadyShutdown"
  | exportFailed _ => "TracerProvider.ExportFailed"
  | refusedLimits _ => "TracerProvider.Config.InvalidSpanLimits"

/-- The further fields of a diagnostic. -/
def details : Diagnostic → List (String × String)
  | outOfOrderClose =>
    [("message", "a context guard was dropped while a different context was current; " ++
      "restored the context from before its attach")]
  | poisonedSpan => [("error", "poisoned lock: another task failed inside")]
  | unreadableHeader header fault => [("header", header), ("reason", fault.reason)]
  | shutdownFailed error | exportFailed error => [("error", error.message)]
  | releasedAfterShutdown =>
    [("message",
      "TracerProvider was already shut down; drop will not attempt shutdown again.")]
  | refusedLimits error =>
    [("message", "Span limit environment variables are invalid, using the defaults"),
      ("error", error.message)]

/-- All fields of a diagnostic. -/
def fields (d : Diagnostic) : List (String × String) :=
  ("level", d.level.word) :: ("name", d.name) :: d.details

end Diagnostic

end SpanFlow
