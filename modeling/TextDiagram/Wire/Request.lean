import TextDiagram.Session
import TextDiagram.Wire.Document

/-!
# Requests and answers in JSON

The bodies that the HTTP interface of a session reads and writes.
-/
namespace TextDiagram

open Json (Decoder Record)

structure LayoutRequest where
  familyName : String
  source : String
  overrides : Option (Overrides Float)
  /-- Whether the centre of the layout is moved to the corner of the plane. -/
  center : Bool

structure RestoreRequest where
  shapes : List (Shape Float)
  connectors : List Connector

namespace Origin

def record : Record (Origin Float) :=
  Record.of Origin.mk
    |>.and (.required "x" .float)
    |>.and (.required "y" .float)

end Origin

namespace LayoutRequest

def record : Record LayoutRequest :=
  Record.of LayoutRequest.mk
    |>.and (.required "diagram_type" .string)
    |>.and (.required "dsl" .string)
    |>.and (.withDefault "layout" Overrides.record.decoder.optional none)
    |>.and (.withDefault "center" .bool false)

end LayoutRequest

namespace ImportRequest

def record : Record (ImportRequest Float) :=
  Record.of ImportRequest.mk
    |>.and (.required "diagram_type" .string)
    |>.and (.required "dsl" .string)
    |>.and (.withDefault "origin" Origin.record.decoder.optional none)
    |>.and (.withDefault "layout" Overrides.record.decoder.optional none)
    |>.and (.withDefault "preview_id" ShapeId.decoder.optional none)

end ImportRequest

namespace RestoreRequest

def record : Record RestoreRequest :=
  Record.of RestoreRequest.mk
    |>.and (.withDefault "shapes" (.list Shape.record.decoder) [])
    |>.and (.withDefault "connectors" (.list Connector.record.decoder) [])

end RestoreRequest

namespace Preview

def toJson (preview : Preview Float) : Json :=
  .ofFields
    [("diagram_type", preview.family.toJson),
      ("nodes", .ofList Placed.toJson preview.nodes),
      ("connectors", .ofList PlannedConnector.toJson preview.connectors),
      ("diagnostics", .ofList Diagnostic.toJson preview.diagnostics),
      ("dropped_connections", .ofNat preview.droppedConnections)]

end Preview

namespace Created

def toJson (created : Created) : Json :=
  .ofFields
    [("container_id", .ofOption ShapeId.toJson created.container),
      ("shape_ids", .ofList ShapeId.toJson created.shapes),
      ("connector_ids", .ofList ConnectorId.toJson created.connectors)]

end Created

namespace Report

def toJson (report : Report) : Json :=
  .ofFields
    [("code", .text report.code), ("message", .text report.message),
      ("retryable", .bool report.retryable)]

end Report

end TextDiagram
