import TextDiagram.Config
import TextDiagram.Json.Decoder
import TextDiagram.Graph.Basic

/-!
# Settings and vocabulary from JSON

How the sides of a connection and the settings of a layout are read from JSON. Sides are named by
their letters; the settings of a layout may each be left out or null.
-/
namespace TextDiagram

open Json (Decoder Record)

namespace Side

def decoder : Decoder Side :=
  .choice ofText?

end Side

namespace Padding

def record : Record (Padding Float) :=
  Record.of Padding.mk
    |>.and (.required "top" .float)
    |>.and (.required "right" .float)
    |>.and (.required "bottom" .float)
    |>.and (.required "left" .float)

end Padding

namespace Overrides

def record : Record (Overrides Float) :=
  Record.of Overrides.mk
    |>.and (.optional "horizontal_spacing" .float)
    |>.and (.optional "vertical_spacing" .float)
    |>.and (.optional "max_columns" .natural)
    |>.and (.optional "group_padding" Padding.record.decoder)
    |>.and (.optional "min_container_width" .float)
    |>.and (.optional "min_container_height" .float)
    |>.and (.optional "group_spacing" .float)
    |>.and (.optional "orphan_row_spacing" .float)
    |>.and (.optional "container_padding" .float)

end Overrides

end TextDiagram
