/-!
# Sample nodes

Three stored node documents that show the playback features working together: a ball that
bounces in a loop through a jump marker (`bouncing-loop`), a door whose trigger key starts two
other animations at once (`multi-trigger`), and a banner that stops at its last marker
(`stop-at-end`). Each sample has a name, the relative path of its document and the document
text.
-/

namespace Timeline

/-- A sample document. -/
structure Sample where
  /-- Its name. -/
  name : String
  /-- The relative path of its document. -/
  file : String
  /-- The document text. -/
  text : String

/-- The bouncing-loop sample. -/
def Sample.bouncingLoop : Sample where
  name := "bouncing-loop"
  file := "nodes/bouncing_loop.json"
  text :=
    "\x7b\n  \"id\": \"Ball\",\n  \"animations\": [\n    \x7b\n      \"markers\": [\n        \x7b \"id\": \"loop_start\", \"frame\": 0, \"action\": \"play\" \x7d,\n        \x7b \"id\": \"loop_end\", \"frame\": 30, \"action\": \"jump\", \"jumpTo\": \"loop_start\" \x7d\n      ]\n    \x7d\n  ],\n  \"animators\": [\n    \x7b\n      \"targetProperty\": \"Position\",\n      \"keys\": [\n        \x7b \"frame\": 0, \"value\": \x7b \"type\": \"vec2\", \"data\": [0, 0] \x7d, \"function\": \"spline\" \x7d,\n        \x7b \"frame\": 15, \"value\": \x7b \"type\": \"vec2\", \"data\": [0, 100] \x7d, \"function\": \"spline\" \x7d,\n        \x7b \"frame\": 30, \"value\": \x7b \"type\": \"vec2\", \"data\": [0, 0] \x7d, \"function\": \"spline\" \x7d\n      ]\n    \x7d,\n    \x7b\n      \"targetProperty\": \"Opacity\",\n      \"keys\": [\n        \x7b \"frame\": 0, \"value\": \x7b \"type\": \"float\", \"data\": 0 \x7d, \"function\": \"linear\" \x7d,\n        \x7b \"frame\": 10, \"value\": \x7b \"type\": \"float\", \"data\": 10 \x7d, \"function\": \"linear\" \x7d\n      ]\n    \x7d,\n    \x7b\n      \"targetProperty\": \"Shadow\",\n      \"keys\": [\n        \x7b \"frame\": 0, \"value\": \x7b \"type\": \"float\", \"data\": 1 \x7d, \"function\": \"steep\" \x7d\n      ]\n    \x7d\n  ]\n\x7d\n"

/-- The multi-trigger sample. -/
def Sample.multiTrigger : Sample where
  name := "multi-trigger"
  file := "nodes/multi_trigger.json"
  text :=
    "\x7b\n  \"id\": \"Door\",\n  \"animations\": [\n    \x7b\n      \"markers\": [\n        \x7b \"id\": \"idle\", \"frame\": 0, \"action\": \"play\" \x7d\n      ]\n    \x7d,\n    \x7b\n      \"id\": \"Anim1\",\n      \"markers\": [\n        \x7b \"id\": \"jump\", \"frame\": 0, \"action\": \"play\" \x7d,\n        \x7b \"id\": \"landed\", \"frame\": 20, \"action\": \"stop\" \x7d\n      ]\n    \x7d,\n    \x7b\n      \"id\": \"Anim2\",\n      \"markers\": [\n        \x7b \"id\": \"idle\", \"frame\": 0, \"action\": \"play\" \x7d,\n        \x7b \"id\": \"stop\", \"frame\": 10, \"action\": \"stop\" \x7d\n      ]\n    \x7d\n  ],\n  \"animators\": [\n    \x7b\n      \"targetProperty\": \"Trigger\",\n      \"keys\": [\n        \x7b \"frame\": 5, \"value\": \x7b \"type\": \"text\", \"data\": \"jump@Anim1, stop@Anim2\" \x7d, \"function\": \"steep\" \x7d\n      ]\n    \x7d,\n    \x7b\n      \"targetProperty\": \"Height\",\n      \"animationId\": \"Anim1\",\n      \"keys\": [\n        \x7b \"frame\": 0, \"value\": \x7b \"type\": \"float\", \"data\": 0 \x7d, \"function\": \"linear\" \x7d,\n        \x7b \"frame\": 20, \"value\": \x7b \"type\": \"float\", \"data\": 2 \x7d, \"function\": \"linear\" \x7d\n      ]\n    \x7d,\n    \x7b\n      \"targetProperty\": \"Angle\",\n      \"animationId\": \"Anim2\",\n      \"keys\": [\n        \x7b \"frame\": 0, \"value\": \x7b \"type\": \"float\", \"data\": 0 \x7d, \"function\": \"linear\" \x7d,\n        \x7b \"frame\": 10, \"value\": \x7b \"type\": \"float\", \"data\": 90 \x7d, \"function\": \"linear\" \x7d\n      ]\n    \x7d\n  ]\n\x7d\n"

/-- The stop-at-end sample. -/
def Sample.stopAtEnd : Sample where
  name := "stop-at-end"
  file := "nodes/stop_at_end.json"
  text :=
    "\x7b\n  \"id\": \"Banner\",\n  \"animations\": [\n    \x7b\n      \"markers\": [\n        \x7b \"id\": \"start\", \"frame\": 0, \"action\": \"play\" \x7d,\n        \x7b \"id\": \"end\", \"frame\": 20, \"action\": \"stop\" \x7d\n      ]\n    \x7d\n  ],\n  \"animators\": [\n    \x7b\n      \"targetProperty\": \"Color\",\n      \"keys\": [\n        \x7b \"frame\": 0, \"value\": \x7b \"type\": \"colorRgba\", \"data\": [0, 0, 0, 1] \x7d, \"function\": \"linear\" \x7d,\n        \x7b \"frame\": 20, \"value\": \x7b \"type\": \"colorRgba\", \"data\": [1, 1, 1, 1] \x7d, \"function\": \"linear\" \x7d\n      ]\n    \x7d,\n    \x7b\n      \"targetProperty\": \"Margin\",\n      \"keys\": [\n        \x7b \"frame\": 0, \"value\": \x7b \"type\": \"thickness\", \"data\": [0, 0, 0, 0] \x7d, \"function\": \"linear\" \x7d,\n        \x7b \"frame\": 20, \"value\": \x7b \"type\": \"thickness\", \"data\": [4, 4, 2, 2] \x7d, \"function\": \"linear\" \x7d\n      ]\n    \x7d,\n    \x7b\n      \"targetProperty\": \"Removed\",\n      \"keys\": [\n        \x7b \"frame\": 0, \"value\": \x7b \"type\": \"float\", \"data\": 1 \x7d, \"function\": \"linear\" \x7d\n      ]\n    \x7d\n  ]\n\x7d\n"

/-- Every sample, by name. -/
def Sample.all : List Sample := [Sample.bouncingLoop, Sample.multiTrigger, Sample.stopAtEnd]

/-- The names of the samples, in order. -/
def Sample.names : List String := Sample.all.map (·.name)

/-- The sample with a name. -/
def Sample.find? (name : String) : Option Sample := Sample.all.find? (·.name == name)

/-- The message for a name that is not a sample. -/
def Sample.unknown (name : String) : String := "unknown node fixture '" ++ name ++ "'"

end Timeline
