import Timeline.Bag
import Timeline.Console.Animators
import Timeline.Console.Nodes
import Timeline.Console.Objects
import Timeline.Console.Queries
import Timeline.Console.View
import Timeline.Decimal.Layout
import Timeline.Decimal.Shortest
import Timeline.Decimal.Text
import Timeline.Json.Cursor
import Timeline.Json.Decode
import Timeline.Json.Doc
import Timeline.Json.Scan
import Timeline.Key.Basic
import Timeline.Key.Codec
import Timeline.Marker
import Timeline.Marker.Codec
import Timeline.Path
import Timeline.Playback.Animation
import Timeline.Playback.Config
import Timeline.Playback.Diagnostic
import Timeline.Playback.Error
import Timeline.Playback.Node
import Timeline.Samples
import Timeline.Stored.Basic
import Timeline.Stored.Load
import Timeline.Text.Blank
import Timeline.Text.GraphemeExtend
import Timeline.Text.Printable
import Timeline.Text.Quote
import Timeline.Text.Ranges
import Timeline.Time
import Timeline.Track.Animator
import Timeline.Track.Binding
import Timeline.Track.Collection
import Timeline.Trigger
import Timeline.Value.Basic
import Timeline.Value.Blend
import Timeline.Value.Codec
import Timeline.Value.Shapes
import Timeline.Proofs.KeyList
import Timeline.Proofs.Window
import Timeline.Proofs.Crossing
import Timeline.Proofs.Tick
import Timeline.Proofs.MarkerOrder
import Timeline.Proofs.BagSlots
import Timeline.Proofs.StoredForm
import Timeline.Proofs.Lifecycle
import Timeline.Proofs.Animations
import Timeline.Proofs.AnimatorMap
import Timeline.Proofs.KeySharing
import Timeline.Proofs.LoadErrors
import Timeline.Proofs.BagWrites
import Timeline.Proofs.StopMarkers
import Timeline.Proofs.AdvanceEffects
import Timeline.Proofs.TriggerText
import Timeline.Proofs.SegmentCache
import Timeline.Proofs.PathText
