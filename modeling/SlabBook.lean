import SlabBook.Main
import SlabBook.Script
import SlabBook.Proofs.SlotTree
import SlabBook.Proofs.WalkTree
import SlabBook.Proofs.Layout
import SlabBook.Proofs.DisplayOrder
import SlabBook.Proofs.Moves
import SlabBook.Proofs.Deliveries
import SlabBook.Proofs.Outcomes
import SlabBook.Proofs.Phases
import SlabBook.Proofs.Runs
import SlabBook.Proofs.Publication
import SlabBook.Proofs.Versions
import SlabBook.Proofs.Freshness
import SlabBook.Proofs.Encoding
import SlabBook.Proofs.History
import SlabBook.Proofs.Lives
import SlabBook.Proofs.TwoLooks
import SlabBook.Proofs.Streams
import SlabBook.Proofs.NewestSlot
import SlabBook.Proofs.Malformed
import SlabBook.Proofs.Custody
import SlabBook.Proofs.Holdings
import SlabBook.Proofs.Releases
import SlabBook.Proofs.ScaleOrder
import SlabBook.Proofs.Registry
import SlabBook.Proofs.Transitions
import SlabBook.Proofs.Frozen
import SlabBook.Proofs.WatchedFeeds
import SlabBook.Proofs.OwnFeeds
import SlabBook.Proofs.Health
import SlabBook.Proofs.Causes
import SlabBook.Proofs.Settings
import SlabBook.Proofs.Record
import SlabBook.Proofs.HeldListeners
import SlabBook.Proofs.WatcherState
import SlabBook.Proofs.Announcements
import SlabBook.Proofs.StartedSides
import SlabBook.Proofs.Independence
import SlabBook.Proofs.SingleRounding
import SlabBook.Proofs.Passes
import SlabBook.Proofs.Precedence
import SlabBook.Proofs.Traversal
import SlabBook.Proofs.Descriptions
import SlabBook.Proofs.Consumers
import SlabBook.Proofs.Unread
import SlabBook.Proofs.NumberGrammar
import SlabBook.Proofs.Serving
import SlabBook.Proofs.Mirror
import SlabBook.Proofs.Extent
import SlabBook.Proofs.SideCode
