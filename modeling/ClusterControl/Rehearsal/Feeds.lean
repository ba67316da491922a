import ClusterControl.Feed
import ClusterControl.Roster
import ClusterControl.Table
/-!
# Subscriptions by name

The feeds of one source, with the names under which their subscribers know them.  A feed that nobody
knows any more runs on until it notices.
-/

namespace ClusterControl

/-- Feeds by name. -/
structure Feeds (α : Type) where
  feeds : Roster (Feed α) := {}
  named : Table Nat := {}
  next : Nat := 0

namespace Feeds

variable {α : Type}

/-- Changes a feed. -/
def onFeed (s : Feeds α) (n : Nat) (f : Feed α → Feed α) : Feeds α :=
  match s.feeds.get? n with
  | some feed => { s with feeds := s.feeds.set n (f feed) }
  | none => s

/-- Changes the feed of a name, if there is one. -/
def onNamed (s : Feeds α) (name : String) (f : Feed α → Feed α) : Feeds α :=
  match s.named.get? name with
  | some n => s.onFeed n f
  | none => s

/-- The feed of a name. -/
def named? (s : Feeds α) (name : String) : Option (Feed α) :=
  (s.named.get? name).bind s.feeds.get?

/-- A subscriber forgets a name. -/
def drop (s : Feeds α) (name : String) : Feeds α :=
  { s.onNamed name (fun f => f.uncancellable.disconnected) with named := s.named.erase name }

/-- A subscriber begins; one that went by the same name before goes away. -/
def add (s : Feeds α) (name : String) (feed : Feed α) : Feeds α :=
  let s := s.drop name
  { feeds := s.feeds.set s.next feed, named := s.named.insert name s.next, next := s.next + 1 }

/-- The subscriber of a name receives, if there is something to receive. -/
def receive (s : Feeds α) (name : String) : Option (Option α) × Feeds α :=
  match s.named? name with
  | some feed =>
    let (got, feed) := feed.receive
    (got, s.onNamed name fun _ => feed)
  | none => (some none, s)

end Feeds
end ClusterControl
