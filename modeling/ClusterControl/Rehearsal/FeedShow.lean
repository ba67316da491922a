import ClusterControl.Rehearsal.Callers
import ClusterControl.Rehearsal.Feeds
/-!
# Rehearsing feeds

Feeds on a clock over a source of which each sample tells when it was taken.
-/

namespace ClusterControl

/-- When a sample was taken. -/
structure Sampled where
  step : Nat
  time : Nat
deriving Repr, DecidableEq

/-- Feeds on a clock. -/
structure FeedShow where
  now : Nat := 0
  step : Nat := 0
  stopped : Bool := false
  samples : Nat := 0
  feeds : Feeds Sampled := {}

namespace FeedShow

/-- A feed goes on. -/
def poll (n : Nat) (s : FeedShow) : FeedShow :=
  match s.feeds.feeds.get? n with
  | some feed =>
    let (feed, sampled) := feed.poll s.now s.stopped ⟨s.step, s.now⟩
    { s with feeds := s.feeds.onFeed n fun _ => feed,
             samples := if sampled then s.samples + 1 else s.samples }
  | none => s

/-- The stage on which feeds are rehearsed; there are no calls. -/
def stage : CallStage FeedShow Nat Unit Unit where
  now := FeedShow.now
  setNow t s := { s with now := t }
  tasks s := s.feeds.feeds.numbers
  ready s n := (s.feeds.feeds.get? n).any fun feed => feed.ready s.now s.stopped
  alarm s n := (s.feeds.feeds.get? n).bind Feed.alarm
  poll := poll
  begin _ _ s := s
  task := id
  result? _ _ := none
  leave _ s := s

end FeedShow
end ClusterControl
