import ClusterControl.Client.Scope
import ClusterControl.Rehearsal.Callers
/-!
# Rehearsing scopes

Scopes by name on a clock, and calls that wait for their end.
-/

namespace ClusterControl

/-- Scopes by name, on a clock. -/
structure ScopeShow where
  scopes : Scopes := {}
  named : Table Scope := {}
  handles : Table Nat := {}
  -- the calls that wait, with what they have been told
  waits : Roster (Scope × Option ScopeEnd) := {}

namespace ScopeShow

/-- Names a scope that nobody can cancel. -/
def background (s : ScopeShow) (name : String) : ScopeShow :=
  let (scope, scopes) := s.scopes.create
  { s with scopes := scopes, named := s.named.insert name scope }

/-- Names a scope and keeps its handle under the same name. -/
def withCancel (s : ScopeShow) (name : String) : ScopeShow :=
  let (scope, scopes) := s.scopes.create
  { s with scopes := scopes, named := s.named.insert name scope,
           handles := s.handles.insert name scope.handle }

/-- Names a scope that is made from another one, if there is one of that name. -/
def derive (s : ScopeShow) (name source : String) (f : Scope → Scope) : Option ScopeShow :=
  (s.named.get? source).map fun scope => { s with named := s.named.insert name (f scope) }

/-- Uses the handle of a name, if there is one. -/
def cancel (s : ScopeShow) (name : String) : ScopeShow :=
  match s.handles.get? name with
  | some handle => { s with scopes := s.scopes.cancel handle }
  | none => s

/-- A call that waits looks at its scope. -/
def poll (n : Nat) (s : ScopeShow) : ScopeShow :=
  match s.waits.get? n with
  | some (scope, none) => { s with waits := s.waits.set n (scope, s.scopes.end? scope) }
  | _ => s

/-- The stage on which scopes are rehearsed. -/
def stage : CallStage ScopeShow Nat Scope ScopeEnd where
  now s := s.scopes.now
  setNow t s := { s with scopes := { s.scopes with now := t } }
  tasks s := s.waits.numbers
  ready s n := match s.waits.get? n with
    | some (scope, none) => (s.scopes.end? scope).isSome
    | _ => false
  alarm s n := match s.waits.get? n with
    | some (scope, none) => scope.deadline
    | _ => none
  poll := poll
  begin n scope s := { s with waits := s.waits.set n (scope, none) }
  task := id
  result? s n := (s.waits.get? n).bind Prod.snd
  leave n s := { s with waits := s.waits.erase n }

end ScopeShow
end ClusterControl
