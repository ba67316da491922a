import ClusterControl.Mailbox.Exchange
import ClusterControl.Rehearsal.Callers
/-!
# Rehearsing a mailbox

A mailbox of integers on a clock, with calls in front and in the background.  The sender is shared:
the driver of the run has a share, and so has every call that posts or watches, until it ends.
-/

namespace ClusterControl

/-- A call at a mailbox that is rehearsed. -/
inductive MailRequest
  -- waits for a value; a call in the background takes the receiver away with it
  | receive (keeps : Bool)
  | watch
  | postAt (due : Nat) (value : Int)
deriving Repr, DecidableEq

/-- The result of such a call. -/
inductive MailResult
  | got (value : Option Int)
  | closed
  | posted (replaced : Bool)
  | handedBack (value : Int)
deriving Repr, DecidableEq

/-- A call and, once it has ended, its result. -/
structure MailJob where
  request : MailRequest
  result : Option MailResult := none
deriving Repr, DecidableEq

/-- A mailbox on a clock. -/
structure MailboxShow where
  now : Nat := 0
  exchange : Exchange Int := {}
  hasSender : Bool := true
  hasReceiver : Bool := true
  jobs : Roster MailJob := {}

namespace MailboxShow

/-- A call has a share of the sender. -/
def sharesSender (job : MailJob) : Bool :=
  match job.request with
  | .receive _ => false
  | _ => job.result.isNone

/-- The sender goes away with its last share. -/
def checkSender (m : MailboxShow) : MailboxShow :=
  if m.exchange.slot.senderAlive && !m.hasSender && !m.jobs.entries.any fun e => sharesSender e.2 then
    { m with exchange := m.exchange.dropSender }
  else m

/-- The driver gives up its share of the sender. -/
def dropSender (m : MailboxShow) : MailboxShow :=
  checkSender { m with hasSender := false }

/-- The driver gives up the receiver, if it has it. -/
def dropReceiver (m : MailboxShow) : MailboxShow :=
  if m.hasReceiver then { m with hasReceiver := false, exchange := m.exchange.dropReceiver } else m

/-- The driver posts a value. -/
def post (m : MailboxShow) (value : Int) : MailResult × MailboxShow :=
  match m.exchange.post value with
  | (.ok replaced, exchange) => (.posted replaced, { m with exchange := exchange })
  | (.error value, exchange) => (.handedBack value, { m with exchange := exchange })

/-- A call comes in. -/
def begin (n : Nat) (request : MailRequest) (m : MailboxShow) : MailboxShow :=
  let m := { m with jobs := m.jobs.set n { request := request } }
  match request with
  | .receive true => { m with exchange := m.exchange.receive n, hasReceiver := false }
  | .receive false => { m with exchange := m.exchange.receive n }
  | .watch => { m with exchange := m.exchange.watch n }
  | .postAt _ _ => m

/-- A call comes to its end. -/
def finish (m : MailboxShow) (n : Nat) (job : MailJob) (result : MailResult) : MailboxShow :=
  let m := { m with jobs := m.jobs.set n { job with result := some result } }
  let m := match job.request with
    | .receive true => { m with exchange := m.exchange.dropReceiver }
    | _ => m
  m.checkSender

/-- A call goes on. -/
def poll (n : Nat) (m : MailboxShow) : MailboxShow :=
  match m.jobs.get? n with
  | some job =>
    if job.result.isSome then m
    else
      match job.request with
      | .postAt due value =>
        if due ≤ m.now then
          let (result, m) := m.post value
          m.finish n job result
        else m
      | _ =>
        let exchange := m.exchange.poll n
        match exchange.calls.get? n with
        | some (.received value) =>
          ({ m with exchange := exchange.leave n } : MailboxShow).finish n job (.got value)
        | some .told => ({ m with exchange := exchange.leave n } : MailboxShow).finish n job .closed
        | _ => { m with exchange := exchange }
  | none => m

/-- A call can go on. -/
def ready (m : MailboxShow) (n : Nat) : Bool :=
  match m.jobs.get? n with
  | some job =>
    job.result.isNone &&
      match job.request with
      | .postAt due _ => due ≤ m.now
      | _ => m.exchange.canAdvance n
  | none => false

/-- When a call wants to be looked at. -/
def alarm (m : MailboxShow) (n : Nat) : Option Nat :=
  match m.jobs.get? n with
  | some ⟨.postAt due _, none⟩ => some due
  | _ => none

/-- A caller goes away. -/
def leave (n : Nat) (m : MailboxShow) : MailboxShow :=
  let exchange := match m.jobs.get? n with
    | some ⟨.receive true, none⟩ => (m.exchange.leave n).dropReceiver
    | _ => m.exchange.leave n
  checkSender { m with exchange := exchange, jobs := m.jobs.erase n }

/-- The stage on which mailboxes are rehearsed. -/
def stage : CallStage MailboxShow Nat MailRequest MailResult where
  now := MailboxShow.now
  setNow t m := { m with now := t }
  tasks m := m.jobs.numbers
  ready := ready
  alarm := alarm
  poll := poll
  begin := begin
  task := id
  result? m n := (m.jobs.get? n).bind MailJob.result
  leave := leave

end MailboxShow
end ClusterControl
