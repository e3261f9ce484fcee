import Mathlib

structure Mailbox (α : Type) where
  queue : List α
  connected : Bool
  deriving DecidableEq

inductive TryRecvError
  | empty
  | disconnected
  deriving DecidableEq

namespace Mailbox
variable {α : Type}

def new : Mailbox α := ⟨[], true⟩

def send (box : Mailbox α) (message : α) : Mailbox α :=
  { box with queue := box.queue ++ [message] }

/-- The sender is dropped. -/
def disconnect (box : Mailbox α) : Mailbox α := { box with connected := false }

def tryRecv (box : Mailbox α) : Except TryRecvError α × Mailbox α :=
  match box.queue with
  | message :: queue => (.ok message, { box with queue })
  | [] => (.error (if box.connected then .empty else .disconnected), box)

theorem tryRecv_of_queue {box : Mailbox α} {message : α} {queue : List α}
    (h : box.queue = message :: queue) : box.tryRecv = (.ok message, { box with queue }) := by
  simp only [tryRecv, h]

end Mailbox
