import OrderedStore.Image
import OrderedStore.Store.Access
import OrderedStore.Text.Digits

/-!
# Readers beside a writer

One thread writes numbers under a few keys in turn while others read these keys.  What
the threads do is a list of steps each, and a run is any list of steps in which each
thread's steps keep their order.  `Plan.schedule` is the run in which one thread
comes after the other.
-/

set_option autoImplicit false

namespace OrderedStore.Trial

/-- How much is done. -/
structure Plan where
  operations : Nat
  readers : Nat
  keyCount : Nat
  deriving DecidableEq, Repr

/-- One step of a thread. -/
inductive Act where
  | write (key value : Bytes)
  | read (key : Bytes)
  deriving DecidableEq, Repr

namespace Plan

/-- The key that a number falls on. -/
def key (plan : Plan) (i : Nat) : Bytes :=
  utf8 (String.ofList ('k' :: Text.decimal (i % plan.keyCount)))

/-- A number as it is written. -/
def stamp (i : Nat) : Bytes := Image.littleEndian 8 i

/-- What the writer does. -/
def writer (plan : Plan) : List Act :=
  (List.range plan.operations).map fun i => .write (plan.key i) (stamp i)

/-- What a reader does; each begins at another key. -/
def reader (plan : Plan) (t : Nat) : List Act :=
  (List.range plan.operations).map fun i => .read (plan.key (t + i))

/-- What all threads do, the writer first. -/
def threads (plan : Plan) : List (List Act) :=
  plan.writer :: (List.range plan.readers).map plan.reader

/-- All steps, one thread after the other. -/
def schedule (plan : Plan) : List Act := plan.threads.flatten

end Plan

/-- How many steps succeeded and failed. -/
structure Tally where
  successful : Nat
  failed : Nat
  deriving DecidableEq, Repr

/-- Counts an outcome. -/
def Tally.add {α : Type} (tally : Tally) : Except Error α → Tally
  | .ok _ => { tally with successful := tally.successful + 1 }
  | .error _ => { tally with failed := tally.failed + 1 }

/-- Takes one step on a session. -/
def act (id : SessionId) (state : Store × Tally) : Act → Store × Tally
  | .write key value =>
    let (s, outcome) := state.1.put id key value false
    (s, state.2.add outcome)
  | .read key =>
    let (s, outcome) := state.1.get id none key
    (s, state.2.add outcome)

/-- Takes steps on a session, in the order of the list. -/
def run (s : Store) (id : SessionId) (acts : List Act) : Store × Tally :=
  acts.foldl (act id) (s, ⟨0, 0⟩)

end OrderedStore.Trial
