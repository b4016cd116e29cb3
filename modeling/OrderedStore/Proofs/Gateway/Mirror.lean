import Mathlib.Logic.Function.Basic
import OrderedStore.Proofs.Gateway.Request

/-!
# The mirror of a host

A `Mirror` is what a host can work out for itself from the calls it has made and the replies
it has got: for each of its databases the map that its own puts, deletes and batches
have made, for each snapshot and iterator the map that it was made over, and for each
batch what has been queued.  It has tokens and maps only, and knows nothing of sessions,
leases, files and registries.

A call changes what its own token stands for and nothing else, unless it closes the
database that something was made through; the last section says so.
-/

set_option autoImplicit false

namespace OrderedStore

/-- A tour of a map that stays as it is. -/
structure Tour where
  view : Keyspace
  cursor : Cursor

/-- Goes where the map says. -/
def Tour.move (tour : Tour) (m : Move) : Tour :=
  { tour with cursor := (tour.cursor.move (some fun query => .ok (tour.view.answer query)) m).1 }

/-- A tour that has not failed goes on without failing. -/
theorem Tour.status_move {tour : Tour} (h : tour.cursor.status true = .ok ()) (move : Move) :
    (tour.move move).cursor.status true = .ok () := by
  unfold Tour.move Cursor.move
  split
  · exact h
  · show (Cursor.land (.ok (tour.view.answer _))).status true = .ok ()
    cases tour.view.answer _ <;> rfl

/-- The entry that the tour is at. -/
def Tour.current (tour : Tour) : Option Entry := tour.cursor.entry? true

/-- What a host's tokens stand for, as the host knows it. -/
structure Mirror where
  /-- The map of a database. -/
  contents : Token → Option Keyspace
  /-- The map that a snapshot has kept, and the token it was taken through. -/
  pinned : Token → Option (Child Keyspace)
  /-- The tour of an iterator, and the token it was made through. -/
  tours : Token → Option (Child Tour)
  batches : Token → Option Batch

namespace Mirror

/-- The mirror of a host with no tokens. -/
def empty : Mirror := ⟨fun _ => none, fun _ => none, fun _ => none, fun _ => none⟩

variable {m : Mirror}

/-! ## Keeping a mirror -/

/-- Writes down the map of a database. -/
def hold (m : Mirror) (t : Token) (k : Option Keyspace) : Mirror :=
  { m with contents := Function.update m.contents t k }

/-- Writes down that mutations have been sent through a token. -/
def change (m : Mirror) (t : Token) (mutations : List Mutation) : Mirror :=
  m.hold t ((m.contents t).map fun k => k.applyAll mutations)

/-- Writes down the map of a snapshot. -/
def pin (m : Mirror) (t : Token) (view : Option (Child Keyspace)) : Mirror :=
  { m with pinned := Function.update m.pinned t view }

/-- Writes down the tour of an iterator. -/
def walk (m : Mirror) (t : Token) (tour : Option (Child Tour)) : Mirror :=
  { m with tours := Function.update m.tours t tour }

/-- Writes down that an iterator has been moved. -/
def advance (m : Mirror) (t : Token) (move : Move) : Mirror :=
  m.walk t ((m.tours t).map fun tour => { tour with thing := tour.thing.move move })

/-- Writes down the contents of a batch. -/
def keep (m : Mirror) (t : Token) (batch : Option Batch) : Mirror :=
  { m with batches := Function.update m.batches t batch }

/-- Writes down that an operation has been queued. -/
def queue (m : Mirror) (t : Token) (mutation : Mutation) : Mirror :=
  m.keep t ((m.batches t).map fun batch => batch.push mutation)

/-- Writes down that a database has been closed, and with it all that was made through its
token. -/
def close (m : Mirror) (t : Token) : Mirror where
  contents := Function.update m.contents t none
  pinned u := (m.pinned u).filter fun view => view.owner ≠ t
  tours u := (m.tours u).filter fun tour => tour.owner ≠ t
  batches := m.batches

/-- The map that a read through a database and maybe a snapshot of it goes to. -/
def viewFor (m : Mirror) (database snapshot : Token) : Option Keyspace :=
  if snapshot = 0 then m.contents database
  else (m.pinned snapshot).bind fun view =>
    if view.owner = database then some view.thing else none

/-- Writes down a call that has succeeded, with the token that it has given.  `found` is what
a database that has been opened at a path had in its file. -/
def done (m : Mirror) (found : Keyspace) : Call → Option Token → Mirror
  | .openPath .., some t => m.hold t (some found)
  | .openMemory .., some t => m.hold t (some .empty)
  | .close t, _ => m.close t
  | .put t _ key value, _ => m.change t [.put key.contents value.contents]
  | .delete t _ key, _ => m.change t [.delete key.contents]
  | .write t _ batch, _ => m.change t ((m.batches batch).map Batch.operations |>.getD [])
  | .iterate database _ snapshot _, some t =>
    m.walk t ((m.viewFor database snapshot).map fun k => ⟨database, ⟨k, .unpositioned⟩⟩)
  | .seek t key, _ => m.advance t (.seek key.contents)
  | .first t, _ => m.advance t .first
  | .last t, _ => m.advance t .last
  | .next t, _ => m.advance t .next
  | .prev t, _ => m.advance t .prev
  | .freeIterator t, _ => m.walk t none
  | .snapshot database _, some t =>
    m.pin t ((m.contents database).map fun k => ⟨database, k⟩)
  | .releaseSnapshot _ t, _ => m.pin t none
  | .createBatch _, some t => m.keep t (some .empty)
  | .batchPut t key value, _ => m.queue t (.put key.contents value.contents)
  | .batchDelete t key, _ => m.queue t (.delete key.contents)
  | .clearBatch t, _ => m.keep t ((m.batches t).map fun _ => .empty)
  | .freeBatch t, _ => m.keep t none
  | _, _ => m

/-- Keeps a mirror by a call and its reply; a call that has failed or that has nothing to
release has done nothing. -/
def note (m : Mirror) (found : Keyspace) (call : Call) (reply : Reply) : Mirror :=
  if reply.failure.isNone && !call.isIdle then m.done found call reply.given else m

end Mirror

/-! ## What calls leave alone -/

/-- The token that a call gives back. -/
def Call.released? : Call → Option Token
  | .close t | .freeIterator t | .releaseSnapshot _ t | .freeBatch t => some t
  | _ => none

/-- The token of the thing that a call changes. -/
def Call.target? : Call → Option Token
  | .put t .. | .delete t .. | .write t .. => some t
  | .seek t _ | .first t | .last t | .next t | .prev t => some t
  | .batchPut t .. | .batchDelete t _ | .clearBatch t => some t
  | call => call.released?

namespace Mirror

variable {m : Mirror} {t : Token}

theorem contents_hold (t : Token) (k : Option Keyspace) : (m.hold t k).contents t = k :=
  Function.update_self _ _ _

theorem contents_change (t : Token) (mutations : List Mutation) :
    (m.change t mutations).contents t = (m.contents t).map fun k => k.applyAll mutations :=
  Function.update_self _ _ _

theorem pinned_pin (t : Token) (view : Option (Child Keyspace)) : (m.pin t view).pinned t = view :=
  Function.update_self _ _ _

theorem tours_walk (t : Token) (tour : Option (Child Tour)) : (m.walk t tour).tours t = tour :=
  Function.update_self _ _ _

theorem batches_keep (t : Token) (batch : Option Batch) : (m.keep t batch).batches t = batch :=
  Function.update_self _ _ _

theorem contents_hold_of_ne {u : Token} (h : u ≠ t) (k : Option Keyspace) :
    (m.hold u k).contents t = m.contents t := Function.update_of_ne h.symm _ _

theorem pinned_pin_of_ne {u : Token} (h : u ≠ t) (view : Option (Child Keyspace)) :
    (m.pin u view).pinned t = m.pinned t := Function.update_of_ne h.symm _ _

theorem tours_walk_of_ne {u : Token} (h : u ≠ t) (tour : Option (Child Tour)) :
    (m.walk u tour).tours t = m.tours t := Function.update_of_ne h.symm _ _

theorem batches_keep_of_ne {u : Token} (h : u ≠ t) (batch : Option Batch) :
    (m.keep u batch).batches t = m.batches t := Function.update_of_ne h.symm _ _

variable {found : Keyspace} {call : Call} {given : Option Token}

/-- A call that is not about a database leaves its map. -/
theorem contents_done (htarget : call.target? ≠ some t)
    (hgiven : call.kind? = some .database → given ≠ some t) :
    (m.done found call given).contents t = m.contents t := by
  cases call with
  | openPath path options place =>
    cases given with
    | none => rfl
    | some u => exact contents_hold_of_ne (fun h => hgiven rfl (congrArg some h)) _
  | openMemory options place =>
    cases given with
    | none => rfl
    | some u => exact contents_hold_of_ne (fun h => hgiven rfl (congrArg some h)) _
  | close u | put u | delete u | write u =>
    exact contents_hold_of_ne (fun h => htarget (congrArg some h)) _
  | iterate | snapshot | createBatch => cases given <;> rfl
  | _ => rfl

theorem pinned_done {view : Child Keyspace} (hpinned : m.pinned t = some view)
    (hreleased : call.released? ≠ some t) (howner : call.released? ≠ some view.owner)
    (hgiven : call.kind? = some .snapshot → given ≠ some t) :
    (m.done found call given).pinned t = m.pinned t := by
  cases call with
  | close u =>
    show (m.pinned t).filter _ = _
    rw [hpinned, Option.filter_some, if_pos]
    exact decide_eq_true fun h => howner (congrArg some h.symm)
  | snapshot database place =>
    cases given with
    | none => rfl
    | some u => exact pinned_pin_of_ne (fun h => hgiven rfl (congrArg some h)) _
  | releaseSnapshot database u =>
    exact pinned_pin_of_ne (fun h => hreleased (congrArg some h)) _
  | openPath | openMemory | iterate | createBatch => cases given <;> rfl
  | _ => rfl

theorem tours_done {tour : Child Tour} (htour : m.tours t = some tour)
    (htarget : call.target? ≠ some t) (howner : call.released? ≠ some tour.owner)
    (hgiven : call.kind? = some .iterator → given ≠ some t) :
    (m.done found call given).tours t = m.tours t := by
  cases call with
  | close u =>
    show (m.tours t).filter _ = _
    rw [htour, Option.filter_some, if_pos]
    exact decide_eq_true fun h => howner (congrArg some h.symm)
  | iterate database fillCache snapshot place =>
    cases given with
    | none => rfl
    | some u => exact tours_walk_of_ne (fun h => hgiven rfl (congrArg some h)) _
  | seek u | first u | last u | next u | prev u | freeIterator u =>
    exact tours_walk_of_ne (fun h => htarget (congrArg some h)) _
  | openPath | openMemory | snapshot | createBatch => cases given <;> rfl
  | _ => rfl

theorem batches_done (htarget : call.target? ≠ some t)
    (hgiven : call.kind? = some .batch → given ≠ some t) :
    (m.done found call given).batches t = m.batches t := by
  cases call with
  | createBatch place =>
    cases given with
    | none => rfl
    | some u => exact batches_keep_of_ne (fun h => hgiven rfl (congrArg some h)) _
  | batchPut u | batchDelete u | clearBatch u | freeBatch u =>
    exact batches_keep_of_ne (fun h => htarget (congrArg some h)) _
  | openPath | openMemory | iterate | snapshot => cases given <;> rfl
  | _ => rfl

/-! ## Tours that have not failed -/

/-- No tour of the mirror has failed. -/
def Sound (m : Mirror) : Prop :=
  ∀ t tour, m.tours t = some tour → tour.thing.cursor.status true = .ok ()

theorem sound_empty : empty.Sound := by
  intro t tour htour
  simp [empty] at htour

theorem Sound.walk (h : m.Sound) {tour? : Option (Child Tour)}
    (htour : ∀ tour, tour? = some tour → tour.thing.cursor.status true = .ok ()) :
    (m.walk t tour?).Sound := by
  intro u tour hu
  change Function.update m.tours t tour? u = some tour at hu
  rw [Function.update_apply] at hu
  split at hu
  · exact htour tour hu
  · exact h u tour hu

theorem Sound.advance (h : m.Sound) (t : Token) (move : Move) : (m.advance t move).Sound := by
  refine h.walk fun tour htour => ?_
  obtain ⟨old, hold, rfl⟩ := Option.map_eq_some_iff.mp htour
  exact Tour.status_move (h t old hold) move

theorem Sound.done (h : m.Sound) : (m.done found call given).Sound := by
  cases call with
  | close u =>
    intro t tour htour
    exact h t tour (Option.filter_eq_some_iff.mp htour).1
  | iterate database fillCache snapshot place =>
    cases given with
    | none => exact h
    | some u =>
      refine h.walk fun tour htour => ?_
      obtain ⟨k, _, rfl⟩ := Option.map_eq_some_iff.mp htour
      rfl
  | seek u | first u | last u | next u | prev u => exact h.advance u _
  | freeIterator u => exact h.walk fun tour htour => by simp at htour
  | openPath | openMemory | snapshot | createBatch => cases given <;> exact h
  | _ => exact h

theorem Sound.note (h : m.Sound) (found : Keyspace) (call : Call) (reply : Reply) :
    (m.note found call reply).Sound := by
  unfold Mirror.note
  split
  · exact h.done
  · exact h

end Mirror

end OrderedStore
