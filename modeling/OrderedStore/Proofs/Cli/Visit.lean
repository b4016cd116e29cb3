import OrderedStore.Proofs.Cli.Errand
import OrderedStore.Proofs.Store.LifeCycle
import OrderedStore.Proofs.Store.Selection

/-!
# One run of the program

A run of the program with an errand opens the database at its path, does the errand in the
session and ends the session (`visit_eq`).  If the database is there, or the errand makes
it, the run prints what the errand is for and leaves the database at rest with what is to be
kept (`visit_of_admits`).  Otherwise it fails on the files, and adds nothing to them but a lock
file (`visit_of_missing`).
-/

set_option autoImplicit false

namespace OrderedStore

namespace Store

variable {s : Store} {id : SessionId} {text : String} {m : Keyspace} {shelf : Shelf}

/-- A store with one database, whose engine grants what is written and takes its files up
again. -/
structure Hosts (s : Store) (text : String) (shelf : Shelf) : Prop where
  same : s.Matches text shelf
  reopens : s.verdicts.Reopens
  grants : s.verdicts.GrantsWrites

theorem hosts_of_rests {v : Volume} {kept : Option Keyspace} (h : v.Rests text kept) :
    (ofVolume v).Hosts text ⟨none, kept⟩ :=
  ⟨matches_of_rests h, Verdicts.reopens_granting, Verdicts.grantsWrites_granting⟩

namespace Hosts

theorem perform (h : s.Hosts text shelf) {action : Action}
    (hat : action.path?.all (· = text) = true) (hverdicts : action.verdicts? = none) :
    (s.perform action).1.Hosts text (shelf.note action (s.perform action).2) := by
  have hsame : (s.perform action).1.verdicts = s.verdicts := by
    rw [verdicts_perform, hverdicts, Option.getD_none]
  exact ⟨h.same.perform h.reopens hat, hsame ▸ h.reopens, hsame ▸ h.grants⟩

/-! ## What a session does with the database it has open -/

theorem told (h : s.Hosts text ⟨some id, some m⟩) :
    ∃ c : Chronicle, c.Tells s.volume s.roster ∧ c.committed id = some m := by
  obtain ⟨c, hc⟩ := h.same.tells
  have hcommitted : s.roster.committed? id = some m := (h.same.committed? rfl).1
  exact ⟨c, hc, (hc.committed id).symm.trans hcommitted⟩

theorem get_live (h : s.Hosts text ⟨some id, some m⟩) (key : Bytes) :
    (s.get id none key).2 = .ok (m.get? key) ∧
      (s.get id none key).1.Hosts text ⟨some id, some m⟩ := by
  obtain ⟨c, hc, hm⟩ := h.told
  have hat : (Action.get id none key).path?.all (· = text) = true := rfl
  refine ⟨hc.get_eq hm ?_ key, h.perform hat rfl⟩
  rw [Chronicle.viewFor, hm]
  rfl

theorem commit_live (h : s.Hosts text ⟨some id, some m⟩) (write : Write) :
    (s.commit id write).2 = .ok () ∧
      (s.commit id write).1.Hosts text ⟨some id, some (m.applyAll write.mutations)⟩ := by
  obtain ⟨c, hc, hm⟩ := h.told
  rcases hc.commit_eq hm write with ⟨_, houtcome, htells⟩ | ⟨fault, hrefuses, _⟩
  case inr => exact absurd hrefuses ((h.grants write.mutations).not_refuses fault)
  have hkept := h.same.commit write ⟨_, htells⟩
    (fun outcome =>
      if outcome.isOk then ⟨some id, some (m.applyAll write.mutations)⟩ else ⟨some id, some m⟩)
    (fun _ => rfl) (by simp [Except.isOk, Except.toBool, Shelf.change])
  rw [houtcome] at hkept
  have hsame := verdicts_commit s id write
  exact ⟨houtcome, hkept, hsame ▸ h.reopens, hsame ▸ h.grants⟩

/-- Looking at the database does not change what is kept. -/
theorem perform_looks (h : s.Hosts text ⟨some id, some m⟩) {action : Action}
    (hlooks : action.Looks) (hverdicts : action.verdicts? = none) :
    (s.perform action).1.Hosts text ⟨some id, some m⟩ := by
  have hat : action.path?.all (· = text) = true := by rw [hlooks.path, Option.all_none]
  have hkept := h.perform hat hverdicts
  rw [Shelf.note_of_looks hlooks] at hkept
  exact hkept

theorem run_moves (h : s.Hosts text ⟨some id, some m⟩) (iterator : IteratorId)
    (moves : List Move) :
    (s.run (moves.map (.move iterator))).Hosts text ⟨some id, some m⟩ := by
  induction moves generalizing s with
  | nil => exact h
  | cons mv rest ih => exact ih (h.perform_looks ⟨rfl, rfl, rfl⟩ rfl)

/-- A new iterator shows a session what is in a range. -/
theorem collect_live (h : s.Hosts text ⟨some id, some m⟩) (range : Range) :
    (Cli.collect id range s).2 = .ok (range.pick m) ∧
      (Cli.collect id range s).1.Hosts text ⟨some id, some m⟩ := by
  obtain ⟨c, hc, hm⟩ := h.told
  have hview : c.viewFor id none = some (id, m) := by
    rw [Chronicle.viewFor, hm]
    rfl
  have hopen : (c.committed id).isSome = true := by rw [hm]; rfl
  have hlooks : (Action.iterate id none).Looks := ⟨rfl, rfl, rfl⟩
  obtain ⟨hmade, htells⟩ := hc.iterate_eq hm hview
  have hreads := Store.reads_of_positioned
    (Chronicle.Positioned.made hopen s.iterators.fresh m) htells
  obtain ⟨moves, _, hselects⟩ := hreads.selects range
  have hselect := hreads.select_of_selects hselects
  have hiterated := h.perform_looks hlooks rfl
  simp only [Store.perform] at hiterated
  unfold Cli.collect
  cases hiterate : s.iterate id none with
  | mk s' outcome =>
    rw [hiterate] at hmade hselect hiterated
    obtain rfl : outcome = .ok s.iterators.fresh := hmade
    simp only [hselect]
    have hdrops : (Action.dropIterator s.iterators.fresh).Looks := ⟨rfl, rfl, rfl⟩
    exact ⟨trivial, (hiterated.run_moves s.iterators.fresh moves).perform_looks hdrops rfl⟩

end Hosts

end Store

namespace Cli

variable {v : Volume} {text : String} {kept : Option Keyspace} {invocation : Invocation}
  {errand : Errand}

/-! ## Opening, using and closing -/

/-- Whoever may open a database at rest uses it, and leaves it at rest. -/
theorem withDatabase_of_admits (h : v.Rests text kept) {options : Options}
    (hadmits : options.admits kept.isSome = true) {use : SessionId → Step} {printed : Printed}
    {after : Option Keyspace}
    (huse : ∀ {id : SessionId} {s : Store}, s.Hosts text ⟨some id, some (kept.getD .empty)⟩ →
      (use id s).2 = .ok printed ∧ (use id s).1.Hosts text ⟨some id, after⟩) :
    (withDatabase text options use (.ofVolume v)).2 = .ok printed ∧
      (withDatabase text options use (.ofVolume v)).1.volume.Rests text after := by
  have hhosts := Store.hosts_of_rests h
  obtain ⟨id, hopen⟩ := (hhosts.same.openAt_isOk_iff hhosts.reopens options).mpr ⟨rfl, hadmits⟩
  have hat : (Store.Action.openAt text options).path?.all (· = text) = true := by
    simp [Store.Action.path?]
  have hopened := hhosts.perform hat rfl
  unfold withDatabase
  cases hopenAt : (Store.ofVolume v).openAt text options with
  | mk s outcome =>
    simp only [Store.perform, hopenAt] at hopened
    rw [hopenAt] at hopen
    obtain rfl : outcome = .ok id := hopen
    obtain ⟨hprinted, hused⟩ := huse hopened
    simp only
    cases huses : use id s with
    | mk s' result =>
      rw [huses] at hprinted hused
      obtain rfl : result = .ok printed := hprinted
      have hend : (Store.Action.close id).path?.all (· = text) = true := rfl
      have hclosed := hused.perform hend rfl
      rw [Shelf.note_of_ends rfl, Shelf.leave, if_pos rfl] at hclosed
      exact ⟨rfl, hclosed.same.rests rfl⟩

/-- A database that is not there, and may not be made, cannot be opened. -/
theorem withDatabase_of_missing (h : v.Rests text none) {options : Options}
    (hcreate : options.createIfMissing = false) (use : SessionId → Step) :
    (∃ e, (withDatabase text options use (.ofVolume v)).2 = .error (.database e) ∧
        e.kind = .io) ∧
      (withDatabase text options use (.ofVolume v)).1.volume.Rests text none ∧
      v.AddsLock (withDatabase text options use (.ofVolume v)).1.volume := by
  have hrefuses : options.admits (none : Option Keyspace).isSome = false := hcreate
  obtain ⟨u, e, hopen, hrests, hkind, hadds⟩ := h.openPath_of_refuses hrefuses .granting
  obtain ⟨s, heq, rfl, _⟩ := Store.openAt_of_error (s := .ofVolume v) hopen
  unfold withDatabase
  rw [heq]
  exact ⟨⟨e, rfl, hkind rfl⟩, hrests, hadds⟩

/-! ## Errands -/

namespace Errand

/-- How the database is opened. -/
def options (errand : Errand) : Options := if errand.founds then {} else existing

/-- What is done in the session. -/
def use (codec : Codec) (id : SessionId) (errand : Errand) : Step := fun s =>
  match errand with
  | .get key => thenPrint (s.get id none key) (printValue codec)
  | .put key value sync => thenPrint (s.put id key value sync) fun _ => .nothing
  | .delete key sync => thenPrint (s.delete id key sync) fun _ => .nothing
  | .scan range format =>
    thenPrint (collect id range s) fun entries => printEntries codec entries format

theorem thenPrint_of_ok {α : Type} {result : Store × Except Error α} {a : α}
    (h : result.2 = .ok a) (print : α → Printed) :
    thenPrint result print = (result.1, .ok (print a)) := by
  unfold thenPrint
  rw [h]
  rfl

theorem use_live {s : Store} {id : SessionId} {m : Keyspace}
    (h : s.Hosts text ⟨some id, some m⟩) (codec : Codec) (errand : Errand) :
    (errand.use codec id s).2 = .ok (errand.print codec m) ∧
      (errand.use codec id s).1.Hosts text ⟨some id, errand.update (some m)⟩ := by
  cases errand with
  | get key =>
    obtain ⟨houtcome, hhosts⟩ := h.get_live key
    rw [use, thenPrint_of_ok houtcome]
    exact ⟨rfl, hhosts⟩
  | put key value sync =>
    obtain ⟨houtcome, hhosts⟩ := h.commit_live ⟨[.put key value], sync⟩
    have hput : (s.put id key value sync).2 = .ok () := houtcome
    rw [use, thenPrint_of_ok hput]
    exact ⟨rfl, hhosts⟩
  | delete key sync =>
    obtain ⟨houtcome, hhosts⟩ := h.commit_live ⟨[.delete key], sync⟩
    have hdelete : (s.delete id key sync).2 = .ok () := houtcome
    rw [use, thenPrint_of_ok hdelete]
    exact ⟨rfl, hhosts⟩
  | scan range format =>
    obtain ⟨houtcome, hhosts⟩ := h.collect_live range
    rw [use, thenPrint_of_ok houtcome]
    exact ⟨rfl, hhosts⟩

end Errand

/-- What a run of the program does to a file system, and what it comes to.  Nothing else goes
from one run to the next. -/
def visit (invocation : Invocation) (v : Volume) : Volume × Except Complaint Printed :=
  ((perform invocation (.ofVolume v)).1.volume, (perform invocation (.ofVolume v)).2)

theorem run_of_parse {words : List String} (h : parse words = .ok invocation) (v : Volume) :
    run v words = ((visit invocation v).1, endingOf (visit invocation v).2) := by
  unfold run
  rw [h]
  rfl

/-- A run of the program with an errand. -/
theorem visit_eq (hpath : invocation.path = some text) (herrand : invocation.errand? = some errand)
    (v : Volume) :
    visit invocation v =
      ((withDatabase text errand.options (fun id => errand.use invocation.codec id)
          (.ofVolume v)).1.volume,
        (withDatabase text errand.options (fun id => errand.use invocation.codec id)
          (.ofVolume v)).2) := by
  obtain ⟨path, verbose, base64, command⟩ := invocation
  obtain rfl : path = some text := hpath
  unfold Invocation.errand? Invocation.codec at herrand
  unfold visit perform Invocation.codec
  simp only at herrand ⊢
  cases command with
  | get key =>
    obtain ⟨k, hkey, rfl⟩ := Command.get_of_errand? herrand
    simp only [withPath, get, hkey]
    rfl
  | put key value sync =>
    obtain ⟨k, w, hkey, hvalue, rfl⟩ := Command.put_of_errand? herrand
    simp only [withPath, put, hkey, hvalue]
    rfl
  | delete key sync =>
    obtain ⟨k, hkey, rfl⟩ := Command.delete_of_errand? herrand
    simp only [withPath, delete, hkey]
    rfl
  | scan start limit reverse format =>
    obtain ⟨first, hstart, rfl⟩ := Command.scan_of_errand? herrand
    simp only [withPath, scan, hstart]
    rfl
  | _ => simp [Command.errand?] at herrand

/-- Is there a database when the errand is done? -/
theorem Errand.isSome_update (kept : Option Keyspace) (errand : Errand) :
    (errand.update kept).isSome = errand.options.admits kept.isSome := by
  cases errand <;> cases kept <;> rfl

/-- A database that has just been made holds nothing before the errand. -/
theorem Errand.update_getD (hthere : (errand.update kept).isSome = true) :
    errand.update (some (kept.getD .empty)) = errand.update kept := by
  cases kept with
  | some m => rfl
  | none =>
    cases errand with
    | put key value sync => rfl
    | _ => exact absurd hthere Bool.false_ne_true

/-- An errand is done where there is a database, or where it makes one. -/
theorem visit_of_admits (h : v.Rests text kept) (hpath : invocation.path = some text)
    (herrand : invocation.errand? = some errand)
    (hthere : (errand.update kept).isSome = true) :
    (visit invocation v).2 = .ok (errand.print invocation.codec (kept.getD .empty)) ∧
      (visit invocation v).1.Rests text (errand.update kept) := by
  rw [visit_eq hpath herrand, ← Errand.update_getD hthere]
  rw [Errand.isSome_update] at hthere
  exact withDatabase_of_admits h hthere fun hopened => Errand.use_live hopened _ errand

/-- It fails where there is none, and none comes about. -/
theorem visit_of_missing (h : v.Rests text none) (hpath : invocation.path = some text)
    (herrand : invocation.errand? = some errand) (hgone : errand.founds = false) :
    (∃ e, (visit invocation v).2 = .error (.database e) ∧ e.kind = .io) ∧
      (visit invocation v).1.Rests text none ∧ v.AddsLock (visit invocation v).1 := by
  have hexisting : errand.options = existing := by rw [Errand.options, hgone]; rfl
  rw [visit_eq hpath herrand, hexisting]
  exact withDatabase_of_missing h rfl _

/-- Whatever a run of the program comes to, the database is at rest again. -/
theorem rests_visit (h : v.Rests text kept) (hpath : invocation.path = some text)
    (herrand : invocation.errand? = some errand) :
    (visit invocation v).1.Rests text (errand.update kept) := by
  cases hthere : (errand.update kept).isSome with
  | true => exact (visit_of_admits h hpath herrand hthere).2
  | false =>
    have hgone := Option.not_isSome_iff_eq_none.mp (Bool.eq_false_iff.mp hthere)
    rw [hgone]
    cases kept with
    | some m => cases errand <;> exact absurd hgone (Option.some_ne_none _)
    | none =>
      cases errand with
      | put key value sync => exact absurd hgone (Option.some_ne_none _)
      | _ => exact (visit_of_missing h hpath herrand rfl).2.1

end Cli

end OrderedStore
