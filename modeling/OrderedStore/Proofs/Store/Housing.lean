import OrderedStore.Proofs.Store.Opening
import OrderedStore.Proofs.Store.Tenant

/-!
# The files of open sessions

A volume shelters its tenants if the files of each are held under a lock, no file is held by
two of them, and the names in the directory of each lead to its files.  Every action of a
store keeps that up (`shelters_perform`), the destruction of databases included: it gets at
names only in a directory whose lock is free, and such a directory is no tenant's.

It does not matter here what is in the files, so others may write to them.
-/

set_option autoImplicit false

namespace OrderedStore

/-- The files that a session on the disk holds under a lock. -/
def Home.files (home : Home) : List FileId := [home.directory.lock, home.data]

theorem Engine.files_eq {engine : Engine} {home : Home} (h : engine.home = some home) :
    engine.files = home.files := by
  unfold Engine.files
  rw [h]
  rfl

namespace Volume

variable {v v' w : Volume} {home : Home} {p q : Path} {text : String}

/-! ## One session -/

/-- The names of a database on the disk lead to the files of a session.  Its path does so
as well, for sure where it takes no step back. -/
structure Houses (v : Volume) (home : Home) (p : Path) : Prop where
  check : checkText home.directory.text = .ok ()
  fits : checkText (Directory.dataPath home.directory.text) = .ok ()
  place : p = (names home.directory.text).foldl comeTo (v.start home.directory.text)
  lock : v.node? (p ++ ["LOCK"]) = some (.file home.directory.lock)
  data : v.node? (p ++ ["data.redb"]) = some (.file home.data)
  straight : ".." ∉ names home.directory.text → v.Leads home.directory.text p

/-- The place of a database is settled by its path. -/
theorem Houses.leads (h : v.Houses home p)
    (hleads : v.leadsToDirectory home.directory.text = true) :
    v.Leads home.directory.text p := by
  obtain ⟨_, q, hq⟩ := leadsToDirectory_iff.mp hleads
  rw [h.place, ← hq.eq_foldl]
  exact hq

theorem Houses.leadsToDirectory (h : v.Houses home p)
    (hdots : ".." ∉ names home.directory.text) :
    v.leadsToDirectory home.directory.text = true :=
  leadsToDirectory_iff.mpr ⟨h.check, p, h.straight hdots⟩

/-- Directories and the two files are all that it takes. -/
theorem Houses.keep (h : v.Houses home p) (hkeeps : v.KeepsDirectories v')
    (hlock : v'.node? (p ++ ["LOCK"]) = some (.file home.directory.lock))
    (hdata : v'.node? (p ++ ["data.redb"]) = some (.file home.data)) : v'.Houses home p where
  check := h.check
  fits := h.fits
  place := by
    rw [hkeeps.start_eq]
    exact h.place
  lock := hlock
  data := hdata
  straight hdots := (h.straight hdots).mono hkeeps

theorem Houses.mono (h : v.Houses home p) (hextends : v.Extends v') : v'.Houses home p :=
  h.keep hextends.keepsDirectories (hextends.node h.lock) (hextends.node h.data)

theorem Houses.thins (h : v.Houses home p) (hthins : v.Thins v' q) (hne : p ≠ q) :
    v'.Houses home p := by
  refine h.keep hthins.keeps (hthins.file h.lock ?_ ?_) (hthins.file h.data ?_ ?_)
  · exact fun heq => hne (List.append_inj_left' heq rfl)
  · exact fun heq => absurd (List.append_inj_right' heq rfl) (by decide)
  · exact fun heq => absurd (List.append_inj_right' heq rfl) (by decide)
  · exact fun heq => hne (List.append_inj_left' heq rfl)

/-- An empty directory is none that the session needs. -/
theorem Houses.unlink (h : v.Houses home p) (hnode : v.node? q = some .directory)
    (hchild : v.hasChild q = false) (hne : q ≠ []) : (v.unlink q).Houses home p where
  check := h.check
  fits := h.fits
  place := h.place
  lock := by
    rw [node?_unlink v q hne, if_neg]
    · exact h.lock
    · rintro rfl
      simp [h.lock] at hnode
  data := by
    rw [node?_unlink v q hne, if_neg]
    · exact h.data
    · rintro rfl
      simp [h.data] at hnode
  straight hdots :=
    walk_unlink (h.straight hdots) hdots (hasChild_of_node? h.lock) hchild hne

/-- Destroying any database leaves the names of one that is held. -/
theorem Houses.destroy (h : v.Houses home p) (hheld : v.isLocked home.directory.lock = true)
    (text : String) : (Directory.destroy v text).1.Houses home p := by
  rcases Directory.thinned_destroy v text with hextends | ⟨q, w, _, hfree, hthins, hend⟩
  · exact h.mono hextends
  · have hne : p ≠ q := by
      rintro rfl
      rw [hfree _ h.lock] at hheld
      exact Bool.false_ne_true hheld
    have hthinned := h.thins hthins hne
    rcases hend with heq | ⟨hq, hnode, hchild, heq⟩
    · rw [heq]
      exact hthinned
    · rw [heq]
      exact hthinned.unlink hnode hchild hq

/-! ## All sessions -/

/-- Every tenant holds its files, alone, and under their names. -/
structure Shelters (v : Volume) (tenants : SessionId → Option (Home × Keyspace)) : Prop where
  wellFormed : v.WellFormed
  locked : ∀ {id : SessionId} {home : Home} {m : Keyspace} {file : FileId},
    tenants id = some (home, m) → file ∈ home.files → v.isLocked file = true
  nodup : ∀ {id : SessionId} {home : Home} {m : Keyspace},
    tenants id = some (home, m) → home.files.Nodup
  apart : ∀ {id id' : SessionId} {home home' : Home} {m m' : Keyspace} {file : FileId},
    tenants id = some (home, m) → tenants id' = some (home', m') → file ∈ home.files →
    file ∈ home'.files → id = id'
  houses : ∀ {id : SessionId} {home : Home} {m : Keyspace},
    tenants id = some (home, m) → ∃ p, v.Houses home p

namespace Shelters

variable {tenants tenants' : SessionId → Option (Home × Keyspace)} {id : SessionId}

/-- Tenants go on where their files stay locked and their names stay. -/
theorem keep (h : v.Shelters tenants) (hwell : v'.WellFormed)
    (hlocked : ∀ {file : FileId}, v.isLocked file = true → v'.isLocked file = true)
    (hhouses : ∀ {home : Home} {p : Path}, v.isLocked home.directory.lock = true →
      v.Houses home p → v'.Houses home p)
    (htenants : ∀ {id : SessionId} {home : Home} {m' : Keyspace},
      tenants' id = some (home, m') → ∃ m, tenants id = some (home, m)) : v'.Shelters tenants' where
  wellFormed := hwell
  locked hid hmem := by
    obtain ⟨m, hold⟩ := htenants hid
    exact hlocked (h.locked hold hmem)
  nodup hid := by
    obtain ⟨m, hold⟩ := htenants hid
    exact h.nodup hold
  apart hid hid' := by
    obtain ⟨m, hold⟩ := htenants hid
    obtain ⟨m', hold'⟩ := htenants hid'
    exact h.apart hold hold'
  houses hid := by
    obtain ⟨m, hold⟩ := htenants hid
    obtain ⟨p, hp⟩ := h.houses hold
    exact ⟨p, hhouses (h.locked hold List.mem_cons_self) hp⟩

theorem of_spares (h : v.Shelters tenants) (hspares : v.Spares v') (hextends : v.Extends v')
    (htenants : ∀ id, tenants' id = tenants id) : v'.Shelters tenants' :=
  h.keep hspares.wellFormed (fun hfile => (hspares.held hfile).1)
    (fun _ hhouses => hhouses.mono hextends) fun {id _ m'} hid => ⟨m', (htenants id) ▸ hid⟩

theorem setContents (h : v.Shelters tenants) (file : FileId) (c : Contents)
    (htenants : ∀ {id : SessionId} {home : Home} {m' : Keyspace},
      tenants' id = some (home, m') → ∃ m, tenants id = some (home, m)) :
    (v.setContents file c).Shelters tenants' :=
  h.keep (h.wellFormed.setContents file c)
    (fun hlocked => (isLocked_setContents v file _ c).trans hlocked)
    (fun _ hhouses => hhouses.mono (extends_setContents v file c)) htenants

theorem destroy (h : v.Shelters tenants) (text : String) :
    (Directory.destroy v text).1.Shelters tenants :=
  have hspares := Directory.spares_destroy h.wellFormed text
  h.keep hspares.wellFormed (fun hfile => (hspares.held hfile).1)
    (fun hheld hhouses => hhouses.destroy hheld text) fun hid => ⟨_, hid⟩

/-- A new tenant, with files that nobody held before. -/
theorem add (h : v.Shelters tenants) (id : SessionId) {home : Home} {m : Keyspace}
    (hspares : v.Spares v') (hextends : v.Extends v')
    (hlocked : ∀ {file : FileId}, file ∈ home.files → v'.isLocked file = true)
    (hnodup : home.files.Nodup)
    (hfree : ∀ {file : FileId}, file ∈ home.files → v.isLocked file = false)
    (hhouses : v'.Houses home p)
    (htenants : ∀ id', tenants' id' = if id' = id then some (home, m) else tenants id') :
    v'.Shelters tenants' := by
  have hcases : ∀ {id' : SessionId} {home' : Home} {m' : Keyspace},
      tenants' id' = some (home', m') →
        id' = id ∧ home' = home ∨ id' ≠ id ∧ tenants id' = some (home', m') := by
    intro id' home' m' hid
    rw [htenants] at hid
    split at hid
    · rename_i heq
      exact Or.inl ⟨heq, (Prod.mk.inj (Option.some.inj hid)).1.symm⟩
    · rename_i hne
      exact Or.inr ⟨hne, hid⟩
  have hcross : ∀ {id' : SessionId} {home' : Home} {m' : Keyspace} {file : FileId},
      tenants id' = some (home', m') → file ∈ home.files → file ∉ home'.files := by
    intro id' home' m' file hid hmem hmem'
    have hheld := h.locked hid hmem'
    rw [hfree hmem] at hheld
    exact Bool.false_ne_true hheld
  refine ⟨hspares.wellFormed, ?_, ?_, ?_, ?_⟩
  · intro id' home' m' file hid hmem
    rcases hcases hid with ⟨_, rfl⟩ | ⟨_, hold⟩
    · exact hlocked hmem
    · exact (hspares.held (h.locked hold hmem)).1
  · intro id' home' m' hid
    rcases hcases hid with ⟨_, rfl⟩ | ⟨_, hold⟩
    · exact hnodup
    · exact h.nodup hold
  · intro id₁ id₂ home₁ home₂ m₁ m₂ file h₁ h₂ hmem₁ hmem₂
    rcases hcases h₁ with ⟨heq₁, rfl⟩ | ⟨_, hold₁⟩ <;>
      rcases hcases h₂ with ⟨heq₂, hhome₂⟩ | ⟨_, hold₂⟩
    · rw [heq₁, heq₂]
    · exact absurd hmem₂ (hcross hold₂ hmem₁)
    · exact absurd hmem₁ (hcross hold₁ (hhome₂ ▸ hmem₂))
    · exact h.apart hold₁ hold₂ hmem₁ hmem₂
  · intro id' home' m' hid
    rcases hcases hid with ⟨_, rfl⟩ | ⟨_, hold⟩
    · exact ⟨_, hhouses⟩
    · obtain ⟨q, hq⟩ := h.houses hold
      exact ⟨q, hq.mono hextends⟩

/-- A tenant that goes lets go of its own files alone. -/
theorem release (h : v.Shelters tenants) (id : SessionId) {engine : Engine}
    (hid : tenants id = engine.home.map fun home => (home, engine.latest))
    (htenants : ∀ id', tenants' id' = if id' = id then none else tenants id') :
    (engine.release v).Shelters tenants' := by
  have hother : ∀ {id' : SessionId} {home' : Home} {m' : Keyspace},
      tenants' id' = some (home', m') → id' ≠ id ∧ tenants id' = some (home', m') := by
    intro id' home' m' hsome
    rw [htenants] at hsome
    split at hsome
    · simp at hsome
    · rename_i hne
      exact ⟨hne, hsome⟩
  have hextends := Engine.extends_release engine v
  refine ⟨?_, ?_, fun hsome => h.nodup (hother hsome).2,
    fun h₁ h₂ => h.apart (hother h₁).2 (hother h₂).2, ?_⟩
  · unfold Engine.release
    split
    · exact h.wellFormed
    · exact (h.wellFormed.setLocked _ _).setLocked _ _
  · intro id' home' m' file hsome hmem
    obtain ⟨hne, hold⟩ := hother hsome
    have hlocked := h.locked hold hmem
    unfold Engine.release
    split
    · exact hlocked
    · rename_i home hhome
      rw [hhome] at hid
      have hnot : file ∉ home.files := fun hmem' => hne (h.apart hold hid hmem hmem')
      have hnotLock : file ≠ home.directory.lock := fun heq => hnot (heq ▸ List.mem_cons_self)
      have hnotData : file ≠ home.data :=
        fun heq => hnot (heq ▸ List.mem_cons_of_mem _ List.mem_cons_self)
      rw [Directory.release, isLocked_setLocked_of_ne _ _ hnotLock,
        isLocked_setLocked_of_ne _ _ hnotData]
      exact hlocked
  · intro id' home' m' hsome
    obtain ⟨q, hq⟩ := h.houses (hother hsome).2
    exact ⟨q, hq.mono hextends⟩

end Shelters

end Volume

/-! ## Actions -/

namespace Store

open Volume

variable {s : Store}

theorem shelters_ofVolume {v : Volume} (h : v.WellFormed) :
    v.Shelters (ofVolume v).roster.tenant? := by
  have hnone : ∀ id, (ofVolume v).roster.tenant? id = none := fun _ => rfl
  refine ⟨h, ?_, ?_, ?_, ?_⟩ <;> simp [hnone]

theorem shelters_openAt (h : s.volume.Shelters s.roster.tenant?) (path : String)
    (options : Options) :
    (s.openAt path options).1.volume.Shelters (s.openAt path options).1.roster.tenant? := by
  have hextends := Engine.extends_openPath s.volume path options s.verdicts
  cases hopen : Engine.openPath s.volume path options s.verdicts with
  | mk v outcome =>
    rw [hopen] at hextends
    cases outcome with
    | error e =>
      obtain ⟨s', heq, rfl, hroster⟩ := openAt_of_error hopen
      rcases openAt_spec s path options with ⟨_, _, hok, _⟩ | ⟨t, e', herror, hfailed⟩
      · rw [heq] at hok
        simp at hok
      · rw [heq] at herror
        obtain rfl := (Prod.mk.inj herror).1
        rw [heq, hroster]
        exact h.of_spares (hfailed.spares h.wellFormed) hextends
          (Roster.ages_skipSession s.roster).tenant
    | ok engine =>
      obtain ⟨s', logger, heq, rfl, hroster⟩ := openAt_of_ok hopen
      obtain ⟨hfits, lock, data, p, hhome, hleads, hlock, hdata⟩ :=
        Engine.home_of_openPath hopen
      rcases openAt_spec s path options with ⟨t, opened, hok, hopened⟩ | ⟨_, _, herror, _⟩
      · rw [heq] at hok
        obtain rfl := (Prod.mk.inj hok).1
        -- Both descriptions of the new session are of one engine.
        have hengine : opened = engine := by
          obtain ⟨logger', options', hroster'⟩ := hopened.roster
          have hsame := congrArg (Roster.engine? · s.sessions.fresh) (hroster.symm.trans hroster')
          have hfresh : s.sessions.fresh = s.roster.sessions.fresh := rfl
          simp only [Roster.engine?_openSession] at hsame
          rw [if_pos hfresh, if_pos hfresh] at hsame
          exact (Option.some.inj hsame).symm
        rw [hengine] at hopened
        have hfiles := Engine.files_eq hhome
        have hsits := hopened.sits h.wellFormed
        rw [heq, hroster]
        refine h.add s.sessions.fresh (m := engine.latest) (hopened.spares h.wellFormed)
          hextends (fun hmem => hsits.locked (hfiles ▸ hmem)) (hfiles ▸ hsits.nodup)
          (fun hmem => hopened.free h.wellFormed _ (hfiles ▸ hmem))
          ⟨Engine.checkText_of_openPath hopen, hfits, hleads.eq_foldl, hlock, hdata,
            fun _ => hleads⟩ fun id => ?_
        rw [Roster.tenant?_openSession, hhome]
        rfl
      · rw [heq] at herror
        simp at herror

theorem shelters_commit (h : s.volume.Shelters s.roster.tenant?) (id : SessionId)
    (write : Write) :
    (s.commit id write).1.volume.Shelters (s.commit id write).1.roster.tenant? := by
  cases hsession : s.sessions.get? id with
  | none =>
    rw [commit_of_closed hsession]
    exact h
  | some session =>
    obtain ⟨hroster, hvolume, _⟩ := commit_of_open hsession write
    have hengine : s.roster.engine? id = some session.engine := by
      show (s.sessions.get? id).map Session.engine = _
      rw [hsession]
      rfl
    have hhome := Engine.home_commit s.volume session.engine write.mutations s.verdicts
    have htenants : ∀ {id' : SessionId} {home : Home} {m' : Keyspace},
        (s.commit id write).1.roster.tenant? id' = some (home, m') →
          ∃ m, s.roster.tenant? id' = some (home, m) := by
      intro id' home m' hid
      rw [hroster] at hid
      obtain ⟨engine, hengine', hhome', rfl⟩ := Roster.tenant?_eq_some_iff.mp hid
      rw [Roster.engine?_modifyEngine] at hengine'
      split at hengine'
      · rename_i heq
        rw [hengine] at hengine'
        obtain rfl := Option.some.inj hengine'
        rw [hhome] at hhome'
        rw [heq]
        exact ⟨_, Roster.tenant?_eq_some_iff.mpr ⟨_, hengine, hhome', rfl⟩⟩
      · exact ⟨_, Roster.tenant?_eq_some_iff.mpr ⟨_, hengine', hhome', rfl⟩⟩
    have hstay : s.volume.Shelters (s.commit id write).1.roster.tenant? :=
      h.keep h.wellFormed (fun hlocked => hlocked) (fun _ hhouses => hhouses) htenants
    rw [hvolume]
    rcases Engine.volume_commit s.volume session.engine write.mutations s.verdicts with
      heq | ⟨file, c, heq⟩
    · rw [heq]
      exact hstay
    · rw [heq]
      exact h.setContents file c htenants

/-- Every action leaves the tenants their files. -/
theorem shelters_perform (hcoherent : s.roster.Coherent)
    (h : s.volume.Shelters s.roster.tenant?) (action : Action) :
    (s.perform action).1.volume.Shelters (s.perform action).1.roster.tenant? := by
  cases deed hcoherent action with
  | opens path options => exact shelters_openAt h path options
  | ends id _ hroster hvolume =>
    have htenants : ∀ id', (s.perform action).1.roster.tenant? id' =
        if id' = id then none else s.roster.tenant? id' := by
      intro id'
      rw [hroster]
      exact Roster.tenant?_endSession id id'
    rw [hvolume]
    cases hsession : s.sessions.get? id with
    | none =>
      have hnone : s.roster.tenant? id = none := by
        unfold Roster.tenant? Roster.engine? Store.roster
        rw [hsession]
        rfl
      refine h.keep h.wellFormed (fun hlocked => hlocked) (fun _ hhouses => hhouses) ?_
      intro id' home m hid
      rw [htenants] at hid
      split at hid
      · simp at hid
      · exact ⟨m, hid⟩
    | some session =>
      refine h.release id ?_ htenants
      unfold Roster.tenant? Roster.engine? Store.roster
      rw [hsession]
      rfl
  | commits id write _ heq =>
    rw [heq]
    exact shelters_commit h id write
  | destroys path =>
    obtain ⟨hroster, hvolume, _⟩ := destroy_spec s path
    show (s.destroy path).1.volume.Shelters (s.destroy path).1.roster.tenant?
    rw [hroster, hvolume]
    exact h.destroy path
  | repairs path =>
    obtain ⟨hroster, _, hspares⟩ := repair_spec s path
    have hextends := Engine.extends_checkPath s.volume path s.verdicts
    rw [← (repair_eq s path).1] at hextends
    show (s.repair path).1.volume.Shelters (s.repair path).1.roster.tenant?
    rw [hroster]
    exact h.of_spares (hspares h.wellFormed) hextends
      (Roster.ages_skipSession s.roster).tenant
  | looks _ hages hvolume =>
    rw [hvolume]
    exact h.keep h.wellFormed (fun hlocked => hlocked) (fun _ hhouses => hhouses)
      fun {id _ m'} hid => ⟨m', (hages.tenant id).symm.trans hid⟩

end Store

end OrderedStore
