import OrderedStore.Directory
import OrderedStore.Proofs.Table

/-!
# Files that are held under a lock

A volume spares the held files of an earlier one if every file that was locked then is
locked still and has the same contents.  Nothing that is done to names touches a file,
and a lock is only ever taken where there is none; so acquiring a directory and
destroying a database spare what others hold, whether they succeed or fail.
-/

set_option autoImplicit false

namespace OrderedStore

namespace Volume

variable {v v' w : Volume}

/-! ## One file -/

theorem contents_setContents (v : Volume) (id id' : FileId) (c : Contents) :
    (v.setContents id c).contents id' =
      if id' = id ∧ (v.files.get? id).isSome then c else v.contents id' := by
  unfold contents setContents
  rw [Table.get?_modify]
  by_cases h : id' = id
  · subst h
    cases v.files.get? id' <;> simp
  · simp [h]

/-- What is written last stays. -/
theorem setContents_setContents (v : Volume) (id : FileId) (c c' : Contents) :
    (v.setContents id c).setContents id c' = v.setContents id c' := by
  unfold setContents
  rw [Table.modify_modify]

/-- What is written last stays, also if the file has been locked in between. -/
theorem setContents_setLocked_setContents (v : Volume) (id : FileId) (c c' : Contents)
    (locked : Bool) :
    ((v.setContents id c).setLocked id locked).setContents id c' =
      (v.setContents id c').setLocked id locked := by
  unfold setContents setLocked
  simp only [Table.modify_modify]

theorem isLocked_setContents (v : Volume) (id id' : FileId) (c : Contents) :
    (v.setContents id c).isLocked id' = v.isLocked id' := by
  unfold isLocked setContents
  rw [Table.get?_modify]
  split
  · rw [Option.map_map]
    rfl
  · rfl

theorem contents_setLocked (v : Volume) (id id' : FileId) (locked : Bool) :
    (v.setLocked id locked).contents id' = v.contents id' := by
  unfold contents setLocked
  rw [Table.get?_modify]
  split
  · rw [Option.map_map]
    rfl
  · rfl

theorem isLocked_setLocked (v : Volume) (id id' : FileId) (locked : Bool) :
    (v.setLocked id locked).isLocked id' =
      if id' = id then (v.files.get? id).isSome && locked else v.isLocked id' := by
  unfold isLocked setLocked
  rw [Table.get?_modify]
  split
  · rename_i h
    subst h
    cases v.files.get? id' <;> simp
  · rfl

theorem isLocked_setLocked_of_ne (v : Volume) {id id' : FileId} (locked : Bool) (h : id' ≠ id) :
    (v.setLocked id locked).isLocked id' = v.isLocked id' := by
  rw [isLocked_setLocked, if_neg h]

theorem isSome_of_isLocked {id : FileId} (h : v.isLocked id = true) :
    (v.files.get? id).isSome = true := by
  unfold isLocked at h
  cases hget : v.files.get? id with
  | none => simp [hget] at h
  | some file => rfl

theorem isLocked_addFile (v : Volume) (path : Path) :
    (v.addFile path).1.isLocked (v.addFile path).2 = false := by
  show (((v.files.insert _).get? v.files.fresh).map File.locked).getD false = false
  rw [Table.get?_insert_fresh]
  rfl

theorem contents_addFile (v : Volume) (path : Path) :
    (v.addFile path).1.contents (v.addFile path).2 = .raw [] := by
  show (((v.files.insert _).get? v.files.fresh).map File.contents).getD (.raw []) = .raw []
  rw [Table.get?_insert_fresh]
  rfl

theorem isLocked_addFile_of_ne (v : Volume) (path : Path) {id : FileId} (h : id ≠ v.files.fresh) :
    (v.addFile path).1.isLocked id = v.isLocked id := by
  show (((v.files.insert _).get? id).map File.locked).getD false = v.isLocked id
  rw [Table.get?_insert_of_ne _ _ h]
  rfl

theorem contents_addFile_of_ne (v : Volume) (path : Path) {id : FileId} (h : id ≠ v.files.fresh) :
    (v.addFile path).1.contents id = v.contents id := by
  show (((v.files.insert _).get? id).map File.contents).getD (.raw []) = v.contents id
  rw [Table.get?_insert_of_ne _ _ h]
  rfl

/-! ## Well-formed volumes -/

/-- Files have identities of their own, and no name leads to a file that is not there. -/
structure WellFormed (v : Volume) : Prop where
  files : v.files.WellFormed
  present : ∀ {path : Path} {id : FileId}, (path, Node.file id) ∈ v.nodes →
    (v.files.get? id).isSome = true

theorem wellFormed_empty : empty.WellFormed where
  files := Table.wellFormed_empty
  present hmem := absurd hmem List.not_mem_nil

theorem mem_nodes_of_node? {path : Path} {id : FileId} (h : v.node? path = some (.file id)) :
    (path, Node.file id) ∈ v.nodes := by
  unfold node? at h
  split at h
  · simp at h
  · obtain ⟨⟨found, node⟩, hfind, rfl⟩ := Option.map_eq_some_iff.mp h
    have hpath := List.find?_some hfind
    simp only [decide_eq_true_eq] at hpath
    rw [← hpath]
    exact List.mem_of_find?_eq_some hfind

theorem isSome_modify_files (v : Volume) (id id' : FileId) (f : File → File) :
    ((v.files.modify id f).get? id').isSome = (v.files.get? id').isSome := by
  rw [Table.get?_modify]
  split
  · rw [Option.isSome_map]
  · rfl

theorem WellFormed.setContents (h : v.WellFormed) (id : FileId) (c : Contents) :
    (v.setContents id c).WellFormed where
  files := h.files.modify id fun file => { file with contents := c }
  present hmem := (isSome_modify_files v id _ _).trans (h.present hmem)

theorem WellFormed.setLocked (h : v.WellFormed) (id : FileId) (locked : Bool) :
    (v.setLocked id locked).WellFormed where
  files := h.files.modify id fun file => { file with locked := locked }
  present hmem := (isSome_modify_files v id _ _).trans (h.present hmem)

theorem WellFormed.addFile (h : v.WellFormed) (path : Path) : (v.addFile path).1.WellFormed where
  files := h.files.insert _
  present {path' id} hmem := by
    show ((v.files.insert _).get? id).isSome = true
    rw [Table.get?_insert]
    split
    · rfl
    · rename_i hne
      rcases List.mem_cons.mp hmem with heq | hmem
      · exact absurd (Node.file.inj (Prod.mk.inj heq).2) hne
      · exact h.present hmem

/-- A new file is none that a name leads to. -/
theorem WellFormed.ne_fresh_of_node? (h : v.WellFormed) {path : Path} {id : FileId}
    (hnode : v.node? path = some (.file id)) : id ≠ v.files.fresh := by
  obtain ⟨file, hfile⟩ := Option.isSome_iff_exists.mp (h.present (mem_nodes_of_node? hnode))
  exact h.files.ne_fresh hfile

/-! ## Names -/

/-- The files are the same, and no name leads to another file than before. -/
structure Renames (v v' : Volume) : Prop where
  files : v'.files = v.files
  nodes : ∀ {path : Path} {id : FileId}, (path, Node.file id) ∈ v'.nodes →
    (path, Node.file id) ∈ v.nodes

theorem Renames.refl (v : Volume) : v.Renames v := ⟨rfl, id⟩

theorem Renames.trans (h : v.Renames v') (h' : v'.Renames w) : v.Renames w :=
  ⟨h'.files.trans h.files, fun hmem => h.nodes (h'.nodes hmem)⟩

theorem renames_link (v : Volume) (path : Path) : v.Renames (v.link path .directory) := by
  refine ⟨rfl, fun hmem => ?_⟩
  rcases List.mem_cons.mp hmem with heq | hmem
  · simp at heq
  · exact hmem

theorem renames_unlink (v : Volume) (path : Path) : v.Renames (v.unlink path) :=
  ⟨rfl, fun hmem => List.mem_of_mem_filter hmem⟩

/-- A directory is only made under a name that leads nowhere. -/
theorem makeDirectory_cases {text : String} (h : v.makeDirectory text = .ok v') :
    ∃ path slashed, v.target text = .ok (.entry path slashed) ∧ v.node? path = none ∧
      v' = v.link path .directory := by
  unfold makeDirectory at h
  simp only [bind, Except.bind, pure, Except.pure, throw, throwThe, MonadExceptOf.throw] at h
  split at h
  · simp at h
  · rename_i htarget
    split at h
    · simp at h
    · simp at h
    · split at h
      · simp at h
      · split at h
        · simp at h
        · rename_i hnone
          exact ⟨_, _, htarget, hnone, (Except.ok.inj h).symm⟩

theorem Renames.of_makeDirectory {text : String} (hmake : v.makeDirectory text = .ok v') :
    v.Renames v' := by
  obtain ⟨path, _, _, _, rfl⟩ := makeDirectory_cases hmake
  exact renames_link v path

/-- To remove a file is to take a name away. -/
theorem eq_unlink_of_removeFile {text : String} (hremove : v.removeFile text = .ok v') :
    ∃ path, v' = v.unlink path := by
  unfold removeFile at hremove
  simp only [bind, Except.bind, pure, Except.pure, throw, throwThe, MonadExceptOf.throw] at hremove
  split at hremove
  · simp at hremove
  · split at hremove
    · simp at hremove
    · simp at hremove
    · split at hremove
      · simp at hremove
      · split at hremove
        · simp at hremove
        · simp at hremove
        · split at hremove
          · simp at hremove
          · exact ⟨_, (Except.ok.inj hremove).symm⟩

theorem Renames.of_removeFile {text : String} (hremove : v.removeFile text = .ok v') :
    v.Renames v' := by
  obtain ⟨path, rfl⟩ := eq_unlink_of_removeFile hremove
  exact renames_unlink v path

theorem Renames.of_removeDirectory {text : String}
    (hremove : v.removeDirectory text = .ok v') : v.Renames v' := by
  unfold removeDirectory at hremove
  simp only [bind, Except.bind, pure, Except.pure, throw, throwThe, MonadExceptOf.throw] at hremove
  split at hremove
  · simp at hremove
  · split at hremove
    · simp at hremove
    · simp at hremove
    · split at hremove
      · simp at hremove
      · split at hremove
        · simp at hremove
        · simp at hremove
        · split at hremove
          · simp at hremove
          · rw [← Except.ok.inj hremove]
            exact renames_unlink _ _

section MakeDirectories

variable {R : Volume → Volume → Prop} (hrefl : ∀ v, R v v)
  (htrans : ∀ {v v' w : Volume}, R v v' → R v' w → R v w)

theorem mem_of_makeFirst {missing texts more : List String}
    (h : (v.makeFirst missing texts).2 = .ok more) {text : String} (hmem : text ∈ more) :
    text ∈ missing ∨ text ∈ texts := by
  induction texts generalizing missing with
  | nil =>
    obtain rfl := Except.ok.inj h
    exact Or.inl hmem
  | cons first rest ih =>
    unfold makeFirst at h
    split at h
    · obtain rfl := Except.ok.inj h
      exact Or.inl hmem
    · rcases ih h with hmissing | hrest
      · rcases List.mem_cons.mp hmissing with rfl | hmissing
        · exact Or.inr List.mem_cons_self
        · exact Or.inl hmissing
      · exact Or.inr (List.mem_cons_of_mem _ hrest)
    · split at h
      · obtain rfl := Except.ok.inj h
        exact Or.inl hmem
      · simp at h

include hrefl

theorem makeFirst_rel {texts : List String}
    (hmake : ∀ text ∈ texts, ∀ {v v' : Volume}, v.makeDirectory text = .ok v' → R v v')
    (v : Volume) (missing : List String) : R v (v.makeFirst missing texts).1 := by
  induction texts generalizing missing with
  | nil => exact hrefl v
  | cons text rest ih =>
    unfold makeFirst
    split
    · rename_i hmade
      exact hmake text List.mem_cons_self hmade
    · exact ih (fun other hmem => hmake other (List.mem_cons_of_mem _ hmem)) _
    · split <;> exact hrefl v

include htrans

theorem makeAll_rel {texts : List String}
    (hmake : ∀ text ∈ texts, ∀ {v v' : Volume}, v.makeDirectory text = .ok v' → R v v')
    (v : Volume) : R v (v.makeAll texts).1 := by
  induction texts generalizing v with
  | nil => exact hrefl v
  | cons text rest ih =>
    have hrest := ih fun other hmem => hmake other (List.mem_cons_of_mem _ hmem)
    unfold makeAll
    split
    · rename_i hmade
      exact htrans (hmake text List.mem_cons_self hmade) (hrest _)
    · split
      · exact hrest v
      · exact hrefl v

/-- Whatever the making of each directory on the way keeps is kept by the making of all. -/
theorem makeDirectories_rel {text : String}
    (hmake : ∀ other ∈ text :: ancestors text, ∀ {v v' : Volume},
      v.makeDirectory other = .ok v' → R v v') (v : Volume) : R v (v.makeDirectories text).1 := by
  have hfirst := makeFirst_rel hrefl hmake v []
  unfold makeDirectories
  split
  · exact hrefl v
  · cases hcase : v.makeFirst [] (text :: ancestors text) with
    | mk v' outcome =>
      rw [hcase] at hfirst
      cases outcome with
      | error e => exact hfirst
      | ok missing =>
        refine htrans hfirst (makeAll_rel hrefl htrans (fun other hmem => hmake other ?_) v')
        have hmissing : (v.makeFirst [] (text :: ancestors text)).2 = .ok missing := by rw [hcase]
        exact (mem_of_makeFirst hmissing hmem).resolve_left List.not_mem_nil

end MakeDirectories

theorem renames_makeDirectories (v : Volume) (text : String) :
    v.Renames (v.makeDirectories text).1 :=
  makeDirectories_rel Renames.refl Renames.trans (fun _ _ => Renames.of_makeDirectory) v

/-! ## Sparing held files -/

/-- Every file that is locked in the first volume is as it was in the second one. -/
structure Spares (v v' : Volume) : Prop where
  wellFormed : v'.WellFormed
  held : ∀ {id : FileId}, v.isLocked id = true →
    v'.isLocked id = true ∧ v'.contents id = v.contents id

theorem Spares.refl (h : v.WellFormed) : v.Spares v := ⟨h, fun hid => ⟨hid, rfl⟩⟩

theorem Spares.trans (h : v.Spares v') (h' : v'.Spares w) : v.Spares w := by
  refine ⟨h'.wellFormed, fun hid => ?_⟩
  obtain ⟨hlocked, hcontents⟩ := h.held hid
  obtain ⟨hlocked', hcontents'⟩ := h'.held hlocked
  exact ⟨hlocked', hcontents'.trans hcontents⟩

theorem Renames.spares (hnames : v.Renames v') (h : v.WellFormed) : v.Spares v' := by
  obtain ⟨hfiles, hnodes⟩ := hnames
  refine ⟨⟨hfiles ▸ h.files, fun hmem => ?_⟩, fun hid => ?_⟩
  · rw [hfiles]
    exact h.present (hnodes hmem)
  · unfold isLocked contents at *
    rw [hfiles]
    exact ⟨hid, rfl⟩

theorem Spares.ne_of_held {id id' : FileId} (hid : v.isLocked id = false)
    (hlocked : v.isLocked id' = true) : id' ≠ id := by
  rintro rfl
  rw [hid] at hlocked
  exact Bool.false_ne_true hlocked

/-- What was not locked before may be written. -/
theorem Spares.setContents (h : v.Spares v') {id : FileId} (hid : v.isLocked id = false)
    (c : Contents) : v.Spares (v'.setContents id c) := by
  refine ⟨h.wellFormed.setContents id c, fun {id'} hlocked => ?_⟩
  have hne := Spares.ne_of_held hid hlocked
  rw [isLocked_setContents, contents_setContents, if_neg (fun h => hne h.1)]
  exact h.held hlocked

/-- What was not locked before may be locked, and let go again. -/
theorem Spares.setLocked (h : v.Spares v') {id : FileId} (hid : v.isLocked id = false)
    (locked : Bool) : v.Spares (v'.setLocked id locked) := by
  refine ⟨h.wellFormed.setLocked id locked, fun {id'} hlocked => ?_⟩
  rw [isLocked_setLocked_of_ne _ _ (Spares.ne_of_held hid hlocked), contents_setLocked]
  exact h.held hlocked

/-- What is not locked afterwards was not locked before. -/
theorem Spares.not_locked (h : v.Spares v') {id : FileId} (hid : v'.isLocked id = false) :
    v.isLocked id = false := by
  cases hlocked : v.isLocked id with
  | false => rfl
  | true =>
    rw [(h.held hlocked).1] at hid
    exact absurd hid Bool.noConfusion

theorem spares_addFile (h : v.WellFormed) (path : Path) : v.Spares (v.addFile path).1 := by
  refine ⟨h.addFile path, fun {id} hlocked => ?_⟩
  have hne : id ≠ v.files.fresh := by
    obtain ⟨file, hget⟩ := Option.isSome_iff_exists.mp (isSome_of_isLocked hlocked)
    exact h.files.ne_fresh hget
  rw [isLocked_addFile_of_ne v path hne, contents_addFile_of_ne v path hne]
  exact ⟨hlocked, rfl⟩

/-! ## Opening files -/

/-- What opening a file gives: the file is there, and the locked files are as before. -/
structure Opened (v v' : Volume) (id : FileId) : Prop where
  spares : v.Spares v'
  present : (v'.files.get? id).isSome = true

theorem Opened.of_openOrCreate (h : v.WellFormed) {text : String} {id : FileId}
    (hopen : v.openOrCreate text = .ok (v', id)) : v.Opened v' id := by
  unfold openOrCreate at hopen
  simp only [bind, Except.bind, pure, Except.pure, throw, throwThe, MonadExceptOf.throw] at hopen
  split at hopen
  · simp at hopen
  · split at hopen
    · simp at hopen
    · simp at hopen
    · simp at hopen
    · split at hopen
      · simp at hopen
      · split at hopen
        · simp at hopen
        · rename_i hnode
          obtain ⟨rfl, rfl⟩ := Prod.mk.inj (Except.ok.inj hopen)
          exact ⟨Spares.refl h, h.present (mem_nodes_of_node? hnode)⟩
        · rw [← (Prod.mk.inj (Except.ok.inj hopen)).1, ← (Prod.mk.inj (Except.ok.inj hopen)).2]
          refine ⟨spares_addFile h _, ?_⟩
          show ((v.files.insert _).get? v.files.fresh).isSome = true
          rw [Table.get?_insert_fresh]
          rfl

theorem node?_of_find {text : String} {path : Path} {id : FileId}
    (hfind : v.find text = .ok (path, .file id)) : v.node? path = some (.file id) := by
  unfold find at hfind
  simp only [bind, Except.bind, pure, Except.pure, throw, throwThe, MonadExceptOf.throw] at hfind
  split at hfind
  · simp at hfind
  · split at hfind
    · simp at hfind
    · simp at hfind
    · split at hfind
      · simp at hfind
      · split at hfind
        · simp at hfind
        · simp at hfind
        · rename_i hnode
          split at hfind
          · simp at hfind
          · obtain ⟨rfl, hfile⟩ := Prod.mk.inj (Except.ok.inj hfind)
            rw [hnode, hfile]

theorem Opened.of_openFile (h : v.WellFormed) {text : String} {create : Bool} {id : FileId}
    (hopen : v.openFile text create = .ok (v', id)) : v.Opened v' id := by
  unfold openFile at hopen
  split at hopen
  · exact Opened.of_openOrCreate h hopen
  · unfold openExisting at hopen
    cases hfind : v.find text with
    | error e => simp [hfind, Except.map, bind, Except.bind] at hopen
    | ok found =>
      obtain ⟨path, node⟩ := found
      cases node with
      | directory =>
        simp [hfind, Except.map, bind, Except.bind, throw, throwThe, MonadExceptOf.throw] at hopen
      | file existing =>
        rw [hfind] at hopen
        obtain ⟨rfl, rfl⟩ := Prod.mk.inj (Except.ok.inj hopen)
        exact ⟨Spares.refl h, h.present (mem_nodes_of_node? (node?_of_find hfind))⟩

end Volume

/-! ## Directories -/

namespace Directory

variable {v v' : Volume}

/-- What taking a lock gives: nobody had it before, and it is held now. -/
structure Acquired (v v' : Volume) (lock : FileId) : Prop where
  spares : v.Spares v'
  before : v.isLocked lock = false
  after : v'.isLocked lock = true

theorem Acquired.of_spares {w : Volume} {lock : FileId} (h : v.Spares v')
    (hacquired : Acquired v' w lock) : Acquired v w lock :=
  ⟨h.trans hacquired.spares, h.not_locked hacquired.before, hacquired.after⟩

theorem acquire_spec (h : v.WellFormed) (text : String) :
    (∃ v' lock, acquire v text = (v', .ok lock) ∧ Acquired v v' lock) ∨
      ∃ v' e, acquire v text = (v', .error e) ∧ v.Spares v' := by
  unfold acquire
  cases hopen : v.openOrCreate (lockPath text) with
  | error e => exact Or.inr ⟨v, _, rfl, Volume.Spares.refl h⟩
  | ok opened =>
    obtain ⟨v', lock⟩ := opened
    have hopened := Volume.Opened.of_openOrCreate h hopen
    cases hlocked : v'.isLocked lock with
    | true => exact Or.inr ⟨v', _, by simp only [hlocked]; rfl, hopened.spares⟩
    | false =>
      have hbefore := hopened.spares.not_locked hlocked
      refine Or.inl ⟨_, lock, by simp only [hlocked]; rfl, hopened.spares.setLocked hbefore true,
        hbefore, ?_⟩
      rw [Volume.isLocked_setLocked, if_pos rfl, hopened.present]
      rfl

theorem enter_spec (h : v.WellFormed) (text : String) :
    (∃ v' directory, enter v text = (v', .ok directory) ∧ Acquired v v' directory.lock) ∨
      ∃ v' e, enter v text = (v', .error e) ∧ v.Spares v' := by
  unfold enter
  split
  · rcases acquire_spec h text with ⟨v', lock, heq, hacquired⟩ | ⟨v', e, heq, hspares⟩
    · exact Or.inl ⟨v', ⟨text, lock⟩, by rw [heq]; rfl, hacquired⟩
    · exact Or.inr ⟨v', e, by rw [heq]; rfl, hspares⟩
  · exact Or.inr ⟨v, _, rfl, Volume.Spares.refl h⟩

theorem openAt_spec (h : v.WellFormed) (text : String) (create : Bool) :
    (∃ v' directory, openAt v text create = (v', .ok directory) ∧
        Acquired v v' directory.lock) ∨
      ∃ v' e, openAt v text create = (v', .error e) ∧ v.Spares v' := by
  unfold openAt
  split
  · exact enter_spec h text
  · split
    · have hmade := (Volume.renames_makeDirectories v text).spares h
      cases hmake : v.makeDirectories text with
      | mk v' outcome =>
        rw [hmake] at hmade
        cases outcome with
        | error e => exact Or.inr ⟨v', _, rfl, hmade⟩
        | ok _ =>
          rcases enter_spec hmade.wellFormed text with
            ⟨w, directory, heq, hacquired⟩ | ⟨w, e, heq, hspares⟩
          · exact Or.inl ⟨w, directory, heq, hacquired.of_spares hmade⟩
          · exact Or.inr ⟨w, e, heq, hmade.trans hspares⟩
    · exact Or.inr ⟨v, _, rfl, Volume.Spares.refl h⟩

theorem Acquired.of_openAt (h : v.WellFormed) {text : String} {create : Bool}
    {directory : Directory} (heq : openAt v text create = (v', .ok directory)) :
    Acquired v v' directory.lock := by
  rcases openAt_spec h text create with ⟨w, found, hfound, hacquired⟩ | ⟨w, e, herror, _⟩
  · rw [heq] at hfound
    obtain ⟨rfl, hok⟩ := Prod.mk.inj hfound
    rw [Except.ok.inj hok]
    exact hacquired
  · rw [heq] at herror
    simp at herror

theorem spares_of_openAt (h : v.WellFormed) {text : String} {create : Bool}
    {outcome : Except Error Directory} (heq : openAt v text create = (v', outcome)) :
    v.Spares v' := by
  rcases openAt_spec h text create with ⟨w, found, hfound, hacquired⟩ | ⟨w, e, herror, hspares⟩
  · rw [heq] at hfound
    rw [(Prod.mk.inj hfound).1]
    exact hacquired.spares
  · rw [heq] at herror
    rw [(Prod.mk.inj herror).1]
    exact hspares

end Directory

/-! ## Removals -/

namespace Removal

/-- The lock that a removal holds. -/
def lock? : Removal → Option FileId
  | .locked lock | .emptied lock => some lock
  | _ => none

/-- A removal only ever lets go of a lock that it has taken itself. -/
theorem spares_step {v₀ v : Volume} {removal : Removal} (text : String) (h : v₀.Spares v)
    (hlock : ∀ lock, removal.lock? = some lock → v₀.isLocked lock = false) :
    v₀.Spares (step text v removal).1 ∧
      ∀ lock, (step text v removal).2.lock? = some lock → v₀.isLocked lock = false := by
  cases removal with
  | begun =>
    simp only [step]
    split
    · rcases Directory.acquire_spec h.wellFormed text with
        ⟨v', lock, heq, hacquired⟩ | ⟨v', e, heq, hspares⟩
      · rw [heq]
        refine ⟨h.trans hacquired.spares, fun lock' hsome => ?_⟩
        rw [← Option.some.inj hsome]
        exact h.not_locked hacquired.before
      · rw [heq]
        exact ⟨h.trans hspares, fun lock hsome => by simp [lock?] at hsome⟩
    · exact ⟨h, fun lock heq => by simp [lock?] at heq⟩
  | locked lock =>
    have hbefore := hlock lock rfl
    simp only [step]
    split
    · split
      · rename_i v' hremove
        have hfiles := (Volume.Renames.of_removeFile hremove).spares h.wellFormed
        exact ⟨h.trans hfiles, hlock⟩
      · exact ⟨h.setLocked hbefore false, fun lock heq => by simp [lock?] at heq⟩
    · exact ⟨h, hlock⟩
  | emptied lock =>
    exact ⟨h.setLocked (hlock lock rfl) false, fun lock heq => by simp [step, lock?] at heq⟩
  | unlocked =>
    simp only [step]
    split
    · rename_i v' hremove
      have hfiles := (Volume.Renames.of_removeFile hremove).spares h.wellFormed
      exact ⟨h.trans hfiles, fun lock heq => by simp [lock?] at heq⟩
    · exact ⟨h, fun lock heq => by simp [lock?] at heq⟩
  | cleared =>
    refine ⟨?_, fun lock heq => by simp [step, lock?] at heq⟩
    simp only [step]
    cases hremove : v.removeDirectory text with
    | error e => exact h
    | ok v' =>
      exact h.trans ((Volume.Renames.of_removeDirectory hremove).spares h.wellFormed)
  | finished outcome => exact ⟨h, hlock⟩

theorem spares_steps {v₀ v : Volume} {removal : Removal} (text : String) (n : Nat)
    (h : v₀.Spares v) (hlock : ∀ lock, removal.lock? = some lock → v₀.isLocked lock = false) :
    v₀.Spares (steps text n v removal).1 := by
  induction n generalizing v removal with
  | zero => exact h
  | succ n ih =>
    obtain ⟨hstep, hlock'⟩ := spares_step text h hlock
    exact ih hstep hlock'

end Removal

theorem Directory.spares_destroy {v : Volume} (h : v.WellFormed) (text : String) :
    v.Spares (Directory.destroy v text).1 := by
  have hbegun : ∀ lock, Removal.begun.lock? = some lock → v.isLocked lock = false := by
    intro lock hlock
    simp [Removal.lock?] at hlock
  have hsteps := Removal.spares_steps text Removal.length (Volume.Spares.refl h) hbegun
  unfold Directory.destroy
  generalize Removal.steps text Removal.length v .begun = result at hsteps ⊢
  exact hsteps

end OrderedStore
