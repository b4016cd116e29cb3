import OrderedStore.Proofs.Volume
import OrderedStore.Proofs.Volume.Written

/-!
# Where written paths lead

A written path is followed name by name: `walk` does so, and `Leads` says that it ends at a
directory.  Where it can end is settled by the text alone (`comeTo`); what is on the volume
only decides whether it gets there.  So a path that leads to a directory goes on
doing so as long as no directory is removed (`Leads.mono`), and a path without dots also
where empty directories are (`walk_unlink`).

The second half says what each call does with a name in a directory that a path leads to.
-/

set_option autoImplicit false

namespace OrderedStore.Volume

variable {v v' w : Volume} {here there p q : Path} {name text : String}

/-! ## Nodes -/

theorem node?_link (v : Volume) (path : Path) (node : Node) (hne : path ≠ []) (q : Path) :
    (v.link path node).node? q = if q = path then some node else v.node? q := by
  cases q with
  | nil =>
    rw [if_neg (Ne.symm hne)]
    rfl
  | cons first rest =>
    show (((path, node) :: v.nodes).find? _).map Prod.snd = _
    rw [List.find?_cons]
    by_cases heq : first :: rest = path
    · rw [if_pos heq]
      simp [heq]
    · rw [if_neg heq]
      simp [Ne.symm heq]
      rfl

theorem node?_unlink (v : Volume) (path : Path) (hne : path ≠ []) (q : Path) :
    (v.unlink path).node? q = if q = path then none else v.node? q := by
  cases q with
  | nil =>
    rw [if_neg (Ne.symm hne)]
    rfl
  | cons first rest =>
    show ((v.nodes.filter _).find? _).map Prod.snd = _
    rw [List.find?_filter]
    by_cases heq : first :: rest = path
    · rw [if_pos heq, Option.map_eq_none_iff, List.find?_eq_none]
      intro entry _
      simp [heq]
    · rw [if_neg heq]
      show _ = (v.nodes.find? _).map Prod.snd
      congr 2
      funext entry
      by_cases hentry : entry.1 = first :: rest
      · simp [hentry, heq]
      · simp [hentry]

theorem node?_addFile (v : Volume) (path : Path) (hne : path ≠ []) (q : Path) :
    (v.addFile path).1.node? q =
      if q = path then some (.file v.files.fresh) else v.node? q :=
  node?_link v path _ hne q

theorem node?_setLocked (v : Volume) (id : FileId) (locked : Bool) (q : Path) :
    (v.setLocked id locked).node? q = v.node? q := by
  cases q <;> rfl

theorem node?_setContents (v : Volume) (id : FileId) (c : Contents) (q : Path) :
    (v.setContents id c).node? q = v.node? q := by
  cases q <;> rfl

theorem hasChild_of_node? {node : Node} (h : v.node? (p ++ [name]) = some node) :
    v.hasChild p = true := by
  have hmem : ∃ entry ∈ v.nodes, entry.1 = p ++ [name] := by
    unfold node? at h
    split at h
    · rename_i hnil
      exact absurd hnil (by simp)
    · obtain ⟨entry, hfind, _⟩ := Option.map_eq_some_iff.mp h
      have hpath := List.find?_some hfind
      exact ⟨entry, List.mem_of_find?_eq_some hfind, by simpa using hpath⟩
  obtain ⟨entry, hentry, hpath⟩ := hmem
  refine List.any_eq_true.mpr ⟨entry, hentry, ?_⟩
  rw [hpath, List.dropLast_concat]
  simp

/-! ## Following names -/

theorem start_of_workingDirectory (h : v'.workingDirectory = v.workingDirectory)
    (text : String) : v'.start text = v.start text := by
  unfold start
  rw [h]

theorem start_of_isRooted (v : Volume) {other : String} (h : isRooted other = isRooted text) :
    v.start other = v.start text := by
  unfold start
  rw [h]

/-- Goes on from a directory by names. -/
def walk (v : Volume) (here : Path) (names : List String) : Except FileError Path :=
  names.foldlM v.enter here

/-- Where a name takes a path. -/
def comeTo (here : Path) (name : String) : Path :=
  if name = "." then here else if name = ".." then here.dropLast else here ++ [name]

theorem walk_cons (v : Volume) (here : Path) (name : String) (rest : List String) :
    v.walk here (name :: rest) = (v.enter here name).bind fun there => v.walk there rest := rfl

theorem walk_append (v : Volume) (here : Path) (names more : List String) :
    v.walk here (names ++ more) = (v.walk here names).bind fun there => v.walk there more := by
  unfold walk
  rw [List.foldlM_append]
  rfl

theorem walk_concat (v : Volume) (here : Path) (names : List String) (name : String) :
    v.walk here (names ++ [name]) = (v.walk here names).bind fun there => v.enter there name := by
  rw [walk_append]
  congr 1
  funext there
  rw [walk_cons]
  cases v.enter there name <;> rfl

theorem enter_dot (v : Volume) (here : Path) : v.enter here "." = .ok here := rfl

theorem enter_dots (v : Volume) (here : Path) : v.enter here ".." = .ok here.dropLast := rfl

/-- A name that is neither a dot nor two leads into a directory of that name. -/
theorem enter_name (hdot : name ≠ ".") (hdots : name ≠ "..") (v : Volume) (here : Path) :
    v.enter here name = (checkName name).bind fun _ =>
      match v.node? (here ++ [name]) with
      | none => .error .notFound
      | some (.file _) => .error .notDirectory
      | some .directory => .ok (here ++ [name]) := by
  unfold enter
  rw [if_neg hdot, if_neg hdots]
  cases checkName name with
  | error e => rfl
  | ok _ =>
    cases v.node? (here ++ [name]) with
    | none => rfl
    | some node => cases node <;> rfl

theorem enter_eq_ok_iff (hdot : name ≠ ".") (hdots : name ≠ "..") :
    v.enter here name = .ok there ↔
      checkName name = .ok () ∧ v.node? (here ++ [name]) = some .directory ∧
        there = here ++ [name] := by
  rw [enter_name hdot hdots]
  cases checkName name with
  | error e => simp [Except.bind]
  | ok _ =>
    cases v.node? (here ++ [name]) with
    | none => simp [Except.bind]
    | some node => cases node <;> simp [Except.bind, eq_comm]

theorem comeTo_of_enter (h : v.enter here name = .ok there) : there = comeTo here name := by
  unfold comeTo
  split
  · rename_i hdot
    rw [hdot, enter_dot] at h
    exact (Except.ok.inj h).symm
  · rename_i hdot
    split
    · rename_i hdots
      rw [hdots, enter_dots] at h
      exact (Except.ok.inj h).symm
    · rename_i hdots
      exact ((enter_eq_ok_iff hdot hdots).mp h).2.2

theorem walk_cons_eq_ok_iff {rest : List String} :
    v.walk here (name :: rest) = .ok p ↔
      ∃ there, v.enter here name = .ok there ∧ v.walk there rest = .ok p := by
  rw [walk_cons]
  cases v.enter here name <;> simp [Except.bind]

theorem walk_append_eq_ok_iff {names more : List String} :
    v.walk here (names ++ more) = .ok p ↔
      ∃ there, v.walk here names = .ok there ∧ v.walk there more = .ok p := by
  rw [walk_append]
  cases v.walk here names <;> simp [Except.bind]

theorem walk_concat_eq_ok_iff {names : List String} :
    v.walk here (names ++ [name]) = .ok p ↔
      ∃ there, v.walk here names = .ok there ∧ v.enter there name = .ok p := by
  rw [walk_concat]
  cases v.walk here names <;> simp [Except.bind]

/-- Where a walk ends is settled by the names. -/
theorem eq_foldl_of_walk {names : List String} (h : v.walk here names = .ok p) :
    p = names.foldl comeTo here := by
  induction names generalizing here with
  | nil => exact (Except.ok.inj h).symm
  | cons name rest ih =>
    obtain ⟨there, henter, hrest⟩ := walk_cons_eq_ok_iff.mp h
    rw [List.foldl_cons, ← comeTo_of_enter henter]
    exact ih hrest

/-- Dots are not needed on the way. -/
theorem walk_filter (v : Volume) (here : Path) (names : List String) :
    v.walk here (names.filter (· ≠ ".")) = v.walk here names := by
  induction names generalizing here with
  | nil => rfl
  | cons name rest ih =>
    by_cases hdot : name = "."
    · rw [List.filter_cons_of_neg (by simpa using hdot), ih, walk_cons, hdot, enter_dot]
      rfl
    · rw [List.filter_cons_of_pos (by simpa using hdot), walk_cons, walk_cons]
      congr 1
      funext there
      exact ih there

/-! ## Taking empty directories away -/

/-- What comes before something on the way of a path is not empty. -/
theorem hasChild_of_walk {names : List String} (h : v.walk here names = .ok p)
    (hdots : ".." ∉ names) (hp : v.hasChild p = true) : v.hasChild here = true := by
  induction names generalizing here with
  | nil =>
    obtain rfl := Except.ok.inj h
    exact hp
  | cons name rest ih =>
    obtain ⟨there, henter, hrest⟩ := walk_cons_eq_ok_iff.mp h
    have hname : name ≠ ".." := fun heq => hdots (heq ▸ List.mem_cons_self)
    have hthere := ih hrest fun hmem => hdots (List.mem_cons_of_mem _ hmem)
    by_cases hdot : name = "."
    · rw [hdot, enter_dot] at henter
      rw [Except.ok.inj henter]
      exact hthere
    · exact hasChild_of_node? ((enter_eq_ok_iff hdot hname).mp henter).2.1

/-- A walk to something that is not empty, with no step back, needs no empty directory. -/
theorem walk_unlink {names : List String} (h : v.walk here names = .ok p) (hdots : ".." ∉ names)
    (hp : v.hasChild p = true) (hq : v.hasChild q = false) (hne : q ≠ []) :
    (v.unlink q).walk here names = .ok p := by
  induction names generalizing here with
  | nil => exact h
  | cons name rest ih =>
    obtain ⟨there, henter, hrest⟩ := walk_cons_eq_ok_iff.mp h
    have hname : name ≠ ".." := fun heq => hdots (heq ▸ List.mem_cons_self)
    have hrest' : ".." ∉ rest := fun hmem => hdots (List.mem_cons_of_mem _ hmem)
    refine walk_cons_eq_ok_iff.mpr ⟨there, ?_, ih hrest hrest'⟩
    by_cases hdot : name = "."
    · rw [hdot] at henter ⊢
      exact henter
    · obtain ⟨hcheck, hnode, rfl⟩ := (enter_eq_ok_iff hdot hname).mp henter
      refine (enter_eq_ok_iff hdot hname).mpr ⟨hcheck, ?_, rfl⟩
      have hthere := hasChild_of_walk hrest hrest' hp
      rw [node?_unlink v q hne, if_neg]
      · exact hnode
      · intro heq
        rw [heq, hq] at hthere
        exact Bool.false_ne_true hthere

/-! ## Keeping directories -/

/-- Every directory is still there. -/
structure KeepsDirectories (v v' : Volume) : Prop where
  workingDirectory : v'.workingDirectory = v.workingDirectory
  directory : ∀ {path : Path}, v.node? path = some .directory → v'.node? path = some .directory

/-- Every name leads where it led before. -/
structure Extends (v v' : Volume) : Prop where
  workingDirectory : v'.workingDirectory = v.workingDirectory
  node : ∀ {path : Path} {node : Node}, v.node? path = some node → v'.node? path = some node

theorem Extends.keepsDirectories (h : v.Extends v') : v.KeepsDirectories v' :=
  ⟨h.workingDirectory, h.node⟩

theorem Extends.refl (v : Volume) : v.Extends v := ⟨rfl, id⟩

theorem Extends.trans (h : v.Extends v') (h' : v'.Extends w) : v.Extends w :=
  ⟨h'.workingDirectory.trans h.workingDirectory, fun hnode => h'.node (h.node hnode)⟩

theorem KeepsDirectories.trans (h : v.KeepsDirectories v') (h' : v'.KeepsDirectories w) :
    v.KeepsDirectories w :=
  ⟨h'.workingDirectory.trans h.workingDirectory, fun hnode => h'.directory (h.directory hnode)⟩

theorem Extends.of_nodes (hdirectory : v'.workingDirectory = v.workingDirectory)
    (hnode : ∀ path, v'.node? path = v.node? path) : v.Extends v' :=
  ⟨hdirectory, fun {path _} h => (hnode path).trans h⟩

theorem extends_setLocked (v : Volume) (id : FileId) (locked : Bool) :
    v.Extends (v.setLocked id locked) := .of_nodes rfl (node?_setLocked v id locked)

theorem extends_setContents (v : Volume) (id : FileId) (c : Contents) :
    v.Extends (v.setContents id c) := .of_nodes rfl (node?_setContents v id c)

theorem extends_link {path : Path} (hnone : v.node? path = none) (node : Node) :
    v.Extends (v.link path node) := by
  have hne : path ≠ [] := by
    rintro rfl
    simp [node?] at hnone
  refine ⟨rfl, fun {q node'} hnode => ?_⟩
  rw [node?_link v path node hne, if_neg]
  · exact hnode
  · rintro rfl
    rw [hnone] at hnode
    simp at hnode

theorem extends_addFile {path : Path} (hnone : v.node? path = none) :
    v.Extends (v.addFile path).1 := by
  have hlink := extends_link hnone (.file v.files.fresh)
  exact ⟨hlink.workingDirectory, fun {q _} hnode => by
    have hlinked := hlink.node hnode
    cases q <;> exact hlinked⟩

theorem KeepsDirectories.start_eq (h : v.KeepsDirectories v') (text : String) :
    v'.start text = v.start text := start_of_workingDirectory h.workingDirectory text

theorem KeepsDirectories.enter (h : v.KeepsDirectories v')
    (henter : v.enter here name = .ok there) : v'.enter here name = .ok there := by
  by_cases hdot : name = "."
  · rw [hdot] at henter ⊢
    exact henter
  · by_cases hdots : name = ".."
    · rw [hdots] at henter ⊢
      exact henter
    · obtain ⟨hcheck, hnode, hthere⟩ := (enter_eq_ok_iff hdot hdots).mp henter
      exact (enter_eq_ok_iff hdot hdots).mpr ⟨hcheck, h.directory hnode, hthere⟩

theorem KeepsDirectories.walk (h : v.KeepsDirectories v') {names : List String}
    (hwalk : v.walk here names = .ok p) : v'.walk here names = .ok p := by
  induction names generalizing here with
  | nil => exact hwalk
  | cons name rest ih =>
    obtain ⟨there, henter, hrest⟩ := walk_cons_eq_ok_iff.mp hwalk
    exact walk_cons_eq_ok_iff.mpr ⟨there, h.enter henter, ih hrest⟩

/-! ## Paths that lead to a directory -/

/-- A written path ends at a directory. -/
def Leads (v : Volume) (text : String) (p : Path) : Prop :=
  v.walk (v.start text) (names text) = .ok p

theorem Leads.unique (h : v.Leads text p) (h' : v.Leads text q) : p = q :=
  Except.ok.inj (h.symm.trans h')

theorem Leads.mono (h : v.Leads text p) (hkeeps : v.KeepsDirectories v') : v'.Leads text p := by
  unfold Leads
  rw [hkeeps.start_eq]
  exact hkeeps.walk h

theorem Leads.setLocked (h : v.Leads text p) (id : FileId) (locked : Bool) :
    (v.setLocked id locked).Leads text p :=
  h.mono (extends_setLocked v id locked).keepsDirectories

theorem Leads.eq_foldl (h : v.Leads text p) : p = (names text).foldl comeTo (v.start text) :=
  eq_foldl_of_walk h

theorem target_eq (v : Volume) (text : String) :
    v.target text = (checkText text).bind fun _ =>
      (v.walk (v.start text) (names text).dropLast).bind fun here =>
        match (names text).getLast? with
        | none | some "." => .ok (.here here)
        | some ".." => .ok (.above here.dropLast)
        | some name => .ok (.entry (here ++ [name]) (isSlashed text)) := rfl

theorem target_of_names {init : List String} {last : String} (hcheck : checkText text = .ok ())
    (hnames : names text = init ++ [last]) (hdot : last ≠ ".") (hdots : last ≠ "..") :
    v.target text = (v.walk (v.start text) init).map fun here =>
      .entry (here ++ [last]) (isSlashed text) := by
  rw [target_eq, hcheck, hnames, List.dropLast_concat, List.getLast?_concat]
  show (v.walk (v.start text) init).bind _ = _
  cases v.walk (v.start text) init with
  | error e => rfl
  | ok here =>
    show (match some last with
      | none | some "." => Except.ok (Target.here here)
      | some ".." => .ok (.above here.dropLast)
      | some name => .ok (.entry (here ++ [name]) (isSlashed text))) = _
    split
    · rename_i heq
      simp at heq
    · rename_i heq
      exact absurd (Option.some.inj heq) hdot
    · rename_i heq
      exact absurd (Option.some.inj heq) hdots
    · rename_i name _ _ heq
      rw [← Option.some.inj heq]
      rfl

theorem checkLast_concat (here : Path) (last : String) :
    checkLast (here ++ [last]) = checkName last := by
  unfold checkLast
  rw [List.getLast?_concat]
  rfl

theorem find_eq (v : Volume) (text : String) :
    v.find text = (v.target text).bind fun target =>
      match target with
      | .here path | .above path => .ok (path, .directory)
      | .entry path slashed => (checkLast path).bind fun _ =>
        match v.node? path with
        | none => .error .notFound
        | some .directory => .ok (path, .directory)
        | some (.file id) => if slashed then .error .notDirectory else .ok (path, .file id) := rfl

/-- To find a directory is to be led there. -/
theorem find_eq_directory_iff :
    v.find text = .ok (p, .directory) ↔ checkText text = .ok () ∧ v.Leads text p := by
  rw [find_eq, target_eq]
  unfold Leads
  cases checkText text with
  | error e => simp [Except.bind]
  | ok _ =>
    rcases List.eq_nil_or_concat (names text) with hnil | ⟨init, last, hnames⟩
    · rw [hnil]
      simp [walk, Except.bind, pure, Except.pure]
    · rw [hnames, List.concat_eq_append, List.dropLast_concat, List.getLast?_concat, walk_concat]
      cases v.walk (v.start text) init with
      | error e => simp [Except.bind]
      | ok here =>
        by_cases hdot : last = "."
        · rw [hdot]
          simp [Except.bind, enter_dot]
        · by_cases hdots : last = ".."
          · rw [hdots]
            simp [Except.bind, enter_dots]
          · simp only [Except.bind, checkLast_concat, enter_eq_ok_iff hdot hdots]
            cases checkName last with
            | error e => simp
            | ok _ =>
              cases v.node? (here ++ [last]) with
              | none => simp
              | some node =>
                cases node with
                | directory => simp [eq_comm]
                | file id => cases isSlashed text <;> simp

theorem leadsToDirectory_iff :
    v.leadsToDirectory text = true ↔ checkText text = .ok () ∧ ∃ p, v.Leads text p := by
  have hfind : v.leadsToDirectory text = true ↔ ∃ p, v.find text = .ok (p, .directory) := by
    unfold leadsToDirectory
    split
    · rename_i path hok
      rw [hok]
      simp
    · rename_i hnot
      refine ⟨fun hfalse => absurd hfalse (by simp), fun ⟨p, hok⟩ => ?_⟩
      exact absurd hok (hnot p)
  rw [hfind]
  simp only [find_eq_directory_iff, exists_and_left]

theorem isThere_of_leads (hcheck : checkText text = .ok ()) (h : v.Leads text p) :
    v.isThere text = true := by
  unfold isThere
  rw [find_eq_directory_iff.mpr ⟨hcheck, h⟩]
  rfl

theorem checkText_of_isThere (h : v.isThere text = true) : checkText text = .ok () := by
  unfold isThere at h
  rw [find_eq, target_eq] at h
  cases hcheck : checkText text with
  | ok _ => rfl
  | error e =>
    rw [hcheck] at h
    exact absurd h (by simp [Except.bind, Except.isOk, Except.toBool])

/-! ## A name in a directory -/

section Join

variable (hname : Regular name) (hcheck : checkText (Directory.join text name) = .ok ())

include hname

theorem start_join (v : Volume) (text : String) :
    v.start (Directory.join text name) = v.start text :=
  start_of_isRooted v (isRooted_join hname.toIsName text)

theorem checkLast_join (p : Path) : checkLast (p ++ [name]) = .ok () :=
  (checkLast_concat p name).trans hname.check

include hcheck

theorem target_join_eq (v : Volume) :
    v.target (Directory.join text name) =
      (v.walk (v.start text) (names text)).map fun here => .entry (here ++ [name]) false := by
  rw [target_of_names hcheck (names_join hname.toIsName text) hname.ne_dot hname.ne_dots,
    start_join hname, isSlashed_join hname.toIsName]

theorem target_join (h : v.Leads text p) :
    v.target (Directory.join text name) = .ok (.entry (p ++ [name]) false) := by
  rw [target_join_eq hname hcheck, show v.walk (v.start text) (names text) = .ok p from h]
  rfl

theorem find_join (h : v.Leads text p) :
    v.find (Directory.join text name) =
      match v.node? (p ++ [name]) with
      | none => .error .notFound
      | some node => .ok (p ++ [name], node) := by
  rw [find_eq, target_join hname hcheck h]
  simp only [Except.bind, checkLast_join hname]
  cases v.node? (p ++ [name]) with
  | none => rfl
  | some node => cases node <;> rfl

theorem isThere_join (h : v.Leads text p) :
    v.isThere (Directory.join text name) = (v.node? (p ++ [name])).isSome := by
  unfold isThere
  rw [find_join hname hcheck h]
  cases v.node? (p ++ [name]) <;> rfl

theorem isThere_join_eq_false (h : ∀ p, v.Leads text p → v.node? (p ++ [name]) = none) :
    v.isThere (Directory.join text name) = false := by
  cases hwalk : v.walk (v.start text) (names text) with
  | ok p =>
    rw [isThere_join hname hcheck hwalk, h p hwalk]
    rfl
  | error e =>
    unfold isThere
    rw [find_eq, target_join_eq hname hcheck, hwalk]
    rfl

theorem openExisting_join (h : v.Leads text p) :
    v.openExisting (Directory.join text name) =
      match v.node? (p ++ [name]) with
      | none => .error .notFound
      | some .directory => .error .isDirectory
      | some (.file id) => .ok id := by
  unfold openExisting
  rw [find_join hname hcheck h]
  cases v.node? (p ++ [name]) with
  | none => rfl
  | some node => cases node <;> rfl

theorem openOrCreate_join (h : v.Leads text p) :
    v.openOrCreate (Directory.join text name) =
      match v.node? (p ++ [name]) with
      | none => .ok (v.addFile (p ++ [name]))
      | some .directory => .error .isDirectory
      | some (.file id) => .ok (v, id) := by
  unfold openOrCreate
  rw [target_join hname hcheck h]
  simp only [bind, Except.bind, checkLast_join hname]
  cases v.node? (p ++ [name]) with
  | none => rfl
  | some node => cases node <;> rfl

theorem removeFile_join (h : v.Leads text p) :
    v.removeFile (Directory.join text name) =
      match v.node? (p ++ [name]) with
      | none => .error .notFound
      | some .directory => .error .isDirectory
      | some (.file _) => .ok (v.unlink (p ++ [name])) := by
  unfold removeFile
  rw [target_join hname hcheck h]
  simp only [bind, Except.bind, checkLast_join hname]
  cases v.node? (p ++ [name]) with
  | none => rfl
  | some node => cases node <;> rfl

omit hcheck

/-- Only in a directory can a file be made or removed. -/
theorem leads_of_target_join {target : Target}
    (h : v.target (Directory.join text name) = .ok target) :
    checkText (Directory.join text name) = .ok () ∧ ∃ p, v.Leads text p := by
  have hcheck : checkText (Directory.join text name) = .ok () := by
    rw [target_eq] at h
    cases hcheck : checkText (Directory.join text name) with
    | ok _ => rfl
    | error e =>
      rw [hcheck] at h
      simp [Except.bind] at h
  rw [target_join_eq hname hcheck] at h
  cases hwalk : v.walk (v.start text) (names text) with
  | error e =>
    rw [hwalk] at h
    simp [Except.map] at h
  | ok p => exact ⟨hcheck, p, hwalk⟩

theorem leads_of_openOrCreate {r : Volume × FileId}
    (h : v.openOrCreate (Directory.join text name) = .ok r) :
    checkText (Directory.join text name) = .ok () ∧ ∃ p, v.Leads text p := by
  cases htarget : v.target (Directory.join text name) with
  | ok target => exact leads_of_target_join hname htarget
  | error e =>
    unfold openOrCreate at h
    rw [htarget] at h
    simp [bind, Except.bind] at h

/-- A file that has been opened is behind its name, and no other was there before. -/
theorem node?_of_openOrCreate {id : FileId} (hleads : v.Leads text p)
    (h : v.openOrCreate (Directory.join text name) = .ok (v', id)) :
    v'.node? (p ++ [name]) = some (.file id) ∧
      ∀ other, v.node? (p ++ [name]) = some (.file other) → other = id ∧ v' = v := by
  obtain ⟨hcheck, _⟩ := leads_of_openOrCreate hname h
  rw [openOrCreate_join hname hcheck hleads] at h
  cases hnode : v.node? (p ++ [name]) with
  | none =>
    rw [hnode] at h
    have hfile : v' = (v.addFile (p ++ [name])).1 := congrArg Prod.fst (Except.ok.inj h).symm
    have hid : id = v.files.fresh := congrArg Prod.snd (Except.ok.inj h).symm
    refine ⟨?_, fun other hother => by simp at hother⟩
    rw [hfile, hid, node?_addFile v _ (by simp), if_pos rfl]
  | some node =>
    rw [hnode] at h
    cases node with
    | directory => simp at h
    | file found =>
      obtain ⟨rfl, rfl⟩ := Prod.mk.inj (Except.ok.inj h)
      exact ⟨hnode, fun other hother => ⟨(Node.file.inj (Option.some.inj hother)).symm, rfl⟩⟩

theorem leads_of_find {found : Path × Node}
    (h : v.find (Directory.join text name) = .ok found) :
    checkText (Directory.join text name) = .ok () ∧ ∃ p, v.Leads text p := by
  cases htarget : v.target (Directory.join text name) with
  | ok target => exact leads_of_target_join hname htarget
  | error e =>
    rw [find_eq, htarget] at h
    simp [Except.bind] at h

theorem leads_of_openExisting {id : FileId}
    (h : v.openExisting (Directory.join text name) = .ok id) :
    checkText (Directory.join text name) = .ok () ∧ ∃ p, v.Leads text p := by
  cases hfind : v.find (Directory.join text name) with
  | ok found => exact leads_of_find hname hfind
  | error e =>
    unfold openExisting at h
    rw [hfind] at h
    simp [bind, Except.bind] at h

theorem leads_of_removeFile (h : v.removeFile (Directory.join text name) = .ok v') :
    checkText (Directory.join text name) = .ok () ∧ ∃ p, v.Leads text p := by
  cases htarget : v.target (Directory.join text name) with
  | ok target => exact leads_of_target_join hname htarget
  | error e =>
    unfold removeFile at h
    rw [htarget] at h
    simp [bind, Except.bind] at h

end Join

end OrderedStore.Volume
