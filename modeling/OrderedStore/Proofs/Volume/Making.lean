import OrderedStore.Proofs.Removal

/-!
# Making a directory again

`makeDirectories` tries the directories of a written path from the inside to the outside
until one can be made, and makes the others inside of it.  If a directory has just been
removed by its name, the one that can be made is that directory: either the path itself gets
to its name, or it is on the way, and then the attempts before end where it is missing.  So
all that is removed is made again (`makeDirectories_unlink`).
-/

set_option autoImplicit false

namespace OrderedStore.Volume

variable {v w : Volume} {here there p q : Path} {name text : String} {init : List String}

/-! ## Making one directory -/

theorem makeDirectory_eq (v : Volume) (text : String) :
    v.makeDirectory text = (v.target text).bind fun target =>
      match target with
      | .here _ | .above _ => .error .exists
      | .entry path _ => (checkLast path).bind fun _ =>
        match v.node? path with
        | some _ => .error .exists
        | none => .ok (v.link path .directory) := rfl

theorem makeDirectory_of_walk_error {e : FileError} (hcheck : checkText text = .ok ())
    (hnames : names text = init ++ [name]) (h : v.walk (v.start text) init = .error e) :
    v.makeDirectory text = .error e := by
  rw [makeDirectory_eq, target_eq, hcheck, hnames, List.dropLast_concat]
  simp only [Except.bind, h]

theorem makeDirectory_of_none (hcheck : checkText text = .ok ())
    (hnames : names text = init ++ [name]) (hdot : name ≠ ".") (hdots : name ≠ "..")
    (hname : checkName name = .ok ()) (h : v.walk (v.start text) init = .ok here)
    (hnone : v.node? (here ++ [name]) = none) :
    v.makeDirectory text = .ok (v.link (here ++ [name]) .directory) := by
  rw [makeDirectory_eq, target_of_names hcheck hnames hdot hdots, h]
  simp only [Except.map, Except.bind, checkLast_concat, hname, hnone]

theorem makeDirectory_of_there (h : v.leadsToDirectory text = true) :
    v.makeDirectory text = .error .exists := by
  obtain ⟨hcheck, p, hleads⟩ := leadsToDirectory_iff.mp h
  have hfind := find_eq_directory_iff.mpr ⟨hcheck, hleads⟩
  rw [find_eq] at hfind
  rw [makeDirectory_eq]
  cases htarget : v.target text with
  | error e =>
    rw [htarget] at hfind
    simp [Except.bind] at hfind
  | ok target =>
    rw [htarget] at hfind
    cases target with
    | here path => rfl
    | above path => rfl
    | entry path slashed =>
      simp only [Except.bind] at hfind ⊢
      cases hlast : checkLast path with
      | error e =>
        rw [hlast] at hfind
        simp at hfind
      | ok _ =>
        rw [hlast] at hfind
        cases hnode : v.node? path with
        | none =>
          rw [hnode] at hfind
          simp at hfind
        | some node => rfl

theorem makeAll_of_there {texts : List String}
    (h : ∀ text ∈ texts, v.leadsToDirectory text = true) : v.makeAll texts = (v, .ok ()) := by
  induction texts with
  | nil => rfl
  | cons text rest ih =>
    have htext := h text List.mem_cons_self
    rw [makeAll, makeDirectory_of_there htext]
    simp only [htext]
    exact ih fun other hmem => h other (List.mem_cons_of_mem _ hmem)

/-! ## Where a directory is missing -/

/-- Only the name of what has been removed leads nowhere now. -/
theorem enter_unlink (hne : p ≠ []) (h : w.enter here name = .ok there) :
    (w.unlink p).enter here name = .ok there ∨
      (w.unlink p).enter here name = .error .notFound ∧ name ≠ "." ∧ name ≠ ".." ∧
        checkName name = .ok () ∧ here ++ [name] = p := by
  by_cases hdot : name = "."
  · left
    rw [hdot] at h ⊢
    exact h
  · by_cases hdots : name = ".."
    · left
      rw [hdots] at h ⊢
      exact h
    · obtain ⟨hcheck, hnode, hthere⟩ := (enter_eq_ok_iff hdot hdots).mp h
      have hunlink := node?_unlink w p hne (here ++ [name])
      by_cases hp : here ++ [name] = p
      · right
        refine ⟨?_, hdot, hdots, hcheck, hp⟩
        rw [if_pos hp] at hunlink
        rw [enter_name hdot hdots, hcheck, hunlink]
        rfl
      · left
        rw [if_neg hp] at hunlink
        exact (enter_eq_ok_iff hdot hdots).mpr ⟨hcheck, hunlink.trans hnode, hthere⟩

theorem walk_unlink_cases (hne : p ≠ []) {names : List String} (h : w.walk here names = .ok q) :
    (w.unlink p).walk here names = .ok q ∨
      (w.unlink p).walk here names = .error .notFound := by
  induction names generalizing here with
  | nil => exact Or.inl h
  | cons name rest ih =>
    obtain ⟨there, henter, hrest⟩ := walk_cons_eq_ok_iff.mp h
    rw [walk_cons]
    rcases enter_unlink hne henter with hentered | ⟨hgone, _⟩
    · rw [hentered]
      exact ih hrest
    · rw [hgone]
      exact Or.inr rfl

/-- A path that what has been removed is on: it gets there and makes it again, or it ends before. -/
theorem makeDirectory_unlink (hne : p ≠ []) (hcheck : checkText text = .ok ())
    (hnames : names text = init ++ [name]) (h : w.Leads text q)
    (hgone : ¬ (w.unlink p).Leads text q) :
    (w.unlink p).makeDirectory text = .ok ((w.unlink p).link p .directory) ∨
      (w.unlink p).makeDirectory text = .error .notFound ∧
        (w.unlink p).walk (w.start text) init = .error .notFound := by
  unfold Leads at h hgone
  rw [hnames] at h hgone
  obtain ⟨here, hinit, henter⟩ := walk_concat_eq_ok_iff.mp h
  rcases walk_unlink_cases hne hinit with hwalk | hwalk
  · left
    rcases enter_unlink hne henter with hentered | ⟨_, hdot, hdots, hname, hp⟩
    · exact absurd (walk_concat_eq_ok_iff.mpr ⟨here, hwalk, hentered⟩) hgone
    · have hnone : (w.unlink p).node? (here ++ [name]) = none := by
        rw [node?_unlink w p hne, if_pos hp]
      rw [makeDirectory_of_none hcheck hnames hdot hdots hname hwalk hnone, hp]
  · exact Or.inr ⟨makeDirectory_of_walk_error hcheck hnames hwalk, hwalk⟩

/-! ## The directories on the way -/

/-- The strides of a path that ends with a name go the same way as its names. -/
theorem strides_concat (hnames : names text = init ++ [name]) (hdot : name ≠ ".") :
    ∃ lead, strides text = lead ++ [name] ∧
      ∀ (v : Volume) (here : Path), v.walk here lead = v.walk here init := by
  have hlast : [name].filter (· ≠ ".") = [name] := by
    rw [List.filter_cons_of_pos (by simpa using hdot), List.filter_nil]
  have hfilter : (names text).filter (· ≠ ".") = init.filter (· ≠ ".") ++ [name] := by
    rw [hnames, List.filter_append, hlast]
  unfold strides
  split
  · rename_i rest _ hdotted
    cases init with
    | nil =>
      rw [hnames] at hdotted
      exact absurd (List.cons.inj hdotted).1 hdot
    | cons first init =>
      rw [hnames, List.cons_append] at hdotted
      obtain ⟨rfl, rfl⟩ := List.cons.inj hdotted
      refine ⟨"." :: init.filter (· ≠ "."), ?_, fun v here => ?_⟩
      · rw [List.filter_append, hlast]
        rfl
      · rw [walk_cons, walk_cons]
        congr 1
        funext there
        exact walk_filter v there init
  · exact ⟨init.filter (· ≠ "."), hfilter, fun v here => walk_filter v here init⟩

/-- The numbers of strides after which there is a directory on the way. -/
theorem range_filter_succ (count : Nat) :
    ((List.range (count + 2)).filter (0 < ·)).reverse =
      (count + 1) :: ((List.range (count + 1)).filter (0 < ·)).reverse := by
  rw [List.range_succ, List.filter_append, List.reverse_append]
  simp

section Again

variable (hne : p ≠ []) (hcheck : checkText text = .ok ())
  (hway : ∀ count, ∃ q, w.walk (w.start text) ((strides text).take count) = .ok q)

include hcheck hway

theorem leadsToDirectory_ancestor {count : Nat} (hsome : (strides text).take count ≠ []) :
    w.leadsToDirectory (ancestor text count) = true := by
  obtain ⟨q, hq⟩ := hway count
  refine leadsToDirectory_iff.mpr ⟨checkText_ancestor hcheck hsome, q, ?_⟩
  unfold Leads
  rw [start_of_isRooted w (isRooted_ancestor hsome), names_ancestor hsome]
  exact hq

include hne

/-- From a path on which a directory is missing, what is missing is found on the way out. -/
theorem makeFirst_ancestors {count : Nat} (hcount : count ≤ (strides text).length)
    (hgone : (w.unlink p).walk (w.start text) ((strides text).take count) = .error .notFound)
    (missing : List String) :
    ∃ more, (w.unlink p).makeFirst missing
          (((List.range (count + 1)).filter (0 < ·)).reverse.map (ancestor text)) =
        ((w.unlink p).link p .directory, .ok more) ∧
      ∀ text ∈ more, text ∈ missing ∨ w.leadsToDirectory text = true := by
  induction count generalizing missing with
  | zero => simp [walk, pure, Except.pure] at hgone
  | succ count ih =>
    have hlt : count < (strides text).length := hcount
    have htake : (strides text).take (count + 1) =
        (strides text).take count ++ [(strides text)[count]] := by
      rw [List.take_succ_eq_append_getElem hlt]
    have hsome : (strides text).take (count + 1) ≠ [] := by
      rw [htake]
      exact List.append_ne_nil_of_right_ne_nil _ (List.cons_ne_nil _ _)
    obtain ⟨q, hq⟩ := hway (count + 1)
    have hstart : ∀ u : Volume, u.start (ancestor text (count + 1)) = u.start text :=
      fun u => start_of_isRooted u (isRooted_ancestor hsome)
    have hleads : w.Leads (ancestor text (count + 1)) q := by
      unfold Leads
      rw [hstart, names_ancestor hsome]
      exact hq
    have hends : ¬ (w.unlink p).Leads (ancestor text (count + 1)) q := by
      unfold Leads
      rw [hstart, names_ancestor hsome]
      intro hok
      rw [show (w.unlink p).walk ((w.unlink p).start text) _ = .error .notFound from hgone] at hok
      simp at hok
    rw [range_filter_succ, List.map_cons, makeFirst]
    rcases makeDirectory_unlink hne (checkText_ancestor hcheck hsome)
      ((names_ancestor hsome).trans htake) hleads hends with hmade | ⟨hmissing, hwalk⟩
    · rw [hmade]
      exact ⟨missing, rfl, fun text hmem => Or.inl hmem⟩
    · rw [hstart] at hwalk
      rw [hmissing]
      obtain ⟨more, hmore, hall⟩ :=
        ih (Nat.le_of_succ_le hcount) hwalk (ancestor text (count + 1) :: missing)
      refine ⟨more, hmore, fun other hmem => ?_⟩
      rcases hall other hmem with hother | hother
      · rcases List.mem_cons.mp hother with rfl | hother
        · exact Or.inr (leadsToDirectory_ancestor hcheck hway hsome)
        · exact Or.inl hother
      · exact Or.inr hother

end Again

/-! ## The whole path -/

/-- A removed directory that is made again is as it was. -/
theorem node?_relink (hne : p ≠ []) (h : w.node? p = some .directory) (q : Path) :
    ((w.unlink p).link p .directory).node? q = w.node? q := by
  rw [node?_link _ p _ hne, node?_unlink w p hne]
  split
  · rename_i heq
    rw [heq, h]
  · rfl

theorem extends_relink (hne : p ≠ []) (h : w.node? p = some .directory) :
    w.Extends ((w.unlink p).link p .directory) := .of_nodes rfl (node?_relink hne h)

/-- The place of a path that ends with a name. -/
theorem foldl_of_walk (hnames : names text = init ++ [name]) (hdot : name ≠ ".")
    (hdots : name ≠ "..") (h : v.walk (v.start text) init = .ok here) :
    (names text).foldl comeTo (v.start text) = here ++ [name] := by
  rw [hnames, List.foldl_append, ← eq_foldl_of_walk h, List.foldl_cons, List.foldl_nil, comeTo,
    if_neg hdot, if_neg hdots]

/-- What has been removed by its name is missing now. -/
theorem isThere_unlink (hcheck : checkText text = .ok ()) (hnames : names text = init ++ [name])
    (hdot : name ≠ ".") (hdots : name ≠ "..") (h : w.Leads text p) (hne : p ≠ []) :
    (w.unlink p).isThere text = false := by
  have hplace : ∀ here, (w.unlink p).walk (w.start text) init = .ok here → here ++ [name] = p := by
    intro here hwalk
    rw [h.eq_foldl]
    exact (foldl_of_walk hnames hdot hdots hwalk).symm
  unfold isThere
  rw [find_eq, target_of_names hcheck hnames hdot hdots]
  cases hwalk : (w.unlink p).walk ((w.unlink p).start text) init with
  | error e => rfl
  | ok here =>
    have hnone : (w.unlink p).node? (here ++ [name]) = none := by
      rw [node?_unlink w p hne, if_pos (hplace here hwalk)]
    simp only [Except.map, Except.bind, hnone]
    cases checkLast (here ++ [name]) <;> rfl

/-- What has been removed by its name can be made again. -/
theorem makeDirectories_unlink (hcheck : checkText text = .ok ())
    (hnames : names text = init ++ [name]) (hdot : name ≠ ".") (hdots : name ≠ "..")
    (h : w.Leads text p) (hne : p ≠ []) (hnode : w.node? p = some .directory) :
    (w.unlink p).makeDirectories text = ((w.unlink p).link p .directory, .ok ()) := by
  obtain ⟨lead, hstrides, hlead⟩ := strides_concat hnames hdot
  have hgone : ¬ (w.unlink p).Leads text p := by
    intro hleads
    have hthere := isThere_of_leads hcheck hleads
    rw [isThere_unlink hcheck hnames hdot hdots h hne] at hthere
    exact Bool.false_ne_true hthere
  have hwhole : w.walk (w.start text) (strides text) = .ok p := by
    rw [hstrides, walk_append, hlead, ← walk_append, ← hnames]
    exact h
  have hway : ∀ count, ∃ q, w.walk (w.start text) ((strides text).take count) = .ok q := by
    intro count
    rw [← List.take_append_drop count (strides text)] at hwhole
    obtain ⟨q, hq, _⟩ := walk_append_eq_ok_iff.mp hwhole
    exact ⟨q, hq⟩
  have hsome : strides text ≠ [] := by simp [hstrides]
  have hancestors : ancestors text =
      ((List.range (lead.length + 1)).filter (0 < ·)).reverse.map (ancestor text) := by
    rw [ancestors_eq, hstrides, List.length_append]
    rfl
  unfold makeDirectories
  rw [if_neg hsome, makeFirst]
  rcases makeDirectory_unlink hne hcheck hnames h hgone with hmade | ⟨hmissing, hwalk⟩
  · rw [hmade]
    rfl
  · have htake : (strides text).take lead.length = lead := by rw [hstrides, List.take_left]
    rw [← hlead, ← htake] at hwalk
    obtain ⟨more, hmore, hall⟩ := makeFirst_ancestors hne hcheck hway
      (by rw [hstrides, List.length_append]; exact Nat.le_add_right _ _) hwalk [text]
    rw [hmissing, hancestors]
    simp only
    rw [hmore]
    refine makeAll_of_there fun other hmem => ?_
    have hthere : w.leadsToDirectory other = true := by
      rcases hall other hmem with htext | hother
      · rw [List.mem_singleton.mp htext]
        exact leadsToDirectory_iff.mpr ⟨hcheck, p, h⟩
      · exact hother
    obtain ⟨hother, q, hq⟩ := leadsToDirectory_iff.mp hthere
    exact leadsToDirectory_iff.mpr ⟨hother, q, hq.mono (extends_relink hne hnode).keepsDirectories⟩

/-! ## What is new -/

/-- Every name is in a directory. -/
def Grounded (v : Volume) : Prop :=
  ∀ {path : Path} {name : String} {node : Node},
    v.node? (path ++ [name]) = some node → v.node? path = some .directory

theorem grounded_empty : empty.Grounded := by
  intro path name node hnode
  unfold node? at hnode
  split at hnode
  · rename_i hnil
    exact absurd hnil (by simp)
  · simp [empty] at hnode

/-- With no step back, each name leads further. -/
theorem foldl_comeTo {names : List String} (hdots : ".." ∉ names) (here : Path) :
    names.foldl comeTo here = here ++ names.filter (· ≠ ".") := by
  induction names generalizing here with
  | nil => simp
  | cons name rest ih =>
    have hname : name ≠ ".." := fun heq => hdots (heq ▸ List.mem_cons_self)
    rw [List.foldl_cons, ih fun hmem => hdots (List.mem_cons_of_mem _ hmem), comeTo]
    by_cases hdot : name = "."
    · rw [if_pos hdot, List.filter_cons_of_neg (by simpa using hdot)]
    · rw [if_neg hdot, if_neg hname, List.filter_cons_of_pos (by simpa using hdot),
        List.append_assoc]
      rfl

theorem place_of_target {path : Path} {slashed : Bool}
    (h : v.target text = .ok (.entry path slashed)) :
    path = (names text).foldl comeTo (v.start text) := by
  obtain ⟨init, name, here, hnames, hdot, hdots, hwalk, rfl⟩ := names_of_target h
  exact (foldl_of_walk hnames hdot hdots hwalk).symm

/-- The directories on the way to a path have names of the path, and begin where it begins. -/
theorem names_sublist_of_mem {other : String} (h : other ∈ text :: ancestors text) :
    (names other).Sublist (names text) ∧ isRooted other = isRooted text := by
  rcases List.mem_cons.mp h with rfl | h
  · exact ⟨List.Sublist.refl _, rfl⟩
  · rw [ancestors_eq] at h
    obtain ⟨count, hcount, rfl⟩ := List.mem_map.mp h
    obtain ⟨hlt, hpos⟩ := List.mem_filter.mp (List.mem_reverse.mp hcount)
    have hsome : (strides text).take count ≠ [] := by
      rw [List.mem_range] at hlt
      rw [← List.length_pos_iff, List.length_take]
      exact Nat.lt_min.mpr ⟨of_decide_eq_true hpos, Nat.zero_lt_of_lt hlt⟩
    refine ⟨?_, isRooted_ancestor hsome⟩
    rw [names_ancestor hsome]
    exact (List.take_sublist _ _).trans (strides_sublist text)

/-- Below the place of a path, two volumes are the same. -/
structure SameBelow (text : String) (v v' : Volume) : Prop where
  workingDirectory : v'.workingDirectory = v.workingDirectory
  node : ∀ q : Path, ((names text).foldl comeTo (v.start text)).length < q.length →
    v'.node? q = v.node? q

theorem SameBelow.refl (v : Volume) : SameBelow text v v := ⟨rfl, fun _ _ => rfl⟩

theorem SameBelow.trans {v' : Volume} (h : SameBelow text v v') (h' : SameBelow text v' w) :
    SameBelow text v w := by
  have hstart := start_of_workingDirectory h.workingDirectory text
  refine ⟨h'.workingDirectory.trans h.workingDirectory, fun q hlong => ?_⟩
  rw [h'.node q (by rw [hstart]; exact hlong), h.node q hlong]

theorem SameBelow.of_makeDirectory {v' : Volume} {other : String} (hdots : ".." ∉ names text)
    (hother : other ∈ text :: ancestors text) (h : v.makeDirectory other = .ok v') :
    SameBelow text v v' := by
  obtain ⟨path, slashed, htarget, _, rfl⟩ := makeDirectory_cases h
  obtain ⟨hnames, hrooted⟩ := names_sublist_of_mem hother
  have hstart := start_of_isRooted v hrooted
  have hne : path ≠ [] := by
    obtain ⟨_, _, here, _, _, _, _, rfl⟩ := names_of_target htarget
    simp
  refine ⟨rfl, fun q hlong => ?_⟩
  rw [node?_link v path _ hne, if_neg]
  -- A directory that is made is no further down than the place of the path.
  rintro rfl
  rw [place_of_target htarget, hstart, foldl_comeTo hdots,
    foldl_comeTo fun hmem => hdots (hnames.subset hmem), List.length_append,
    List.length_append] at hlong
  exact absurd (hnames.filter _).length_le (Nat.not_le_of_lt (Nat.lt_of_add_lt_add_left hlong))

/-- Nothing is made below the directory that a path leads to. -/
theorem node?_makeDirectories (hdots : ".." ∉ names text)
    (h : (v.makeDirectories text).1.Leads text p) {q : Path} (hlong : p.length < q.length) :
    (v.makeDirectories text).1.node? q = v.node? q := by
  have hsame : SameBelow text v (v.makeDirectories text).1 :=
    makeDirectories_rel SameBelow.refl SameBelow.trans
      (fun _ hother => SameBelow.of_makeDirectory hdots hother) v
  refine hsame.node q ?_
  rw [h.eq_foldl, start_of_workingDirectory hsame.workingDirectory] at hlong
  exact hlong

/-- The directories on the way to something are all there. -/
theorem walk_of_grounded (hgrounded : v.Grounded) {names : List String}
    (h : w.walk here names = .ok p) (hdots : ".." ∉ names) (hp : v.node? p = some .directory) :
    v.walk here names = .ok p ∧ v.node? here = some .directory := by
  induction names generalizing here with
  | nil =>
    obtain rfl := Except.ok.inj h
    exact ⟨rfl, hp⟩
  | cons name rest ih =>
    obtain ⟨there, henter, hrest⟩ := walk_cons_eq_ok_iff.mp h
    have hname : name ≠ ".." := fun heq => hdots (heq ▸ List.mem_cons_self)
    obtain ⟨hwalk, hthere⟩ := ih hrest fun hmem => hdots (List.mem_cons_of_mem _ hmem)
    rw [walk_cons_eq_ok_iff]
    by_cases hdot : name = "."
    · rw [hdot, enter_dot] at henter
      rw [hdot, Except.ok.inj henter]
      exact ⟨⟨there, rfl, hwalk⟩, hthere⟩
    · obtain ⟨hcheck, _, rfl⟩ := (enter_eq_ok_iff hdot hname).mp henter
      exact ⟨⟨_, (enter_eq_ok_iff hdot hname).mpr ⟨hcheck, hthere, rfl⟩, hwalk⟩, hgrounded hthere⟩

theorem leads_of_grounded (hgrounded : v.Grounded) (hdots : ".." ∉ names text)
    (h : w.Leads text p) (hdirectory : w.workingDirectory = v.workingDirectory)
    (hp : v.node? p = some .directory) : v.Leads text p := by
  unfold Leads at h ⊢
  rw [start_of_workingDirectory hdirectory] at h
  exact (walk_of_grounded hgrounded h hdots hp).1

end OrderedStore.Volume
