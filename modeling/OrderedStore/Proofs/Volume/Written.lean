import Mathlib.Data.List.Basic
import Mathlib.Data.List.Flatten
import OrderedStore.Directory

/-!
# Written paths

What the names in a written path are once another name has been put behind it (`names_join`),
and what the written paths of the directories on the way are (`names_ancestor`,
`checkText_ancestor`).  All of it comes down to taking a list of characters apart at the
slashes.
-/

set_option autoImplicit false

namespace OrderedStore

/-! ## Taking apart at the slashes -/

theorem not_mem_of_mem_splitOn {slash : Char} {chars piece : List Char}
    (h : piece ∈ chars.splitOn slash) : slash ∉ piece := by
  induction chars generalizing piece with
  | nil =>
    rw [List.splitOn_nil, List.mem_singleton] at h
    rw [h]
    exact List.not_mem_nil
  | cons c rest ih =>
    rw [List.splitOn_cons_eq_if_modifyHead] at h
    split at h
    · rcases List.mem_cons.mp h with rfl | h
      · exact List.not_mem_nil
      · exact ih h
    · rename_i hne
      cases hrest : rest.splitOn slash with
      | nil => exact absurd hrest (List.splitOn_ne_nil _ _)
      | cons first others =>
        rw [hrest, List.modifyHead_cons] at h
        rcases List.mem_cons.mp h with rfl | h
        · have hfirst : slash ∉ first := ih (by rw [hrest]; exact List.mem_cons_self)
          refine fun hmem => (List.mem_cons.mp hmem).elim (fun heq => hne ?_) hfirst
          rw [heq, beq_self_eq_true]
        · exact ih (by rw [hrest]; exact List.mem_cons_of_mem _ h)

theorem intercalate_cons_eq_append (separator first : List Char) (lists : List (List Char)) :
    ∃ tail, separator.intercalate (first :: lists) = first ++ tail := by
  cases lists with
  | nil => exact ⟨[], by rw [List.intercalate_singleton, List.append_nil]⟩
  | cons second rest => exact ⟨_, by rw [List.intercalate_cons_cons, List.append_assoc]⟩

/-- Leaving pieces out leaves characters out. -/
theorem intercalate_sublist (separator : List Char) {lists more : List (List Char)}
    (h : lists.Sublist more) :
    (separator.intercalate lists).Sublist (separator.intercalate more) := by
  have hcons : ∀ (l : List Char) (ls : List (List Char)),
      (separator.intercalate ls).Sublist (separator.intercalate (l :: ls)) := by
    intro l ls
    cases ls with
    | nil => exact List.nil_sublist _
    | cons second rest =>
      rw [List.intercalate_cons_cons]
      exact List.sublist_append_right _ _
  induction h with
  | slnil => exact List.Sublist.refl _
  | @cons ls ls' l hsub ih => exact ih.trans (hcons l ls')
  | @cons_cons ls ls' l hsub ih =>
    cases ls with
    | nil =>
      obtain ⟨tail, htail⟩ := intercalate_cons_eq_append separator l ls'
      rw [List.intercalate_singleton, htail]
      exact List.sublist_append_left _ _
    | cons second rest =>
      have hne : ls' ≠ [] := by
        rintro rfl
        exact absurd hsub.length_le (by simp)
      rw [List.intercalate_cons_cons, List.intercalate_cons_of_ne_nil hne]
      exact (List.Sublist.refl _).append ih

namespace Volume

/-! ## Names -/

/-- A text that can stand between two slashes. -/
structure IsName (name : String) : Prop where
  ne_empty : name ≠ ""
  slashless : '/' ∉ name.toList

/-- A name of something in a directory, and of neither the directory itself nor the one
above. -/
structure Regular (name : String) : Prop extends IsName name where
  ne_dot : name ≠ "."
  ne_dots : name ≠ ".."
  check : checkName name = .ok ()

theorem regular_lock : Regular "LOCK" where
  ne_empty := by decide
  slashless := by decide
  ne_dot := by decide
  ne_dots := by decide
  check := by rfl

theorem regular_data : Regular "data.redb" where
  ne_empty := by decide
  slashless := by decide
  ne_dot := by decide
  ne_dots := by decide
  check := by rfl

variable {name text : String}

theorem IsName.toList_ne_nil (h : IsName name) : name.toList ≠ [] :=
  fun hnil => h.ne_empty (String.toList_eq_nil_iff.mp hnil)

theorem isName_of_mem_names (h : name ∈ names text) : IsName name := by
  obtain ⟨piece, hpiece, rfl⟩ := List.mem_map.mp h
  obtain ⟨hmem, hne⟩ := List.mem_filter.mp hpiece
  refine ⟨fun hempty => ?_, ?_⟩
  · rw [← String.toList_eq_nil_iff, String.toList_ofList] at hempty
    simp [hempty] at hne
  · rw [String.toList_ofList]
    exact not_mem_of_mem_splitOn hmem

theorem names_empty : names "" = [] := by decide

theorem names_slash (a b : String) : names (a ++ "/" ++ b) = names a ++ names b := by
  have htoList : (a ++ "/" ++ b).toList = a.toList ++ '/' :: b.toList := by
    rw [String.toList_append, String.toList_append, List.append_assoc]
    rfl
  unfold names
  rw [htoList, List.splitOn_append_cons_self, List.filter_append, List.map_append]

theorem names_of_isName (h : IsName name) : names name = [name] := by
  have hkeep : [name.toList].filter (fun piece => decide (piece ≠ [])) = [name.toList] := by
    rw [List.filter_cons_of_pos (by simpa using h.toList_ne_nil), List.filter_nil]
  unfold names
  rw [List.splitOn_eq_singleton h.slashless, hkeep, List.map_singleton, String.ofList_toList]

theorem eq_append_slash (h : isSlashed text = true) : ∃ stem, text = stem ++ "/" := by
  obtain ⟨stem, hstem⟩ := List.getLast?_eq_some_iff.mp (of_decide_eq_true h)
  refine ⟨String.ofList stem, String.toList_inj.mp ?_⟩
  rw [hstem, String.toList_append, String.toList_ofList]
  rfl

/-- The names in a written path with one more name. -/
theorem names_join (h : IsName name) (text : String) :
    names (Directory.join text name) = names text ++ [name] := by
  unfold Directory.join
  split
  · rename_i hend
    rcases Bool.or_eq_true _ _ |>.mp hend with hempty | hslashed
    · rw [of_decide_eq_true hempty, String.empty_append, names_of_isName h, names_empty]
      rfl
    · obtain ⟨stem, rfl⟩ := eq_append_slash hslashed
      have hstem : names (stem ++ "/") = names stem := by
        have hslash := names_slash stem ""
        rw [String.append_empty, names_empty, List.append_nil] at hslash
        exact hslash
      rw [names_slash, names_of_isName h, hstem]
  · rw [names_slash, names_of_isName h]

theorem toList_join (text name : String) :
    ∃ stem, (Directory.join text name).toList = stem ++ name.toList ∧
      (text ≠ "" → ∃ rest, stem = text.toList ++ rest) := by
  unfold Directory.join
  split
  · exact ⟨text.toList, String.toList_append, fun _ => ⟨[], (List.append_nil _).symm⟩⟩
  · refine ⟨(text ++ "/").toList, String.toList_append, fun _ => ⟨"/".toList, ?_⟩⟩
    exact String.toList_append

theorem isRooted_join (h : IsName name) (text : String) :
    isRooted (Directory.join text name) = isRooted text := by
  obtain ⟨stem, hjoin, hstem⟩ := toList_join text name
  by_cases hempty : text = ""
  · have hrooted : isRooted name = false :=
      decide_eq_false fun hhead => h.slashless (List.mem_of_head? hhead)
    have hname : Directory.join "" name = name := String.empty_append
    rw [hempty, hname, hrooted]
    rfl
  · obtain ⟨rest, rfl⟩ := hstem hempty
    have hne : text.toList ≠ [] := fun hnil => hempty (String.toList_eq_nil_iff.mp hnil)
    unfold isRooted
    rw [hjoin, List.append_assoc, List.head?_append_of_ne_nil _ hne]

theorem isSlashed_join (h : IsName name) (text : String) :
    isSlashed (Directory.join text name) = false := by
  obtain ⟨stem, hjoin, _⟩ := toList_join text name
  unfold isSlashed
  rw [hjoin, List.getLast?_append_of_ne_nil _ h.toList_ne_nil]
  refine decide_eq_false fun hlast => h.slashless ?_
  exact List.mem_of_getLast? hlast

/-! ## Texts that file system calls take -/

theorem checkText_eq_ok_iff :
    checkText text = .ok () ↔
      '\x00' ∉ text.toList ∧ text ≠ "" ∧ (utf8 text).length < pathLimit := by
  unfold checkText
  by_cases hnul : '\x00' ∈ text.toList
  · simp [hnul]
  · by_cases hempty : text = ""
    · simp [hempty]
    · by_cases hlong : pathLimit ≤ (utf8 text).length
      · simp [hnul, hempty, hlong]
      · simp [hnul, hempty, hlong, Nat.lt_of_not_le hlong]

/-- A text with some characters left out is taken as well. -/
theorem checkText_of_sublist {part : String} (h : checkText text = .ok ())
    (hsub : part.toList.Sublist text.toList) (hne : part ≠ "") : checkText part = .ok () := by
  obtain ⟨hnul, _, hlength⟩ := checkText_eq_ok_iff.mp h
  refine checkText_eq_ok_iff.mpr ⟨fun hmem => hnul (hsub.subset hmem), hne, ?_⟩
  exact Nat.lt_of_le_of_lt (hsub.flatMap String.utf8EncodeChar).length_le hlength

/-- If the longer of two names can be put behind a path, so can the other one. -/
theorem checkText_lockPath (h : checkText (Directory.dataPath text) = .ok ()) :
    checkText (Directory.lockPath text) = .ok () := by
  have hjoin : ∀ name : String, (Directory.join text name).toList =
      (Directory.join text "").toList ++ name.toList := by
    intro name
    unfold Directory.join
    split <;> simp
  obtain ⟨hnul, _, hlength⟩ := checkText_eq_ok_iff.mp h
  unfold Directory.dataPath utf8 at hlength
  unfold Directory.dataPath at hnul
  rw [hjoin, List.flatMap_append, List.length_append] at hlength
  rw [hjoin, List.mem_append, not_or] at hnul
  refine checkText_eq_ok_iff.mpr ⟨?_, fun hempty => ?_, ?_⟩
  · rw [Directory.lockPath, hjoin, List.mem_append, not_or]
    exact ⟨hnul.1, by decide⟩
  · have hlist := hjoin "LOCK"
    rw [show Directory.join text "LOCK" = "" from hempty] at hlist
    exact absurd (List.append_eq_nil_iff.mp hlist.symm).2 (by decide)
  · unfold Directory.lockPath utf8
    rw [hjoin, List.flatMap_append, List.length_append]
    refine Nat.lt_of_le_of_lt (Nat.add_le_add_left ?_ _) hlength
    decide

/-! ## The directories on the way -/

/-- The written path of so many strides of a written path. -/
def ancestor (text : String) (count : Nat) : String :=
  (if isRooted text then "/" else "") ++ "/".intercalate ((strides text).take count)

theorem ancestors_eq (text : String) :
    ancestors text =
      ((List.range (strides text).length).filter (0 < ·)).reverse.map (ancestor text) := rfl

theorem strides_sublist (text : String) : (strides text).Sublist (names text) := by
  unfold strides
  split
  · rename_i hnames
    rw [hnames]
    exact List.filter_sublist.cons_cons _
  · exact List.filter_sublist

theorem names_intercalate {parts : List String} (h : ∀ part ∈ parts, IsName part)
    (hne : parts ≠ []) : names ("/".intercalate parts) = parts := by
  have hslashless : ∀ piece ∈ parts.map String.toList, '/' ∉ piece := by
    intro piece hmem
    obtain ⟨part, hpart, rfl⟩ := List.mem_map.mp hmem
    exact (h part hpart).slashless
  have hkeep : (parts.map String.toList).filter (fun piece => decide (piece ≠ [])) =
      parts.map String.toList := by
    refine List.filter_eq_self.mpr fun piece hmem => decide_eq_true ?_
    obtain ⟨part, hpart, rfl⟩ := List.mem_map.mp hmem
    exact (h part hpart).toList_ne_nil
  unfold names
  rw [String.toList_intercalate, show "/".toList = ['/'] from rfl,
    List.splitOn_intercalate _ hslashless (by simpa using hne), hkeep, List.map_map]
  refine (List.map_congr_left fun part _ => ?_).trans (List.map_id _)
  exact String.ofList_toList

section Ancestors

variable {count : Nat}

theorem isName_of_mem_take (h : name ∈ (strides text).take count) : IsName name :=
  isName_of_mem_names ((strides_sublist text).subset (List.mem_of_mem_take h))

theorem names_ancestor (hne : (strides text).take count ≠ []) :
    names (ancestor text count) = (strides text).take count := by
  have hnames := names_intercalate (fun _ => isName_of_mem_take) hne
  unfold ancestor
  split
  · have hslash := names_slash "" ("/".intercalate ((strides text).take count))
    rw [String.empty_append, names_empty, List.nil_append, hnames] at hslash
    exact hslash
  · rw [String.empty_append, hnames]

theorem isRooted_ancestor (hne : (strides text).take count ≠ []) :
    isRooted (ancestor text count) = isRooted text := by
  unfold ancestor
  split
  · rename_i hrooted
    rw [hrooted, isRooted, String.toList_append]
    rfl
  · rename_i hrooted
    obtain ⟨first, rest, htake⟩ := List.exists_cons_of_ne_nil hne
    have hfirst : IsName first := isName_of_mem_take (by rw [htake]; exact List.mem_cons_self)
    obtain ⟨c, chars, hchars⟩ := List.exists_cons_of_ne_nil hfirst.toList_ne_nil
    obtain ⟨tail, htail⟩ :=
      intercalate_cons_eq_append ['/'] first.toList (rest.map String.toList)
    rw [Bool.not_eq_true] at hrooted
    rw [hrooted, String.empty_append, htake, isRooted, String.toList_intercalate, List.map_cons,
      show "/".toList = ['/'] from rfl, htail, hchars]
    refine decide_eq_false fun heq => hfirst.slashless ?_
    rw [hchars, ← Option.some.inj heq]
    exact List.mem_cons_self

theorem toList_ancestor_sublist (text : String) (count : Nat) :
    (ancestor text count).toList.Sublist text.toList := by
  -- The strides are among the pieces between the slashes, of which the empty ones are no names.
  have hpieces : (((strides text).take count).map String.toList).Sublist
      ((text.toList.splitOn '/').filter (· ≠ [])) := by
    have hnames : (names text).map String.toList = (text.toList.splitOn '/').filter (· ≠ []) := by
      unfold names
      rw [List.map_map]
      refine (List.map_congr_left fun piece _ => ?_).trans (List.map_id _)
      exact String.toList_ofList
    rw [← hnames]
    exact ((List.take_sublist _ _).trans (strides_sublist text)).map _
  have hwhole : ['/'].intercalate (text.toList.splitOn '/') = text.toList :=
    List.intercalate_splitOn '/'
  unfold ancestor
  rw [String.toList_append, String.toList_intercalate, show "/".toList = ['/'] from rfl]
  split
  · rename_i hrooted
    obtain ⟨rest, hrest⟩ := List.head?_eq_some_iff.mp (of_decide_eq_true hrooted)
    have hsplit : text.toList.splitOn '/' = [] :: rest.splitOn '/' := by
      rw [hrest, List.splitOn_cons_eq_if_modifyHead, if_pos (beq_self_eq_true '/')]
    rw [hsplit, List.filter_cons_of_neg (by simp)] at hpieces
    rw [hrest]
    refine List.Sublist.cons_cons '/' ?_
    have hinside := intercalate_sublist ['/']
      (hpieces.trans List.filter_sublist)
    rw [List.intercalate_splitOn] at hinside
    exact hinside
  · have hinside := intercalate_sublist ['/']
      (hpieces.trans List.filter_sublist)
    rw [hwhole] at hinside
    exact hinside

/-- Whoever takes a path takes the paths of the directories on the way. -/
theorem checkText_ancestor (h : checkText text = .ok ()) (hne : (strides text).take count ≠ []) :
    checkText (ancestor text count) = .ok () := by
  refine checkText_of_sublist h (toList_ancestor_sublist text count) fun hempty => hne ?_
  rw [← names_ancestor hne, hempty, names_empty]

end Ancestors

end Volume

end OrderedStore
