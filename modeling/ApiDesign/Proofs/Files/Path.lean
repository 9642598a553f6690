import ApiDesign.Files.Path
import Mathlib.Data.List.Basic

/-!
# Names under a directory

A path is a text, so what a joined path leads to is seen only from its components.  A name without a
slash that is neither `.` nor `..` adds exactly itself to them, whatever the directory looks like:
empty, the root, with a slash at the end or without one.

* `names_append_slash` — the names of two texts with a slash between them;
* `directChild_join` — a joined name is a direct child of the directory;
* `join_injective` — different names lead to different paths.
-/

namespace ApiDesign.FilePath

variable {base dir name p q : String}

/-- The names on the way, without empty words. -/
def names (p : String) : List String :=
  (Text.splitText '/' p).filter (· ≠ "")

/-- A text that is the name of an entry of a directory: neither the directory nor the one above it,
and nothing further down. -/
structure IsName (name : String) : Prop where
  ne_empty : name ≠ ""
  no_slash : '/' ∉ name.toList
  ne_dot : name ≠ "."
  ne_dots : name ≠ ".."

/-- The path `p` leads to the entry `name` of the directory `dir`, and through nothing else. -/
structure DirectChild (dir name p : String) : Prop where
  isName : IsName name
  components_eq : components p = names dir ++ [name]
  absolute_eq : isAbsolute p = isAbsolute dir

/-! ### Names -/

theorem names_empty : names "" = [] := by
  rfl

/-- Two texts with a slash between them have the names of both. -/
theorem names_append_slash (p q : String) : names (p ++ "/" ++ q) = names p ++ names q := by
  have hchars : (p ++ "/" ++ q).toList = p.toList ++ '/' :: q.toList := by
    simp [String.toList_append]
  rw [names, Text.splitText, hchars, Text.splitAt_append, List.map_append, List.filter_append]
  rfl

theorem names_of_isName (h : IsName name) : names name = [name] := by
  have hwords : Text.splitText '/' name = [name] := by
    rw [Text.splitText, Text.splitAt_of_not_mem h.no_slash, List.map_singleton,
      String.ofList_toList]
  rw [names, hwords]
  exact List.filter_cons_of_pos (by simpa using h.ne_empty)

/-- A slash at the end adds no name. -/
theorem names_append_slash_end (p : String) : names (p ++ "/") = names p := by
  have hnames := names_append_slash p ""
  rwa [String.append_empty, names_empty, List.append_nil] at hnames

theorem components_of_no_slash_end (h : p.toList.getLast? ≠ some '/') : components p = names p :=
  if_neg h

/-- A text with a slash at the end is another one and the slash. -/
theorem exists_append_slash (h : base.toList.getLast? = some '/') : ∃ front, base = front ++ "/" := by
  obtain ⟨front, hfront⟩ := List.getLast?_eq_some_iff.1 h
  refine ⟨String.ofList front, ?_⟩
  rw [← String.toList_inj, String.toList_append, String.toList_ofList, hfront]
  rfl

/-! ### Joined paths -/

theorem IsName.not_absolute (h : IsName name) : isAbsolute name = false := by
  rw [isAbsolute, decide_eq_false_iff_not]
  intro hhead
  exact h.no_slash (List.mem_of_mem_head? hhead)

/-- Below a directory without a slash at the end comes a slash first. -/
theorem join_eq (h : isAbsolute name = false) :
    join base name =
      if base.isEmpty || base.toList.getLast? = some '/' then base ++ name
      else base ++ "/" ++ name := by
  rw [join, h, if_neg Bool.false_ne_true]

theorem names_join (h : IsName name) : names (join base name) = names base ++ [name] := by
  rw [join_eq h.not_absolute]
  split
  · rename_i hbase
    rw [Bool.or_eq_true, decide_eq_true_eq, String.isEmpty_iff] at hbase
    rcases hbase with rfl | hslash
    · rw [String.empty_append, names_of_isName h, names_empty, List.nil_append]
    · obtain ⟨front, rfl⟩ := exists_append_slash hslash
      rw [names_append_slash, names_of_isName h, names_append_slash_end]
  · rw [names_append_slash, names_of_isName h]

/-- What comes behind decides whether a path starts at the root only if nothing stands before it. -/
theorem isAbsolute_append (h : isAbsolute q = false) : isAbsolute (p ++ q) = isAbsolute p := by
  by_cases hp : p = ""
  · rw [hp, String.empty_append, h]
    rfl
  · have hne : p.toList ≠ [] := fun hnil => hp (String.toList_eq_nil_iff.1 hnil)
    rw [isAbsolute, isAbsolute, String.toList_append, List.head?_append_of_ne_nil _ hne]

/-- A joined path ends with the name, and starts at the root if the directory does. -/
theorem exists_join_eq (h : isAbsolute name = false) :
    ∃ front, join base name = front ++ name ∧ isAbsolute front = isAbsolute base := by
  rw [join_eq h]
  split
  · exact ⟨base, rfl, rfl⟩
  · rename_i hbase
    have hne : base.toList ≠ [] := by
      intro hnil
      apply hbase
      rw [String.toList_eq_nil_iff.1 hnil]
      rfl
    refine ⟨base ++ "/", rfl, ?_⟩
    rw [isAbsolute, isAbsolute, String.toList_append, List.head?_append_of_ne_nil _ hne]

/-- **A joined name is a direct child.** -/
theorem directChild_join (h : IsName name) : DirectChild dir name (join dir name) := by
  obtain ⟨front, hjoin, hfront⟩ :
      ∃ front, join dir name = front ++ name ∧ isAbsolute front = isAbsolute dir :=
    exists_join_eq h.not_absolute
  have hne : name.toList ≠ [] := by
    intro hnil
    exact h.ne_empty (String.toList_eq_nil_iff.1 hnil)
  refine ⟨h, ?_, ?_⟩
  · rw [components_of_no_slash_end, names_join h]
    intro hlast
    rw [hjoin, String.toList_append, List.getLast?_append_of_ne_nil _ hne] at hlast
    exact h.no_slash (List.mem_of_getLast? hlast)
  · rw [hjoin, isAbsolute_append h.not_absolute, hfront]

/-- Different names lead to different paths. -/
theorem join_injective (hp : isAbsolute p = false) (hq : isAbsolute q = false)
    (h : join base p = join base q) : p = q := by
  rw [join_eq hp, join_eq hq] at h
  split at h
  · exact String.append_right_inj base |>.1 h
  · exact String.append_right_inj (base ++ "/") |>.1 h

end ApiDesign.FilePath
