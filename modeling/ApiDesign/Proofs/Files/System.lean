import ApiDesign.Files.System
import ApiDesign.Proofs.Basics
import ApiDesign.Proofs.Files.Path
import Mathlib.Data.String.Basic

/-!
# What operations leave of a file system

A path is looked up step by step through directories, so where it leads can change only when a
directory goes away.  No operation takes one away: creating directories touches no file at all, and
writing touches one.

* `SameFiles`, `KeepsDirectories` — what stays of the files and of the directories;
* `Leads` — the absolute path that a path leads to, which stays the same under more directories;
* `createDirectories_spec`, `write_spec` — what the operations do when they go through;
* `apart_of_directChild` — different names in one directory never lead to one absolute path.
-/

namespace ApiDesign.FileSystem

variable {fs gs hs : FileSystem} {cwd l m base : Location} {path contents full : String}

/-! ### Files and directories -/

/-- The contents of the file at an absolute path. -/
def fileAt (fs : FileSystem) (full : String) : Option String :=
  match fs.entries.get? full with
  | some (.file contents) => some contents
  | _ => none

/-- The second file system has exactly the files of the first, with the same contents. -/
def SameFiles (fs gs : FileSystem) : Prop :=
  ∀ full, gs.fileAt full = fs.fileAt full

/-- Every directory of the first file system is one of the second. -/
def KeepsDirectories (fs gs : FileSystem) : Prop :=
  ∀ l, fs.entry? l = some .directory → gs.entry? l = some .directory

theorem SameFiles.refl (fs : FileSystem) : SameFiles fs fs :=
  fun _ => rfl

theorem SameFiles.trans (h : SameFiles fs gs) (h' : SameFiles gs hs) : SameFiles fs hs :=
  fun full => (h' full).trans (h full)

theorem KeepsDirectories.refl (fs : FileSystem) : KeepsDirectories fs fs :=
  fun _ h => h

theorem KeepsDirectories.trans (h : KeepsDirectories fs gs) (h' : KeepsDirectories gs hs) :
    KeepsDirectories fs hs :=
  fun l hl => h' l (h l hl)

theorem fileAt_eq_some_iff :
    fs.fileAt full = some contents ↔ fs.entries.get? full = some (.file contents) := by
  unfold fileAt
  split
  · rename_i heq
    simp [heq]
  · rename_i hne
    refine iff_of_false (by simp) fun heq => hne _ heq

@[simp] theorem entry?_nil (fs : FileSystem) : fs.entry? [] = some .directory := rfl

theorem entry?_of_ne_nil (h : l ≠ []) : fs.entry? l = fs.entries.get? (pathOf l) := by
  unfold entry?
  simp [h]

/-- The root is a directory, so a file is at a location with a name. -/
theorem entry?_eq_file_iff :
    fs.entry? l = some (.file contents) ↔ l ≠ [] ∧ fs.fileAt (pathOf l) = some contents := by
  rw [fileAt_eq_some_iff]
  by_cases h : l = []
  · simp [h]
  · rw [entry?_of_ne_nil h, and_iff_right h]

theorem entry?_put (e : FileEntry) (hm : m ≠ []) :
    FileSystem.entry? (fs.put l e) m = if pathOf m = pathOf l then some e else fs.entry? m := by
  rw [entry?_of_ne_nil hm, entry?_of_ne_nil hm, put, KeyMap.get?_insert]

theorem fileAt_put (e : FileEntry) (full : String) :
    (fs.put l e).fileAt full =
      if full = pathOf l then
        match e with
        | .file contents => some contents
        | .directory => none
      else fs.fileAt full := by
  rw [fileAt, fileAt, put, KeyMap.get?_insert]
  by_cases h : full = pathOf l
  · rw [if_pos h, if_pos h]
    cases e <;> rfl
  · rw [if_neg h, if_neg h]

theorem ne_nil_of_entry?_ne (h : fs.entry? l ≠ some .directory) : l ≠ [] := by
  rintro rfl
  exact h rfl

/-- Only a directory that is replaced goes away. -/
theorem keepsDirectories_put (h : fs.entry? l ≠ some .directory) (e : FileEntry) :
    KeepsDirectories fs (fs.put l e) := by
  intro m hm
  by_cases hroot : m = []
  · rw [hroot, entry?_nil]
  · rw [entry?_put e hroot, if_neg, hm]
    intro hpath
    rw [entry?_of_ne_nil hroot, hpath, ← entry?_of_ne_nil (ne_nil_of_entry?_ne h)] at hm
    exact h hm

/-- Where nothing is, a directory takes no file away. -/
theorem sameFiles_put_directory (h : fs.entry? l = none) : SameFiles fs (fs.put l .directory) := by
  intro full
  rw [fileAt_put]
  split
  · rename_i hfull
    have hne : fs.entry? l ≠ some .directory := by simp [h]
    rw [entry?_of_ne_nil (ne_nil_of_entry?_ne hne)] at h
    rw [fileAt, hfull, h]
  · rfl

/-! ### Looking a path up -/

/-- The absolute path that a path leads to, seen from a working directory. -/
def Leads (fs : FileSystem) (cwd : Location) (path full : String) : Prop :=
  ∃ l, fs.locate cwd path = .ok l ∧ pathOf l = full

/-- Where one name leads from a directory, if it is not too long. -/
def next? (l : Location) (name : String) : Option Location :=
  if name = "." then some l
  else if name = ".." then some l.dropLast
  else if maxNameSize < name.utf8ByteSize then none
  else some (l ++ [name])

theorem next?_of_isName {name : String} (hname : FilePath.IsName name)
    (h : next? l name = some m) : m = l ++ [name] := by
  rw [next?, if_neg hname.ne_dot, if_neg hname.ne_dots] at h
  split at h
  · cases h
  · exact (Option.some.inj h).symm

/-- One step of a look-up: a name is followed from a directory. -/
theorem resolve_cons_eq_ok_iff {name : String} {names : List String} :
    fs.resolve l (name :: names) = .ok m ↔
      fs.entry? l = some .directory ∧
        ∃ next, next? l name = some next ∧ fs.resolve next names = .ok m := by
  rw [resolve, next?]
  cases hentry : fs.entry? l with
  | none => simp
  | some e =>
    cases e with
    | file c => simp
    | directory =>
      dsimp only
      by_cases hdot : name = "."
      · simp [hdot]
      · by_cases hdots : name = ".."
        · simp [hdots]
        · by_cases hsize : maxNameSize < name.utf8ByteSize
          · simp [hdot, hdots, hsize]
          · simp [hdot, hdots, hsize]

/-- A look-up needs the directories on the way and nothing else. -/
theorem resolve_mono (h : KeepsDirectories fs gs) {names : List String}
    (hresolve : fs.resolve l names = .ok m) : gs.resolve l names = .ok m := by
  induction names generalizing l with
  | nil => exact hresolve
  | cons name names ih =>
    rw [resolve_cons_eq_ok_iff] at hresolve ⊢
    obtain ⟨hentry, next, hnext, hrest⟩ := hresolve
    exact ⟨h l hentry, next, hnext, ih hrest⟩

/-- A name behind others goes one step down from where they lead. -/
theorem resolve_append_name {names : List String} {name : String} (hname : FilePath.IsName name)
    (h : fs.resolve l (names ++ [name]) = .ok m) :
    ∃ base, fs.resolve l names = .ok base ∧ m = base ++ [name] := by
  induction names generalizing l with
  | nil =>
    obtain ⟨-, next, hnext, hrest⟩ := resolve_cons_eq_ok_iff.1 h
    have hm : next = m := Except.ok.inj hrest
    exact ⟨l, rfl, next?_of_isName hname (hm ▸ hnext)⟩
  | cons first names ih =>
    obtain ⟨hentry, next, hnext, hrest⟩ := resolve_cons_eq_ok_iff.1 h
    obtain ⟨base, hbase, hm⟩ := ih hrest
    exact ⟨base, resolve_cons_eq_ok_iff.2 ⟨hentry, next, hnext, hbase⟩, hm⟩

theorem locate_eq_ok_iff :
    fs.locate cwd path = .ok l ↔
      path ≠ "" ∧ path.utf8ByteSize ≤ maxPathSize ∧
        fs.resolve (if FilePath.isAbsolute path then [] else cwd) (FilePath.components path) =
          .ok l := by
  rw [locate]
  by_cases hempty : path = ""
  · simp [hempty]
  · by_cases hsize : maxPathSize < path.utf8ByteSize
    · simp [hempty, hsize, Nat.not_le.2 hsize]
    · simp [hempty, hsize, Nat.not_lt.1 hsize]

theorem locate_mono (h : KeepsDirectories fs gs) (hlocate : fs.locate cwd path = .ok l) :
    gs.locate cwd path = .ok l := by
  rw [locate_eq_ok_iff] at hlocate ⊢
  obtain ⟨hempty, hsize, hresolve⟩ := hlocate
  exact ⟨hempty, hsize, resolve_mono h hresolve⟩

theorem Leads.mono (h : KeepsDirectories fs gs) (hleads : fs.Leads cwd path full) :
    gs.Leads cwd path full := by
  obtain ⟨l, hlocate, hfull⟩ := hleads
  exact ⟨l, locate_mono h hlocate, hfull⟩

theorem Leads.unique {full' : String} (h : fs.Leads cwd path full) (h' : fs.Leads cwd path full') :
    full = full' := by
  obtain ⟨l, hlocate, rfl⟩ := h
  obtain ⟨l', hlocate', rfl⟩ := h'
  rw [hlocate] at hlocate'
  rw [Except.ok.inj hlocate']

theorem read_eq_ok_iff :
    fs.read cwd path = .ok contents ↔
      ∃ l, fs.locate cwd path = .ok l ∧ fs.entry? l = some (.file contents) := by
  rw [read, bind_eq_ok_iff]
  refine exists_congr fun l => and_congr_right fun _ => ?_
  split
  · rename_i heq
    simp [heq, pure, Except.pure]
  · rename_i heq
    simp [heq, throw, throwThe, MonadExceptOf.throw]
  · rename_i heq
    simp [heq, throw, throwThe, MonadExceptOf.throw]

/-- A file that can be read is at the absolute path that its path leads to. -/
theorem exists_leads_of_read (h : fs.read cwd path = .ok contents) :
    ∃ full, fs.Leads cwd path full ∧ fs.fileAt full = some contents := by
  obtain ⟨l, hlocate, hentry⟩ := read_eq_ok_iff.1 h
  exact ⟨pathOf l, ⟨l, hlocate, rfl⟩, (entry?_eq_file_iff.1 hentry).2⟩

/-- A file stays readable while the directories stay and nothing happens where it is. -/
theorem read_of_unchanged (h : KeepsDirectories fs gs) (hread : fs.read cwd path = .ok contents)
    (hsame : ∀ full, fs.Leads cwd path full → gs.fileAt full = fs.fileAt full) :
    gs.read cwd path = .ok contents := by
  obtain ⟨l, hlocate, hentry⟩ := read_eq_ok_iff.1 hread
  obtain ⟨hne, hfile⟩ := entry?_eq_file_iff.1 hentry
  rw [read_eq_ok_iff]
  refine ⟨l, locate_mono h hlocate, entry?_eq_file_iff.2 ⟨hne, ?_⟩⟩
  rw [hsame _ ⟨l, hlocate, rfl⟩, hfile]

/-! ### Creating directories -/

/-- What creating directories leaves: all files and all directories that were there. -/
structure AddsDirectories (fs gs : FileSystem) : Prop where
  files : SameFiles fs gs
  directories : KeepsDirectories fs gs

theorem AddsDirectories.refl (fs : FileSystem) : AddsDirectories fs fs :=
  ⟨.refl fs, .refl fs⟩

theorem AddsDirectories.trans (h : AddsDirectories fs gs) (h' : AddsDirectories gs hs) :
    AddsDirectories fs hs :=
  ⟨h.files.trans h'.files, h.directories.trans h'.directories⟩

theorem createDirectory_spec (h : fs.createDirectory cwd path = .ok gs) :
    AddsDirectories fs gs := by
  obtain ⟨l, -, hcreate⟩ := exists_of_bind_ok h
  cases hentry : fs.entry? l with
  | some e =>
    rw [hentry] at hcreate
    cases hcreate
  | none =>
    rw [hentry] at hcreate
    obtain rfl := Except.ok.inj hcreate
    have hne : fs.entry? l ≠ some .directory := by simp [hentry]
    exact ⟨sameFiles_put_directory hentry, keepsDirectories_put hne _⟩

theorem ensureDirectory_spec (h : fs.ensureDirectory cwd path = .ok gs) :
    AddsDirectories fs gs := by
  rw [ensureDirectory] at h
  split at h
  · rename_i hcreate
    obtain rfl := Except.ok.inj h
    exact createDirectory_spec hcreate
  · split at h
    · obtain rfl := Except.ok.inj h
      exact .refl fs
    · cases h

theorem createDirectoriesFrom_spec {fuel : Nat} (h : createDirectoriesFrom cwd fuel fs path = .ok gs) :
    AddsDirectories fs gs := by
  induction fuel generalizing fs gs path with
  | zero => cases h
  | succ fuel ih =>
    rw [createDirectoriesFrom] at h
    split at h
    · obtain rfl := Except.ok.inj h
      exact .refl fs
    · split at h
      · obtain ⟨hs, hparents, hdirectory⟩ := exists_of_bind_ok h
        exact (ih hparents).trans (ensureDirectory_spec hdirectory)
      · exact ensureDirectory_spec h

/-- **Creating directories touches no file.** -/
theorem createDirectories_spec (h : fs.createDirectories cwd path = .ok gs) :
    AddsDirectories fs gs :=
  createDirectoriesFrom_spec h

/-! ### Writing -/

/-- **Writing touches one file.**  It is at the absolute path that the path leads to, and can be read
back under the path. -/
theorem write_spec (h : fs.write cwd path contents = .ok gs) :
    KeepsDirectories fs gs ∧ gs.read cwd path = .ok contents ∧
      ∀ full, ¬gs.Leads cwd path full → gs.fileAt full = fs.fileAt full := by
  obtain ⟨l, hlocate, hwrite⟩ := exists_of_bind_ok h
  have hne : fs.entry? l ≠ some .directory := by
    intro hentry
    rw [hentry] at hwrite
    cases hwrite
  have hput : gs = fs.put l (.file contents) := by
    split at hwrite
    · cases hwrite
    · exact (Except.ok.inj hwrite).symm
  subst hput
  have hkeeps : KeepsDirectories fs (fs.put l (.file contents)) := keepsDirectories_put hne _
  refine ⟨hkeeps, read_eq_ok_iff.2 ⟨l, locate_mono hkeeps hlocate, ?_⟩, ?_⟩
  · rw [entry?_put _ (ne_nil_of_entry?_ne hne), if_pos rfl]
  · intro full hfull
    rw [fileAt_put, if_neg]
    rintro rfl
    exact hfull ⟨l, locate_mono hkeeps hlocate, rfl⟩

/-! ### Names in one directory -/

theorem pathOf_append_injective {name name' : String}
    (h : pathOf (base ++ [name]) = pathOf (base ++ [name'])) : name = name' := by
  rw [pathOf, pathOf, String.append_right_inj] at h
  by_cases hbase : base = []
  · simpa [hbase] using h
  · rw [String.intercalate_append_of_ne_nil hbase (List.cons_ne_nil _ _),
      String.intercalate_append_of_ne_nil hbase (List.cons_ne_nil _ _),
      String.append_right_inj] at h
    simpa using h

/-- Two paths that never lead to one absolute path, whatever the file system and the working directory
are. -/
def Apart (path path' : String) : Prop :=
  ∀ (fs : FileSystem) (cwd : Location) (full : String),
    fs.Leads cwd path full → ¬fs.Leads cwd path' full

/-- **Names do not meet.**  Paths to different entries of one directory are apart. -/
theorem apart_of_directChild {dir name name' path' : String}
    (h : FilePath.DirectChild dir name path) (h' : FilePath.DirectChild dir name' path')
    (hne : name ≠ name') : Apart path path' := by
  intro fs cwd full hleads hleads'
  obtain ⟨l, hlocate, rfl⟩ := hleads
  obtain ⟨l', hlocate', hfull⟩ := hleads'
  obtain ⟨-, -, hresolve⟩ := locate_eq_ok_iff.1 hlocate
  obtain ⟨-, -, hresolve'⟩ := locate_eq_ok_iff.1 hlocate'
  rw [h.components_eq, h.absolute_eq] at hresolve
  rw [h'.components_eq, h'.absolute_eq] at hresolve'
  obtain ⟨base, hbase, rfl⟩ := resolve_append_name h.isName hresolve
  obtain ⟨base', hbase', rfl⟩ := resolve_append_name h'.isName hresolve'
  -- both go through the directory itself
  obtain rfl : base = base' := Except.ok.inj (hbase.symm.trans hbase')
  exact hne (pathOf_append_injective hfull).symm

end ApiDesign.FileSystem
