import AccountManager.Storage.FileSystem
import AccountManager.Storage.Paths
import Mathlib.Data.List.Induction
import Mathlib.Data.List.Nodup
import Mathlib.Logic.Function.Basic

/-!
# Files in a directory

What a file system tells about a location is changed by a call at one location only. From that
follows what the calls do at the names of one directory, which a store of blobs never leaves, and
what is found in a directory that was created on the way to it.
-/

namespace AccountManager.Storage

theorem nodup_cons_filter {α β : Type} [DecidableEq α] {entries : List (α × β)}
    (h : (entries.map Prod.fst).Nodup) (key : α) (value : β) :
    (((key, value) :: entries.filter fun entry => entry.1 ≠ key).map Prod.fst).Nodup := by
  refine List.nodup_cons.2 ⟨fun hkey => ?_, h.sublist (List.filter_sublist.map _)⟩
  obtain ⟨other, hother, hsame⟩ := List.mem_map.1 hkey
  have hkept := (List.mem_filter.1 hother).2
  simp [hsame] at hkept

namespace FileSystem

variable {files after made : FileSystem} {place base final : Location} {names : List String}
  {path directory name : String}

/-! ### Locations -/

theorem get?_of_ne_nil (hplace : place ≠ []) :
    files.get? place = (files.entries.find? fun entry => entry.1 = place).map Prod.snd := by
  cases place with
  | nil => exact absurd rfl hplace
  | cons first rest => rfl

theorem get?_erase (hplace : place ≠ []) :
    (files.erase place).get? = Function.update files.get? place none := by
  funext other
  by_cases hother : other = place
  · subst hother
    rw [Function.update_self, get?_of_ne_nil hplace, Option.map_eq_none_iff, List.find?_eq_none]
    intro entry hentry
    have hkept := (List.mem_filter.1 hentry).2
    simpa using hkept
  · rw [Function.update_of_ne hother]
    cases other with
    | nil => rfl
    | cons first rest =>
      rw [get?, get?, erase, List.find?_filter]
      · congr 2
        funext entry
        by_cases hentry : entry.1 = first :: rest
        · simp [hentry, hother]
        · simp [hentry]
      all_goals simp

theorem get?_insert (hplace : place ≠ []) (entry : Entry) :
    (files.insert place entry).get? = Function.update files.get? place (some entry) := by
  funext other
  by_cases hother : other = place
  · subst hother
    rw [Function.update_self, get?_of_ne_nil hplace, insert]
    simp
  · have herased : (files.erase place).get? other = files.get? other := by
      rw [get?_erase hplace, Function.update_of_ne hother]
    rw [Function.update_of_ne hother, ← herased]
    cases other with
    | nil => rfl
    | cons first rest =>
      rw [get?_of_ne_nil (List.cons_ne_nil _ _), get?_of_ne_nil (List.cons_ne_nil _ _), insert,
        List.find?_cons_of_neg]
      simpa using Ne.symm hother

def Distinct (files : FileSystem) : Prop := (files.entries.map Prod.fst).Nodup

instance (files : FileSystem) : Decidable files.Distinct :=
  inferInstanceAs (Decidable (List.Nodup _))

theorem Distinct.erase (h : files.Distinct) (place : Location) : (files.erase place).Distinct :=
  h.sublist (List.filter_sublist.map _)

theorem Distinct.insert (h : files.Distinct) (place : Location) (entry : Entry) :
    (files.insert place entry).Distinct :=
  nodup_cons_filter h place entry

/-- Whether whatever is there lies in a directory. -/
def Rooted (files : FileSystem) : Prop :=
  ∀ place name, (files.get? (place ++ [name])).isSome → files.get? place = some .directory

theorem isSome_get?_iff (hplace : place ≠ []) :
    (files.get? place).isSome ↔ ∃ entry ∈ files.entries, entry.1 = place := by
  rw [get?_of_ne_nil hplace, Option.isSome_map, List.find?_isSome]
  simp

theorem rooted_iff :
    files.Rooted ↔ ∀ entry ∈ files.entries,
      entry.1 ≠ [] → files.get? entry.1.dropLast = some .directory := by
  constructor
  · intro h entry hentry hne
    refine h entry.1.dropLast (entry.1.getLast hne) ?_
    rw [List.dropLast_append_getLast hne]
    exact (isSome_get?_iff hne).2 ⟨entry, hentry, rfl⟩
  · intro h place name hsome
    obtain ⟨entry, hentry, hlocation⟩ := (isSome_get?_iff (by simp)).1 hsome
    have hdirectory := h entry hentry (by simp [hlocation])
    rwa [hlocation, List.dropLast_concat] at hdirectory

instance (files : FileSystem) : Decidable files.Rooted := decidable_of_iff _ rooted_iff.symm

theorem Rooted.get?_append_eq_none (h : files.Rooted) (hplace : files.get? place = none)
    (below : Location) : files.get? (place ++ below) = none := by
  induction below using List.reverseRecOn with
  | nil => rwa [List.append_nil]
  | append_singleton below name ih =>
    rw [← List.append_assoc]
    refine Option.not_isSome_iff_eq_none.1 fun hsome => ?_
    rw [h _ name hsome] at ih
    cases ih

/-! ### Finding the way -/

theorem walk_append (files : FileSystem) (place : Location) (names more : List String) :
    files.walk place (names ++ more) = (files.walk place names).bind (files.walk · more) := by
  induction names generalizing place with
  | nil => rfl
  | cons name rest ih =>
    rw [List.cons_append, walk, walk]
    cases files.get? place with
    | none => rfl
    | some entry =>
      cases entry with
      | file content => rfl
      | directory =>
        simp only
        split_ifs <;> first | rfl | exact ih _

theorem directory_of_walk (hwalk : files.walk place names = .ok final)
    (hfinal : files.get? final = some .directory) : files.get? place = some .directory := by
  cases names with
  | nil =>
    cases hwalk
    exact hfinal
  | cons name rest =>
    rw [walk] at hwalk
    split at hwalk
    · cases hwalk
    · cases hwalk
    · assumption

theorem walk_cons (hplace : files.get? place = some .directory) (name : String)
    (rest : List String) :
    files.walk place (name :: rest) =
      if name = "." then files.walk place rest
      else if name = ".." then files.walk place.dropLast rest
      else if longestName < name.utf8ByteSize then .error .nameTooLong
      else if (files.get? (place ++ [name])).isSome then files.walk (place ++ [name]) rest
      else .error .noSuchFile := by
  rw [walk, hplace]

theorem walk_of_directories
    (hkept : ∀ other, files.get? other = some .directory → after.get? other = some .directory)
    (hwalk : files.walk place names = .ok final) (hfinal : files.get? final = some .directory) :
    after.walk place names = .ok final := by
  induction names generalizing place with
  | nil => exact hwalk
  | cons name rest ih =>
    have hplace := directory_of_walk hwalk hfinal
    rw [walk_cons hplace] at hwalk
    rw [walk_cons (hkept place hplace)]
    split_ifs at hwalk ⊢ with hdot hdots hlong hafter hbefore
    · exact ih hwalk
    · exact ih hwalk
    · exact ih hwalk
    · rw [hkept _ (directory_of_walk hwalk hfinal)] at hafter
      exact absurd rfl hafter

structure Leads (files : FileSystem) (path : String) (place : Location) : Prop where
  walk : files.walk [] (parts path) = .ok place
  directory : files.get? place = some .directory

theorem Leads.of_directories (h : files.Leads path place)
    (hkept : ∀ other, files.get? other = some .directory → after.get? other = some .directory) :
    after.Leads path place :=
  ⟨walk_of_directories hkept h.walk h.directory, hkept place h.directory⟩

theorem Leads.of_update (h : files.Leads path place) {other : Location} {entry : Option Entry}
    (hafter : after.get? = Function.update files.get? other entry)
    (hother : files.get? other ≠ some .directory) : after.Leads path place := by
  refine h.of_directories fun location hlocation => ?_
  rw [hafter, Function.update_of_ne]
  · exact hlocation
  · rintro rfl
    exact hother hlocation

/-- A change to one location where no directory is or comes to be leaves the directories as they
were. -/
theorem directory_iff_of_update {entry : Option Entry} (hplace : files.get? place ≠ some .directory)
    (hentry : entry ≠ some .directory)
    (hafter : after.get? = Function.update files.get? place entry) (other : Location) :
    after.get? other = some .directory ↔ files.get? other = some .directory := by
  rw [hafter]
  by_cases hother : other = place
  · subst hother
    simp [hplace, hentry]
  · rw [Function.update_of_ne hother]

/-! ### Names -/

/-- Whether a text names something inside a directory, up to a number of bytes. -/
structure IsName (limit : Nat) (name : String) : Prop where
  nonempty : name ≠ ""
  slash : '/' ∉ name.toList
  nul : '\x00' ∉ name.toList
  dot : name ≠ "."
  dots : name ≠ ".."
  short : name.utf8ByteSize ≤ limit

instance (limit : Nat) (name : String) : Decidable (IsName limit name) :=
  decidable_of_iff (name ≠ "" ∧ '/' ∉ name.toList ∧ '\x00' ∉ name.toList ∧ name ≠ "." ∧
    name ≠ ".." ∧ name.utf8ByteSize ≤ limit)
    ⟨fun ⟨hnonempty, hslash, hnul, hdot, hdots, hshort⟩ =>
      ⟨hnonempty, hslash, hnul, hdot, hdots, hshort⟩, fun h =>
      ⟨h.nonempty, h.slash, h.nul, h.dot, h.dots, h.short⟩⟩

theorem IsName.mono {limit greater : Nat} (h : IsName limit name) (hlimit : limit ≤ greater) :
    IsName greater name :=
  { h with short := Nat.le_trans h.short hlimit }

/-- What a path has in front of a name: nothing, or a text that closes with a slash. -/
theorem join_eq (directory : String) (hslash : '/' ∉ name.toList) :
    Paths.join directory name =
      if directory = "" ∨ directory.toList.getLast? = some '/' then directory ++ name
      else directory ++ "/" ++ name := by
  rw [Paths.join, if_neg]
  exact fun hhead => hslash (List.mem_of_mem_head? hhead)

theorem parts_of_not_mem (hempty : name ≠ "") (hslash : '/' ∉ name.toList) :
    parts name = [name] := by
  have hcharacters : name.toList ≠ [] := fun h => hempty (String.toList_eq_nil_iff.1 h)
  simp [parts, Text.split_of_not_mem hslash, hcharacters]

theorem parts_append (before after : String) :
    parts (before ++ "/" ++ after) = parts before ++ parts after := by
  have hsplit : (before ++ "/" ++ after).toList = before.toList ++ '/' :: after.toList := by
    simp [String.toList_append]
  rw [parts, hsplit, Text.split_append, List.filter_append, List.map_append, parts, parts]

theorem parts_join_of_not_mem (directory : String) (hempty : name ≠ "")
    (hslash : '/' ∉ name.toList) :
    parts (Paths.join directory name) = parts directory ++ [name] := by
  rw [join_eq directory hslash]
  split_ifs with hclosed
  · rcases hclosed with rfl | hlast
    · rw [String.empty_append, parts_of_not_mem hempty hslash]
      rfl
    · obtain ⟨before, hbefore⟩ := List.getLast?_eq_some_iff.1 hlast
      have hdirectory : directory = String.ofList before ++ "/" := by
        rw [← String.toList_inj, hbefore]
        simp
      have hparts : parts directory = parts (String.ofList before) := by
        rw [hdirectory, ← String.append_empty (s := String.ofList before ++ "/"), parts_append]
        exact List.append_nil _
      rw [hparts, hdirectory, parts_append, parts_of_not_mem hempty hslash]
  · rw [parts_append, parts_of_not_mem hempty hslash]

theorem parts_join {limit : Nat} (directory : String) (hname : IsName limit name) :
    parts (Paths.join directory name) = parts directory ++ [name] :=
  parts_join_of_not_mem directory hname.nonempty hname.slash

theorem endsInSlash_join (directory : String) {limit : Nat} (hname : IsName limit name) :
    endsInSlash (Paths.join directory name) = false := by
  obtain hempty | ⟨before, last, hspelled⟩ := List.eq_nil_or_concat name.toList
  · exact absurd (String.toList_eq_nil_iff.1 hempty) hname.nonempty
  · have hlast : last ≠ '/' := by
      rintro rfl
      exact hname.slash (by simp [hspelled])
    rw [endsInSlash, join_eq directory hname.slash]
    split_ifs <;>
      simp only [String.toList_append, hspelled, List.concat_eq_append, ← List.append_assoc,
        List.getLast?_concat, Option.some.injEq, hlast, decide_false]

/-- Whether a path is taken with any name of a file behind it. -/
structure HasRoom (directory : String) : Prop where
  nul : '\x00' ∉ directory.toList
  short : directory.utf8ByteSize + 1 + longestName ≤ longestPath

theorem checkPath_join (hroom : HasRoom directory) (hname : IsName longestName name) :
    checkPath (Paths.join directory name) = .ok () := by
  have hnul := hroom.nul
  have hnameNul := hname.nul
  have hshort := hroom.short
  have hnameShort := hname.short
  rw [checkPath, join_eq directory hname.slash]
  split_ifs with _ hpath hlong hpath hlong
  · simp [String.toList_append, hnul, hnameNul] at hpath
  · rw [String.utf8ByteSize_append] at hlong
    omega
  · rfl
  · simp [String.toList_append, hnul, hnameNul] at hpath
  · rw [String.utf8ByteSize_append, String.utf8ByteSize_append] at hlong
    have hslash : "/".utf8ByteSize = 1 := rfl
    omega
  · rfl

/-! ### The names in a directory -/

section Names

variable {content : Bytes} (hroom : HasRoom directory) (hleads : files.Leads directory place)
  (hname : IsName longestName name)

include hroom hleads hname

theorem target_join :
    files.target (Paths.join directory name) = .ok ⟨place, some name, false⟩ := by
  have hnameShort := Nat.not_lt.2 hname.short
  simp [target, checkPath_join hroom hname, parts_join directory hname, hleads.walk,
    hleads.directory, endsInSlash_join directory hname, hname.dot, hname.dots, hnameShort, bind,
    Except.bind]

theorem read_join :
    files.read (Paths.join directory name) =
      match files.get? (place ++ [name]) with
      | none => .error .noSuchFile
      | some .directory => .error .isDirectory
      | some (.file content) => .ok content := by
  have hnameShort := Nat.not_lt.2 hname.short
  have hstep : files.walk place [name] =
      if (files.get? (place ++ [name])).isSome then .ok (place ++ [name])
      else .error .noSuchFile := by
    rw [walk_cons hleads.directory, if_neg hname.dot, if_neg hname.dots, if_neg hnameShort]
    rfl
  simp only [read, checkPath_join hroom hname, parts_join directory hname, walk_append,
    hleads.walk, endsInSlash_join directory hname, bind, Except.bind, hstep]
  cases hentry : files.get? (place ++ [name]) with
  | none => rfl
  | some entry => cases entry <;> simp [hentry]

theorem create_join (hfree : files.get? (place ++ [name]) ≠ some .directory) :
    files.create (Paths.join directory name) =
      .ok (files.insert (place ++ [name]) (.file [])) := by
  simp only [create, target_join hroom hleads hname, bind, Except.bind, Target.place?,
    Option.map_some, Bool.false_eq_true, if_false]

theorem append_join (hfile : files.get? (place ++ [name]) = some (.file content))
    (bytes : Bytes) :
    files.append (Paths.join directory name) bytes =
      .ok (files.insert (place ++ [name]) (.file (content ++ bytes))) := by
  simp only [append, target_join hroom hleads hname, bind, Except.bind, Target.place?,
    Option.map_some, hfile]

theorem remove_join :
    files.remove (Paths.join directory name) =
      match files.get? (place ++ [name]) with
      | none => .error .noSuchFile
      | some .directory => .error .isDirectory
      | some (.file _) => .ok (files.erase (place ++ [name])) := by
  simp only [remove, target_join hroom hleads hname, bind, Except.bind, Target.place?,
    Option.map_some]
  rfl

theorem rename_join {new : String} (hnew : IsName longestName new)
    (hfile : files.get? (place ++ [name]) = some (.file content))
    (hfree : files.get? (place ++ [new]) ≠ some .directory) :
    files.rename (Paths.join directory name) (Paths.join directory new) =
      .ok ((files.erase (place ++ [name])).insert (place ++ [new]) (.file content)) := by
  simp only [rename, target_join hroom hleads hname, target_join hroom hleads hnew, bind,
    Except.bind, Target.place?, Option.map_some, hfile, Bool.or_self, Bool.false_eq_true, if_false]

/-- A file that is filled under another name and then renamed: once the calls are done, only the
file of the name is another one. -/
theorem replace_join {temporary : String} (htemporary : IsName longestName temporary)
    (hdiffers : name ≠ temporary) (hfree : files.get? (place ++ [temporary]) = none)
    (hfile : files.get? (place ++ [name]) ≠ some .directory) (bytes : Bytes) :
    ∃ created filled replaced,
      files.create (Paths.join directory temporary) = .ok created ∧
      created.append (Paths.join directory temporary) bytes = .ok filled ∧
      filled.rename (Paths.join directory temporary) (Paths.join directory name) = .ok replaced ∧
      replaced.get? = Function.update files.get? (place ++ [name]) (some (.file bytes)) ∧
      (files.Distinct → replaced.Distinct) := by
  have hne : place ++ [temporary] ≠ [] := by simp
  have hnotDirectory : files.get? (place ++ [temporary]) ≠ some .directory := by simp [hfree]
  have hplaces : place ++ [name] ≠ place ++ [temporary] := by simpa using hdiffers
  -- each call changes the unfinished file only, so the way to the directory stays
  have hcreate := create_join hroom hleads htemporary hnotDirectory
  generalize hcreated : files.insert (place ++ [temporary]) (.file []) = created at hcreate
  have hcreatedGet : created.get? =
      Function.update files.get? (place ++ [temporary]) (some (.file [])) := by
    rw [← hcreated, get?_insert hne]
  have happend := append_join hroom (hleads.of_update hcreatedGet hnotDirectory) htemporary
    (by rw [hcreatedGet, Function.update_self]) bytes
  generalize hfilled : created.insert (place ++ [temporary]) (.file ([] ++ bytes)) = filled
    at happend
  have hfilledGet : filled.get? =
      Function.update files.get? (place ++ [temporary]) (some (.file bytes)) := by
    rw [← hfilled, get?_insert hne, hcreatedGet, Function.update_idem, List.nil_append]
  have hrename := rename_join hroom (hleads.of_update hfilledGet hnotDirectory) htemporary hname
    (by rw [hfilledGet, Function.update_self])
    (by rwa [hfilledGet, Function.update_of_ne hplaces])
  refine ⟨created, filled, _, hcreate, happend, hrename, ?_, fun hdistinct => ?_⟩
  · have hgone : Function.update files.get? (place ++ [temporary]) none = files.get? :=
      Function.update_eq_self_iff.2 hfree.symm
    rw [get?_insert (by simp), get?_erase hne, hfilledGet, Function.update_idem, hgone]
  · rw [← hfilled, ← hcreated]
    exact (((hdistinct.insert _ _).insert _ _).erase _).insert _ _

end Names

/-! ### Directories that are not there -/

section Absent

variable (hroom : HasRoom directory) (hwalk : files.walk [] (parts directory) = .error .noSuchFile)
  (hname : IsName longestName name)

include hroom hwalk hname

theorem read_of_absent : files.read (Paths.join directory name) = .error .noSuchFile := by
  simp only [read, checkPath_join hroom hname, parts_join directory hname, walk_append, hwalk,
    bind, Except.bind]

theorem remove_of_absent : files.remove (Paths.join directory name) = .error .noSuchFile := by
  simp only [remove, target, checkPath_join hroom hname, parts_join directory hname,
    List.dropLast_concat, hwalk, bind, Except.bind]

end Absent

/-- Whether a path leaves what is there: from a directory on, its names lead nowhere and not back
up. -/
def Missing (files : FileSystem) (path : String) : Prop :=
  ∃ way names base, parts path = way ++ names ∧ files.walk [] way = .ok base ∧
    files.get? base = some .directory ∧ files.walk base names = .error .noSuchFile ∧ ".." ∉ names

theorem Missing.walk (h : files.Missing path) :
    files.walk [] (parts path) = .error .noSuchFile := by
  obtain ⟨way, names, base, hparts, hway, -, hnames, -⟩ := h
  rw [hparts, walk_append, hway]
  exact hnames

theorem Missing.join {limit : Nat} (h : files.Missing path) (hname : IsName limit name) :
    files.Missing (Paths.join path name) := by
  obtain ⟨way, names, base, hparts, hway, hbase, hnames, hup⟩ := h
  refine ⟨way, names ++ [name], base, ?_, hway, hbase, ?_, ?_⟩
  · rw [parts_join path hname, hparts, List.append_assoc]
  · rw [walk_append, hnames]
    rfl
  · simp [hup, hname.dots.symm]

/-- Whether there is an empty directory at a location. -/
structure Blank (files : FileSystem) (place : Location) : Prop where
  directory : files.get? place = some .directory
  empty : ∀ below, below ≠ [] → files.get? (place ++ below) = none

/-- What creating directories leaves: they lead to an empty one, and those before are still
there. -/
structure Opened (files made : FileSystem) (place : Location) (names : List String)
    (final : Location) : Prop where
  walk : made.walk place names = .ok final
  blank : made.Blank final
  kept : ∀ other, files.get? other = some .directory → made.get? other = some .directory

theorem Opened.dot (h : files.Opened made place names final)
    (hplace : made.get? place = some .directory) :
    files.Opened made place ("." :: names) final :=
  ⟨by rw [walk_cons hplace, if_pos rfl, h.walk], h.blank, h.kept⟩

theorem Opened.cons (h : files.Opened made (place ++ [name]) names final)
    (hplace : made.get? place = some .directory) (hnext : (made.get? (place ++ [name])).isSome)
    (hdot : name ≠ ".") (hdots : name ≠ "..") (hshort : ¬ longestName < name.utf8ByteSize) :
    files.Opened made place (name :: names) final := by
  refine ⟨?_, h.blank, h.kept⟩
  rw [walk_cons hplace, if_neg hdot, if_neg hdots, if_neg hshort, if_pos hnext, h.walk]

theorem blank_insert (hfree : ∀ below, files.get? (place ++ below) = none) :
    (files.insert place .directory).Blank place := by
  have hplace : place ≠ [] := by
    rintro rfl
    cases hfree []
  refine ⟨by rw [get?_insert hplace, Function.update_self], fun below hbelow => ?_⟩
  rw [get?_insert hplace, Function.update_of_ne (by simpa using hbelow), hfree]

theorem kept_of_insert (hplace : place ≠ []) {other : Location}
    (hother : files.get? other = some .directory) :
    (files.insert place .directory).get? other = some .directory := by
  rw [get?_insert hplace]
  by_cases hsame : other = place
  · rw [hsame, Function.update_self]
  · rw [Function.update_of_ne hsame, hother]

theorem Opened.of_insert (hplace : files.get? place = some .directory)
    (h : (files.insert (place ++ [name]) .directory).Opened made (place ++ [name]) names final)
    (hdot : name ≠ ".") (hdots : name ≠ "..") (hshort : ¬ longestName < name.utf8ByteSize) :
    files.Opened made place (name :: names) final := by
  have hnext : place ++ [name] ≠ [] := by simp
  have hkept : ∀ other, files.get? other = some .directory → made.get? other = some .directory :=
    fun other hother => h.kept other (kept_of_insert hnext hother)
  have hcreated : made.get? (place ++ [name]) = some .directory :=
    h.kept _ (by rw [get?_insert hnext, Function.update_self])
  exact Opened.cons ⟨h.walk, h.blank, hkept⟩ (hkept place hplace) (by rw [hcreated]; rfl) hdot
    hdots hshort

/-- What creating directories does for the first name, where it is not refused. -/
theorem createAlong_cons (hdots : name ≠ "..")
    (hmade : files.createAlong place (name :: names) = (.ok (), made)) :
    (name = "." ∧ files.createAlong place names = (.ok (), made)) ∨
      name ≠ "." ∧ ¬ longestName < name.utf8ByteSize ∧
        ((files.get? (place ++ [name]) = some .directory ∧
            files.createAlong (place ++ [name]) names = (.ok (), made)) ∨
          files.get? (place ++ [name]) = none ∧
            (files.insert (place ++ [name]) .directory).createAlong (place ++ [name]) names =
              (.ok (), made)) := by
  rw [createAlong, if_neg hdots] at hmade
  by_cases hdot : name = "."
  · rw [if_pos hdot] at hmade
    exact .inl ⟨hdot, hmade⟩
  rw [if_neg hdot] at hmade
  by_cases hlong : longestName < name.utf8ByteSize
  · rw [if_pos hlong] at hmade
    cases congrArg Prod.fst hmade
  rw [if_neg hlong] at hmade
  refine .inr ⟨hdot, hlong, ?_⟩
  dsimp only at hmade
  split at hmade
  · exact .inl ⟨‹_›, hmade⟩
  · cases congrArg Prod.fst hmade
  · exact .inr ⟨‹_›, hmade⟩

theorem Blank.opened (h : files.Blank place) (hup : ".." ∉ names)
    (hmade : files.createAlong place names = (.ok (), made)) :
    ∃ final, files.Opened made place names final := by
  induction names generalizing files place with
  | nil =>
    cases hmade
    exact ⟨place, rfl, h, fun _ hother => hother⟩
  | cons name rest ih =>
    have hdots : name ≠ ".." := Ne.symm (List.ne_of_not_mem_cons hup)
    have hrest := List.not_mem_of_not_mem_cons hup
    obtain ⟨rfl, hmade⟩ | ⟨hdot, hlong, ⟨hnext, -⟩ | ⟨-, hmade⟩⟩ := createAlong_cons hdots hmade
    · obtain ⟨final, hopened⟩ := ih h hrest hmade
      exact ⟨final, hopened.dot (hopened.kept place h.directory)⟩
    · cases (h.empty [name] (by simp)).symm.trans hnext
    · have hblank : (files.insert (place ++ [name]) .directory).Blank (place ++ [name]) :=
        blank_insert fun below => by
          rw [List.append_assoc]
          exact h.empty _ (by simp)
      obtain ⟨final, hopened⟩ := ih hblank hrest hmade
      exact ⟨final, hopened.of_insert h.directory hdot hdots hlong⟩

/-- The names that are missing are created below the directories that are there. -/
theorem opened_of_walk (hrooted : files.Rooted) (hbase : files.get? base = some .directory)
    (hwalk : files.walk base names = .error .noSuchFile) (hup : ".." ∉ names)
    (hmade : files.createAlong base names = (.ok (), made)) :
    ∃ final, files.Opened made base names final := by
  induction names generalizing base with
  | nil => cases hwalk
  | cons name rest ih =>
    have hdots : name ≠ ".." := Ne.symm (List.ne_of_not_mem_cons hup)
    have hrest := List.not_mem_of_not_mem_cons hup
    rw [walk_cons hbase] at hwalk
    obtain ⟨rfl, hmade⟩ | ⟨hdot, hlong, ⟨hnext, hmade⟩ | ⟨hnext, hmade⟩⟩ :=
      createAlong_cons hdots hmade
    · obtain ⟨final, hopened⟩ := ih hbase hwalk hrest hmade
      exact ⟨final, hopened.dot (hopened.kept base hbase)⟩
    · rw [if_neg hdot, if_neg hdots, if_neg hlong, hnext] at hwalk
      obtain ⟨final, hopened⟩ := ih hnext hwalk hrest hmade
      refine ⟨final, hopened.cons (hopened.kept base hbase) ?_ hdot hdots hlong⟩
      rw [hopened.kept _ hnext]
      rfl
    · -- from the first name that is missing on, every name is new
      obtain ⟨final, hopened⟩ :=
        (blank_insert (hrooted.get?_append_eq_none hnext)).opened hrest hmade
      exact ⟨final, hopened.of_insert hbase hdot hdots hlong⟩

theorem createAlong_append (hwalk : files.walk place names = .ok final)
    (hfinal : files.get? final = some .directory) (more : List String) :
    files.createAlong place (names ++ more) = files.createAlong final more := by
  induction names generalizing place with
  | nil =>
    cases hwalk
    rfl
  | cons name rest ih =>
    rw [walk_cons (directory_of_walk hwalk hfinal)] at hwalk
    rw [List.cons_append, createAlong]
    split_ifs at hwalk with hdot hdots hlong hnext
    · rw [if_pos hdot]
      exact ih hwalk
    · rw [if_neg hdot, if_pos hdots]
      exact ih hwalk
    · rw [if_neg hdot, if_neg hdots, if_neg hlong]
      simp only [directory_of_walk hwalk hfinal]
      exact ih hwalk

theorem createDirectories_of_leads (hroom : HasRoom path) (hleads : files.Leads path place) :
    files.createDirectories path = (.ok (), files) := by
  have halong := createAlong_append hleads.walk hleads.directory []
  rw [List.append_nil] at halong
  have hcheck : checkPath path = .ok () := by
    have hshort := hroom.short
    have hnul := hroom.nul
    rw [checkPath, if_neg (by simpa using hnul), if_neg (by omega)]
  rw [createDirectories, hcheck]
  exact halong

theorem Missing.blank (h : files.Missing path) (hrooted : files.Rooted)
    (hmade : files.createDirectories path = (.ok (), made)) :
    ∃ place, made.walk [] (parts path) = .ok place ∧ made.Blank place := by
  obtain ⟨way, names, base, hparts, hway, hbase, hnames, hup⟩ := h
  have halong : files.createAlong base names = (.ok (), made) := by
    rw [← createAlong_append hway hbase names, ← hparts]
    rw [createDirectories] at hmade
    split at hmade
    · cases congrArg Prod.fst hmade
    · exact hmade
  obtain ⟨final, hopened⟩ := opened_of_walk hrooted hbase hnames hup halong
  refine ⟨final, ?_, hopened.blank⟩
  rw [hparts, walk_append, walk_of_directories hopened.kept hway hbase]
  exact hopened.walk

theorem Distinct.createAlong (h : files.Distinct) (place : Location) (names : List String) :
    (files.createAlong place names).2.Distinct := by
  induction names generalizing files place with
  | nil => exact h
  | cons name rest ih =>
    rw [FileSystem.createAlong]
    split
    · exact ih h place
    split
    · exact ih h _
    split
    · exact h
    dsimp only
    split
    · exact ih h _
    · exact h
    · exact ih (h.insert _ _) _

theorem Distinct.createDirectories (h : files.Distinct) (path : String) :
    (files.createDirectories path).2.Distinct := by
  rw [FileSystem.createDirectories]
  split
  · exact h
  · exact h.createAlong _ _

/-! ### Listing a directory -/

/-- The name that a location has in a directory, if it lies there. -/
def nameIn? (place other : Location) : Option String :=
  if other.dropLast = place then other.getLast? else none

theorem nameIn?_eq_some {other : Location} :
    nameIn? place other = some name ↔ other = place ++ [name] := by
  constructor
  · intro h
    obtain ⟨rfl, hname⟩ := Option.ite_none_right_eq_some.1 h
    obtain ⟨before, rfl⟩ := List.getLast?_eq_some_iff.1 hname
    rw [List.dropLast_concat]
  · rintro rfl
    simp [nameIn?]

/-- A directory lists what lies in it, each name once. -/
theorem list?_of_leads (hleads : files.Leads path place) (hdistinct : files.Distinct) :
    ∃ listed, files.list? path = some listed ∧ listed.Nodup ∧
      ∀ name, name ∈ listed ↔ (files.get? (place ++ [name])).isSome := by
  have hlist : files.list? path =
      some (((files.entries.map Prod.fst).filterMap (nameIn? place)).mergeSort (· ≤ ·)) := by
    rw [list?, hleads.walk, List.filterMap_map]
    simp only [hleads.directory]
    rfl
  refine ⟨_, hlist, ?_, fun name => ?_⟩
  · rw [(List.mergeSort_perm _ _).nodup_iff]
    refine List.Nodup.filterMap (fun other same name hother hsame => ?_) hdistinct
    rw [nameIn?_eq_some.1 hother, nameIn?_eq_some.1 hsame]
  · rw [List.mem_mergeSort, List.mem_filterMap, isSome_get?_iff (by simp)]
    simp [nameIn?_eq_some]

end FileSystem

end AccountManager.Storage
