import AccountManager.Proofs.Results
import AccountManager.Proofs.Storage.FileSystem

/-!
# Where paths point

A path that may be that of a file points at a name in a directory. Every call on files finds that
place by the directories alone, so what happens to files leaves every path pointing where it did.
-/

namespace AccountManager.Storage.FileSystem

variable {files after : FileSystem} {place base : Location} {names : List String}
  {path directory name : String} {content bytes : Bytes}

/-! ### Ways down from the root -/

/-- Whether a location lies in directories all the way down from the root. -/
def Trodden (files : FileSystem) (place : Location) : Prop :=
  ∀ before, before <+: place → before ≠ place → files.get? before = some .directory

theorem trodden_nil : files.Trodden [] := fun _ hbefore hne =>
  absurd (List.prefix_nil.1 hbefore) hne

theorem Trodden.concat (h : files.Trodden place) (hplace : files.get? place = some .directory)
    (name : String) : files.Trodden (place ++ [name]) := by
  intro before hbefore hne
  have hshorter := (List.prefix_concat_iff.1 hbefore).resolve_left hne
  by_cases hsame : before = place
  · rwa [hsame]
  · exact h before hshorter hsame

theorem Trodden.dropLast (h : files.Trodden place)
    (hplace : files.get? place = some .directory) :
    files.Trodden place.dropLast ∧ files.get? place.dropLast = some .directory := by
  obtain rfl | ⟨above, name, rfl⟩ := List.eq_nil_or_concat place
  · exact ⟨h, hplace⟩
  · rw [List.concat_eq_append] at h
    rw [List.concat_eq_append, List.dropLast_concat]
    refine ⟨fun before hbefore hne => h before (hbefore.trans (List.prefix_append _ _)) ?_,
      h above (List.prefix_append _ _) (by simp)⟩
    rintro rfl
    exact absurd hbefore.length_le (by simp)

theorem Trodden.walk (h : files.Trodden base) (hwalk : files.walk base names = .ok place) :
    files.Trodden place := by
  induction names generalizing base with
  | nil =>
    cases hwalk
    exact h
  | cons name rest ih =>
    rw [FileSystem.walk] at hwalk
    split at hwalk
    · cases hwalk
    · cases hwalk
    · rename_i hbase
      dsimp only at hwalk
      split_ifs at hwalk
      · exact ih h hwalk
      · exact ih (h.dropLast hbase).1 hwalk
      · exact ih (h.concat hbase name) hwalk

theorem Rooted.trodden (h : files.Rooted) (hplace : (files.get? place).isSome) :
    files.Trodden place := by
  rintro before ⟨below, rfl⟩ hne
  obtain _ | ⟨name, rest⟩ := below
  · exact absurd (List.append_nil before).symm hne
  · refine h before name ?_
    rw [Option.isSome_iff_ne_none]
    intro hnone
    have hgone := h.get?_append_eq_none hnone rest
    rw [List.append_assoc] at hgone
    exact Option.isSome_iff_ne_none.1 hplace hgone

theorem prefix_of_walk (hup : ".." ∉ names) (hwalk : files.walk base names = .ok place) :
    base <+: place := by
  induction names generalizing base with
  | nil =>
    cases hwalk
    exact List.prefix_rfl
  | cons name rest ih =>
    have hdots : name ≠ ".." := Ne.symm (List.ne_of_not_mem_cons hup)
    have hrest := List.not_mem_of_not_mem_cons hup
    rw [FileSystem.walk] at hwalk
    split at hwalk
    · cases hwalk
    · cases hwalk
    · dsimp only at hwalk
      split_ifs at hwalk
      · exact ih hrest hwalk
      · exact (List.prefix_append base [name]).trans (ih hrest hwalk)

/-- A way that does not go up is there if the directories along it are. -/
theorem walk_of_shorteres (hup : ".." ∉ names) (hwalk : after.walk base names = .ok place)
    (hthere : ∀ before, before <+: place → files.get? before = some .directory) :
    files.walk base names = .ok place := by
  induction names generalizing base with
  | nil => exact hwalk
  | cons name rest ih =>
    have hdots : name ≠ ".." := Ne.symm (List.ne_of_not_mem_cons hup)
    have hrest := List.not_mem_of_not_mem_cons hup
    rw [walk_cons (hthere base (prefix_of_walk hup hwalk))]
    rw [FileSystem.walk] at hwalk
    split at hwalk
    · cases hwalk
    · cases hwalk
    · dsimp only at hwalk
      split_ifs at hwalk with hdot hlong
      · rw [if_pos hdot]
        exact ih hrest hwalk
      · rw [if_neg hdot, if_neg hdots, if_neg hlong, hthere _ (prefix_of_walk hrest hwalk)]
        exact ih hrest hwalk

/-! ### Pointing -/

/-- Whether a path points at a name in a directory, whatever is there. -/
structure Points (files : FileSystem) (path : String) (base : Location) (name : String) :
    Prop where
  checked : checkPath path = .ok ()
  last : (parts path).getLast? = some name
  walk : files.walk [] (parts path).dropLast = .ok base
  directory : files.get? base = some .directory
  dot : name ≠ "."
  dots : name ≠ ".."
  short : name.utf8ByteSize ≤ longestName

theorem Points.of_directories (h : files.Points path base name)
    (hkept : ∀ other, files.get? other = some .directory → after.get? other = some .directory) :
    after.Points path base name :=
  { h with
    walk := walk_of_directories hkept h.walk h.directory
    directory := hkept base h.directory }

theorem Points.unique {otherBase : Location} {otherName : String}
    (h : files.Points path base name) (hother : files.Points path otherBase otherName) :
    otherBase = base ∧ otherName = name :=
  ⟨Except.ok.inj (hother.walk.symm.trans h.walk),
    Option.some.inj (hother.last.symm.trans h.last)⟩

theorem Points.parts_eq (h : files.Points path base name) :
    parts path = (parts path).dropLast ++ [name] := by
  obtain ⟨before, hbefore⟩ := List.getLast?_eq_some_iff.1 h.last
  rw [hbefore, List.dropLast_concat]

theorem Points.target (h : files.Points path base name) :
    files.target path = .ok ⟨base, some name, endsInSlash path⟩ := by
  have hshort := Nat.not_lt.2 h.short
  simp [FileSystem.target, h.checked, h.walk, h.directory, h.last, h.dot, h.dots, hshort, bind,
    Except.bind]

/-- A call on files finds the place that its path points at. -/
theorem points_of_target {target : Target} (htarget : files.target path = .ok target)
    (hplace : target.place? = some place) :
    ∃ base name, files.Points path base name ∧ target = ⟨base, some name, endsInSlash path⟩ ∧
      place = base ++ [name] := by
  rw [FileSystem.target] at htarget
  obtain ⟨⟨⟩, hchecked, htarget⟩ := of_bind_eq_ok htarget
  obtain ⟨base, hwalk, htarget⟩ := of_bind_eq_ok htarget
  split at htarget
  · cases htarget
  · cases htarget
  · rename_i hdirectory
    dsimp only at htarget
    split at htarget
    · cases htarget
      cases hplace
    · rename_i name hlast
      split_ifs at htarget with hdots hlong
      · cases htarget
        cases hplace
      · cases htarget
        cases hplace
        rw [not_or] at hdots
        exact ⟨base, name, ⟨hchecked, hlast, hwalk, hdirectory, hdots.1, hdots.2,
          Nat.le_of_not_lt hlong⟩, rfl, rfl⟩

theorem Points.walk_name (h : files.Points path base name)
    (hsome : (files.get? (base ++ [name])).isSome) :
    files.walk [] (parts path) = .ok (base ++ [name]) := by
  rw [h.parts_eq, walk_append, h.walk]
  change files.walk base [name] = _
  rw [walk_cons h.directory, if_neg h.dot, if_neg h.dots, if_neg (Nat.not_lt.2 h.short),
    if_pos hsome]
  rfl

theorem points_of_walk (hchecked : checkPath path = .ok ())
    (hwalk : files.walk [] (parts path) = .ok place)
    (hfile : files.get? place = some (.file content)) :
    ∃ base name, files.Points path base name ∧ place = base ++ [name] := by
  obtain hnil | ⟨before, name, hparts⟩ := List.eq_nil_or_concat (parts path)
  · rw [hnil] at hwalk
    cases hwalk
    cases hfile
  · rw [List.concat_eq_append] at hparts
    rw [hparts, walk_append] at hwalk
    obtain ⟨base, hbase, hwalk⟩ := of_bind_eq_ok hwalk
    rw [walk] at hwalk
    split at hwalk
    · cases hwalk
    · cases hwalk
    · rename_i hdirectory
      dsimp only at hwalk
      split_ifs at hwalk with hdot hdots hlong
      · cases hwalk
        cases hdirectory.symm.trans hfile
      · -- the directory above one that was reached is no file
        cases hwalk
        have habove := ((trodden_nil.walk hbase).dropLast hdirectory).2
        cases habove.symm.trans hfile
      · cases hwalk
        refine ⟨base, name, ⟨hchecked, ?_, ?_, hdirectory, hdot, hdots,
          Nat.le_of_not_lt hlong⟩, rfl⟩
        · rw [hparts, List.getLast?_concat]
        · rw [hparts, List.dropLast_concat, hbase]

/-- A path reads a file exactly if it points at one. -/
theorem read_eq_ok_iff :
    files.read path = .ok content ↔ endsInSlash path = false ∧ ∃ base name,
      files.Points path base name ∧ files.get? (base ++ [name]) = some (.file content) := by
  rw [FileSystem.read]
  constructor
  · intro hread
    obtain ⟨⟨⟩, hchecked, hread⟩ := of_bind_eq_ok hread
    obtain ⟨place, hwalk, hread⟩ := of_bind_eq_ok hread
    split at hread
    · cases hread
    · cases hread
    · rename_i found hfile
      split at hread
      · cases hread
      · rename_i hslash
        cases hread
        obtain ⟨base, name, hpoints, rfl⟩ := points_of_walk hchecked hwalk hfile
        exact ⟨Bool.eq_false_iff.2 hslash, base, name, hpoints, hfile⟩
  · rintro ⟨hslash, base, name, hpoints, hfile⟩
    have hwalk := hpoints.walk_name (by rw [hfile]; rfl)
    simp [hpoints.checked, hwalk, hfile, hslash, bind, Except.bind]

/-! ### Contents -/

def fileAt? (files : FileSystem) (place : Location) : Option Bytes :=
  match files.get? place with
  | some (.file content) => some content
  | _ => none

/-- The content of the file that a path reads. -/
def content? (files : FileSystem) (path : String) : Option Bytes := (files.read path).toOption

theorem fileAt?_eq_some :
    files.fileAt? place = some content ↔ files.get? place = some (.file content) := by
  unfold fileAt?
  split
  · rename_i found hfile
    simp [hfile]
  · rename_i hnone
    exact ⟨nofun, fun hfile => absurd hfile (hnone content)⟩

theorem content?_eq_some : files.content? path = some content ↔ files.read path = .ok content :=
  ⟨of_toOption_eq_some, fun hread => by rw [content?, hread]; rfl⟩

theorem fileAt?_congr (h : after.get? place = files.get? place) :
    after.fileAt? place = files.fileAt? place := by
  rw [fileAt?, fileAt?, h]

/-- A path shows the same where the directories and the file that it points at are the same. -/
theorem content?_congr
    (hdirectories : ∀ other, after.get? other = some .directory ↔
      files.get? other = some .directory)
    (hfile : ∀ base name, endsInSlash path = false → files.Points path base name →
      after.get? (base ++ [name]) = files.get? (base ++ [name])) :
    after.content? path = files.content? path := by
  refine Option.ext fun content => ?_
  rw [content?_eq_some, content?_eq_some, read_eq_ok_iff, read_eq_ok_iff]
  refine and_congr_right fun hslash => exists₂_congr fun base name => ?_
  constructor
  · rintro ⟨hpoints, hcontent⟩
    have hbefore := hpoints.of_directories fun other => (hdirectories other).1
    exact ⟨hbefore, (hfile base name hslash hbefore).symm.trans hcontent⟩
  · rintro ⟨hpoints, hcontent⟩
    exact ⟨hpoints.of_directories fun other => (hdirectories other).2,
      (hfile base name hslash hpoints).trans hcontent⟩

/-! ### Calls -/

/-- Whether nothing is where a path points. -/
def Unused (files : FileSystem) (path : String) : Prop :=
  ∀ base name, files.Points path base name → files.get? (base ++ [name]) = none

theorem unused_iff :
    files.Unused path ↔ ∀ target ∈ (files.target path).toOption, ∀ place ∈ target.place?,
      files.get? place = none := by
  constructor
  · intro h target htarget place hplace
    obtain ⟨base, name, hpoints, -, rfl⟩ := points_of_target (of_toOption_eq_some htarget) hplace
    exact h base name hpoints
  · intro h base name hpoints
    exact h _ (by rw [hpoints.target]; rfl) _ rfl

instance (files : FileSystem) (path : String) : Decidable (files.Unused path) :=
  decidable_of_iff _ unused_iff.symm

theorem of_create_eq_ok (hcreate : files.create path = .ok after) :
    endsInSlash path = false ∧ ∃ base name, files.Points path base name ∧
      files.get? (base ++ [name]) ≠ some .directory ∧
      after.get? = Function.update files.get? (base ++ [name]) (some (.file [])) := by
  rw [create] at hcreate
  obtain ⟨target, htarget, hcreate⟩ := of_bind_eq_ok hcreate
  split at hcreate
  · cases hcreate
  · rename_i place hplace
    obtain ⟨base, name, hpoints, rfl, rfl⟩ := points_of_target htarget hplace
    dsimp only at hcreate
    split at hcreate
    · cases hcreate
    · rename_i hslash
      split at hcreate
      · cases hcreate
      · rename_i hfree
        cases hcreate
        exact ⟨Bool.eq_false_iff.2 hslash, base, name, hpoints, hfree, get?_insert (by simp) _⟩

theorem Points.append (h : files.Points path base name)
    (hfile : files.get? (base ++ [name]) = some (.file content)) (bytes : Bytes) :
    files.append path bytes =
      .ok (files.insert (base ++ [name]) (.file (content ++ bytes))) := by
  simp [FileSystem.append, h.target, Target.place?, hfile, bind, Except.bind]

theorem Points.remove (h : files.Points path base name) (hslash : endsInSlash path = false)
    (hfile : files.get? (base ++ [name]) = some (.file content)) :
    files.remove path = .ok (files.erase (base ++ [name])) := by
  simp [FileSystem.remove, h.target, Target.place?, hfile, hslash, bind, Except.bind]

theorem of_remove_eq_ok (hremove : files.remove path = .ok after) :
    ∃ base name content, files.Points path base name ∧
      files.get? (base ++ [name]) = some (.file content) ∧
      after.get? = Function.update files.get? (base ++ [name]) none := by
  rw [remove] at hremove
  obtain ⟨target, htarget, hremove⟩ := of_bind_eq_ok hremove
  split at hremove
  · cases hremove
  · rename_i place hplace
    obtain ⟨base, name, hpoints, rfl, rfl⟩ := points_of_target htarget hplace
    split at hremove
    · cases hremove
    · cases hremove
    · rename_i content hfile
      split at hremove
      · cases hremove
      · cases hremove
        exact ⟨base, name, content, hpoints, hfile, get?_erase (by simp)⟩

theorem remove_of_unused (hunused : files.Unused path) :
    ∃ error, files.remove path = .error error := by
  cases hremove : files.remove path with
  | error error => exact ⟨error, rfl⟩
  | ok after =>
    obtain ⟨base, name, content, hpoints, hfile, -⟩ := of_remove_eq_ok hremove
    cases (hunused base name hpoints).symm.trans hfile

theorem of_rename_eq_ok {source : String} (h : files.Points source base name)
    (hfile : files.get? (base ++ [name]) = some (.file content))
    (hrename : files.rename source path = .ok after) :
    endsInSlash path = false ∧ ∃ newBase newName, files.Points path newBase newName ∧
      files.get? (newBase ++ [newName]) ≠ some .directory ∧
      after.get? = Function.update (Function.update files.get? (base ++ [name]) none)
        (newBase ++ [newName]) (some (.file content)) := by
  rw [rename] at hrename
  obtain ⟨old, hold, hrename⟩ := of_bind_eq_ok hrename
  obtain rfl := Except.ok.inj (h.target.symm.trans hold)
  obtain ⟨target, htarget, hrename⟩ := of_bind_eq_ok hrename
  split at hrename
  · rename_i oldPlace newPlace hold hnew
    cases hold
    obtain ⟨newBase, newName, hpoints, rfl, rfl⟩ := points_of_target htarget hnew
    simp only [hfile] at hrename
    split at hrename
    · cases hrename
    · rename_i hslash
      split at hrename
      · cases hrename
      · rename_i hfree
        cases hrename
        refine ⟨?_, newBase, newName, hpoints, hfree, ?_⟩
        · simp only [Bool.or_eq_true, not_or, Bool.not_eq_true] at hslash
          exact hslash.2
        · rw [get?_insert (by simp), get?_erase (by simp)]
  · cases hrename

/-! ### Creating directories -/

/-- Whether only directories along some names have become new. -/
structure Opens (files after : FileSystem) (place : Location) (names : List String) : Prop where
  kept : ∀ other entry, files.get? other = some entry → after.get? other = some entry
  new : ∀ other entry, files.get? other = none → after.get? other = some entry →
    entry = .directory ∧ ∃ way rest, names = way ++ rest ∧ after.walk place way = .ok other

theorem Opens.refl (files : FileSystem) (place : Location) (names : List String) :
    files.Opens files place names where
  kept _ _ hentry := hentry
  new other entry hnone hentry := by cases hnone.symm.trans hentry

theorem Opens.of_shorter {fewer : List String} (h : files.Opens after place fewer)
    (hshorter : fewer <+: names) : files.Opens after place names where
  kept := h.kept
  new other entry hnone hentry := by
    obtain ⟨hdirectory, way, rest, rfl, hwalk⟩ := h.new other entry hnone hentry
    obtain ⟨more, rfl⟩ := hshorter
    exact ⟨hdirectory, way, rest ++ more, by rw [List.append_assoc], hwalk⟩

theorem Opens.of_get?_eq {made : FileSystem} (h : files.Opens made place names)
    (hsame : after.get? = made.get?) : files.Opens after place names where
  kept other entry hentry := by
    rw [hsame]
    exact h.kept other entry hentry
  new other entry hnone hentry := by
    rw [hsame] at hentry
    obtain ⟨rfl, way, rest, hnames, hwalk⟩ := h.new other entry hnone hentry
    refine ⟨rfl, way, rest, hnames, walk_of_directories (fun location hlocation => ?_) hwalk hentry⟩
    rw [hsame, hlocation]

theorem Opens.file_iff (h : files.Opens after base names) :
    after.get? place = some (.file content) ↔ files.get? place = some (.file content) := by
  refine ⟨fun hafter => ?_, h.kept place _⟩
  cases hbefore : files.get? place with
  | none => cases (h.new place _ hbefore hafter).1
  | some entry => exact (h.kept place entry hbefore).symm.trans hafter

theorem Opens.before {next : Location} (h : files.Opens after next names)
    (hstep : ∀ way, after.walk place (name :: way) = after.walk next way) :
    files.Opens after place (name :: names) where
  kept := h.kept
  new other entry hnone hentry := by
    obtain ⟨hdirectory, way, rest, rfl, hwalk⟩ := h.new other entry hnone hentry
    exact ⟨hdirectory, name :: way, rest, rfl, (hstep way).trans hwalk⟩

theorem Trodden.of_directories (h : files.Trodden place)
    (hkept : ∀ other, files.get? other = some .directory → after.get? other = some .directory) :
    after.Trodden place := fun before hbefore hne => hkept before (h before hbefore hne)

theorem Opens.of_insert {next : Location} (hnext : next ≠ []) (hfree : files.get? next = none)
    (h : (files.insert next .directory).Opens after next names)
    (hstep : ∀ way, after.walk place (name :: way) = after.walk next way) :
    files.Opens after place (name :: names) := by
  have hinserted : (files.insert next .directory).get? =
      Function.update files.get? next (some .directory) := get?_insert hnext .directory
  constructor
  · intro other entry hentry
    refine h.kept other entry ?_
    rw [hinserted, Function.update_of_ne, hentry]
    rintro rfl
    cases hfree.symm.trans hentry
  · intro other entry hnone hentry
    by_cases hother : other = next
    · subst hother
      have hcreated := h.kept other .directory (by rw [hinserted, Function.update_self])
      obtain rfl := Option.some.inj (hcreated.symm.trans hentry)
      exact ⟨rfl, [name], names, rfl, hstep []⟩
    · exact (h.before hstep).new other entry
        (by rw [hinserted, Function.update_of_ne hother, hnone]) hentry

/-- Creating directories along some names opens them. -/
theorem createAlong_opens (htrodden : files.Trodden place)
    (hplace : files.get? place = some .directory) (names : List String) :
    files.Opens (files.createAlong place names).2 place names := by
  induction names generalizing files place with
  | nil => exact .refl files place []
  | cons name rest ih =>
    rw [createAlong]
    split
    · rename_i hdot
      have hrest := ih htrodden hplace
      refine hrest.before fun way => ?_
      rw [walk_cons (hrest.kept place _ hplace), if_pos hdot]
    split
    · rename_i hdot hdots
      obtain ⟨htroddenAbove, habove⟩ := htrodden.dropLast hplace
      have hrest := ih htroddenAbove habove
      refine hrest.before fun way => ?_
      rw [walk_cons (hrest.kept place _ hplace), if_neg hdot, if_pos hdots]
    split
    · exact .refl files place _
    rename_i hdot hdots hlong
    dsimp only
    have hstep {made : FileSystem} (hbase : made.get? place = some .directory)
        (hnext : made.get? (place ++ [name]) = some .directory) (way : List String) :
        made.walk place (name :: way) = made.walk (place ++ [name]) way := by
      rw [walk_cons hbase, if_neg hdot, if_neg hdots, if_neg hlong, hnext]
      rfl
    split
    · rename_i hnext
      have hrest := ih (htrodden.concat hplace name) hnext
      exact hrest.before (hstep (hrest.kept place _ hplace) (hrest.kept _ _ hnext))
    · exact .refl files place _
    · rename_i hfree
      have hnext : place ++ [name] ≠ [] := by simp
      have hkept : ∀ other, files.get? other = some .directory →
          (files.insert (place ++ [name]) .directory).get? other = some .directory :=
        fun _ hother => kept_of_insert hnext hother
      have hcreated : (files.insert (place ++ [name]) .directory).get? (place ++ [name]) =
          some .directory := by rw [get?_insert hnext, Function.update_self]
      have hrest := ih ((htrodden.of_directories hkept).concat (hkept place hplace) name) hcreated
      exact hrest.of_insert hnext hfree
        (hstep (hrest.kept place _ (hkept place hplace)) (hrest.kept _ _ hcreated))

theorem Opens.fileAt?_eq (h : files.Opens after base names) (place : Location) :
    after.fileAt? place = files.fileAt? place := by
  refine Option.ext fun content => ?_
  rw [fileAt?_eq_some, fileAt?_eq_some, h.file_iff]

/-- A path that does not go up shows the same once directories have become new. -/
theorem Opens.content?_eq (h : files.Opens after [] names) (hrooted : files.Rooted)
    (hup : ".." ∉ parts path) : after.content? path = files.content? path := by
  refine Option.ext fun content => ?_
  rw [content?_eq_some, content?_eq_some, read_eq_ok_iff, read_eq_ok_iff]
  refine and_congr_right fun _ => ⟨?_, ?_⟩
  · rintro ⟨base, name, hpoints, hfile⟩
    have hbefore := h.file_iff.1 hfile
    have htrodden := hrooted.trodden (by rw [hbefore]; rfl)
    have hthere : ∀ before, before <+: base → files.get? before = some .directory := by
      rintro before hshorter
      refine htrodden before (hshorter.trans (List.prefix_append _ _)) ?_
      rintro rfl
      exact absurd hshorter.length_le (by simp)
    have hwalk := walk_of_shorteres (fun hmem => hup (List.dropLast_subset _ hmem)) hpoints.walk
      hthere
    exact ⟨base, name,
      { hpoints with walk := hwalk, directory := hthere base List.prefix_rfl }, hbefore⟩
  · rintro ⟨base, name, hpoints, hfile⟩
    exact ⟨base, name, hpoints.of_directories fun other => h.kept other _, h.kept _ _ hfile⟩

theorem createAlong_of_walk {final : Location} (hwalk : files.walk place names = .ok final)
    (hfinal : files.get? final = some .directory) {way : List String} (hshorter : way <+: names) :
    files.createAlong place way = (.ok (), files) := by
  obtain ⟨rest, rfl⟩ := hshorter
  rw [walk_append] at hwalk
  obtain ⟨middle, hway, hrest⟩ := of_bind_eq_ok hwalk
  have halong := createAlong_append hway (directory_of_walk hrest hfinal) []
  rwa [List.append_nil] at halong

end AccountManager.Storage.FileSystem
