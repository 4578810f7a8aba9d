import AccountManager.Proofs.Storage.Mirror
import AccountManager.Proofs.Storage.Targets

/-!
# Writing all or nothing

The calls of a write leave everything as it was but for one unfinished file, until the last call
puts the finished one in place. Whichever call is refused, the unfinished file is removed and
nothing has happened, except that directories on the way to that of the store may be new.
-/

namespace AccountManager.Storage

open FileSystem

namespace FileBlobs

variable {store : FileBlobs} {name last : String}

/-! ### The last names of the two paths -/

theorem exists_join_eq (directory before after : String) :
    ∃ front, Paths.join directory (before ++ "/" ++ after) = front ++ "/" ++ after := by
  unfold Paths.join
  split_ifs
  · exact ⟨before, rfl⟩
  · exact ⟨directory ++ before, by simp only [String.append_assoc]⟩
  · exact ⟨directory ++ "/" ++ before, by simp only [String.append_assoc]⟩

/-- What a temporary name has behind the name of the blob. -/
def ending (drawn : Nat) : String := "." ++ ticket drawn ++ ".tmp"

theorem slash_not_mem_ending (drawn : Nat) : '/' ∉ (ending drawn).toList := by
  have hticket : '/' ∉ (ticket drawn).toList := by
    intro h
    obtain ⟨value, hvalue, hdigit⟩ := mem_ticket h
    exact (digitChar_spec value hvalue).2.1 hdigit.symm
  simp [ending, String.toList_append, hticket]

theorem length_ending (drawn : Nat) : 0 < (ending drawn).length := by
  rw [ending, String.length_append]
  exact Nat.add_pos_right _ (by decide)

theorem getLast?_parts_append {front after : String} (hempty : after ≠ "")
    (hslash : '/' ∉ after.toList) : (parts (front ++ "/" ++ after)).getLast? = some after := by
  rw [parts_append, parts_of_not_mem hempty hslash, List.getLast?_concat]

theorem getLast?_parts_join {directory : String} (hempty : name ≠ "")
    (hslash : '/' ∉ name.toList) : (parts (Paths.join directory name)).getLast? = some name := by
  rw [parts_join_of_not_mem directory hempty hslash, List.getLast?_concat]

/-- Whether the last part of a path is longer than a text. -/
def LongerLast (path text : String) : Prop :=
  ∃ longer, (parts path).getLast? = some longer ∧ text.length < longer.length

theorem ne_of_longerLast {files : FileSystem} {base otherBase : Location}
    {temporary otherName : String} (hother : files.Points temporary otherBase otherName)
    (hlonger : LongerLast temporary last) : base ++ [last] ≠ otherBase ++ [otherName] := by
  intro hequal
  obtain rfl := List.singleton_inj.1 (List.append_inj' hequal rfl).2
  obtain ⟨longer, hlongerLast, hlength⟩ := hlonger
  obtain rfl := Option.some.inj (hother.last.symm.trans hlongerLast)
  exact Nat.lt_irrefl _ hlength

/-- With a slash in the name of the blob, both paths go on with what is behind it. -/
theorem longerLast_of_slash (directory before : String) (drawn : Nat) {after : String}
    (hclear : '/' ∉ after.toList) :
    LongerLast (Paths.join directory ("." ++ (before ++ "/" ++ after) ++ ending drawn)) after := by
  have hbehind : "." ++ (before ++ "/" ++ after) ++ ending drawn =
      ("." ++ before) ++ "/" ++ (after ++ ending drawn) := by
    simp only [String.append_assoc]
  have hlonger : after.length < (after ++ ending drawn).length := by
    rw [String.length_append]
    exact Nat.lt_add_of_pos_right (length_ending drawn)
  obtain ⟨front, hfront⟩ := exists_join_eq directory ("." ++ before) (after ++ ending drawn)
  refine ⟨after ++ ending drawn, ?_, hlonger⟩
  rw [hbehind, hfront, getLast?_parts_append]
  · intro hempty
    simp [hempty] at hlonger
  · simp [String.toList_append, hclear, slash_not_mem_ending]

theorem longerLast_of_not_mem (directory : String) (drawn : Nat)
    (hclear : '/' ∉ name.toList) :
    LongerLast (Paths.join directory ("." ++ name ++ ending drawn)) name := by
  have hlonger : name.length < ("." ++ name ++ ending drawn).length := by
    rw [String.length_append, String.length_append]
    have hending := length_ending drawn
    omega
  refine ⟨"." ++ name ++ ending drawn, ?_, hlonger⟩
  rw [getLast?_parts_join]
  · intro hempty
    simp [hempty] at hlonger
  · simp [String.toList_append, hclear, slash_not_mem_ending]

theorem parts_of_join_empty {directory : String}
    (hslash : endsInSlash (Paths.join directory "") = false) :
    parts (Paths.join directory "") = [] := by
  rw [join_eq _ (by simp)] at hslash ⊢
  split_ifs at hslash ⊢ with hclosed
  · rcases hclosed with hempty | hlast
    · rw [hempty]
      rfl
    · simp [endsInSlash, hlast] at hslash
  · simp [endsInSlash, String.toList_append] at hslash

/-- The last name in the path of a blob is shorter than that of the file that a write fills first,
wherever both are. -/
theorem longerLast_temporaryPath (hslash : endsInSlash (store.path name) = false)
    (hlast : (parts (store.path name)).getLast? = some last) :
    LongerLast (store.temporaryPath name) last := by
  have htemporary : store.temporaryPath name =
      Paths.join store.directory ("." ++ name ++ ending store.writes) := by
    simp only [temporaryPath, path, ending, String.append_assoc]
  rw [htemporary]
  rw [path] at hslash hlast
  cases hsplit : Text.splitLast? '/' name.toList with
  | some found =>
    obtain ⟨before, after⟩ := found
    obtain ⟨hname, hafter⟩ := Text.of_splitLast?_eq_some hsplit
    obtain rfl : name = String.ofList before ++ "/" ++ String.ofList after := by
      rw [← String.toList_inj, hname]
      simp
    have hclear : '/' ∉ (String.ofList after).toList := by rwa [String.toList_ofList]
    obtain ⟨front, hpath⟩ :=
      exists_join_eq store.directory (String.ofList before) (String.ofList after)
    rw [hpath] at hslash hlast
    have hempty : String.ofList after ≠ "" := by
      intro hempty
      simp [endsInSlash, hempty, String.toList_append] at hslash
    rw [getLast?_parts_append hempty hclear] at hlast
    obtain rfl := Option.some.inj hlast
    exact longerLast_of_slash _ _ _ hclear
  | none =>
    have hclear := Text.not_mem_of_splitLast?_eq_none hsplit
    by_cases hempty : name = ""
    · rw [hempty] at hslash hlast
      rw [parts_of_join_empty hslash] at hlast
      cases hlast
    · rw [getLast?_parts_join hempty hclear] at hlast
      obtain rfl := Option.some.inj hlast
      exact longerLast_of_not_mem _ _ hclear

/-! ### The calls after the directory is there -/

/-- How the files may stand after a call of a write: as they were, with a file that is not finished,
or with the new content in its place. -/
inductive Stands (made : FileSystem) (temporary path : String) (bytes : Bytes)
    (files : FileSystem) : Prop
  | untouched (h : files.get? = made.get?)
  | unfinished {base : Location} {name : String} (hpoints : made.Points temporary base name)
      (hfree : made.get? (base ++ [name]) = none) (content : Bytes)
      (h : files.get? = Function.update made.get? (base ++ [name]) (some (.file content)))
  | published {base : Location} {name : String} (hpoints : made.Points path base name)
      (hslash : endsInSlash path = false) (hfile : made.get? (base ++ [name]) ≠ some .directory)
      (h : files.get? = Function.update made.get? (base ++ [name]) (some (.file bytes)))

/-- What the calls of a write leave: nothing if they failed, and the new content in its place if
they succeeded. -/
structure Leaves (made : FileSystem) (temporary path : String) (bytes : Bytes)
    (written : Written) : Prop where
  stands : ∀ files ∈ written.states, Stands made temporary path bytes files
  ends : written.states.getLast? = some written.final
  failed : ∀ error, written.result = .error error → written.final.get? = made.get?
  succeeded : written.result = .ok () → ∃ base name, made.Points path base name ∧
    endsInSlash path = false ∧
    written.final.get? = Function.update made.get? (base ++ [name]) (some (.file bytes))

section

variable {made files : FileSystem} {states : List FileSystem} {base : Location}
  {temporary path name : String} {content bytes : Bytes} {unfinished : Location}

theorem update_none (hfree : made.get? unfinished = none) :
    Function.update made.get? unfinished none = made.get? :=
  Function.update_eq_self_iff.2 hfree.symm

variable (hpoints : made.Points temporary base name) (hslash : endsInSlash temporary = false)
  (hfree : made.get? (base ++ [name]) = none)

include hpoints hfree

theorem points_unfinished
    (h : files.get? = Function.update made.get? (base ++ [name]) (some (.file content))) :
    files.Points temporary base name ∧ files.get? (base ++ [name]) = some (.file content) := by
  refine ⟨hpoints.of_directories fun other => ?_, by rw [h, Function.update_self]⟩
  exact (directory_iff_of_update (by simp [hfree]) (by simp) h other).2

include hslash

theorem abandon_leaves (error : SystemError)
    (hstates : ∀ files ∈ states, Stands made temporary path bytes files)
    (h : files.get? = Function.update made.get? (base ++ [name]) (some (.file content))) :
    Leaves made temporary path bytes (abandon temporary error states files) := by
  obtain ⟨hthere, hfile⟩ := points_unfinished hpoints hfree h
  have hremoved : (files.erase (base ++ [name])).get? = made.get? := by
    rw [get?_erase (by simp), h, Function.update_idem, update_none hfree]
  rw [abandon, hthere.remove hslash hfile]
  exact ⟨List.forall_mem_append.2 ⟨hstates, List.forall_mem_singleton.2 (.untouched hremoved)⟩,
    List.getLast?_concat, fun _ _ => hremoved, nofun⟩

theorem publish_leaves (refusals : Refusals)
    (hstates : ∀ files ∈ states, Stands made temporary path bytes files)
    (h : files.get? = Function.update made.get? (base ++ [name]) (some (.file bytes))) :
    Leaves made temporary path bytes (publish refusals temporary path states files) := by
  rw [publish]
  split
  · exact abandon_leaves hpoints hslash hfree _ hstates h
  · split
    · exact abandon_leaves hpoints hslash hfree _ hstates h
    · rename_i published hrename
      obtain ⟨hthere, hfile⟩ := points_unfinished hpoints hfree h
      obtain ⟨hpathSlash, newBase, newName, hnew, hnotDirectory, hpublished⟩ :=
        of_rename_eq_ok hthere hfile hrename
      have hsame := directory_iff_of_update (by simp [hfree]) (by simp) h
      have hmade := hnew.of_directories fun other => (hsame other).1
      rw [h, Function.update_idem, update_none hfree] at hpublished
      have hstands : Stands made temporary path bytes published :=
        .published hmade hpathSlash (fun hother => hnotDirectory ((hsame _).2 hother)) hpublished
      refine ⟨List.forall_mem_append.2 ⟨hstates, List.forall_mem_singleton.2 hstands⟩,
        List.getLast?_concat, ?_, fun _ => ⟨newBase, newName, hmade, hpathSlash, hpublished⟩⟩
      rintro _ ⟨⟩

theorem fill_leaves (refusals : Refusals)
    (hstates : ∀ files ∈ states, Stands made temporary path bytes files)
    (h : files.get? = Function.update made.get? (base ++ [name]) (some (.file []))) :
    Leaves made temporary path bytes
      (fill refusals temporary path bytes states files) := by
  obtain ⟨hthere, hfile⟩ := points_unfinished hpoints hfree h
  have hfilled (reaching : Bytes) :
      (files.insert (base ++ [name]) (.file ([] ++ reaching))).get? =
        Function.update made.get? (base ++ [name]) (some (.file reaching)) := by
    rw [get?_insert (by simp), h, Function.update_idem, List.nil_append]
  have hmore (reaching : Bytes) :
      ∀ other ∈ states ++ [files.insert (base ++ [name]) (.file ([] ++ reaching))],
        Stands made temporary path bytes other :=
    List.forall_mem_append.2
      ⟨hstates, List.forall_mem_singleton.2
      (.unfinished hpoints hfree reaching (hfilled reaching))⟩
  unfold fill
  simp only [hthere.append hfile]
  cases refusals .fill with
  | some refusal => exact abandon_leaves hpoints hslash hfree _ (hmore _) (hfilled _)
  | none =>
    cases refusals .sync with
    | some refusal => exact abandon_leaves hpoints hslash hfree _ (hmore _) (hfilled _)
    | none => exact publish_leaves hpoints hslash hfree refusals (hmore _) (hfilled _)

end

/-! ### The whole write -/

section

variable {store : FileBlobs} {refusals : Refusals} {name : String} {made : FileSystem}

/-- Creating the directory of a store opens it, or a part of the way to it. -/
theorem prepare_opens (refusals : Refusals) (store : FileBlobs) :
    store.files.Opens (store.prepare refusals).2 [] (parts store.directory) := by
  have halong (names : List String) :
      store.files.Opens (store.files.createAlong [] names).2 [] names :=
    createAlong_opens trodden_nil rfl names
  unfold prepare
  split
  · rw [createDirectories]
    split
    · exact .refl _ _ _
    · exact halong _
  · rename_i refusal _
    split
    · exact .refl _ _ _
    · exact (halong _).of_shorter (List.take_prefix refusal.reached _)

theorem prepare_of_leads (refusals : Refusals) {place : Location}
    (hleads : store.files.Leads store.directory place) :
    (store.prepare refusals).2 = store.files := by
  have halong {way : List String} (hshorter : way <+: parts store.directory) :=
    createAlong_of_walk hleads.walk hleads.directory hshorter
  unfold prepare
  split
  · rw [createDirectories]
    split
    · rfl
    · rw [halong List.prefix_rfl]
  · rename_i refusal _
    split
    · rfl
    · simp only [halong (List.take_prefix refusal.reached _)]

/-- A write leaves what its calls after the first leave. -/
theorem writeRefusing_leaves (refusals : Refusals) (bytes : Bytes)
    (hunused : (store.prepare refusals).2.Unused (store.temporaryPath name)) :
    Leaves (store.prepare refusals).2 (store.temporaryPath name) (store.path name) bytes
      (store.writeRefusing refusals name bytes) := by
  have habandoned (made : FileSystem) (error : SystemError)
      (hunused : made.Unused (store.temporaryPath name)) :
      Leaves made (store.temporaryPath name) (store.path name) bytes
        (abandon (store.temporaryPath name) error [made] made) := by
    obtain ⟨refused, hremove⟩ := remove_of_unused hunused
    rw [abandon, hremove]
    exact ⟨List.forall_mem_singleton.2 (.untouched rfl), rfl, fun _ _ => rfl, nofun⟩
  unfold writeRefusing
  split
  · rename_i error made hprepared
    rw [hprepared]
    exact ⟨List.forall_mem_singleton.2 (.untouched rfl), rfl, fun _ _ => rfl, nofun⟩
  · rename_i made hprepared
    rw [hprepared] at hunused ⊢
    dsimp only
    split
    · exact habandoned made _ hunused
    · split
      · exact habandoned made _ hunused
      · rename_i created hcreate
        obtain ⟨hslash, base, name, hpoints, -, hcreated⟩ := of_create_eq_ok hcreate
        have hfree := hunused base name hpoints
        refine fill_leaves hpoints hslash hfree refusals ?_ hcreated
        simp only [List.forall_mem_cons, List.not_mem_nil, false_implies, implies_true, and_true]
        exact ⟨.untouched rfl, .unfinished hpoints hfree [] hcreated⟩

/-! ### What is seen -/

variable {files : FileSystem} {temporary path : String} {bytes : Bytes}

theorem Stands.directory_iff (h : Stands made temporary path bytes files) (other : Location) :
    files.get? other = some .directory ↔ made.get? other = some .directory := by
  cases h with
  | untouched h => rw [h]
  | unfinished _ hfree _ h => exact directory_iff_of_update (by simp [hfree]) (by simp) h other
  | published _ _ hfile h => exact directory_iff_of_update hfile (by simp) h other

theorem Leaves.directory_iff {written : Written} (h : Leaves made temporary path bytes written)
    (other : Location) :
    written.final.get? other = some .directory ↔ made.get? other = some .directory :=
  (h.stands _ (List.mem_of_getLast? h.ends)).directory_iff other

theorem Leaves.read_eq {written : Written} (h : Leaves made temporary path bytes written)
    (hsucceeded : written.result = .ok ()) : written.final.read path = .ok bytes := by
  obtain ⟨base, last, hpoints, hslash, hfinal⟩ := h.succeeded hsucceeded
  have hafter := hpoints.of_directories fun other => (h.directory_iff other).2
  exact read_eq_ok_iff.2 ⟨hslash, base, last, hafter, by rw [hfinal, Function.update_self]⟩

variable (hlonger : ∀ last, endsInSlash path = false → (parts path).getLast? = some last →
  LongerLast temporary last)

include hlonger

/-- Where a path points there is what was there, or the new content. -/
theorem Stands.get?_eq (h : Stands made temporary path bytes files) {base : Location}
    (hpoints : made.Points path base last) (hslash : endsInSlash path = false) :
    files.get? (base ++ [last]) = made.get? (base ++ [last]) ∨
      files.get? (base ++ [last]) = some (.file bytes) := by
  cases h with
  | untouched h => exact .inl (by rw [h])
  | @unfinished other name hother hfree content h =>
    refine .inl ?_
    rw [h, Function.update_of_ne]
    exact ne_of_longerLast hother (hlonger last hslash hpoints.last)
  | published hother _ _ h =>
    obtain ⟨rfl, rfl⟩ := hother.unique hpoints
    exact .inr (by rw [h, Function.update_self])

theorem Stands.content?_eq (h : Stands made temporary path bytes files) :
    files.content? path = made.content? path ∨ files.content? path = some bytes := by
  by_cases hnew : ∃ base last, made.Points path base last ∧ endsInSlash path = false ∧
      files.get? (base ++ [last]) = some (.file bytes)
  · obtain ⟨base, last, hpoints, hslash, hfile⟩ := hnew
    have hafter := hpoints.of_directories fun other => (h.directory_iff other).2
    exact .inr (content?_eq_some.2 (read_eq_ok_iff.2 ⟨hslash, base, last, hafter, hfile⟩))
  · refine .inl (content?_congr h.directory_iff fun base last hslash hpoints => ?_)
    exact (h.get?_eq hlonger hpoints hslash).resolve_right fun hfile =>
      hnew ⟨base, last, hpoints, hslash, hfile⟩

end

/-- Whether a write is all or nothing. After each of its calls there is the old content or the new
one where the name of the blob points, and that is what a reader is shown; only a name that goes up
again from a directory that was not there shows nothing before. A write that fails leaves at most
new directories on the way to that of the store. One that succeeds leaves the new content under its
name, and every other file as it was. -/
structure AllOrNothing (store : FileBlobs) (name : String) (bytes : Bytes) (written : Written) :
    Prop where
  ends : written.states.getLast? = some written.final
  target : ∀ files ∈ written.states, ∀ base last, files.Points (store.path name) base last →
    endsInSlash (store.path name) = false →
      files.fileAt? (base ++ [last]) = store.files.fileAt? (base ++ [last]) ∨
        files.fileAt? (base ++ [last]) = some bytes
  reader : (∃ place, store.files.Leads store.directory place) ∨
      store.files.Rooted ∧ ".." ∉ parts (store.path name) →
    ∀ files ∈ written.states,
      files.content? (store.path name) = store.files.content? (store.path name) ∨
        files.content? (store.path name) = some bytes
  failed : ∀ error, written.result = .error error →
    store.files.Opens written.final [] (parts store.directory)
  succeeded : written.result = .ok () →
    FileBlobs.read { store with files := written.final } name = .ok (some bytes) ∧
      ∃ base last, written.final.Points (store.path name) base last ∧
        ∀ place, place ≠ base ++ [last] →
          written.final.fileAt? place = store.files.fileAt? place

/-- Whatever is there, whatever the name is and whichever calls the system refuses, a write is all
or nothing, if nothing has its temporary name. -/
theorem write_is_all_or_nothing (store : FileBlobs) (refusals : Refusals) (name : String)
    (bytes : Bytes) (hunused : (store.prepare refusals).2.Unused (store.temporaryPath name)) :
    AllOrNothing store name bytes (store.writeRefusing refusals name bytes) := by
  have hopens := prepare_opens refusals store
  have hleaves := writeRefusing_leaves refusals bytes hunused
  have hlonger (last : String) (hslash : endsInSlash (store.path name) = false)
      (hlast : (parts (store.path name)).getLast? = some last) :
      LongerLast (store.temporaryPath name) last := longerLast_temporaryPath hslash hlast
  generalize store.writeRefusing refusals name bytes = written at hleaves
  refine ⟨hleaves.ends, ?_, ?_, ?_, ?_⟩
  · intro files hfiles base last hpoints hslash
    have hstands := hleaves.stands files hfiles
    have hmade := hpoints.of_directories fun other => (hstands.directory_iff other).1
    rcases hstands.get?_eq hlonger hmade hslash with hsame | hnew
    · exact .inl ((fileAt?_congr hsame).trans (hopens.fileAt?_eq _))
    · exact .inr (fileAt?_eq_some.2 hnew)
  · intro hway files hfiles
    have hsame : (store.prepare refusals).2.content? (store.path name) =
        store.files.content? (store.path name) := by
      rcases hway with ⟨place, hleads⟩ | ⟨hrooted, hup⟩
      · rw [prepare_of_leads refusals hleads]
      · exact hopens.content?_eq hrooted hup
    rw [← hsame]
    exact (hleaves.stands files hfiles).content?_eq hlonger
  · intro error hfailed
    exact hopens.of_get?_eq (hleaves.failed error hfailed)
  · intro hsucceeded
    have hread := hleaves.read_eq hsucceeded
    obtain ⟨base, last, hpoints, -, hfinal⟩ := hleaves.succeeded hsucceeded
    have hafter := hpoints.of_directories fun other => (hleaves.directory_iff other).2
    refine ⟨?_, base, last, hafter, fun place hplace => ?_⟩
    · rw [path] at hread
      rw [FileBlobs.read, path, hread]
    · have hkept : written.final.get? place = (store.prepare refusals).2.get? place := by
        rw [hfinal, Function.update_of_ne hplace]
      exact (fileAt?_congr hkept).trans (hopens.fileAt?_eq place)

/-- A write over a blob, first while the system does not let it finish, and then with a name that
has the unfinished file in the directory above. -/
theorem unfinished_write_leaves_no_trace :
    ∃ store : FileBlobs, ∃ refusals : Refusals,
      store.read "blob" = .ok (some [1]) ∧
        (store.writeRefusing refusals "blob" [2, 3]).result = .error .busy ∧
        AllOrNothing store "blob" [2, 3] (store.writeRefusing refusals "blob" [2, 3]) ∧
        (store.write "./blob" [2, 3]).1 = .ok () ∧
        AllOrNothing store "./blob" [2, 3]
          (store.writeRefusing (fun _ => none) "./blob" [2, 3]) := by
  refine ⟨⟨⟨[(["srv"], .directory), (["srv", "blob"], .file [1])]⟩, "/srv", 7⟩,
    fun stage => if stage = .sync then some ⟨.busy, 0⟩ else none, ?_, ?_, ?_, ?_, ?_⟩
  · decide
  · decide
  · exact write_is_all_or_nothing _ _ _ _ (by decide)
  · decide
  · exact write_is_all_or_nothing _ _ _ _ (by decide)

end FileBlobs

end AccountManager.Storage
