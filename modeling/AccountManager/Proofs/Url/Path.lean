import AccountManager.Proofs.Text.Utf8
import AccountManager.Url.Path

/-!
# Paths that are read again

The segments of a path that was read are settled: nothing in them would be escaped, split or taken
for dots if they were read once more. So a path that is written and read again is the same path.
-/

namespace AccountManager

/-! ### Parts between marks -/

namespace Text

theorem not_mem_of_mem_split {mark : Char} {text part : List Char}
    (hpart : part ∈ split mark text) : mark ∉ part := by
  induction text generalizing part with
  | nil =>
    obtain rfl := List.mem_singleton.1 hpart
    exact List.not_mem_nil
  | cons first rest ih =>
    rw [split] at hpart
    split at hpart
    · rcases List.mem_cons.1 hpart with rfl | hpart
      · exact List.not_mem_nil
      · exact ih hpart
    · rename_i hfirst
      obtain ⟨front, parts, hrest⟩ := List.exists_cons_of_ne_nil (split_ne_nil mark rest)
      rw [hrest] at hpart ih
      rcases List.mem_cons.1 hpart with rfl | hpart
      · exact List.not_mem_cons_of_ne_of_not_mem (Ne.symm hfirst) (ih List.mem_cons_self)
      · exact ih (List.mem_cons_of_mem front hpart)

theorem subset_of_mem_split {mark : Char} {text part : List Char} (hpart : part ∈ split mark text) :
    part ⊆ text := by
  induction text generalizing part with
  | nil =>
    obtain rfl := List.mem_singleton.1 hpart
    exact List.Subset.refl _
  | cons first rest ih =>
    rw [split] at hpart
    split at hpart
    · rcases List.mem_cons.1 hpart with rfl | hpart
      · exact List.nil_subset _
      · exact List.subset_cons_of_subset first (ih hpart)
    · obtain ⟨front, parts, hrest⟩ := List.exists_cons_of_ne_nil (split_ne_nil mark rest)
      rw [hrest] at hpart ih
      rcases List.mem_cons.1 hpart with rfl | hpart
      · exact List.cons_subset_cons first (ih List.mem_cons_self)
      · exact List.subset_cons_of_subset first (ih (List.mem_cons_of_mem front hpart))

/-- Parts that were put behind each other, each after a mark, are cut apart again. -/
theorem split_flatMap {mark : Char} {part : List Char} {parts : List (List Char)}
    (hpart : mark ∉ part) (hparts : ∀ other ∈ parts, mark ∉ other) :
    split mark (part ++ parts.flatMap (mark :: ·)) = part :: parts := by
  induction parts generalizing part with
  | nil => rw [List.flatMap_nil, List.append_nil, split_of_not_mem hpart]
  | cons other rest ih =>
    rw [List.flatMap_cons, List.cons_append, split_append, split_of_not_mem hpart,
      ih (hparts other List.mem_cons_self) fun next hnext =>
        hparts next (List.mem_cons_of_mem other hnext)]
    rfl

end Text

namespace Url

/-! ### Escapes -/

theorem escape_of_unescaped {isEscaped : Char → Bool} {text : List Char}
    (htext : ∀ character ∈ text, isEscaped character = false) : escape isEscaped text = text := by
  induction text with
  | nil => rfl
  | cons first rest ih =>
    rw [List.forall_mem_cons] at htext
    rw [escape, List.flatMap_cons, htext.1]
    exact congrArg (first :: ·) (ih htext.2)

def escapeCharacters : List Char := "%0123456789ABCDEF".toList

theorem mem_escapeByte {value : UInt8} {character : Char} (hmem : character ∈ escapeByte value) :
    character ∈ escapeCharacters := by
  have hdigit : ∀ half < 16, capitalDigit half ∈ escapeCharacters := by decide
  have hvalue := value.toNat_lt
  simp only [escapeByte, List.mem_cons, List.not_mem_nil, or_false] at hmem
  rcases hmem with rfl | rfl | rfl
  · decide
  · exact hdigit _ (by omega)
  · exact hdigit _ (by omega)

theorem mem_escape {isEscaped : Char → Bool} {text : List Char} {character : Char}
    (hmem : character ∈ escape isEscaped text) :
    character ∈ escapeCharacters ∨ (character ∈ text ∧ isEscaped character = false) := by
  obtain ⟨other, hother, hpiece⟩ := List.mem_flatMap.1 hmem
  split at hpiece
  · obtain ⟨value, -, hvalue⟩ := List.mem_flatMap.1 hpiece
    exact .inl (mem_escapeByte hvalue)
  · rename_i hkept
    obtain rfl := List.mem_singleton.1 hpiece
    exact .inr ⟨hother, Bool.eq_false_iff.2 hkept⟩

theorem escape_append (isEscaped : Char → Bool) (front back : List Char) :
    escape isEscaped (front ++ back) = escape isEscaped front ++ escape isEscaped back :=
  List.flatMap_append

theorem escape_cons_of_escaped {isEscaped : Char → Bool} {first : Char}
    (hfirst : isEscaped first = true) (rest : List Char) :
    ∃ value others, String.utf8EncodeChar first = value :: others ∧
      escape isEscaped (first :: rest) =
        escapeByte value ++ (others.flatMap escapeByte ++ escape isEscaped rest) := by
  obtain ⟨value, others, hbytes⟩ :=
    List.exists_cons_of_ne_nil (String.utf8EncodeChar_ne_nil (c := first))
  refine ⟨value, others, hbytes, ?_⟩
  have hencode : Utf8.encode first.toString = value :: others := by
    rw [Utf8.encode_eq_encodeList, Char.toString, String.toList_singleton, Utf8.encodeList_cons,
      Utf8.encodeList_nil, List.append_nil, hbytes]
  rw [escape, List.flatMap_cons, if_pos hfirst, hencode, List.flatMap_cons, List.append_assoc]
  rfl

/-! ### Dots -/

/-- What a segment of one dot or of two is in lower case. -/
def dots : List Segment := [".", "%2e", "..", ".%2e", "%2e.", "%2e%2e"].map String.toList

theorem mem_dots_iff (segment : Segment) :
    Domain.lower segment ∈ dots ↔ isSingleDot segment = true ∨ isDoubleDot segment = true := by
  simp only [dots, isSingleDot, isDoubleDot, List.contains_iff_mem, List.map_cons, List.map_nil,
    List.mem_cons, List.not_mem_nil, or_false, or_assoc]

/-- In dots every percent sign begins an escaped dot. -/
theorem escape_of_mem_dots {front back : List Char} {high low : Char}
    (hdots : front ++ '%' :: high :: low :: back ∈ dots) : high = '2' ∧ low = 'e' := by
  have hall : ∀ dot ∈ dots, ∀ place < 7,
      (dot.drop place).head? = some '%' → ((dot.drop place).drop 1).take 2 = ['2', 'e'] := by
    decide
  have hlength : ∀ dot ∈ dots, dot.length < 7 := by decide
  have hfront : front.length < 7 := by
    have h := hlength _ hdots
    rw [List.length_append] at h
    omega
  have h := hall _ hdots front.length hfront
  rw [List.drop_left] at h
  have hpair := h rfl
  exact ⟨(List.cons.inj hpair).1, (List.cons.inj (List.cons.inj hpair).2).1⟩

theorem lower_escape_not_mem_dots {segment : Segment} {character : Char}
    (hmem : character ∈ segment) (hescaped : inPath character = true) :
    Domain.lower (escape inPath segment) ∉ dots := by
  intro hdots
  obtain ⟨front, back, rfl⟩ := List.append_of_mem hmem
  obtain ⟨value, others, hbytes, hpiece⟩ := escape_cons_of_escaped hescaped back
  rw [escape_append, hpiece] at hdots
  simp only [Domain.lower, escapeByte, List.map_append, List.map_cons, List.cons_append,
    show Char.toLower '%' = '%' from rfl] at hdots
  obtain ⟨hhigh, hlow⟩ := escape_of_mem_dots hdots
  have hdigits : ∀ half < 16, ((capitalDigit half).toLower = '2' → half = 2) ∧
      ((capitalDigit half).toLower = 'e' → half = 14) := by
    decide
  have hvalue := value.toNat_lt
  have hdot : value.toNat = 46 := by
    have := (hdigits (value.toNat / 16) (by omega)).1 hhigh
    have := (hdigits (value.toNat % 16) (by omega)).2 hlow
    omega
  by_cases hascii : character.toNat < 128
  · rw [Utf8.encodeList_of_ascii hascii] at hbytes
    have hcode : (UInt8.ofNat character.toNat).toNat = 46 := (List.cons.inj hbytes).1 ▸ hdot
    rw [UInt8.toNat_ofNat', Nat.mod_eq_of_lt (by omega)] at hcode
    have hcharacter : character = '.' := by
      rw [← Char.ofNat_toNat character, hcode]
    rw [hcharacter] at hescaped
    exact absurd hescaped (by decide)
  · have := Utf8.le_of_mem_utf8EncodeChar hascii (hbytes ▸ List.mem_cons_self)
    omega

/-! ### Settled segments -/

/-- Whether a segment would stay as it is: nothing in it is escaped or ends it, and it is not
dots. -/
structure Settled (kind : Kind) (segment : Segment) : Prop where
  kept : ∀ character ∈ segment, inPath character = false
  whole : ∀ character ∈ segment, isSeparator kind character = false
  notSingle : isSingleDot segment = false
  notDouble : isDoubleDot segment = false

instance (kind : Kind) (segment : Segment) : Decidable (Settled kind segment) :=
  decidable_of_iff
    ((segment.all fun character => !inPath character) = true ∧
      (segment.all fun character => !isSeparator kind character) = true ∧
      isSingleDot segment = false ∧ isDoubleDot segment = false)
    ⟨fun ⟨hkept, hwhole, hsingle, hdouble⟩ =>
      ⟨by simpa using hkept, by simpa using hwhole, hsingle, hdouble⟩,
      fun h => ⟨by simpa using h.kept, by simpa using h.whole, h.notSingle, h.notDouble⟩⟩

variable {kind : Kind} {segment : Segment} {before segments : List Segment} {text : List Char}

theorem settled_nil : Settled kind [] where
  kept := List.forall_mem_nil _
  whole := List.forall_mem_nil _
  notSingle := rfl
  notDouble := rfl

theorem settled_escape (hwhole : ∀ character ∈ segment, isSeparator kind character = false)
    (hsingle : isSingleDot segment = false) (hdouble : isDoubleDot segment = false) :
    Settled kind (escape inPath segment) := by
  have hplain : ∀ character ∈ escapeCharacters, inPath character = false ∧
      ∀ kind, isSeparator kind character = false := by
    have hcharacters : (escapeCharacters.all fun character =>
        !inPath character && character != '/' && character != '\\') = true := by
      decide
    intro character hmem
    obtain ⟨⟨hpath, hslash⟩, hback⟩ : (inPath character = false ∧ character ≠ '/') ∧
        character ≠ '\\' := by
      simpa using List.all_eq_true.1 hcharacters character hmem
    exact ⟨hpath, fun kind => by simp [isSeparator, hslash, hback]⟩
  have hdots : Domain.lower (escape inPath segment) ∉ dots := by
    by_cases hescaped : ∃ character ∈ segment, inPath character = true
    · obtain ⟨character, hmem, hcharacter⟩ := hescaped
      exact lower_escape_not_mem_dots hmem hcharacter
    · have hkept : ∀ character ∈ segment, inPath character = false := fun character hmem =>
        Bool.eq_false_iff.2 fun h => hescaped ⟨character, hmem, h⟩
      rw [escape_of_unescaped hkept, mem_dots_iff, hsingle, hdouble]
      simp
  rw [mem_dots_iff, not_or, Bool.not_eq_true, Bool.not_eq_true] at hdots
  refine ⟨fun character hmem => ?_, fun character hmem => ?_, hdots.1, hdots.2⟩
  · rcases mem_escape hmem with h | ⟨-, h⟩
    · exact (hplain character h).1
    · exact h
  · rcases mem_escape hmem with h | ⟨h, -⟩
    · exact (hplain character h).2 kind
    · exact hwhole character h

theorem settled_addSegments (hbefore : ∀ segment ∈ before, Settled kind segment)
    (hwhole : ∀ segment ∈ segments, ∀ character ∈ segment, isSeparator kind character = false) :
    ∀ segment ∈ addSegments before segments, Settled kind segment := by
  have hconcat {front : List Segment} {last : Segment}
      (hfront : ∀ segment ∈ front, Settled kind segment) (hlast : Settled kind last) :
      ∀ segment ∈ front ++ [last], Settled kind segment := by
    intro segment hmem
    rcases List.mem_append.1 hmem with h | h
    · exact hfront segment h
    · exact List.mem_singleton.1 h ▸ hlast
  fun_induction addSegments before segments with
  | case1 before => exact hbefore
  | case2 before last hdouble =>
    exact hconcat (fun segment hmem => hbefore segment (List.dropLast_subset _ hmem)) settled_nil
  | case3 before last hdouble hsingle => exact hconcat hbefore settled_nil
  | case4 before last hdouble hsingle =>
    exact hconcat hbefore (settled_escape (hwhole last List.mem_cons_self)
      (Bool.not_eq_true _ ▸ hsingle) (Bool.not_eq_true _ ▸ hdouble))
  | case5 before segment rest hrest hdouble ih =>
    exact ih (fun segment hmem => hbefore segment (List.dropLast_subset _ hmem))
      fun other hmem => hwhole other (List.mem_cons_of_mem segment hmem)
  | case6 before segment rest hrest hdouble hsingle ih =>
    exact ih hbefore fun other hmem => hwhole other (List.mem_cons_of_mem segment hmem)
  | case7 before segment rest hrest hdouble hsingle ih =>
    refine ih (hconcat hbefore ?_) fun other hmem =>
      hwhole other (List.mem_cons_of_mem segment hmem)
    exact settled_escape (hwhole segment List.mem_cons_self) (Bool.not_eq_true _ ▸ hsingle)
      (Bool.not_eq_true _ ▸ hdouble)

theorem addSegments_ne_nil (hsegments : segments ≠ []) : addSegments before segments ≠ [] := by
  fun_induction addSegments before segments with
  | case1 before => exact absurd rfl hsegments
  | case2 | case3 | case4 => exact List.concat_ne_nil _ _
  | case5 before segment rest hrest hdouble ih => exact ih fun h => hrest h
  | case6 before segment rest hrest hdouble hsingle ih => exact ih fun h => hrest h
  | case7 before segment rest hrest hdouble hsingle ih => exact ih fun h => hrest h

theorem addSegments_of_settled (hsettled : ∀ segment ∈ segments, Settled kind segment) :
    addSegments before segments = before ++ segments := by
  fun_induction addSegments before segments with
  | case1 before => rw [List.append_nil]
  | case2 before last hdouble =>
    rw [(hsettled last List.mem_cons_self).notDouble] at hdouble
    cases hdouble
  | case3 before last hdouble hsingle =>
    rw [(hsettled last List.mem_cons_self).notSingle] at hsingle
    cases hsingle
  | case4 before last hdouble hsingle =>
    rw [escape_of_unescaped (hsettled last List.mem_cons_self).kept]
  | case5 before segment rest hrest hdouble ih =>
    rw [(hsettled segment List.mem_cons_self).notDouble] at hdouble
    cases hdouble
  | case6 before segment rest hrest hdouble hsingle ih =>
    rw [(hsettled segment List.mem_cons_self).notSingle] at hsingle
    cases hsingle
  | case7 before segment rest hrest hdouble hsingle ih =>
    rw [ih fun other hmem => hsettled other (List.mem_cons_of_mem segment hmem),
      escape_of_unescaped (hsettled segment List.mem_cons_self).kept, List.append_assoc]
    rfl

/-! ### Splitting -/

theorem whole_of_mem_splitSegments (hmem : segment ∈ splitSegments kind text) :
    ∀ character ∈ segment, isSeparator kind character = false := by
  intro character hcharacter
  have hslash : character ≠ '/' := fun h => Text.not_mem_of_mem_split hmem (h ▸ hcharacter)
  obtain ⟨other, -, heq⟩ := List.mem_map.1 (Text.subset_of_mem_split hmem hcharacter)
  split at heq
  · exact absurd heq.symm hslash
  · rename_i hother
    exact heq ▸ Bool.eq_false_iff.2 hother

theorem splitSegments_write (hsettled : ∀ other ∈ segment :: segments, Settled kind other) :
    splitSegments kind (segment ++ segments.flatMap ('/' :: ·)) = segment :: segments := by
  have hslash : ∀ other ∈ segment :: segments, '/' ∉ other := by
    intro other hother hmem
    have h := (hsettled other hother).whole '/' hmem
    simp [isSeparator] at h
  have hseparator : ∀ character ∈ segment ++ segments.flatMap ('/' :: ·),
      (if isSeparator kind character then '/' else character) = character := by
    intro character hmem
    split
    · rename_i hseparator
      rcases List.mem_append.1 hmem with h | h
      · rw [(hsettled segment List.mem_cons_self).whole character h] at hseparator
        cases hseparator
      · obtain ⟨other, hother, h⟩ := List.mem_flatMap.1 h
        rcases List.mem_cons.1 h with rfl | h
        · rfl
        · have hother := hsettled other (List.mem_cons_of_mem segment hother)
          rw [hother.whole character h] at hseparator
          cases hseparator
    · rfl
  rw [List.forall_mem_cons] at hslash
  rw [splitSegments, List.map_congr_left hseparator, List.map_id',
    Text.split_flatMap hslash.1 hslash.2]

/-- A path of settled segments is read back, in addresses that separate by both slashes. -/
theorem readPath_write (hsettled : ∀ segment ∈ segments, Settled .special segment)
    (hsegments : segments ≠ []) :
    readPath .special (Path.segments segments).write = .segments segments := by
  obtain ⟨segment, rest, rfl⟩ := List.exists_cons_of_ne_nil hsegments
  have hdrop : dropSeparator .special (Path.segments (segment :: rest)).write =
      segment ++ rest.flatMap ('/' :: ·) := by
    rw [Path.write, List.flatMap_cons]
    rfl
  rw [readPath, hdrop, splitSegments_write hsettled, addSegments_of_settled hsettled]
  rfl

/-- What is read as a path consists of settled segments, of which there is at least one. -/
theorem settled_readPath (text : List Char) :
    ∃ segments, readPath .special text = .segments segments ∧ segments ≠ [] ∧
      ∀ segment ∈ segments, Settled .special segment :=
  ⟨_, rfl, addSegments_ne_nil (Text.split_ne_nil '/' _),
    settled_addSegments (List.forall_mem_nil _) fun _ => whole_of_mem_splitSegments⟩

end Url

end AccountManager
