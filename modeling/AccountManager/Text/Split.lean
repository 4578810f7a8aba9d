/-!
# Splitting text at a mark

A text is cut at every occurrence of a character, at the first one or at the last one. Joining the
parts with the mark gives the text back.
-/

namespace AccountManager.Text

/-- The parts between the marks; there is one more than there are marks. -/
def split (mark : Char) : List Char → List (List Char)
  | [] => [[]]
  | first :: rest =>
    if first = mark then [] :: split mark rest
    else
      match split mark rest with
      | [] => [[first]]
      | part :: parts => (first :: part) :: parts

def splitFirst? (mark : Char) : List Char → Option (List Char × List Char)
  | [] => none
  | first :: rest =>
    if first = mark then some ([], rest)
    else (splitFirst? mark rest).map fun (before, after) => (first :: before, after)

def splitLast? (mark : Char) : List Char → Option (List Char × List Char)
  | [] => none
  | first :: rest =>
    match splitLast? mark rest with
    | some (before, after) => some (first :: before, after)
    | none => if first = mark then some ([], rest) else none

theorem split_ne_nil (mark : Char) (text : List Char) : split mark text ≠ [] := by
  cases text with
  | nil => exact List.cons_ne_nil _ _
  | cons first rest =>
    rw [split]
    split
    · exact List.cons_ne_nil _ _
    · split <;> exact List.cons_ne_nil _ _

theorem split_of_not_mem {mark : Char} {text : List Char} (htext : mark ∉ text) :
    split mark text = [text] := by
  induction text with
  | nil => rfl
  | cons first rest ih =>
    have hfirst : first ≠ mark := fun h => htext (h ▸ List.mem_cons_self)
    have hrest : mark ∉ rest := fun h => htext (List.mem_cons_of_mem _ h)
    simp [split, hfirst, ih hrest]

theorem split_append (mark : Char) (before after : List Char) :
    split mark (before ++ mark :: after) = split mark before ++ split mark after := by
  induction before with
  | nil => simp [split]
  | cons first rest ih =>
    by_cases hfirst : first = mark
    · simp [split, hfirst, ih]
    · rw [List.cons_append, split, if_neg hfirst, split, if_neg hfirst, ih]
      obtain ⟨part, parts, hrest⟩ := List.exists_cons_of_ne_nil (split_ne_nil mark rest)
      rw [hrest]
      rfl

theorem splitFirst?_append {mark : Char} {before after : List Char} (hbefore : mark ∉ before) :
    splitFirst? mark (before ++ mark :: after) = some (before, after) := by
  induction before with
  | nil => simp [splitFirst?]
  | cons first rest ih =>
    have hfirst : first ≠ mark := fun h => hbefore (h ▸ List.mem_cons_self)
    have hrest : mark ∉ rest := fun h => hbefore (List.mem_cons_of_mem _ h)
    simp [splitFirst?, hfirst, ih hrest]

theorem splitLast?_eq_none {mark : Char} {text : List Char} (htext : mark ∉ text) :
    splitLast? mark text = none := by
  induction text with
  | nil => rfl
  | cons first rest ih =>
    have hfirst : first ≠ mark := fun h => htext (h ▸ List.mem_cons_self)
    have hrest : mark ∉ rest := fun h => htext (List.mem_cons_of_mem _ h)
    simp [splitLast?, hfirst, ih hrest]

theorem splitLast?_append {mark : Char} {before after : List Char} (hafter : mark ∉ after) :
    splitLast? mark (before ++ mark :: after) = some (before, after) := by
  induction before with
  | nil => simp [splitLast?, splitLast?_eq_none hafter]
  | cons first rest ih => simp [splitLast?, ih]

theorem of_splitFirst?_eq_some {mark : Char} {text before after : List Char}
    (hsplit : splitFirst? mark text = some (before, after)) :
    text = before ++ mark :: after ∧ mark ∉ before := by
  induction text generalizing before with
  | nil => cases hsplit
  | cons first rest ih =>
    rw [splitFirst?] at hsplit
    split at hsplit
    · rename_i hfirst
      cases hsplit
      exact ⟨congrArg (· :: after) hfirst, List.not_mem_nil⟩
    · rename_i hfirst
      obtain ⟨⟨part, _⟩, hrest, hparts⟩ := Option.map_eq_some_iff.1 hsplit
      cases hparts
      obtain ⟨rfl, hpart⟩ := ih hrest
      exact ⟨rfl, List.not_mem_cons_of_ne_of_not_mem (Ne.symm hfirst) hpart⟩

theorem not_mem_of_splitLast?_eq_none {mark : Char} {text : List Char}
    (hsplit : splitLast? mark text = none) : mark ∉ text := by
  induction text with
  | nil => exact List.not_mem_nil
  | cons first rest ih =>
    rw [splitLast?] at hsplit
    split at hsplit
    · cases hsplit
    · rename_i hrest
      split at hsplit
      · cases hsplit
      · rename_i hfirst
        exact List.not_mem_cons_of_ne_of_not_mem (Ne.symm hfirst) (ih hrest)

theorem of_splitLast?_eq_some {mark : Char} {text before after : List Char}
    (hsplit : splitLast? mark text = some (before, after)) :
    text = before ++ mark :: after ∧ mark ∉ after := by
  induction text generalizing before with
  | nil => cases hsplit
  | cons first rest ih =>
    rw [splitLast?] at hsplit
    split at hsplit
    · rename_i part _ hrest
      cases hsplit
      obtain ⟨rfl, hafter⟩ := ih hrest
      exact ⟨rfl, hafter⟩
    · rename_i hrest
      split at hsplit
      · rename_i hfirst
        cases hsplit
        exact ⟨congrArg (· :: after) hfirst, not_mem_of_splitLast?_eq_none hrest⟩
      · cases hsplit

end AccountManager.Text
