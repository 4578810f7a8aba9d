import AccountManager.Proofs.Json.Complete

/-!
# What is scanned is spelled

A tree that shows a document was scanned from bytes that spell it, behind blanks. A tree that broke
off somewhere shows none.
-/

namespace AccountManager.Json

/-- Whether values that are shown were spelled, with so much fuel. -/
def ShowsValues (fuel : Nat) : Prop :=
  ∀ {cursor : Cursor} {node : Node} {stop : Except Break Cursor} {form : Form},
    scanValue fuel cursor = (node, stop) → node.form? = some form →
    ∃ blanks bytes after, stop = .ok after ∧ cursor.rest = blanks ++ (bytes ++ after.rest) ∧
      Blank blanks ∧ Spells bytes form

def ShowsItems (fuel : Nat) : Prop :=
  ∀ {first : Bool} {cursor : Cursor} {nodes : Items} {stop : Except Break Cursor}
    {items : List Form}, scanItems fuel first cursor = (nodes, stop) →
    nodes.forms? = some items →
    ∃ bytes after, stop = .ok after ∧ cursor.rest = bytes ++ after.rest ∧
      SpellsItems first bytes items

def ShowsMembers (fuel : Nat) : Prop :=
  ∀ {first : Bool} {cursor : Cursor} {nodes : Members} {stop : Except Break Cursor}
    {members : List (String × Form)}, scanMembers fuel first cursor = (nodes, stop) →
    nodes.forms? = some members →
    ∃ bytes after, stop = .ok after ∧ cursor.rest = bytes ++ after.rest ∧
      SpellsMembers first bytes members

/-! ### Scalars -/

theorem cons_eq_append {first next : UInt8} {rest bytes tail : Bytes} (hfirst : first = next)
    (hrest : rest = bytes ++ tail) : first :: rest = (next :: bytes) ++ tail := by
  rw [hfirst, hrest, List.cons_append]

theorem word_spelled {word : String} {first letter : UInt8} {cursor : Cursor} {node : Nat → Node}
    {found : Node} {stop : Except Break Cursor} {form shown : Form} (hfirst : first = letter)
    (hscan : scanLiteral cursor word node = (found, stop)) (hform : found.form? = some form)
    (hnode : ∀ place, (node place).form? = some shown)
    (hspells : Spells (letter :: word.toList.map byte) shown) :
    ∃ bytes after, stop = .ok after ∧ first :: cursor.rest = bytes ++ after.rest ∧
      Spells bytes form := by
  obtain ⟨after, hstop, rfl, hrest⟩ := of_scanLiteral_eq hscan hform
  rw [hnode] at hform
  exact ⟨_, after, hstop, cons_eq_append hfirst hrest, Option.some.inj hform ▸ hspells⟩

theorem of_scanScalar_number {scan : Except Break (Numeral × Cursor)} {node : Node}
    {stop : Except Break Cursor} {form : Form} (hscan : scanScalar scan .number = (node, stop))
    (hform : node.form? = some form) :
    ∃ numeral after, scan = .ok (numeral, after) ∧ stop = .ok after ∧ form = .number numeral := by
  cases scan with
  | error gap =>
    cases hscan
    cases hform
  | ok found =>
    cases hscan
    exact ⟨found.1, found.2, rfl, rfl, (Option.some.inj hform).symm⟩

theorem of_scanText {inside : Cursor} {form : Form}
    (hform : (Node.text inside).form? = some form) :
    ∃ bytes content after, scanText inside = .ok after ∧
      inside.rest = bytes ++ byte '"' :: after.rest ∧ SpellsText bytes content ∧
      form = .text content := by
  rw [Node.form?] at hform
  cases hread : readText inside with
  | error fault =>
    rw [hread] at hform
    cases hform
  | ok read =>
    obtain ⟨content, after⟩ := read
    rw [hread] at hform
    obtain ⟨hpass, bytes, hinside, htext⟩ := of_readText_eq_ok hread
    refine ⟨bytes, content, after, ?_, hinside, htext, (Option.some.inj hform).symm⟩
    rw [scanText, hpass]

/-! ### Values -/

theorem showsValues_succ {fuel : Nat} (hitems : ShowsItems fuel) (hmembers : ShowsMembers fuel) :
    ShowsValues (fuel + 1) := by
  intro cursor node stop form hscan hform
  obtain ⟨blanks, hblanks, hcursor, -⟩ := exists_blanks cursor
  suffices h : ∃ bytes after, stop = .ok after ∧ cursor.skipBlanks.rest = bytes ++ after.rest ∧
      Spells bytes form by
    obtain ⟨bytes, after, hstop, hrest, hspells⟩ := h
    exact ⟨blanks, bytes, after, hstop, by rw [hcursor, hrest], hblanks, hspells⟩
  rw [scanValue.eq_def] at hscan
  dsimp only at hscan
  generalize cursor.skipBlanks = ahead at hscan
  obtain ⟨offset, rest⟩ := ahead
  cases rest with
  | nil =>
    cases hscan
    cases hform
  | cons first rest =>
    dsimp only at hscan ⊢
    by_cases hn : first = byte 'n'
    · rw [if_pos hn] at hscan
      exact word_spelled hn hscan hform (fun _ => rfl) .null
    rw [if_neg hn] at hscan
    by_cases ht : first = byte 't'
    · rw [if_pos ht] at hscan
      exact word_spelled ht hscan hform (fun _ => rfl) (.bool true)
    rw [if_neg ht] at hscan
    by_cases hf : first = byte 'f'
    · rw [if_pos hf] at hscan
      exact word_spelled hf hscan hform (fun _ => rfl) (.bool false)
    rw [if_neg hf] at hscan
    by_cases hminus : first = byte '-'
    · rw [if_pos hminus] at hscan
      obtain ⟨numeral, after, hnumeral, rfl, rfl⟩ := of_scanScalar_number hscan hform
      obtain ⟨hnegative, bytes, hrest, hspells⟩ := of_scanNumeral_eq_ok hnumeral
      refine ⟨byte '-' :: bytes, after, rfl, cons_eq_append hminus hrest, .number ⟨bytes, ?_,
        hspells⟩⟩
      rw [hnegative]
      rfl
    rw [if_neg hminus] at hscan
    by_cases hdigit : (digit? first).isSome = true
    · rw [if_pos hdigit] at hscan
      obtain ⟨numeral, after, hnumeral, rfl, rfl⟩ := of_scanScalar_number hscan hform
      obtain ⟨hnegative, bytes, hrest, hspells⟩ := of_scanNumeral_eq_ok hnumeral
      refine ⟨bytes, after, rfl, hrest, .number ⟨bytes, ?_, hspells⟩⟩
      rw [hnegative]
      rfl
    rw [if_neg hdigit] at hscan
    by_cases hquote : first = byte '"'
    · rw [if_pos hquote] at hscan
      cases hscan
      obtain ⟨bytes, content, after, hstop, hrest, htext, rfl⟩ := of_scanText hform
      refine ⟨byte '"' :: (bytes ++ [byte '"']), after, hstop, ?_, .text htext⟩
      rw [List.cons_append, List.append_assoc]
      exact cons_eq_append hquote hrest
    rw [if_neg hquote] at hscan
    by_cases hbracket : first = byte '['
    · rw [if_pos hbracket] at hscan
      cases hscan
      obtain ⟨items, hforms, rfl⟩ := Option.map_eq_some_iff.1 hform
      obtain ⟨bytes, after, hstop, hrest, hspells⟩ := hitems rfl hforms
      exact ⟨byte '[' :: bytes, after, hstop, cons_eq_append hbracket hrest, .array hspells⟩
    rw [if_neg hbracket] at hscan
    by_cases hbrace : first = byte '{'
    · rw [if_pos hbrace] at hscan
      cases hscan
      obtain ⟨members, hforms, rfl⟩ := Option.map_eq_some_iff.1 hform
      obtain ⟨bytes, after, hstop, hrest, hspells⟩ := hmembers rfl hforms
      exact ⟨byte '{' :: bytes, after, hstop, cons_eq_append hbrace hrest, .object hspells⟩
    rw [if_neg hbrace] at hscan
    cases hscan
    cases hform

/-! ### Items -/

theorem Leads.append {first : Bool} {lead blanks : Bytes} (h : Leads first lead)
    (hblanks : Blank blanks) : Leads first (lead ++ blanks) := by
  cases h with
  | first hlead => exact .first (hlead.append hblanks)
  | comma hbefore hafter =>
    rw [List.append_assoc, List.cons_append]
    exact .comma hbefore (hafter.append hblanks)

theorem leads_first (cursor : Cursor) :
    ∃ lead, Leads true lead ∧ cursor.rest = lead ++ cursor.skipBlanks.rest := by
  obtain ⟨blanks, hblanks, hcursor, -⟩ := exists_blanks cursor
  exact ⟨blanks, .first hblanks, hcursor⟩

theorem leads_comma {cursor : Cursor} {rest : Bytes}
    (hahead : cursor.skipBlanks.rest = byte ',' :: rest) :
    ∃ lead, Leads false lead ∧
      cursor.rest = lead ++ (Cursor.skipBlanks ⟨cursor.skipBlanks.offset + 1, rest⟩).rest := by
  obtain ⟨before, hbefore, hcursor, -⟩ := exists_blanks cursor
  obtain ⟨after, hafter, hrest, -⟩ := exists_blanks ⟨cursor.skipBlanks.offset + 1, rest⟩
  refine ⟨before ++ byte ',' :: after, .comma hbefore hafter, ?_⟩
  rw [hcursor, hahead, List.append_assoc, List.cons_append, ← hrest]

theorem of_items_cons {start : Nat} {item : Node} {rest : Items} {items : List Form}
    (hforms : (Items.cons start item rest).forms? = some items) :
    ∃ form forms, item.form? = some form ∧ rest.forms? = some forms ∧ items = form :: forms := by
  rw [Items.forms?] at hforms
  obtain ⟨form, hform, hforms⟩ := Option.bind_eq_some_iff.1 hforms
  obtain ⟨forms, hrest, hforms⟩ := Option.bind_eq_some_iff.1 hforms
  exact ⟨form, forms, hform, hrest, (Option.some.inj hforms).symm⟩

/-- What a step along the items finds: the closing bracket, or one more item and what is left behind
it. -/
theorem of_scanItems {fuel : Nat} {first : Bool} {cursor : Cursor} {nodes : Items}
    {stop : Except Break Cursor} {items : List Form}
    (hscan : scanItems (fuel + 1) first cursor = (nodes, stop))
    (hforms : nodes.forms? = some items) :
    (∃ blanks after, Blank blanks ∧ cursor.rest = blanks ++ byte ']' :: after.rest ∧
      stop = .ok after ∧ items = []) ∨
    ∃ lead start item after, Leads first lead ∧ cursor.rest = lead ++ start.rest ∧
      scanValue fuel start = (item, .ok after) ∧
      nodes = .cons start.offset item (scanItems fuel false after).1 ∧
      stop = (scanItems fuel false after).2 := by
  rw [scanItems.eq_def] at hscan
  dsimp only at hscan
  split at hscan
  · cases hscan
    cases hforms
  · rename_i next rest hahead
    split at hscan
    · rename_i hbracket
      obtain ⟨blanks, hblanks, hcursor, -⟩ := exists_blanks cursor
      cases hscan
      cases hforms
      exact .inl ⟨blanks, _, hblanks, by rw [hcursor, hahead, hbracket], rfl, rfl⟩
    · split at hscan
      · cases hscan
        cases hforms
      · rename_i start hstart
        split at hscan
        · rename_i item gap hitem
          cases hscan
          obtain ⟨_, _, _, hbroken, _⟩ := of_items_cons hforms
          cases hbroken
        · rename_i item after hitem
          cases hscan
          have hlead : ∃ lead, Leads first lead ∧ cursor.rest = lead ++ start.rest := by
            split at hstart
            · rename_i hfirst
              cases hstart
              exact hfirst ▸ leads_first cursor
            · rename_i hfirst
              split at hstart
              · rename_i hcomma
                split at hstart
                · cases hstart
                · split at hstart
                  · cases hstart
                  · cases hstart
                    exact Bool.eq_false_iff.2 hfirst ▸ leads_comma (hcomma ▸ hahead)
              · cases hstart
          obtain ⟨lead, hlead, hcursor⟩ := hlead
          exact .inr ⟨lead, start, item, after, hlead, hcursor, hitem, rfl, rfl⟩

theorem showsItems_succ {fuel : Nat} (hvalues : ShowsValues fuel) (hitems : ShowsItems fuel) :
    ShowsItems (fuel + 1) := by
  intro first cursor nodes stop items hscan hforms
  rcases of_scanItems hscan hforms with ⟨blanks, after, hblanks, hcursor, rfl, rfl⟩ |
    ⟨lead, start, item, middle, hlead, hcursor, hitem, rfl, rfl⟩
  · refine ⟨blanks ++ [byte ']'], after, rfl, ?_, .close hblanks⟩
    rw [hcursor, List.append_assoc]
    rfl
  · obtain ⟨form, forms, hform, hrest, rfl⟩ := of_items_cons hforms
    obtain ⟨blanks, bytes, _, ⟨⟩, hstart, hblanks, hspells⟩ := hvalues hitem hform
    obtain ⟨others, after, hstop, hmiddle, hothers⟩ := hitems rfl hrest
    refine ⟨(lead ++ blanks) ++ (bytes ++ others), after, hstop, ?_,
      .item (hlead.append hblanks) hspells hothers⟩
    rw [hcursor, hstart, hmiddle]
    simp only [List.append_assoc]

/-! ### Members -/

theorem of_members_cons {name : Cursor} {refusal : Nat} {value : Node} {rest : Members}
    {members : List (String × Form)}
    (hforms : (Members.cons name refusal value rest).forms? = some members) :
    ∃ text after form forms, readText name = .ok (text, after) ∧ value.form? = some form ∧
      rest.forms? = some forms ∧ members = (text, form) :: forms := by
  rw [Members.forms?] at hforms
  obtain ⟨read, hread, hforms⟩ := Option.bind_eq_some_iff.1 hforms
  obtain ⟨form, hform, hforms⟩ := Option.bind_eq_some_iff.1 hforms
  obtain ⟨forms, hrest, hforms⟩ := Option.bind_eq_some_iff.1 hforms
  exact ⟨read.1, read.2, form, forms, of_toOption_eq_some hread, hform, hrest,
    (Option.some.inj hforms).symm⟩

theorem forms?_cons_broken (name : Cursor) (refusal : Nat) (value : Node) (gap : Break) :
    (Members.cons name refusal value (.broken gap)).forms? = none := by
  cases hforms : (Members.cons name refusal value (.broken gap)).forms? with
  | none => rfl
  | some members =>
    obtain ⟨_, _, _, _, _, _, hbroken, _⟩ := of_members_cons hforms
    cases hbroken

theorem of_scanMembers {fuel : Nat} {first : Bool} {cursor : Cursor} {nodes : Members}
    {stop : Except Break Cursor} {members : List (String × Form)}
    (hscan : scanMembers (fuel + 1) first cursor = (nodes, stop))
    (hforms : nodes.forms? = some members) :
    (∃ blanks after, Blank blanks ∧ cursor.rest = blanks ++ byte '}' :: after.rest ∧
      stop = .ok after ∧ members = []) ∨
    ∃ lead name behind start value after, Leads first lead ∧
      cursor.rest = lead ++ byte '"' :: name.rest ∧ scanText name = .ok behind ∧
      behind.skipBlanks.rest = byte ':' :: start.rest ∧
      scanValue fuel start = (value, .ok after) ∧
      (∃ refusal, nodes = .cons name refusal value (scanMembers fuel false after).1) ∧
      stop = (scanMembers fuel false after).2 := by
  rw [scanMembers.eq_def] at hscan
  dsimp only at hscan
  split at hscan
  · cases hscan
    cases hforms
  · rename_i next rest hahead
    split at hscan
    · rename_i hbrace
      obtain ⟨blanks, hblanks, hcursor, -⟩ := exists_blanks cursor
      cases hscan
      cases hforms
      exact .inl ⟨blanks, _, hblanks, by rw [hcursor, hahead, hbrace], rfl, rfl⟩
    · split at hscan
      · cases hscan
        cases hforms
      · rename_i name hname
        have hlead : ∃ lead, Leads first lead ∧ cursor.rest = lead ++ byte '"' :: name.rest := by
          split at hname
          · rename_i hfirst
            split at hname
            · rename_i hquote
              cases hname
              obtain ⟨lead, hlead, hcursor⟩ := leads_first cursor
              exact ⟨lead, hfirst ▸ hlead, by rw [hcursor, hahead, hquote]⟩
            · cases hname
          · rename_i hfirst
            split at hname
            · rename_i hcomma
              split at hname
              · cases hname
              · rename_i after inside hafter
                split at hname
                · rename_i hquote
                  cases hname
                  obtain ⟨lead, hlead, hcursor⟩ := leads_comma (hcomma ▸ hahead)
                  exact ⟨lead, Bool.eq_false_iff.2 hfirst ▸ hlead, by rw [hcursor, hafter, hquote]⟩
                · split at hname <;> cases hname
            · cases hname
        obtain ⟨lead, hlead, hcursor⟩ := hlead
        split at hscan
        · cases hscan
          rw [forms?_cons_broken] at hforms
          cases hforms
        · rename_i behind hbehind
          split at hscan
          · cases hscan
            rw [forms?_cons_broken] at hforms
            cases hforms
          · rename_i mark others hmark
            split at hscan
            · rename_i hcolon
              split at hscan
              · cases hscan
                rw [forms?_cons_broken] at hforms
                cases hforms
              · rename_i value after hvalue
                cases hscan
                exact .inr ⟨lead, name, behind, ⟨behind.skipBlanks.offset + 1, others⟩, value,
                  after, hlead, hcursor, hbehind, by rw [hmark, hcolon], hvalue, ⟨_, rfl⟩, rfl⟩
            · cases hscan
              rw [forms?_cons_broken] at hforms
              cases hforms

theorem showsMembers_succ {fuel : Nat} (hvalues : ShowsValues fuel)
    (hmembers : ShowsMembers fuel) : ShowsMembers (fuel + 1) := by
  intro first cursor nodes stop members hscan hforms
  rcases of_scanMembers hscan hforms with ⟨blanks, after, hblanks, hcursor, rfl, rfl⟩ |
    ⟨lead, name, behind, start, value, middle, hlead, hcursor, hname, hcolon, hvalue,
      ⟨refusal, rfl⟩, rfl⟩
  · refine ⟨blanks ++ [byte '}'], after, rfl, ?_, .close hblanks⟩
    rw [hcursor, List.append_assoc]
    rfl
  · obtain ⟨text, last, form, forms, hread, hform, hrest, rfl⟩ := of_members_cons hforms
    obtain ⟨hpass, inside, hinside, htext⟩ := of_readText_eq_ok hread
    obtain rfl : last = behind := by
      rw [scanText, hpass] at hname
      exact Except.ok.inj hname
    obtain ⟨before, hbefore, hbehind, -⟩ := exists_blanks last
    obtain ⟨blanks, bytes, _, ⟨⟩, hstart, hblanks, hspells⟩ := hvalues hvalue hform
    obtain ⟨others, after, hstop, hmiddle, hothers⟩ := hmembers rfl hrest
    refine ⟨_, after, hstop, ?_, .member hlead htext hbefore hblanks hspells hothers⟩
    rw [hcursor, hinside, hbehind, hcolon, hstart, hmiddle]
    simp only [List.append_assoc, List.cons_append]

/-- What is shown was spelled, by induction on the fuel. -/
theorem shows (fuel : Nat) : ShowsValues fuel ∧ ShowsItems fuel ∧ ShowsMembers fuel := by
  induction fuel with
  | zero =>
    refine ⟨?_, ?_, ?_⟩
    · intro cursor node stop form hscan hform
      rw [scanValue] at hscan
      cases hscan
      cases hform
    · intro first cursor nodes stop items hscan hforms
      rw [scanItems] at hscan
      cases hscan
      cases hforms
    · intro first cursor nodes stop members hscan hforms
      rw [scanMembers] at hscan
      cases hscan
      cases hforms
  | succ fuel ih =>
    obtain ⟨hvalues, hitems, hmembers⟩ := ih
    exact ⟨showsValues_succ hitems hmembers, showsItems_succ hvalues hitems,
      showsMembers_succ hvalues hmembers⟩

end AccountManager.Json
