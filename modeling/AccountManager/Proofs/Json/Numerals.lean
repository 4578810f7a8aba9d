import AccountManager.Proofs.Json.Grammar

/-!
# Numbers as they are spelled

A number is scanned exactly as far as the grammar lets it go: sign, digits, fraction and exponent
one after the other, each from where the one before it stops, and never past a byte that can follow
a value.
-/

namespace AccountManager.Json

/-! ### What follows -/

/-- What can stand behind a value: nothing that its last number could go on with. -/
def EndsNumber : Bytes → Prop
  | [] => True
  | first :: _ => digit? first = none ∧ first ≠ byte '.' ∧ first ≠ byte 'e' ∧ first ≠ byte 'E'

def EndsDigits : Bytes → Prop
  | [] => True
  | first :: _ => digit? first = none

theorem EndsNumber.digits {tail : Bytes} (h : EndsNumber tail) : EndsDigits tail := by
  cases tail with
  | nil => trivial
  | cons first rest => exact h.1

/-- What can stand behind the digits of a number in front of its exponent. -/
def EndsFraction : Bytes → Prop
  | [] => True
  | first :: _ => digit? first = none ∧ first ≠ byte '.'

theorem EndsNumber.fraction {tail : Bytes} (h : EndsNumber tail) : EndsFraction tail := by
  cases tail with
  | nil => trivial
  | cons first rest => exact ⟨h.1, h.2.1⟩

theorem EndsFraction.digits {tail : Bytes} (h : EndsFraction tail) : EndsDigits tail := by
  cases tail with
  | nil => trivial
  | cons first rest => exact h.1

theorem SpellsExponent.endsFraction {bytes : Bytes} {exponent : Option (Bool × List Nat)}
    (h : SpellsExponent bytes exponent) {tail : Bytes} (htail : EndsNumber tail) :
    EndsFraction (bytes ++ tail) := by
  cases h with
  | absent => exact htail.fraction
  | present hletter _ _ _ => rcases hletter with rfl | rfl <;> exact ⟨by decide, by decide⟩

theorem SpellsFraction.endsDigits {bytes : Bytes} {digits : List Nat}
    (h : SpellsFraction bytes digits) {tail : Bytes} (htail : EndsFraction tail) :
    EndsDigits (bytes ++ tail) := by
  cases h with
  | absent => exact htail.digits
  | present _ _ => exact show digit? (byte '.') = none by decide

/-! ### Digits -/

theorem SpellsDigits.cons {first : UInt8} {digit : Nat} {bytes : Bytes} {digits : List Nat}
    (hdigit : digit? first = some digit) (h : SpellsDigits bytes digits) :
    SpellsDigits (first :: bytes) (digit :: digits) := by
  rw [SpellsDigits, List.map_cons, List.map_cons, hdigit, h]

theorem SpellsDigits.scan {bytes : Bytes} {digits : List Nat} (h : SpellsDigits bytes digits)
    {tail : Bytes} (htail : EndsDigits tail) (offset : Nat) :
    ∃ after, scanDigits offset (bytes ++ tail) = (digits, after) ∧ after.rest = tail := by
  induction bytes generalizing digits offset with
  | nil =>
    obtain rfl : digits = [] := List.map_eq_nil_iff.1 h.symm
    cases tail with
    | nil => exact ⟨_, rfl, rfl⟩
    | cons first rest =>
      have hfirst : digit? first = none := htail
      refine ⟨⟨offset, first :: rest⟩, ?_, rfl⟩
      rw [List.nil_append, scanDigits, hfirst]
  | cons first rest ih =>
    cases digits with
    | nil => cases h
    | cons digit digits =>
      obtain ⟨hfirst, hrest⟩ := List.cons.inj h
      obtain ⟨after, hscan, hafter⟩ := ih hrest (offset + 1)
      refine ⟨after, ?_, hafter⟩
      rw [List.cons_append, scanDigits, hfirst, hscan]

theorem of_scanDigits_eq {offset : Nat} {bytes : Bytes} {digits : List Nat} {after : Cursor}
    (hscan : scanDigits offset bytes = (digits, after)) :
    ∃ spelled, bytes = spelled ++ after.rest ∧ SpellsDigits spelled digits := by
  induction bytes generalizing offset digits with
  | nil =>
    cases hscan
    exact ⟨[], rfl, rfl⟩
  | cons first rest ih =>
    rw [scanDigits] at hscan
    split at hscan
    · cases hscan
      exact ⟨[], rfl, rfl⟩
    · rename_i digit hdigit
      cases hothers : scanDigits (offset + 1) rest with
      | mk others behind =>
        rw [hothers] at hscan
        cases hscan
        obtain ⟨spelled, rfl, hspelled⟩ := ih hothers
        exact ⟨first :: spelled, rfl, hspelled.cons hdigit⟩

theorem SpellsWhole.scan {bytes : Bytes} {digits : List Nat} (h : SpellsWhole bytes digits)
    {tail : Bytes} (htail : EndsDigits tail) {cursor : Cursor}
    (hcursor : cursor.rest = bytes ++ tail) :
    ∃ after, scanWhole cursor = .ok (digits, after) ∧ after.rest = tail := by
  obtain ⟨after, hscan, hafter⟩ := h.spelled.scan htail cursor.offset
  refine ⟨after, ?_, hafter⟩
  rw [scanWhole, hcursor, hscan]
  split
  · rename_i heq
    exact absurd (Prod.mk.inj heq).1 h.nonempty
  · rename_i heq
    exact absurd (Prod.mk.inj heq).1 (h.zero _ _)
  · rename_i heq
    rw [heq]

theorem of_scanWhole_eq_ok {cursor after : Cursor} {digits : List Nat}
    (hscan : scanWhole cursor = .ok (digits, after)) :
    ∃ spelled, cursor.rest = spelled ++ after.rest ∧ SpellsWhole spelled digits := by
  unfold scanWhole at hscan
  split at hscan
  · split at hscan <;> cases hscan
  · cases hscan
  · rename_i found behind hnonempty hzero hdigits
    cases hscan
    obtain ⟨spelled, hcursor, hspelled⟩ := of_scanDigits_eq hdigits
    exact ⟨spelled, hcursor, hspelled, hnonempty, hzero⟩

/-! ### Fractions and exponents -/

def scanPoint (cursor : Cursor) : Except Break (List Nat × Cursor) :=
  match cursor.rest with
  | 46 :: rest => scanFraction ⟨cursor.offset + 1, rest⟩
  | _ => .ok ([], cursor)

def scanPower (cursor : Cursor) : Except Break (Option (Bool × List Nat) × Cursor) :=
  if opensExponent cursor.rest then
    (scanExponent ⟨cursor.offset + 1, cursor.rest.drop 1⟩).map fun (exponent, after) =>
      (some exponent, after)
  else .ok (none, cursor)

theorem scanFraction_of_digits {cursor after : Cursor} {digits : List Nat}
    (hnonempty : digits ≠ []) (hscan : scanDigits cursor.offset cursor.rest = (digits, after)) :
    scanFraction cursor = .ok (digits, after) := by
  rw [scanFraction, hscan]
  split
  · rename_i heq
    exact absurd (Prod.mk.inj heq).1 hnonempty
  · rename_i heq
    rw [heq]

theorem of_scanFraction_eq_ok {cursor after : Cursor} {digits : List Nat}
    (hscan : scanFraction cursor = .ok (digits, after)) :
    digits ≠ [] ∧ scanDigits cursor.offset cursor.rest = (digits, after) := by
  unfold scanFraction at hscan
  split at hscan
  · split at hscan <;> cases hscan
  · rename_i hnonempty hdigits
    cases hscan
    exact ⟨hnonempty, hdigits⟩

theorem SpellsFraction.scan {bytes : Bytes} {digits : List Nat} (h : SpellsFraction bytes digits)
    {tail : Bytes} (htail : EndsFraction tail) {cursor : Cursor}
    (hcursor : cursor.rest = bytes ++ tail) :
    ∃ after, scanPoint cursor = .ok (digits, after) ∧ after.rest = tail := by
  cases h with
  | absent =>
    refine ⟨cursor, ?_, hcursor⟩
    unfold scanPoint
    split
    · rename_i rest hrest
      rw [hcursor, List.nil_append] at hrest
      rw [hrest] at htail
      exact absurd rfl htail.2
    · rfl
  | @present bytes _ hdigits hnonempty =>
    obtain ⟨after, hscan, hafter⟩ := hdigits.scan htail.digits (cursor.offset + 1)
    refine ⟨after, ?_, hafter⟩
    rw [scanPoint, hcursor]
    exact scanFraction_of_digits hnonempty hscan

theorem of_scanPoint_eq_ok {cursor after : Cursor} {digits : List Nat}
    (hscan : scanPoint cursor = .ok (digits, after)) :
    ∃ spelled, cursor.rest = spelled ++ after.rest ∧ SpellsFraction spelled digits := by
  unfold scanPoint at hscan
  split at hscan
  · rename_i rest hrest
    obtain ⟨hnonempty, hdigits⟩ := of_scanFraction_eq_ok hscan
    obtain ⟨spelled, hspelled, hspells⟩ := of_scanDigits_eq hdigits
    refine ⟨byte '.' :: spelled, ?_, .present hspells hnonempty⟩
    rw [hrest]
    exact congrArg (List.cons _) hspelled
  · cases hscan
    exact ⟨[], rfl, .absent⟩

/-- The sign ahead, if there is one: whether it is a minus, and the place behind it. -/
def scanSign (cursor : Cursor) : Bool × Cursor :=
  match cursor.rest with
  | [] => (false, cursor)
  | first :: rest =>
    if first = byte '+' then (false, ⟨cursor.offset + 1, rest⟩)
    else if first = byte '-' then (true, ⟨cursor.offset + 1, rest⟩)
    else (false, cursor)

theorem scanExponent_eq (cursor : Cursor) :
    scanExponent cursor =
      (scanFraction (scanSign cursor).2).map fun digits =>
        (((scanSign cursor).1, digits.1), digits.2) := by
  unfold scanExponent
  split
  rename_i down behind hsign
  have hsign : scanSign cursor = (down, behind) := hsign
  rw [hsign, scanFraction]
  obtain ⟨digits, after⟩ := scanDigits behind.offset behind.rest
  cases digits with
  | nil =>
    dsimp only
    split <;> rfl
  | cons digit digits => rfl

theorem scanSign_of_digit {cursor : Cursor} {first : UInt8} {rest : Bytes}
    (hcursor : cursor.rest = first :: rest) (hdigit : (digit? first).isSome) :
    scanSign cursor = (false, cursor) := by
  have hplus : first ≠ byte '+' := by
    rintro rfl
    exact absurd hdigit (by decide)
  have hminus : first ≠ byte '-' := by
    rintro rfl
    exact absurd hdigit (by decide)
  simp only [scanSign, hcursor, if_neg hplus, if_neg hminus]

theorem SpellsDigits.exists_cons {bytes : Bytes} {digits : List Nat} (h : SpellsDigits bytes digits)
    (hnonempty : digits ≠ []) :
    ∃ first rest, bytes = first :: rest ∧ (digit? first).isSome := by
  cases bytes with
  | nil => exact absurd (List.map_eq_nil_iff.1 h.symm) hnonempty
  | cons first rest =>
    cases digits with
    | nil => exact absurd rfl hnonempty
    | cons digit digits =>
      refine ⟨first, rest, rfl, ?_⟩
      rw [(List.cons.inj h).1]
      rfl

theorem SpellsSign.scan {sign : Bytes} {down : Bool} (h : SpellsSign sign down) {cursor : Cursor}
    {first : UInt8} {rest : Bytes} (hcursor : cursor.rest = sign ++ first :: rest)
    (hdigit : (digit? first).isSome) :
    ∃ after, scanSign cursor = (down, after) ∧ after.rest = first :: rest := by
  cases h with
  | absent => exact ⟨cursor, scanSign_of_digit hcursor hdigit, hcursor⟩
  | plus =>
    refine ⟨⟨cursor.offset + 1, first :: rest⟩, ?_, rfl⟩
    rw [scanSign, hcursor]
    rfl
  | minus =>
    refine ⟨⟨cursor.offset + 1, first :: rest⟩, ?_, rfl⟩
    rw [scanSign, hcursor]
    rfl

theorem spellsSign_scanSign (cursor : Cursor) :
    ∃ sign, cursor.rest = sign ++ (scanSign cursor).2.rest ∧
      SpellsSign sign (scanSign cursor).1 := by
  unfold scanSign
  split
  · exact ⟨[], rfl, .absent⟩
  · rename_i first rest hrest
    rw [hrest]
    split
    · rename_i hplus
      exact ⟨[first], rfl, hplus ▸ .plus⟩
    · split
      · rename_i hminus
        exact ⟨[first], rfl, hminus ▸ .minus⟩
      · exact ⟨[], hrest.symm, .absent⟩

theorem SpellsExponent.scan {bytes : Bytes} {exponent : Option (Bool × List Nat)}
    (h : SpellsExponent bytes exponent) {tail : Bytes} (htail : EndsNumber tail) {cursor : Cursor}
    (hcursor : cursor.rest = bytes ++ tail) :
    ∃ after, scanPower cursor = .ok (exponent, after) ∧ after.rest = tail := by
  cases h with
  | absent =>
    refine ⟨cursor, ?_, hcursor⟩
    have hopens : opensExponent cursor.rest = false := by
      rw [hcursor, List.nil_append]
      cases tail with
      | nil => rfl
      | cons first rest =>
        rw [opensExponent, decide_eq_false htail.2.2.1, decide_eq_false htail.2.2.2]
        rfl
    rw [scanPower, hopens]
    rfl
  | @present letter sign bytes down digits hletter hsign hdigits hnonempty =>
    have hopens : opensExponent cursor.rest = true := by
      rw [hcursor]
      rcases hletter with rfl | rfl <;> rfl
    obtain ⟨first, rest, rfl, hdigit⟩ := hdigits.exists_cons hnonempty
    obtain ⟨behind, hscanSign, hbehind⟩ :=
      @SpellsSign.scan sign down hsign ⟨cursor.offset + 1, cursor.rest.drop 1⟩ first
        (rest ++ tail) (by rw [hcursor]; simp) hdigit
    obtain ⟨after, hscan, hafter⟩ := hdigits.scan htail.digits behind.offset
    refine ⟨after, ?_, hafter⟩
    rw [← List.cons_append] at hbehind
    rw [← hbehind] at hscan
    rw [scanPower, hopens, if_pos rfl, scanExponent_eq, hscanSign,
      scanFraction_of_digits hnonempty hscan]
    rfl

theorem of_opensExponent {bytes : Bytes} (hopens : opensExponent bytes = true) :
    ∃ letter rest, (letter = byte 'e' ∨ letter = byte 'E') ∧ bytes = letter :: rest := by
  cases bytes with
  | nil => cases hopens
  | cons letter rest =>
    rw [opensExponent, Bool.or_eq_true, decide_eq_true_eq, decide_eq_true_eq] at hopens
    exact ⟨letter, rest, hopens, rfl⟩

theorem of_scanPower_eq_ok {cursor after : Cursor} {exponent : Option (Bool × List Nat)}
    (hscan : scanPower cursor = .ok (exponent, after)) :
    ∃ spelled, cursor.rest = spelled ++ after.rest ∧ SpellsExponent spelled exponent := by
  unfold scanPower at hscan
  split at hscan
  · rename_i hopens
    obtain ⟨letter, rest, hletter, hrest⟩ := of_opensExponent hopens
    rw [hrest, List.drop_one, List.tail_cons, scanExponent_eq] at hscan
    generalize hbehind : Cursor.mk (cursor.offset + 1) rest = behind at hscan
    obtain ⟨sign, hsign, hspells⟩ := spellsSign_scanSign behind
    cases hfraction : scanFraction (scanSign behind).2 with
    | error gap =>
      rw [hfraction] at hscan
      cases hscan
    | ok found =>
      obtain ⟨digits, stop⟩ := found
      rw [hfraction] at hscan
      cases hscan
      obtain ⟨hnonempty, hdigits⟩ := of_scanFraction_eq_ok hfraction
      obtain ⟨spelled, hspelled, hspellsDigits⟩ := of_scanDigits_eq hdigits
      refine ⟨letter :: (sign ++ spelled), ?_, .present hletter hspells hspellsDigits hnonempty⟩
      rw [hrest, List.cons_append, List.append_assoc, ← hspelled, ← hsign, ← hbehind]
  · cases hscan
    exact ⟨[], rfl, .absent⟩

/-! ### Whole numbers -/

theorem scanPower_eq (negative : Bool) (whole : List Nat) (fraction : List Nat × Cursor) :
    (if opensExponent fraction.2.rest = true then
        (scanExponent ⟨fraction.2.offset + 1, fraction.2.rest.drop 1⟩).bind fun exponent =>
          .ok (Numeral.mk negative whole fraction.1 (some exponent.1), exponent.2)
      else .ok (⟨negative, whole, fraction.1, none⟩, fraction.2)) =
      (scanPower fraction.2).map fun exponent =>
        (⟨negative, whole, fraction.1, exponent.1⟩, exponent.2) := by
  unfold scanPower
  split
  · cases scanExponent ⟨fraction.2.offset + 1, fraction.2.rest.drop 1⟩ <;> rfl
  · rfl

/-- A number is scanned in three parts, each from where the one before it stops. -/
theorem scanNumeral_eq (negative : Bool) (cursor : Cursor) :
    scanNumeral negative cursor =
      (scanWhole cursor).bind fun whole =>
        (scanPoint whole.2).bind fun fraction =>
          (scanPower fraction.2).map fun exponent =>
            (⟨negative, whole.1, fraction.1, exponent.1⟩, exponent.2) := by
  unfold scanNumeral
  cases scanWhole cursor with
  | error gap => rfl
  | ok whole =>
    obtain ⟨whole, behind⟩ := whole
    simp only [bind, Except.bind]
    split
    · rename_i rest hrest
      have hpoint : scanPoint behind = scanFraction ⟨behind.offset + 1, rest⟩ := by
        rw [scanPoint, hrest]
        rfl
      rw [hpoint]
      cases scanFraction ⟨behind.offset + 1, rest⟩ with
      | error gap => rfl
      | ok fraction => exact scanPower_eq negative whole fraction
    · rename_i hrest
      have hpoint : scanPoint behind = .ok ([], behind) := by
        unfold scanPoint
        split
        · rename_i rest heq
          exact absurd heq (hrest rest)
        · rfl
      rw [hpoint]
      exact scanPower_eq negative whole ([], behind)

theorem SpellsUnsigned.scan {bytes : Bytes} {numeral : Numeral} (h : SpellsUnsigned bytes numeral)
    {tail : Bytes} (htail : EndsNumber tail) {cursor : Cursor}
    (hcursor : cursor.rest = bytes ++ tail) :
    ∃ after, scanNumeral numeral.negative cursor = .ok (numeral, after) ∧ after.rest = tail := by
  obtain ⟨whole, fraction, exponent, rfl, hwhole, hfraction, hexponent⟩ := h
  have hbehind := hexponent.endsFraction htail
  rw [List.append_assoc, List.append_assoc] at hcursor
  obtain ⟨first, hfirst, hrest⟩ := hwhole.scan (hfraction.endsDigits hbehind) hcursor
  obtain ⟨second, hsecond, hrest⟩ := hfraction.scan hbehind hrest
  obtain ⟨after, hthird, hrest⟩ := hexponent.scan htail hrest
  refine ⟨after, ?_, hrest⟩
  rw [scanNumeral_eq, hfirst]
  simp only [Except.bind, hsecond, hthird]
  rfl

theorem of_scanNumeral_eq_ok {negative : Bool} {cursor after : Cursor} {numeral : Numeral}
    (hscan : scanNumeral negative cursor = .ok (numeral, after)) :
    numeral.negative = negative ∧
      ∃ spelled, cursor.rest = spelled ++ after.rest ∧ SpellsUnsigned spelled numeral := by
  rw [scanNumeral_eq] at hscan
  obtain ⟨⟨whole, first⟩, hwhole, hscan⟩ := of_bind_eq_ok hscan
  obtain ⟨⟨fraction, second⟩, hfraction, hscan⟩ := of_bind_eq_ok hscan
  cases hexponent : scanPower second with
  | error gap =>
    rw [hexponent] at hscan
    cases hscan
  | ok exponent =>
    rw [hexponent] at hscan
    cases hscan
    obtain ⟨wholeBytes, hfirst, hspellsWhole⟩ := of_scanWhole_eq_ok hwhole
    obtain ⟨fractionBytes, hsecond, hspellsFraction⟩ := of_scanPoint_eq_ok hfraction
    obtain ⟨exponentBytes, hthird, hspellsExponent⟩ := of_scanPower_eq_ok hexponent
    refine ⟨rfl, wholeBytes ++ (fractionBytes ++ exponentBytes), ?_, wholeBytes, fractionBytes,
      exponentBytes, rfl, hspellsWhole, hspellsFraction, hspellsExponent⟩
    rw [hfirst, hsecond, hthird, List.append_assoc, List.append_assoc]

/-! ### Words -/

/-- The number that decimal digits stand for, behind digits that stand for `value`. -/
def decimal (value : Nat) (digits : List Nat) : Nat :=
  digits.foldl (fun value digit => value * 10 + digit) value

theorem le_decimal (value : Nat) (digits : List Nat) : value ≤ decimal value digits := by
  induction digits generalizing value with
  | nil => exact Nat.le_refl value
  | cons digit rest ih =>
    have hrest : value * 10 + digit ≤ decimal value (digit :: rest) := ih (value * 10 + digit)
    omega

theorem takeWord_of_lt {value : Nat} {digits : List Nat}
    (hfits : decimal value digits < wordBound) :
    takeWord value digits = (decimal value digits, []) := by
  induction digits generalizing value with
  | nil => rfl
  | cons digit rest ih =>
    have hfirst : value * 10 + digit < wordBound :=
      Nat.lt_of_le_of_lt (le_decimal (value * 10 + digit) rest) hfits
    rw [takeWord, if_pos hfirst]
    exact ih hfits

theorem of_takeWord_eq_nil {value taken : Nat} {digits : List Nat} (hvalue : value < wordBound)
    (htaken : takeWord value digits = (taken, [])) :
    taken = decimal value digits ∧ taken < wordBound := by
  induction digits generalizing value with
  | nil =>
    cases htaken
    exact ⟨rfl, hvalue⟩
  | cons digit rest ih =>
    rw [takeWord] at htaken
    split at htaken
    · rename_i hfits
      exact ih hfits htaken
    · cases htaken

/-- Whether a number is written without sign, fraction and exponent, as this integer. -/
structure Numeral.Plain (numeral : Numeral) (value : Nat) : Prop where
  unsigned : numeral.negative = false
  noFraction : numeral.fraction = []
  noExponent : numeral.exponent = none
  digits : decimal 0 numeral.whole = value

theorem isInteger_iff {numeral : Numeral} :
    numeral.isInteger = true ↔ numeral.fraction = [] ∧ numeral.exponent = none := by
  rw [Numeral.isInteger, Bool.and_eq_true, List.isEmpty_iff, Option.isNone_iff_eq_none]

/-- Whatever is not kept as it is written becomes negative or a float, or is refused. -/
theorem of_value_eq_unsigned {numeral : Numeral} {word : UInt64}
    (hvalue : numeral.value = .ok (.unsigned word)) :
    ∃ whole, takeWord 0 numeral.whole = (whole, []) ∧ numeral.isInteger = true ∧
      numeral.negative = false ∧ word = UInt64.ofNat whole := by
  have hfinished : ∀ float, Numeral.value.finished float ≠ .ok (.unsigned word) := by
    intro float
    cases float <;> exact nofun
  unfold Numeral.value at hvalue
  cases hwhole : takeWord 0 numeral.whole with
  | mk whole dropped =>
    rw [hwhole] at hvalue
    dsimp only at hvalue
    split at hvalue
    · rename_i hinteger
      rw [Bool.and_eq_true, List.isEmpty_iff] at hinteger
      obtain ⟨hinteger, rfl⟩ := hinteger
      split at hvalue
      · rename_i hpositive
        cases hvalue
        exact ⟨whole, rfl, hinteger, by simpa using hpositive, rfl⟩
      · split at hvalue
        · cases hvalue
        · split at hvalue <;> cases hvalue
    · split at hvalue
      · exact absurd hvalue (hfinished _)
      · split at hvalue
        · exact absurd hvalue (hfinished _)
        · split at hvalue <;> cases hvalue

/-- A number is kept as a word exactly if it is written as an integer that fits 64 bits. -/
theorem value_eq_unsigned_iff {numeral : Numeral} {word : UInt64} :
    numeral.value = .ok (.unsigned word) ↔ numeral.Plain word.toNat := by
  constructor
  · intro hvalue
    obtain ⟨whole, hwhole, hinteger, hpositive, rfl⟩ := of_value_eq_unsigned hvalue
    obtain ⟨hdecimal, hfits⟩ := of_takeWord_eq_nil (show 0 < wordBound by decide) hwhole
    rw [isInteger_iff] at hinteger
    refine ⟨hpositive, hinteger.1, hinteger.2, ?_⟩
    rw [← hdecimal, UInt64.toNat_ofNat']
    exact (Nat.mod_eq_of_lt hfits).symm
  · rintro ⟨hpositive, hfraction, hexponent, hdigits⟩
    have hwhole : takeWord 0 numeral.whole = (word.toNat, []) := by
      rw [takeWord_of_lt (by rw [hdigits]; exact word.toNat_lt), hdigits]
    have hinteger : numeral.isInteger = true := isInteger_iff.2 ⟨hfraction, hexponent⟩
    simp [Numeral.value, hwhole, hinteger, hpositive]

end AccountManager.Json
