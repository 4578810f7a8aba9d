import AccountManager.Proofs.Results
import AccountManager.Proofs.Text.Utf8
import AccountManager.Text.Base64Url

/-!
# Reading back what was written in base64

Bytes that were written are read back, three by three and a rest of at most two, and nothing else
can be read: no padding, and no bits that belong to no byte. The alphabet keeps clear of the marks
that join the parts of an assertion.
-/

namespace AccountManager

namespace Base64Url

def symbolByte (value : Nat) : UInt8 := UInt8.ofNat (symbol value).toNat

theorem symbol_spec : ∀ value < 64,
    String.utf8EncodeChar (symbol value) = [symbolByte value] ∧
      value? (symbolByte value) = some value ∧ symbolByte value ≠ padding := by
  decide

theorem symbol_ne : ∀ value < 64, symbol value ≠ '~' ∧ symbol value ≠ '.' := by
  decide

/-! ### Groups -/

def values : Bytes → List Nat
  | [] => []
  | [a] => [a.toNat / 4, a.toNat % 4 * 16]
  | [a, b] => [a.toNat / 4, a.toNat % 4 * 16 + b.toNat / 16, b.toNat % 16 * 4]
  | a :: b :: c :: rest =>
    a.toNat / 4 :: (a.toNat % 4 * 16 + b.toNat / 16) :: (b.toNat % 16 * 4 + c.toNat / 64) ::
      (c.toNat % 64) :: values rest

theorem encodeList_eq_map (bytes : Bytes) : encodeList bytes = (values bytes).map symbol := by
  fun_induction encodeList bytes with
  | case1 => rfl
  | case2 a => rfl
  | case3 a b => rfl
  | case4 a b c rest ih =>
    rw [values, List.map_cons, List.map_cons, List.map_cons, List.map_cons, ih]

theorem lt_of_mem_values (bytes : Bytes) : ∀ value ∈ values bytes, value < 64 := by
  fun_induction values bytes with
  | case1 =>
    intro value hvalue
    cases hvalue
  | case2 a =>
    have ha := a.toNat_lt
    simp only [List.mem_cons, List.not_mem_nil, or_false]
    rintro value (rfl | rfl) <;> omega
  | case3 a b =>
    have ha := a.toNat_lt
    have hb := b.toNat_lt
    simp only [List.mem_cons, List.not_mem_nil, or_false]
    rintro value (rfl | rfl | rfl) <;> omega
  | case4 a b c rest ih =>
    have ha := a.toNat_lt
    have hb := b.toNat_lt
    have hc := c.toNat_lt
    simp only [List.mem_cons]
    rintro value (rfl | rfl | rfl | rfl | hvalue)
    · omega
    · omega
    · omega
    · omega
    · exact ih value hvalue

def symbolBytes (bytes : Bytes) : Bytes := (values bytes).map symbolByte

theorem utf8_encodeList (bytes : Bytes) :
    Utf8.encodeList (encodeList bytes) = symbolBytes bytes := by
  rw [encodeList_eq_map, symbolBytes]
  have hlt := lt_of_mem_values bytes
  generalize values bytes = numbers at hlt ⊢
  induction numbers with
  | nil => rfl
  | cons value rest ih =>
    rw [List.map_cons, List.map_cons, Utf8.encodeList_cons,
      (symbol_spec value (hlt value List.mem_cons_self)).1,
      ih fun other hother => hlt other (List.mem_cons_of_mem value hother)]
    rfl

/-- The marks of an assertion do not occur in what is written. -/
theorem not_mem_encodeList (bytes : Bytes) : '~' ∉ encodeList bytes ∧ '.' ∉ encodeList bytes := by
  have hne {mark : Char} (hmark : ∀ value < 64, symbol value ≠ mark) : mark ∉ encodeList bytes := by
    rw [encodeList_eq_map]
    intro hmem
    obtain ⟨value, hvalue, heq⟩ := List.mem_map.1 hmem
    exact hmark value (lt_of_mem_values bytes value hvalue) heq
  exact ⟨hne fun value hvalue => (symbol_ne value hvalue).1,
    hne fun value hvalue => (symbol_ne value hvalue).2⟩

/-! ### Reading -/

theorem valueAt_symbolByte {value : Nat} (hvalue : value < 64) (offset : Nat) :
    valueAt offset (symbolByte value) = .ok value := by
  rw [valueAt, (symbol_spec value hvalue).2.1]

theorem readTail_symbolBytes (offset index first : Nat) (last : UInt8) (seen : List Nat)
    {numbers : List Nat} (hlt : ∀ value ∈ numbers, value < 64) :
    ∃ final, readTail offset index ⟨seen, last, 0, first⟩ (numbers.map symbolByte) =
      .ok ⟨seen ++ numbers, final, 0, first⟩ := by
  induction numbers generalizing index last seen with
  | nil => exact ⟨last, by rw [List.append_nil]; rfl⟩
  | cons value rest ih =>
    have hvalue := hlt value List.mem_cons_self
    obtain ⟨final, hread⟩ := ih (index + 1) (symbolByte value) (seen ++ [value])
      fun other hother => hlt other (List.mem_cons_of_mem value hother)
    rw [List.append_assoc] at hread
    refine ⟨final, ?_⟩
    rw [List.map_cons, readTail, if_neg (symbol_spec value hvalue).2.2,
      if_neg (Nat.lt_irrefl 0), valueAt_symbolByte hvalue]
    exact hread

theorem joined_values (a b c : UInt8) :
    joined (a.toNat / 4) (a.toNat % 4 * 16 + b.toNat / 16) (b.toNat % 16 * 4 + c.toNat / 64)
      (c.toNat % 64) = [a, b, c] := by
  have ha := a.toNat_lt
  have hb := b.toNat_lt
  have hc := c.toNat_lt
  have hfirst : a.toNat / 4 * 4 + (a.toNat % 4 * 16 + b.toNat / 16) / 16 = a.toNat := by omega
  have hsecond : (a.toNat % 4 * 16 + b.toNat / 16) % 16 * 16 +
      (b.toNat % 16 * 4 + c.toNat / 64) / 4 = b.toNat := by omega
  have hthird : (b.toNat % 16 * 4 + c.toNat / 64) % 4 * 64 + c.toNat % 64 = c.toNat := by omega
  rw [joined, hfirst, hsecond, hthird, UInt8.ofNat_toNat, UInt8.ofNat_toNat, UInt8.ofNat_toNat]

theorem decodeTail_symbolBytes (offset : Nat) (bytes : Bytes) (hbytes : bytes.length ≤ 3) :
    decodeTail offset (symbolBytes bytes) = .ok bytes := by
  obtain ⟨last, hread⟩ := readTail_symbolBytes offset 0 0 0 [] (lt_of_mem_values bytes)
  unfold decodeTail
  rw [symbolBytes, hread]
  match bytes, hbytes with
  | [], _ => rfl
  | [a], _ =>
    have ha := a.toNat_lt
    change (if a.toNat % 4 * 16 % 16 = 0 then _ else _) = _
    rw [if_pos (by omega),
      show a.toNat / 4 * 4 + a.toNat % 4 * 16 / 16 = a.toNat by omega, UInt8.ofNat_toNat]
  | [a, b], _ =>
    have ha := a.toNat_lt
    have hb := b.toNat_lt
    change (if b.toNat % 16 * 4 % 4 = 0 then _ else _) = _
    rw [if_pos (by omega),
      show a.toNat / 4 * 4 + (a.toNat % 4 * 16 + b.toNat / 16) / 16 = a.toNat by omega,
      show (a.toNat % 4 * 16 + b.toNat / 16) % 16 * 16 + b.toNat % 16 * 4 / 4 = b.toNat by omega,
      UInt8.ofNat_toNat, UInt8.ofNat_toNat]
  | [a, b, c], _ =>
    change Except.ok (joined _ _ _ _) = _
    rw [joined_values]

theorem decodeFrom_symbolBytes (offset : Nat) (bytes : Bytes) :
    decodeFrom offset (symbolBytes bytes) = .ok bytes := by
  fun_induction values bytes generalizing offset with
  | case1 => exact decodeTail_symbolBytes offset [] (show 0 ≤ 3 by decide)
  | case2 a => exact decodeTail_symbolBytes offset [a] (show 1 ≤ 3 by decide)
  | case3 a b => exact decodeTail_symbolBytes offset [a, b] (show 2 ≤ 3 by decide)
  | case4 a b c rest ih =>
    have ha := a.toNat_lt
    have hb := b.toNat_lt
    have hc := c.toNat_lt
    cases rest with
    | nil => exact decodeTail_symbolBytes offset [a, b, c] (show 3 ≤ 3 by decide)
    | cons d others =>
      -- A group that is followed by another one is read as a whole.
      obtain ⟨first, tail, htail⟩ : ∃ first tail, symbolBytes (d :: others) = first :: tail := by
        match others with
        | [] => exact ⟨_, _, rfl⟩
        | [e] => exact ⟨_, _, rfl⟩
        | e :: f :: rest => exact ⟨_, _, rfl⟩
      have hrest := ih (offset + 4)
      rw [htail] at hrest
      have hgroup : symbolBytes (a :: b :: c :: d :: others) =
          symbolByte (a.toNat / 4) :: symbolByte (a.toNat % 4 * 16 + b.toNat / 16) ::
            symbolByte (b.toNat % 16 * 4 + c.toNat / 64) :: symbolByte (c.toNat % 64) ::
              first :: tail := by
        rw [← htail]
        rfl
      rw [hgroup, decodeFrom, valueAt_symbolByte (by omega), valueAt_symbolByte (by omega),
        valueAt_symbolByte (by omega), valueAt_symbolByte (by omega), hrest]
      change Except.ok (joined _ _ _ _ ++ d :: others) = _
      rw [joined_values]
      rfl

theorem strayLast_symbolBytes (bytes : Bytes) : strayLast (symbolBytes bytes) = none := by
  unfold strayLast
  split
  · rename_i byte _ hlast
    obtain ⟨value, hvalue, rfl⟩ := List.mem_map.1 (List.mem_of_getLast? hlast)
    rw [(symbol_spec value (lt_of_mem_values bytes value hvalue)).2.1, if_neg]
    rintro ⟨-, hnone⟩
    cases hnone
  · rfl

theorem decode_encode (bytes : Bytes) : decode (encode bytes) = .ok bytes := by
  rw [decode, encode, Utf8.encode_ofList, utf8_encodeList, decodeBytes, strayLast_symbolBytes]
  exact decodeFrom_symbolBytes 0 bytes

/-! ### What can be read at all -/

theorem of_value?_eq_some {byte : UInt8} {value : Nat} (hvalue : value? byte = some value) :
    value < 64 ∧ byte = symbolByte value := by
  have htable : ∀ code < 256, ∀ value ∈ value? (UInt8.ofNat code),
      value < 64 ∧ UInt8.ofNat code = symbolByte value := by
    decide +kernel
  rw [← UInt8.ofNat_toNat (x := byte)] at hvalue ⊢
  exact htable byte.toNat byte.toNat_lt value hvalue

theorem of_valueAt_eq_ok {offset : Nat} {byte : UInt8} {value : Nat}
    (hvalue : valueAt offset byte = .ok value) : value < 64 ∧ byte = symbolByte value := by
  rw [valueAt] at hvalue
  split at hvalue
  · rename_i hfound
    cases hvalue
    exact of_value?_eq_some hfound
  · cases hvalue

theorem of_readTail_cons {offset index : Nat} {tail final : Tail} {byte : UInt8} {rest : Bytes}
    (hread : readTail offset index tail (byte :: rest) = .ok final) :
    (∃ first, readTail offset (index + 1)
        { tail with paddings := tail.paddings + 1, firstPadding := first } rest = .ok final) ∨
      ∃ value, value < 64 ∧ byte = symbolByte value ∧
        readTail offset (index + 1) { tail with values := tail.values ++ [value], last := byte }
          rest = .ok final := by
  rw [readTail] at hread
  split at hread
  · split at hread
    · cases hread
    · exact .inl ⟨_, hread⟩
  · split at hread
    · cases hread
    · obtain ⟨value, hvalue, hrest⟩ := of_bind_eq_ok hread
      obtain ⟨hlt, hbyte⟩ := of_valueAt_eq_ok hvalue
      exact .inr ⟨value, hlt, hbyte, hrest⟩

theorem length_of_readTail {offset index : Nat} {tail final : Tail} {symbols : Bytes}
    (hread : readTail offset index tail symbols = .ok final) :
    final.values.length + final.paddings =
      tail.values.length + tail.paddings + symbols.length := by
  induction symbols generalizing index tail with
  | nil =>
    cases hread
    rfl
  | cons byte rest ih =>
    rcases of_readTail_cons hread with ⟨first, hrest⟩ | ⟨value, -, -, hrest⟩
    · rw [ih hrest, List.length_cons]
      dsimp only
      omega
    · rw [ih hrest, List.length_cons]
      simp only [List.length_append, List.length_singleton]
      omega

theorem readTail_without_padding {offset index : Nat} {tail final : Tail} {symbols : Bytes}
    (hread : readTail offset index tail symbols = .ok final) (hnone : final.paddings = 0) :
    tail.paddings = 0 ∧ ∃ numbers, final.values = tail.values ++ numbers ∧
      symbols = numbers.map symbolByte ∧ ∀ value ∈ numbers, value < 64 := by
  induction symbols generalizing index tail with
  | nil =>
    cases hread
    exact ⟨hnone, [], (List.append_nil _).symm, rfl, fun _ hmem => (by cases hmem)⟩
  | cons byte rest ih =>
    rcases of_readTail_cons hread with ⟨first, hrest⟩ | ⟨value, hlt, hbyte, hrest⟩
    · exact absurd (ih hrest).1 (Nat.succ_ne_zero _)
    · obtain ⟨hbefore, numbers, hvalues, hsymbols, hbelow⟩ := ih hrest
      refine ⟨hbefore, value :: numbers, ?_, ?_, List.forall_mem_cons.2 ⟨hlt, hbelow⟩⟩
      · rw [hvalues, List.append_assoc, List.singleton_append]
      · rw [List.map_cons, hbyte, hsymbols]

theorem symbols_of_readTail {offset : Nat} {tail : Tail} {symbols : Bytes} {numbers : List Nat}
    (hread : readTail offset 0 ⟨[], 0, 0, 0⟩ symbols = .ok tail) (hvalues : tail.values = numbers)
    (hnone : tail.paddings = 0) :
    symbols = numbers.map symbolByte ∧ ∀ value ∈ numbers, value < 64 := by
  obtain ⟨-, read, hheld, hsymbols⟩ := readTail_without_padding hread hnone
  rw [List.nil_append] at hheld
  rw [← hvalues, hheld]
  exact hsymbols

/-- The values of one byte, of two and of three are those that leave no bits over. -/
theorem values_of_one {a b : Nat} (ha : a < 64) (hb : b < 64) (hrest : b % 16 = 0) :
    values [UInt8.ofNat (a * 4 + b / 16)] = [a, b] := by
  simp only [values, UInt8.toNat_ofNat']
  rw [show (a * 4 + b / 16) % 2 ^ 8 / 4 = a by omega,
    show (a * 4 + b / 16) % 2 ^ 8 % 4 * 16 = b by omega]

theorem values_of_two {a b c : Nat} (ha : a < 64) (hb : b < 64) (hc : c < 64)
    (hrest : c % 4 = 0) :
    values [UInt8.ofNat (a * 4 + b / 16), UInt8.ofNat (b % 16 * 16 + c / 4)] = [a, b, c] := by
  simp only [values, UInt8.toNat_ofNat']
  rw [show (a * 4 + b / 16) % 2 ^ 8 / 4 = a by omega,
    show (a * 4 + b / 16) % 2 ^ 8 % 4 * 16 + (b % 16 * 16 + c / 4) % 2 ^ 8 / 16 = b by omega,
    show (b % 16 * 16 + c / 4) % 2 ^ 8 % 16 * 4 = c by omega]

theorem values_joined {a b c d : Nat} (ha : a < 64) (hb : b < 64) (hc : c < 64) (hd : d < 64)
    (rest : Bytes) : values (joined a b c d ++ rest) = a :: b :: c :: d :: values rest := by
  simp only [joined, List.cons_append, List.nil_append, values, UInt8.toNat_ofNat']
  rw [show (a * 4 + b / 16) % 2 ^ 8 / 4 = a by omega,
    show (a * 4 + b / 16) % 2 ^ 8 % 4 * 16 + (b % 16 * 16 + c / 4) % 2 ^ 8 / 16 = b by omega,
    show (b % 16 * 16 + c / 4) % 2 ^ 8 % 16 * 4 + (c % 4 * 64 + d) % 2 ^ 8 / 64 = c by omega,
    show (c % 4 * 64 + d) % 2 ^ 8 % 64 = d by omega]

theorem of_decodeTail_eq_ok {offset : Nat} {symbols bytes : Bytes} (hshort : symbols.length ≤ 4)
    (hread : decodeTail offset symbols = .ok bytes) : symbols = symbolBytes bytes := by
  obtain ⟨tail, htail, hread⟩ := of_bind_eq_ok hread
  have hcount := length_of_readTail htail
  rw [symbolBytes]
  split at hread
  · split at hread
    · rename_i hempty
      cases hread
      exact List.isEmpty_iff.1 hempty
    · cases hread
  · cases hread
  · rename_i a b hvalues
    split at hread
    · cases hread
    · rename_i hpaddings
      split at hread
      · rename_i hrest
        cases hread
        obtain ⟨rfl, hbelow⟩ := symbols_of_readTail htail hvalues (Nat.eq_zero_of_not_pos hpaddings)
        rw [values_of_one (hbelow a (by simp)) (hbelow b (by simp)) hrest]
      · cases hread
  · rename_i a b c hvalues
    split at hread
    · cases hread
    · rename_i hpaddings
      split at hread
      · rename_i hrest
        cases hread
        obtain ⟨rfl, hbelow⟩ := symbols_of_readTail htail hvalues (Nat.eq_zero_of_not_pos hpaddings)
        rw [values_of_two (hbelow a (by simp)) (hbelow b (by simp)) (hbelow c (by simp)) hrest]
      · cases hread
  · rename_i a b c d others hvalues
    cases hread
    -- Four symbols leave no place for padding or for a fifth.
    simp only [hvalues, List.length_cons, List.length_nil] at hcount
    obtain rfl : others = [] := List.eq_nil_of_length_eq_zero (by omega)
    obtain ⟨rfl, hbelow⟩ := symbols_of_readTail htail hvalues (by omega)
    rw [← List.append_nil (joined a b c d), values_joined (hbelow a (by simp))
      (hbelow b (by simp)) (hbelow c (by simp)) (hbelow d (by simp))]
    rfl

/-- Symbols that are read are those that are written for the bytes. -/
theorem of_decodeFrom_eq_ok {offset : Nat} {symbols bytes : Bytes}
    (hread : decodeFrom offset symbols = .ok bytes) : symbols = symbolBytes bytes := by
  fun_induction decodeFrom offset symbols generalizing bytes with
  | case1 offset a b c d e rest ih =>
    obtain ⟨first, hfirst, hread⟩ := of_bind_eq_ok hread
    obtain ⟨second, hsecond, hread⟩ := of_bind_eq_ok hread
    obtain ⟨third, hthird, hread⟩ := of_bind_eq_ok hread
    obtain ⟨fourth, hfourth, hread⟩ := of_bind_eq_ok hread
    obtain ⟨others, hothers, hread⟩ := of_bind_eq_ok hread
    cases hread
    obtain ⟨ha, rfl⟩ := of_valueAt_eq_ok hfirst
    obtain ⟨hb, rfl⟩ := of_valueAt_eq_ok hsecond
    obtain ⟨hc, rfl⟩ := of_valueAt_eq_ok hthird
    obtain ⟨hd, rfl⟩ := of_valueAt_eq_ok hfourth
    rw [ih hothers, symbolBytes, symbolBytes, values_joined ha hb hc hd]
    rfl
  | case2 offset symbols hfew =>
    refine of_decodeTail_eq_ok (Nat.le_of_not_lt fun hlong => ?_) hread
    match symbols, hlong with
    | a :: b :: c :: d :: e :: rest, _ => exact hfew a b c d e rest rfl

/-- The texts that can be read are those that are written for some bytes, one for each. -/
theorem decode_eq_ok_iff {text : String} {bytes : Bytes} :
    decode text = .ok bytes ↔ text = encode bytes := by
  constructor
  · intro hread
    unfold decode decodeBytes at hread
    split at hread
    · cases hread
    · apply Utf8.encode_injective
      rw [encode, Utf8.encode_ofList, utf8_encodeList]
      exact of_decodeFrom_eq_ok hread
  · rintro rfl
    exact decode_encode bytes

theorem encode_injective : Function.Injective encode := by
  intro left right heq
  have hdecode := decode_encode left
  rw [heq, decode_encode] at hdecode
  exact (Except.ok.inj hdecode).symm

/-- Whether the bits of some values make up bytes: a lone last value does not, and of two or three
the bits are not set that belong to no byte. -/
def WholeBytes : List Nat → Prop
  | [] => True
  | [_] => False
  | [_, b] => b % 16 = 0
  | [_, _, c] => c % 4 = 0
  | _ :: _ :: _ :: _ :: rest => WholeBytes rest

theorem wholeBytes_values (bytes : Bytes) : WholeBytes (values bytes) := by
  fun_induction values bytes with
  | case1 => trivial
  | case2 a => exact Nat.mul_mod_left _ _
  | case3 a b => exact Nat.mul_mod_left _ _
  | case4 a b c rest ih => exact ih

theorem exists_values {numbers : List Nat} (hbelow : ∀ value ∈ numbers, value < 64)
    (hwhole : WholeBytes numbers) : ∃ bytes, values bytes = numbers := by
  fun_induction WholeBytes numbers with
  | case1 => exact ⟨[], rfl⟩
  | case2 => exact hwhole.elim
  | case3 a b => exact ⟨_, values_of_one (hbelow a (by simp)) (hbelow b (by simp)) hwhole⟩
  | case4 a b c =>
    exact ⟨_, values_of_two (hbelow a (by simp)) (hbelow b (by simp)) (hbelow c (by simp)) hwhole⟩
  | case5 a b c d rest ih =>
    simp only [List.forall_mem_cons] at hbelow
    obtain ⟨ha, hb, hc, hd, hrest⟩ := hbelow
    obtain ⟨bytes, hbytes⟩ := ih hrest hwhole
    exact ⟨joined a b c d ++ bytes, by rw [values_joined ha hb hc hd, hbytes]⟩

/-- Whether a text is one of symbols alone, without padding, whose bits make up bytes. -/
def Canonical (text : String) : Prop :=
  ∃ numbers, text.toList = numbers.map symbol ∧ (∀ value ∈ numbers, value < 64) ∧
    WholeBytes numbers

/-- The canonical texts are those that are written. -/
theorem canonical_iff {text : String} : Canonical text ↔ ∃ bytes, text = encode bytes := by
  constructor
  · rintro ⟨numbers, htext, hbelow, hwhole⟩
    obtain ⟨bytes, rfl⟩ := exists_values hbelow hwhole
    refine ⟨bytes, ?_⟩
    rw [encode, encodeList_eq_map, ← htext, String.ofList_toList]
  · rintro ⟨bytes, rfl⟩
    refine ⟨values bytes, ?_, lt_of_mem_values bytes, wholeBytes_values bytes⟩
    rw [encode, String.toList_ofList, encodeList_eq_map]

end Base64Url

end AccountManager
