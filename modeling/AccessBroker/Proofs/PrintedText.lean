import AccessBroker.Proofs.PrintedNumbers

/-! # Reading back what was printed

A printed string is read back character by character and a printed tree up to
its last bracket.  What is read is the tree itself, but for its doubles: the
value of a number with a point is known only to the floating-point library.
-/

namespace AccessBroker.Json

open Text (natChars)

/-! ## Strings -/

theorem hexValue?_hexDigit {n : Nat} (h : n < 16) : hexValue? (hexDigit n) = some n := by
  have all : ∀ d, d < 16 → hexValue? (hexDigit d) = some d := by decide
  exact all n h

theorem hexQuad?_of_lt {n : Nat} (h : n < 256) :
    hexQuad? '0' '0' (hexDigit (n / 16)) (hexDigit (n % 16)) = some n := by
  have zero : hexValue? '0' = some 0 := by decide
  have high : n / 16 < 16 := by omega
  have low : n % 16 < 16 := by omega
  simp only [hexQuad?, zero, hexValue?_hexDigit high, hexValue?_hexDigit low, Option.some.injEq]
  omega

inductive Escaped : Char → List Char → Prop where
  | short {e c : Char} (stands : shortEscape? e = some c) (other : e ≠ 'u') : Escaped c ['\\', e]
  | hex (c : Char) (control : c.toNat < 0x20) :
    Escaped c ['\\', 'u', '0', '0', hexDigit (c.toNat / 16), hexDigit (c.toNat % 16)]
  | plain (c : Char) (noQuote : c ≠ '"') (noBackslash : c ≠ '\\') (printable : ¬ c.toNat < 0x20) :
    Escaped c [c]

theorem escaped_escape (c : Char) : Escaped c (escape c) := by
  have known {n : Nat} (h : c.toNat = n) : c = Char.ofNat n := by rw [← h, Char.ofNat_toNat]
  unfold escape
  split
  · next quote => subst quote; exact .short rfl (by decide)
  · split
    · next backslash => subst backslash; exact .short rfl (by decide)
    · split
      · next control =>
        split
        · next h => rw [known h]; exact .short rfl (by decide)
        · next h => rw [known h]; exact .short rfl (by decide)
        · next h => rw [known h]; exact .short rfl (by decide)
        · next h => rw [known h]; exact .short rfl (by decide)
        · next h => rw [known h]; exact .short rfl (by decide)
        · exact .hex c control
      · next noQuote noBackslash printable => exact .plain c noQuote noBackslash printable

theorem Escaped.scanString {c : Char} {body : List Char} (h : Escaped c body)
    (read rest : List Char) :
    scanString read (body ++ rest) = scanString (body.reverse ++ read) rest := by
  cases h with
  | short stands other => simp [Json.scanString, stands, other]
  | hex _ control =>
    have quad : hexQuad? '0' '0' (hexDigit (c.toNat / 16)) (hexDigit (c.toNat % 16)) =
        some c.toNat := hexQuad?_of_lt (by omega)
    simp [Json.scanString, quad]
  | plain _ _ noBackslash printable => simp [Json.scanString, noBackslash, printable]

theorem Escaped.unescape {c : Char} {body : List Char} (h : Escaped c body)
    (read rest : List Char) :
    unescape read (body ++ rest) = unescape (c :: read) rest := by
  cases h with
  | short stands other => simp [Json.unescape, stands, other]
  | hex _ control =>
    have quad : hexQuad? '0' '0' (hexDigit (c.toNat / 16)) (hexDigit (c.toNat % 16)) =
        some c.toNat := hexQuad?_of_lt (by omega)
    have low : ¬ (0xdc00 ≤ c.toNat ∧ c.toNat ≤ 0xdfff) := by omega
    have high : ¬ (0xd800 ≤ c.toNat ∧ c.toNat ≤ 0xdbff) := by omega
    simp only [List.cons_append, List.nil_append, Json.unescape, quad, if_neg low, if_neg high,
      Char.ofNat_toNat]
  | plain _ noQuote noBackslash printable => simp [Json.unescape, noBackslash]

theorem scanString_writeChars (cs read rest : List Char) :
    scanString read (writeChars cs ('"' :: rest)) = some (read.reverse ++ cs.flatMap escape, rest) := by
  induction cs generalizing read with
  | nil => simp [writeChars, scanString]
  | cons c cs ih =>
    rw [writeChars, (escaped_escape c).scanString, ih]
    simp

theorem unescape_flatMap (cs read : List Char) :
    unescape read (cs.flatMap escape) = some (read.reverse ++ cs) := by
  induction cs generalizing read with
  | nil => simp [unescape]
  | cons c cs ih =>
    rw [List.flatMap_cons, (escaped_escape c).unescape, ih]
    simp

/-- A string is read back as it was printed. -/
theorem bodyText?_flatMap (s : String) : bodyText? (s.toList.flatMap escape) = some s := by
  rw [bodyText?, unescape_flatMap]
  simp

/-! ## Trees -/

/-- What was read from a text, and what is left of the text. -/
def Reads {α : Type} {cs : List Char} (result : α × Option (Rest cs)) (value : α)
    (rest : List Char) : Prop :=
  result.1 = value ∧ result.2.map Subtype.val = some rest

theorem Reads.eq {α : Type} {cs : List Char} {result : α × Option (Rest cs)} {value : α}
    {rest : List Char} (h : Reads result value rest) :
    ∃ r : Rest cs, r.1 = rest ∧ result = (value, some r) := by
  obtain ⟨read, left⟩ := result
  obtain ⟨rfl, h⟩ := h
  obtain ⟨r, rfl, same⟩ := Option.map_eq_some_iff.1 h
  exact ⟨r, same, rfl⟩

section

variable {rest tail : List Char}

theorem reads_string (s : String) : Reads (readValue (writeString s rest)) (.string (some s)) rest := by
  have scanned := scanString_writeChars s.toList [] rest
  rw [List.reverse_nil, List.nil_append] at scanned
  rw [writeString, readValue]
  split
  · next body after h =>
    rw [scanned] at h
    cases h
    exact ⟨by rw [bodyText?_flatMap], rfl⟩
  · next h =>
    rw [scanned] at h
    cases h

theorem reads_word (word : List Char) {value : Outline} (h : word ≠ []) :
    Reads (readWord word value (word ++ rest)) value rest := by
  have shorter : ((word ++ rest).drop word.length).length < (word ++ rest).length := by
    have := List.length_pos_iff.2 h
    simp only [List.length_drop, List.length_append]
    omega
  rw [readWord, if_pos (by simp), dif_pos shorter]
  exact ⟨rfl, by simp⟩

theorem reads_number {cs : List Char} {n : NumberText} (scanned : scanNumber cs = some (n, rest)) :
    Reads (readValue cs) (.number n.value?) rest := by
  obtain ⟨c, others, rfl, first⟩ := eq_cons_of_scanNumber scanned
  -- A digit or a sign starts nothing but a number.
  rw [readValue]
  · split
    · next number after h =>
      rw [scanned] at h
      cases h
      exact ⟨rfl, rfl⟩
    · next h =>
      rw [scanned] at h
      cases h
  all_goals
    intro eq
    subst eq
    simp at first

theorem reads_whole (w : Whole) (ends : EndsNumber rest) :
    Reads (readValue (Text.intChars w.val ++ rest)) (.number (some (.whole w))) rest := by
  rw [← value?_natChars w]
  exact reads_number (scanNumber_intChars w.val ends)

theorem reads_double (d : Double) (ends : EndsNumber rest) :
    Reads (readValue (d.chars ++ rest)) (.number ((scanNumber d.chars).bind (·.1.value?))) rest := by
  obtain ⟨n, scanned⟩ := d.scanNumber_chars
  have alone := scanned [] endsNumber_nil
  rw [List.append_nil] at alone
  rw [alone]
  exact reads_number (scanned rest ends)

theorem reads_empty_array : Reads (readValue ('[' :: ']' :: rest)) (.array [] true) rest := by
  have unspaced : skipSpace (']' :: rest) = ']' :: rest := rfl
  rw [readValue]
  split
  · next after h =>
    rw [unspaced] at h
    cases h
    exact ⟨rfl, rfl⟩
  · next h => exact absurd unspaced (h rest)

theorem reads_array {items : List Outline} (more : ∀ after, skipSpace tail ≠ ']' :: after)
    (h : Reads (readItems tail) items rest) :
    Reads (readValue ('[' :: tail)) (.array items true) rest := by
  obtain ⟨r, rfl, read⟩ := h.eq
  rw [readValue]
  split
  · next after closes => exact absurd closes (more after)
  · rw [read]
    exact ⟨rfl, rfl⟩

theorem reads_empty_object : Reads (readValue ('\x7b' :: '\x7d' :: rest)) (.object [] true) rest := by
  have unspaced : skipSpace ('\x7d' :: rest) = '\x7d' :: rest := rfl
  rw [readValue]
  split
  · next after h =>
    rw [unspaced] at h
    cases h
    exact ⟨rfl, rfl⟩
  · next h => exact absurd unspaced (h rest)

theorem reads_object {members : List (Option String × Outline)}
    (more : ∀ after, skipSpace tail ≠ '\x7d' :: after)
    (h : Reads (readMembers tail) members rest) :
    Reads (readValue ('\x7b' :: tail)) (.object members true) rest := by
  obtain ⟨r, rfl, read⟩ := h.eq
  rw [readValue]
  split
  · next after closes => exact absurd closes (more after)
  · rw [read]
    exact ⟨rfl, rfl⟩

/-- An item is read, and after it the closing bracket or the other items. -/
theorem reads_item {item : Outline} {items : List Outline} {after : List Char}
    (h : Reads (readValue (skipSpace tail)) item after)
    (others : after = ']' :: rest ∧ items = [] ∨
      ∃ more, after = ',' :: more ∧ Reads (readItems more) items rest) :
    Reads (readItems tail) (item :: items) rest := by
  obtain ⟨r, left, read⟩ := h.eq
  rw [readItems, read]
  dsimp only
  rcases others with ⟨rfl, rfl⟩ | ⟨more, rfl, others⟩
  · have unspaced : skipSpace r.1 = ']' :: rest := by rw [left]; rfl
    split
    · next h => cases unspaced.symm.trans h; exact ⟨rfl, rfl⟩
    · next h => cases unspaced.symm.trans h
    · next closes _ => exact absurd unspaced (closes rest)
  · have unspaced : skipSpace r.1 = ',' :: more := by rw [left]; rfl
    obtain ⟨r', rfl, read'⟩ := others.eq
    split
    · next h => cases unspaced.symm.trans h
    · next h =>
      cases unspaced.symm.trans h
      rw [read']
      exact ⟨rfl, rfl⟩
    · next goesOn => exact absurd unspaced (goesOn more)

/-- The name of a member is read up to its value. -/
theorem scanString_name (name : String) (body : List Char) :
    scanString [] (writeChars name.toList ('"' :: ':' :: body)) =
      some (name.toList.flatMap escape, ':' :: body) :=
  scanString_writeChars name.toList [] (':' :: body)

/-- A member is read, and after it the closing brace or the other members. -/
theorem reads_member {name : String} {value : Outline} {members : List (Option String × Outline)}
    {body after : List Char} (h : Reads (readValue (skipSpace body)) value after)
    (others : after = '\x7d' :: rest ∧ members = [] ∨
      ∃ more, after = ',' :: more ∧ Reads (readMembers more) members rest) :
    Reads (readMembers (writeString name (':' :: body))) ((some name, value) :: members) rest := by
  have start : skipSpace (writeString name (':' :: body)) =
      '"' :: writeChars name.toList ('"' :: ':' :: body) := rfl
  have colon : skipSpace (':' :: body) = ':' :: body := rfl
  obtain ⟨r, left, read⟩ := h.eq
  rw [readMembers]
  split
  · next tail h =>
    cases start.symm.trans h
    split
    · next h => cases (scanString_name name body).symm.trans h
    · next text before h =>
      cases (scanString_name name body).symm.trans h
      split
      · next h =>
        cases colon.symm.trans h
        rw [read, bodyText?_flatMap]
        dsimp only
        rcases others with ⟨rfl, rfl⟩ | ⟨more, rfl, others⟩
        · have unspaced : skipSpace r.1 = '\x7d' :: rest := by rw [left]; rfl
          split
          · next h => cases unspaced.symm.trans h; exact ⟨rfl, rfl⟩
          · next h => cases unspaced.symm.trans h
          · next closes _ => exact absurd unspaced (closes rest)
        · have unspaced : skipSpace r.1 = ',' :: more := by rw [left]; rfl
          obtain ⟨r', rfl, read'⟩ := others.eq
          split
          · next h => cases unspaced.symm.trans h
          · next h =>
            cases unspaced.symm.trans h
            rw [read']
            exact ⟨rfl, rfl⟩
          · next goesOn => exact absurd unspaced (goesOn more)
      · next unmarked => exact absurd colon (unmarked body)
  · next quoteless => exact absurd start (quoteless _)

end

namespace Outline

mutual

/-- The outline of the text of a tree. -/
def ofPrinted : Tree → Outline
  | .null => .null
  | .bool b => .bool b
  | .whole w => .number (some (.whole w))
  | .double d => .number ((scanNumber d.chars).bind (·.1.value?))
  | .string s => .string (some s)
  | .array items => .array (ofPrintedItems items) true
  | .object members => .object (ofPrintedMembers members) true

def ofPrintedItems : List Tree → List Outline
  | [] => []
  | x :: items => ofPrinted x :: ofPrintedItems items

def ofPrintedMembers : List (String × Tree) → List (Option String × Outline)
  | [] => []
  | (name, x) :: members => (some name, ofPrinted x) :: ofPrintedMembers members

end

mutual

theorem ofPrinted_of_exact : (t : Tree) → t.exact = true → ofPrinted t = ofTree t
  | .null, _ | .bool _, _ | .whole _, _ | .string _, _ => rfl
  | .double _, exact_ => by cases exact_
  | .array items, exact_ => by rw [ofPrinted, ofPrintedItems_of_exact items exact_, ofTree]
  | .object members, exact_ => by rw [ofPrinted, ofPrintedMembers_of_exact members exact_, ofTree]

theorem ofPrintedItems_of_exact : (items : List Tree) → Tree.exactItems items = true →
    ofPrintedItems items = ofTrees items
  | [], _ => rfl
  | x :: items, exact_ => by
    simp only [Tree.exactItems, Bool.and_eq_true] at exact_
    rw [ofPrintedItems, ofPrinted_of_exact x exact_.1, ofPrintedItems_of_exact items exact_.2, ofTrees]

theorem ofPrintedMembers_of_exact : (members : List (String × Tree)) →
    Tree.exactMembers members = true → ofPrintedMembers members = ofMembers members
  | [], _ => rfl
  | (name, x) :: members, exact_ => by
    simp only [Tree.exactMembers, Bool.and_eq_true] at exact_
    rw [ofPrintedMembers, ofPrinted_of_exact x exact_.1, ofPrintedMembers_of_exact members exact_.2,
      ofMembers]

end

end Outline

/-- A printed value starts with neither a space nor a closing bracket. -/
theorem write_eq_cons (t : Tree) (rest : List Char) :
    ∃ c tail, t.write rest = c :: tail ∧ isSpace c = false ∧ c ≠ ']' := by
  have number {cs : List Char} {c : Char} {tail : List Char} (written : cs = c :: tail)
      (first : c.isDigit = true ∨ c = '-') :
      ∃ c tail, cs ++ rest = c :: tail ∧ isSpace c = false ∧ c ≠ ']' := by
    refine ⟨c, tail ++ rest, by rw [written, List.cons_append], ?_, ?_⟩
    · cases space : isSpace c with
      | false => rfl
      | true =>
        simp only [isSpace, Bool.or_eq_true, beq_iff_eq] at space
        rcases space with ((rfl | rfl) | rfl) | rfl <;> simp at first
    · rintro rfl
      simp at first
  cases t with
  | null => exact ⟨_, _, rfl, rfl, by decide⟩
  | bool b => cases b <;> exact ⟨_, _, rfl, rfl, by decide⟩
  | whole w =>
    obtain ⟨c, others, written, first⟩ := Text.intChars_eq_cons w.val
    exact number written first
  | double d =>
    obtain ⟨n, scanned⟩ := d.scanNumber_chars
    obtain ⟨c, others, written, first⟩ := eq_cons_of_scanNumber (scanned [] endsNumber_nil)
    rw [List.append_nil] at written
    exact number written first
  | string s => exact ⟨_, _, rfl, rfl, by decide⟩
  | array items => cases items <;> exact ⟨_, _, rfl, rfl, by decide⟩
  | object members =>
    cases members with
    | nil => exact ⟨_, _, rfl, rfl, by decide⟩
    | cons first others => exact ⟨_, _, rfl, rfl, by decide⟩

theorem skipSpace_write (t : Tree) (rest : List Char) :
    skipSpace (t.write rest) = t.write rest := by
  obtain ⟨c, tail, written, unspaced, -⟩ := write_eq_cons t rest
  rw [written, skipSpace, List.dropWhile_cons_of_neg (by simp [unspaced])]

/-! What follows an item or a member ends every number. -/

theorem endsNumber_writeItems (items : List Tree) (rest : List Char) :
    EndsNumber (Tree.writeItems items rest) := by
  cases items <;> exact endsNumber_cons (by decide)

theorem endsNumber_writeMembers (members : List (String × Tree)) (rest : List Char) :
    EndsNumber (Tree.writeMembers members rest) := by
  cases members with
  | nil => exact endsNumber_cons (by decide)
  | cons first others => exact endsNumber_cons (by decide)

mutual

/-- A printed tree is read up to its end. -/
theorem reads_write : (t : Tree) → (rest : List Char) → EndsNumber rest →
    Reads (readValue (t.write rest)) (.ofPrinted t) rest
  | .null, rest, _ => by
    rw [Tree.write, readValue]
    exact reads_word ['n', 'u', 'l', 'l'] (by decide)
  | .bool true, rest, _ => by
    rw [Tree.write, readValue]
    exact reads_word ['t', 'r', 'u', 'e'] (by decide)
  | .bool false, rest, _ => by
    rw [Tree.write, readValue]
    exact reads_word ['f', 'a', 'l', 's', 'e'] (by decide)
  | .whole w, rest, ends => reads_whole w ends
  | .double d, rest, ends => reads_double d ends
  | .string s, rest, _ => reads_string s
  | .array [], rest, _ => reads_empty_array
  | .array (x :: items), rest, _ => by
    have first := reads_write x (Tree.writeItems items rest) (endsNumber_writeItems _ _)
    rw [← skipSpace_write x] at first
    refine reads_array (fun after closes => ?_) (reads_item first (reads_writeItems items rest))
    obtain ⟨c, tail, written, -, other⟩ := write_eq_cons x (Tree.writeItems items rest)
    rw [skipSpace_write x, written] at closes
    cases closes
    exact other rfl
  | .object [], rest, _ => reads_empty_object
  | .object ((name, x) :: members), rest, _ => by
    have first := reads_write x (Tree.writeMembers members rest) (endsNumber_writeMembers _ _)
    rw [← skipSpace_write x] at first
    exact reads_object nofun (reads_member first (reads_writeMembers members rest))

theorem reads_writeItems : (items : List Tree) → (rest : List Char) →
    Tree.writeItems items rest = ']' :: rest ∧ Outline.ofPrintedItems items = [] ∨
      ∃ more, Tree.writeItems items rest = ',' :: more ∧
        Reads (readItems more) (Outline.ofPrintedItems items) rest
  | [], rest => .inl ⟨rfl, rfl⟩
  | x :: items, rest => by
    have first := reads_write x (Tree.writeItems items rest) (endsNumber_writeItems _ _)
    rw [← skipSpace_write x] at first
    exact .inr ⟨_, rfl, reads_item first (reads_writeItems items rest)⟩

theorem reads_writeMembers : (members : List (String × Tree)) → (rest : List Char) →
    Tree.writeMembers members rest = '\x7d' :: rest ∧ Outline.ofPrintedMembers members = [] ∨
      ∃ more, Tree.writeMembers members rest = ',' :: more ∧
        Reads (readMembers more) (Outline.ofPrintedMembers members) rest
  | [], rest => .inl ⟨rfl, rfl⟩
  | (name, x) :: members, rest => by
    have first := reads_write x (Tree.writeMembers members rest) (endsNumber_writeMembers _ _)
    rw [← skipSpace_write x] at first
    exact .inr ⟨_, rfl, reads_member first (reads_writeMembers members rest)⟩

end

/-- The text of a tree is JSON throughout. -/
theorem outline_text (t : Tree) : outline t.text.toList = (.ofPrinted t, true) := by
  have read := reads_write t [] endsNumber_nil
  rw [← skipSpace_write] at read
  obtain ⟨r, left, read⟩ := read.eq
  have written : t.text.toList = t.write [] := by simp [Tree.text]
  rw [outline, written, read]
  simp only [left]
  rfl

end AccessBroker.Json
