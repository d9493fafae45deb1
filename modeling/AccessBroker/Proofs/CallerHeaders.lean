import AccessBroker.Interface.Caller
import AccessBroker.Proofs.MappingKeys

/-! # What headers say of a caller

Of the fields that name users only the first one counts, and of those that name
groups only what stands in them.  So it makes no difference how groups are
spread over fields, in which order and how often they stand there, and in which
letters and with which blanks the names are written.
-/

namespace AccessBroker

namespace Text

/-! ## Pieces of texts -/

theorem pieces_append_sep (sep : Char) (front rest : List Char) :
    pieces sep (front ++ sep :: rest) = pieces sep front ++ pieces sep rest := by
  induction front with
  | nil => simp [pieces]
  | cons c front ih =>
    by_cases cut : c = sep
    · simp [pieces, cut, ih]
    · simp only [List.cons_append, pieces, if_neg cut, ih]
      cases first : pieces sep front with
      | nil => exact absurd first (pieces_ne_nil sep front)
      | cons piece others => rfl

theorem mem_of_mem_pieces {sep c : Char} {cs piece : List Char} (listed : piece ∈ pieces sep cs)
    (h : c ∈ piece) : c ∈ cs := by
  fun_induction pieces sep cs generalizing piece <;> grind

theorem pieces_of_not_mem {sep : Char} {cs : List Char} (h : sep ∉ cs) : pieces sep cs = [cs] := by
  induction cs with
  | nil => rfl
  | cons c cs ih =>
    obtain ⟨other, rest⟩ := not_or.1 (mt List.mem_cons.2 h)
    rw [pieces, if_neg (Ne.symm other), ih rest]

/-- A change of characters that leaves the separator alone changes piece by piece. -/
theorem pieces_map {sep : Char} {f : Char → Char} (spares : ∀ c, f c = sep ↔ c = sep)
    (cs : List Char) : pieces sep (cs.map f) = (pieces sep cs).map (List.map f) := by
  induction cs with
  | nil => rfl
  | cons c cs ih =>
    simp only [List.map_cons, pieces, spares, ih]
    by_cases cut : c = sep
    · simp [cut]
    · simp only [if_neg cut]
      cases pieces sep cs <;> rfl

theorem split_join (v w : String) : split ',' (v ++ "," ++ w) = split ',' v ++ split ',' w := by
  have whole : (v ++ "," ++ w).toList = v.toList ++ ',' :: w.toList := by
    simp [String.toList_append]
  rw [split, whole, pieces_append_sep, List.map_append, split, split]

theorem split_of_not_mem {s : String} (h : ',' ∉ s.toList) : split ',' s = [s] := by
  rw [split, pieces_of_not_mem h, List.map_singleton, String.ofList_toList]

/-- The pieces of joined names are the names. -/
theorem split_intercalate {name : String} {names : List String}
    (free : ∀ n ∈ name :: names, ',' ∉ n.toList) :
    split ',' (",".intercalate (name :: names)) = name :: names := by
  induction names generalizing name with
  | nil =>
    rw [String.intercalate_singleton]
    exact split_of_not_mem (free name List.mem_cons_self)
  | cons next names ih =>
    rw [String.intercalate_cons_cons, split_join,
      split_of_not_mem (free name List.mem_cons_self),
      ih fun n hn => free n (List.mem_cons_of_mem name hn), List.singleton_append]

/-! ## Trimming and letter case -/

theorem trimChars_map {f : Char → Char} (spares : ∀ c, isBlank (f c) = isBlank c)
    (cs : List Char) : trimChars (cs.map f) = (trimChars cs).map f := by
  have drop (cs : List Char) : dropBlanks (cs.map f) = (dropBlanks cs).map f := by
    have same : isBlank ∘ f = isBlank := funext spares
    rw [dropBlanks, List.dropWhile_map, same, dropBlanks]
  rw [trimChars, drop, ← List.map_reverse, drop, ← List.map_reverse, trimChars]

theorem trim_lowerAscii (s : String) : trim (lowerAscii s) = lowerAscii (trim s) := by
  rw [← String.toList_inj, toList_trim, toList_lowerAscii, toList_lowerAscii, toList_trim,
    trimChars_map isBlank_lowerLetter]

/-- A letter from A to Z becomes another letter, and nothing else changes. -/
theorem lowerLetter_cases (c : Char) :
    lowerLetter c = c ∨ (0x41 ≤ c.toNat ∧ c.toNat ≤ 0x5a) ∧
      (lowerLetter c).toNat = c.toNat + 0x20 := by
  by_cases upper : c.isUpper = true
  · have bounds := isUpper_iff.1 upper
    refine .inr ⟨bounds, ?_⟩
    rw [lowerLetter, if_pos upper]
    exact toNat_ofNat (.inl (by omega))
  · exact .inl (if_neg upper)

theorem lowerLetter_eq_comma_iff (c : Char) : lowerLetter c = ',' ↔ c = ',' := by
  constructor
  · intro lowered
    rcases lowerLetter_cases c with same | ⟨_, moved⟩
    · exact same.symm.trans lowered
    · have comma : ','.toNat = 0x2c := rfl
      rw [lowered] at moved
      omega
  · rintro rfl
    rfl

theorem split_lowerAscii (s : String) :
    split ',' (lowerAscii s) = (split ',' s).map lowerAscii := by
  rw [split, toList_lowerAscii, pieces_map lowerLetter_eq_comma_iff, split, List.map_map,
    List.map_map]
  apply List.map_congr_left
  intro piece _
  rw [← String.toList_inj]
  simp [toList_lowerAscii]

/-- Lower case of ASCII brings a text of ASCII into lower case. -/
theorem lower_of_ascii {s : String} (ascii : ∀ c ∈ s.toList, c.toNat < 0x80) :
    lower s = lowerAscii s := by
  have settled : ∀ c ∈ s.toList, Settled (lowerLetter c) := by
    intro c hc
    rw [lowerLetter_of_ascii (ascii c hc)]
    apply (settled_lowerChar _).1
    rintro rfl
    exact absurd (ascii _ hc) (by decide)
  rw [lower, lowerFrom_of_settled_letters settled, ← toList_lowerAscii, String.ofList_toList]

theorem mem_of_mem_trimChars {c : Char} {cs : List Char} (h : c ∈ trimChars cs) : c ∈ cs := by
  have inner := (List.dropWhile_sublist isBlank).subset (List.mem_reverse.1 h)
  exact (List.dropWhile_sublist isBlank).subset (List.mem_reverse.1 inner)

/-- The normal form of a text of ASCII. -/
theorem normalize_of_ascii {s : String} (ascii : ∀ c ∈ s.toList, c.toNat < 0x80) :
    normalize s = trim (lowerAscii s) := by
  have trimmed : ∀ c ∈ (trim s).toList, c.toNat < 0x80 := by
    intro c hc
    rw [toList_trim] at hc
    exact ascii c (mem_of_mem_trimChars hc)
  rw [normalize, lower_of_ascii trimmed, trim_lowerAscii]

/-- The normal forms of the pieces of a text of ASCII. -/
theorem normalized_pieces_of_ascii {s : String} (ascii : ∀ c ∈ s.toList, c.toNat < 0x80) :
    (split ',' s).map normalize = (split ',' (lowerAscii s)).map trim := by
  rw [split_lowerAscii, List.map_map]
  apply List.map_congr_left
  intro piece cut
  obtain ⟨cs, listed, rfl⟩ := List.mem_map.1 cut
  apply normalize_of_ascii
  intro c hc
  rw [String.toList_ofList] at hc
  exact ascii c (mem_of_mem_pieces listed hc)

end Text

/-! ## Readable values -/

namespace Http.Header

def IsText (value : String) : Prop :=
  ∀ c ∈ value.toList, c = '\t' ∨ (0x20 ≤ c.toNat ∧ c.toNat < 0x7f)

theorem readable?_eq_some_iff {field : Header} {value : String} :
    field.readable? = some value ↔ field.value = value ∧ IsText field.value := by
  unfold readable? IsText
  rw [Option.ite_none_right_eq_some, List.all_eq_true]
  simp [and_comm]

theorem IsText.ascii {value : String} (h : IsText value) : ∀ c ∈ value.toList, c.toNat < 0x80 := by
  intro c hc
  rcases h c hc with rfl | ⟨_, below⟩
  · decide
  · omega

theorem isText_lowerAscii {value : String} : IsText (Text.lowerAscii value) ↔ IsText value := by
  have letter (c : Char) : Text.lowerLetter c = '\t' ∨
      (0x20 ≤ (Text.lowerLetter c).toNat ∧ (Text.lowerLetter c).toNat < 0x7f) ↔
      c = '\t' ∨ (0x20 ≤ c.toNat ∧ c.toNat < 0x7f) := by
    rcases Text.lowerLetter_cases c with same | ⟨bounds, moved⟩
    · rw [same]
    · exact iff_of_true (.inr (by omega)) (.inr (by omega))
  simp only [IsText, Text.toList_lowerAscii, List.mem_map, forall_exists_index, and_imp,
    forall_apply_eq_imp_iff₂, letter]

theorem isText_join {v w : String} : IsText (v ++ "," ++ w) ↔ IsText v ∧ IsText w := by
  have whole : (v ++ "," ++ w).toList = v.toList ++ ',' :: w.toList := by
    simp [String.toList_append]
  have comma : ',' = '\t' ∨ (0x20 ≤ ','.toNat ∧ ','.toNat < 0x7f) := .inr (by decide)
  simp only [IsText, whole, List.forall_mem_append, List.forall_mem_cons, comma, true_and]

theorem isText_intercalate {names : List String} (texts : ∀ n ∈ names, IsText n) :
    IsText (",".intercalate names) := by
  induction names with
  | nil =>
    intro c hc
    rw [String.intercalate_nil] at hc
    cases hc
  | cons name names ih =>
    have rest := ih fun n hn => texts n (List.mem_cons_of_mem name hn)
    have first := texts name List.mem_cons_self
    cases names with
    | nil => rwa [String.intercalate_singleton]
    | cons next names =>
      rw [String.intercalate_cons_cons]
      exact isText_join.2 ⟨first, rest⟩

end Http.Header

/-! ## Who is named -/

namespace Identity

open Http (Header)

/-- The first field that names a user. -/
def FirstUser (headers : List Header) (field : Header) : Prop :=
  ∃ before after, headers = before ++ field :: after ∧ field.name = userHeader ∧
    ∀ other ∈ before, other.name ≠ userHeader

/-- The first field that names a user can be read, and it does name one. -/
def Presents (headers : List Header) (user : String) : Prop :=
  ∃ field, FirstUser headers field ∧ field.readable? = some user ∧ Text.isAllBlank user = false

def ListsIn (field : Header) (group : String) : Prop :=
  field.name = groupsHeader ∧ ∃ value, field.readable? = some value ∧
    group ∈ (Text.split ',' value).map Text.normalize

def Lists (headers : List Header) (group : String) : Prop :=
  group ≠ "" ∧ ∃ field ∈ headers, ListsIn field group

variable {headers others : List Header} {user group : String}

theorem header?_eq_some_iff {field : Header} :
    Http.header? headers userHeader = some field ↔ FirstUser headers field := by
  rw [Http.header?, List.find?_eq_some_iff_append]
  constructor
  · rintro ⟨named, before, after, whole, first⟩
    exact ⟨before, after, whole, by simpa using named, fun other h => by simpa using first other h⟩
  · rintro ⟨before, after, whole, named, first⟩
    exact ⟨by simpa using named, before, after, whole, fun other h => by simpa using first other h⟩

theorem callingUser?_eq_some_iff :
    callingUser? headers = some user ↔ ∃ text, Presents headers text ∧ Text.trim text = user := by
  simp only [callingUser?, Option.filter_eq_some_iff, Option.map_eq_some_iff,
    Option.bind_eq_some_iff, header?_eq_some_iff]
  constructor
  · rintro ⟨⟨text, ⟨field, first, readable⟩, rfl⟩, named⟩
    refine ⟨text, ⟨field, first, readable, ?_⟩, rfl⟩
    rw [Bool.eq_false_iff, ne_eq, ← Text.trim_eq_empty_iff]
    simpa using named
  · rintro ⟨text, ⟨field, first, readable, solid⟩, rfl⟩
    refine ⟨⟨text, ⟨field, first, readable⟩, rfl⟩, ?_⟩
    rw [← Bool.not_eq_true, ← Text.trim_eq_empty_iff] at solid
    simpa using solid

theorem mem_callingGroups_iff :
    group ∈ NameSet.ofNames (callingGroups headers) ↔ Lists headers group := by
  have member (name : String) : name ∈ callingGroups headers ↔
      (∃ field ∈ headers, field.name = groupsHeader ∧ ∃ value, field.readable? = some value ∧
        ∃ piece ∈ Text.split ',' value, Text.trim piece = name) ∧ name ≠ "" := by
    simp only [callingGroups, Http.readableValues, List.mem_filter, List.mem_map, List.mem_flatMap,
      List.mem_filterMap, decide_eq_true_eq, Bool.not_eq_true', String.isEmpty_eq_false_iff]
    grind
  rw [NameSet.mem_ofNames]
  constructor
  · rintro ⟨name, listed, solid, rfl⟩
    obtain ⟨⟨field, here, named, value, readable, piece, cut, rfl⟩, -⟩ := (member name).1 listed
    refine ⟨Text.isAllBlank_eq_false_iff.1 solid, field, here, named, value, readable, ?_⟩
    rw [Text.normalize_trim]
    exact List.mem_map_of_mem cut
  · rintro ⟨solid, field, here, named, value, readable, listed⟩
    obtain ⟨piece, cut, rfl⟩ := List.mem_map.1 listed
    refine ⟨Text.trim piece,
      (member _).2 ⟨⟨field, here, named, value, readable, piece, cut, rfl⟩, ?_⟩,
      ?_, Text.normalize_trim piece⟩
    · rw [ne_eq, Text.trim_eq_empty_iff, ← Text.normalize_eq_empty_iff]
      exact solid
    · rw [Text.isAllBlank_eq_false_iff, Text.normalize_trim]
      exact solid

/-- What the headers come to is a matter of whom they present and which groups they list. -/
theorem ofHeaders_of_presents (presents : Presents headers user) :
    ofHeaders headers = .ok (.of user (callingGroups headers)) := by
  have calling := callingUser?_eq_some_iff.2 ⟨user, presents, rfl⟩
  rw [ofHeaders, calling]
  simp only [of, Text.normalize_trim]

theorem ofHeaders_of_not_presents (nobody : ¬ ∃ user, Presents headers user) :
    ofHeaders headers = .error (.unauthorized "authentication required") := by
  have calling : callingUser? headers = none := by
    rw [Option.eq_none_iff_forall_ne_some]
    intro user found
    obtain ⟨text, presents, -⟩ := callingUser?_eq_some_iff.1 found
    exact nobody ⟨text, presents⟩
  rw [ofHeaders, calling]

/-- Headers that present one user, in normal form, and list the same groups say the same. -/
theorem ofHeaders_congr
    (user : ∀ u, (∃ text, Presents headers text ∧ Text.normalize text = u) ↔
      ∃ text, Presents others text ∧ Text.normalize text = u)
    (groups : ∀ group, Lists headers group ↔ Lists others group) :
    ofHeaders headers = ofHeaders others := by
  by_cases known : ∃ text, Presents headers text
  · obtain ⟨text, presents⟩ := known
    obtain ⟨text', presents', same⟩ := (user _).1 ⟨text, presents, rfl⟩
    have sets : NameSet.ofNames (callingGroups headers) =
        NameSet.ofNames (callingGroups others) := by
      apply NameSet.ext_mem
      intro group
      rw [mem_callingGroups_iff, mem_callingGroups_iff, groups]
    rw [ofHeaders_of_presents presents, ofHeaders_of_presents presents', of, of, same, sets]
  · have unknown : ¬ ∃ text, Presents others text := by
      rintro ⟨text, presents⟩
      obtain ⟨text', presents', -⟩ := (user _).2 ⟨text, presents, rfl⟩
      exact known ⟨text', presents'⟩
    rw [ofHeaders_of_not_presents known, ofHeaders_of_not_presents unknown]

/-! ## Other ways to write headers -/

def ShownBy (field : Header) (user : String) : Prop :=
  ∃ text, field.readable? = some text ∧ Text.isAllBlank text = false ∧ Text.normalize text = user

/-- Headers that come from one another by writing them in another way.  A value that cannot be read
is no text, so a part of it is not to become readable by itself. -/
inductive Rewritten : List Header → List Header → Prop where
  | refl (headers : List Header) : Rewritten headers headers
  | symm {headers others : List Header} (h : Rewritten headers others) : Rewritten others headers
  | trans {headers others more : List Header} (h : Rewritten headers others)
      (h' : Rewritten others more) : Rewritten headers more
  /-- Groups that were joined by a comma stand in two fields. -/
  | split (before after : List Header) {v w : String}
      (alike : Header.IsText v ↔ Header.IsText w) :
      Rewritten (before ++ ⟨groupsHeader, v ++ "," ++ w⟩ :: after)
        (before ++ ⟨groupsHeader, v⟩ :: ⟨groupsHeader, w⟩ :: after)
  /-- Fields stand in another order, those of users apart. -/
  | reorder {headers others : List Header} (moved : headers.Perm others)
      (users : headers.filter (·.name = userHeader) = others.filter (·.name = userHeader)) :
      Rewritten headers others
  /-- Groups are named again. -/
  | again {headers : List Header} {field : Header} (here : field ∈ headers)
      (named : field.name = groupsHeader) : Rewritten headers (field :: headers)
  | recase (before after : List Header) {name v w : String}
      (same : Text.lowerAscii v = Text.lowerAscii w) :
      Rewritten (before ++ ⟨name, v⟩ :: after) (before ++ ⟨name, w⟩ :: after)
  | padUser (before after : List Header) {v w : String}
      (alike : Header.IsText v ↔ Header.IsText w) (same : Text.trim v = Text.trim w) :
      Rewritten (before ++ ⟨userHeader, v⟩ :: after) (before ++ ⟨userHeader, w⟩ :: after)
  | padGroups (before after : List Header) {v w : String}
      (alike : Header.IsText v ↔ Header.IsText w)
      (same : (Text.split ',' v).map Text.trim = (Text.split ',' w).map Text.trim) :
      Rewritten (before ++ ⟨groupsHeader, v⟩ :: after) (before ++ ⟨groupsHeader, w⟩ :: after)
  | laterUser (before after : List Header) {v : String}
      (named : ∃ field ∈ before, field.name = userHeader) :
      Rewritten (before ++ after) (before ++ ⟨userHeader, v⟩ :: after)

theorem firstUser_iff {field : Header} :
    FirstUser headers field ↔ (headers.filter (·.name = userHeader)).head? = some field := by
  rw [← header?_eq_some_iff, Http.header?, List.head?_filter]

theorem shown_iff :
    (∃ text, Presents headers text ∧ Text.normalize text = user) ↔
      ∃ field, (headers.filter (·.name = userHeader)).head? = some field ∧ ShownBy field user := by
  simp only [Presents, firstUser_iff, ShownBy]
  grind

/-- Headers with the same first user and the same groups say the same. -/
theorem ofHeaders_eq_of_users
    (users : (headers.filter (·.name = userHeader)).head? =
      (others.filter (·.name = userHeader)).head?)
    (groups : ∀ group, Lists headers group ↔ Lists others group) :
    ofHeaders headers = ofHeaders others := by
  refine ofHeaders_congr (fun user => ?_) groups
  rw [shown_iff, shown_iff, users]

theorem lists_append {first second : List Header} :
    Lists (first ++ second) group ↔ Lists first group ∨ Lists second group := by
  simp only [Lists, List.mem_append]
  grind

theorem lists_cons {field : Header} {rest : List Header} :
    Lists (field :: rest) group ↔ group ≠ "" ∧ ListsIn field group ∨ Lists rest group := by
  simp only [Lists, List.mem_cons]
  grind

/-- A field takes the place of another of its name. -/
theorem ofHeaders_replace (before after : List Header) {field other : Header}
    (name : field.name = other.name)
    (shown : field.name = userHeader → ∀ user, ShownBy field user ↔ ShownBy other user)
    (listed : ∀ group, ListsIn field group ↔ ListsIn other group) :
    ofHeaders (before ++ field :: after) = ofHeaders (before ++ other :: after) := by
  refine ofHeaders_congr (fun user => ?_) fun group => ?_
  · rw [shown_iff, shown_iff, List.filter_append, List.filter_append]
    by_cases ofUser : field.name = userHeader
    · have ofUser' : other.name = userHeader := name ▸ ofUser
      rw [List.filter_cons_of_pos (by simpa using ofUser),
        List.filter_cons_of_pos (by simpa using ofUser')]
      cases before.filter (·.name = userHeader) <;> simp [shown ofUser]
    · have ofUser' : ¬ other.name = userHeader := name ▸ ofUser
      rw [List.filter_cons_of_neg (by simpa using ofUser),
        List.filter_cons_of_neg (by simpa using ofUser')]
  · simp only [lists_append, lists_cons, listed]

theorem shownBy_iff {name v : String} :
    ShownBy ⟨name, v⟩ user ↔
      Header.IsText v ∧ Text.isAllBlank v = false ∧ Text.normalize v = user := by
  simp only [ShownBy, Header.readable?_eq_some_iff]
  grind

theorem listsIn_iff {name v : String} :
    ListsIn ⟨name, v⟩ group ↔ name = groupsHeader ∧ Header.IsText v ∧
      group ∈ (Text.split ',' v).map Text.normalize := by
  simp only [ListsIn, Header.readable?_eq_some_iff]
  grind

theorem ofHeaders_recase (before after : List Header) {name v w : String}
    (same : Text.lowerAscii v = Text.lowerAscii w) :
    ofHeaders (before ++ ⟨name, v⟩ :: after) = ofHeaders (before ++ ⟨name, w⟩ :: after) := by
  have readable : Header.IsText v ↔ Header.IsText w := by
    rw [← Header.isText_lowerAscii, same, Header.isText_lowerAscii]
  have normal (text : Header.IsText v) : Text.normalize v = Text.normalize w := by
    rw [Text.normalize_of_ascii text.ascii, same, Text.normalize_of_ascii (readable.1 text).ascii]
  have pieces (text : Header.IsText v) :
      (Text.split ',' v).map Text.normalize = (Text.split ',' w).map Text.normalize := by
    rw [Text.normalized_pieces_of_ascii text.ascii, same,
      Text.normalized_pieces_of_ascii (readable.1 text).ascii]
  refine ofHeaders_replace before after rfl (fun _ user => ?_) fun group => ?_
  · rw [shownBy_iff, shownBy_iff, Text.isAllBlank_eq_false_iff, Text.isAllBlank_eq_false_iff,
      ← readable]
    exact and_congr_right fun text => by rw [normal text]
  · rw [listsIn_iff, listsIn_iff, ← readable]
    exact and_congr_right fun _ => and_congr_right fun text => by rw [pieces text]

theorem ofHeaders_padUser (before after : List Header) {v w : String}
    (alike : Header.IsText v ↔ Header.IsText w) (same : Text.trim v = Text.trim w) :
    ofHeaders (before ++ ⟨userHeader, v⟩ :: after) =
      ofHeaders (before ++ ⟨userHeader, w⟩ :: after) := by
  have normal : Text.normalize v = Text.normalize w := by
    rw [← Text.normalize_trim, same, Text.normalize_trim]
  refine ofHeaders_replace before after rfl (fun _ user => ?_) fun group => ?_
  · rw [shownBy_iff, shownBy_iff, Text.isAllBlank_eq_false_iff, Text.isAllBlank_eq_false_iff,
      alike, normal]
  · have other : userHeader ≠ groupsHeader := by decide
    simp [listsIn_iff, other]

theorem ofHeaders_padGroups (before after : List Header) {v w : String}
    (alike : Header.IsText v ↔ Header.IsText w)
    (same : (Text.split ',' v).map Text.trim = (Text.split ',' w).map Text.trim) :
    ofHeaders (before ++ ⟨groupsHeader, v⟩ :: after) =
      ofHeaders (before ++ ⟨groupsHeader, w⟩ :: after) := by
  have trimmed (v : String) : (Text.split ',' v).map Text.normalize =
      ((Text.split ',' v).map Text.trim).map Text.normalize := by
    rw [List.map_map]
    exact List.map_congr_left fun piece _ => (Text.normalize_trim piece).symm
  refine ofHeaders_replace before after rfl (fun ofUser => ?_) fun group => ?_
  · have other : groupsHeader ≠ userHeader := by decide
    exact absurd ofUser other
  · rw [listsIn_iff, listsIn_iff, alike, trimmed v, same, ← trimmed w]

theorem ofHeaders_split (before after : List Header) {v w : String}
    (alike : Header.IsText v ↔ Header.IsText w) :
    ofHeaders (before ++ ⟨groupsHeader, v ++ "," ++ w⟩ :: after) =
      ofHeaders (before ++ ⟨groupsHeader, v⟩ :: ⟨groupsHeader, w⟩ :: after) := by
  refine ofHeaders_eq_of_users ?_ fun group => ?_
  · have other : groupsHeader ≠ userHeader := by decide
    simp [List.filter_append, other]
  · simp only [lists_append, lists_cons, listsIn_iff, Header.isText_join, Text.split_join,
      List.map_append, List.mem_append, alike]
    grind

/-- However headers are written, they name the same caller. -/
theorem Rewritten.ofHeaders_eq (h : Rewritten headers others) :
    ofHeaders headers = ofHeaders others := by
  induction h with
  | refl => rfl
  | symm _ ih => exact ih.symm
  | trans _ _ ih ih' => exact ih.trans ih'
  | split before after alike => exact ofHeaders_split before after alike
  | @reorder headers others moved users =>
    refine ofHeaders_eq_of_users (congrArg List.head? users) fun group => ?_
    simp only [Lists, moved.mem_iff]
  | @again headers field here named =>
    refine ofHeaders_eq_of_users ?_ fun group => ?_
    · have other : ¬ field.name = userHeader := by
        rw [named]
        decide
      rw [List.filter_cons_of_neg (by simpa using other)]
    · rw [lists_cons]
      refine ⟨.inr, ?_⟩
      rintro (⟨solid, listed⟩ | listed)
      · exact ⟨solid, field, here, listed⟩
      · exact listed
  | recase before after same => exact ofHeaders_recase before after same
  | padUser before after alike same => exact ofHeaders_padUser before after alike same
  | padGroups before after alike same => exact ofHeaders_padGroups before after alike same
  | @laterUser before after v named =>
    obtain ⟨field, here, ofUser⟩ := named
    refine ofHeaders_eq_of_users ?_ fun group => ?_
    · have first : before.filter (·.name = userHeader) ≠ [] :=
        List.ne_nil_of_mem (List.mem_filter.2 ⟨here, by simpa using ofUser⟩)
      rw [List.filter_append, List.filter_append, List.head?_append, List.head?_append,
        List.head?_eq_some_head first, Option.some_or, Option.some_or]
    · have other : userHeader ≠ groupsHeader := by decide
      simp [lists_append, lists_cons, listsIn_iff, other]

/-! ## Writing an identity as headers -/

/-- The headers of an identity, its groups in shares: each share stands in one field. -/
def toHeaders (who : Identity) (shares : List (List String)) : List Header :=
  ⟨userHeader, who.user⟩ :: shares.map fun share => ⟨groupsHeader, ",".intercalate share⟩

def IsPrintable (name : String) : Prop :=
  ∀ c ∈ name.toList, 0x20 ≤ c.toNat ∧ c.toNat < 0x7f

theorem IsPrintable.isText {name : String} (h : IsPrintable name) : Header.IsText name :=
  fun c hc => .inr (h c hc)

/-- A field with a share of names in normal form lists just these. -/
theorem listsIn_share {share : List String} (texts : ∀ n ∈ share, Header.IsText n)
    (free : ∀ n ∈ share, ',' ∉ n.toList) (normal : ∀ n ∈ share, Text.normalize n = n)
    (solid : group ≠ "") :
    ListsIn ⟨groupsHeader, ",".intercalate share⟩ group ↔ group ∈ share := by
  rw [listsIn_iff]
  cases share with
  | nil =>
    have blank : (Text.split ',' (",".intercalate [])).map Text.normalize = [""] := by
      decide +kernel
    rw [blank]
    simp [solid]
  | cons name names =>
    have same : (name :: names).map Text.normalize = name :: names :=
      (List.map_congr_left normal).trans (List.map_id _)
    rw [Text.split_intercalate free, same]
    simp [Header.isText_intercalate texts]

structure IsNormal (who : Identity) : Prop where
  normal : ∀ name, name = who.user ∨ name ∈ who.groups → Text.normalize name = name
  solid : ∀ group ∈ who.groups, group ≠ ""

theorem isNormal_of (user : String) (groups : List String) : (of user groups).IsNormal where
  normal _ own := normal_of_mem own
  solid _ own := by
    obtain ⟨name, -, blank, rfl⟩ := NameSet.mem_ofNames.1 own
    exact Text.isAllBlank_eq_false_iff.1 blank

section

variable {who : Identity} {shares : List (List String)}

theorem lists_toHeaders (isNormal : who.IsNormal)
    (plain : ∀ g ∈ who.groups, IsPrintable g ∧ ',' ∉ g.toList)
    (shared : ∀ g, (∃ share ∈ shares, g ∈ share) ↔ g ∈ who.groups) :
    Lists (who.toHeaders shares) group ↔ group ∈ who.groups := by
  have inShare {share : List String} (here : share ∈ shares) (solid : group ≠ "") :
      ListsIn ⟨groupsHeader, ",".intercalate share⟩ group ↔ group ∈ share := by
    have own (n : String) (hn : n ∈ share) : n ∈ who.groups := (shared n).1 ⟨share, here, hn⟩
    exact listsIn_share (fun n hn => (plain n (own n hn)).1.isText)
      (fun n hn => (plain n (own n hn)).2) (fun n hn => isNormal.normal n (.inr (own n hn))) solid
  have notUser : ¬ ListsIn ⟨userHeader, who.user⟩ group := by
    rw [listsIn_iff]
    rintro ⟨other, -⟩
    exact absurd other (by decide)
  rw [← shared]
  constructor
  · rintro ⟨solid, field, here, listed⟩
    rcases List.mem_cons.1 here with rfl | here
    · exact absurd listed notUser
    · obtain ⟨share, isShare, rfl⟩ := List.mem_map.1 here
      exact ⟨share, isShare, (inShare isShare solid).1 listed⟩
  · rintro ⟨share, isShare, member⟩
    have solid := isNormal.solid group ((shared group).1 ⟨share, isShare, member⟩)
    exact ⟨solid, _, List.mem_cons_of_mem _ (List.mem_map_of_mem isShare),
      (inShare isShare solid).2 member⟩

/-- An identity is read back from its headers. -/
theorem ofHeaders_toHeaders (isNormal : who.IsNormal) (named : who.user ≠ "")
    (printable : IsPrintable who.user)
    (plain : ∀ g ∈ who.groups, IsPrintable g ∧ ',' ∉ g.toList)
    (shared : ∀ g, (∃ share ∈ shares, g ∈ share) ↔ g ∈ who.groups) :
    ofHeaders (who.toHeaders shares) = .ok who := by
  have user : Text.normalize who.user = who.user := isNormal.normal _ (.inl rfl)
  have presents : Presents (who.toHeaders shares) who.user := by
    refine ⟨⟨userHeader, who.user⟩, ⟨[], _, rfl, rfl, nofun⟩,
      Header.readable?_eq_some_iff.2 ⟨rfl, printable.isText⟩, Text.isAllBlank_eq_false_iff.2 ?_⟩
    rw [user]
    exact named
  have groups : NameSet.ofNames (callingGroups (who.toHeaders shares)) = who.groups := by
    apply NameSet.ext_mem
    intro group
    rw [mem_callingGroups_iff, lists_toHeaders isNormal plain shared]
  rw [ofHeaders_of_presents presents, of, user, groups]

end

/-- Headers name a caller exactly if the first field of a user is readable and not blank; the groups
are those of all readable fields.  However they are written they name the same caller, and an
identity is read back from its headers. -/
theorem ofHeaders_names_caller :
    (∀ headers,
      (ofHeaders headers = .error (.unauthorized "authentication required") ↔
        ¬ ∃ user, Presents headers user) ∧
      ∀ user, Presents headers user → ∃ who, ofHeaders headers = .ok who ∧
        who.user = Text.normalize user ∧ ∀ group, group ∈ who.groups ↔ Lists headers group) ∧
    (∀ headers others, Rewritten headers others → ofHeaders headers = ofHeaders others) ∧
    ∀ user groups shares, (of user groups).user ≠ "" → IsPrintable (of user groups).user →
      (∀ g ∈ (of user groups).groups, IsPrintable g ∧ ',' ∉ g.toList) →
      (∀ g, (∃ share ∈ shares, g ∈ share) ↔ g ∈ (of user groups).groups) →
      ofHeaders ((of user groups).toHeaders shares) = .ok (of user groups) := by
  refine ⟨fun headers => ⟨⟨?_, ofHeaders_of_not_presents⟩, fun user presents => ?_⟩,
    fun headers others rewritten => rewritten.ofHeaders_eq,
    fun user groups shares => ofHeaders_toHeaders (isNormal_of user groups)⟩
  · rintro refused ⟨user, presents⟩
    rw [ofHeaders_of_presents presents] at refused
    cases refused
  · exact ⟨_, ofHeaders_of_presents presents, rfl, fun group => mem_callingGroups_iff⟩

def bobHeaders : List Header :=
  [⟨groupsHeader, "é,c"⟩, ⟨userHeader, " Bob\t"⟩, ⟨groupsHeader, " A, ,b"⟩, ⟨userHeader, "eve"⟩]

theorem bob_is_named :
    (∃ who, ofHeaders bobHeaders = .ok who ∧ who.user = "bob" ∧ "b" ∈ who.groups) ∧
    ofHeaders (bobHeaders.take 2 ++ [⟨groupsHeader, "a"⟩, ⟨groupsHeader, " ,b"⟩]) =
      ofHeaders bobHeaders ∧
    ofHeaders ((of "Bob" ["A", "b"]).toHeaders [["b"], ["a", "b"]]) =
      .ok (of "Bob" ["A", "b"]) := by
  have user : (of "Bob" ["A", "b"]).user = "bob" := by decide +kernel
  have groups : (of "Bob" ["A", "b"]).groups.toList = ["a", "b"] := by decide +kernel
  have printable {name : String}
      (all : (name.toList.all fun c => 0x20 ≤ c.toNat && c.toNat < 0x7f) = true) :
      IsPrintable name := by
    intro c hc
    simpa using List.all_eq_true.1 all c hc
  obtain ⟨reads, same, back⟩ := ofHeaders_names_caller
  refine ⟨?_, same _ _ ?_, back "Bob" ["A", "b"] [["b"], ["a", "b"]] ?_ ?_ ?_ ?_⟩
  · have presents : Presents bobHeaders " Bob\t" :=
      ⟨_, ⟨[_], _, rfl, rfl, by decide⟩, by decide +kernel, by decide +kernel⟩
    obtain ⟨who, ok, user, groups⟩ := (reads bobHeaders).2 _ presents
    have name : Text.normalize " Bob\t" = "bob" := by decide +kernel
    refine ⟨who, ok, user.trans name, (groups "b").2 ⟨by decide, ⟨groupsHeader, " A, ,b"⟩, ?_⟩⟩
    exact ⟨by decide, rfl, " A, ,b", by decide +kernel, by decide +kernel⟩
  · have readable {v : String} (text : (⟨groupsHeader, v⟩ : Header).readable?.isSome = true) :
        Header.IsText v := by
      obtain ⟨value, found⟩ := Option.isSome_iff_exists.1 text
      exact (Header.readable?_eq_some_iff.1 found).2
    have capital : Header.IsText "A" := readable (by decide +kernel)
    have padded : Header.IsText " A" := readable (by decide +kernel)
    have others : Header.IsText " ,b" := readable (by decide +kernel)
    have case : Text.lowerAscii "a" = Text.lowerAscii "A" := by
      rw [← String.toList_inj, Text.toList_lowerAscii, Text.toList_lowerAscii]
      decide +kernel
    have recased : Rewritten (bobHeaders.take 2 ++ [⟨groupsHeader, "a"⟩, ⟨groupsHeader, " ,b"⟩])
        (bobHeaders.take 2 ++ [⟨groupsHeader, "A"⟩, ⟨groupsHeader, " ,b"⟩]) :=
      .recase (bobHeaders.take 2) _ case
    have unpadded : Rewritten (bobHeaders.take 2 ++ [⟨groupsHeader, "A"⟩, ⟨groupsHeader, " ,b"⟩])
        (bobHeaders.take 2 ++ [⟨groupsHeader, " A"⟩, ⟨groupsHeader, " ,b"⟩]) :=
      .padGroups (bobHeaders.take 2) _ (iff_of_true capital padded) (by decide +kernel)
    have joined : Rewritten (bobHeaders.take 3)
        (bobHeaders.take 2 ++ [⟨groupsHeader, " A"⟩, ⟨groupsHeader, " ,b"⟩]) :=
      .split (bobHeaders.take 2) [] (iff_of_true padded others)
    have later : Rewritten (bobHeaders.take 3) bobHeaders :=
      .laterUser (bobHeaders.take 3) [] ⟨_, List.mem_cons_of_mem _ List.mem_cons_self, rfl⟩
    exact recased.trans (unpadded.trans (joined.symm.trans later))
  · decide +kernel
  · rw [user]
    exact printable (by decide +kernel)
  · intro group member
    rw [NameSet.mem_iff, groups] at member
    rcases List.mem_cons.1 member with rfl | member
    · exact ⟨printable (by decide +kernel), by decide +kernel⟩
    · rw [List.mem_singleton.1 member]
      exact ⟨printable (by decide +kernel), by decide +kernel⟩
  · intro group
    rw [NameSet.mem_iff, groups]
    grind

end Identity

end AccessBroker
