import AccessBroker.Proofs.ConfigHistory
import Mathlib.Algebra.Group.Int.Defs
import Mathlib.Algebra.Group.Nat.Defs

/-! # Listing the archive

Versions are archived under the microsecond at which they were replaced, and
the archive is listed in descending order of these texts.  As long as all of
them have sixteen digits, that is the order of time.
-/

namespace AccessBroker

/-! ## The order of decimal texts -/

namespace Text

theorem digitChar_lt {a b : Nat} (less : a < b) (small : b < 10) : digitChar a < digitChar b := by
  have digits : ∀ b < 10, ∀ a < b, digitChar a < digitChar b := by decide
  exact digits b small a less

/-- What follows two lists of the same length does not matter to their order. -/
theorem append_lt_append {as bs : List Char} (less : as < bs) (long : as.length = bs.length)
    (cs ds : List Char) : as ++ cs < bs ++ ds := by
  rw [← List.lex_lt] at less ⊢
  induction less with
  | nil => cases long
  | cons _ ih => exact .cons (ih (Nat.succ.inj long))
  | rel less => exact .rel less

theorem length_natChars {n digits : Nat} (lower : 10 ^ digits ≤ n) (upper : n < 10 ^ (digits + 1)) :
    (natChars n).length = digits + 1 := by
  induction digits generalizing n with
  | zero =>
    rw [natChars, if_pos (by simpa using upper)]
    rfl
  | succ digits ih =>
    rw [Nat.pow_succ] at lower
    rw [Nat.pow_succ] at upper
    have large : ¬ n < 10 := by
      have one : 1 ≤ 10 ^ digits := Nat.one_le_pow _ _ (by decide)
      omega
    rw [natChars, if_neg large, List.length_append, ih (by omega) (by omega), List.length_singleton]

/-- Of two numbers with as many digits the smaller one has the smaller text. -/
theorem natChars_lt {m n : Nat} (less : m < n)
    (long : (natChars m).length = (natChars n).length) : natChars m < natChars n := by
  induction n using Nat.strongRecOn generalizing m with
  | _ n ih =>
    rw [natChars, natChars.eq_def n] at long ⊢
    by_cases small : n < 10
    · rw [if_pos (by omega), if_pos small]
      exact List.lex_lt.1 (.rel (digitChar_lt less small))
    · rw [if_neg small] at long ⊢
      by_cases one : m < 10
      · -- A single digit is not as long as several.
        have front := List.length_pos_iff.2 (natChars_ne_nil (n / 10))
        rw [if_pos one, List.length_append, List.length_singleton, List.length_singleton] at long
        omega
      · rw [if_neg one] at long ⊢
        simp only [List.length_append, List.length_singleton, Nat.add_right_cancel_iff] at long
        by_cases same : m / 10 = n / 10
        · rw [same]
          refine List.append_left_lt (List.lex_lt.1 (.rel (digitChar_lt ?_ ?_))) <;> omega
        · exact append_lt_append (ih (n / 10) (by omega) (by omega) long) long _ _

theorem intText_lt {i j : Int} (lower : 10 ^ 15 ≤ i) (less : i < j) (upper : j ≤ 10 ^ 16 - 1) :
    intText i < intText j := by
  have length (n : Int) (lower : 10 ^ 15 ≤ n) (upper : n ≤ 10 ^ 16 - 1) :
      (natChars n.natAbs).length = 15 + 1 := length_natChars (by omega) (by omega)
  rw [String.lt_iff, intText, intText, String.toList_ofList, String.toList_ofList,
    intChars, intChars, if_neg (by omega), if_neg (by omega)]
  refine natChars_lt (by omega) ?_
  rw [length i lower (by omega), length j (by omega) upper]

end Text

/-! ## What was archived when -/

/-- The microseconds of the moment are written with sixteen digits, from 2001 to 2286. -/
def Instant.HasSixteenDigits (i : Instant) : Prop :=
  10 ^ 15 ≤ i.micros ∧ i.micros ≤ 10 ^ 16 - 1

structure DatedVersion where
  instant : Instant
  version : ConfigVersion

namespace DatedVersion

/-- The id under which a version is archived that was replaced at the moment. -/
def archiveId (r : DatedVersion) : String :=
  Text.intText r.instant.micros

def row (r : DatedVersion) : ConfigVersion :=
  { r.version with id := r.archiveId }

def Earlier (a b : DatedVersion) : Prop :=
  a.instant.micros < b.instant.micros

/-- Of versions by the time at which they were written, latest first: those that were replaced, by
the time at which the next one was written. -/
def replaced (written : List DatedVersion) : List DatedVersion :=
  List.zipWith (fun later earlier => ⟨later.instant, earlier.version⟩) written written.tail

variable {written : List DatedVersion}

theorem replaced_cons_cons (later earlier : DatedVersion) (rest : List DatedVersion) :
    replaced (later :: earlier :: rest) =
      ⟨later.instant, earlier.version⟩ :: replaced (earlier :: rest) :=
  rfl

/-- Versions are replaced when others are written. -/
theorem exists_of_mem_replaced {r : DatedVersion} (among : r ∈ replaced written) :
    ∃ next ∈ written, next.instant = r.instant := by
  obtain ⟨i, short, rfl⟩ := List.mem_iff_getElem.1 among
  simp only [replaced, List.length_zipWith] at short
  refine ⟨written[i], List.getElem_mem _, ?_⟩
  simp only [replaced, List.getElem_zipWith]

theorem latestFirst_replaced
    (ordered : written.Pairwise fun later earlier => earlier.Earlier later) :
    (replaced written).Pairwise fun later earlier => earlier.Earlier later := by
  induction written with
  | nil => exact .nil
  | cons last before ih =>
    obtain ⟨latest, ordered⟩ := List.pairwise_cons.1 ordered
    cases before with
    | nil => exact .nil
    | cons previous rest =>
      rw [replaced_cons_cons]
      refine List.pairwise_cons.2 ⟨fun r among => ?_, ih ordered⟩
      obtain ⟨next, among, same⟩ := exists_of_mem_replaced among
      have earlier : next.Earlier last := latest next among
      rw [Earlier, same] at earlier
      exact earlier

end DatedVersion

open DatedVersion

/-- The tables that are reached from an empty one, with the versions written on the way, latest
first.  Every write that succeeds is later than those before it, at a moment of sixteen digits;
calls that write nothing may come at any time. -/
inductive ConfigTable.Written : ConfigTable → List DatedVersion → Prop where
  | start : Written .empty []
  | write {w left : World} {setup : Setup} {document : ConfigDocument} {expected : Option String}
      {author : String} {snapshot : ConfigSnapshot} {written : List DatedVersion}
      (before : Written w.config written) (answers : w.ConfigAnswers)
      (succeeds : (Service.writeConfig document expected author).perform setup w =
        (.ok snapshot, left))
      (digits : w.clock.HasSixteenDigits)
      (later : ∀ r ∈ written, r.instant.micros < w.clock.micros) :
      Written left.config (⟨w.clock, .written document author w.clock⟩ :: written)
  | call {w : World} {setup : Setup} {written : List DatedVersion}
      (before : Written w.config written) (answers : w.ConfigAnswers) (c : ConfigCall)
      (nothing : c.commits setup w = []) :
      Written (c.after setup w).config written

namespace ConfigTable

variable {t : ConfigTable} {written : List DatedVersion} {v : ConfigVersion} {clock : Instant}

/-- The master is the version written last, and the archive has those that were replaced. -/
structure HoldsReplaced (t : ConfigTable) (written : List DatedVersion) : Prop where
  master : t.master? = written.head?.map (·.version)
  archived : ∀ id row, id ≠ masterId →
    (t.find? id = some row ↔ ∃ r ∈ replaced written, r.archiveId = id ∧ r.row = row)
  latestFirst : written.Pairwise fun later earlier => earlier.Earlier later
  digits : ∀ r ∈ written, r.instant.HasSixteenDigits

theorem holdsReplaced_empty : empty.HoldsReplaced [] where
  master := rfl
  archived id _ _ := by
    have nothing : empty.find? id = none := rfl
    simp [nothing, replaced]
  latestFirst := .nil
  digits _ among := nomatch among

/-- A write replaces the version that was written last. -/
theorem HoldsReplaced.commit (h : t.HoldsReplaced written)
    (free : t.master? ≠ none → t.find? (Text.intText clock.micros) = none)
    (later : ∀ r ∈ written, r.instant.micros < clock.micros)
    (digits : clock.HasSixteenDigits) :
    (t.commit (Text.intText clock.micros) v).HoldsReplaced (⟨clock, v⟩ :: written) := by
  have commits := commits_commit (v := v) (Text.intText_ne_masterId clock.micros) free
  refine ⟨commits.master, fun id row apart => ?_, List.pairwise_cons.2 ⟨later, h.latestFirst⟩, ?_⟩
  · cases written with
    | nil =>
      -- The first version replaces none.
      have first : t.master? = none := h.master
      rw [commits.others id apart fun held => absurd first held, h.archived id row apart]
      rfl
    | cons last rest =>
      have old : t.master? = some last.version := h.master
      obtain ⟨free, archived⟩ := commits.archived _ old
      rw [replaced_cons_cons]
      simp only [List.mem_cons, exists_eq_or_imp]
      by_cases own : id = Text.intText clock.micros
      · rw [own, archived]
        constructor
        · intro same
          exact .inl ⟨rfl, Option.some.inj same⟩
        · rintro (⟨-, same⟩ | ⟨r, among, same, -⟩)
          · rw [← same]
            rfl
          · -- The id of an older row was not free.
            have taken := (h.archived id r.row apart).2 ⟨r, among, same.trans own.symm, rfl⟩
            rw [own, free] at taken
            cases taken
      · have new : ¬ DatedVersion.archiveId ⟨clock, last.version⟩ = id := fun same => own same.symm
        rw [commits.others id apart fun _ => own, h.archived id row apart]
        simp [new]
  · intro r among
    rcases List.mem_cons.1 among with rfl | among
    · exact digits
    · exact h.digits r among

theorem Written.holdsReplaced (history : t.Written written) : t.HoldsReplaced written := by
  induction history with
  | start => exact holdsReplaced_empty
  | @write w left setup document expected author snapshot written before answers succeeds digits
      later ih =>
    obtain ⟨admits, -, done⟩ := (Service.ends_writeConfig answers).of_ok succeeds
    rw [done.table]
    exact ih.commit admits.free later digits
  | @call w setup written before answers c nothing ih =>
    rcases c.after_config setup answers with ⟨-, same⟩ | ⟨_, _, one, -⟩
    · rw [same]
      exact ih
    · rw [nothing] at one
      cases one

/-- The archive is listed latest first. -/
theorem HoldsReplaced.archiveIds_eq (h : t.HoldsReplaced written) (limit : Nat) :
    t.archiveIds limit = ((replaced written).take limit).map (·.archiveId) := by
  have descending : ((replaced written).map (·.archiveId)).Pairwise fun later earlier =>
      earlier < later := by
    refine List.pairwise_map.2 ((latestFirst_replaced h.latestFirst).imp_of_mem ?_)
    intro later earlier among among' before
    obtain ⟨next, among, same⟩ := exists_of_mem_replaced among
    obtain ⟨next', among', same'⟩ := exists_of_mem_replaced among'
    -- Both moments have sixteen digits, so their texts are in the order of time.
    have lower := (h.digits next' among').1
    have upper := (h.digits next among).2
    rw [same'] at lower
    rw [same] at upper
    exact Text.intText_lt lower before upper
  have listed : t.rows.names.filter (· ≠ masterId) =
      ((replaced written).map (·.archiveId)).reverse := by
    refine Table.eq_of_ascending (f := fun id => id) ?_ ?_ fun id => ?_
    · rw [List.map_id']
      exact (List.pairwise_map.2 t.rows.ascending).filter _
    · rw [List.map_id', List.pairwise_reverse]
      exact descending
    · simp only [List.mem_filter, Table.mem_names_iff, decide_eq_true_eq, List.mem_reverse,
        List.mem_map]
      constructor
      · rintro ⟨⟨row, held⟩, apart⟩
        obtain ⟨r, among, same, -⟩ := (h.archived id row apart).1 held
        exact ⟨r, among, same⟩
      · rintro ⟨r, among, rfl⟩
        have apart : r.archiveId ≠ masterId := Text.intText_ne_masterId _
        exact ⟨⟨r.row, (h.archived _ _ apart).2 ⟨r, among, rfl, rfl⟩⟩, apart⟩
  rw [archiveIds, listed, List.reverse_reverse, List.map_take]

end ConfigTable

namespace Service

open World (Alike)

variable {setup : Setup} {w : World}

theorem perform_archiveIds (setup : Setup) (lists : w.Undisturbed .listConfig) {limit : Nat}
    (positive : 1 ≤ limit) :
    ∃ left, (archiveIds limit).perform setup w =
      (.ok (w.config.archiveIds (min limit 500)), left) := by
  have ends : Ends setup w (archiveIds limit)
      (fun ids _ => ids = w.config.archiveIds (min limit 500)) fun _ _ => False := by
    simp only [archiveIds, listConfigArchive, if_neg (Nat.one_le_iff_ne_zero.1 positive), ends_bind,
      ends_pure, ends_discard, ends_get]
    refine ends_meet (fun left alike _ => ?_) fun e left fails _ => lists.not_fail fails
    rw [alike.config]
    rfl
  obtain ⟨ids, left, run, rfl⟩ := ends.ok
  exact ⟨left, run⟩

theorem perform_readArchived (setup : Setup) (reads : w.Undisturbed .findConfig) {id : String}
    {row : ConfigVersion} (apart : id ≠ masterId) (held : w.config.find? id = some row) :
    ∃ left, (readArchived id).perform setup w = (.ok row, left) := by
  have ends : Ends setup w (readArchived id) (fun found _ => found = row) fun _ _ => False := by
    simp only [readArchived, if_neg apart, ends_bind]
    refine ends_findConfig (fun left alike => ?_) fun e left fails _ => reads.not_fail fails
    rw [held]
    rfl
  obtain ⟨found, left, run, rfl⟩ := ends.ok
  exact ⟨left, run⟩

end Service

/-- Whatever was written to an empty table, the version written last is its master, and its archive
has exactly those that were replaced.  The ids of the latest of them are listed, latest first, up to
the limit and to five hundred; the master is not among them, and each is read back as the version
that was replaced at its moment. -/
theorem ConfigTable.Written.lists_latest_first {w : World} {written : List DatedVersion}
    (history : w.config.Written written) (setup : Setup) (lists : w.Undisturbed .listConfig)
    (reads : w.Undisturbed .findConfig) {limit : Nat} (positive : 1 ≤ limit) :
    let archive := replaced written
    let latest := archive.take (min limit 500)
    w.config.master? = written.head?.map (·.version) ∧
    (archive.Pairwise fun later earlier => earlier.Earlier later) ∧
    (∀ id row, id ≠ masterId →
      (w.config.find? id = some row ↔ ∃ r ∈ archive, r.archiveId = id ∧ r.row = row)) ∧
    (∃ left, (Service.archiveIds limit).perform setup w =
      (.ok (latest.map (·.archiveId)), left)) ∧
    latest.length = min (min limit 500) archive.length ∧
    ∀ r ∈ latest, r.archiveId ≠ masterId ∧
      ∃ left, (Service.readArchived r.archiveId).perform setup w = (.ok r.row, left) := by
  have holds := history.holdsReplaced
  refine ⟨holds.master, latestFirst_replaced holds.latestFirst, holds.archived, ?_,
    List.length_take, ?_⟩
  · rw [← holds.archiveIds_eq]
    exact Service.perform_archiveIds setup lists positive
  · intro r among
    have apart : r.archiveId ≠ masterId := Text.intText_ne_masterId _
    have held : w.config.find? r.archiveId = some r.row :=
      (holds.archived _ _ apart).2 ⟨r, List.mem_of_mem_take among, rfl, rfl⟩
    exact ⟨apart, Service.perform_readArchived setup reads apart held⟩

namespace ConfigTable

/-! ## A document that is replaced twice -/

/-- A later write of another document goes through if it names the checksum of the master. -/
theorem HoldsReplaced.admits {t : ConfigTable} {last : DatedVersion} {written : List DatedVersion}
    {clock : Instant} {document : ConfigDocument} {author : String}
    (h : t.HoldsReplaced (last :: written)) (named : Text.isAllBlank author = false)
    (differs : last.version.document.same document = false)
    (later : ∀ r ∈ last :: written, r.instant.micros < clock.micros)
    (digits : clock.HasSixteenDigits) :
    t.Admits clock document (some last.version.checksum) author where
  named := named
  current := by rw [h.master]; rfl
  changes old master := by
    rw [h.master] at master
    cases master
    exact differs
  free _ := by
    rw [Option.eq_none_iff_forall_ne_some]
    intro row held
    obtain ⟨r, among, same, -⟩ := (h.archived _ row (Text.intText_ne_masterId _)).1 held
    obtain ⟨next, among, same'⟩ := exists_of_mem_replaced among
    have less := Text.intText_lt (h.digits next among).1 (later next among) digits.2
    rw [same'] at less
    exact String.lt_irrefl _ (same ▸ less)

def keeping (t : ConfigTable) (clock : Instant) : World :=
  { (default : World) with config := t, clock := clock }

theorem answers_keeping (t : ConfigTable) (clock : Instant) : (t.keeping clock).ConfigAnswers := by
  constructor <;> exact World.undisturbed_of_unplanned rfl _

def noting (word : String) : ConfigDocument :=
  ⟨.object [("note", .string word)], rfl⟩

def moment (n : Fin 4) : Instant :=
  ⟨10 ^ 15 + n, by omega, by omega⟩

theorem hasSixteenDigits_moment (n : Fin 4) : (moment n).HasSixteenDigits := by
  constructor <;> simp only [moment] <;> omega

def noted (t : ConfigTable) (n : Fin 4) (word : String) (expected : Option String) : ConfigTable :=
  ((Service.writeConfig (noting word) expected "root").perform default
    (t.keeping (moment n))).2.config

def note (n : Fin 4) (word : String) : DatedVersion :=
  ⟨moment n, .written (noting word) "root" (moment n)⟩

theorem Written.noted {t : ConfigTable} {written : List DatedVersion} {n : Fin 4} {word : String}
    {expected : Option String} (before : t.Written written)
    (admits : t.Admits (moment n) (noting word) expected "root")
    (later : ∀ r ∈ written, r.instant.micros < (moment n).micros) :
    (t.noted n word expected).Written (note n word :: written) := by
  have answers := t.answers_keeping (moment n)
  obtain ⟨left, run, -⟩ := Service.perform_writeConfig default answers admits
  rw [ConfigTable.noted, run]
  exact .write before answers run (hasSixteenDigits_moment n) later

def released : ConfigTable :=
  let drafted := empty.noted 0 "draft" none
  let revised := drafted.noted 1 "revision" (some (noting "draft").checksum)
  revised.noted 2 "release" (some (noting "revision").checksum)

theorem written_released :
    released.Written [note 2 "release", note 1 "revision", note 0 "draft"] := by
  have named : Text.isAllBlank "root" = false := by decide
  have free : empty.Admits (moment 0) (noting "draft") none "root" :=
    ⟨named, rfl, fun _ => nofun, fun held => absurd rfl held⟩
  have revises : (noting "draft").same (noting "revision") = false := by decide +kernel
  have releases : (noting "revision").same (noting "release") = false := by decide +kernel
  have drafted := Written.start.noted free fun _ among => nomatch among
  have later : ∀ r ∈ [note 0 "draft"], r.instant.micros < (moment 1).micros := by decide
  have admitted := drafted.holdsReplaced.admits named revises later (hasSixteenDigits_moment 1)
  have revised := drafted.noted admitted later
  have later : ∀ r ∈ [note 1 "revision", note 0 "draft"],
      r.instant.micros < (moment 2).micros := by decide
  have admitted := revised.holdsReplaced.admits named releases later (hasSixteenDigits_moment 2)
  exact revised.noted admitted later

theorem released_lists_revision :
    (∃ left, (Service.archiveIds 1).perform default (released.keeping (moment 3)) =
      (.ok ["1000000000000002"], left)) ∧
    ∃ left, (Service.readArchived "1000000000000002").perform default
        (released.keeping (moment 3)) =
      (.ok { ConfigVersion.written (noting "revision") "root" (moment 1) with
        id := "1000000000000002" }, left) := by
  have history : (released.keeping (moment 3)).config.Written
      [note 2 "release", note 1 "revision", note 0 "draft"] := written_released
  have calm (kind : CallKind) : (released.keeping (moment 3)).Undisturbed kind :=
    World.undisturbed_of_unplanned rfl kind
  obtain ⟨-, -, -, listed, -, readBack⟩ :=
    history.lists_latest_first default (calm _) (calm _) (Nat.le_refl 1)
  have id : archiveId ⟨moment 2, (note 1 "revision").version⟩ = "1000000000000002" := by
    decide +kernel
  obtain ⟨-, left, read⟩ := readBack ⟨moment 2, (note 1 "revision").version⟩ List.mem_cons_self
  rw [row, id] at read
  refine ⟨?_, left, read⟩
  rw [← id]
  exact listed

end ConfigTable

end AccessBroker
