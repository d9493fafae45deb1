import AccessBroker.Proofs.ConfigWrites

/-! # The history of the configuration

Any number of services share one table.  Each works with a snapshot of its own,
which may lag behind the table, and with a fast tier that it may share with
others.  Whatever they read, write and refresh one after another, the table
holds every version that was ever committed: the last one as the master, the
others in the archive.
-/

namespace AccessBroker

open World (Alike)

/-! ## What a table holds -/

/-- A version as it was when it became the master. -/
def ConfigVersion.content (v : ConfigVersion) : ConfigVersion :=
  { v with id := masterId }

namespace ConfigTable

def contents (t : ConfigTable) : List ConfigVersion :=
  t.rows.toList.map fun row => row.2.content

/-- The table holds the versions and no others, each as often as it was committed, and the last of
them is the master. -/
structure Holds (t : ConfigTable) (committed : List ConfigVersion) : Prop where
  all : t.contents.Perm committed
  last : t.master? = committed.getLast?

variable {t : ConfigTable} {v : ConfigVersion} {committed : List ConfigVersion} {archiveId : String}

theorem holds_empty : empty.Holds [] := ⟨.refl _, rfl⟩

/-- A write adds its version to what the table holds: the old master only changes its place. -/
theorem perm_contents_commit (ne : archiveId ≠ masterId)
    (free : t.master? ≠ none → t.find? archiveId = none) :
    (t.commit archiveId v).contents.Perm (v.content :: t.contents) := by
  unfold commit
  cases here : t.master? with
  | none =>
    exact (Table.perm_place_of_lookup_eq_none here).map _
  | some old =>
    let row : ConfigVersion := { old with id := archiveId }
    have archived : (Table.place archiveId row t.rows.toList).Perm
        ((archiveId, row) :: t.rows.toList) :=
      Table.perm_place_of_lookup_eq_none (free (by simp [here]))
    have master : (Table.place archiveId row t.rows.toList).lookup masterId = some old := by
      rw [Table.lookup_place, if_neg ne.symm]
      exact here
    obtain ⟨others, before, after⟩ :=
      Table.perm_place_of_lookup_eq_some (Table.pairwise_place t.rows.ascending) master
    -- Without the master, what is left after the archiving is what was there before it.
    have moved : (old.content :: t.contents).Perm
        (old.content :: others.map fun row => row.2.content) :=
      (archived.symm.trans before).map fun row : String × ConfigVersion => row.2.content
    exact (after.map _).trans (moved.cons_inv.symm.cons _)

theorem Holds.commit (holds : t.Holds committed) (written : v.id = masterId)
    (ne : archiveId ≠ masterId) (free : t.master? ≠ none → t.find? archiveId = none) :
    (t.commit archiveId v).Holds (committed ++ [v]) where
  all := by
    have content : v.content = v := by rw [ConfigVersion.content, ← written]
    have added := perm_contents_commit (v := v) ne free
    rw [content] at added
    exact (added.trans (holds.all.cons v)).trans (List.perm_append_singleton v committed).symm
  last := by rw [(commits_commit ne free).master, List.getLast?_concat]

/-- A write leaves every row of the archive as it is. -/
theorem Commits.kept {after : ConfigTable} (commits : t.Commits archiveId v after) {id : String}
    {row : ConfigVersion} (archived : id ≠ masterId) (here : t.find? id = some row) :
    after.find? id = some row := by
  rw [commits.others id archived fun held => ?_, here]
  rintro rfl
  obtain ⟨old, was⟩ := Option.ne_none_iff_exists'.1 held
  rw [(commits.archived old was).1] at here
  cases here

end ConfigTable

/-! ## Calls of one service -/

inductive ConfigCall where
  | read
  | write (document : ConfigDocument) (expected : Option String) (author : String)
  | refresh

namespace ConfigCall

def after (setup : Setup) (w : World) : ConfigCall → World
  | read => (Service.readConfig.perform setup w).2
  | write document expected author =>
    ((Service.writeConfig document expected author).perform setup w).2
  | refresh => (Service.refreshConfig.perform setup w).2

/-- The version that a call commits: that of a write which succeeds. -/
def commits (setup : Setup) (w : World) : ConfigCall → List ConfigVersion
  | write document expected author =>
    match (Service.writeConfig document expected author).perform setup w with
    | (.ok _, _) => [.written document author w.clock]
    | (.error _, _) => []
  | read | refresh => []

end ConfigCall

namespace Service

variable {setup : Setup} {w : World} {document : ConfigDocument} {expected : Option String}
  {author : String}

theorem overlooks_config (t : ConfigTable) : Overlooks fun w => w.config = t :=
  fun _ _ alike _ same => alike.config.trans same

section

variable {p : World → Prop} {heeds : CallKind → Bool}

theorem Keeps.findConfig (h : OverlooksBut heeds p) (id : String) :
    Keeps setup p (findConfig? id) :=
  .bind (.discard (.meet h _)) fun _ => .bind .get fun _ => .pure _

theorem Keeps.publish (published : ∀ w s n, p w → p { w with published := s, publications := n })
    (snapshot : ConfigSnapshot) : Keeps setup p (publish snapshot) := by
  refine .modify fun w hw => ?_
  unfold publishIn
  split
  · exact hw
  · exact published w _ _ hw

theorem Keeps.readConfig (books : OverlooksBut heeds p)
    (published : ∀ w s n, p w → p { w with published := s, publications := n }) :
    Keeps setup p readConfig := by
  refine .bind (.findConfig books _) fun found => ?_
  cases found with
  | none => exact .bind (.publish published _) fun _ => .pure _
  | some v => exact .bind (.publish published _) fun _ => .pure _

theorem Keeps.adoptConfig (books : OverlooksBut heeds p) (quiet : heeds .putConfigCopy = false)
    (copied : ∀ w v, p w → p { w with configCopy := v })
    (published : ∀ w s n, p w → p { w with published := s, publications := n })
    (v : ConfigVersion) : Keeps setup p (adoptConfig v) := by
  have put : Keeps setup p (putConfigCopy v) :=
    .bind (.log books quiet) fun _ => .bind (.discard (.meet books _)) fun _ =>
      .modify fun w => copied w _
  exact .bind (.quietly put) fun _ => .publish published _

end

theorem Keeps.refreshConfig (t : ConfigTable) : Keeps setup (fun w => w.config = t) refreshConfig := by
  refine .bind (.findConfig (overlooks_config t) _) fun found => ?_
  cases found with
  | none => exact .pure _
  | some v =>
    refine .bind .get fun w => ?_
    split
    · exact .pure _
    · exact .bind (.adoptConfig (overlooks_config t) rfl (fun _ _ same => same)
        (fun _ _ _ same => same) v) fun _ => .pure _

/-- An admitted write succeeds. -/
theorem perform_writeConfig (setup : Setup) (answers : w.ConfigAnswers)
    (admits : w.config.Admits w.clock document expected author) :
    ∃ left, (writeConfig document expected author).perform setup w =
        (.ok (.of (.written document author w.clock)), left) ∧
      Committed w (.written document author w.clock) left := by
  have ends : Ends setup w (writeConfig document expected author)
      (fun snapshot left => snapshot = .of (.written document author w.clock) ∧
        Committed w (.written document author w.clock) left)
      fun _ _ => False :=
    (ends_writeConfig answers).mono (fun _ _ h => h.2) fun _ _ h => h.1 admits
  obtain ⟨snapshot, left, run, rfl, committed⟩ := ends.ok
  exact ⟨left, run, committed⟩

/-- A write that is not admitted fails and changes nothing. -/
theorem perform_writeConfig_refused (setup : Setup) (answers : w.ConfigAnswers)
    (refused : ¬ w.config.Admits w.clock document expected author) :
    ∃ e left, (writeConfig document expected author).perform setup w = (.error e, left) ∧
      ConfigStays w left := by
  have ends : Ends setup w (writeConfig document expected author) (fun _ _ => False)
      fun _ left => ConfigStays w left :=
    (ends_writeConfig answers).mono (fun _ _ h => refused h.1) fun _ _ h => h.2
  exact ends.error

end Service

namespace ConfigCall

variable {setup : Setup} {w : World} {c : ConfigCall} {committed : List ConfigVersion}

/-- A call commits one version or leaves the table as it is. -/
theorem after_config (setup : Setup) (c : ConfigCall) (answers : w.ConfigAnswers) :
    (c.commits setup w = [] ∧ (c.after setup w).config = w.config) ∨
    ∃ v archiveId, c.commits setup w = [v] ∧ v.id = masterId ∧ archiveId ≠ masterId ∧
      (w.config.master? ≠ none → w.config.find? archiveId = none) ∧
      (c.after setup w).config = w.config.commit archiveId v := by
  cases c with
  | read => exact .inl ⟨rfl, Service.Keeps.readConfig (Service.overlooks_config w.config)
      (fun _ _ _ same => same) w rfl⟩
  | refresh => exact .inl ⟨rfl, Service.Keeps.refreshConfig w.config w rfl⟩
  | write document expected author =>
    by_cases admits : w.config.Admits w.clock document expected author
    · obtain ⟨left, run, done⟩ := Service.perform_writeConfig setup answers admits
      refine .inr ⟨.written document author w.clock, Text.intText w.clock.micros, ?_, rfl,
        Text.intText_ne_masterId _, admits.free, ?_⟩
      · simp only [commits, run]
      · rw [after, run]
        exact done.table
    · obtain ⟨e, left, run, stays⟩ := Service.perform_writeConfig_refused setup answers admits
      refine .inl ⟨?_, ?_⟩
      · simp only [commits, run]
      · rw [after, run]
        exact stays.table

theorem holds_after (answers : w.ConfigAnswers) (holds : w.config.Holds committed) :
    (c.after setup w).config.Holds (committed ++ c.commits setup w) := by
  rcases c.after_config setup answers with ⟨none, same⟩ | ⟨v, id, one, written, ne, free, stored⟩
  · rw [none, List.append_nil, same]
    exact holds
  · rw [one, stored]
    exact holds.commit written ne free

theorem kept_after (answers : w.ConfigAnswers) {id : String} {row : ConfigVersion}
    (archived : id ≠ masterId) (here : w.config.find? id = some row) :
    (c.after setup w).config.find? id = some row := by
  rcases c.after_config setup answers with ⟨-, same⟩ | ⟨v, new, -, -, ne, free, stored⟩
  · rw [same]
    exact here
  · rw [stored]
    exact (ConfigTable.commits_commit ne free).kept archived here

end ConfigCall

/-! ## Runs of many services -/

/-- What some services have of the configuration: the table, their fast tiers, and the snapshot
that each of them works with. -/
structure Fleet (ι τ : Type) where
  table : ConfigTable
  copies : τ → Option ConfigVersion
  published : ι → ConfigSnapshot

namespace Fleet

variable {ι τ : Type} {tier : ι → τ} {start f : Fleet ι τ} {committed : List ConfigVersion}

def seenBy (f : Fleet ι τ) (tier : ι → τ) (i : ι) (around : World) : World :=
  { around with config := f.table, configCopy := f.copies (tier i), published := f.published i }

theorem answers_seenBy {around : World} (answers : around.ConfigAnswers) (i : ι) :
    (f.seenBy tier i around).ConfigAnswers :=
  ⟨answers.findConfig, answers.archiveConfig, answers.swapConfig, answers.putConfigCopy⟩

variable [DecidableEq ι] [DecidableEq τ]

/-- The fleet when a service leaves its share as a world shows it. -/
def leftBy (f : Fleet ι τ) (tier : ι → τ) (i : ι) (left : World) : Fleet ι τ where
  table := left.config
  copies t := if t = tier i then left.configCopy else f.copies t
  published j := if j = i then left.published else f.published j

/-- The fleets that calls reach one after another, with the versions committed on the way.  Each
service is called at any time, under any setup, with tables and tiers that answer. -/
inductive Run (tier : ι → τ) (start : Fleet ι τ) : Fleet ι τ → List ConfigVersion → Prop where
  | start : Run tier start start []
  | call {f : Fleet ι τ} {committed : List ConfigVersion} (run : Run tier start f committed) (i : ι)
      (setup : Setup) (around : World) (answers : around.ConfigAnswers) (c : ConfigCall) :
      Run tier start (f.leftBy tier i (c.after setup (f.seenBy tier i around)))
        (committed ++ c.commits setup (f.seenBy tier i around))

theorem Run.holds (run : Run tier start f committed) (empty : start.table = .empty) :
    f.table.Holds committed := by
  induction run with
  | start =>
    rw [empty]
    exact ConfigTable.holds_empty
  | call _ i setup around answers c ih => exact ConfigCall.holds_after (answers_seenBy answers i) ih

theorem Run.kept (run : Run tier start f committed) {id : String} {row : ConfigVersion}
    (archived : id ≠ masterId) (here : start.table.find? id = some row) :
    f.table.find? id = some row := by
  induction run with
  | start => exact here
  | call _ i setup around answers c ih =>
    exact ConfigCall.kept_after (answers_seenBy answers i) archived ih

/-- Along every run from an empty table, the table holds every version that was committed, the last
one as the master, and rows of the archive stay as they are for good.  A write of any service goes
through exactly when the table admits it: then its version becomes the master and everything that
the writer reads, and its predecessor a row of the archive.  Otherwise nothing is changed. -/
theorem Run.history (run : Run tier start f committed) (empty : start.table = .empty) :
    f.table.contents.Perm committed ∧ f.table.master? = committed.getLast? ∧
    (∀ later more, Run tier f later more → ∀ id row, id ≠ masterId →
      f.table.find? id = some row → later.table.find? id = some row) ∧
    ∀ i setup (around : World), around.ConfigAnswers → ∀ document expected author,
      let w := f.seenBy tier i around
      let v := ConfigVersion.written document author around.clock
      let archiveId := Text.intText around.clock.micros
      (f.table.Admits around.clock document expected author →
        ∃ left, (Service.writeConfig document expected author).perform setup w =
            (.ok (.of v), left) ∧
          f.table.Commits archiveId v left.config ∧ left.configCopy = some v ∧
          left.published.checksum = some v.checksum) ∧
      (¬ f.table.Admits around.clock document expected author →
        ∃ e left, (Service.writeConfig document expected author).perform setup w =
            (.error e, left) ∧ Service.ConfigStays w left) := by
  have holds : f.table.Holds committed := run.holds empty
  refine ⟨holds.all, holds.last, fun later more on id row archived here => on.kept archived here, ?_⟩
  intro i setup around answers document expected author w v archiveId
  have calm : w.ConfigAnswers := answers_seenBy answers i
  refine ⟨fun admits => ?_, fun refused => Service.perform_writeConfig_refused setup calm refused⟩
  obtain ⟨left, performed, done⟩ := Service.perform_writeConfig setup calm admits
  refine ⟨left, performed, ?_, done.copy, done.published⟩
  rw [done.table]
  exact ConfigTable.commits_commit (Text.intText_ne_masterId _) admits.free

def unwritten : Fleet Bool Bool := ⟨.empty, fun _ => none, fun _ => .none⟩

def firstWritten : Fleet Bool Bool :=
  unwritten.leftBy id true
    (ConfigCall.after default (unwritten.seenBy id true default) (.write .empty none "root"))

/-- The other one, which has not heard of it, cannot write a first configuration again. -/
theorem Run.second_first_write_refused :
    firstWritten.table.master? = some (.written .empty "root" default) ∧
    ∃ e left, (Service.writeConfig .empty none "mallory").perform default
        (firstWritten.seenBy id false default) = (.error e, left) ∧
      left.config = firstWritten.table := by
  have answers : (default : World).ConfigAnswers := by
    constructor <;> exact World.undisturbed_of_unplanned rfl _
  have run : Run id unwritten firstWritten [.written .empty "root" default] :=
    .call .start true default default answers (.write .empty none "root")
  obtain ⟨-, master, -, writes⟩ := run.history rfl
  refine ⟨master, ?_⟩
  obtain ⟨e, left, performed, stays⟩ := (writes false default default answers .empty none
    "mallory").2 fun admits => by simpa [master] using admits.current
  exact ⟨e, left, performed, stays.table⟩

end Fleet

end AccessBroker
