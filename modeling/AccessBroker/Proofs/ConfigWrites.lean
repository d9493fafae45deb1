import AccessBroker.Broker.Configuration
import AccessBroker.Proofs.Calls

/-! # Writing the configuration

A write is let through by four guards.  It archives the master and swaps in the
new version with two calls, and when nobody comes in between it does both or
neither: the archive is the last thing that can still refuse it.
-/

namespace AccessBroker

open World (Alike)

structure World.ConfigAnswers (w : World) : Prop where
  findConfig : w.Undisturbed .findConfig
  archiveConfig : w.Undisturbed .archiveConfig
  swapConfig : w.Undisturbed .swapConfig
  putConfigCopy : w.Undisturbed .putConfigCopy

theorem World.ConfigAnswers.rest {w left : World} (h : w.ConfigAnswers)
    (rest : LeftOver left.plan w.plan) : left.ConfigAnswers :=
  ⟨h.findConfig.rest rest, h.archiveConfig.rest rest, h.swapConfig.rest rest,
    h.putConfigCopy.rest rest⟩

/-- No moment is written like the id of the master. -/
theorem Text.intText_ne_masterId (i : Int) : intText i ≠ masterId := by
  intro same
  have letter : 'm' ∈ intChars i := by
    have chars : intChars i = masterId.toList := by rw [← same, intText, String.toList_ofList]
    rw [chars]
    decide
  have digit : 'm' ∈ natChars i.natAbs := by
    unfold intChars at letter
    split at letter
    · simpa using letter
    · exact letter
  exact absurd (isDigit_of_mem_natChars digit) (by decide)

theorem NonBlank.of_eq_ok {text : String} {name : NonBlank} (h : NonBlank.of text = .ok name) :
    name.text = text ∧ Text.isAllBlank text = false := by
  unfold NonBlank.of at h
  split at h
  · next named =>
    cases h
    exact ⟨rfl, named⟩
  · cases h

namespace ConfigTable

def commit (t : ConfigTable) (archiveId : String) (v : ConfigVersion) : ConfigTable :=
  match t.master? with
  | none => ⟨t.rows.insert masterId v⟩
  | some old => ⟨(t.rows.insert archiveId { old with id := archiveId }).insert masterId v⟩

/-- The version becomes the master, the old master is added to the archive under an id that was
free, and every other row stays. -/
structure Commits (before : ConfigTable) (archiveId : String) (v : ConfigVersion)
    (after : ConfigTable) : Prop where
  master : after.master? = some v
  archived : ∀ old, before.master? = some old →
    before.find? archiveId = none ∧ after.find? archiveId = some { old with id := archiveId }
  others : ∀ id, id ≠ masterId → (before.master? ≠ none → id ≠ archiveId) →
    after.find? id = before.find? id

variable {t stored : ConfigTable} {v : ConfigVersion}

theorem archive_eq_ok_iff :
    t.archive v = .ok stored ↔ t.find? v.id = none ∧ stored = ⟨t.rows.insert v.id v⟩ := by
  unfold archive
  cases t.find? v.id <;> simp [eq_comm]

theorem find?_eq_some_of_archive {e : Error} (h : t.archive v = .error e) : t.find? v.id ≠ none := by
  intro absent
  simp [archive, absent] at h

theorem find?_insert (t : ConfigTable) (id other : String) (v : ConfigVersion) :
    (⟨t.rows.insert id v⟩ : ConfigTable).find? other = if other = id then some v else t.find? other :=
  t.rows.get?_insert id other v

theorem swapMaster_of_eq {expected : Option String} (h : t.master?.map (·.checksum) = expected) :
    t.swapMaster expected v = (true, ⟨t.rows.insert masterId v⟩) :=
  if_pos h

theorem commits_commit {archiveId : String} (ne : archiveId ≠ masterId)
    (free : t.master? ≠ none → t.find? archiveId = none) :
    t.Commits archiveId v (t.commit archiveId v) := by
  unfold commit
  cases here : t.master? with
  | none =>
    refine ⟨?_, fun old was => ?_, fun id other _ => ?_⟩
    · rw [master?, find?_insert, if_pos rfl]
    · rw [here] at was
      cases was
    · rw [find?_insert, if_neg other]
  | some master =>
    refine ⟨?_, fun old was => ⟨free (by simp [here]), ?_⟩, fun id other apart => ?_⟩
    · rw [master?, find?_insert ⟨_⟩, if_pos rfl]
    · rw [here, Option.some.injEq] at was
      rw [find?_insert ⟨_⟩, if_neg ne, find?_insert, if_pos rfl, was]
    · have fresh : id ≠ archiveId := apart (by simp [here])
      rw [find?_insert ⟨_⟩, if_neg other, find?_insert, if_neg fresh]

end ConfigTable

def ConfigVersion.written (document : ConfigDocument) (author : String) (clock : Instant) :
    ConfigVersion :=
  ⟨masterId, document, document.checksum, author, clock.timestamp⟩

structure ConfigTable.Admits (t : ConfigTable) (clock : Instant) (document : ConfigDocument)
    (expected : Option String) (author : String) : Prop where
  named : Text.isAllBlank author = false
  current : t.master?.map (·.checksum) = expected
  changes : ∀ old, t.master? = some old → old.document.same document = false
  free : t.master? ≠ none → t.find? (Text.intText clock.micros) = none

namespace Service

variable {setup : Setup} {w : World} {bad : Error → World → Prop}

/-! ## The calls -/

theorem ends_findConfig {id : String} {good : Option ConfigVersion → World → Prop}
    (found : ∀ left, Alike w left → good (w.config.find? id) left)
    (failed : ∀ e left, w.effect .findConfig = .fail e → Alike w left → bad e left) :
    Ends setup w (findConfig? id) good bad := by
  simp only [findConfig?, ends_bind, ends_discard, ends_get, ends_pure]
  exact ends_meet (fun left alike _ => alike.config ▸ found left alike) failed

theorem ends_archiveConfig {v : ConfigVersion} {good : Unit → World → Prop}
    (archived : ∀ left, w.config.find? v.id = none →
      Alike { w with config := ⟨w.config.rows.insert v.id v⟩ } left → good () left)
    (failed : ∀ e left, w.effect .archiveConfig = .fail e ∨ w.config.find? v.id ≠ none →
      Alike w left → bad e left) :
    Ends setup w (archiveConfig v) good bad := by
  simp only [archiveConfig, ends_bind, ends_discard, ends_log, ends_get, ends_lift, ends_modify]
  refine ends_logged (fun left alike _ => ⟨fun table h => ?_, fun e h => ?_⟩) fun e left fails =>
    failed e left (.inl fails)
  · rw [alike.config] at h
    obtain ⟨free, rfl⟩ := ConfigTable.archive_eq_ok_iff.1 h
    exact archived _ free (alike.setConfig _)
  · rw [alike.config] at h
    exact failed e left (.inr (ConfigTable.find?_eq_some_of_archive h))
      alike

theorem ends_swapConfig {expected : Option String} {v : ConfigVersion} {good : Bool → World → Prop}
    (answered : ∀ left, Alike { w with config := (w.config.swapMaster expected v).2 } left →
      good (w.config.swapMaster expected v).1 left)
    (lost : ∀ left, w.effect .swapConfig = .lost → Alike w left → good false left)
    (failed : ∀ e left, w.effect .swapConfig = .fail e → Alike w left → bad e left) :
    Ends setup w (swapConfig expected v) good bad := by
  simp only [swapConfig, ends_bind, ends_log]
  refine ends_logged (fun left alike _ => ?_) failed
  split
  · next gone => exact lost left gone alike
  · rw [ends_modifyGet, alike.config]
    exact answered _ (alike.setConfig _)

theorem ends_getConfigCopy {good : Option ConfigVersion → World → Prop}
    (found : ∀ left, Alike w left → good w.configCopy left)
    (failed : ∀ e left, w.effect .getConfigCopy = .fail e → Alike w left → bad e left) :
    Ends setup w getConfigCopy? good bad := by
  simp only [getConfigCopy?, ends_bind, ends_discard, ends_get, ends_pure]
  exact ends_meet (fun left alike _ => alike.configCopy ▸ found left alike) failed

theorem ends_putConfigCopy {v : ConfigVersion} {good : PUnit → World → Prop}
    (copied : ∀ left, Alike { w with configCopy := some v } left → good ⟨⟩ left)
    (failed : ∀ e left, w.effect .putConfigCopy = .fail e → Alike w left → bad e left) :
    Ends setup w (putConfigCopy v) good bad := by
  simp only [putConfigCopy, ends_bind, ends_discard, ends_log, ends_modify]
  refine ends_logged (fun left alike _ => ?_) failed
  exact copied _ (alike.setConfigCopy _)

/-! ## One write -/

structure ConfigStays (w left : World) : Prop where
  table : left.config = w.config
  copy : left.configCopy = w.configCopy
  published : left.published = w.published

theorem ConfigStays.of_alike {left : World} (h : Alike w left) : ConfigStays w left :=
  ⟨h.config, h.configCopy, h.published⟩

/-- The version is the master, its predecessor is archived, and all that is read without the table
is of the version too. -/
structure Committed (w : World) (v : ConfigVersion) (left : World) : Prop where
  table : left.config = w.config.commit (Text.intText w.clock.micros) v
  copy : left.configCopy = some v
  published : left.published.checksum = some v.checksum

theorem publishIn_checksum (snapshot : ConfigSnapshot) (w : World) :
    (publishIn snapshot w).published.checksum = snapshot.checksum := by
  unfold publishIn
  split
  · next same => exact same
  · rfl

theorem publishIn_config (snapshot : ConfigSnapshot) (w : World) :
    (publishIn snapshot w).config = w.config ∧ (publishIn snapshot w).configCopy = w.configCopy := by
  unfold publishIn
  split <;> exact ⟨rfl, rfl⟩

theorem ends_adoptConfig {v : ConfigVersion} {good : Unit → World → Prop} (answers : w.ConfigAnswers)
    (adopted : ∀ left, left.config = w.config → left.configCopy = some v →
      left.published.checksum = some v.checksum → good () left) :
    Ends setup w (adoptConfig v) good bad := by
  simp only [adoptConfig, copyConfig, publish, ends_bind, ends_quietly, ends_modify]
  refine ends_putConfigCopy (fun left alike => ?_) fun e left fails _ => ?_
  · obtain ⟨config, copy⟩ := publishIn_config (.of v) left
    refine adopted _ ?_ ?_ (publishIn_checksum _ _)
    · rw [config, alike.config]
    · rw [copy, alike.configCopy]
  · exact (answers.putConfigCopy.not_fail fails).elim

theorem planWrite_eq_ok {current : Option ConfigVersion} {document : ConfigDocument}
    {expected : Option String} {author : String} {clock : Instant} {write : ConfigWrite}
    (h : planWrite current document expected author clock = .ok write) :
    current.map (·.checksum) = expected ∧
      (∀ old, current = some old → old.document.same document = false) ∧
      write.archived = current.map (fun v => { v with id := Text.intText clock.micros }) ∧
      write.version = .written document author clock := by
  simp only [planWrite] at h
  split at h
  · cases h
  · next current =>
    split at h
    · cases h
    · next differs =>
      cases h
      refine ⟨Decidable.not_not.1 current, fun old here => ?_, rfl, rfl⟩
      simpa [here] using differs

theorem planWrite_eq_error {t : ConfigTable} {document : ConfigDocument} {expected : Option String}
    {author : String} {clock : Instant} {e : Error}
    (h : planWrite t.master? document expected author clock = .error e) :
    ¬ t.Admits clock document expected author := by
  intro admits
  simp only [planWrite] at h
  rw [if_neg (not_not_intro admits.current)] at h
  have differs : t.master?.any (·.document.same document) = false := by
    cases here : t.master? with
    | none => rfl
    | some old => exact admits.changes old here
  rw [differs] at h
  cases h

/-- Nobody comes between the reading of the master and the swap. -/
theorem ends_swapIn {expected : Option String} {v : ConfigVersion} {lost : Error}
    {good : ConfigSnapshot → World → Prop} (answers : w.ConfigAnswers)
    (current : w.config.master?.map (·.checksum) = expected)
    (swapped : ∀ left, left.config = ⟨w.config.rows.insert masterId v⟩ → left.configCopy = some v →
      left.published.checksum = some v.checksum → good (.of v) left) :
    Ends setup w (do
      if ← swapConfig expected v then
        adoptConfig v
        return .of v
      else throw lost) good bad := by
  have swaps := ConfigTable.swapMaster_of_eq (v := v) current
  rw [ends_bind]
  refine ends_swapConfig (fun left alike => ?_) (fun left gone _ => ?_) fun e left fails _ => ?_
  · rw [swaps] at alike ⊢
    simp only [if_true, ends_bind, ends_pure]
    refine ends_adoptConfig (answers.rest alike.leftOver) fun after config copy published => ?_
    exact swapped after (config.trans alike.config) copy published
  · rw [answers.swapConfig.effect] at gone
    cases gone
  · exact (answers.swapConfig.not_fail fails).elim

/-- A write is admitted and does all that belongs to it, or it is not and does nothing. -/
theorem ends_writeConfig {document : ConfigDocument} {expected : Option String} {author : String}
    (answers : w.ConfigAnswers) :
    Ends setup w (writeConfig document expected author)
      (fun snapshot left => w.config.Admits w.clock document expected author ∧
        snapshot = .of (.written document author w.clock) ∧
        Committed w (.written document author w.clock) left)
      (fun _ left => ¬ w.config.Admits w.clock document expected author ∧ ConfigStays w left) := by
  simp only [writeConfig, ends_bind, ends_lift, ends_get]
  refine ⟨fun name h => ?_, fun e h => ⟨fun admits => ?_, .of_alike (.refl w)⟩⟩
  · obtain ⟨text, named⟩ := NonBlank.of_eq_ok h
    rw [text]
    refine ends_findConfig (fun found alike => ?_) fun e left fails _ => ?_
    · rw [alike.clock]
      refine ⟨fun write planned => ?_, fun e refused =>
        ⟨planWrite_eq_error refused, .of_alike alike⟩⟩
      obtain ⟨current, changes, archived, version⟩ := planWrite_eq_ok planned
      rw [archived, version]
      have rest := answers.rest alike.leftOver
      cases here : w.config.find? masterId with
      | none =>
        have absent : w.config.master? = none := here
        refine ends_swapIn rest (alike.config ▸ current) fun left config copy published => ?_
        rw [alike.config] at config
        refine ⟨⟨named, current, changes, fun held => absurd absent held⟩, rfl, ?_, copy, published⟩
        rw [config, ConfigTable.commit, absent]
      | some old =>
        simp only [Option.map_some, ends_bind]
        refine ends_archiveConfig (fun kept free alike' => ?_) fun e left why alike' => ?_
        · rw [alike.config] at free alike'
          have apart := Text.intText_ne_masterId w.clock.micros
          -- The archive has not touched the master that the swap is going to look at.
          have master : kept.config.master? = w.config.master? := by
            rw [alike'.config, ConfigTable.master?, ConfigTable.find?_insert, if_neg apart.symm]
            rfl
          refine ends_bind.1 (ends_swapIn (rest.rest alike'.leftOver) (master ▸ current)
            fun left config copy published => ?_)
          rw [alike'.config] at config
          refine ⟨⟨named, current, changes, fun _ => free⟩, rfl, ?_, copy, published⟩
          rw [config, ConfigTable.commit, ConfigTable.master?, here]
        · rcases why with fails | taken
          · exact (rest.archiveConfig.not_fail fails).elim
          · rw [alike.config] at taken
            have held : w.config.master? ≠ none := by simp [ConfigTable.master?, here]
            exact ⟨fun admits => taken (admits.free held), .of_alike (alike.trans alike')⟩
    · exact (answers.findConfig.not_fail fails).elim
  · simp [NonBlank.of, admits.named] at h

end Service

end AccessBroker
