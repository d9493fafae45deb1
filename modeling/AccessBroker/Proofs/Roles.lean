import AccessBroker.Broker.Roles
import AccessBroker.Proofs.Calls

/-! # Reading and changing roles

Reading a role writes the two tiers of roles and nothing else; changing one
writes the cloud and nothing else.
-/

namespace AccessBroker

namespace World

def AlikeButRoles (before after : World) : Prop :=
  ∃ cloud fast durable,
    Alike { before with cloud := cloud, fast := fast, durable := durable } after

namespace AlikeButRoles

variable {a b c : World}

theorem of_alike (h : Alike a b) : AlikeButRoles a b :=
  ⟨a.cloud, a.fast, a.durable, h⟩

theorem trans (hab : AlikeButRoles a b) (hbc : AlikeButRoles b c) : AlikeButRoles a c := by
  obtain ⟨_, _, _, hab⟩ := hab
  obtain ⟨cloud, fast, durable, hbc⟩ := hbc
  refine ⟨cloud, fast, durable, ?_, hbc.leftOver.trans hab.leftOver⟩
  rw [hbc.same, hab.same]

theorem requests (h : AlikeButRoles a b) : b.requests = a.requests := by
  obtain ⟨_, _, _, alike⟩ := h
  exact alike.requests

theorem now (h : AlikeButRoles a b) : b.now = a.now := by
  obtain ⟨_, _, _, alike⟩ := h
  exact alike.now

theorem directory (h : AlikeButRoles a b) : b.directory = a.directory := by
  obtain ⟨_, _, _, alike⟩ := h
  exact alike.directory

theorem eligible (h : AlikeButRoles a b) : b.eligible = a.eligible := by
  obtain ⟨_, _, _, alike⟩ := h
  exact alike.eligible

theorem leftOver (h : AlikeButRoles a b) : LeftOver b.plan a.plan := by
  obtain ⟨_, _, _, alike⟩ := h
  exact alike.leftOver

theorem setRequests (h : AlikeButRoles a b) (s : RequestStore) :
    AlikeButRoles { a with requests := s } { b with requests := s } := by
  obtain ⟨cloud, fast, durable, alike⟩ := h
  exact ⟨cloud, fast, durable, alike.setRequests s⟩

end AlikeButRoles

end World

def CallKind.onTiers : CallKind → Bool
  | .getFast | .putFast | .findDurable | .saveDurable | .purgeDurable => true
  | _ => false

def World.TiersAnswer (w : World) : Prop :=
  ∀ kind : CallKind, kind.onTiers = true → w.Undisturbed kind

theorem World.TiersAnswer.rest {w left : World} (h : w.TiersAnswer)
    (rest : LeftOver left.plan w.plan) : left.TiersAnswer :=
  fun kind tier => (h kind tier).rest rest

theorem World.AllAnswer.tiers {setup : Setup} {w : World} (h : w.AllAnswer setup) :
    w.TiersAnswer :=
  fun kind _ => h.undisturbed kind

namespace Service

open World (Alike AlikeButRoles)

/-- Reads a role from the tiers; one that only the durable tier has goes into the fast one too. -/
def readTiers (key : RoleKey) : Service (Option RoleDocument) := do
  match ← readFast key with
  | some role => return some role
  | none =>
    match ← readDurable key with
    | some role =>
      writeFast key role
      return some role
    | none => return none

/-- A role is read from the cloud if the tiers do not have it, or at once if it has to be. -/
theorem fetchRole_eq (key : RoleKey) (force : Bool) :
    fetchRole key force =
      if force then refreshRole key
      else (do
        match ← readTiers key with
        | some role => return some role
        | none => refreshRole key) := by
  unfold fetchRole readTiers
  split
  · rfl
  · simp only [bind_assoc]
    refine bind_congr fun fast => ?_
    cases fast with
    | some role => simp
    | none =>
      simp only [bind_assoc]
      refine bind_congr fun durable => ?_
      cases durable with
      | some role => simp
      | none => simp

section

variable {setup : Setup} {w : World} {bad : Error → World → Prop} {key : RoleKey}

/-! ## The tiers -/

theorem ends_getFast {good : Option FastEntry → World → Prop}
    (found : ∀ left, Alike w left → good (w.fast.get? key) left)
    (failed : ∀ e left, w.effect .getFast = .fail e → Alike w left → bad e left) :
    Ends setup w (getFast? key) good bad := by
  simp only [getFast?, ends_bind, ends_discard, ends_get, ends_pure]
  exact ends_meet (fun left alike _ => alike.fast ▸ found left alike) failed

theorem ends_findDurable {good : Option DurableRow → World → Prop}
    (found : ∀ left, Alike w left → good (w.durable.find? key) left)
    (failed : ∀ e left, w.effect .findDurable = .fail e → Alike w left → bad e left) :
    Ends setup w (findDurable? key) good bad := by
  simp only [findDurable?, ends_bind, ends_discard, ends_get, ends_pure]
  exact ends_meet (fun left alike _ => alike.durable ▸ found left alike) failed

theorem ends_saveDurable {row : DurableRow} {good : PUnit → World → Prop}
    (saved : ∀ left, Alike { w with durable := w.durable.save row } left → good ⟨⟩ left)
    (failed : ∀ e left, w.effect .saveDurable = .fail e → Alike w left → bad e left) :
    Ends setup w (saveDurable row) good bad := by
  simp only [saveDurable, ends_bind, ends_discard, ends_log, ends_modify]
  refine ends_logged (fun left alike _ => ?_) failed
  rw [alike.durable]
  exact saved _ (alike.setDurable _)

theorem ends_putFast {entry : FastEntry} {freshness : Nat} {good : PUnit → World → Prop}
    (written : ∀ left, Alike { w with fast := w.fast.insert key entry } left → good ⟨⟩ left)
    (failed : ∀ e left, w.effect .putFast = .fail e → Alike w left → bad e left) :
    Ends setup w (putFast key entry freshness) good bad := by
  simp only [putFast, ends_bind, ends_discard, ends_log, ends_modify]
  refine ends_logged (fun left alike _ => ?_) failed
  rw [alike.fast]
  exact written _ (alike.setFast _)

/-- What a role leaves in the fast tier when it is put there: itself, unless that is disturbed. -/
def Written (w : World) (key : RoleKey) (role : RoleDocument) (fast : FastTier) : Prop :=
  fast = w.fast.insert key ⟨role, w.now⟩ ∨ ¬ w.Undisturbed .putFast ∧ fast = w.fast

theorem Written.eq {role : RoleDocument} {fast : FastTier} (h : Written w key role fast)
    (calm : w.Undisturbed .putFast) : fast = w.fast.insert key ⟨role, w.now⟩ :=
  h.resolve_right fun disturbed => disturbed.1 calm

/-- It is the same for worlds that are alike. -/
theorem Written.of_alike {role : RoleDocument} {fast : FastTier} {left : World}
    (h : Written left key role fast) (same : left.fast = w.fast) (now : left.now = w.now)
    (rest : LeftOver left.plan w.plan) : Written w key role fast := by
  rw [Written, same, now] at h
  exact h.imp_right fun ⟨disturbed, same⟩ => ⟨fun calm => disturbed (calm.rest rest), same⟩

theorem ends_writeFast {role : RoleDocument} {good : Unit → World → Prop}
    (written : ∀ fast left, Written w key role fast → Alike { w with fast := fast } left →
      good () left) :
    Ends setup w (writeFast key role) good bad := by
  simp only [writeFast, ends_bind, ends_now, ends_settings, ends_quietly]
  exact ends_putFast (fun left alike => written _ left (.inl rfl) alike)
    fun e left fails alike => written w.fast left (.inr ⟨fun calm => calm.not_fail fails, rfl⟩) alike

/-- The fast tier gives what it holds while that is fresh, unless it is disturbed. -/
theorem ends_readFast {good : Option RoleDocument → World → Prop}
    (fresh : ∀ entry left, w.fast.get? key = some entry →
      isFresh setup.settings w.now entry = true → Alike w left → good (some entry.role) left)
    (stale : ∀ left, (w.Undisturbed .getFast → ∀ entry, w.fast.get? key = some entry →
      isFresh setup.settings w.now entry = false) → Alike w left → good none left) :
    Ends setup w (readFast key) good bad := by
  simp only [readFast, ends_bind, ends_tryCatch]
  refine ends_getFast (fun left alike => ?_) fun e left fails alike => ?_
  · simp only [ends_settings, ends_now, alike.now]
    cases here : w.fast.get? key with
    | none => exact stale left (fun _ entry h => by rw [here] at h; cases h) alike
    | some entry =>
      simp only [ends_pure]
      split
      · next isFresh => exact fresh entry left here isFresh alike
      · next notFresh =>
        refine stale left (fun _ other h => ?_) alike
        rw [here] at h
        cases h
        exact eq_false_of_ne_true notFresh
  · exact stale left (fun calm => (calm.not_fail fails).elim) alike

/-- The durable tier gives what its row says until the row runs out, unless it is disturbed. -/
theorem ends_readDurable {good : Option RoleDocument → World → Prop}
    (lasting : ∀ row role left, w.durable.find? key = some row → w.now < row.expiry →
      RoleDocument.ofPolicyText row.policy = .ok role → Alike w left → good (some role) left)
    (missed : ∀ left, (∀ row, w.durable.find? key = some row → ¬ w.now < row.expiry) →
      Alike w left → good none left)
    (unread : ∀ e left, (w.Undisturbed .findDurable → ∃ row, w.durable.find? key = some row ∧
      w.now < row.expiry ∧ RoleDocument.ofPolicyText row.policy = .error e) →
      Alike w left → bad e left) :
    Ends setup w (readDurable key) good bad := by
  simp only [readDurable, ends_bind]
  refine ends_findDurable (fun left alike => ?_) fun e left fails alike =>
    unread e left (fun calm => (calm.not_fail fails).elim) alike
  cases here : w.durable.find? key with
  | none => exact missed left (fun row h => by rw [here] at h; cases h) alike
  | some row =>
    simp only [ends_bind, ends_now, alike.now]
    split
    · next ranOut =>
      refine missed left (fun other h => ?_) alike
      rw [here] at h
      cases h
      exact Int.not_lt.2 ranOut
    · next lasts =>
      have lasts : w.now < row.expiry := Int.not_le.1 lasts
      simp only [ends_bind, ends_lift, ends_pure]
      exact ⟨fun role parsed => lasting row role left here lasts parsed alike,
        fun e unparsed => unread e left (fun _ => ⟨row, here, lasts, unparsed⟩) alike⟩

/-- The tiers give what is fresh in the fast one or lasts in the durable one. -/
theorem ends_readTiers {good : Option RoleDocument → World → Prop} (answers : w.TiersAnswer)
    (fresh : ∀ entry left, w.fast.get? key = some entry →
      isFresh setup.settings w.now entry = true → Alike w left → good (some entry.role) left)
    (lasting : ∀ row role left,
      (∀ entry, w.fast.get? key = some entry → isFresh setup.settings w.now entry = false) →
      w.durable.find? key = some row → w.now < row.expiry →
      RoleDocument.ofPolicyText row.policy = .ok role →
      Alike { w with fast := w.fast.insert key ⟨role, w.now⟩ } left → good (some role) left)
    (missed : ∀ left,
      (∀ entry, w.fast.get? key = some entry → isFresh setup.settings w.now entry = false) →
      (∀ row, w.durable.find? key = some row → ¬ w.now < row.expiry) → Alike w left →
      good none left)
    (unreadable : ∀ row e left,
      (∀ entry, w.fast.get? key = some entry → isFresh setup.settings w.now entry = false) →
      w.durable.find? key = some row → w.now < row.expiry →
      RoleDocument.ofPolicyText row.policy = .error e → Alike w left → bad e left) :
    Ends setup w (readTiers key) good bad := by
  simp only [readTiers, ends_bind]
  refine ends_readFast fresh fun read stale alike => ?_
  have stale := stale (answers .getFast rfl)
  simp only [ends_bind]
  refine ends_readDurable (fun row role left here lasts parsed alike' => ?_)
    (fun left ranOut alike' => ?_) fun e left unread alike' => ?_
  · rw [alike.durable] at here
    rw [alike.now] at lasts
    have alike := alike.trans alike'
    simp only [ends_bind, ends_pure]
    refine ends_writeFast fun fast after put alike'' => ?_
    obtain rfl := (put.of_alike alike.fast alike.now alike.leftOver).eq (answers .putFast rfl)
    exact lasting row role after stale here lasts parsed ((alike.setFast _).trans alike'')
  · rw [alike.durable, alike.now] at ranOut
    exact missed left stale ranOut (alike.trans alike')
  · obtain ⟨row, here, lasts, unparsed⟩ := unread ((answers .findDurable rfl).rest alike.leftOver)
    rw [alike.durable] at here
    rw [alike.now] at lasts
    exact unreadable row e left stale here lasts unparsed (alike.trans alike')

theorem ends_purgeDurable {now : Timestamp} {good : Nat → World → Prop}
    (purged : ∀ left, Alike { w with durable := (w.durable.purge now).2 } left →
      good (w.durable.purge now).1 left)
    (failed : ∀ e left, w.effect .purgeDurable = .fail e → Alike w left → bad e left) :
    Ends setup w (purgeDurable now) good bad := by
  simp only [purgeDurable, ends_bind, ends_discard, ends_log, ends_modifyGet]
  refine ends_logged (fun left alike _ => ?_) failed
  rw [alike.durable]
  exact purged _ (alike.setDurable _)

/-! ## Reading from the cloud -/

/-- A role that the cloud shows is put into both tiers; otherwise they stay as they are. -/
theorem ends_refreshRole {good : Option RoleDocument → World → Prop}
    (missing : ∀ left, (w.Undisturbed .fetchRole → w.cloud.role? key = none) → Alike w left →
      good none left)
    (shown : ∀ d fast left, (w.Undisturbed .fetchRole → w.cloud.role? key = some d) →
      d.ensureDescribes key = .ok () →
      Written w key (finalize setup.settings w.now d) fast →
      Alike { w with
        fast := fast
        durable := w.durable.save
          (durableRow setup.settings key (finalize setup.settings w.now d)) } left →
      good (some (finalize setup.settings w.now d)) left)
    (failed : ∀ e left, (w.AllAnswer setup →
        ∃ d, w.cloud.role? key = some d ∧ d.ensureDescribes key ≠ .ok ()) → Alike w left →
      bad e left) :
    Ends setup w (refreshRole key) good bad := by
  simp only [refreshRole, ends_bind]
  refine ends_fetchCloudRole (fun answer read honest alike => ?_) fun e left disturbed alike =>
    failed e left (fun answers => absurd answers disturbed) alike
  cases answer with
  | none => exact missing read (fun calm => (honest calm).symm) alike
  | some d =>
    simp only [ends_bind, ends_lift, ends_settings, ends_now, ends_pure]
    refine ⟨fun _ describes => ?_, fun e differs => failed e read (fun answers => ?_) alike⟩
    · have now : read.now = w.now := alike.now
      refine ends_saveDurable (fun saved alike' => ?_) fun e left fails alike' =>
        failed e left (fun answers => ?_) (alike.trans alike')
      · rw [alike.durable, now] at alike'
        have kept := (alike.setDurable _).trans alike'
        refine ends_writeFast fun fast left put alike'' => ?_
        rw [now] at put ⊢
        exact shown d fast left (fun calm => (honest calm).symm) describes
          (put.of_alike kept.fast kept.now kept.leftOver) ((kept.setFast fast).trans alike'')
      · exact (((answers.undisturbed _).rest alike.leftOver).not_fail fails).elim
    · exact ⟨d, (honest (answers.undisturbed _)).symm, by simp [differs]⟩

structure Reread (setup : Setup) (w : World) (key : RoleKey) (d : RoleDocument) (left : World) :
    Prop where
  held : w.cloud.role? key = some d
  describes : d.ensureDescribes key = .ok ()
  fast : left.fast.get? key = some ⟨finalize setup.settings w.now d, w.now⟩
  durable : left.durable.find? key =
    some (durableRow setup.settings key (finalize setup.settings w.now d))

/-- What comes of reading a role from the cloud. -/
theorem ends_reread {good : Option RoleDocument → World → Prop}
    (read : ∀ role left, AlikeButRoles w left → left.cloud = w.cloud →
      (w.AllAnswer setup →
        ∃ d, role = finalize setup.settings w.now d ∧ Reread setup w key d left) →
      good (some role) left)
    (missing : ∀ left, (w.Undisturbed .fetchRole → w.cloud.role? key = none) → Alike w left →
      good none left)
    (failed : ∀ e left, (w.AllAnswer setup →
        ∃ d, w.cloud.role? key = some d ∧ d.ensureDescribes key ≠ .ok ()) → Alike w left →
      bad e left) :
    Ends setup w (fetchRole key true) good bad := by
  rw [fetchRole, if_pos rfl]
  refine ends_refreshRole missing (fun d fast left honest describes put alike => ?_) failed
  refine read _ left ⟨w.cloud, fast, _, alike⟩ alike.cloud fun answers => ⟨d, rfl, ?_⟩
  have put := put.eq (answers.undisturbed _)
  refine ⟨honest (answers.undisturbed _), describes, ?_, ?_⟩
  · rw [alike.fast, put, Registry.get?_insert, if_pos rfl]
  · rw [alike.durable]
    exact DurableTier.find?_save.trans (if_pos rfl)

end

/-! ## What reading and changing roles leaves alone -/

variable {setup : Setup} {p : World → Prop} {heeds : CallKind → Bool} {key : RoleKey}

/-- Neither the bookkeeping, but for the calls that matter, nor what the tiers hold under the key
matters to the property. -/
structure OverlooksTiers (heeds : CallKind → Bool) (key : RoleKey) (p : World → Prop) : Prop where
  books : OverlooksBut heeds p
  quiet : heeds .putFast = false ∧ heeds .saveDurable = false
  fast : ∀ w entry, p w → p { w with fast := w.fast.insert key entry }
  durable : ∀ w row, row.arn = key.arn → row.account = key.account → p w →
    p { w with durable := w.durable.save row }

theorem overlooksTiers_made {calls : List Call}
    (quiet : heeds .putFast = false ∧ heeds .saveDurable = false) (key : RoleKey) :
    OverlooksTiers heeds key fun w => made heeds w = calls where
  books := overlooks_made
  quiet := quiet
  fast _ _ h := h
  durable _ _ _ _ h := h

namespace Keeps

theorem fetchCloudRole (h : OverlooksBut heeds p) (unheeded : heeds .fetchRole = false)
    (key : RoleKey) : Keeps setup p (fetchCloudRole key) :=
  retried h _ (.fetchRole key.arn) unheeded fun effect w hw => by cases effect <;> exact hw

theorem getFast (h : OverlooksBut heeds p) (key : RoleKey) : Keeps setup p (getFast? key) :=
  .bind (.discard (.meet h _)) fun _ => .bind .get fun _ => .pure _

theorem putFast (h : OverlooksTiers heeds key p) (entry : FastEntry) (freshness : Nat) :
    Keeps setup p (putFast key entry freshness) :=
  .bind (.log h.books h.quiet.1) fun _ => .bind (.discard (.meet h.books _)) fun _ =>
    .modify fun w => h.fast w _

theorem findDurable (h : OverlooksBut heeds p) (key : RoleKey) : Keeps setup p (findDurable? key) :=
  .bind (.discard (.meet h _)) fun _ => .bind .get fun _ => .pure _

theorem saveDurable (h : OverlooksTiers heeds key p) {row : DurableRow} (arn : row.arn = key.arn)
    (account : row.account = key.account) : Keeps setup p (saveDurable row) :=
  .bind (.log h.books h.quiet.2) fun _ => .bind (.discard (.meet h.books _)) fun _ =>
    .modify fun w => h.durable w row arn account

theorem readFast (h : OverlooksBut heeds p) (key : RoleKey) : Keeps setup p (readFast key) := by
  refine .bind (.tryCatch (.getFast h key) fun _ => .pure _) fun entry =>
    .bind .settings fun settings => .bind .now fun now => ?_
  split
  · split <;> exact .pure _
  · exact .pure _

theorem readDurable (h : OverlooksBut heeds p) (key : RoleKey) : Keeps setup p (readDurable key) := by
  refine .bind (.findDurable h key) fun row => ?_
  split
  · exact .pure _
  · refine .bind .now fun now => ?_
    split
    · exact .pure _
    · exact .bind (.lift _) fun _ => .pure _

theorem writeFast (h : OverlooksTiers heeds key p) (role : RoleDocument) :
    Keeps setup p (writeFast key role) :=
  .bind .now fun _ => .bind .settings fun _ => .quietly (.putFast h _ _)

theorem refreshRole (h : OverlooksTiers heeds key p) (unheeded : heeds .fetchRole = false) :
    Keeps setup p (refreshRole key) := by
  refine .bind (.fetchCloudRole h.books unheeded key) fun shown => ?_
  split
  · exact .pure _
  · exact .bind (.lift _) fun _ => .bind .settings fun _ => .bind .now fun _ =>
      .bind .settings fun _ => .bind (.saveDurable h rfl rfl) fun _ =>
        .bind (.writeFast h _) fun _ => .pure _

theorem readTiers (h : OverlooksTiers heeds key p) : Keeps setup p (readTiers key) := by
  refine .bind (.readFast h.books key) fun fast => ?_
  split
  · exact .pure _
  · refine .bind (.readDurable h.books key) fun durable => ?_
    split
    · exact .bind (.writeFast h _) fun _ => .pure _
    · exact .pure _

/-- Whatever reading a role comes to, it leaves all but its own entries of the tiers alone. -/
theorem fetchRole (h : OverlooksTiers heeds key p) (unheeded : heeds .fetchRole = false)
    (force : Bool) : Keeps setup p (fetchRole key force) := by
  rw [fetchRole_eq]
  split
  · exact .refreshRole h unheeded
  · refine .bind (.readTiers h) fun role => ?_
    split
    · exact .pure _
    · exact .refreshRole h unheeded

theorem listCloudRoles (h : OverlooksBut heeds p) (unheeded : heeds .listRoleArns = false)
    (account : String) : Keeps setup p (listCloudRoles account) :=
  retried h _ (.listRoleArns account) unheeded fun effect w hw => by cases effect <;> exact hw

/-- Reading several roles leaves alone what reading each of them does. -/
theorem refreshRoles {account : String} {arns : List String}
    (each : ∀ arn ∈ arns, ∀ key, RoleKey.of account arn = .ok key →
      Keeps setup p (Service.fetchRole key true))
    (summary : AccountRefresh) : Keeps setup p (refreshRoles account summary arns) := by
  induction arns generalizing summary with
  | nil => exact .pure _
  | cons arn rest ih =>
    have first : Keeps setup p (Service.lift (RoleKey.of account arn) >>= fun key =>
        Service.fetchRole key true) := by
      cases own : RoleKey.of account arn with
      | error e => exact of_ends fun _ hw => hw
      | ok key =>
        rw [Service.lift, pure_bind]
        exact each arn List.mem_cons_self key own
    unfold Service.refreshRoles
    simp only [← bind_assoc]
    refine .bind (.tryCatch (.bind first fun role => .pure _) fun e => .pure _) fun outcome =>
      ih (fun other hm => each other (List.mem_cons_of_mem _ hm)) _

/-- Reading all roles of an account leaves alone what reading each listed role does. -/
theorem refreshAccount {account : String} {w : World} (books : Overlooks p)
    (each : ∀ arns left, (Service.listCloudRoles account).perform setup w = (.ok arns, left) →
      ∀ arn ∈ arns, ∀ key, RoleKey.of account arn = .ok key →
        Keeps setup p (Service.fetchRole key true))
    (hw : p w) : p ((Service.refreshAccount account).perform setup w).2 := by
  have listed : p ((Service.listCloudRoles account).perform setup w).2 :=
    Keeps.listCloudRoles books rfl account w hw
  rw [Service.refreshAccount, perform_bind]
  split
  · next arns left run =>
    rw [run] at listed
    exact Keeps.refreshRoles (each arns left run) .none left listed
  · next e left run =>
    rw [run] at listed
    exact listed

theorem changeCloud {change : Cloud → Except Error Cloud}
    (h : ∀ w cloud, p w → p { w with cloud := cloud }) {w : World} (hw : p w) :
    p (changeCloud change w).2 := by
  unfold Service.changeCloud
  split
  · exact h w _ hw
  · exact hw

end Keeps

end Service

end AccessBroker
