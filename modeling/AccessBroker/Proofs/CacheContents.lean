import AccessBroker.Proofs.RoleAge

/-! # What the tiers hold

Whatever the cloud shows, only documents of the role that was asked for are put
into the tiers, each in the form in which readings are kept.  The fast tier is
written together with the durable one or from what it says, so the two never
tell different stories of a role.
-/

namespace AccessBroker

namespace Service

variable {settings : Settings} {w left : World} {key : RoleKey} {d r : RoleDocument}

/-! ## Documents that are kept -/

/-- A document that may stand in the tiers under a key. -/
structure Kept (settings : Settings) (key : RoleKey) (d : RoleDocument) : Prop where
  describes : d.ensureDescribes key = .ok ()
  /-- No policy is attached twice. -/
  ascending : d.managedPolicies.Pairwise fun a b => a.before b = true
  templated : d.templated = d.tags.get? settings.templateTag
  earliest : -8334601228800 ≤ d.fetchedAt.seconds
  latest : d.fetchedAt.seconds < 8210266876800

theorem kept_finalize (describes : d.ensureDescribes key = .ok ()) :
    Kept settings key (finalize settings w.now d) where
  describes := describes
  ascending := Attachment.pairwise_sort d.managedPolicies
  templated := rfl
  earliest := by
    rw [fetchedAt_finalize]
    exact le_seconds_now w
  latest := by
    rw [fetchedAt_finalize]
    exact seconds_now_lt w

/-- Reading back the text of a document changes nothing that it is kept for. -/
theorem Kept.readBack (kept : Kept settings key d)
    (h : RoleDocument.ofPolicyText d.policyText = .ok r) : Kept settings key r := by
  rw [RoleDocument.eq_of_policyText h]
  exact ⟨kept.describes, kept.ascending, kept.templated, kept.earliest, kept.latest⟩

structure ColumnsOf (settings : Settings) (key : RoleKey) (d : RoleDocument) (row : DurableRow) :
    Prop where
  arn : row.arn = key.arn
  account : row.account = key.account
  templated : row.templated = d.templated
  expiry : row.expiry.seconds = d.fetchedAt.seconds + settings.durableLifetime

theorem Kept.columns (kept : Kept settings key d) (short : settings.durableLifetime < 2 ^ 32) :
    ColumnsOf settings key d (durableRow settings key d) where
  arn := rfl
  account := rfl
  templated := rfl
  expiry := by
    -- No time of a reading is so far out that the sum is cut off.
    have earliest := kept.earliest
    have latest := kept.latest
    exact Timestamp.seconds_clamp (by omega) (by omega)

theorem ColumnsOf.readBack {row : DurableRow} (columns : ColumnsOf settings key d row)
    (h : RoleDocument.ofPolicyText d.policyText = .ok r) : ColumnsOf settings key r row := by
  rw [RoleDocument.eq_of_policyText h]
  exact ⟨columns.arn, columns.account, columns.templated, columns.expiry⟩

def Tells (d r : RoleDocument) : Prop :=
  r = d ∨ RoleDocument.ofPolicyText d.policyText = .ok r

theorem Tells.parsed (tells : Tells d r) (exact_ : r.toTree.exact = true)
    (fits : r.toTree.depth ≤ Json.maxDepth) : RoleDocument.ofPolicyText d.policyText = .ok r := by
  rcases tells with rfl | parsed
  · exact RoleDocument.ofPolicyText_policyText exact_ fits
  · exact parsed

/-! ## Tiers that agree -/

structure Coherent (settings : Settings) (w : World) : Prop where
  fast : ∀ key entry, w.fast.get? key = some entry → Kept settings key entry.role
  /-- If the fast tier has the role as well, it has what the row tells. -/
  durable : ∀ key row, w.durable.find? key = some row → ∃ d, Kept settings key d ∧
    row = durableRow settings key d ∧
    ∀ entry, w.fast.get? key = some entry → Tells d entry.role

namespace Coherent

theorem of_empty (fast : w.fast = .empty) (durable : w.durable = ⟨.empty⟩) :
    Coherent settings w where
  fast key entry here := by
    rw [fast] at here
    cases here
  durable key row here := by
    rw [durable] at here
    cases here

theorem of_same (h : Coherent settings w) (fast : left.fast = w.fast)
    (durable : left.durable = w.durable) : Coherent settings left where
  fast := by
    rw [fast]
    exact h.fast
  durable := by
    rw [fast, durable]
    exact h.durable

theorem alike (h : Coherent settings w) (alike : World.Alike w left) : Coherent settings left :=
  h.of_same alike.fast alike.durable

/-- Each role has a row of its own. -/
theorem find?_save_row {t : DurableTier} {other : RoleKey} :
    (t.save (durableRow settings key r)).find? other =
      if other = key then some (durableRow settings key r) else t.find? other := by
  have parts : (other.arn, other.account) = (key.arn, key.account) ↔ other = key :=
    ⟨fun eq => RoleKey.eq_of_parts (congrArg Prod.snd eq) (congrArg Prod.fst eq),
      fun eq => eq ▸ rfl⟩
  simp only [DurableTier.find?_save, durableRow, parts]

/-- A document is put into both tiers at once. -/
theorem reread (h : Coherent settings w) (kept : Kept settings key r) (t : Timestamp) :
    Coherent settings { w with
      fast := w.fast.insert key ⟨r, t⟩
      durable := w.durable.save (durableRow settings key r) } where
  fast other entry here := by
    rw [Registry.get?_insert] at here
    by_cases same : other = key
    · rw [if_pos same] at here
      cases here
      exact same ▸ kept
    · rw [if_neg same] at here
      exact h.fast other entry here
  durable other row here := by
    rw [find?_save_row] at here
    by_cases same : other = key
    · subst same
      rw [if_pos rfl] at here
      cases here
      refine ⟨r, kept, rfl, fun entry there => ?_⟩
      rw [Registry.get?_insert, if_pos rfl] at there
      cases there
      exact .inl rfl
    · rw [if_neg same] at here
      rw [Registry.get?_insert, if_neg same]
      exact h.durable other row here

/-- What a row says is put into the fast tier. -/
theorem renewed {row : DurableRow} (h : Coherent settings w) (here : w.durable.find? key = some row)
    (parsed : RoleDocument.ofPolicyText row.policy = .ok r) (t : Timestamp) :
    Coherent settings { w with fast := w.fast.insert key ⟨r, t⟩ } := by
  obtain ⟨d, kept, rfl, -⟩ := h.durable key row here
  have read : RoleDocument.ofPolicyText d.policyText = .ok r := parsed
  refine ⟨fun other entry there => ?_, fun other row there => ?_⟩
  · rw [Registry.get?_insert] at there
    split at there
    · next same =>
      cases there
      exact same ▸ kept.readBack read
    · exact h.fast other entry there
  · by_cases same : other = key
    · subst same
      cases here.symm.trans there
      refine ⟨d, kept, rfl, fun entry found => ?_⟩
      rw [Registry.get?_insert, if_pos rfl] at found
      cases found
      exact .inr read
    · rw [Registry.get?_insert, if_neg same]
      exact h.durable other row there

theorem purged (h : Coherent settings w) (now : Timestamp) :
    Coherent settings { w with durable := (w.durable.purge now).2 } where
  fast := h.fast
  durable key row here := by
    exact h.durable key row (DurableTier.find?_of_purge here)

end Coherent

/-! ## Services that keep them so -/

variable {setup : Setup}

def Agrees (settings : Settings) (w : World) : Prop :=
  Coherent settings w ∧ w.Undisturbed .putFast

theorem Agrees.alike (h : Agrees settings w) (alike : World.Alike w left) : Agrees settings left :=
  ⟨h.1.alike alike, h.2.rest alike.leftOver⟩

theorem keeps_agrees_refreshRole (key : RoleKey) :
    Keeps setup (Agrees setup.settings) (refreshRole key) := by
  refine .of_ends fun w h => ?_
  refine ends_refreshRole (fun left _ alike => h.alike alike)
    (fun d fast left _ describes put alike => ?_) fun _ left _ alike => h.alike alike
  obtain rfl := put.eq h.2
  have reread : Agrees setup.settings { w with
      fast := w.fast.insert key ⟨finalize setup.settings w.now d, w.now⟩
      durable := w.durable.save
        (durableRow setup.settings key (finalize setup.settings w.now d)) } :=
    ⟨h.1.reread (kept_finalize describes) w.now, h.2⟩
  exact reread.alike alike

theorem keeps_agrees_readTiers (key : RoleKey) :
    Keeps setup (Agrees setup.settings) (readTiers key) := by
  refine .of_ends fun w h => ?_
  simp only [readTiers, ends_bind]
  refine ends_readFast (fun entry left _ _ alike => h.alike alike) fun read _ alike => ?_
  have h := h.alike alike
  simp only [ends_bind]
  refine ends_readDurable (fun row role left here _ parsed alike' => ?_)
    (fun left _ alike' => h.alike alike') fun _ left _ alike' => h.alike alike'
  have h := h.alike alike'
  rw [← alike'.durable] at here
  simp only [ends_bind, ends_pure]
  refine ends_writeFast fun fast after put alike'' => ?_
  obtain rfl := put.eq h.2
  have renewed : Agrees setup.settings
      { left with fast := left.fast.insert key ⟨role, left.now⟩ } :=
    ⟨h.1.renewed here parsed left.now, h.2⟩
  exact renewed.alike alike''

theorem keeps_agrees_fetchRole (key : RoleKey) (force : Bool) :
    Keeps setup (Agrees setup.settings) (fetchRole key force) := by
  rw [fetchRole_eq]
  split
  · exact keeps_agrees_refreshRole key
  · refine .bind (keeps_agrees_readTiers key) fun found => ?_
    split
    · exact .pure _
    · exact keeps_agrees_refreshRole key

theorem aloof_agrees : Aloof setup (fun _ => false) (Agrees setup.settings) where
  books _ _ alike _ h := h.alike alike
  quiet _ _ := rfl
  requests _ _ h := ⟨h.1.of_same rfl rfl, h.2⟩
  directory _ _ h := ⟨h.1.of_same rfl rfl, h.2⟩
  cloud _ _ h := ⟨h.1.of_same rfl rfl, h.2⟩
  eligible _ _ h := ⟨h.1.of_same rfl rfl, h.2⟩
  drawn _ _ h := ⟨h.1.of_same rfl rfl, h.2⟩
  reading := keeps_agrees_fetchRole

end Service

open Service

theorem RoleCall.agrees_after {setup : Setup} {w : World} (c : RoleCall)
    (h : Agrees setup.settings w) : Agrees setup.settings (c.after setup w) := by
  cases c with
  | fetch key force => exact keeps_agrees_fetchRole key force w h
  | refreshAccount account =>
    exact Keeps.refreshAccount aloof_agrees.books
      (fun _ _ _ _ _ key _ => keeps_agrees_fetchRole key true) h
  | purge =>
    refine Ends.left (p := Agrees setup.settings) ?_
    simp only [purgeExpired, ends_bind, ends_now]
    refine ends_purgeDurable (fun left alike => ?_) fun _ left _ alike => h.alike alike
    have purged : Agrees setup.settings { w with durable := (w.durable.purge w.now).2 } :=
      ⟨h.1.purged w.now, h.2⟩
    exact purged.alike alike

theorem RequestCall.agrees_after {setup : Setup} {w : World} (c : RequestCall)
    (h : Agrees setup.settings w) : Agrees setup.settings (c.after setup w) :=
  c.keeps_after aloof_agrees rfl h

/-! ## Runs -/

/-- The worlds that calls of the role cache and calls about requests reach from empty tiers, of
which the fast one takes what it is given.  In between anything may change but the tiers: the clock,
and the roles that the cloud shows, whatever they describe. -/
inductive CacheRun (setup : Setup) : World → Prop where
  | start {w : World} (fast : w.fast = .empty) (durable : w.durable = ⟨.empty⟩) : CacheRun setup w
  | move {w moved : World} (run : CacheRun setup w) (fast : moved.fast = w.fast)
    (durable : moved.durable = w.durable) : CacheRun setup moved
  | roles {w : World} (run : CacheRun setup w) (takes : w.Undisturbed .putFast) (c : RoleCall) :
    CacheRun setup (c.after setup w)
  | requests {w : World} (run : CacheRun setup w) (takes : w.Undisturbed .putFast)
    (c : RequestCall) : CacheRun setup (c.after setup w)

namespace CacheRun

variable {setup : Setup} {w : World}

theorem coherent (run : CacheRun setup w) : Coherent setup.settings w := by
  induction run with
  | start fast durable => exact .of_empty fast durable
  | move _ fast durable ih => exact ih.of_same fast durable
  | roles _ takes c ih => exact (c.agrees_after ⟨ih, takes⟩).1
  | requests _ takes c ih => exact (c.agrees_after ⟨ih, takes⟩).1

/-- Every document in a tier is one of the role that it is kept for, with its attachments in order
and the template that its tags name.  The columns of a row are those of its document, which can be
read back, and a row tells what the fast tier has for the same role. -/
theorem tiers_agree (run : CacheRun setup w) (short : setup.settings.durableLifetime < 2 ^ 32) :
    (∀ key entry, w.fast.get? key = some entry → Kept setup.settings key entry.role) ∧
    (∀ key row, w.durable.find? key = some row → ∃ d, row.policy = d.policyText ∧
      (d.toTree.exact = true → d.toTree.depth ≤ Json.maxDepth →
        RoleDocument.ofPolicyText row.policy = .ok d) ∧
      ∀ r, r = d ∨ RoleDocument.ofPolicyText row.policy = .ok r →
        Kept setup.settings key r ∧ ColumnsOf setup.settings key r row) ∧
    ∀ key entry row, w.fast.get? key = some entry → w.durable.find? key = some row →
      entry.role.toTree.exact = true → entry.role.toTree.depth ≤ Json.maxDepth →
        RoleDocument.ofPolicyText row.policy = .ok entry.role := by
  refine ⟨run.coherent.fast, fun key row here => ?_, fun key entry row there here exact_ fits => ?_⟩
  · obtain ⟨d, kept, rfl, -⟩ := run.coherent.durable key row here
    have columns := kept.columns short
    refine ⟨d, rfl, RoleDocument.ofPolicyText_policyText, fun r tells => ?_⟩
    rcases tells with rfl | parsed
    · exact ⟨kept, columns⟩
    · exact ⟨kept.readBack parsed, columns.readBack parsed⟩
  · obtain ⟨d, -, rfl, tells⟩ := run.coherent.durable key row here
    exact (tells entry there).parsed exact_ fits

/-! ## A foreign role -/

/-- A role was read, and the cloud shows one of another account in its place. -/
def auditorForeign : World :=
  { RoleRun.auditorRead with
    cloud := ⟨.ofList
      [(RoleRun.auditor, { RoleRun.auditorShown with account := "210987654321" })]⟩ }

def auditorRefused : World :=
  RoleCall.after default auditorForeign (.fetch RoleRun.auditor true)

/-- The tiers keep telling of the role that was asked for. -/
theorem auditor_not_replaced :
    ∃ row, auditorRefused.fast.get? RoleRun.auditor = some ⟨RoleRun.auditorShown, default⟩ ∧
      auditorRefused.durable.find? RoleRun.auditor = some row ∧
      RoleDocument.ofPolicyText row.policy = .ok RoleRun.auditorShown := by
  have takes (w : World) (plan : w.plan.isEmpty = true) : w.Undisturbed .putFast :=
    World.undisturbed_of_unplanned (List.isEmpty_iff.1 plan) _
  have fetched : CacheRun default RoleRun.auditorRead :=
    .roles (.start rfl rfl) (takes RoleRun.withAuditor rfl) (.fetch RoleRun.auditor false)
  have moved : CacheRun default auditorForeign := .move fetched rfl rfl
  have run : CacheRun default auditorRefused :=
    moved.roles (takes _ (by decide +kernel)) (.fetch RoleRun.auditor true)
  have fast : auditorRefused.fast.get? RoleRun.auditor = some ⟨RoleRun.auditorShown, default⟩ := by
    decide +kernel
  have held : (auditorRefused.durable.find? RoleRun.auditor).isSome = true := by decide +kernel
  obtain ⟨row, durable⟩ := Option.isSome_iff_exists.1 held
  obtain ⟨-, -, agree⟩ := run.tiers_agree (by decide)
  exact ⟨row, fast, durable, agree _ _ row fast durable rfl (by decide)⟩

end CacheRun

end AccessBroker
