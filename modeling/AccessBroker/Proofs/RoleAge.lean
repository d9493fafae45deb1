import AccessBroker.Proofs.Bystanders
import AccessBroker.Proofs.RoleCache
import AccessBroker.Proofs.Runs

/-! # How old a served role can be

The fast tier counts from the time at which an entry was put there.  A role
that was found in the durable tier is put there again, so its entry may be much
younger than the reading of the cloud that it shows.  But it was put there
while its row lasted, and this bounds the age of whatever the tiers serve.
-/

namespace AccessBroker

namespace Service

/-! ## Where a role was found -/

inductive Source where
  | fast
  | durable
  | cloud
deriving DecidableEq

def locateInTiers (key : RoleKey) : Service (Option (RoleDocument × Source)) := do
  match ← readFast key with
  | some role => return some (role, .fast)
  | none =>
    match ← readDurable key with
    | some role =>
      writeFast key role
      return some (role, .durable)
    | none => return none

def locateInCloud (key : RoleKey) : Service (Option (RoleDocument × Source)) := do
  return (← refreshRole key).map fun role => (role, .cloud)

def locateRole (key : RoleKey) (force : Bool) : Service (Option (RoleDocument × Source)) := do
  if force then locateInCloud key
  else
    match ← locateInTiers key with
    | some found => return some found
    | none => locateInCloud key

theorem fetchRole_eq_locateRole (key : RoleKey) (force : Bool) :
    fetchRole key force = (do return (← locateRole key force).map Prod.fst) := by
  have cloud : refreshRole key = (do return (← locateInCloud key).map Prod.fst) := by
    simp [locateInCloud, Function.comp_def]
  have tiers : readTiers key = (do return (← locateInTiers key).map Prod.fst) := by
    rw [locateInTiers, readTiers, bind_assoc]
    refine bind_congr fun fast => ?_
    cases fast with
    | some role => simp
    | none =>
      simp only [bind_assoc]
      refine bind_congr fun durable => ?_
      cases durable <;> simp
  rw [fetchRole_eq, locateRole]
  split
  · exact cloud
  · rw [tiers, bind_assoc, bind_assoc]
    refine bind_congr fun found => ?_
    cases found with
    | some found => simp
    | none => simpa using cloud

/-! ## What the tiers hold -/

/-- The role was put into the fast tier when it was read or while its row lasted. -/
structure FastAged (settings : Settings) (now : Timestamp) (entry : FastEntry) : Prop where
  read : entry.role.fetchedAt ≤ entry.cachedAt
  put : entry.cachedAt ≤ now
  young : entry.cachedAt = entry.role.fetchedAt ∨
    entry.cachedAt.seconds < entry.role.fetchedAt.seconds + settings.durableLifetime
  early : -8334601228800 ≤ entry.cachedAt.seconds

def DurableAged (settings : Settings) (now : Timestamp) (row : DurableRow) : Prop :=
  ∃ d : RoleDocument, row.policy = d.policyText ∧
    row.expiry = d.fetchedAt.plus settings.durableLifetime ∧ d.fetchedAt ≤ now

structure Aged (settings : Settings) (w : World) : Prop where
  fast : ∀ key entry, w.fast.get? key = some entry → FastAged settings w.now entry
  durable : ∀ key row, w.durable.find? key = some row → DurableAged settings w.now row

section

variable {settings : Settings} {w left : World} {key : RoleKey} {r : RoleDocument}

theorem le_seconds_now (w : World) : -8334601228800 ≤ w.now.seconds := by
  have := w.clock.earliest
  simp only [World.now, Instant.timestamp]
  omega

namespace Aged

theorem of_empty (fast : w.fast = .empty) (durable : w.durable = ⟨.empty⟩) : Aged settings w where
  fast key entry here := by
    rw [fast] at here
    cases here
  durable key row here := by
    rw [durable] at here
    cases here

theorem later (h : Aged settings w) (fast : left.fast = w.fast) (durable : left.durable = w.durable)
    (clock : w.now ≤ left.now) : Aged settings left where
  fast key entry here := by
    rw [fast] at here
    have aged := h.fast key entry here
    exact ⟨aged.read, Int.le_trans aged.put clock, aged.young, aged.early⟩
  durable key row here := by
    rw [durable] at here
    obtain ⟨d, policy, expiry, read⟩ := h.durable key row here
    exact ⟨d, policy, expiry, Int.le_trans read clock⟩

theorem alike (h : Aged settings w) (alike : World.Alike w left) : Aged settings left :=
  h.later alike.fast alike.durable (by rw [alike.now]; exact Int.le_refl _)

/-- A role goes into the fast tier when it is read or while its row lasts. -/
theorem written {fast : FastTier} (h : Aged settings w) (written : Written w key r fast)
    (read : r.fetchedAt ≤ w.now)
    (young : w.now = r.fetchedAt ∨
      w.now.seconds < r.fetchedAt.seconds + settings.durableLifetime) :
    Aged settings { w with fast := fast } where
  fast other entry here := by
    rcases written with rfl | ⟨-, rfl⟩
    · rw [Registry.get?_insert] at here
      split at here
      · cases here
        exact ⟨read, Int.le_refl _, young, le_seconds_now w⟩
      · exact h.fast other entry here
    · exact h.fast other entry here
  durable := h.durable

theorem saved (h : Aged settings w) (read : r.fetchedAt ≤ w.now) :
    Aged settings { w with durable := w.durable.save (durableRow settings key r) } where
  fast := h.fast
  durable other row here := by
    rw [DurableTier.find?_save] at here
    split at here
    · cases here
      exact ⟨r, rfl, rfl, read⟩
    · exact h.durable other row here

theorem purged (h : Aged settings w) (now : Timestamp) :
    Aged settings { w with durable := (w.durable.purge now).2 } where
  fast := h.fast
  durable other row here := by
    exact h.durable other row (DurableTier.find?_of_purge here)

end Aged

/-! ## What is served -/

/-- How old a role may be that is served now. -/
def Source.Bounds (settings : Settings) (now : Timestamp) (r : RoleDocument) : Source → Prop
  | cloud => r.fetchedAt = now
  | durable => now.seconds - r.fetchedAt.seconds < settings.durableLifetime
  | fast => now.seconds - r.fetchedAt.seconds <
      (settings.durableLifetime : Int) + settings.fastFreshness

theorem DurableAged.age_lt {row : DurableRow} {now : Timestamp} (h : DurableAged settings now row)
    (lasts : now < row.expiry) (parsed : RoleDocument.ofPolicyText row.policy = .ok r) :
    r.fetchedAt ≤ now ∧ now.seconds - r.fetchedAt.seconds < settings.durableLifetime := by
  obtain ⟨d, policy, expiry, read⟩ := h
  rw [policy] at parsed
  rw [RoleDocument.fetchedAt_of_policyText parsed]
  refine ⟨read, ?_⟩
  have lower := d.fetchedAt.lower
  have before : now.seconds < (Timestamp.clamp
      (d.fetchedAt.seconds + settings.durableLifetime)).seconds := by
    rw [expiry] at lasts
    exact lasts
  simp only [Timestamp.clamp] at before
  omega

theorem FastAged.age_lt {entry : FastEntry} (h : FastAged settings w.now entry)
    (fresh : isFresh settings w.now entry = true) :
    entry.role.fetchedAt ≤ w.now ∧ w.now.seconds - entry.role.fetchedAt.seconds <
      (settings.durableLifetime : Int) + settings.fastFreshness := by
  obtain ⟨read, put, young, early⟩ := h
  -- Neither time is so far out that their difference is cut off.
  have latest := seconds_now_lt w
  have since : w.now.since entry.cachedAt < settings.fastFreshness := of_decide_eq_true fresh
  simp only [Timestamp.since, Timestamp.clamp] at since
  have young : entry.cachedAt.seconds ≤
      entry.role.fetchedAt.seconds + settings.durableLifetime := by
    rcases young with same | before
    · rw [same]
      omega
    · omega
  exact ⟨Int.le_trans read put, by omega⟩

end

/-- What was found may be served now. -/
def Served (settings : Settings) (now : Timestamp) (found : Option (RoleDocument × Source)) :
    Prop :=
  ∀ r source, found = some (r, source) →
    r.fetchedAt ≤ now ∧ source.Bounds settings now r

theorem served_none {settings : Settings} {now : Timestamp} : Served settings now none := by
  simp [Served]

section

variable {setup : Setup} {w : World} {key : RoleKey}

theorem aged_refreshRole (h : Aged setup.settings w) :
    Ends setup w (refreshRole key)
      (fun role left => Aged setup.settings left ∧ ∀ r, role = some r → r.fetchedAt = w.now)
      fun _ left => Aged setup.settings left := by
  refine ends_refreshRole (fun left _ alike => ⟨h.alike alike, by simp⟩)
    (fun d fast left _ _ put alike => ?_) fun _ left _ alike => h.alike alike
  have fetched : (finalize setup.settings w.now d).fetchedAt = w.now := fetchedAt_finalize ..
  have read : (finalize setup.settings w.now d).fetchedAt ≤ w.now := by
    rw [fetched]
    exact Int.le_refl _
  have fast := h.written put read (.inl fetched.symm)
  refine ⟨(fast.saved read).alike alike, fun r found => ?_⟩
  rw [← Option.some.inj found, fetched]

theorem aged_locateInCloud (h : Aged setup.settings w) :
    Ends setup w (locateInCloud key)
      (fun found left => Aged setup.settings left ∧ Served setup.settings w.now found)
      fun _ left => Aged setup.settings left := by
  simp only [locateInCloud, ends_bind, ends_pure]
  refine (aged_refreshRole h).mono (fun role left h => ⟨h.1, ?_⟩) fun _ _ h => h
  have fetched := h.2
  intro r source found
  obtain ⟨r, rfl, same⟩ := Option.map_eq_some_iff.1 found
  cases same
  have fetched := fetched r rfl
  exact ⟨by rw [fetched]; exact Int.le_refl _, fetched⟩

theorem aged_locateInTiers (h : Aged setup.settings w) :
    Ends setup w (locateInTiers key)
      (fun found left => Aged setup.settings left ∧ left.now = w.now ∧
        Served setup.settings w.now found)
      fun _ left => Aged setup.settings left := by
  simp only [locateInTiers, ends_bind]
  refine ends_readFast (fun entry left here fresh alike => ?_) fun read _ alike => ?_
  · refine ⟨h.alike alike, alike.now, ?_⟩
    rintro r source ⟨⟩
    exact (h.fast key entry here).age_lt fresh
  · simp only [ends_bind]
    have readNow : read.now = w.now := alike.now
    refine ends_readDurable (fun row role left here lasts parsed alike' => ?_)
      (fun left _ alike' => ?_) fun _ left _ alike' => h.alike (alike.trans alike')
    · have leftNow : left.now = w.now := alike'.now.trans readNow
      rw [alike.durable] at here
      rw [readNow] at lasts
      have age := (h.durable key row here).age_lt lasts parsed
      simp only [ends_bind, ends_pure]
      -- Its row lasts, so the role may go into the fast tier once more.
      refine ends_writeFast fun fast after put alike'' => ?_
      have aged : Aged setup.settings { left with fast := fast } := by
        refine (h.alike (alike.trans alike')).written put ?_ (.inr ?_)
        · rw [leftNow]
          exact age.1
        · rw [leftNow]
          omega
      refine ⟨aged.alike alike'', alike''.now.trans leftNow, ?_⟩
      rintro r source ⟨⟩
      exact age
    · exact ⟨h.alike (alike.trans alike'), alike'.now.trans readNow, served_none⟩

/-- Whatever happens on the way, what is in the tiers stays aged, and so is what is served. -/
theorem aged_locateRole (h : Aged setup.settings w) (force : Bool) :
    Ends setup w (locateRole key force)
      (fun found left => Aged setup.settings left ∧ Served setup.settings w.now found)
      fun _ left => Aged setup.settings left := by
  unfold locateRole
  split
  · exact aged_locateInCloud h
  · rw [ends_bind]
    refine (aged_locateInTiers h).mono (fun found left h => ?_) fun _ _ h => h
    obtain ⟨aged, now, served⟩ := h
    cases found with
    | some found => exact ⟨aged, served⟩
    | none =>
      rw [← now]
      exact aged_locateInCloud aged

theorem uncalled_locateRole (force : Bool) :
    Ends setup w (locateRole key force)
      (fun found left => ∀ r source, found = some (r, source) → source ≠ .cloud →
        made asksCloud left = made asksCloud w)
      fun _ _ => True := by
  have uncalled : Keeps setup (fun left => made asksCloud left = made asksCloud w)
      (locateInTiers key) := by
    have tiers : OverlooksTiers asksCloud key fun left => made asksCloud left = made asksCloud w :=
      overlooksTiers_made ⟨rfl, rfl⟩ key
    refine .bind (.readFast tiers.books key) fun fast => ?_
    split
    · exact .pure _
    · refine .bind (.readDurable tiers.books key) fun durable => ?_
      split
      · exact .bind (.writeFast tiers _) fun _ => .pure _
      · exact .pure _
  have cloud (left : World) : Ends setup left (locateInCloud key)
      (fun found after => ∀ r source, found = some (r, source) → source ≠ .cloud →
        made asksCloud after = made asksCloud w)
      fun _ _ => True := by
    simp only [locateInCloud, ends_bind, ends_pure]
    refine ends_refreshRole (fun _ _ _ => by simp) (fun d fast after _ _ _ _ => ?_)
      fun _ _ _ _ => trivial
    rintro r source ⟨⟩ other
    exact absurd rfl other
  unfold locateRole
  split
  · exact cloud w
  · rw [ends_bind]
    refine uncalled.ends rfl (fun found left same => ?_) fun _ _ _ => trivial
    cases found with
    | some found => exact fun _ _ _ _ => same
    | none => exact cloud left

theorem keeps_aged_fetchRole (key : RoleKey) (force : Bool) :
    Keeps setup (Aged setup.settings) (fetchRole key force) := by
  refine .of_ends fun w h => ?_
  rw [fetchRole_eq_locateRole]
  simp only [ends_bind, ends_pure]
  exact (aged_locateRole h force).mono (fun _ _ h => h.1) fun _ _ h => h

theorem aloof_aged : Aloof setup (fun _ => false) (Aged setup.settings) where
  books _ _ alike _ h := h.alike alike
  quiet _ _ := rfl
  requests _ _ h := ⟨h.fast, h.durable⟩
  directory _ _ h := ⟨h.fast, h.durable⟩
  cloud _ _ h := ⟨h.fast, h.durable⟩
  eligible _ _ h := ⟨h.fast, h.durable⟩
  drawn _ _ h := ⟨h.fast, h.durable⟩
  reading := keeps_aged_fetchRole

end

end Service

namespace RoleCall

open Service

variable {setup : Setup} {w : World}

theorem aged_after (c : RoleCall) (h : Aged setup.settings w) :
    Aged setup.settings (c.after setup w) := by
  cases c with
  | fetch key force => exact keeps_aged_fetchRole key force w h
  | refreshAccount account =>
    exact Keeps.refreshAccount aloof_aged.books
      (fun _ _ _ _ _ key _ => keeps_aged_fetchRole key true) h
  | purge =>
    refine Ends.left (p := Aged setup.settings) ?_
    simp only [purgeExpired, ends_bind, ends_now]
    exact ends_purgeDurable (fun left alike => (h.purged w.now).alike alike)
      fun _ left _ alike => h.alike alike

end RoleCall

theorem RequestCall.aged_after {setup : Setup} {w : World} (c : RequestCall)
    (h : Service.Aged setup.settings w) : Service.Aged setup.settings (c.after setup w) :=
  c.keeps_after Service.aloof_aged rfl h

/-! ## Runs -/

/-- The worlds that calls of the role cache and calls about requests reach from empty tiers.  In
between time passes and anything may change but the tiers, the cloud included. -/
inductive TierRun (setup : Setup) : World → Prop where
  | start {w : World} (fast : w.fast = .empty) (durable : w.durable = ⟨.empty⟩) : TierRun setup w
  | move {w moved : World} (run : TierRun setup w) (fast : moved.fast = w.fast)
    (durable : moved.durable = w.durable) (clock : w.clock.micros ≤ moved.clock.micros) :
    TierRun setup moved
  | roles {w : World} (run : TierRun setup w) (c : RoleCall) : TierRun setup (c.after setup w)
  | requests {w : World} (run : TierRun setup w) (c : RequestCall) :
    TierRun setup (c.after setup w)

namespace TierRun

open Service

variable {setup : Setup} {w left : World} {key : RoleKey} {force : Bool} {r : RoleDocument}

theorem aged (run : TierRun setup w) : Aged setup.settings w := by
  induction run with
  | start fast durable => exact .of_empty fast durable
  | move _ fast durable clock ih =>
    exact ih.later fast durable (World.now_le_now clock)
  | roles _ c ih => exact c.aged_after ih
  | requests _ c ih => exact c.aged_after ih

/-- A role that is served is as young as the place where it was found promises, counted from the
reading of the cloud that it shows: it was read just now, within the lifetime of its row, or within
that and a freshness.  Only if it was found in the cloud was the cloud called. -/
theorem serves_young (run : TierRun setup w)
    (served : (fetchRole key force).perform setup w = (.ok (some r), left)) :
    ∃ source, (locateRole key force).perform setup w = (.ok (some (r, source)), left) ∧
      r.fetchedAt ≤ w.now ∧ source.Bounds setup.settings w.now r ∧
      (source ≠ .cloud → made asksCloud left = made asksCloud w) := by
  rw [fetchRole_eq_locateRole, perform_bind] at served
  cases located : (locateRole key force).perform setup w with
  | mk result after =>
    rw [located] at served
    cases result with
    | error e => cases served
    | ok found =>
      obtain ⟨same, rfl⟩ := Prod.mk.inj served
      obtain ⟨⟨r, source⟩, rfl, rfl⟩ := Option.map_eq_some_iff.1 (Except.ok.inj same)
      obtain ⟨-, young⟩ := (aged_locateRole run.aged force).of_ok located
      obtain ⟨read, bounds⟩ := young r source rfl
      exact ⟨source, rfl, read, bounds, (uncalled_locateRole force).of_ok located r source rfl⟩

/-! ## A long-lived reading -/

theorem serves_fresh {entry : FastEntry} (answers : w.TiersAnswer)
    (here : w.fast.get? key = some entry)
    (fresh : isFresh setup.settings w.now entry = true) :
    ∃ left, (fetchRole key false).perform setup w = (.ok (some entry.role), left) := by
  have notStale (stale : ∀ other, w.fast.get? key = some other →
      isFresh setup.settings w.now other = false) : False := by
    rw [stale entry here] at fresh
    cases fresh
  have serves : Ends setup w (fetchRole key false) (fun role _ => role = some entry.role)
      fun _ _ => False := by
    rw [fetchRole_eq, if_neg Bool.false_ne_true, ends_bind]
    refine ends_readTiers answers (fun other left found _ _ => ?_)
      (fun _ _ _ stale => (notStale stale).elim) (fun _ stale => (notStale stale).elim)
      fun _ _ _ stale => (notStale stale).elim
    cases here.symm.trans found
    exact rfl
  obtain ⟨_, left, served, rfl⟩ := serves.ok
  exact ⟨left, served⟩

/-- When a role whose row lasts is served, its freshness in the fast tier starts anew. -/
theorem fast_after_of_row (answers : w.TiersAnswer)
    (stale : ∀ entry, w.fast.get? key = some entry → isFresh setup.settings w.now entry = false)
    (row : w.durable.find? key = some (durableRow setup.settings key r))
    (lasts : w.now < (durableRow setup.settings key r).expiry)
    (readable : RoleDocument.ofPolicyText r.policyText = .ok r) :
    (RoleCall.after setup w (.fetch key false)).fast.get? key = some ⟨r, w.now⟩ := by
  have renews : Ends setup w (fetchRole key false)
      (fun _ left => left.fast.get? key = some ⟨r, w.now⟩) fun _ _ => False := by
    rw [fetchRole_eq, if_neg Bool.false_ne_true, ends_bind]
    refine ends_readTiers answers (fun entry _ here fresh _ => ?_)
      (fun other role left _ here _ parsed alike => ?_) (fun _ _ ranOut _ => ?_)
      fun other _ _ _ here _ unparsed _ => ?_
    · rw [stale entry here] at fresh
      cases fresh
    · cases row.symm.trans here
      cases readable.symm.trans parsed
      show left.fast.get? key = _
      rw [alike.fast, Registry.get?_insert, if_pos rfl]
    · exact (ranOut _ row lasts).elim
    · cases row.symm.trans here
      cases readable.symm.trans unparsed
  exact (renews.mono (fun _ _ h => h) fun _ _ h => h.elim).left

theorem cached_of_reading (answers : w.TiersAnswer)
    (reading : (fetchRole key true).perform setup w = (.ok (some r), left)) :
    Cached setup.settings key r left := by
  rw [fetchRole, if_pos rfl] at reading
  exact ((ends_refreshRole_of_answers answers).of_ok reading r rfl).1

theorem wait (run : TierRun setup w) (clock : Instant) (forward : w.clock.micros ≤ clock.micros) :
    TierRun setup (w.atTime clock) :=
  run.move rfl rfl forward

theorem answers_atTime (answers : w.TiersAnswer) (clock : Instant) :
    (w.atTime clock).TiersAnswer := answers

def auditorFetched : World :=
  RoleCall.after default RoleRun.withAuditor (.fetch RoleRun.auditor true)

/-- The lifetime of its row is almost over. -/
def auditorAged : World :=
  auditorFetched.atTime ⟨129000000000, by decide, by decide⟩

def auditorRenewed : World :=
  RoleCall.after default auditorAged (.fetch RoleRun.auditor false)

def auditorOutlived : World :=
  auditorRenewed.atTime ⟨132000000000, by decide, by decide⟩

theorem withAuditor_answers : RoleRun.withAuditor.TiersAnswer :=
  fun kind _ => World.undisturbed_of_unplanned rfl kind

theorem auditorFetched_cached :
    Cached (default : Setup).settings RoleRun.auditor RoleRun.auditorShown auditorFetched := by
  have shown : ((fetchRole RoleRun.auditor true).perform default RoleRun.withAuditor).1.toOption =
      some (some RoleRun.auditorShown) := by decide +kernel
  rcases run : (fetchRole RoleRun.auditor true).perform default RoleRun.withAuditor with
    ⟨_ | role, left⟩
  · rw [run] at shown
    cases shown
  · rw [run] at shown
    cases shown
    rw [auditorFetched, RoleCall.after, run]
    exact cached_of_reading withAuditor_answers run

theorem auditorFetched_put {entry : FastEntry}
    (here : auditorFetched.fast.get? RoleRun.auditor = some entry) :
    entry.cachedAt.seconds ≤ 0 := by
  have start : Aged (default : Setup).settings RoleRun.withAuditor := .of_empty rfl rfl
  have put := ((RoleCall.aged_after (.fetch RoleRun.auditor true) start).fast _ entry here).put
  rwa [RoleCall.now_after] at put

theorem auditorRenewed_fast :
    auditorRenewed.fast.get? RoleRun.auditor =
      some ⟨RoleRun.auditorShown, auditorAged.now⟩ := by
  have answers : auditorAged.TiersAnswer :=
    answers_atTime (RoleCall.answers_after (.fetch RoleRun.auditor true) withAuditor_answers) _
  have row : auditorAged.durable.find? RoleRun.auditor =
      some (durableRow (default : Setup).settings RoleRun.auditor RoleRun.auditorShown) := by
    have lasts : auditorFetched.now.seconds < RoleRun.auditorShown.fetchedAt.seconds +
        (default : Setup).settings.durableLifetime := by
      rw [auditorFetched, RoleCall.now_after]
      decide
    rw [auditorAged, World.atTime_durable]
    exact auditorFetched_cached.durable lasts
  have stale (entry : FastEntry) (here : auditorAged.fast.get? RoleRun.auditor = some entry) :
      isFresh (default : Setup).settings auditorAged.now entry = false := by
    rw [auditorAged, World.atTime_fast] at here
    have early := auditorFetched_put here
    have long : ¬ Timestamp.since ⟨129000, by decide, by decide⟩ entry.cachedAt < 3600 := by
      simp only [Timestamp.since, Timestamp.clamp]
      omega
    rw [auditorAged, World.atTime_now]
    exact decide_eq_false long
  have lasts : auditorAged.now <
      (durableRow (default : Setup).settings RoleRun.auditor RoleRun.auditorShown).expiry := by
    rw [auditorAged, World.atTime_now]
    decide
  have readable := RoleDocument.ofPolicyText_policyText (d := RoleRun.auditorShown) rfl (by decide)
  exact fast_after_of_row answers stale row lasts readable

/-- A role may be served that is older than the lifetime of rows. -/
theorem serves_outlived_auditor :
    ∃ source left,
      (locateRole RoleRun.auditor false).perform default auditorOutlived =
        (.ok (some (RoleRun.auditorShown, source)), left) ∧
      auditorOutlived.now.seconds - RoleRun.auditorShown.fetchedAt.seconds = 132000 ∧
      source.Bounds .standard auditorOutlived.now RoleRun.auditorShown := by
  have fetched : TierRun default auditorFetched :=
    .roles (.start rfl rfl) (.fetch RoleRun.auditor true)
  have aged : TierRun default auditorAged :=
    fetched.wait _ (by rw [auditorFetched, RoleCall.clock_after]; decide)
  have renewed : TierRun default auditorRenewed := aged.roles (.fetch RoleRun.auditor false)
  have outlived : TierRun default auditorOutlived :=
    renewed.wait _ (by rw [auditorRenewed, RoleCall.clock_after]; decide)
  have answers : auditorOutlived.TiersAnswer :=
    answers_atTime (RoleCall.answers_after (.fetch RoleRun.auditor false) <|
      answers_atTime (RoleCall.answers_after (.fetch RoleRun.auditor true) withAuditor_answers) _) _
  have here : auditorOutlived.fast.get? RoleRun.auditor =
      some ⟨RoleRun.auditorShown, auditorAged.now⟩ := by
    rw [auditorOutlived, World.atTime_fast]
    exact auditorRenewed_fast
  have fresh : isFresh (default : Setup).settings auditorOutlived.now
      ⟨RoleRun.auditorShown, auditorAged.now⟩ = true := by
    rw [auditorOutlived, auditorAged, World.atTime_now, World.atTime_now]
    decide
  have old : auditorOutlived.now.seconds - RoleRun.auditorShown.fetchedAt.seconds = 132000 := by
    rw [auditorOutlived, World.atTime_now]
    decide
  obtain ⟨left, served⟩ := serves_fresh answers here fresh
  obtain ⟨source, located, -, bounds, -⟩ := outlived.serves_young served
  exact ⟨source, left, located, old, bounds⟩

end TierRun

end AccessBroker
