import AccessBroker.Proofs.RoleKeys
import AccessBroker.Proofs.Roles
import AccessBroker.Proofs.RoleText

/-! # Reading all roles of an account

The roles that the cloud has of an account are read one after the other.  One
that fails is counted; it neither stops the rest nor touches what the tiers
hold under any key.
-/

namespace AccessBroker

/-! ## The keys of a cloud -/

theorem RoleDocument.isOk_ensureDescribes_iff {d : RoleDocument} {key : RoleKey} :
    (d.ensureDescribes key).isOk = true ↔ d.ensureDescribes key = .ok () := by
  cases d.ensureDescribes key with
  | ok => exact iff_of_true rfl rfl
  | error e => exact iff_of_false nofun nofun

namespace Cloud

variable {c : Cloud} {key : RoleKey} {d : RoleDocument} {account : String}

/-- The cloud came of an empty one by changes to its roles. -/
inductive Built : Cloud → Prop where
  | empty : Built ⟨.empty⟩
  | upsert {c after : Cloud} {d : RoleDocument} (built : Built c) (run : c.upsert d = .ok after) :
      Built after
  | delete {c : Cloud} (built : Built c) (key : RoleKey) : Built (c.delete key)
  | putInlinePolicy {c after : Cloud} {key : RoleKey} {name : String} {document : Json}
      (built : Built c) (run : c.putInlinePolicy key name document = .ok after) : Built after
  | attachManagedPolicy {c after : Cloud} {key : RoleKey} {policyArn : String} (built : Built c)
      (run : c.attachManagedPolicy key policyArn = .ok after) : Built after

theorem upsert_of_key (own : d.key = .ok key) : c.upsert d = .ok ⟨c.roles.insert key d⟩ := by
  rw [upsert, own]
  rfl

/-- The keys under which the cloud holds something were made, so they have no blanks around them. -/
def OwnKeys (c : Cloud) : Prop :=
  ∀ ⦃key d⦄, c.role? key = some d → RoleKey.of key.account key.arn = .ok key

theorem OwnKeys.insert (keys : c.OwnKeys) (own : RoleKey.of key.account key.arn = .ok key) :
    OwnKeys ⟨c.roles.insert key d⟩ := by
  intro other shown held
  rw [role?, Registry.get?_insert] at held
  split at held
  · next same => exact same ▸ own
  · exact keys held

theorem Built.ownKeys (built : c.Built) : c.OwnKeys := by
  induction built with
  | empty => exact fun _ _ held => nomatch held
  | @upsert c _ d _ run keys =>
    cases own : d.key with
    | error e => rw [Cloud.upsert, own] at run; cases run
    | ok name =>
      rw [upsert_of_key own] at run
      cases run
      exact keys.insert (RoleKey.of_self own)
  | delete _ gone keys =>
    intro key d held
    rw [role?, Cloud.delete, Registry.get?_erase] at held
    split at held
    · cases held
    · exact keys held
  | putInlinePolicy _ run keys =>
    unfold Cloud.putInlinePolicy at run
    split at run
    · cases run
    · next old held =>
      cases run
      exact keys.insert (keys held)
  | attachManagedPolicy _ run keys =>
    unfold Cloud.attachManagedPolicy at run
    split at run
    · cases run
    · next old held =>
      split at run
      · cases run
        exact keys
      · cases run
        exact keys.insert (keys held)

def keysOf (c : Cloud) (account : String) : List RoleKey :=
  c.roles.keys.filter (·.account == account)

theorem mem_keysOf_iff :
    key ∈ c.keysOf account ↔ key.account = account ∧ ∃ d, c.role? key = some d := by
  rw [keysOf, List.mem_filter, Registry.mem_keys_iff, beq_iff_eq, and_comm]
  rfl

def Describes (c : Cloud) (key : RoleKey) : Prop :=
  ∃ d, c.role? key = some d ∧ d.ensureDescribes key = .ok ()

instance : DecidablePred c.Describes := fun key =>
  decidable_of_iff ((c.role? key).any fun d => (d.ensureDescribes key).isOk = true) (by
    simp only [Option.any_eq_true, decide_eq_true_eq, Describes,
      RoleDocument.isOk_ensureDescribes_iff])

theorem placeText_arns (key : RoleKey) (keys : List RoleKey) :
    ∃ placed : List RoleKey, placed.Perm (key :: keys) ∧
      placeText key.arn (keys.map (·.arn)) = placed.map (·.arn) := by
  induction keys with
  | nil => exact ⟨[key], .refl _, rfl⟩
  | cons first rest ih =>
    obtain ⟨placed, perm, arns⟩ := ih
    by_cases below : first.arn < key.arn
    · refine ⟨first :: placed, (perm.cons first).trans (.swap ..), ?_⟩
      rw [List.map_cons, placeText, if_pos below, arns, List.map_cons]
    · refine ⟨key :: first :: rest, .refl _, ?_⟩
      rw [List.map_cons, placeText, if_neg below, List.map_cons, List.map_cons]

/-- The resource names that are listed are those of the account's keys, each once. -/
theorem exists_keys_of_roleArns (c : Cloud) (account : String) :
    ∃ keys : List RoleKey, keys.Perm (c.keysOf account) ∧
      c.roleArns account = keys.map (·.arn) := by
  suffices sorted : ∀ keys : List RoleKey, ∃ placed : List RoleKey, placed.Perm keys ∧
      (keys.map (·.arn)).foldr placeText [] = placed.map (·.arn) from sorted _
  intro keys
  induction keys with
  | nil => exact ⟨[], .refl _, rfl⟩
  | cons key rest ih =>
    obtain ⟨placed, perm, arns⟩ := ih
    obtain ⟨whole, perm', arns'⟩ := placeText_arns key placed
    refine ⟨whole, perm'.trans (perm.cons key), ?_⟩
    rw [List.map_cons, List.foldr_cons, arns, arns']

end Cloud

namespace Service

open World (Alike AlikeButRoles)

variable {setup : Setup} {w mid left : World} {key : RoleKey} {keys : List RoleKey}

/-! ## Reading some roles -/

/-- Some keys were read from the cloud: what describes its key is in both tiers, and all else is as
it was. -/
structure KeysRead (setup : Setup) (w : World) (keys : List RoleKey) (left : World) : Prop where
  alike : AlikeButRoles w left
  cloud : left.cloud = w.cloud
  reread : ∀ key ∈ keys, ∀ d, w.cloud.role? key = some d → d.ensureDescribes key = .ok () →
    Reread setup w key d left
  fast : ∀ key, (key ∈ keys → ¬ w.cloud.Describes key) → left.fast.get? key = w.fast.get? key
  durable : ∀ name, (∀ key ∈ keys, w.cloud.Describes key → name ≠ (key.arn, key.account)) →
    left.durable.rows.get? name = w.durable.rows.get? name

namespace KeysRead

/-- Nothing but the bookkeeping changed, and no key describes its role. -/
theorem of_alike (alike : Alike w left) (undescribed : ∀ key ∈ keys, ¬ w.cloud.Describes key) :
    KeysRead setup w keys left where
  alike := .of_alike alike
  cloud := alike.cloud
  reread key listed d held describes := absurd ⟨d, held, describes⟩ (undescribed key listed)
  fast _ _ := by rw [alike.fast]
  durable _ _ := by rw [alike.durable]

/-- The later reading of a key is the one that stays. -/
theorem append {later : List RoleKey} (first : KeysRead setup w keys mid)
    (second : KeysRead setup mid later left) : KeysRead setup w (keys ++ later) left where
  alike := first.alike.trans second.alike
  cloud := second.cloud.trans first.cloud
  reread key listed d held describes := by
    have now : mid.now = w.now := first.alike.now
    have cloud := first.cloud
    by_cases again : key ∈ later
    · have reread := second.reread key again d (cloud ▸ held) describes
      exact ⟨held, describes, now ▸ reread.fast, now ▸ reread.durable⟩
    · have listed : key ∈ keys := (List.mem_append.1 listed).resolve_right again
      have reread := first.reread key listed d held describes
      refine ⟨held, describes, ?_, ?_⟩
      · rw [second.fast key fun listed => absurd listed again, reread.fast]
      · refine (second.durable _ fun other listed _ same => again ?_).trans reread.durable
        obtain ⟨arn, account⟩ := Prod.mk.inj same
        exact RoleKey.eq_of_parts account arn ▸ listed
  fast key apart := by
    rw [second.fast key fun listed => first.cloud ▸ apart (List.mem_append_right _ listed),
      first.fast key fun listed => apart (List.mem_append_left _ listed)]
  durable name apart := by
    rw [second.durable name fun key listed describes =>
        apart key (List.mem_append_right _ listed) (first.cloud ▸ describes),
      first.durable name fun key listed => apart key (List.mem_append_left _ listed)]

end KeysRead

/-- Reading one role of the cloud succeeds if and only if its document describes it. -/
theorem ends_readKey (answers : w.AllAnswer setup) (held : ∃ d, w.cloud.role? key = some d) :
    Ends setup w (fetchRole key true)
      (fun role left => role.isSome ∧ w.cloud.Describes key ∧ KeysRead setup w [key] left)
      (fun _ left => ¬ w.cloud.Describes key ∧ KeysRead setup w [key] left) := by
  obtain ⟨d, held⟩ := held
  have calm := answers.undisturbed .fetchRole
  rw [fetchRole, if_pos rfl]
  refine ends_refreshRole (fun left absent alike => ?_)
    (fun shown fast left honest describes put alike => ?_) fun e left differs alike => ?_
  · rw [absent calm] at held
    cases held
  · obtain rfl : d = shown := Option.some.inj (held.symm.trans (honest calm))
    obtain rfl := put.eq (answers.undisturbed .putFast)
    refine ⟨rfl, ⟨d, held, describes⟩, ⟨_, _, _, alike⟩, alike.cloud, ?_, ?_, ?_⟩
    · intro listed among other held' describes'
      obtain rfl := List.mem_singleton.1 among
      obtain rfl : d = other := Option.some.inj (held.symm.trans held')
      refine ⟨held, describes, ?_, ?_⟩
      · rw [alike.fast, Registry.get?_insert, if_pos rfl]
      · rw [alike.durable]
        exact DurableTier.find?_save.trans (if_pos rfl)
    · intro other apart
      rw [alike.fast, Registry.get?_insert, if_neg]
      rintro rfl
      exact apart List.mem_cons_self ⟨d, held, describes⟩
    · intro name apart
      rw [alike.durable]
      exact (Registry.get?_insert ..).trans
        (if_neg (apart key List.mem_cons_self ⟨d, held, describes⟩))
  · obtain ⟨other, held', differs⟩ := differs answers
    obtain rfl : d = other := Option.some.inj (held.symm.trans held')
    have undescribed : ¬ w.cloud.Describes key := by
      rintro ⟨again, held', describes⟩
      obtain rfl : d = again := Option.some.inj (held.symm.trans held')
      exact differs describes
    refine ⟨undescribed, .of_alike alike fun listed among => ?_⟩
    rw [List.mem_singleton.1 among]
    exact undescribed

/-- Reading several roles of the cloud counts those that their documents describe as read and the
others as failed. -/
theorem ends_refreshRoles {account : String} (answers : w.AllAnswer setup)
    (own : ∀ key ∈ keys, RoleKey.of account key.arn = .ok key)
    (held : ∀ key ∈ keys, ∃ d, w.cloud.role? key = some d)
    (summary : AccountRefresh) :
    Ends setup w (refreshRoles account summary (keys.map (·.arn)))
      (fun s left =>
        s = ⟨summary.refreshed + keys.countP (w.cloud.Describes ·), summary.missing,
          summary.failed + keys.countP (¬ w.cloud.Describes ·)⟩ ∧
        KeysRead setup w keys left)
      fun _ _ => False := by
  induction keys generalizing w summary with
  | nil => exact ⟨rfl, .of_alike (.refl w) nofun⟩
  | cons key rest ih =>
    have made := own key List.mem_cons_self
    -- The rest starts from what the first key left, which shows the same cloud.
    have goesOn {summary' : AccountRefresh} {left : World} (first : KeysRead setup w [key] left) :
        Ends setup left (refreshRoles account summary' (rest.map (·.arn)))
          (fun s after =>
            s = ⟨summary'.refreshed + rest.countP (w.cloud.Describes ·), summary'.missing,
              summary'.failed + rest.countP (¬ w.cloud.Describes ·)⟩ ∧
            KeysRead setup w (key :: rest) after)
          fun _ _ => False := by
      have rests := ih (answers.rest first.alike.leftOver)
        (fun other listed => own other (List.mem_cons_of_mem _ listed))
        (fun other listed => first.cloud ▸ held other (List.mem_cons_of_mem _ listed)) summary'
      rw [first.cloud] at rests
      exact rests.mono (fun s after read => ⟨read.1, first.append read.2⟩) fun _ _ => id
    simp only [List.map_cons, refreshRoles, ends_bind, ends_tryCatch, ends_lift, ends_pure]
    refine ⟨fun other own => ?_, fun e refused => ?_⟩
    · obtain rfl : key = other := Except.ok.inj (made.symm.trans own)
      refine (ends_readKey answers (held key List.mem_cons_self)).mono ?_ ?_
      · rintro (_ | role) left ⟨found, describes, first⟩
        · cases found
        · refine (goesOn first).mono (fun s after read => ⟨read.1.trans ?_, read.2⟩) fun _ _ => id
          rw [List.countP_cons_of_pos (by simpa using describes),
            List.countP_cons_of_neg (by simpa using describes)]
          simp only [AccountRefresh.count, AccountRefresh.mk.injEq, and_true]
          omega
      · rintro e left ⟨undescribed, first⟩
        refine (goesOn first).mono (fun s after read => ⟨read.1.trans ?_, read.2⟩) fun _ _ => id
        rw [List.countP_cons_of_neg (by simpa using undescribed),
          List.countP_cons_of_pos (by simpa using undescribed)]
        simp only [AccountRefresh.count, AccountRefresh.mk.injEq, true_and]
        omega
    · rw [made] at refused
      cases refused

/-! ## Reading all of them -/

/-- Both tiers hold what the cloud shows under a key: the document with the time of the reading and
the template that its tag names, its attachments in order without repeats. -/
structure HeldFrom (setup : Setup) (now : Timestamp) (key : RoleKey) (d r : RoleDocument)
    (left : World) : Prop where
  same : r = { d with
    managedPolicies := r.managedPolicies
    templated := d.tags.get? setup.settings.templateTag
    fetchedAt := now }
  ascending : r.managedPolicies.Pairwise (·.before ·)
  attached : ∀ a, a ∈ r.managedPolicies ↔ a ∈ d.managedPolicies
  fast : left.fast.get? key = some ⟨r, now⟩
  durable : left.durable.find? key = some {
    arn := key.arn
    account := key.account
    policy := r.policyText
    templated := r.templated
    expiry := now.plus setup.settings.durableLifetime }
  readable : r.toTree.exact = true → r.toTree.depth ≤ Json.maxDepth →
    RoleDocument.ofPolicyText r.policyText = .ok r

theorem Reread.heldFrom {d : RoleDocument} (reread : Reread setup w key d left) :
    HeldFrom setup w.now key d (finalize setup.settings w.now d) left where
  same := rfl
  ascending := Attachment.pairwise_sort d.managedPolicies
  attached _ := Attachment.mem_sort
  fast := reread.fast
  durable := reread.durable
  readable := RoleDocument.ofPolicyText_policyText

/-- What reading all roles of an account counts and leaves. -/
structure AccountRead (setup : Setup) (account : String) (w : World) (s : AccountRefresh)
    (left : World) : Prop where
  total : s.refreshed + s.missing + s.failed = (w.cloud.keysOf account).length
  /-- A role fails if and only if its document does not describe it, and none is missing. -/
  counted : s = ⟨(w.cloud.keysOf account).countP (w.cloud.Describes ·), 0,
    (w.cloud.keysOf account).countP (¬ w.cloud.Describes ·)⟩
  reread : ∀ key d, key.account = account → w.cloud.role? key = some d →
    d.ensureDescribes key = .ok () → ∃ r, HeldFrom setup w.now key d r left
  /-- Of failed roles, of roles that are gone and of other accounts, the entries stay. -/
  fast : ∀ key, (key.account = account → ¬ w.cloud.Describes key) →
    left.fast.get? key = w.fast.get? key
  durable : ∀ name, (∀ key : RoleKey, key.account = account → w.cloud.Describes key →
      name ≠ (key.arn, key.account)) →
    left.durable.rows.get? name = w.durable.rows.get? name
  cloud : left.cloud = w.cloud
  alike : AlikeButRoles w left

/-- Reading all roles of an account succeeds.  It puts into both tiers what describes its key, and
leaves every other entry as it was. -/
theorem refreshAccount_reads_all (setup : Setup) (account : String) {w : World}
    (answers : w.AllAnswer setup) (built : w.cloud.Built) :
    ∃ s left, (refreshAccount account).perform setup w = (.ok s, left) ∧
      AccountRead setup account w s left := by
  obtain ⟨keys, perm, arns⟩ := w.cloud.exists_keys_of_roleArns account
  have reads : Ends setup w (refreshAccount account) (AccountRead setup account w)
      fun _ _ => False := by
    simp only [refreshAccount, ends_bind]
    refine ends_listCloudRoles answers fun mid alike => ?_
    have own (key : RoleKey) (listed : key ∈ keys) : RoleKey.of account key.arn = .ok key := by
      obtain ⟨rfl, d, held⟩ := Cloud.mem_keysOf_iff.1 (perm.mem_iff.1 listed)
      exact built.ownKeys held
    have held (key : RoleKey) (listed : key ∈ keys) : ∃ d, mid.cloud.role? key = some d := by
      rw [alike.cloud]
      exact (Cloud.mem_keysOf_iff.1 (perm.mem_iff.1 listed)).2
    rw [arns]
    refine (ends_refreshRoles (answers.rest alike.leftOver) own held .none).mono ?_ fun _ _ => id
    rintro s left ⟨counts, read⟩
    have listing : KeysRead setup w [] mid := .of_alike alike nofun
    have read : KeysRead setup w keys left := listing.append read
    rw [alike.cloud, perm.countP_eq, perm.countP_eq] at counts
    have counted : s = ⟨(w.cloud.keysOf account).countP (w.cloud.Describes ·), 0,
        (w.cloud.keysOf account).countP (¬ w.cloud.Describes ·)⟩ := by
      rw [counts, AccountRefresh.none, Nat.zero_add, Nat.zero_add]
    refine ⟨?_, counted, fun key d own held describes => ?_, fun key apart => ?_,
      fun name apart => ?_, read.cloud, read.alike⟩
    · have parted : (w.cloud.keysOf account).length = _ :=
        List.length_eq_countP_add_countP (w.cloud.Describes ·)
      rw [counted, parted]
      simp
    · have listed : key ∈ keys := perm.mem_iff.2 (Cloud.mem_keysOf_iff.2 ⟨own, d, held⟩)
      exact ⟨_, (read.reread key listed d held describes).heldFrom⟩
    · exact read.fast key fun listed =>
        apart (Cloud.mem_keysOf_iff.1 (perm.mem_iff.1 listed)).1
    · exact read.durable name fun key listed =>
        apart key (Cloud.mem_keysOf_iff.1 (perm.mem_iff.1 listed)).1
  obtain ⟨s, left, run, read⟩ := reads.ok
  exact ⟨s, left, run, read⟩

/-! ## An account with a role whose document names another account -/

def ops : RoleKey :=
  ⟨"123456789012", "arn:aws:iam::123456789012:role/ops", by decide +kernel⟩

/-- Its account is written with a blank in front, so it does not describe the role of its key. -/
def opsShown : RoleDocument :=
  { RoleDocument.deployer with account := " 123456789012", arn := ops.arn }

def opsElsewhere : RoleKey :=
  ⟨"210987654321", "arn:aws:iam::210987654321:role/ops", by decide +kernel⟩

def withOps : World :=
  { World.start ⟨.ofList [(.shownDeployer, .deployer), (ops, opsShown)]⟩ default with
    fast := .ofList [(ops, ⟨.deployer, default⟩), (opsElsewhere, ⟨opsShown, default⟩)] }

theorem built_withOps : withOps.cloud.Built := by
  have deployer : RoleDocument.deployer.key = .ok .shownDeployer :=
    RoleKey.of_eq_ok_iff.2 ⟨by decide +kernel, by decide +kernel⟩
  have own : opsShown.key = .ok ops :=
    RoleKey.of_eq_ok_iff.2 ⟨by decide +kernel, by decide +kernel⟩
  exact .upsert (.upsert .empty (Cloud.upsert_of_key deployer)) (Cloud.upsert_of_key own)

theorem reads_withOps :
    ∃ s left, (refreshAccount "123456789012").perform default withOps = (.ok s, left) ∧
      s = ⟨1, 0, 1⟩ ∧
      (∃ r, HeldFrom default withOps.now .shownDeployer .deployer r left) ∧
      left.fast.get? ops = some ⟨.deployer, default⟩ ∧
      left.fast.get? opsElsewhere = some ⟨opsShown, default⟩ := by
  obtain ⟨s, left, run, read⟩ := refreshAccount_reads_all default "123456789012"
    (World.allAnswer_of_unplanned rfl default) built_withOps
  have shown : withOps.cloud.role? .shownDeployer = some .deployer := by decide +kernel
  have opsHeld : withOps.cloud.role? ops = some opsShown := by decide +kernel
  have describes : RoleDocument.deployer.ensureDescribes .shownDeployer = .ok () :=
    RoleDocument.ensureDescribes_key (RoleKey.of_eq_ok_iff.2 ⟨by decide +kernel, by decide +kernel⟩)
      (by decide +kernel)
  have undescribed : ¬ withOps.cloud.Describes ops := by
    rintro ⟨d, held, describes⟩
    obtain rfl : opsShown = d := Option.some.inj (opsHeld.symm.trans held)
    exact absurd (RoleDocument.ensureDescribes_eq_ok_iff.1 describes).1 (by decide)
  have listed : withOps.cloud.keysOf "123456789012" = [.shownDeployer, ops] := by decide +kernel
  refine ⟨s, left, run, ?_, read.reread _ _ rfl shown describes, ?_, ?_⟩
  · rw [read.counted, listed]
    have deployed : withOps.cloud.Describes .shownDeployer := ⟨_, shown, describes⟩
    simp [deployed, undescribed]
  · rw [read.fast ops fun _ => undescribed]
    decide +kernel
  · rw [read.fast opsElsewhere fun own => absurd own (by decide)]
    decide +kernel

end Service

end AccessBroker
