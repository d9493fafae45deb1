import AccessBroker.Broker.World

/-! # Reasoning about services

`Ends` says of a service that is run from one world what holds when it succeeds
and what holds when it fails, in the world that it leaves.  Its rules take a
service apart along its steps, so a proof about a service follows its text.
`Keeps` says that a property of the world outlives a service, however it ends.
-/

namespace AccessBroker.Service

variable {α β : Type} {setup : Setup} {w : World}

/-! ## One run -/

theorem perform_pure (a : α) : (pure a : Service α).perform setup w = (.ok a, w) := rfl

theorem perform_throw (e : Error) : (throw e : Service α).perform setup w = (.error e, w) := rfl

theorem perform_get : (get : Service World).perform setup w = (.ok w, w) := rfl

theorem perform_now : now.perform setup w = (.ok w.now, w) := rfl

/-- The rest of a service goes on in the world that its first part leaves. -/
theorem perform_bind (s : Service α) (f : α → Service β) :
    (s >>= f).perform setup w =
      match s.perform setup w with
      | (.ok a, left) => (f a).perform setup left
      | (.error e, left) => (.error e, left) := by
  have runs : (s >>= f).perform setup w =
      match s.perform setup w with
      | (result, left) => ExceptT.bindCont (fun a => f a setup) result left := rfl
  rw [runs]
  cases s.perform setup w with
  | mk result left => cases result <;> rfl

theorem perform_tryCatch (s : Service α) (handle : Error → Service α) :
    (tryCatch s handle).perform setup w =
      match s.perform setup w with
      | (.ok a, left) => (.ok a, left)
      | (.error e, left) => (handle e).perform setup left := by
  cases run : s.perform setup w with
  | mk result left =>
    have run : s setup w = (result, left) := run
    simp only [perform, tryCatch, tryCatchThe, MonadExceptOf.tryCatch, ExceptT.run, StateT.run,
      ExceptT.tryCatch, ExceptT.mk, bind, StateT.bind, run]
    cases result <;> rfl

/-- A run that comes to a value ends with it. -/
theorem perform_eq_of_toOption {s : Service α} {a : α}
    (told : (s.perform setup w).1.toOption = some a) :
    s.perform setup w = (.ok a, (s.perform setup w).2) := by
  rcases run : s.perform setup w with ⟨_ | b, left⟩
  · rw [run] at told
    cases told
  · rw [run] at told
    cases told
    rfl

/-! ## How a service ends -/

/-- Run from `w`, the service succeeds with `good` or fails with `bad`. -/
def Ends (setup : Setup) (w : World) (s : Service α) (good : α → World → Prop)
    (bad : Error → World → Prop) : Prop :=
  match s.perform setup w with
  | (.ok a, left) => good a left
  | (.error e, left) => bad e left

variable {s : Service α} {f : α → Service β} {good : α → World → Prop} {bad : Error → World → Prop}
  {done : β → World → Prop}

/-- What holds at either end holds of the world that is left. -/
theorem Ends.left {p : World → Prop} (h : Ends setup w s (fun _ => p) fun _ => p) :
    p (s.perform setup w).2 := by
  unfold Ends at h
  split at h <;> simp_all

/-- What holds of both ends holds of the outcome. -/
theorem Ends.outcome {p : Except Error α × World → Prop}
    (h : Ends setup w s (fun a left => p (.ok a, left)) fun e left => p (.error e, left)) :
    p (s.perform setup w) := by
  unfold Ends at h
  generalize s.perform setup w = outcome at h
  obtain ⟨result, left⟩ := outcome
  cases result with
  | ok a => exact h
  | error e => exact h

theorem Ends.mono {good' : α → World → Prop} {bad' : Error → World → Prop}
    (h : Ends setup w s good bad) (hgood : ∀ a left, good a left → good' a left)
    (hbad : ∀ e left, bad e left → bad' e left) : Ends setup w s good' bad' := by
  unfold Ends at h ⊢
  split at h
  · exact hgood _ _ h
  · exact hbad _ _ h

theorem Ends.and {good' : α → World → Prop} {bad' : Error → World → Prop}
    (h : Ends setup w s good bad) (h' : Ends setup w s good' bad') :
    Ends setup w s (fun a left => good a left ∧ good' a left)
      fun e left => bad e left ∧ bad' e left := by
  unfold Ends at h h' ⊢
  cases run : s.perform setup w with
  | mk result left =>
    rw [run] at h h'
    cases result with
    | ok a => exact ⟨h, h'⟩
    | error e => exact ⟨h, h'⟩

theorem Ends.of_ok {a : α} {left : World} (h : Ends setup w s good bad)
    (run : s.perform setup w = (.ok a, left)) : good a left := by
  unfold Ends at h
  rwa [run] at h

theorem Ends.of_error {e : Error} {left : World} (h : Ends setup w s good bad)
    (run : s.perform setup w = (.error e, left)) : bad e left := by
  unfold Ends at h
  rwa [run] at h

/-- A service that cannot fail succeeds. -/
theorem Ends.ok (h : Ends setup w s good fun _ _ => False) :
    ∃ a left, s.perform setup w = (.ok a, left) ∧ good a left := by
  unfold Ends at h
  cases run : s.perform setup w with
  | mk result left =>
    rw [run] at h
    cases result with
    | ok a => exact ⟨a, left, rfl, h⟩
    | error => exact h.elim

/-- A service that cannot succeed fails. -/
theorem Ends.error (h : Ends setup w s (fun _ _ => False) bad) :
    ∃ e left, s.perform setup w = (.error e, left) ∧ bad e left := by
  unfold Ends at h
  cases run : s.perform setup w with
  | mk result left =>
    rw [run] at h
    cases result with
    | ok => exact h.elim
    | error e => exact ⟨e, left, rfl, h⟩

@[simp] theorem ends_pure (a : α) : Ends setup w (pure a) good bad ↔ good a w := Iff.rfl

@[simp] theorem ends_throw (e : Error) : Ends setup w (throw e) good bad ↔ bad e w := Iff.rfl

@[simp] theorem ends_bind :
    Ends setup w (s >>= f) done bad ↔
      Ends setup w s (fun a left => Ends setup left (f a) done bad) bad := by
  unfold Ends
  rw [perform_bind]
  cases s.perform setup w with
  | mk result left => cases result <;> rfl

@[simp] theorem ends_map (g : α → β) :
    Ends setup w (g <$> s) done bad ↔ Ends setup w s (fun a => done (g a)) bad := by
  rw [map_eq_pure_bind, ends_bind]
  rfl

@[simp] theorem ends_discard {good : PUnit → World → Prop} :
    Ends setup w (discard s) good bad ↔ Ends setup w s (fun _ => good ⟨⟩) bad :=
  ends_map _

@[simp] theorem ends_tryCatch (handle : Error → Service α) :
    Ends setup w (tryCatch s handle) good bad ↔
      Ends setup w s good fun e left => Ends setup left (handle e) good bad := by
  unfold Ends
  rw [perform_tryCatch]
  cases s.perform setup w with
  | mk result left => cases result <;> rfl

@[simp] theorem ends_quietly {s : Service Unit} {good : Unit → World → Prop} :
    Ends setup w (quietly s) good bad ↔ Ends setup w s good fun _ => good () :=
  ends_tryCatch _

@[simp] theorem ends_lift (x : Except Error α) :
    Ends setup w (lift x) good bad ↔
      (∀ a, x = .ok a → good a w) ∧ ∀ e, x = .error e → bad e w := by
  cases x <;> simp [lift]

@[simp] theorem ends_get {good : World → World → Prop} :
    Ends setup w get good bad ↔ good w w := Iff.rfl

@[simp] theorem ends_read {good : Setup → World → Prop} :
    Ends setup w read good bad ↔ good setup w := Iff.rfl

@[simp] theorem ends_modify (g : World → World) {good : PUnit → World → Prop} :
    Ends setup w (modify g) good bad ↔ good ⟨⟩ (g w) := Iff.rfl

@[simp] theorem ends_modifyGet (g : World → α × World) :
    Ends setup w (modifyGet g) good bad ↔ good (g w).1 (g w).2 := Iff.rfl

@[simp] theorem ends_now {good : Timestamp → World → Prop} :
    Ends setup w now good bad ↔ good w.now w := Iff.rfl

@[simp] theorem ends_settings {good : Settings → World → Prop} :
    Ends setup w settings good bad ↔ good setup.settings w := Iff.rfl

/-- A check in front of the rest of a service. -/
theorem ends_check {x : Except Error α} (passed : ∀ a, x = .ok a → Ends setup w (f a) done bad)
    (refused : ∀ e, bad e w) : Ends setup w (lift x >>= f) done bad := by
  rw [ends_bind, ends_lift]
  exact ⟨passed, fun e _ => refused e⟩

/-- A refusal in front of the rest of a service. -/
theorem ends_refuse {c : Prop} [Decidable c] {e : Error} {rest : α → Service β}
    {go : Service β} (refused : c → bad e w) (passed : ¬ c → Ends setup w go done bad) :
    Ends setup w (if c then throw e >>= rest else go) done bad := by
  split
  · next h => simpa using refused h
  · next h => exact passed h

/-! ## What outlives a service -/

/-- The property of the world outlives the service under a setup. -/
def Keeps (setup : Setup) (p : World → Prop) (s : Service α) : Prop :=
  ∀ w, p w → p (s.perform setup w).2

namespace Keeps

variable {p : World → Prop}

theorem ends (h : Keeps setup p s) (hw : p w) (hgood : ∀ a left, p left → good a left)
    (hbad : ∀ e left, p left → bad e left) : Ends setup w s good bad := by
  have hp := h w hw
  unfold Ends
  cases run : s.perform setup w with
  | mk result left =>
    rw [run] at hp
    cases result with
    | ok a => exact hgood a left hp
    | error e => exact hbad e left hp

theorem of_ends (h : ∀ w, p w → Ends setup w s (fun _ => p) fun _ => p) : Keeps setup p s :=
  fun w hw => (h w hw).left

theorem pure (a : α) : Keeps setup p (pure a) := fun _ h => h

theorem throw (e : Error) : Keeps setup p (throw e : Service α) := fun _ h => h

theorem get : Keeps setup p (get : Service World) := fun _ h => h

theorem read : Keeps setup p (read : Service Setup) := fun _ h => h

theorem now : Keeps setup p Service.now := fun _ h => h

theorem settings : Keeps setup p Service.settings := fun _ h => h

theorem modify {g : World → World} (h : ∀ w, p w → p (g w)) : Keeps setup p (modify g : Service PUnit) :=
  fun w hw => h w hw

theorem modifyGet {g : World → α × World} (h : ∀ w, p w → p (g w).2) :
    Keeps setup p (modifyGet g : Service α) :=
  fun w hw => h w hw

theorem bind (hs : Keeps setup p s) (hf : ∀ a, Keeps setup p (f a)) : Keeps setup p (s >>= f) :=
  of_ends fun _ hw => ends_bind.2 <|
    hs.ends hw (fun a _ hleft => (hf a).ends hleft (fun _ _ h => h) fun _ _ h => h) fun _ _ h => h

theorem refuse {c : Prop} [Decidable c] {e : Error} {rest : α → Service β} {go : Service β}
    (h : Keeps setup p go) : Keeps setup p (if c then MonadExcept.throw e >>= rest else go) := by
  split
  · exact of_ends fun _ hw => ends_bind.2 ((ends_throw e).2 hw)
  · exact h

theorem discard (hs : Keeps setup p s) : Keeps setup p (discard s) :=
  of_ends fun _ hw => ends_discard.2 <| hs.ends hw (fun _ _ h => h) fun _ _ h => h

theorem tryCatch {handle : Error → Service α} (hs : Keeps setup p s) (hh : ∀ e, Keeps setup p (handle e)) :
    Keeps setup p (tryCatch s handle) :=
  of_ends fun _ hw => (ends_tryCatch _).2 <|
    hs.ends hw (fun _ _ h => h) fun e _ hleft => (hh e).ends hleft (fun _ _ h => h) fun _ _ h => h

theorem quietly {s : Service Unit} (hs : Keeps setup p s) : Keeps setup p (quietly s) :=
  tryCatch hs fun _ => pure _

theorem lift (x : Except Error α) : Keeps setup p (lift x) := by
  cases x
  · exact throw _
  · exact pure _

end Keeps

end AccessBroker.Service
