import AccessBroker.Proofs.Bystanders
import AccessBroker.Proofs.Steps

/-! # Who is told of what

Listeners are told of a request once, when an operation on it is through.
Before that nobody is told of anything, so nobody ever hears of what failed.
-/

namespace AccessBroker.Service

def tells (kind : CallKind) : Bool :=
  kind == .notify

/-- These are the calls to listeners that were made, latest first. -/
def Told (calls : List Call) (w : World) : Prop :=
  made tells w = calls

theorem filterMap_journal {event : Call → Option Event}
    (silent : ∀ call : Call, tells call.kind = false → event call = none) (w : World) :
    w.journal.reverse.filterMap event = (made tells w).reverse.filterMap event := by
  rw [made, ← List.filter_reverse, List.filterMap_filter]
  congr 1
  funext call
  cases told : tells call.kind with
  | true => rfl
  | false => exact silent call told

def heard : Call → Option Event
  | .notify e => some e
  | _ => none

theorem events_eq (w : World) : w.events = (made tells w).reverse.filterMap heard := by
  refine filterMap_journal (fun call quiet => ?_) w
  cases call <;> first | rfl | cases quiet

theorem events_eq_of_told {w left : World} (h : Told (made tells w) left) :
    left.events = w.events := by
  have same : made tells left = made tells w := h
  rw [events_eq, events_eq, same]

theorem events_append_of_told {w left : World} {e : Event}
    (h : Told (.notify e :: made tells w) left) : left.events = w.events ++ [e] := by
  have more : made tells left = .notify e :: made tells w := h
  rw [events_eq, events_eq, more, List.reverse_cons, List.filterMap_append]
  rfl

variable {setup : Setup} {calls : List Call}

/-- Whatever else is called or changed, no listener hears of it. -/
theorem aloof_told : Aloof setup tells (Told calls) where
  books := overlooks_made
  quiet _ other := beq_eq_false_iff_ne.2 other
  requests _ _ h := h
  directory _ _ h := h
  cloud _ _ h := h
  eligible _ _ h := h
  drawn _ _ h := h
  reading key force := .fetchRole (overlooksTiers_made ⟨rfl, rfl⟩ key) rfl force

/-! ## Telling -/

/-- Whether or not listeners take it, they are told. -/
theorem told_announce {w : World} (r : Request) (former : Option Status) (told : Told calls w) :
    Ends setup w (announce r former) (fun _ => Told (.notify (.of former r) :: calls))
      fun _ _ => False := by
  have logged : Told (.notify (.of former r) :: calls)
      { w with journal := .notify (.of former r) :: w.journal } :=
    (List.filter_cons_of_pos rfl).trans (congrArg (List.cons _) told)
  simp only [announce, ends_quietly, notify, ends_bind, ends_log, ends_discard]
  exact (Keeps.meet overlooks_made .notify).ends logged (fun _ _ h => h) fun _ _ h => h

/-- If the service succeeds, listeners are last told of the request that it answers, and how it was
before; if it fails, nobody was told of anything. -/
def Announces (setup : Setup) (calls : List Call) (former : Option Status)
    (s : Service Request) : Prop :=
  ∀ w, Told calls w →
    Ends setup w s (fun r => Told (.notify (.of former r) :: calls)) fun _ => Told calls

def FailsUnheard {α : Type} (setup : Setup) (calls : List Call) (s : Service α) : Prop :=
  ∀ w, Told calls w → Ends setup w s (fun _ _ => True) fun _ => Told calls

namespace Announces

variable {α : Type} {former : Option Status} {s : Service α} {f : α → Service Request}

/-- Only the last step tells of something. -/
theorem bind (hs : Keeps setup (Told calls) s) (hf : ∀ a, Announces setup calls former (f a)) :
    Announces setup calls former (s >>= f) :=
  fun _ hw => ends_bind.2 <|
    hs.ends hw (fun a left told => hf a left told) fun _ _ told => told

theorem announced (r : Request) (former : Option Status) :
    Announces setup calls former (do announce r former; return r) := by
  intro w told
  simp only [ends_bind, ends_pure]
  exact (told_announce r former told).mono (fun _ _ h => h) fun _ _ h => h.elim

theorem failsUnheard {s : Service Request} (h : Announces setup calls former s) :
    FailsUnheard setup calls s :=
  fun w hw => (h w hw).mono (fun _ _ _ => trivial) fun _ _ told => told

end Announces

namespace FailsUnheard

variable {α β : Type} {s : Service α} {f : α → Service β}

theorem of_keeps (h : Keeps setup (Told calls) s) : FailsUnheard setup calls s :=
  fun _ hw => h.ends hw (fun _ _ _ => trivial) fun _ _ told => told

theorem bind (hs : Keeps setup (Told calls) s) (hf : ∀ a, FailsUnheard setup calls (f a)) :
    FailsUnheard setup calls (s >>= f) :=
  fun _ hw => ends_bind.2 <|
    hs.ends hw (fun a left told => hf a left told) fun _ _ told => told

end FailsUnheard

/-! ## Whole operations -/

/-- A verdict on a request that was found, up to telling of it. -/
theorem announces_verdict (setup : Setup) (who : Identity) (r : Request) (v : Verdict) :
    Announces setup calls (some r.status) (do
      lift (r.status.ensureStep v.status)
      let route ← approvalRoute r.target
      let changed ← step who r route (← allowLists) v
      announce changed (some r.status)
      return changed) :=
  .bind (.lift _) fun _ => .bind (aloof_told.approvalRoute _) fun _ => .bind Aloof.allowLists fun _ =>
    .bind aloof_told.step fun changed => .announced changed _

theorem failsUnheard_updateStatus (setup : Setup) (who : Identity) (id : String) (v : Verdict) :
    FailsUnheard setup calls (updateStatus who id v) :=
  .bind (aloof_told.requireRequest id) fun r => (announces_verdict setup who r v).failsUnheard

theorem failsUnheard_updateProposal (setup : Setup) (who : Identity) (id : String)
    (proposed : PolicyChange) :
    FailsUnheard setup calls (updateProposal who id proposed) :=
  .of_keeps (aloof_told.updateProposal who id proposed)

theorem announces_submit (setup : Setup) (who : Identity) (s : Submission) :
    Announces setup calls none (submit who s) := by
  refine .bind .now fun _ => .bind (.lift _) fun _ =>
    .bind (aloof_told.approvalRoute _) fun route => .bind (.lift _) fun _ =>
      .bind aloof_told.ensureNonePending fun _ =>
        .bind (.modifyGet fun _ told => told) fun id =>
          .bind (aloof_told.insertRequest _) fun _ =>
            .bind (.quietly (aloof_told.appendUserRequest _ _)) fun _ => ?_
  split
  · exact .bind aloof_told.approve fun r => .announced r none
  · exact .announced _ none

theorem failsUnheard_submit (setup : Setup) (who : Identity) (s : Submission) :
    FailsUnheard setup calls (submit who s) :=
  (announces_submit setup who s).failsUnheard

end AccessBroker.Service
