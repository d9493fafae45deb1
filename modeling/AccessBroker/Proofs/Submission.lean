import AccessBroker.Proofs.Histories
import AccessBroker.Proofs.Outcomes

/-! # Submitting a request

A submission that is stored at all stays stored, also when it cannot be put
into effect at once.
-/

namespace AccessBroker.Service

open World (Alike)

variable {setup : Setup} {w : World}

theorem ensureRequestable_eq_ok {target : Target} {route : Route} {u : Unit}
    (h : ensureRequestable target route = .ok u) :
    route.requestable = true ∧ route.restricted = false := by
  unfold ensureRequestable at h
  split at h
  · cases h
  · split at h
    · cases h
    · simp_all

/-- A stored submission is put into effect or waits, as its route has it. -/
theorem records_settle {who : Identity} {s : Submission} {route : Route} {noted : World}
    (now : noted.now = w.now)
    (here : ∀ id, noted.requests.find? id = (w.requests.put (nextRequest w who s)).find? id)
    (stores : ∀ r left, Started w who s route r → r.id = (nextRequest w who s).id →
      (∀ id, left.requests.find? id = (w.requests.put r).find? id) →
      History setup w (.submit who s) left) :
    Records setup w (.submit who s) noted (settle who (nextRequest w who s) route) := by
  have waits {left : World} (h : left.requests = noted.requests) :
      History setup w (.submit who s) left :=
    stores _ left (.waiting _) rfl fun id => h ▸ here id
  have replaced {r : Request} {left : World} (h : left.requests = noted.requests.put r)
      (same : r.id = (nextRequest w who s).id) (id : String) :
      left.requests.find? id = (w.requests.put r).find? id :=
    h ▸ RequestStore.find?_put_hides same here id
  unfold settle
  split
  · next auto =>
    simp only [ends_bind, ends_pure]
    refine ends_approve (fun snapshot left kept _ h => ?_) (fun e snapshot left policy h => ?_)
      fun e left h => waits h
    · rw [now] at h
      exact ends_announce fun told alike =>
        stores _ told (.approved _ auto kept) rfl (replaced (alike.requests.trans h) rfl)
    · exact stores _ left (.prepared _ auto policy) rfl (replaced h rfl)
  · simp only [ends_bind, ends_pure]
    exact ends_announce fun told alike => waits alike.requests

theorem records_submit (who : Identity) (s : Submission) :
    Records setup w (.submit who s) w (submit who s) := by
  refine ends_submit (fun e drawn left _ alike => .unchanged alike.requests)
    fun route noted just => ?_
  have admitted := just.admitted
  obtain ⟨requestable, unrestricted⟩ := ensureRequestable_eq_ok admitted.requestable
  refine records_settle just.alike.now just.held fun r left started same h => ?_
  have id : r.id = w.nextId := same
  refine .create rfl (id ▸ admitted.fresh) ?_ h
  exact ⟨admitted.valid, ⟨route, admitted.routed, requestable, unrestricted, started⟩, id,
    admitted.free⟩

end AccessBroker.Service
