import Gateway.Location.Builtin
import Gateway.Proofs.Location.Account

/-!
# What built-in handlers leave alone

Breakers, limiters and the observer of the metrics change nothing but the store. What other
handlers leave alone is left alone by all of them, then, unless it stands there.
-/

namespace Gateway

namespace Builtin

variable {β ξ ζ τ α : Type} {c : Custom β ξ ζ τ} {view : Workplace β ξ ζ τ → α}

/-- They leave alone what is looked at. -/
structure Custom.Keep (c : Custom β ξ ζ τ) (view : Workplace β ξ ζ τ → α) : Prop where
  onRequest : ∀ m r s, view (c.onRequest m r s).2.2 = view s
  onResponse : ∀ m r a s, view (c.onResponse m r a s).2 = view s
  seeRequest : ∀ o r s, view (c.seeRequest o r s) = view s
  seeResponse : ∀ o r a s, view (c.seeResponse o r a s) = view s
  seeFailure : ∀ o r e s, view (c.seeFailure o r e s) = view s

/-- Nor do they change the history of a request. -/
structure Custom.KeepHistory (c : Custom β ξ ζ τ) : Prop where
  onRequest : ∀ m r s, (c.onRequest m r s).2.1.attempts = r.attempts
  onResponse : ∀ m r a s, (c.onResponse m r a s).1.attempts = r.attempts

theorem Custom.none_keep (view : Workplace β Empty Empty τ → α) :
    (Custom.none : Custom β Empty Empty τ).Keep view := by
  constructor <;> intros <;> rfl

theorem Custom.KeepHistory.handlers (hc : c.KeepHistory) : c.handlers.KeepHistory where
  onRequest := by
    rintro ⟨name, settings | slot | x⟩ r s
    · rfl
    · rfl
    · exact hc.onRequest (name, x) r s
  onResponse := by
    rintro ⟨name, settings | slot | x⟩ r a s
    · rfl
    · rfl
    · exact hc.onResponse (name, x) r a s

/-- What neither a breaker nor a limiter changes when it is asked. -/
theorem Custom.Keep.view_onRequest (hc : c.Keep view)
    (hask : ∀ settings slot s, view (askBreaker settings slot s).2 = view s)
    (hlimit : ∀ slot l s, view (modifyStore (·.setLimiter slot l) s) = view s)
    (m : String × Middleware ξ) (r : Request) (s : Workplace β ξ ζ τ) :
    view (c.handlers.onRequest m r s).2.2 = view s := by
  rcases m with ⟨name, ⟨settings, slot⟩ | slot | x⟩
  · exact hask settings slot s
  · show view (askLimiter slot r s).2 = view s
    unfold askLimiter
    cases s.shared.limiters[slot]? with
    | none => rfl
    | some l =>
        simp only []
        rcases l.request s.now r.clientKey with ⟨admission, l'⟩
        cases admission <;> exact hlimit slot l' s
  · exact hc.onRequest (name, x) r s

theorem Custom.Keep.view_seeRequest (hc : c.Keep view) (o : String × Observer ζ) (r : Request)
    (s : Workplace β ξ ζ τ) : view (c.handlers.seeRequest o r s) = view s := by
  rcases o with ⟨name, location | z⟩
  · rfl
  · exact hc.seeRequest (name, z) r s

/-- What does not stand in the store is left alone by all handlers. -/
theorem Custom.Keep.handlers (hc : c.Keep view)
    (hstore : ∀ f s, view (modifyStore f s) = view s) : c.handlers.Keep view where
  onRequest := hc.view_onRequest (fun _ _ _ => hstore _ _) (fun _ _ _ => hstore _ _)
  onResponse := by
    rintro ⟨name, ⟨settings, slot⟩ | slot | x⟩ r a s
    · exact hstore _ _
    · rfl
    · exact hc.onResponse (name, x) r a s
  seeRequest := hc.view_seeRequest
  seeResponse := by
    rintro ⟨name, location | z⟩ r a s
    · exact hstore (fun t => { t with metrics := t.metrics.observeAttempt location a }) s
    · exact hc.seeResponse (name, z) r a s
  seeFailure := by
    rintro ⟨name, location | z⟩ r e s
    · exact hstore (fun t => { t with metrics := t.metrics.observeFailure location e }) s
    · exact hc.seeFailure (name, z) r e s

end Builtin

end Gateway
