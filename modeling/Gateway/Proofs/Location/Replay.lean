import Gateway.Proofs.Location.Books
import Gateway.Proofs.Outbound.Sent

/-!
# Attempts send the same request

Nothing that an attempt leaves behind finds its way into the next one. Whatever happens
between the attempts of a request, each of them sends what the client sent: what is sent to
one endpoint differs from what is sent to another in the endpoint alone.
-/

namespace Gateway

variable {β μ ο σ : Type}

/-- The parts of a request that make up what is sent for it. -/
structure Message where
  method : Method
  uri : Uri
  headers : Headers
  peer : Option SocketAddress
  body : Bytes

def Request.message (r : Request) : Message := ⟨r.method, r.uri, r.headers, r.peer, r.body⟩

/-- Middlewares may note something on a request, but do not change what is sent for it. -/
structure Handlers.KeepMessage (h : Handlers β μ ο σ) : Prop where
  onRequest : ∀ m r s, (h.onRequest m r s).2.1.message = r.message
  onResponse : ∀ m r a s, (h.onResponse m r a s).1.message = r.message

namespace Builtin

variable {ξ ζ τ : Type} {c : Custom β ξ ζ τ}

structure Custom.KeepMessage (c : Custom β ξ ζ τ) : Prop where
  onRequest : ∀ m r s, (c.onRequest m r s).2.1.message = r.message
  onResponse : ∀ m r a s, (c.onResponse m r a s).1.message = r.message

theorem Custom.none_keepMessage : (Custom.none : Custom β Empty Empty τ).KeepMessage := by
  constructor <;> intros <;> rfl

/-- The built-in middlewares do not change a request at all. -/
theorem Custom.KeepMessage.handlers (hc : c.KeepMessage) : c.handlers.KeepMessage where
  onRequest := by
    rintro ⟨name, settings | slot | x⟩ r s
    · rfl
    · rfl
    · exact hc.onRequest (name, x) r s
  onResponse := by
    rintro ⟨name, settings | slot | x⟩ r a s
    · rfl
    · rfl
    · exact hc.onResponse (name, x) r a s

end Builtin

/-! ## What is kept on the way -/

section

variable {h : Handlers β μ ο σ} {l : Location} {r : Request}

theorem message_runMiddlewares (hh : h.KeepMessage) (ms : List (String × μ)) (r : Request)
    (s : Site β μ ο σ) : (runMiddlewares h ms r s).2.2.1.message = r.message :=
  runMiddlewares_request (fun m r' s hr => (hh.onRequest m r' s).trans hr) ms rfl s

theorem message_tellMiddlewares (hh : h.KeepMessage) (a : Attempt) (ran : List (String × μ))
    (r : Request) (s : Site β μ ο σ) : (tellMiddlewares h a ran r s).1.message = r.message :=
  tellMiddlewares_request (fun m r' s hr => (hh.onResponse m r' a s).trans hr) ran rfl s

/-- The request on its way is still what it was, and if it waits for a backend, then what was
sent was made of it. -/
structure Flight.Faithful (l : Location) (r : Request) (f : Flight μ ο) : Prop where
  message : ∀ r', f.request? = some r' → r'.message = r.message
  sent : ∀ t out, f = .sending t out →
    Outbound.ofRequest t.visit.request t.member.endpoint l.trustForwarded = .ok out

/-- A flight that waits for no backend has only its request to keep. -/
theorem faithful_of_request {f : Flight μ ο} {r₁ : Request} (hf : f.request? = some r₁)
    (htrial : f.trial? = none) (hr₁ : r₁.message = r.message) : f.Faithful l r := by
  constructor
  · intro r' hr'
    rw [hf] at hr'
    rw [← Option.some.inj hr']
    exact hr₁
  · rintro t out rfl
    cases htrial

theorem faithful_crashed : (Flight.crashed : Flight μ ο).Faithful l r := by
  constructor
  · intro r' hr'
    cases hr'
  · intro t out hsent
    cases hsent

theorem faithful_proceed {v : Visit} (hv : v.request.message = r.message) (a : Attempt)
    (s : Site β μ ο σ) : (proceed (μ := μ) (ο := ο) l v a s).1.Faithful l r := by
  cases hretry : l.failover.shouldRetry v.request.method a v.made v.budget with
  | true =>
    rw [proceed_retry hretry]
    cases (l.failover.backoff s.draws.take.1 v.made).pause? with
    | none => exact faithful_crashed
    | some nanos =>
      show (Flight.resting v nanos).Faithful l r
      exact faithful_of_request rfl rfl hv
  | false =>
    rw [proceed_finished hretry]
    exact faithful_of_request rfl rfl hv

theorem faithful_conclude (hh : h.KeepMessage) {t : Trial μ ο}
    (ht : t.visit.request.message = r.message) (o : Outcome) (intercepted : Bool)
    (s : Site β μ ο σ) : (conclude h l t o intercepted s).1.Faithful l r := by
  rw [conclude_eq]
  apply faithful_proceed
  exact (message_tellMiddlewares hh _ t.ran _ s).trans ht

variable [Balancer β]

theorem Trial.Begun.message (hh : h.KeepMessage) {t : Trial μ ο} {v : Visit}
    {s : Site β μ ο σ} (ht : t.Begun h v s) : t.visit.request.message = v.request.message := by
  rw [ht.request]
  exact message_runMiddlewares hh _ v.request _

theorem ofRequest_of_round {v : Visit} {s : Site β μ ο σ} {t : Trial μ ο} {out : Outbound}
    (hround : (v.round h l s).1 = .sent t out) :
    Outbound.ofRequest t.visit.request t.member.endpoint l.trustForwarded = .ok out := by
  unfold Visit.round at hround
  rcases hopening : v.opening h s with ⟨e | m, s₁⟩
  · rw [hopening] at hround
    cases hround
  · rcases hrun : runMiddlewares h s₁.middlewares.entries v.request s₁ with
      ⟨ran, verdict, r₁, s₂⟩
    simp only [hopening, hrun] at hround
    cases verdict with
    | crash => cases hround
    | respond response => cases hround
    | reject rejection => cases hround
    | pass =>
      simp only [Round.ofVerdict] at hround
      cases hout : Outbound.ofRequest r₁ m.endpoint l.trustForwarded with
      | error e =>
        rw [hout] at hround
        cases hround
      | ok out' =>
        rw [hout] at hround
        obtain ⟨rfl, rfl⟩ := Round.sent.inj hround
        exact hout

/-- A round leaves the request as it is, and sends what is made of it. -/
theorem faithful_resume (hh : h.KeepMessage) {v : Visit} (hv : v.request.message = r.message)
    (s : Site β μ ο σ) : (resume h l v s).1.Faithful l r := by
  have hround := v.round_of h l s
  -- What was sent is known of the round as a whole, so before it is taken by its kinds.
  have hsent : ∀ t out, (v.round h l s).1 = .sent t out →
      Outbound.ofRequest t.visit.request t.member.endpoint l.trustForwarded = .ok out :=
    fun t out => ofRequest_of_round
  rw [resume_eq]
  generalize (v.round h l s).2 = s'
  generalize (v.round h l s).1 = round at hround hsent ⊢
  cases hround with
  | unplaced =>
    show (Flight.finished v.request _).Faithful l r
    exact faithful_of_request rfl rfl hv
  | brokeDown => exact faithful_crashed
  | intercepted begun => exact faithful_conclude hh ((begun.message hh).trans hv) _ _ _
  | unsendable passed => exact faithful_conclude hh ((passed.message hh).trans hv) _ _ _
  | @sent t out passed =>
    show (Flight.sending t out).Faithful l r
    constructor
    · intro r' hr'
      rw [← Option.some.inj hr']
      exact (passed.message hh).trans hv
    · intro t' out' heq
      obtain ⟨rfl, rfl⟩ := Flight.sending.inj heq
      exact hsent t out rfl

theorem faithful_step (hh : h.KeepMessage) (e : Surroundings β μ ο σ)
    {f : Flight μ ο × Site β μ ο σ} (hf : f.1.Faithful l r) :
    (Flight.step h l e f).1.Faithful l r := by
  obtain ⟨f, s⟩ := f
  cases f with
  | sending t out => exact faithful_conclude hh (hf.message _ rfl) _ _ _
  | resting v nanos => exact faithful_resume hh (hf.message _ rfl) _
  | finished r' o => exact hf
  | crashed => exact hf

theorem faithful_leads (hh : h.KeepMessage) {e : Surroundings β μ ο σ} {s : Site β μ ο σ}
    {f : Flight μ ο × Site β μ ο σ} (hf : Leads h l e (launch h l r s) f) :
    f.1.Faithful l r := by
  -- By induction on the steps: before the first one, the request is the client's own.
  obtain ⟨n, rfl⟩ := hf
  induction n with
  | zero =>
    show (resume h l (Visit.first l r s) s).1.Faithful l r
    exact faithful_resume hh (v := Visit.first l r s) rfl s
  | succ n ih =>
    rw [Function.iterate_succ_apply']
    exact faithful_step hh e ih

end

/-! ## What endpoints are sent -/

namespace Outbound

theorem ofRequest_message {r r' : Request} (hr : r'.message = r.message) (e : Endpoint)
    (trust : Bool) : ofRequest r' e trust = ofRequest r e trust := by
  obtain ⟨hmethod, huri, hheaders, hpeer, hbody⟩ := Message.mk.inj hr
  unfold ofRequest target addForwarded addHost addProto addClient
  rw [hmethod, huri, hheaders, hpeer, hbody]

end Outbound

section

variable {ξ ζ τ : Type} [Balancer β] {c : Builtin.Custom β ξ ζ τ}

/-- Each attempt at an endpoint sends the client's request, whatever the attempts before it
have left behind: any two of them send the same but for scheme and authority. -/
theorem sendings_replay (hc : c.KeepMessage) {text : String} {r : Request}
    (hr : Uri.ofString text = .ok r.uri) {l : Location}
    {e : Surroundings β (Middleware ξ) (Observer ζ) (Store τ)} {s s₁ s₂ : Workplace β ξ ζ τ}
    {t₁ t₂ : Trial (Middleware ξ) (Observer ζ)} {out₁ out₂ : Outbound}
    (h₁ : Leads c.handlers l e (launch c.handlers l r s) (.sending t₁ out₁, s₁))
    (h₂ : Leads c.handlers l e (launch c.handlers l r s) (.sending t₂ out₂, s₂))
    (he₁ : ∃ url, Endpoint.parse url = .ok t₁.member.endpoint)
    (he₂ : ∃ url, Endpoint.parse url = .ok t₂.member.endpoint) :
    out₁.Replays r l.trustForwarded t₁.member.endpoint ∧
      out₂.Replays r l.trustForwarded t₂.member.endpoint ∧
      out₂ = { out₁ with uri := { out₁.uri with
        scheme := out₂.uri.scheme, authority := out₂.uri.authority } } := by
  have hr := Uri.form_of_ofString hr
  have hmade : ∀ t out s', Leads c.handlers l e (launch c.handlers l r s) (.sending t out, s') →
      Outbound.ofRequest r t.member.endpoint l.trustForwarded = .ok out := by
    intro t out s' hleads
    have hfaithful := faithful_leads hc.handlers hleads
    rw [← Outbound.ofRequest_message (hfaithful.message _ rfl)]
    exact hfaithful.sent t out rfl
  obtain ⟨url₁, hparse₁⟩ := he₁
  obtain ⟨url₂, hparse₂⟩ := he₂
  have hplain₁ := Endpoint.plain_of_parse hparse₁
  have hplain₂ := Endpoint.plain_of_parse hparse₂
  have hmade₁ := hmade t₁ out₁ s₁ h₁
  have hmade₂ := hmade t₂ out₂ s₂ h₂
  exact ⟨Outbound.replays_of_ofRequest hplain₁ hr hmade₁,
    Outbound.replays_of_ofRequest hplain₂ hr hmade₂,
    Outbound.eq_but_server_of_ofRequest hplain₁ hplain₂ hr hmade₁ hmade₂⟩

end

/-- What a backend was sent whose answer is waited for. -/
def Flight.sent? : Flight μ ο → Option Outbound
  | .sending _ out => some out
  | _ => none

theorem sending_of_sent? {f : Flight μ ο × Site β μ ο σ} {out : Outbound} {m : Member}
    (hsent : f.1.sent? = some out) (hm : f.1.trial?.map Trial.member = some m) :
    ∃ t, t.member = m ∧ f = (.sending t out, f.2) := by
  obtain ⟨f, s⟩ := f
  cases f with
  | sending t out' =>
    cases hsent
    cases hm
    exact ⟨t, rfl, rfl⟩
  | resting v nanos => cases hsent
  | finished r o => cases hsent
  | crashed => cases hsent

namespace Twins

/-- A client that came by another proxy, and has a field for this one alone. -/
def passerBy : Request where
  id := 1
  method := .get
  uri := ⟨none, none, ⟨"/cart", some "page=2"⟩⟩
  version := .http10
  headers := ⟨[(.host, Utf8.encode "shop"), (.connection, Utf8.encode "close, X-Hint"),
    (⟨"x-hint"⟩, Utf8.encode "abc"), (⟨"cookie"⟩, Utf8.encode "a"),
    (.forwardedFor, Utf8.encode "10.9.9.9, 10.8.8.8"), (⟨"cookie"⟩, Utf8.encode "b"),
    (.contentLength, Utf8.encode "5")]⟩
  peer := some { ip := .v4 (.ofOctets 10 0 0 1), port := 5000 }
  body := Utf8.encode "hello"

/-- What a server is sent of its request. -/
def passedOn (authority : String) : Outbound where
  method := .get
  uri := ⟨some "http", some authority, ⟨"/cart", some "page=2"⟩⟩
  version := .http11
  headers := ⟨[(.host, Utf8.encode "shop"), (⟨"cookie"⟩, Utf8.encode "a"),
    (⟨"cookie"⟩, Utf8.encode "b"),
    (.forwardedFor, Utf8.encode "10.9.9.9, 10.8.8.8, 10.0.0.1"),
    (.forwardedProto, Utf8.encode "http"), (.forwardedHost, Utf8.encode "shop")]⟩
  body := Utf8.encode "hello"

def trusting : Location := { branch.location with trustForwarded := true }

/-- The flight of the client's request after `n` steps. -/
def after (n : Nat) :
    Flight (Middleware Empty) (Observer Empty) × Workplace Rotation Empty Empty Unit :=
  (Flight.step Builtin.Custom.none.handlers trusting (.quiet outcome))^[n]
    (launch Builtin.Custom.none.handlers trusting passerBy workplace)

end Twins

/-- The first server does not answer, so the second one is sent the request as well: with the
client's address once, like the first. -/
theorem sendings_replay_twins : ∃ t₁ t₂,
    t₁.member.id = "http://a:80" ∧ t₂.member.id = "http://b:80" ∧
    Twins.after 0 = (.sending t₁ (Twins.passedOn "a:80"), (Twins.after 0).2) ∧
    Twins.after 2 = (.sending t₂ (Twins.passedOn "b:80"), (Twins.after 2).2) ∧
    (Twins.passedOn "a:80").Replays Twins.passerBy true t₁.member.endpoint ∧
    (Twins.passedOn "b:80").Replays Twins.passerBy true t₂.member.endpoint ∧
    Twins.passedOn "b:80" = { Twins.passedOn "a:80" with uri := { (Twins.passedOn "a:80").uri with
      scheme := (Twins.passedOn "b:80").uri.scheme
      authority := (Twins.passedOn "b:80").uri.authority } } := by
  have ha : (Twins.after 0).1.sent? = some (Twins.passedOn "a:80") := by decide +kernel
  have hb : (Twins.after 2).1.sent? = some (Twins.passedOn "b:80") := by decide +kernel
  obtain ⟨t₁, hm₁, hsent₁⟩ := sending_of_sent? (m := ⟨0, ⟨.http, .domain "a", 80, "http://a/"⟩⟩)
    ha (by decide +kernel)
  obtain ⟨t₂, hm₂, hsent₂⟩ := sending_of_sent? (m := ⟨1, ⟨.http, .domain "b", 80, "http://b/"⟩⟩)
    hb (by decide +kernel)
  have hr : Uri.ofString "/cart?page=2" = .ok Twins.passerBy.uri := by decide +kernel
  have he₁ : Endpoint.parse "http://a" = .ok t₁.member.endpoint := by
    rw [hm₁]
    decide +kernel
  have he₂ : Endpoint.parse "http://b" = .ok t₂.member.endpoint := by
    rw [hm₂]
    decide +kernel
  refine ⟨t₁, t₂, ?_, ?_, hsent₁, hsent₂, ?_⟩
  · rw [hm₁]
    decide +kernel
  · rw [hm₂]
    decide +kernel
  · exact sendings_replay Builtin.Custom.none_keepMessage hr ⟨0, hsent₁⟩ ⟨2, hsent₂⟩ ⟨_, he₁⟩
      ⟨_, he₂⟩

end Gateway
