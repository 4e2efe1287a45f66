import Gateway.Front
import Gateway.Proofs.Body.Reading
import Mathlib

/-!
# What becomes of a request

A location sees a request only when all of its body has been read, and it sees it once. In
all other cases the client is told what is wrong, and no location has been touched. Whoever
is told of an error has been relieved of the rest of the body before, unless that takes too
long.
-/

namespace Gateway

variable {κ ω : Type}

/-- What locations do with requests: the outcome, when it is there, and the world afterwards. -/
abbrev Exchange (κ ω : Type) := κ → Request → Nat → ω → Run (Outcome × Nat × ω)

/-- Writes down which requests are handed to which locations. -/
def Exchange.noted (exchange : Exchange κ ω) : Exchange κ (ω × List (κ × Request)) :=
  fun k r now w => (exchange k r now w.1).bind fun (o, time, w') =>
    .ended (o, time, w', w.2 ++ [(k, r)])

namespace Front

/-- The limits that the body of a request to a location is read within. -/
def bounds (p : Front κ) (k : κ) : BodyLimits := (p.limits k).getD {}

/-- What the client is told of an error: what it is rejected with, or no more than that the
gateway itself failed, or that no backend has answered. -/
inductive Tells : Error → Rejection → Prop
  | rejected {x} : Tells (.rejected x) x
  | internal {message} : Tells (.internal message)
      (.http ⟨500, by decide, by decide⟩ "Internal Server Error" none)
  | other {e} : (∀ x, e ≠ .rejected x) → (∀ message, e ≠ .internal message) →
      Tells e (.http ⟨502, by decide, by decide⟩ "Bad Gateway" none)

/-- A content type stands in a line, unless it is no value of a field. -/
def typeLines (contentType : String) : List (FieldName × Bytes) :=
  if FieldValue.isValid (Utf8.encode contentType) then
    [(⟨"content-type"⟩, Utf8.encode contentType)]
  else []

/-- Whoever has sent too many requests is told in how many seconds to come back, and no one
else is. -/
def retryLines : Rejection → List (FieldName × Bytes)
  | .retry seconds => [(⟨"retry-after"⟩, Utf8.encode (toString seconds))]
  | .http .. => []

/-- The document that a client is sent for a rejection. -/
structure Renders (p : Front κ) (x : Rejection) (response : Response) : Prop where
  status : response.status = (p.formatter x).status
  payload : response.payload = { data := (p.formatter x).body }
  headers : response.headers = ⟨typeLines (p.formatter x).contentType ++ retryLines x⟩

/-- How a request is handled whose body `d` arrives from `now` on: the time of the answer, the
answer, the world afterwards, and the requests that were handed to locations. -/
inductive Handles (p : Front κ) (exchange : Exchange κ ω) (r : Request) (now : Nat) (d : Delivery)
    (w : ω) : Nat → Response → ω → List (κ × Request) → Prop
  | misrouted {e x response time} : p.router r = .error e → Tells e x → p.Renders x response →
      d.Drains (now + p.drainLimit) now time → Handles p exchange r now d w time response w []
  | unrouted {response time} : p.router r = .ok none →
      p.Renders (.http ⟨502, by decide, by decide⟩ "Bad Gateway" none) response →
      d.Drains (now + p.drainLimit) now time → Handles p exchange r now d w time response w []
  | late {k t rest response time} : p.router r = .ok (some k) →
      (p.bounds k).Reads now d t (.error .timeout) rest →
      p.Renders (.http ⟨408, by decide, by decide⟩ "Request Timeout" none) response →
      rest.Drains (t + p.drainLimit) t time → Handles p exchange r now d w time response w []
  | oversized {k t limit rest response time} : p.router r = .ok (some k) →
      (p.bounds k).Reads now d t (.error (.tooLarge limit)) rest →
      p.Renders (.http ⟨413, by decide, by decide⟩ "Payload Too Large" none) response →
      rest.Drains (t + p.drainLimit) t time → Handles p exchange r now d w time response w []
  | unreadable {k t f rest response time} : p.router r = .ok (some k) →
      (p.bounds k).Reads now d t (.error (.read f)) rest →
      p.Renders (.http ⟨400, by decide, by decide⟩ "Bad Request" none) response →
      rest.Drains (t + p.drainLimit) t time → Handles p exchange r now d w time response w []
  | served {k t rest response time w'} : p.router r = .ok (some k) →
      (p.bounds k).Reads now d t (.ok d.octets) rest →
      exchange k { r with body := d.octets } t w = .ended (.ok response, time, w') →
      Handles p exchange r now d w time response w' [(k, { r with body := d.octets })]
  | failed {k t rest e t' w' x response time} : p.router r = .ok (some k) →
      (p.bounds k).Reads now d t (.ok d.octets) rest →
      exchange k { r with body := d.octets } t w = .ended (.error e, t', w') →
      Tells e x → p.Renders x response → rest.Drains (t' + p.drainLimit) t' time →
      Handles p exchange r now d w time response w' [(k, { r with body := d.octets })]

/-! ## What clients are told -/

theorem tells_iff {e : Error} {x : Rejection} : Tells e x ↔ e.rejection = x := by
  constructor
  · intro htells
    cases htells with
    | rejected => rfl
    | internal => rfl
    | other hrejected hinternal =>
        cases e with
        | rejected x => exact absurd rfl (hrejected x)
        | internal message => exact absurd rfl (hinternal message)
        | _ => rfl
  · rintro rfl
    cases e with
    | rejected x => exact .rejected
    | internal message => exact .internal
    | _ => exact .other nofun nofun

/-- The lines of the document for a rejection. -/
theorem rejectionHeaders_eq (x : Rejection) (contentType : String) :
    rejectionHeaders x contentType = ⟨typeLines contentType ++ retryLines x⟩ := by
  unfold rejectionHeaders typeLines
  by_cases hvalid : FieldValue.isValid (Utf8.encode contentType) = true
  · simp only [hvalid, if_true]
    cases x <;> rfl
  · simp only [hvalid, if_false, Bool.false_eq_true]
    cases x <;> rfl

theorem renders_refusal (p : Front κ) {e : Error} {x : Rejection} (hx : Tells e x) :
    p.Renders x (p.refusal e) := by
  obtain rfl := tells_iff.mp hx
  exact ⟨rfl, rfl, rejectionHeaders_eq _ _⟩

/-- There is one document for what is told of an error. -/
theorem Renders.refusal_eq {p : Front κ} {x : Rejection} {response : Response}
    (h : p.Renders x response) {e : Error} (hx : Tells e x) : p.refusal e = response := by
  have hrefusal := renders_refusal p hx
  rw [Response.mk.injEq]
  exact ⟨hrefusal.status.trans h.status.symm, hrefusal.headers.trans h.headers.symm,
    hrefusal.payload.trans h.payload.symm⟩

theorem tells_badGateway : Tells (.rejected (.ofStatus .badGateway))
    (.http ⟨502, by decide, by decide⟩ "Bad Gateway" none) :=
  tells_iff.mpr (by decide)

theorem tells_timeout : Tells (.rejected BodyReadError.timeout.rejection)
    (.http ⟨408, by decide, by decide⟩ "Request Timeout" none) :=
  tells_iff.mpr (by decide)

theorem tells_tooLarge (limit : Nat) : Tells (.rejected (BodyReadError.tooLarge limit).rejection)
    (.http ⟨413, by decide, by decide⟩ "Payload Too Large" none) := by
  have hstatus : Rejection.ofStatus .payloadTooLarge =
      .http ⟨413, by decide, by decide⟩ "Payload Too Large" none := by decide
  exact tells_iff.mpr hstatus

theorem tells_read (f : BodyFault) : Tells (.rejected (BodyReadError.read f).rejection)
    (.http ⟨400, by decide, by decide⟩ "Bad Request" none) := by
  have hstatus : Rejection.ofStatus .badRequest =
      .http ⟨400, by decide, by decide⟩ "Bad Request" none := by decide
  exact tells_iff.mpr hstatus

/-! ## All requests -/

section

variable {p : Front κ} {exchange : Exchange κ ω} {r : Request} {now t : Nat} {d rest : Delivery}
  {w : ω} {k : κ}

theorem handle_of_misrouted {e : Error} (hroute : p.router r = .error e) :
    p.handle exchange r now d w = .ended (d.drain (now + p.drainLimit) now, p.refusal e, w) := by
  simp only [handle, accept, hroute]
  rfl

theorem handle_of_unrouted (hroute : p.router r = .ok none) :
    p.handle exchange r now d w = .ended (d.drain (now + p.drainLimit) now,
      p.refusal (.rejected (.ofStatus .badGateway)), w) := by
  simp only [handle, accept, hroute]
  rfl

theorem handle_of_stuck (hroute : p.router r = .ok (some k)) (hread : (p.bounds k).read now d = none) :
    p.handle exchange r now d w = .stuck := by
  unfold bounds at hread
  simp only [handle, accept, hroute, hread]
  rfl

theorem handle_of_unread (hroute : p.router r = .ok (some k)) {e : BodyReadError}
    (hread : (p.bounds k).read now d = some ⟨t, .error e, rest⟩) :
    p.handle exchange r now d w =
      .ended (rest.drain (t + p.drainLimit) t, p.refusal (.rejected e.rejection), w) := by
  unfold bounds at hread
  simp only [handle, accept, hroute, hread]
  rfl

theorem handle_of_read (hroute : p.router r = .ok (some k)) {body : Bytes}
    (hread : (p.bounds k).read now d = some ⟨t, .ok body, rest⟩) :
    p.handle exchange r now d w =
      (exchange k { r with body } t w).bind fun (o, time, w') =>
        .ended ((p.conclude time rest o).1, (p.conclude time rest o).2, w') := by
  unfold bounds at hread
  simp only [handle, accept, hroute, hread]
  rfl

theorem drains_drain (p : Front κ) (t : Nat) (d : Delivery) :
    d.Drains (t + p.drainLimit) t (d.drain (t + p.drainLimit) t) :=
  (Delivery.drain_eq_iff (Nat.le_add_right t p.drainLimit)).mp rfl

theorem handles_of_ended {time : Nat} {response : Response} {w' : ω} {handed : List (κ × Request)}
    (hended : p.handle exchange.noted r now d (w, []) = .ended (time, response, w', handed)) :
    p.Handles exchange r now d w time response w' handed := by
  rcases hroute : p.router r with e | _ | k
  · rw [handle_of_misrouted hroute] at hended
    cases hended
    have htells : Tells e e.rejection := tells_iff.mpr rfl
    exact .misrouted hroute htells (renders_refusal p htells) (drains_drain p now d)
  · rw [handle_of_unrouted hroute] at hended
    cases hended
    exact .unrouted hroute (renders_refusal p tells_badGateway) (drains_drain p now d)
  · rcases hread : (p.bounds k).read now d with _ | ⟨t, e | body, rest⟩
    · rw [handle_of_stuck hroute hread] at hended
      cases hended
    · rw [handle_of_unread hroute hread] at hended
      cases hended
      have hreads := BodyLimits.read_iff.mp hread
      have hdrains := drains_drain p t rest
      cases e with
      | timeout => exact .late hroute hreads (renders_refusal p tells_timeout) hdrains
      | tooLarge limit =>
          exact .oversized hroute hreads (renders_refusal p (tells_tooLarge limit)) hdrains
      | read f => exact .unreadable hroute hreads (renders_refusal p (tells_read f)) hdrains
    · rw [handle_of_read hroute hread] at hended
      have hreads := BodyLimits.read_iff.mp hread
      obtain rfl := hreads.eq_octets
      unfold Exchange.noted at hended
      rcases hexchange : exchange k { r with body := d.octets } t w with ⟨o, t', w₁⟩ | _ | _
      · rw [hexchange] at hended
        cases o with
        | ok response =>
            cases hended
            exact .served hroute hreads hexchange
        | error e =>
            cases hended
            have htells : Tells e e.rejection := tells_iff.mpr rfl
            exact .failed hroute hreads hexchange htells (renders_refusal p htells)
              (drains_drain p t' rest)
      · rw [hexchange] at hended
        cases hended
      · rw [hexchange] at hended
        cases hended

theorem Handles.ended {time : Nat} {response : Response} {w' : ω} {handed : List (κ × Request)}
    (h : p.Handles exchange r now d w time response w' handed) :
    p.handle exchange.noted r now d (w, []) = .ended (time, response, w', handed) := by
  -- What is drained is drained up to a deadline that has not passed.
  have hdrained : ∀ {t time : Nat} {rest : Delivery}, rest.Drains (t + p.drainLimit) t time →
      rest.drain (t + p.drainLimit) t = time := fun hdrains =>
    (Delivery.drain_eq_iff (Nat.le_add_right _ p.drainLimit)).mpr hdrains
  cases h with
  | misrouted hroute htells hrenders hdrains =>
      rw [handle_of_misrouted hroute, hdrained hdrains, hrenders.refusal_eq htells]
  | unrouted hroute hrenders hdrains =>
      rw [handle_of_unrouted hroute, hdrained hdrains, hrenders.refusal_eq tells_badGateway]
  | late hroute hreads hrenders hdrains =>
      rw [handle_of_unread hroute (BodyLimits.read_iff.mpr hreads), hdrained hdrains,
        hrenders.refusal_eq tells_timeout]
  | oversized hroute hreads hrenders hdrains =>
      rw [handle_of_unread hroute (BodyLimits.read_iff.mpr hreads), hdrained hdrains,
        hrenders.refusal_eq (tells_tooLarge _)]
  | unreadable hroute hreads hrenders hdrains =>
      rw [handle_of_unread hroute (BodyLimits.read_iff.mpr hreads), hdrained hdrains,
        hrenders.refusal_eq (tells_read _)]
  | served hroute hreads hexchange =>
      rw [handle_of_read hroute (BodyLimits.read_iff.mpr hreads), Exchange.noted, hexchange]
      rfl
  | failed hroute hreads hexchange htells hrenders hdrains =>
      rw [handle_of_read hroute (BodyLimits.read_iff.mpr hreads), Exchange.noted, hexchange,
        ← hdrained hdrains, ← hrenders.refusal_eq htells]
      rfl

/-- What has been written down has changed nothing. -/
theorem handle_noted (p : Front κ) (exchange : Exchange κ ω) (r : Request) (now : Nat)
    (d : Delivery) (w : ω) :
    p.handle exchange r now d w = (p.handle exchange.noted r now d (w, [])).bind
      fun (time, response, w', _) => .ended (time, response, w') := by
  rcases hroute : p.router r with e | _ | k
  · rw [handle_of_misrouted hroute, handle_of_misrouted hroute]
    rfl
  · rw [handle_of_unrouted hroute, handle_of_unrouted hroute]
    rfl
  · rcases hread : (p.bounds k).read now d with _ | ⟨t, e | body, rest⟩
    · rw [handle_of_stuck hroute hread, handle_of_stuck hroute hread]
      rfl
    · rw [handle_of_unread hroute hread, handle_of_unread hroute hread]
      rfl
    · rw [handle_of_read hroute hread, handle_of_read hroute hread, Exchange.noted]
      rcases exchange k { r with body } t w with ⟨o, t', w₁⟩ | _ | _ <;> rfl

end

/-- Every request that is answered at all is handled in one of the ways told, and documents in
JSON have the status of what they tell. -/
theorem handle_classifies (p : Front κ) (exchange : Exchange κ ω) (r : Request) (now : Nat)
    (d : Delivery) (w : ω) :
    p.handle exchange r now d w = (p.handle exchange.noted r now d (w, [])).bind
      (fun (time, response, w', _) => .ended (time, response, w')) ∧
    (∀ time response w' handed,
      p.handle exchange.noted r now d (w, []) = .ended (time, response, w', handed) ↔
        p.Handles exchange r now d w time response w' handed) ∧
    (∀ status message body, (Formatter.json (.http status message body)).status = status) ∧
    ∀ seconds, (Formatter.json (.retry seconds)).status.code = 429 := by
  refine ⟨handle_noted p exchange r now d w, fun time response w' handed => ?_, ?_, fun _ => rfl⟩
  · exact ⟨handles_of_ended, Handles.ended⟩
  · intro status message body
    cases body <;> rfl

/-! ## A front at work -/

/-- A front for one location. Bodies have four octets at most, and ten nanoseconds to come. -/
def gate : Front Unit where
  router := .fixed ()
  limits _ := some { maxBytes := some 4, timeout := some 10 }

/-- The location has too much to do. -/
def busy : Exchange Unit Unit := fun _ _ now w =>
  .ended (.error (.rejected (.retry 3)), now, w)

def caller : Request where
  id := 1
  method := .get
  uri := ⟨none, none, ⟨"/", none⟩⟩
  version := .http11
  headers := .empty
  peer := none

/-- What a client is answered whose body arrives like this: when, with what status and text, and
how long it is to wait. The location has been handed these bodies. -/
structure Answers (d : Delivery) (time code : Nat) (text : String) (waits : List String)
    (bodies : List Bytes) (response : Response) (handed : List (Unit × Request)) : Prop where
  handles : gate.Handles busy caller 0 d () time response () handed
  status : response.status.code = code
  text : response.payload.data = Utf8.encode text
  waits : response.headers.getAll ⟨"retry-after"⟩ = waits.map Utf8.encode
  bodies : handed.map (·.2.body) = bodies

/-- One body stalls, one is too long, one breaks off; one is read, and too many have been. -/
theorem handle_classifies_gate :
    (∃ response handed, Answers (.ofSteps 0 [⟨0, .data [1]⟩, ⟨0, .stall⟩]) 5000000010 408
      "\x7b\"error\":\"Request Timeout\"\x7d" [] [] response handed) ∧
    (∃ response handed, Answers (.whole [1, 2, 3, 4, 5]) 0 413
      "\x7b\"error\":\"Payload Too Large\"\x7d" [] [] response handed) ∧
    (∃ response handed, Answers (.ofSteps 0 [⟨0, .data [1]⟩, ⟨7, .fault .aborted⟩]) 7 400
      "\x7b\"error\":\"Bad Request\"\x7d" [] [] response handed) ∧
    ∃ response handed, Answers (.ofSteps 0 [⟨0, .data [1, 2]⟩, ⟨7, .data [3, 4]⟩]) 7 429
      "\x7b\"error\":\"Too Many Requests\",\"retry-seconds\":3\x7d" ["3"] [[1, 2, 3, 4]]
      response handed := by
  have hhandles : ∀ {d time response handed},
      gate.handle busy.noted caller 0 d ((), []) = .ended (time, response, (), handed) →
      gate.Handles busy caller 0 d () time response () handed := by
    intro d time response handed hended
    exact ((handle_classifies gate busy caller 0 d ()).2.1 time response () handed).mp hended
  refine ⟨?late, ?oversized, ?unreadable, ?failed⟩
  case late => exact ⟨_, _, hhandles (by cbv), by cbv, by cbv, by cbv, by cbv⟩
  case oversized => exact ⟨_, _, hhandles (by cbv), by cbv, by cbv, by cbv, by cbv⟩
  case unreadable => exact ⟨_, _, hhandles (by cbv), by cbv, by cbv, by cbv, by cbv⟩
  case failed => exact ⟨_, _, hhandles (by cbv), by cbv, by cbv, by cbv, by cbv⟩

end Front

end Gateway
