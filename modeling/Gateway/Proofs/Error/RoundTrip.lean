import Gateway.Proofs.Error.Decoding
import Gateway.Proofs.Json.RoundTrip

/-!
# Errors that are written and read again

The fields of an error are read as an error again, and of what was read once as the same. Only
a retry after two to the power of 63 seconds or more is read as a sooner one or not at all. What
was read of an object is shown to a client with the status and the body of that object.
-/

namespace Gateway

open Rejection

/-! ## Writing, then reading -/

namespace Rejection

/-- The text of a value that is read back and is not null. -/
def Printed (body : Bytes) : Prop :=
  ∃ j, j ≠ .null ∧ body = Formatter.encode j ∧ Json.readBytes? body = some j

theorem Printed.bodyOf_bodyValue {body : Bytes} (h : Printed body) :
    bodyOf (bodyValue body) = some body := by
  obtain ⟨j, hne, hbody, hread⟩ := h
  rw [bodyValue, hread, Option.getD_some, bodyOf_of_ne hne, hbody]

/-- Any other error than a retry is read with its status and its message. -/
theorem means_fields_http (s : Status) (m : String) (b : Option Bytes) :
    Means (fields (.http s m b)) (.http s m (b.bind fun body => bodyOf (bodyValue body))) := by
  have hbody : (b.bind fun body => bodyOf (bodyValue body)) =
      bodyOf (Json.ofOption bodyValue b) := by
    cases b <;> rfl
  rw [hbody]
  refine .http (.of_fields ?_ ?_ ?_) ?_
  all_goals simp [fields, Json.field?_ofFields]

end Rejection

/-- What goes wrong inside is read as an error of the server. -/
theorem Error.means_fields_internal {e : Error} (h : ∀ r, e ≠ .rejected r) :
    Means e.fields (.http .internalServerError e.message
      (bodyOf (.str Status.internalServerError.reason))) := by
  have hfields : e.fields = .ofFields [("type", .str "internal"),
      ("code", .ofNat Status.internalServerError.code),
      ("body", .str Status.internalServerError.reason), ("message", .str e.message)] := by
    cases e with
    | rejected r => exact absurd rfl (h r)
    | _ => rfl
  rw [hfields]
  refine .http (.of_fields ?_ ?_ ?_) ?_
  all_goals simp [Json.field?_ofFields]

namespace Rejection

/-- Which errors are read of their own fields, and which of them as they were. -/
structure Returned (e : Error) : Prop where
  accepted_iff : (∃ r, ofFields e.fields = .ok r) ↔
    ∀ n, e = .rejected (.retry n) → n ≤ 2 ^ 63 + 1024
  same_iff : ∀ r, e = .rejected r → (∀ s m b, r = .http s m (some b) → Printed b) →
    (ofFields e.fields = .ok r ↔ ∀ n, r = .retry n → n < 2 ^ 63)
  cut_off : ∀ n, e = .rejected (.retry n) → 2 ^ 63 ≤ n → n ≤ 2 ^ 63 + 1024 →
    ofFields e.fields = .ok (.retry (2 ^ 63 - 1))

theorem returned_retry (n : ℕ) : Returned (.rejected (.retry n)) := by
  have hread : ∀ r, ofFields (Error.rejected (.retry n)).fields = .ok r ↔
      n ≤ 2 ^ 63 + 1024 ∧ r = .retry (min n (2 ^ 63 - 1)) := by
    intro r
    rw [ofFields_eq_ok_iff]
    exact means_fields_retry_iff
  refine ⟨by simp [hread], ?_, ?_⟩
  · rintro r ⟨⟩ -
    rw [hread]
    constructor
    · rintro ⟨-, hcut⟩ k ⟨⟩
      have hmin : n = min n (2 ^ 63 - 1) := retry.inj hcut
      omega
    · intro hbelow
      have hlt := hbelow n rfl
      rw [Nat.min_eq_left (by omega)]
      exact ⟨by omega, rfl⟩
  · rintro k ⟨⟩ hlarge hle
    rw [hread]
    exact ⟨hle, by rw [Nat.min_eq_right (by omega)]⟩

theorem returned_http (s : Status) (m : String) (b : Option Bytes) :
    Returned (.rejected (.http s m b)) := by
  have hread : ofFields (Error.rejected (.http s m b)).fields =
      .ok (.http s m (b.bind fun body => bodyOf (bodyValue body))) :=
    ofFields_eq_ok_iff.mpr (means_fields_http s m b)
  refine ⟨iff_of_true ⟨_, hread⟩ (by rintro n ⟨⟩), ?_, by rintro n ⟨⟩⟩
  rintro r ⟨⟩ hprinted
  refine iff_of_true ?_ (by rintro n ⟨⟩)
  cases b with
  | none => exact hread
  | some body =>
    rw [Option.bind_some, (hprinted s m body rfl).bodyOf_bodyValue] at hread
    exact hread

theorem returned_internal {e : Error} (h : ∀ r, e ≠ .rejected r) : Returned e where
  accepted_iff :=
    iff_of_true ⟨_, ofFields_eq_ok_iff.mpr (Error.means_fields_internal h)⟩
      fun _ hn => absurd hn (h _)
  same_iff := fun r hr => absurd hr (h r)
  cut_off := fun _ hn => absurd hn (h _)

/-- Every error is read of its own fields, and as it was, but a late retry. -/
theorem ofFields_fields (e : Error) : Returned e := by
  by_cases hrejected : ∃ r, e = .rejected r
  · obtain ⟨r, rfl⟩ := hrejected
    cases r with
    | retry n => exact returned_retry n
    | http s m b => exact returned_http s m b
  · exact returned_internal fun r hr => hrejected ⟨r, hr⟩

/-- A reason with a number in floating point. -/
def refusal : Json := .obj [("reason", .str "nope"), ("share", .real 0.5)]

theorem readBytes?_refusal : Json.readBytes? (Formatter.encode refusal) = some refusal := by
  have hexact : Json.Exact 0.5 := ⟨⟨false, ['0'], some ['5'], none⟩, by decide +kernel, rfl⟩
  have hreadable : Json.Readable Json.nestingLimit refusal := by
    refine .obj (List.pairwise_pair.mpr (by decide)) ?_
    exact List.forall_mem_cons.mpr ⟨.str "nope", List.forall_mem_singleton.mpr (.real hexact)⟩
  exact hreadable.readBytes?_encode

/-- An error with such a body is read as it was. -/
theorem ofFields_fields_refusal :
    Printed (Formatter.encode refusal) ∧
      ofFields (Error.rejected (.http .serviceUnavailable "Go away"
        (some (Formatter.encode refusal)))).fields =
        .ok (.http .serviceUnavailable "Go away" (some (Formatter.encode refusal))) := by
  have hprinted : Printed (Formatter.encode refusal) :=
    ⟨refusal, by simp [refusal], rfl, readBytes?_refusal⟩
  refine ⟨hprinted, ((ofFields_fields _).same_iff _ rfl ?_).mpr ?_⟩
  · rintro s m b ⟨⟩
    exact hprinted
  · rintro n ⟨⟩

/-- A retry after the last number of 64 bits is not read at all, and one after two to the power
of 63 seconds is read as another. -/
theorem retry_not_returned :
    (∀ r, ofFields (Error.rejected (.retry (2 ^ 64 - 1))).fields ≠ .ok r) ∧
      ofFields (Error.rejected (.retry (2 ^ 63))).fields ≠ .ok (.retry (2 ^ 63)) := by
  constructor
  · intro r hr
    exact absurd (means_fields_retry_iff.mp (ofFields_eq_ok_iff.mp hr)).1 (by decide)
  · intro hr
    have hcut := (means_fields_retry_iff.mp (ofFields_eq_ok_iff.mp hr)).2
    exact absurd (retry.inj hcut) (by decide)

/-! ## Reading, then writing -/

theorem readBytes?_error (fields : List (String × Json)) {m : String}
    (h : ∀ f ∈ fields, Json.Readable 126 f.2)
    (herror : (Json.ofFields fields).field? "error" = some (.str m)) :
    ∃ written, Json.readBytes? (Formatter.encode (.ofFields fields)) = some (.obj written) ∧
      (Json.obj written).field? "error" = some (.str m) := by
  have hreadable : Json.Readable Json.nestingLimit (.ofFields fields) := .ofFields h
  exact ⟨_, hreadable.readBytes?_encode, herror⟩

/-- An error that was read of an object is read of its own fields again. The client is shown the
status of the object, and its body or else the message of the error. -/
structure Settled (v : Json) (e : Rejection) : Prop where
  again : ofFields e.fields = .ok e
  retry_status : v.field? "type" = some (.str "retry") →
    (Formatter.json e).status = .tooManyRequests
  status : v.field? "type" ≠ some (.str "retry") → ∃ c, v.field? "code" = some c ∧
    c.number? = some ((Formatter.json e).status.code : ℚ)
  body : ∀ j, v.field? "type" ≠ some (.str "retry") → v.field? "body" = some j → j ≠ .null →
    Json.readBytes? (Formatter.json e).body = some j
  message : v.field? "type" = some (.str "retry") ∨ v.field? "body" = some .null →
    ∃ shown, Json.readBytes? (Formatter.json e).body = some (.obj shown) ∧
      (Json.obj shown).field? "error" = some (.str e.message)

theorem ofFields_settled {v : Json} {e : Rejection} (h : ofFields v = .ok e)
    (hbody : ∀ j, v.field? "body" = some j → Json.readBytes? (Formatter.encode j) = some j) :
    Settled v e := by
  cases ofFields_eq_ok_iff.mp h with
  | @http s m b head htype =>
    obtain ⟨j, hj, hb⟩ := head.body
    -- A body that is null was read as none, and none is written as null.
    have hagain : (b.bind fun body => bodyOf (bodyValue body)) = b := by
      by_cases hnull : j = .null
      · subst hnull
        rw [hb]
        rfl
      · rw [bodyOf_of_ne hnull] at hb
        rw [hb, Option.bind_some]
        exact Printed.bodyOf_bodyValue ⟨j, hnull, rfl, hbody j hj⟩
    have hstatus : (Formatter.json (.http s m b)).status = s := by
      cases b <;> rfl
    refine ⟨?_, fun hretry => absurd hretry htype, ?_, ?_, ?_⟩
    · have hmeans := means_fields_http s m b
      rw [hagain] at hmeans
      exact ofFields_eq_ok_iff.mpr hmeans
    · intro _
      rw [hstatus]
      exact head.code
    · intro k _ hk hne
      obtain rfl := Option.some.inj (hj.symm.trans hk)
      rw [bodyOf_of_ne hne] at hb
      subst hb
      exact hbody j hj
    · rintro (hretry | hnull)
      · exact absurd hretry htype
      · obtain rfl := Option.some.inj (hj.symm.trans hnull)
        obtain rfl : b = none := hb
        simp only [Formatter.json]
        refine readBytes?_error [("error", .str m)] ?_ ?_
        · exact List.forall_mem_singleton.mpr (.str m)
        · simp [Json.field?_ofFields, message]
  | @retry s m b c n head htype hc hn htaken =>
    -- The seconds that were read are never so many that they are cut off again.
    have hlt : min n (2 ^ 63 - 1) < 2 ^ 63 := by omega
    generalize min n (2 ^ 63 - 1) = k at hlt
    have hagain : Means (fields (.retry k)) (.retry k) :=
      means_fields_retry_iff.mpr ⟨by omega, by rw [Nat.min_eq_left (by omega)]⟩
    refine ⟨ofFields_eq_ok_iff.mpr hagain, fun _ => rfl, fun hhttp => absurd htype hhttp,
      fun _ hhttp => absurd htype hhttp, ?_⟩
    · intro _
      simp only [Formatter.json]
      refine readBytes?_error [("error", .str (retry k).message), ("retry-seconds", .ofNat k)] ?_ ?_
      · exact List.forall_mem_cons.mpr
          ⟨.str _, List.forall_mem_singleton.mpr (.int ⟨by omega, by omega⟩)⟩
      · simp [Json.field?_ofFields]

/-- A status in floating point and no message: the reason phrase stands in for it. -/
theorem ofFields_settled_refusal :
    ofFields (.obj [("body", refusal), ("code", .real 503.0)]) =
        .ok (.http .serviceUnavailable "Service Unavailable" (some (Formatter.encode refusal))) ∧
      Settled (.obj [("body", refusal), ("code", .real 503.0)])
        (.http .serviceUnavailable "Service Unavailable" (some (Formatter.encode refusal))) := by
  have hread : ofFields (.obj [("body", refusal), ("code", .real 503.0)]) =
      .ok (.http .serviceUnavailable "Service Unavailable" (some (Formatter.encode refusal))) := by
    decide +kernel
  refine ⟨hread, ofFields_settled hread ?_⟩
  rintro j ⟨⟩
  exact readBytes?_refusal

end Rejection

end Gateway
