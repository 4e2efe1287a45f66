import Gateway.Error.Fields
import Gateway.Proofs.Decimal.Dyadic
import Gateway.Proofs.Json.Objects

/-!
# What an object says of an error

The object of an error has a code from 100 to 999, perhaps a message, a body and, for a retry, a
number of seconds. Which objects are taken and what for is said here by the values of their
numbers, whether these are written as integers or in floating point. The seconds of a retry are
meant to be any number of 64 bits. From two to the power of 63 on they are cut off, and a little
later refused.
-/

namespace Gateway

/-! ## Numbers -/

/-- The value of a number, if it is finite. -/
def Json.number? : Json → Option ℚ
  | .int n => some n
  | .real x => Binary64.finite? x.toModel.unpack
  | _ => none

theorem Json.number?_ofNat (n : ℕ) : (Json.ofNat n).number? = some (n : ℚ) := by
  rw [Json.ofNat, Json.number?, Int.cast_natCast]

theorem Dyadic.bind_toInt?_eq_some_iff {x : Float} {n : ℤ} :
    (Dyadic.ofFloat? x).bind Dyadic.toInt? = some n ↔
      Binary64.finite? x.toModel.unpack = some (n : ℚ) := by
  rw [← Dyadic.map_value_ofFloat?]
  cases Dyadic.ofFloat? x with
  | none => simp
  | some d => simp [Dyadic.toInt?_eq_some_iff]

namespace Rejection

/-- The numbers that are taken for a count: up to two to the power of 63, and an integer up to
what is rounded down to it. -/
def Taken : Json → ℕ → Prop
  | .int _, n => n ≤ 2 ^ 63 + 1024
  | _, n => n ≤ 2 ^ 63

theorem taken_of_lt {n : ℕ} (h : n < 2 ^ 63) (v : Json) : Taken v n := by
  cases v
  case int => exact le_add_right h.le
  all_goals exact h.le

theorem Taken.lt {v : Json} {n : ℕ} (h : Taken v n) : n < 2 ^ 64 := by
  cases v
  case int => exact lt_of_le_of_lt h (by decide)
  all_goals exact lt_of_le_of_lt h (by decide)

/-- An integer beyond the limit is rounded before it is compared with the limit. -/
theorem integer?_int_iff {m : ℤ} {k : ℕ} :
    integer? (.int m) = some (k : ℤ) ↔
      ∃ n : ℕ, m = n ∧ n ≤ 2 ^ 63 + 1024 ∧ k = min n (2 ^ 63 - 1) := by
  have hmax : maxInteger = 2 ^ 63 - 1 := rfl
  have hpow : Nat.pow 2 63 = 2 ^ 63 := rfl
  simp only [integer?, hmax, hpow]
  split
  · rename_i hle
    rw [Option.some_inj]
    constructor
    · rintro rfl
      exact ⟨k, rfl, by omega, by omega⟩
    · rintro ⟨n, rfl, -, hk⟩
      omega
  · rename_i hgt
    simp only [roundToBinary64_le_iff (show 2 ^ 63 ≤ m.toNat by omega)]
    split
    · rename_i hle
      rw [Option.some_inj]
      constructor
      · intro hk
        exact ⟨m.toNat, by omega, hle, by omega⟩
      · rintro ⟨n, rfl, -, hk⟩
        omega
    · rename_i hlarge
      refine iff_of_false (by simp) ?_
      rintro ⟨n, rfl, hle, -⟩
      omega

/-- In floating point there is no rounding, so the limit itself is the last number. -/
theorem integer?_real_iff {x : Float} {k : ℕ} :
    integer? (.real x) = some (k : ℤ) ↔
      ∃ n : ℕ, (Dyadic.ofFloat? x).bind Dyadic.toInt? = some (n : ℤ) ∧ n ≤ 2 ^ 63 ∧
        k = min n (2 ^ 63 - 1) := by
  have hmax : maxInteger = 2 ^ 63 - 1 := rfl
  simp only [integer?, hmax]
  cases (Dyadic.ofFloat? x).bind Dyadic.toInt? with
  | none => simp
  | some m =>
    simp only [Option.some_inj, Bool.and_eq_true, decide_eq_true_eq]
    split
    · rename_i hle
      rw [Option.some_inj]
      constructor
      · intro hk
        exact ⟨m.toNat, by omega, by omega, by omega⟩
      · rintro ⟨n, rfl, -, hk⟩
        omega
    · rename_i hlarge
      refine iff_of_false (by simp) ?_
      rintro ⟨n, rfl, hle, -⟩
      omega

/-- A number that is taken counts as what it is, but for the last number below two to the power
of 63, as which all larger ones count. -/
theorem integer?_eq_some_iff {v : Json} {k : ℕ} :
    integer? v = some (k : ℤ) ↔
      ∃ n : ℕ, v.number? = some (n : ℚ) ∧ Taken v n ∧ k = min n (2 ^ 63 - 1) := by
  cases v with
  | int m =>
    have hnumber : ∀ n : ℕ, (Json.int m).number? = some (n : ℚ) ↔ m = n := by
      intro n
      rw [Json.number?, Option.some_inj]
      exact_mod_cast Iff.rfl
    simp only [hnumber]
    exact integer?_int_iff
  | real x =>
    have hnumber : ∀ n : ℕ, (Json.real x).number? = some (n : ℚ) ↔
        (Dyadic.ofFloat? x).bind Dyadic.toInt? = some (n : ℤ) := by
      intro n
      rw [Dyadic.bind_toInt?_eq_some_iff, Json.number?, Int.cast_natCast]
    simp only [hnumber]
    exact integer?_real_iff
  | null => simp [integer?, Json.number?]
  | bool b => simp [integer?, Json.number?]
  | str s => simp [integer?, Json.number?]
  | arr items => simp [integer?, Json.number?]
  | obj fields => simp [integer?, Json.number?]

/-! ## Fields -/

/-- The body that a value stands for; null stands for none. -/
def bodyOf : Json → Option Bytes
  | .null => none
  | j => some (Formatter.encode j)

theorem bodyOf_of_ne {j : Json} (h : j ≠ .null) : bodyOf j = some (Formatter.encode j) := by
  unfold bodyOf
  split
  · exact absurd rfl h
  · rfl

section
variable {v : Json} {s : Status}

theorem statusOf?_eq_some_iff {n : ℤ} : statusOf? n = some s ↔ n = s.code := by
  unfold statusOf?
  constructor
  · split
    · unfold Status.ofNat?
      split
      · rintro ⟨⟩
        show n = ((n.toNat : ℕ) : ℤ)
        omega
      · rintro ⟨⟩
    · rintro ⟨⟩
  · rintro rfl
    rw [if_pos (Int.natCast_nonneg _)]
    exact s.ofNat?_code

/-- Codes are far from where numbers are cut off. -/
theorem integer?_eq_code_iff {c : Json} :
    integer? c = some (s.code : ℤ) ↔ c.number? = some (s.code : ℚ) := by
  have hupper := s.upper
  rw [integer?_eq_some_iff]
  constructor
  · rintro ⟨n, hn, -, hcut⟩
    rw [hn, show n = s.code by omega]
  · intro hn
    exact ⟨s.code, hn, taken_of_lt (by omega) c, by omega⟩

theorem readStatus_eq_ok_iff :
    readStatus v = .ok s ↔
      ∃ c, v.field? "code" = some c ∧ c.number? = some (s.code : ℚ) := by
  unfold readStatus
  cases v.field? "code" with
  | none => simp
  | some c =>
    simp only [Option.some_inj, exists_eq_left', ← integer?_eq_code_iff]
    cases integer? c with
    | none => simp
    | some n =>
      rw [Option.some_inj, ← statusOf?_eq_some_iff]
      simp only
      cases statusOf? n <;> simp

theorem readMessage_eq_ok_iff {m : String} :
    readMessage s v = .ok m ↔
      v.field? "message" = none ∧ m = s.reason ∨ v.field? "message" = some (.str m) := by
  unfold readMessage
  split
  · rename_i hnone
    simp [hnone, eq_comm]
  · rename_i hstr
    simp [hstr]
  · rename_i j hother hfield
    simp only [hfield, reduceCtorEq, false_and, Option.some_inj, false_or, false_iff]
    exact hother m

theorem readBody_eq_ok_iff {b : Option Bytes} :
    readBody v = .ok b ↔ ∃ j, v.field? "body" = some j ∧ b = bodyOf j := by
  unfold readBody
  split
  · rename_i hnone
    simp [hnone]
  · rename_i hnull
    simp [hnull, bodyOf, eq_comm]
  · rename_i j hother hfield
    simp [hfield, bodyOf_of_ne hother, eq_comm]

theorem readSeconds_eq_ok_iff {k : ℕ} :
    readSeconds v = .ok k ↔
      ∃ c, ∃ n : ℕ, v.field? "retry-seconds" = some c ∧ c.number? = some (n : ℚ) ∧ Taken c n ∧
        k = min n (2 ^ 63 - 1) := by
  unfold readSeconds
  cases v.field? "retry-seconds" with
  | none => simp
  | some c =>
    simp only [Option.some_inj, exists_and_left, exists_eq_left', ← integer?_eq_some_iff]
    cases integer? c with
    | none => simp
    | some n =>
      simp only [Option.some_inj]
      split
      · rw [Except.ok.injEq]
        omega
      · refine iff_of_false (by simp) ?_
        omega

theorem isRetryType_iff : isRetryType v = true ↔ v.field? "type" = some (.str "retry") := by
  unfold isRetryType
  rw [decide_eq_true_iff]
  cases v.field? "type" with
  | none => simp
  | some t => cases t <;> simp [Json.asString?]

end

/-! ## Objects -/

/-- The status, the message and the body that an object has. -/
structure Head (v : Json) (s : Status) (m : String) (b : Option Bytes) : Prop where
  code : ∃ c, v.field? "code" = some c ∧ c.number? = some (s.code : ℚ)
  message : v.field? "message" = none ∧ m = s.reason ∨ v.field? "message" = some (.str m)
  body : ∃ j, v.field? "body" = some j ∧ b = bodyOf j

/-- The error that an object means. -/
inductive Means (v : Json) : Rejection → Prop
  | http {s : Status} {m : String} {b : Option Bytes} (head : Head v s m b)
      (htype : v.field? "type" ≠ some (.str "retry")) : Means v (.http s m b)
  | retry {s : Status} {m : String} {b : Option Bytes} {c : Json} {n : ℕ} (head : Head v s m b)
      (htype : v.field? "type" = some (.str "retry")) (hc : v.field? "retry-seconds" = some c)
      (hn : c.number? = some (n : ℚ)) (htaken : Taken c n) : Means v (.retry (min n (2 ^ 63 - 1)))

section
variable {v : Json} {s : Status} {m : String} {b : Option Bytes}

theorem Head.of_fields {j : Json} (hcode : v.field? "code" = some (.ofNat s.code))
    (hmessage : v.field? "message" = some (.str m)) (hbody : v.field? "body" = some j) :
    Head v s m (bodyOf j) :=
  ⟨⟨_, hcode, Json.number?_ofNat _⟩, .inr hmessage, j, hbody, rfl⟩

theorem Head.exists_obj (head : Head v s m b) : ∃ fields, v = .obj fields := by
  obtain ⟨c, hc, -⟩ := head.code
  cases v with
  | obj fields => exact ⟨fields, rfl⟩
  | _ => cases hc

theorem Head.ofFields_eq (head : Head v s m b) :
    ofFields v = if isRetryType v then (readSeconds v).bind fun n => .ok (.retry n)
      else .ok (.http s m b) := by
  obtain ⟨fields, rfl⟩ := head.exists_obj
  unfold ofFields
  rw [readStatus_eq_ok_iff.mpr head.code]
  show (readMessage s _ >>= _) = _
  rw [readMessage_eq_ok_iff.mpr head.message]
  show (readBody _ >>= _) = _
  rw [readBody_eq_ok_iff.mpr head.body]
  rfl

end

theorem ok_of_bind {ε α β : Type} {x : Except ε α} {f : α → Except ε β} {b : β}
    (h : x.bind f = .ok b) : ∃ a, x = .ok a ∧ f a = .ok b := by
  cases x with
  | error e => cases h
  | ok a => exact ⟨a, rfl, h⟩

/-- An error is read of an object exactly if the object means it. -/
theorem ofFields_eq_ok_iff {v : Json} {r : Rejection} : ofFields v = .ok r ↔ Means v r := by
  constructor
  · intro h
    cases v with
    | obj fields =>
      obtain ⟨s, hstatus, h⟩ := ok_of_bind h
      obtain ⟨m, hmessage, h⟩ := ok_of_bind h
      obtain ⟨b, hbody, h⟩ := ok_of_bind h
      have head : Head (.obj fields) s m b :=
        ⟨readStatus_eq_ok_iff.mp hstatus, readMessage_eq_ok_iff.mp hmessage,
          readBody_eq_ok_iff.mp hbody⟩
      split at h
      · rename_i hretry
        obtain ⟨n, hseconds, ⟨⟩⟩ := ok_of_bind h
        obtain ⟨c, n, hc, hn, htaken, rfl⟩ := readSeconds_eq_ok_iff.mp hseconds
        exact .retry head (isRetryType_iff.mp hretry) hc hn htaken
      · rename_i hhttp
        cases h
        exact .http head fun htype => hhttp (isRetryType_iff.mpr htype)
    | _ => cases h
  · intro h
    cases h with
    | http head htype => rw [head.ofFields_eq, if_neg (isRetryType_iff.not.mpr htype)]
    | retry head htype hc hn htaken =>
      rw [head.ofFields_eq, if_pos (isRetryType_iff.mpr htype),
        readSeconds_eq_ok_iff.mpr ⟨_, _, hc, hn, htaken, rfl⟩]
      rfl

/-! ### The object of a retry -/

theorem field?_fields_retry (n : ℕ) :
    (fields (.retry n)).field? "type" = some (.str "retry") ∧
      (fields (.retry n)).field? "retry-seconds" = some (.ofNat n) := by
  simp [fields, Json.field?_ofFields]

theorem head_fields_retry (n : ℕ) :
    Head (fields (.retry n)) .tooManyRequests Status.tooManyRequests.reason
      (bodyOf (.str Status.tooManyRequests.reason)) := by
  refine .of_fields ?_ ?_ ?_
  all_goals simp [fields, Json.field?_ofFields]

/-- A retry is read as it was up to the last number below two to the power of 63. -/
theorem means_fields_retry_iff {n : ℕ} {r : Rejection} :
    Means (fields (.retry n)) r ↔ n ≤ 2 ^ 63 + 1024 ∧ r = .retry (min n (2 ^ 63 - 1)) := by
  obtain ⟨htype, hseconds⟩ := field?_fields_retry n
  constructor
  · intro h
    cases h with
    | http head hother => exact absurd htype hother
    | retry head _ hc hk htaken =>
      obtain rfl := Option.some.inj (hseconds.symm.trans hc)
      rw [Json.number?_ofNat, Option.some_inj, Nat.cast_inj] at hk
      subst hk
      exact ⟨htaken, rfl⟩
  · rintro ⟨hle, rfl⟩
    exact .retry (head_fields_retry n) htype hseconds (Json.number?_ofNat n) hle

/-! ## Documented objects -/

/-- A retry has a number of seconds of which something holds. -/
def Waits (p : Json → ℕ → Prop) (v : Json) : Prop :=
  v.field? "type" = some (.str "retry") →
    ∃ c, ∃ n : ℕ, v.field? "retry-seconds" = some c ∧ c.number? = some (n : ℚ) ∧ p c n

theorem Waits.mono {p q : Json → ℕ → Prop} {v : Json} (h : Waits p v)
    (hpq : ∀ c n, p c n → q c n) : Waits q v := by
  intro htype
  obtain ⟨c, n, hc, hn, hp⟩ := h htype
  exact ⟨c, n, hc, hn, hpq c n hp⟩

/-- There is only one such number. -/
theorem Waits.and {p q : Json → ℕ → Prop} {v : Json} (hp : Waits p v) (hq : Waits q v) :
    Waits (fun c n => p c n ∧ q c n) v := by
  intro htype
  obtain ⟨c, n, hc, hn, hp⟩ := hp htype
  obtain ⟨c', n', hc', hn', hq⟩ := hq htype
  obtain rfl : c = c' := Option.some.inj (hc.symm.trans hc')
  obtain rfl : n = n' := by exact_mod_cast Option.some.inj (hn.symm.trans hn')
  exact ⟨c, n, hc, hn, hp, hq⟩

/-- An object has all the fields that an error needs, each as it is described. Which seconds a
retry may have is given. -/
structure Documented (seconds : Json → ℕ → Prop) (v : Json) : Prop where
  object : ∃ fields, v = .obj fields
  code : ∃ c, ∃ n : ℕ, v.field? "code" = some c ∧ c.number? = some (n : ℚ) ∧ 100 ≤ n ∧ n ≤ 999
  message : ∀ m, v.field? "message" = some m → ∃ text, m = .str text
  body : ∃ b, v.field? "body" = some b
  seconds : Waits seconds v

section
variable {p q : Json → ℕ → Prop} {v : Json}

theorem Documented.mono (h : Documented p v) (hpq : ∀ c n, p c n → q c n) : Documented q v :=
  { h with seconds := h.seconds.mono hpq }

theorem Documented.exists_head (h : Documented p v) : ∃ s m b, Head v s m b := by
  obtain ⟨c, n, hc, hn, hlower, hupper⟩ := h.code
  obtain ⟨j, hj⟩ := h.body
  have hmessage : ∃ m, v.field? "message" = none ∧ m = (Status.mk n hlower hupper).reason ∨
      v.field? "message" = some (.str m) := by
    cases hfield : v.field? "message" with
    | none => exact ⟨_, .inl ⟨rfl, rfl⟩⟩
    | some m =>
      obtain ⟨text, rfl⟩ := h.message m hfield
      exact ⟨text, .inr rfl⟩
  obtain ⟨m, hm⟩ := hmessage
  exact ⟨⟨n, hlower, hupper⟩, m, bodyOf j, ⟨c, hc, hn⟩, hm, j, hj, rfl⟩

theorem Head.documented {s : Status} {m : String} {b : Option Bytes} (h : Head v s m b)
    (hseconds : Waits p v) : Documented p v where
  object := h.exists_obj
  code := by
    obtain ⟨c, hc, hn⟩ := h.code
    exact ⟨c, s.code, hc, hn, s.lower, s.upper⟩
  message := by
    intro j hj
    rcases h.message with ⟨hnone, -⟩ | hstr
    · rw [hnone] at hj
      cases hj
    · rw [hstr] at hj
      cases hj
      exact ⟨m, rfl⟩
  body := by
    obtain ⟨j, hj, -⟩ := h.body
    exact ⟨j, hj⟩
  seconds := hseconds

end

/-- An error is read of an object exactly if it has all fields and the seconds are taken. -/
theorem exists_means_iff {v : Json} : (∃ r, Means v r) ↔ Documented Taken v := by
  constructor
  · rintro ⟨r, hmeans⟩
    cases hmeans with
    | http head htype => exact head.documented fun hretry => absurd hretry htype
    | retry head htype hc hn htaken => exact head.documented fun _ => ⟨_, _, hc, hn, htaken⟩
  · intro h
    obtain ⟨s, m, b, head⟩ := h.exists_head
    by_cases htype : v.field? "type" = some (.str "retry")
    · obtain ⟨c, n, hc, hn, htaken⟩ := h.seconds htype
      exact ⟨_, .retry head htype hc hn htaken⟩
    · exact ⟨_, .http head htype⟩

/-- The number of an object is found in the error: its code or, of a retry, what `f` makes of its
seconds. -/
structure Carries (f : ℕ → ℕ) (v : Json) (r : Rejection) : Prop where
  code : v.field? "type" ≠ some (.str "retry") →
    ∃ c, v.field? "code" = some c ∧ c.number? = some (r.status.code : ℚ)
  seconds : Waits (fun _ n => r.retrySeconds? = some (f n)) v

theorem Means.carries {v : Json} {r : Rejection} (h : Means v r) :
    Carries (min · (2 ^ 63 - 1)) v r := by
  cases h with
  | http head htype => exact ⟨fun _ => head.code, fun hretry => absurd hretry htype⟩
  | retry head htype hc hn htaken =>
    exact ⟨fun hhttp => absurd htype hhttp, fun _ => ⟨_, _, hc, hn, rfl⟩⟩

/-- What is cut off is not carried as it is. -/
theorem Carries.exact_iff {v : Json} {r : Rejection} (h : Carries (min · (2 ^ 63 - 1)) v r) :
    Carries id v r ↔ Waits (fun _ n => n < 2 ^ 63) v := by
  constructor
  · intro hexact
    refine (hexact.seconds.and h.seconds).mono ?_
    rintro c n ⟨hn, hcut⟩
    have hmin : n = min n (2 ^ 63 - 1) := Option.some.inj (hn.symm.trans hcut)
    omega
  · intro hsmall
    refine ⟨h.code, (hsmall.and h.seconds).mono ?_⟩
    rintro c n ⟨hlt, hcut⟩
    rw [hcut, Nat.min_eq_left (by omega)]
    rfl

/-- An error is read of the documented objects and of no others, and with the very number. -/
structure Faithful (v : Json) : Prop where
  accepted_iff : (∃ r, ofFields v = .ok r) ↔ Documented (fun _ n => n < 2 ^ 64) v
  exact : ∀ r, ofFields v = .ok r → Carries id v r

/-- Which objects are read, with which numbers, and where this is as documented. -/
structure Decoded (v : Json) : Prop where
  accepted_iff : (∃ r, ofFields v = .ok r) ↔ Documented Taken v
  carried : ∀ r, ofFields v = .ok r → Carries (min · (2 ^ 63 - 1)) v r
  faithful_iff : Faithful v ↔
    (Documented (fun _ n => n < 2 ^ 64) v → Documented (fun _ n => n < 2 ^ 63) v)

/-- Every object is read as it is documented but a retry after two to the power of 63 seconds
or more. -/
theorem ofFields_decoded (v : Json) : Decoded v := by
  have haccepted : (∃ r, ofFields v = .ok r) ↔ Documented Taken v := by
    simp only [ofFields_eq_ok_iff]
    exact exists_means_iff
  have hcarried : ∀ r, ofFields v = .ok r → Carries (min · (2 ^ 63 - 1)) v r :=
    fun r hr => (ofFields_eq_ok_iff.mp hr).carries
  refine ⟨haccepted, hcarried, ?_⟩
  constructor
  · intro hfaithful hdocumented
    -- What is read has both the very seconds and the seconds that were cut off.
    obtain ⟨r, hr⟩ := hfaithful.accepted_iff.mpr hdocumented
    exact { hdocumented with seconds := (hcarried r hr).exact_iff.mp (hfaithful.exact r hr) }
  · intro hsmall
    have hbelow : ∀ r, ofFields v = .ok r → Documented (fun _ n => n < 2 ^ 63) v :=
      fun r hr => hsmall ((haccepted.mp ⟨r, hr⟩).mono fun _ _ htaken => htaken.lt)
    refine ⟨⟨?_, ?_⟩, fun r hr => (hcarried r hr).exact_iff.mpr (hbelow r hr).seconds⟩
    · rintro ⟨r, hr⟩
      exact (hbelow r hr).mono fun _ _ hn => hn.trans (by decide)
    · intro hdocumented
      exact haccepted.mpr ((hsmall hdocumented).mono fun c _ hn => taken_of_lt hn c)

/-- The object that is written for a retry is documented. After two to the power of 63 seconds it
is read with a second less, and after the last number of 64 bits not at all. -/
theorem seconds_cut_off :
    (Documented (fun _ n => n < 2 ^ 64) (fields (.retry (2 ^ 63))) ∧
      ofFields (fields (.retry (2 ^ 63))) = .ok (.retry (2 ^ 63 - 1)) ∧
      ¬ Faithful (fields (.retry (2 ^ 63)))) ∧
    Documented (fun _ n => n < 2 ^ 64) (fields (.retry (2 ^ 64 - 1))) ∧
      (∀ r, ofFields (fields (.retry (2 ^ 64 - 1))) ≠ .ok r) ∧
      ¬ Faithful (fields (.retry (2 ^ 64 - 1))) := by
  have hdocumented : ∀ n : ℕ, n < 2 ^ 64 →
      Documented (fun _ n => n < 2 ^ 64) (fields (.retry n)) := by
    intro n hn
    obtain ⟨-, hseconds⟩ := field?_fields_retry n
    exact (head_fields_retry n).documented fun _ =>
      ⟨_, n, hseconds, Json.number?_ofNat n, hn⟩
  have hcut : ofFields (fields (.retry (2 ^ 63))) = .ok (.retry (2 ^ 63 - 1)) :=
    ofFields_eq_ok_iff.mpr (means_fields_retry_iff.mpr ⟨by decide, rfl⟩)
  have hrefused : ∀ r, ofFields (fields (.retry (2 ^ 64 - 1))) ≠ .ok r := by
    intro r hr
    exact absurd (means_fields_retry_iff.mp (ofFields_eq_ok_iff.mp hr)).1 (by decide)
  refine ⟨⟨hdocumented _ (by decide), hcut, ?_⟩, hdocumented _ (by decide), hrefused, ?_⟩
  · intro hfaithful
    obtain ⟨htype, hseconds⟩ := field?_fields_retry (2 ^ 63)
    obtain ⟨c, n, hc, hn, hexact⟩ := (hfaithful.exact _ hcut).seconds htype
    obtain rfl := Option.some.inj (hseconds.symm.trans hc)
    rw [Json.number?_ofNat, Option.some_inj, Nat.cast_inj] at hn
    subst hn
    exact absurd (Option.some.inj hexact) (by decide)
  · intro hfaithful
    obtain ⟨r, hr⟩ := hfaithful.accepted_iff.mpr (hdocumented _ (by decide))
    exact hrefused r hr

end Rejection

end Gateway
