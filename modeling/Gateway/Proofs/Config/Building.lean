import Gateway.Config.Build
import Gateway.Config.Validate
import Gateway.Proofs.Route.BestMatch

/-!
# Building from a configuration

A configuration without a fault can still ask for what cannot be had: one endpoint twice in
a location, under urls that differ, or one host and prefix for two locations. Both are found
while the gateway is built. Whatever asks for neither is built as it is written down.
-/

namespace Gateway

variable {ξ ζ τ : Type}

namespace LocationSettings

/-- The endpoints that the urls stand for, in order. -/
def parsed (s : LocationSettings) : List Endpoint :=
  s.endpoints.filterMap fun url => (Endpoint.parse url).toOption

def ids (s : LocationSettings) : List String := s.parsed.map Endpoint.id

/-- The route to the location, if it is number `n`. -/
def routeTo (n : Nat) (s : LocationSettings) : Route Nat := Route.normal s.host s.pathStart n

/-- Host and prefix, by which the location is found. -/
def key (s : LocationSettings) : Option (List Char) × List Char := (s.routeTo 0).key

def keyText (s : LocationSettings) : String := (s.routeTo 0).keyText

/-- The middlewares of the location, when they are the next to get a place in the store. -/
def guards (s : LocationSettings) (t : Store τ) : List (String × Middleware ξ) :=
  (s.breaker.map fun b => ("circuit_breaker", .breaker b t.breakers.length)).toList ++
    (s.limit.map fun _ => ("rate_limit", .limiter t.limiters.length)).toList

/-- The store with the state of the middlewares of the location. -/
def stock (s : LocationSettings) (t : Store τ) : Store τ :=
  let t := if s.breaker.isSome then t.addBreaker else t
  match s.limit with
  | none => t
  | some l => t.addLimiter l.limit

end LocationSettings

/-- The pool of some endpoints, in order. -/
def seats (n : Nat) (es : List Endpoint) : List Member :=
  (es.zipIdx n).map fun p => ⟨p.2, p.1⟩

/-- The location as its settings ask for it. -/
def LocationSettings.branch (s : LocationSettings) (metrics : Bool) (t : Store τ) :
    Branch Rotation ξ ζ where
  location := s.options.location s.name
  options := s.options
  pool := ⟨seats 0 s.parsed, 0⟩
  ledger := ⟨List.replicate s.parsed.length Tally.zero⟩
  middlewares := ⟨s.guards t⟩
  observers := ⟨if metrics then [("metrics", .metrics s.name)] else []⟩

/-- A location is what its settings say. -/
structure Branch.Follows (b : Branch Rotation ξ ζ) (s : LocationSettings) (metrics : Bool) :
    Prop where
  location : b.location = s.options.location s.name
  options : b.options = s.options
  /-- The pool is of the endpoints that are written down, in their order. -/
  endpoints : b.pool.members.map (fun m => Except.ok m.endpoint) = s.endpoints.map Endpoint.parse
  /-- The first of them has the first turn. -/
  cursor : b.pool.cursor = 0
  /-- Each has counts of its own, and all of them are zero. -/
  serials : b.pool.members.map Member.serial = List.range s.endpoints.length
  tallies : b.ledger.tallies = List.replicate s.endpoints.length Tally.zero
  middlewares : b.middlewares.names = (s.breaker.map fun _ => "circuit_breaker").toList ++
    (s.limit.map fun _ => "rate_limit").toList
  observers : b.observers.entries = if metrics then [("metrics", .metrics s.name)] else []

/-- An installation has one location and one route for each of the settings. -/
structure Installation.Houses (i : Installation ξ ζ τ) (ss : List LocationSettings)
    (metrics : Bool) : Prop where
  routes : i.routes.Holds (ss.mapIdx LocationSettings.routeTo)
  branches : List.Forall₂ (fun b s => Branch.Follows b s metrics) i.branches ss

/-- Nothing is asked for twice. -/
structure Distinct (ss : List LocationSettings) : Prop where
  endpoints : ∀ s ∈ ss, s.ids.Nodup
  routes : (ss.map LocationSettings.key).Nodup

/-- An error says what is asked for twice: an endpoint of a location, or a host and prefix. -/
inductive Clash (ss : List LocationSettings) : Error → Prop where
  | endpoint {s : LocationSettings} {id : String} (mem : s ∈ ss)
      (twice : 2 ≤ s.ids.count id) : Clash ss (.endpointExists id)
  | route {s : LocationSettings} (mem : s ∈ ss)
      (twice : 2 ≤ (ss.map LocationSettings.key).count s.key) : Clash ss (.nameTaken s.keyText)

/-- What comes of building a configuration. -/
structure Configuration.Builds (c : Configuration) (ξ ζ : Type) (extra : τ) : Prop where
  succeeds_iff : (∃ i : Installation ξ ζ τ, c.build extra = .ok i) ↔ Distinct c.locations
  houses : ∀ i : Installation ξ ζ τ, c.build extra = .ok i →
    i.Houses c.locations c.metrics.enabled
  clash : ∀ e, (c.build extra : Except Error (Installation ξ ζ τ)) = .error e →
    Clash c.locations e

/-! ## Pools -/

theorem two_le_count_append {α : Type} [BEq α] [LawfulBEq α] {a : α} {xs ys : List α}
    (hx : a ∈ xs) (hy : a ∈ ys) : 2 ≤ (xs ++ ys).count a := by
  have := List.count_pos_iff.mpr hx
  have := List.count_pos_iff.mpr hy
  rw [List.count_append]
  omega

theorem not_nodup_of_two_le_count {α : Type} [BEq α] [LawfulBEq α] {a : α} {xs : List α}
    (h : 2 ≤ xs.count a) : ¬ xs.Nodup := by
  intro hnodup
  have := List.nodup_iff_count_le_one.mp hnodup a
  omega

theorem add_cases (r : Rotation) (m : Member) :
    (m.id ∈ r.members.map Member.id ∧ r.add m = .error (.endpointExists m.id)) ∨
    (m.id ∉ r.members.map Member.id ∧ r.add m = .ok ⟨r.members ++ [m], r.cursor⟩) := by
  have hany : r.members.any (·.id = m.id) = true ↔ m.id ∈ r.members.map Member.id := by
    simp [List.any_eq_true]
  unfold Rotation.add addMember
  by_cases htaken : m.id ∈ r.members.map Member.id
  · left
    rw [if_pos (hany.mpr htaken)]
    exact ⟨htaken, rfl⟩
  · right
    rw [if_neg fun h => htaken (hany.mp h)]
    exact ⟨htaken, rfl⟩

theorem map_id_seats (n : Nat) (es : List Endpoint) :
    (seats n es).map Member.id = es.map Endpoint.id := by
  induction es generalizing n with
  | nil => rfl
  | cons e es ih => exact congrArg (e.id :: ·) (ih (n + 1))

namespace LocationSettings

/-- Endpoints find their places in the pool up to the first whose id is taken. -/
theorem fillPool_cases {urls : List String} {es : List Endpoint} (r : Rotation) (l : Ledger)
    (hparse : urls.map Endpoint.parse = es.map Except.ok)
    (hr : (r.members.map Member.id).Nodup) :
    ((r.members.map Member.id ++ es.map Endpoint.id).Nodup ∧
      fillPool urls r l = .ok (⟨r.members ++ seats l.next es, r.cursor⟩,
        ⟨l.tallies ++ List.replicate es.length Tally.zero⟩)) ∨
    ∃ id, 2 ≤ (r.members.map Member.id ++ es.map Endpoint.id).count id ∧
      fillPool urls r l = .error (.endpointExists id) := by
  induction urls generalizing es r l with
  | nil =>
      have hes : es = [] := List.map_eq_nil_iff.mp hparse.symm
      subst hes
      left
      refine ⟨by simpa using hr, ?_⟩
      simp [fillPool, seats]
  | cons url rest ih =>
      cases es with
      | nil => cases hparse
      | cons e es =>
          obtain ⟨hurl, hrest⟩ := List.cons.inj hparse
          have hfill : fillPool (url :: rest) r l =
              (r.add ⟨l.next, e⟩).bind fun r => fillPool rest r l.enrol := by
            rw [fillPool, hurl]
            rfl
          rcases add_cases r ⟨l.next, e⟩ with ⟨htaken, hadd⟩ | ⟨hfree, hadd⟩
          · right
            refine ⟨e.id, two_le_count_append htaken List.mem_cons_self, ?_⟩
            rw [hfill, hadd]
            rfl
          · have hr' : ((r.members ++ [Member.mk l.next e]).map Member.id).Nodup := by
              rw [List.map_append, List.nodup_append]
              refine ⟨hr, List.nodup_singleton _, ?_⟩
              rintro k hk _ hk' rfl
              rw [List.map_singleton, List.mem_singleton] at hk'
              exact hfree (hk' ▸ hk)
            have hids : (r.members ++ [Member.mk l.next e]).map Member.id ++ es.map Endpoint.id =
                r.members.map Member.id ++ (e :: es).map Endpoint.id := by
              simp [Member.id]
            have hnext : l.enrol.next = l.next + 1 := by
              simp [Ledger.enrol, Ledger.next]
            rcases ih ⟨r.members ++ [Member.mk l.next e], r.cursor⟩ l.enrol hrest hr' with
              ⟨hnodup, hok⟩ | ⟨id, htwice, herror⟩
            · left
              refine ⟨hids ▸ hnodup, ?_⟩
              rw [hfill, hadd]
              refine hok.trans ?_
              rw [hnext]
              simp [seats, List.zipIdx_cons, Ledger.enrol, List.replicate_succ]
            · right
              exact ⟨id, hids ▸ htwice, by rw [hfill, hadd]; exact herror⟩

/-! ## Locations -/

/-- Without a fault all urls stand for endpoints. -/
theorem parse_of_endpointFault? {urls : List String} (h : endpointFault? urls = none) :
    urls.map Endpoint.parse =
      (urls.filterMap fun url => (Endpoint.parse url).toOption).map Except.ok := by
  induction urls with
  | nil => rfl
  | cons url rest ih =>
      unfold endpointFault? at h
      cases hurl : Endpoint.parse url with
      | error e =>
          rw [hurl] at h
          cases h
      | ok e =>
          rw [hurl] at h
          rw [List.map_cons, List.filterMap_cons, hurl]
          exact congrArg (Except.ok e :: ·) (ih h)

/-- So they do where the pool can be filled. -/
theorem parse_of_fillPool {urls : List String} {r : Rotation} {l : Ledger}
    {filled : Rotation × Ledger} (h : fillPool urls r l = .ok filled) :
    urls.map Endpoint.parse =
      (urls.filterMap fun url => (Endpoint.parse url).toOption).map Except.ok := by
  induction urls generalizing r l with
  | nil => rfl
  | cons url rest ih =>
      unfold fillPool at h
      cases hurl : Endpoint.parse url with
      | error e =>
          rw [hurl] at h
          cases h
      | ok e =>
          rw [List.map_cons, List.filterMap_cons, hurl]
          rw [hurl] at h
          rcases add_cases r ⟨l.next, e⟩ with ⟨-, hadd⟩ | ⟨-, hadd⟩
          · simp only [bind, Except.bind, hadd] at h
            cases h
          · simp only [bind, Except.bind, hadd] at h
            exact congrArg (Except.ok e :: ·) (ih h)

theorem parse_eq {s : LocationSettings} (h : s.fault? = none) :
    s.endpoints.map Endpoint.parse = s.parsed.map Except.ok := by
  refine parse_of_endpointFault? ?_
  unfold fault? at h
  split at h
  · cases h
  · split at h
    · cases h
    · assumption

theorem addBreaker_empty (s : LocationSettings) (t : Store τ) :
    s.addBreaker (.empty : Chain (Middleware ξ)) t =
      .ok (⟨(s.breaker.map fun b => ("circuit_breaker", .breaker b t.breakers.length)).toList⟩,
        if s.breaker.isSome then t.addBreaker else t) := by
  unfold addBreaker
  cases s.breaker <;> rfl

theorem addLimiter_guards (s : LocationSettings) (t t' : Store τ)
    (h : t'.limiters = t.limiters) :
    s.addLimiter (⟨(s.breaker.map fun b =>
        ("circuit_breaker", .breaker b t.breakers.length)).toList⟩ : Chain (Middleware ξ)) t' =
      .ok (⟨s.guards t⟩, match s.limit with
        | none => t'
        | some l => t'.addLimiter l.limit) := by
  unfold addLimiter guards
  rw [← h]
  cases s.limit <;> cases s.breaker <;> rfl

theorem addMetrics_empty (s : LocationSettings) (metrics : Bool) :
    s.addMetrics metrics (.empty : Chain (Observer ζ)) =
      .ok ⟨if metrics then [("metrics", .metrics s.name)] else []⟩ := by
  unfold addMetrics
  cases metrics <;> rfl

/-- A location whose endpoints all differ is built as its settings ask for it. -/
theorem build_cases {s : LocationSettings}
    (hparse : s.endpoints.map Endpoint.parse = s.parsed.map Except.ok) (metrics : Bool)
    (t : Store τ) :
    (s.ids.Nodup ∧ s.build metrics t =
      .ok ((s.branch metrics t : Branch Rotation ξ ζ), s.stock t)) ∨
    ∃ id, 2 ≤ s.ids.count id ∧
      (s.build metrics t : Except Error (Branch Rotation ξ ζ × Store τ)) =
        .error (.endpointExists id) := by
  have hlimiters : (if s.breaker.isSome then t.addBreaker else t).limiters = t.limiters := by
    split <;> rfl
  rcases fillPool_cases .empty .empty hparse List.nodup_nil with
    ⟨hnodup, hfill⟩ | ⟨id, htwice, hfill⟩
  · left
    refine ⟨hnodup, ?_⟩
    unfold build
    rw [hfill]
    simp only [bind, Except.bind, addBreaker_empty, addLimiter_guards s t _ hlimiters,
      addMetrics_empty]
    rfl
  · right
    refine ⟨id, htwice, ?_⟩
    unfold build
    rw [hfill]
    rfl

theorem build_of_nodup {s : LocationSettings}
    (hparse : s.endpoints.map Endpoint.parse = s.parsed.map Except.ok) (hids : s.ids.Nodup)
    (metrics : Bool) (t : Store τ) :
    s.build metrics t = .ok ((s.branch metrics t : Branch Rotation ξ ζ), s.stock t) := by
  have hcases : (s.ids.Nodup ∧ s.build metrics t =
      .ok ((s.branch metrics t : Branch Rotation ξ ζ), s.stock t)) ∨ _ :=
    build_cases hparse metrics t
  rcases hcases with ⟨-, hbuild⟩ | ⟨id, htwice, -⟩
  · exact hbuild
  · exact absurd hids (not_nodup_of_two_le_count htwice)

/-- What is built is what the settings ask for. -/
theorem eq_of_build {s : LocationSettings} {metrics : Bool} {t t' : Store τ}
    {b : Branch Rotation ξ ζ} (h : s.build metrics t = .ok (b, t')) :
    s.ids.Nodup ∧ b = s.branch metrics t ∧ t' = s.stock t := by
  have hparse : s.endpoints.map Endpoint.parse = s.parsed.map Except.ok := by
    unfold build at h
    cases hfill : fillPool s.endpoints .empty .empty with
    | error e =>
        rw [hfill] at h
        cases h
    | ok filled => exact parse_of_fillPool hfill
  have hcases : (s.ids.Nodup ∧ s.build metrics t =
      .ok ((s.branch metrics t : Branch Rotation ξ ζ), s.stock t)) ∨ _ :=
    build_cases hparse metrics t
  rcases hcases with ⟨hids, hbuild⟩ | ⟨id, -, hbuild⟩
  · have heq := Except.ok.inj (h.symm.trans hbuild)
    exact ⟨hids, congrArg Prod.fst heq, congrArg Prod.snd heq⟩
  · cases h.symm.trans hbuild

theorem endpoint_seats (n : Nat) (es : List Endpoint) :
    (seats n es).map (fun m => (Except.ok m.endpoint : Except Error Endpoint)) =
      es.map Except.ok := by
  induction es generalizing n with
  | nil => rfl
  | cons e es ih => exact congrArg (Except.ok e :: ·) (ih (n + 1))

theorem serial_seats (n : Nat) (es : List Endpoint) :
    (seats n es).map Member.serial = List.range' n es.length := by
  induction es generalizing n with
  | nil => rfl
  | cons e es ih => exact congrArg (n :: ·) (ih (n + 1))

theorem follows_branch {s : LocationSettings} (h : s.fault? = none) (metrics : Bool)
    (t : Store τ) : (s.branch metrics t : Branch Rotation ξ ζ).Follows s metrics := by
  have hlength : s.endpoints.length = s.parsed.length := by
    simpa using congrArg List.length (parse_eq h)
  constructor
  · rfl
  · rfl
  · rw [parse_eq h]
    exact endpoint_seats 0 s.parsed
  · rfl
  · rw [hlength, List.range_eq_range']
    exact serial_seats 0 s.parsed
  · rw [hlength]
    rfl
  · unfold branch guards Chain.names
    cases s.breaker <;> cases s.limit <;> rfl
  · rfl

end LocationSettings

/-! ## Installations -/

theorem Distinct.not_clash {ss : List LocationSettings} (h : Distinct ss) {e : Error} :
    ¬ Clash ss e := by
  intro hclash
  cases hclash with
  | endpoint mem twice => exact not_nodup_of_two_le_count twice (h.endpoints _ mem)
  | route mem twice => exact not_nodup_of_two_le_count twice h.routes

theorem Clash.append {ss : List LocationSettings} {e : Error} (h : Clash ss e)
    (rest : List LocationSettings) : Clash (ss ++ rest) e := by
  cases h with
  | endpoint mem twice => exact .endpoint (List.mem_append_left _ mem) twice
  | route mem twice =>
      refine .route (List.mem_append_left _ mem) ?_
      rw [List.map_append, List.count_append]
      omega

theorem map_key_routes (ss : List LocationSettings) :
    (ss.mapIdx LocationSettings.routeTo).map Route.key = ss.map LocationSettings.key := by
  induction ss using List.reverseRecOn with
  | nil => rfl
  | append_singleton ss s ih =>
      rw [List.mapIdx_concat, List.map_append, List.map_append, ih]
      rfl

namespace Installation

theorem houses_empty (extra : τ) (metrics : Bool) :
    ({ store := { extra } } : Installation ξ ζ τ).Houses [] metrics where
  routes := RouteTable.holds_empty
  branches := List.Forall₂.nil

/-- One more location is built, unless it asks for something twice. -/
theorem Houses.addLocation {i : Installation ξ ζ τ} {ss : List LocationSettings}
    {metrics : Bool} (hi : i.Houses ss metrics) (hss : Distinct ss) {s : LocationSettings}
    (hs : s.fault? = none) :
    (Distinct (ss ++ [s]) ∧
      ∃ i', i.addLocation metrics s = .ok i' ∧ i'.Houses (ss ++ [s]) metrics) ∨
    ∃ e, i.addLocation metrics s = .error e ∧ Clash (ss ++ [s]) e := by
  have hmem : s ∈ ss ++ [s] := by simp
  unfold Installation.addLocation
  rcases LocationSettings.build_cases (LocationSettings.parse_eq hs) metrics i.store with
    ⟨hids, hbuild⟩ | ⟨id, htwice, hbuild⟩
  · rw [hbuild]
    have hkeys := map_key_routes ss
    rcases hi.routes.add ⟨s.host, s.pathStart, i.branches.length⟩ with
      ⟨htaken, hadd⟩ | ⟨hfree, routes, hadd, hroutes⟩
    · right
      refine ⟨.nameTaken s.keyText, by simp only [bind, Except.bind, hadd]; rfl, ?_⟩
      refine Clash.route hmem ?_
      rw [List.map_append]
      exact two_le_count_append (hkeys ▸ htaken) List.mem_cons_self
    · left
      refine ⟨⟨fun u hu => ?_, ?_⟩, _, by simp only [bind, Except.bind, hadd]; rfl, ?_, ?_⟩
      · rcases List.mem_append.mp hu with hu | hu
        · exact hss.endpoints u hu
        · exact List.mem_singleton.mp hu ▸ hids
      · have hdistinct := hroutes.distinct
        rw [List.map_append, hkeys] at hdistinct
        rw [List.map_append]
        exact hdistinct
      · rw [List.mapIdx_concat, ← hi.branches.length_eq]
        exact hroutes
      · exact List.rel_append hi.branches
          (List.Forall₂.cons (LocationSettings.follows_branch hs metrics _) List.Forall₂.nil)
  · right
    rw [hbuild]
    exact ⟨_, rfl, .endpoint hmem htwice⟩

theorem Houses.foldlM {i : Installation ξ ζ τ} {ss : List LocationSettings}
    {metrics : Bool} (hi : i.Houses ss metrics) (hss : Distinct ss)
    {rest : List LocationSettings} (hrest : ∀ s ∈ rest, s.fault? = none) :
    (Distinct (ss ++ rest) ∧
      ∃ i', rest.foldlM (Installation.addLocation metrics) i = .ok i' ∧
        i'.Houses (ss ++ rest) metrics) ∨
    ∃ e, rest.foldlM (Installation.addLocation metrics) i = .error e ∧ Clash (ss ++ rest) e := by
  induction rest generalizing i ss with
  | nil =>
      rw [List.append_nil]
      exact .inl ⟨hss, i, rfl, hi⟩
  | cons s rest ih =>
      obtain ⟨hs, hrest⟩ := List.forall_mem_cons.mp hrest
      rw [List.append_cons, List.foldlM_cons]
      rcases hi.addLocation hss hs with ⟨hdistinct, i', hadd, hi'⟩ | ⟨e, hadd, hclash⟩
      · rw [hadd]
        exact ih hi' hdistinct hrest
      · right
        rw [hadd]
        exact ⟨e, rfl, hclash.append rest⟩

end Installation

namespace Configuration

theorem fault?_of_faultAmong? {seen : List String} {ss : List LocationSettings}
    (h : faultAmong? seen ss = none) : ∀ s ∈ ss, s.fault? = none := by
  induction ss generalizing seen with
  | nil => simp
  | cons s rest ih =>
      unfold faultAmong? at h
      split at h
      · cases h
      · split at h
        · cases h
        · rename_i hs
          exact List.forall_mem_cons.mpr ⟨hs, ih h⟩

theorem fault?_of_validate {c : Configuration} (h : c.validate = .ok ()) :
    ∀ s ∈ c.locations, s.fault? = none := by
  unfold validate fault? at h
  split at h
  · cases h
  · rename_i hfault
    split at hfault
    · cases hfault
    · exact fault?_of_faultAmong? hfault

/-- A valid configuration is built as it is written down, unless it asks for something
twice. -/
theorem builds_of_validate (c : Configuration) (ξ ζ : Type) (extra : τ)
    (h : c.validate = .ok ()) : c.Builds ξ ζ extra := by
  have hempty : ({ store := { extra } } : Installation ξ ζ τ).Houses [] c.metrics.enabled :=
    Installation.houses_empty extra c.metrics.enabled
  have hcases := hempty.foldlM ⟨by simp, List.nodup_nil⟩ (fault?_of_validate h)
  rw [List.nil_append] at hcases
  rcases hcases with ⟨hdistinct, i, hi, hhouses⟩ | ⟨e, he, hclash⟩
  · constructor
    · exact ⟨fun _ => hdistinct, fun _ => ⟨i, hi⟩⟩
    · intro i' hi'
      obtain rfl := Except.ok.inj (hi.symm.trans hi')
      exact hhouses
    · intro e he
      cases hi.symm.trans he
  · constructor
    · refine ⟨fun ⟨i, hi⟩ => ?_, fun hdistinct => absurd hclash hdistinct.not_clash⟩
      cases he.symm.trans hi
    · intro i hi
      cases he.symm.trans hi
    · intro e' he'
      obtain rfl := Except.error.inj (he.symm.trans he')
      exact hclash

/-- A location for one path, with two servers and a breaker, and one for all others. -/
def sideBySide : Configuration where
  locations :=
    [{ name := "api", pathStart := "/api", endpoints := ["http://a", "http://b"],
       breaker := some {} },
     { name := "rest", endpoints := ["http://a"] }]

theorem builds_of_validate_sideBySide :
    sideBySide.validate = .ok () ∧ ∃ i : Installation Empty Empty Unit,
      sideBySide.build () = .ok i ∧ i.Houses sideBySide.locations true := by
  have hvalid : sideBySide.validate = .ok () := by decide +kernel
  have hdistinct : Distinct sideBySide.locations := by
    constructor <;> decide +kernel
  have hbuilds := builds_of_validate sideBySide Empty Empty () hvalid
  obtain ⟨i, hi⟩ := hbuilds.succeeds_iff.mpr hdistinct
  exact ⟨hvalid, i, hi, hbuilds.houses i hi⟩

/-- Two locations at the root of any host. -/
def sharedRoot : Configuration where
  locations :=
    [{ name := "a", endpoints := ["http://a"] }, { name := "b", endpoints := ["http://b"] }]

/-- One location that names a server twice, with and without its port. -/
def sharedServer : Configuration where
  locations := [{ name := "a", endpoints := ["http://a", "http://a:80"] }]

/-- Valid configurations that cannot be built. -/
theorem valid_not_built :
    (sharedRoot.validate = .ok () ∧
      (sharedRoot.build () : Except Error (Installation Empty Empty Unit)).map (fun _ => ()) =
        .error (.nameTaken "*/")) ∧
    (sharedServer.validate = .ok () ∧
      (sharedServer.build () : Except Error (Installation Empty Empty Unit)).map (fun _ => ()) =
        .error (.endpointExists "http://a:80")) := by
  decide +kernel

end Configuration

end Gateway
