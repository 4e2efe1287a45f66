import Gateway.Proofs.Route.Hosts
import Mathlib

/-!
# The best of the routes

Routes are added one after another, and one whose host and prefix are taken is refused. Of
the routes that were added, at most one is the best for a request, and it serves it. So it is
of no account in which order they came.
-/

namespace Gateway

variable {κ : Type}

namespace Route

/-- What tells routes apart. -/
def key (r : Route κ) : Option (List Char) × List Char := (r.host, r.path)

end Route

/-- A route as it is asked for. -/
structure RouteSpec (κ : Type) where
  host : Option String
  pathStart : String
  target : κ

namespace RouteSpec

def route (p : RouteSpec κ) : Route κ := Route.normal p.host p.pathStart p.target

/-- The prefix of the route, which begins with a slash even where none was written. -/
def start (p : RouteSpec κ) : List Char :=
  if ['/'] <+: p.pathStart.toList then p.pathStart.toList else '/' :: p.pathStart.toList

/-- The octets of the prefix. -/
def reach (p : RouteSpec κ) : Nat := (p.start.map Char.utf8Size).sum

/-- A request may take the route: its path begins with the prefix, and if the route is bound to
a host, it asks for that host. -/
structure Admits (p : RouteSpec κ) (q : Request) : Prop where
  path : p.start <+: q.uri.path.toList
  host : ∀ bound, p.host = some bound → ∃ asked, q.host? = some asked ∧ SameHost asked bound

/-- The longer prefix goes first; of two of one length, the one that is bound to a host. -/
def Outranks (p p' : RouteSpec κ) : Prop :=
  p'.reach < p.reach ∨ p.reach = p'.reach ∧ p.host ≠ none ∧ p'.host = none

/-- Both are for one host, or both for any, and for the same prefix. -/
def SameRoute (p p' : RouteSpec κ) : Prop :=
  Option.Rel SameHost p.host p'.host ∧ p.start = p'.start

/-- A route that a request may take, while none that it may take goes before it. -/
structure Best (ps : List (RouteSpec κ)) (q : Request) (p : RouteSpec κ) : Prop where
  mem : p ∈ ps
  admits : p.Admits q
  maximal : ∀ p' ∈ ps, p'.Admits q → ¬ p'.Outranks p

end RouteSpec

namespace RouteTable

/-- Adds a route unless it is refused. -/
def offer (t : RouteTable κ) (p : RouteSpec κ) : RouteTable κ :=
  match t.add p.host p.pathStart p.target with
  | .ok t' => t'
  | .error _ => t

/-- The table after all routes have been offered in order. -/
def ofSpecs (ps : List (RouteSpec κ)) : RouteTable κ := ps.foldl offer .empty

/-- The routes that are added, and not refused. -/
def added (t : RouteTable κ) : List (RouteSpec κ) → List (RouteSpec κ)
  | [] => []
  | p :: ps =>
      match t.add p.host p.pathStart p.target with
      | .ok t' => p :: added t' ps
      | .error _ => added t ps

end RouteTable

/-! ## Ranks -/

namespace Route

/-- Routes in the order of their ranks are in the order of preference. -/
def rank (r : Route κ) : Nat := 2 * r.length + r.host.isSome.toNat

theorem beats_iff (a b : Route κ) : a.beats b = true ↔ b.rank < a.rank := by
  unfold beats rank
  cases a.host <;> cases b.host <;> simp <;> omega

theorem sameKey_iff (a b : Route κ) : a.sameKey b = true ↔ a.key = b.key := by
  simp [sameKey, key]

/-! ## Routes that a request may take -/

theorem foldCase_foldCase (cs : List Char) : foldCase (foldCase cs) = foldCase cs := by
  simp [foldCase]

/-- The host of a route stands in lower case. -/
def Folded (r : Route κ) : Prop := ∀ h, r.host = some h → foldCase h = h

theorem folded_normal (host : Option String) (pathStart : String) (target : κ) :
    (normal host pathStart target).Folded := by
  intro h hh
  obtain ⟨asked, -, rfl⟩ := Option.map_eq_some_iff.mp hh
  exact foldCase_foldCase _

theorem fits_iff {r : Route κ} {host : Option String} {path : List Char} :
    r.fits host path = true ↔ r.path <+: path ∧
      ∀ bound, r.host = some bound →
        ∃ asked, host = some asked ∧ foldCase (bareHost asked.toList) = foldCase bound := by
  unfold fits matchesHost
  rw [Bool.and_eq_true, List.isPrefixOf_iff_prefix, and_comm]
  refine and_congr_right fun _ => ?_
  cases r.host with
  | none => simp
  | some bound => simp [Option.any_eq_true]

/-- Octets of some characters. -/
def octets (cs : List Char) : Nat := (cs.map Char.utf8Size).sum

theorem length_eq_octets (r : Route κ) : r.length = octets r.path := by
  unfold length octets
  rw [List.sum_eq_foldl, List.foldl_map]

theorem octets_append (cs ds : List Char) : octets (cs ++ ds) = octets cs + octets ds := by
  unfold octets
  rw [List.map_append, List.sum_append]

theorem octets_pos {cs : List Char} (h : cs ≠ []) : 0 < octets cs := by
  obtain ⟨c, rest, rfl⟩ := List.exists_cons_of_ne_nil h
  have hc := c.utf8Size_pos
  rw [octets, List.map_cons, List.sum_cons]
  omega

/-- Of the prefixes of one path, only one has a given number of octets. -/
theorem eq_of_prefix {cs ds path : List Char} (hcs : cs <+: path) (hds : ds <+: path)
    (hoctets : octets cs = octets ds) : cs = ds := by
  -- The longer of the two has something more, which takes room.
  have hclose : ∀ {as bs : List Char}, as <+: bs → octets as = octets bs → as = bs := by
    rintro as bs ⟨more, rfl⟩ heq
    rw [octets_append] at heq
    by_cases hmore : more = []
    · rw [hmore, List.append_nil]
    · have := octets_pos hmore
      omega
  rcases List.prefix_or_prefix_of_prefix hcs hds with h | h
  · exact hclose h hoctets
  · exact (hclose h hoctets.symm).symm

/-- Two routes of one rank that a request may take have the same host and prefix. -/
theorem key_eq_of_fits {a b : Route κ} {host : Option String} {path : List Char}
    (ha : a.fits host path = true) (hb : b.fits host path = true)
    (hafold : a.Folded) (hbfold : b.Folded) (hrank : a.rank = b.rank) : a.key = b.key := by
  obtain ⟨hapath, hahost⟩ := fits_iff.mp ha
  obtain ⟨hbpath, hbhost⟩ := fits_iff.mp hb
  have hlength : a.length = b.length ∧ (a.host.isSome = b.host.isSome) := by
    unfold rank at hrank
    cases hah : a.host <;> cases hbh : b.host <;> simp [hah, hbh] at hrank ⊢ <;> omega
  have hpath : a.path = b.path := by
    rw [length_eq_octets, length_eq_octets] at hlength
    exact eq_of_prefix hapath hbpath hlength.1
  have hhost : a.host = b.host := by
    cases hah : a.host with
    | none =>
        rw [hah] at hlength
        exact (Option.isSome_eq_false_iff.mp hlength.2.symm |> Option.isNone_iff_eq_none.mp).symm
    | some x =>
        rw [hah] at hlength
        obtain ⟨y, hbh⟩ := Option.isSome_iff_exists.mp hlength.2.symm
        obtain ⟨asked, hasked, hx⟩ := hahost x hah
        obtain ⟨asked', hasked', hy⟩ := hbhost y hbh
        rw [hasked, Option.some.injEq] at hasked'
        subst hasked'
        rw [hbh, ← hafold x hah, ← hbfold y hbh, ← hx, hy]
  rw [key, key, hhost, hpath]

end Route

/-! ## Routes as they are asked for -/

namespace RouteSpec

theorem path_route (p : RouteSpec κ) : p.route.path = p.start := by
  unfold route Route.normal start
  cases p.pathStart.toList with
  | nil => rfl
  | cons c cs =>
      by_cases hc : c = '/'
      · subst hc
        simp
      · simp [hc, Ne.symm hc]

theorem length_route (p : RouteSpec κ) : p.route.length = p.reach := by
  rw [Route.length_eq_octets, path_route]
  rfl

theorem host_route (p : RouteSpec κ) :
    p.route.host = p.host.map fun h => foldCase (bareHost h.toList) := by
  rfl

theorem fits_route_iff (p : RouteSpec κ) (q : Request) :
    p.route.fits q.host? q.uri.path.toList = true ↔ p.Admits q := by
  rw [Route.fits_iff, path_route, host_route]
  constructor
  · rintro ⟨hpath, hhost⟩
    refine ⟨hpath, fun bound hbound => ?_⟩
    obtain ⟨asked, hasked, hsame⟩ := hhost _ (Option.map_eq_some_iff.mpr ⟨bound, hbound, rfl⟩)
    rw [Route.foldCase_foldCase] at hsame
    exact ⟨asked, hasked, sameHost_iff.mpr hsame⟩
  · rintro ⟨hpath, hhost⟩
    refine ⟨hpath, fun _ hfolded => ?_⟩
    obtain ⟨bound, hbound, rfl⟩ := Option.map_eq_some_iff.mp hfolded
    obtain ⟨asked, hasked, hsame⟩ := hhost bound hbound
    rw [Route.foldCase_foldCase]
    exact ⟨asked, hasked, sameHost_iff.mp hsame⟩

theorem outranks_iff (p p' : RouteSpec κ) :
    p.Outranks p' ↔ p'.route.rank < p.route.rank := by
  unfold Outranks Route.rank
  rw [length_route, length_route, host_route, host_route]
  cases p.host <;> cases p'.host <;> simp <;> omega

theorem sameRoute_iff (p p' : RouteSpec κ) : p.SameRoute p' ↔ p.route.key = p'.route.key := by
  unfold SameRoute Route.key
  rw [Prod.mk.injEq, path_route, path_route, host_route, host_route]
  refine and_congr_left fun _ => ?_
  cases p.host <;> cases p'.host <;> simp [sameHost_iff]

end RouteSpec

/-! ## Tables -/

namespace RouteTable

theorem place_perm (r : Route κ) (rs : List (Route κ)) : (place r rs).Perm (r :: rs) := by
  induction rs with
  | nil => exact List.Perm.refl _
  | cons s rs ih =>
      unfold place
      split
      · exact List.Perm.refl _
      · exact (ih.cons s).trans (List.Perm.swap r s rs)

/-- No route outranks one that stands before it. -/
def Ordered (rs : List (Route κ)) : Prop := rs.Pairwise fun a b => b.rank ≤ a.rank

theorem ordered_place {r : Route κ} {rs : List (Route κ)} (h : Ordered rs) :
    Ordered (place r rs) := by
  induction rs with
  | nil => exact List.pairwise_singleton _ _
  | cons s rs ih =>
      obtain ⟨hs, hrs⟩ := List.pairwise_cons.mp h
      unfold place
      split
      · rename_i hbeats
        rw [Route.beats_iff] at hbeats
        refine List.pairwise_cons.mpr ⟨fun b hb => ?_, h⟩
        rcases List.mem_cons.mp hb with rfl | hb
        · omega
        · have := hs b hb
          omega
      · rename_i hbeats
        rw [Route.beats_iff] at hbeats
        refine List.pairwise_cons.mpr ⟨fun b hb => ?_, ih hrs⟩
        rcases List.mem_cons.mp ((place_perm r rs).mem_iff.mp hb) with rfl | hb
        · omega
        · exact hs b hb

/-- What is true of a table to which the routes `rs` have been added. -/
structure Holds (t : RouteTable κ) (rs : List (Route κ)) : Prop where
  perm : t.routes.Perm rs
  ordered : Ordered t.routes
  folded : ∀ r ∈ rs, r.Folded
  distinct : (rs.map Route.key).Nodup

theorem holds_empty : (empty : RouteTable κ).Holds [] where
  perm := List.Perm.refl _
  ordered := List.Pairwise.nil
  folded := by simp
  distinct := List.nodup_nil

theorem any_sameKey_iff {t : RouteTable κ} {rs : List (Route κ)} (h : t.Holds rs)
    (r : Route κ) : t.routes.any r.sameKey = true ↔ r.key ∈ rs.map Route.key := by
  rw [List.any_eq_true, List.mem_map]
  constructor
  · rintro ⟨s, hs, hsame⟩
    exact ⟨s, h.perm.mem_iff.mp hs, ((Route.sameKey_iff r s).mp hsame).symm⟩
  · rintro ⟨s, hs, hsame⟩
    exact ⟨s, h.perm.mem_iff.mpr hs, (Route.sameKey_iff r s).mpr hsame.symm⟩

/-- A route whose host and prefix are taken is refused, and any other one is put in its place. -/
theorem Holds.add {t : RouteTable κ} {rs : List (Route κ)} (h : t.Holds rs)
    (p : RouteSpec κ) :
    (p.route.key ∈ rs.map Route.key ∧
      t.add p.host p.pathStart p.target = .error (.nameTaken p.route.keyText)) ∨
    (p.route.key ∉ rs.map Route.key ∧
      ∃ t', t.add p.host p.pathStart p.target = .ok t' ∧ t'.Holds (rs ++ [p.route])) := by
  have hany := any_sameKey_iff h p.route
  unfold RouteTable.add
  by_cases htaken : p.route.key ∈ rs.map Route.key
  · left
    exact ⟨htaken, if_pos (hany.mpr htaken)⟩
  · right
    refine ⟨htaken, ⟨place p.route t.routes⟩, if_neg fun hsame => htaken (hany.mp hsame), ?_⟩
    constructor
    · exact (place_perm _ _).trans
        ((h.perm.cons _).trans (List.perm_append_singleton p.route rs).symm)
    · exact ordered_place h.ordered
    · intro r hr
      rcases List.mem_append.mp hr with hr | hr
      · exact h.folded r hr
      · rw [List.mem_singleton.mp hr]
        exact Route.folded_normal _ _ _
    · rw [List.map_append, List.nodup_append]
      refine ⟨h.distinct, List.nodup_singleton _, ?_⟩
      rintro k hk _ hk' rfl
      rw [List.map_singleton, List.mem_singleton] at hk'
      exact htaken (hk' ▸ hk)

theorem Holds.offer {t : RouteTable κ} {taken : List (RouteSpec κ)}
    (h : t.Holds (taken.map RouteSpec.route)) (ps : List (RouteSpec κ)) :
    (ps.foldl RouteTable.offer t).Holds ((taken ++ t.added ps).map RouteSpec.route) := by
  induction ps generalizing t taken with
  | nil =>
      rw [added, List.append_nil]
      exact h
  | cons p ps ih =>
      rw [List.foldl_cons, added, RouteTable.offer]
      rcases h.add p with ⟨-, hadd⟩ | ⟨-, t', hadd, ht'⟩
      · simp only [hadd]
        exact ih h
      · simp only [hadd]
        rw [List.append_cons]
        refine ih ?_
        rwa [List.map_append, List.map_singleton]

theorem holds_ofSpecs (ps : List (RouteSpec κ)) :
    (ofSpecs ps).Holds ((empty.added ps).map RouteSpec.route) := by
  have hempty : (empty : RouteTable κ).Holds ([].map RouteSpec.route) := holds_empty
  exact hempty.offer ps

theorem mem_map_key_iff {ps : List (RouteSpec κ)} {p : RouteSpec κ} :
    p.route.key ∈ (ps.map RouteSpec.route).map Route.key ↔ ∃ p' ∈ ps, p'.SameRoute p := by
  simp only [List.map_map, List.mem_map, Function.comp_apply, RouteSpec.sameRoute_iff]

/-- Routes of which no two are the same are all added. -/
theorem Holds.added_eq {t : RouteTable κ} {taken : List (RouteSpec κ)}
    (h : t.Holds (taken.map RouteSpec.route)) {ps : List (RouteSpec κ)}
    (hdistinct : (taken ++ ps).Pairwise fun p p' => ¬ p.SameRoute p') : t.added ps = ps := by
  induction ps generalizing t taken with
  | nil => rfl
  | cons p ps ih =>
      rw [added]
      rcases h.add p with ⟨htaken, -⟩ | ⟨-, t', hadd, ht'⟩
      · obtain ⟨p', hp', hsame⟩ := mem_map_key_iff.mp htaken
        exact absurd hsame ((List.pairwise_append.mp hdistinct).2.2 p' hp' p List.mem_cons_self)
      · have hmore : t'.Holds ((taken ++ [p]).map RouteSpec.route) := by
          rwa [List.map_append, List.map_singleton]
        rw [List.append_cons] at hdistinct
        simp only [hadd]
        exact congrArg (p :: ·) (ih hmore hdistinct)

/-! ## Routing -/

section

variable {t : RouteTable κ} {ps : List (RouteSpec κ)}

/-- Of the routes that were added, at most one is the best. -/
theorem Holds.best_unique (h : t.Holds (ps.map RouteSpec.route)) {q : Request}
    {p p' : RouteSpec κ} (hp : p.Best ps q) (hp' : p'.Best ps q) : p = p' := by
  have hle := hp.maximal p' hp'.mem hp'.admits
  have hle' := hp'.maximal p hp.mem hp.admits
  rw [RouteSpec.outranks_iff] at hle hle'
  have hkey : p.route.key = p'.route.key :=
    Route.key_eq_of_fits ((p.fits_route_iff q).mpr hp.admits) ((p'.fits_route_iff q).mpr hp'.admits)
      (Route.folded_normal _ _ _) (Route.folded_normal _ _ _) (by omega)
  have hdistinct := h.distinct
  rw [List.map_map] at hdistinct
  exact List.inj_on_of_nodup_map hdistinct hp.mem hp'.mem hkey

/-- The first route of the table that a request may take is the best. -/
theorem Holds.best_of_find? (h : t.Holds (ps.map RouteSpec.route)) {q : Request} {r : Route κ}
    (hfind : t.routes.find? (fun r => r.fits q.host? q.uri.path.toList) = some r) :
    ∃ p : RouteSpec κ, p.Best ps q ∧ p.route = r := by
  obtain ⟨hfits, before, after, hsplit, hbefore⟩ := List.find?_eq_some_iff_append.mp hfind
  obtain ⟨p, hp, rfl⟩ := List.mem_map.mp (h.perm.mem_iff.mp (List.mem_of_find?_eq_some hfind))
  refine ⟨p, ⟨hp, (p.fits_route_iff q).mp hfits, fun p' hp' hadmits => ?_⟩, rfl⟩
  rw [RouteSpec.outranks_iff, Nat.not_lt]
  -- Whatever the request may take stands behind.
  have hmem : p'.route ∈ before ++ p.route :: after :=
    hsplit ▸ h.perm.mem_iff.mpr (List.mem_map_of_mem hp')
  have hordered := h.ordered
  rw [hsplit] at hordered
  rcases List.mem_append.mp hmem with hmem | hmem
  · have hmiss := hbefore p'.route hmem
    rw [(p'.fits_route_iff q).mpr hadmits] at hmiss
    cases hmiss
  · rcases List.mem_cons.mp hmem with heq | hmem
    · exact (congrArg Route.rank heq).le
    · exact (List.pairwise_cons.mp (List.pairwise_append.mp hordered).2.1).1 _ hmem

theorem Holds.router_eq_none_iff (h : t.Holds (ps.map RouteSpec.route)) (q : Request) :
    t.router q = .ok none ↔ ∀ p ∈ ps, ¬ p.Admits q := by
  unfold router find?
  rw [Except.ok.injEq, Option.map_eq_none_iff, List.find?_eq_none]
  simp only [h.perm.mem_iff, List.mem_map, forall_exists_index, and_imp,
    forall_apply_eq_imp_iff₂, RouteSpec.fits_route_iff]

theorem Holds.router_eq_some_iff (h : t.Holds (ps.map RouteSpec.route)) (q : Request) (k : κ) :
    t.router q = .ok (some k) ↔ ∃ p : RouteSpec κ, p.Best ps q ∧ p.target = k := by
  have hfound : ∀ {k}, t.router q = .ok (some k) → ∃ p : RouteSpec κ, p.Best ps q ∧ p.target = k := by
    intro k hserved
    unfold router find? at hserved
    rw [Except.ok.injEq, Option.map_eq_some_iff] at hserved
    obtain ⟨r, hfind, rfl⟩ := hserved
    obtain ⟨p, hp, rfl⟩ := h.best_of_find? hfind
    exact ⟨p, hp, rfl⟩
  refine ⟨hfound, ?_⟩
  rintro ⟨p, hp, rfl⟩
  cases hfind : t.find? q.host? q.uri.path.toList with
  | some k =>
      have hserved : t.router q = .ok (some k) := congrArg Except.ok hfind
      obtain ⟨p', hp', rfl⟩ := hfound hserved
      rw [hserved, h.best_unique hp hp']
  | none =>
      have hunserved : t.router q = .ok none := congrArg Except.ok hfind
      exact absurd hp.admits ((h.router_eq_none_iff q).mp hunserved p hp.mem)

/-- Only which routes were added matters to a request. -/
theorem Holds.router_congr {t' : RouteTable κ} {ps' : List (RouteSpec κ)}
    (h : t.Holds (ps.map RouteSpec.route)) (h' : t'.Holds (ps'.map RouteSpec.route))
    (hmem : ∀ p, p ∈ ps ↔ p ∈ ps') (q : Request) : t'.router q = t.router q := by
  have hbest : ∀ p : RouteSpec κ, p.Best ps q → p.Best ps' q := by
    intro p hp
    refine ⟨(hmem p).mp hp.mem, hp.admits, fun p' hp' => ?_⟩
    exact hp.maximal p' ((hmem p').mpr hp')
  cases hfound : t.find? q.host? q.uri.path.toList with
  | some k =>
      have hserved : t.router q = .ok (some k) := congrArg Except.ok hfound
      obtain ⟨p, hp, hk⟩ := (h.router_eq_some_iff q k).mp hserved
      rw [hserved, (h'.router_eq_some_iff q k).mpr ⟨p, hbest p hp, hk⟩]
  | none =>
      have hunserved : t.router q = .ok none := congrArg Except.ok hfound
      rw [hunserved, h'.router_eq_none_iff]
      intro p hp
      exact (h.router_eq_none_iff q).mp hunserved p ((hmem p).mpr hp)

end

/-- How requests are routed when the routes `ps` have been offered to an empty table. -/
structure Routes (ps : List (RouteSpec κ)) : Prop where
  /-- The best of the routes that were added serves the request. -/
  served_iff : ∀ q k, (ofSpecs ps).router q = .ok (some k) ↔
    ∃ p : RouteSpec κ, p.Best (empty.added ps) q ∧ p.target = k
  unserved_iff : ∀ q, (ofSpecs ps).router q = .ok none ↔ ∀ p ∈ empty.added ps, ¬ p.Admits q
  /-- At most one route is the best. -/
  unique : ∀ q (p p' : RouteSpec κ),
    p.Best (empty.added ps) q → p'.Best (empty.added ps) q → p = p'
  /-- Another route is refused exactly if the same one is there. -/
  refused_iff : ∀ (p : RouteSpec κ) e, (ofSpecs ps).add p.host p.pathStart p.target = .error e ↔
    (∃ p' ∈ empty.added ps, p'.SameRoute p) ∧ e = .nameTaken p.route.keyText
  /-- A route that is refused changes nothing, -/
  refused : ∀ p : RouteSpec κ, (∃ p' ∈ empty.added ps, p'.SameRoute p) →
    ofSpecs (ps ++ [p]) = ofSpecs ps
  /-- and any other one makes the table longer by one. -/
  added_concat : ∀ p : RouteSpec κ, (∀ p' ∈ empty.added ps, ¬ p'.SameRoute p) →
    empty.added (ps ++ [p]) = empty.added ps ++ [p]
  size_eq : (ofSpecs ps).size = (empty.added ps).length
  /-- Routes that all differ may come in any order. -/
  perm : (ps.Pairwise fun p p' => ¬ p.SameRoute p') → ∀ ps', ps.Perm ps' →
    ∀ q, (ofSpecs ps').router q = (ofSpecs ps).router q

theorem ofSpecs_concat (ps : List (RouteSpec κ)) (p : RouteSpec κ) :
    ofSpecs (ps ++ [p]) = (ofSpecs ps).offer p := by
  unfold ofSpecs
  rw [List.foldl_append]
  rfl

theorem added_append (t : RouteTable κ) (ps ps' : List (RouteSpec κ)) :
    t.added (ps ++ ps') = t.added ps ++ (ps.foldl offer t).added ps' := by
  induction ps generalizing t with
  | nil => rfl
  | cons p ps ih =>
      rw [List.cons_append, added, added, List.foldl_cons, offer]
      cases t.add p.host p.pathStart p.target with
      | ok t' => exact congrArg (p :: ·) (ih t')
      | error e => exact ih t

theorem sameRoute_comm {p p' : RouteSpec κ} : p.SameRoute p' ↔ p'.SameRoute p := by
  rw [RouteSpec.sameRoute_iff, RouteSpec.sameRoute_iff, eq_comm]

/-- All of the routes are added if no two of them are the same. -/
theorem holds_of_distinct {ps : List (RouteSpec κ)}
    (hdistinct : ps.Pairwise fun p p' => ¬ p.SameRoute p') :
    (ofSpecs ps).Holds (ps.map RouteSpec.route) := by
  have hempty : (empty : RouteTable κ).Holds ([].map RouteSpec.route) := holds_empty
  have hholds := holds_ofSpecs ps
  rwa [hempty.added_eq hdistinct] at hholds

theorem routes_ofSpecs (ps : List (RouteSpec κ)) : Routes ps where
  served_iff := (holds_ofSpecs ps).router_eq_some_iff
  unserved_iff := (holds_ofSpecs ps).router_eq_none_iff
  unique := by
    intro q p p'
    exact (holds_ofSpecs ps).best_unique
  refused_iff := by
    intro p e
    rw [← mem_map_key_iff]
    rcases (holds_ofSpecs ps).add p with ⟨htaken, hadd⟩ | ⟨hfree, t', hadd, -⟩
    · rw [hadd, Except.error.injEq]
      exact ⟨fun he => ⟨htaken, he.symm⟩, fun he => he.2.symm⟩
    · rw [hadd]
      refine ⟨fun he => ?_, fun he => absurd he.1 hfree⟩
      cases he
  refused := by
    intro p htaken
    rcases (holds_ofSpecs ps).add p with ⟨-, hadd⟩ | ⟨hfree, -⟩
    · rw [ofSpecs_concat, offer, hadd]
    · exact absurd (mem_map_key_iff.mpr htaken) hfree
  added_concat := by
    intro p hfree
    rcases (holds_ofSpecs ps).add p with ⟨htaken, -⟩ | ⟨-, t', hadd, -⟩
    · obtain ⟨p', hp', hsame⟩ := mem_map_key_iff.mp htaken
      exact absurd hsame (hfree p' hp')
    · unfold ofSpecs at hadd
      rw [added_append, added, hadd]
      rfl
  size_eq := by
    have hlength := (holds_ofSpecs ps).perm.length_eq
    rwa [List.length_map] at hlength
  perm := by
    intro hdistinct ps' hperm q
    have hdistinct' : ps'.Pairwise fun p p' => ¬ p.SameRoute p' :=
      (hperm.pairwise_iff fun hne => mt sameRoute_comm.mp hne).mp hdistinct
    exact (holds_of_distinct hdistinct).router_congr (holds_of_distinct hdistinct')
      (fun _ => hperm.mem_iff) q

/-- The third route is the first one again, and the one for a host goes before it. -/
example : let t := ofSpecs [⟨none, "v1", 0⟩, ⟨some "[::A]:443", "/v1", 1⟩, ⟨none, "/v1", 2⟩]
    t.size = 2 ∧ t.find? (some "[::a]:8080") "/v1/x".toList = some 1 ∧
      t.find? (some "b") "/v1/x".toList = some 0 ∧ t.find? none "/v2".toList = none := by
  decide

end RouteTable

end Gateway
