import Gateway.Outbound
import Gateway.Proofs.Url.Hosts

/-!
# Where a request goes

The text of an endpoint and the text of a target are put together and read as one. The
authority that is read ends where the target begins, for the target begins with a slash or a
question mark: so the request goes to the endpoint, and asks it for what the client asked
for. An asterisk is the one target that begins with neither.
-/

namespace Gateway

namespace Endpoint

theorem authority_toList (e : Endpoint) :
    e.authority.toList = e.host.text.toList ++ ':' :: Nat.toDigits 10 e.port := by
  simp [authority]

theorem id_append (e : Endpoint) (more : String) :
    (e.id ++ more).toList =
      (e.scheme.text ++ "://").toList ++ (e.authority.toList ++ more.toList) := by
  simp [id]

theorem isDigit_of_mem_port {e : Endpoint} {c : Char} (hc : c ∈ Nat.toDigits 10 e.port) :
    c.isDigit = true :=
  Nat.isDigit_of_mem_toDigits (by decide) (by decide) hc

theorem not_mem_port {e : Endpoint} {c : Char} (hc : c.isDigit = false) :
    c ∉ Nat.toDigits 10 e.port := by
  intro hmem
  rw [isDigit_of_mem_port hmem] at hc
  cases hc

/-- An endpoint's authority holds nothing that would end it. -/
theorem Plain.inAuthority {e : Endpoint} (he : e.Plain) :
    ∀ c ∈ e.authority.toList, Uri.inAuthority c = true := by
  intro c hc
  rw [authority_toList] at hc
  rcases List.mem_append.mp hc with hhost | hbehind
  · exact (Host.mem_text he.host hhost).1
  · rcases List.mem_cons.mp hbehind with rfl | hdigit
    · decide
    · have halpha := isAlphanum_of_isDigit (isDigit_of_mem_port hdigit)
      exact (Host.marks_of_isAlphanum halpha).1

end Endpoint

namespace Uri

/-! ## URIs of the web -/

theorem splitScheme_web (scheme : Scheme) (cs : List Char) :
    splitScheme ((scheme.text ++ "://").toList ++ cs) = .ok (some scheme.text, cs) := by
  cases scheme <;> rfl

/-- A text with a scheme of the web has neither of the short forms. -/
theorem parse_eq_parseFull (scheme : Scheme) (cs : List Char) :
    parse ((scheme.text ++ "://").toList ++ cs) =
      if maxLength < octets ((scheme.text ++ "://").toList ++ cs) then .error .tooLong
      else parseFull ((scheme.text ++ "://").toList ++ cs) := by
  cases scheme <;> rfl

/-- What is read behind the scheme is an authority and what follows it. -/
theorem parse_web {scheme : Scheme} {cs : List Char} {u : Uri}
    (h : parse ((scheme.text ++ "://").toList ++ cs) = .ok u) :
    ∃ p, PathQuery.parse (cs.dropWhile inAuthority) = .ok p ∧
      u = ⟨some scheme.text, some (String.ofList (cs.takeWhile inAuthority)), p⟩ := by
  have hfull : parseFull ((scheme.text ++ "://").toList ++ cs) = .ok u := by
    rw [parse_eq_parseFull] at h
    split at h
    · cases h
    · exact h
  unfold parseFull at hfull
  simp only [bind, Except.bind, splitScheme_web] at hfull
  split at hfull
  · cases hfull
  · rename_i parts hsplit
    obtain ⟨ha, hrest⟩ := parts_of_splitAuthority hsplit
    split at hfull
    · cases hfull
    · rename_i hne
      split at hfull
      · cases hfull
      · rename_i p hp
        cases hfull
        refine ⟨p, hrest ▸ hp, ?_⟩
        rw [nonempty_of_ne_nil fun hnil => hne (List.isEmpty_iff.mpr hnil), ha]

/-! ## The seam -/

/-- What of a target is read as a part of the authority before it. -/
def overflow (u : Uri) : String := if u = asterisk then "*" else ""

/-- What a server is asked for when it is asked for a target. -/
def onward (u : Uri) : PathQuery :=
  if u = asterisk then ⟨"", none⟩
  else if u.target.path = "" ∧ u.target.query = none then ⟨"/", none⟩
  else u.target

/-- A text that begins with the end of an authority has no authority in it. -/
theorem parts_of_head? {cs : List Char} {c : Char} (hhead : cs.head? = some c)
    (hc : inAuthority c = false) :
    cs.takeWhile inAuthority = [] ∧ cs.dropWhile inAuthority = cs := by
  cases cs with
  | nil => cases hhead
  | cons d cs =>
    cases hhead
    simp [hc]

/-- What follows an authority is taken for nothing else. -/
theorem parse_text {p : PathQuery} (hp : p.Legible)
    (hroot : p.path = "" ∨ p.path.toList.head? = some '/') :
    p.text.toList.takeWhile inAuthority = [] ∧
      PathQuery.parse (p.text.toList.dropWhile inAuthority) =
        .ok (if p.path = "" ∧ p.query = none then ⟨"/", none⟩ else p) := by
  by_cases hbare : p.path = "" ∧ p.query = none
  · have htext : p.text = "/" := by
      simp [PathQuery.text, hbare.1, hbare.2]
    rw [htext, if_pos hbare]
    exact ⟨rfl, rfl⟩
  · have htext : p.text = PathQuery.withQuery p.path p.query := by
      unfold PathQuery.text
      rw [if_neg (by simpa using hbare)]
    rw [htext, if_neg hbare]
    -- A path begins with its slash; without a path there is a query, behind its mark.
    have hhead : ∃ c, (PathQuery.withQuery p.path p.query).toList.head? = some c ∧
        inAuthority c = false := by
      obtain ⟨path, query⟩ := p
      rcases hroot with hempty | hslash
      · cases query with
        | none => exact absurd ⟨hempty, rfl⟩ hbare
        | some q =>
          refine ⟨'?', ?_, by decide⟩
          rw [show path = "" from hempty]
          simp [PathQuery.withQuery]
      · refine ⟨'/', ?_, by decide⟩
        cases query with
        | none => exact hslash
        | some q =>
          have hslash : path.toList.head? = some '/' := hslash
          simp [PathQuery.withQuery, hslash]
    obtain ⟨c, hhead, hc⟩ := hhead
    obtain ⟨htake, hdrop⟩ := parts_of_head? hhead hc
    rw [htake, hdrop]
    exact ⟨rfl, PathQuery.parse_withQuery hp⟩

end Uri

namespace Outbound

/-- A target is what overflows and, behind it, what the server is asked for. -/
theorem target_split {r : Request} (hr : r.uri.Form) :
    (target r).toList.takeWhile Uri.inAuthority = (Uri.overflow r.uri).toList ∧
      PathQuery.parse ((target r).toList.dropWhile Uri.inAuthority) = .ok (Uri.onward r.uri) := by
  unfold target
  generalize r.uri = u at hr
  cases hr with
  | asterisk => exact ⟨by decide, by decide⟩
  | origin p hp hroot =>
    have hne : (⟨none, none, p⟩ : Uri) ≠ Uri.asterisk := by
      intro heq
      cases heq
      cases hroot
    rw [Uri.overflow, Uri.onward, if_neg hne, if_neg hne]
    exact Uri.parse_text hp (.inr hroot)
  | authority a =>
    show "/".toList.takeWhile Uri.inAuthority = "".toList ∧
      PathQuery.parse ("/".toList.dropWhile Uri.inAuthority) = .ok ⟨"/", none⟩
    decide
  | absolute s a p hp hroot => exact Uri.parse_text hp hroot

/-- The URI of a request to an endpoint: the endpoint's scheme, then its authority and what
overflows into it, then what it is asked for. -/
theorem uri_of_ofRequest {r : Request} {e : Endpoint} {trust : Bool} {o : Outbound}
    (he : e.Plain) (hr : r.uri.Form) (h : ofRequest r e trust = .ok o) :
    o.uri = ⟨some e.scheme.text, some (e.authority ++ Uri.overflow r.uri),
      Uri.onward r.uri⟩ := by
  obtain ⟨htake, hparse⟩ := target_split hr
  unfold ofRequest at h
  split at h
  · cases h
  · rename_i u hu
    cases h
    unfold Uri.ofString at hu
    rw [Endpoint.id_append] at hu
    obtain ⟨p, hp, rfl⟩ := Uri.parse_web hu
    rw [List.dropWhile_append_of_pos he.inAuthority, hparse] at hp
    cases hp
    rw [List.takeWhile_append_of_pos he.inAuthority, htake]
    simp

end Outbound

/-! ## What is read off the URI -/

namespace Uri

/-- The number that decimal digits write. -/
def decimal (ds : List Char) : Nat := ds.foldl (fun n c => n * 10 + (c.toNat - '0'.toNat)) 0

theorem decimal_toDigits (n : Nat) : decimal (Nat.toDigits 10 n) = n := by
  have h := Nat.ofDigitChars_ten_toDigits (n := n)
  rw [Nat.ofDigitChars_eq_foldl] at h
  simpa only [decimal, Nat.mul_comm] using h

/-- Behind the last colon stands what has no colon. -/
theorem behind_colon {front port : List Char} (hport : ':' ∉ port) :
    ((front ++ ':' :: port).reverse.takeWhile (· ≠ ':')).reverse = port := by
  have hall : ∀ c ∈ port.reverse, decide (c ≠ ':') = true := by
    intro c hc
    rw [decide_eq_true_eq]
    rintro rfl
    exact hport (List.mem_reverse.mp hc)
  rw [List.reverse_append, List.reverse_cons, List.append_assoc,
    List.takeWhile_append_of_pos hall]
  simp

theorem port?_of_colon {v : Uri} {a : String} {front port : List Char}
    (hv : v.authority = some a) (ha : a.toList = front ++ ':' :: port) (hcolon : ':' ∉ port)
    (hplus : '+' ∉ port) :
    v.port? = if port ≠ [] ∧ port.all Char.isDigit = true ∧ decimal port < 65536
      then some (decimal port) else none := by
  -- The colon itself is not a part of what stands behind it, so a port is looked for.
  have hlength : port.length ≠ a.length := by
    rw [← String.length_toList, ha]
    simp
    omega
  have hsign : ∀ rest, port ≠ '+' :: rest := by
    rintro rest rfl
    exact hplus List.mem_cons_self
  unfold Uri.port?
  rw [hv]
  simp only [Option.bind_eq_bind, Option.bind_some, ha, behind_colon hcolon]
  rw [if_neg hlength]
  unfold decimal
  by_cases hempty : port = [] <;> by_cases hdigits : port.all Char.isDigit = true <;>
    simp [hempty, hdigits]

end Uri

namespace Endpoint

variable {e : Endpoint} {v : Uri}

/-- The host is the endpoint's even if something else stands behind the port. -/
theorem Plain.host?_eq (he : e.Plain) {more : String} (hmore : '@' ∉ more.toList)
    (hv : v.authority = some (e.authority ++ more)) : v.host? = some e.host.text := by
  have hat : '@' ∉ Nat.toDigits 10 e.port ++ more.toList := by
    intro hmem
    rcases List.mem_append.mp hmem with hdigit | hbehind
    · exact not_mem_port (by decide) hdigit
    · exact hmore hbehind
  unfold Uri.host?
  rw [hv, Option.map_some, String.toList_append, authority_toList, List.append_assoc,
    List.cons_append, Host.hostOf_text he.host hat, String.ofList_toList]

theorem Plain.port?_eq (he : e.Plain) (hv : v.authority = some e.authority) :
    v.port? = some e.port := by
  have hdigits : (Nat.toDigits 10 e.port).all Char.isDigit = true :=
    List.all_eq_true.mpr fun c hc => isDigit_of_mem_port hc
  rw [Uri.port?_of_colon hv e.authority_toList (not_mem_port (by decide))
    (not_mem_port (by decide)), Uri.decimal_toDigits,
    if_pos ⟨Nat.toDigits_ne_nil, hdigits, he.port⟩]

theorem port?_eq_none (hv : v.authority = some (e.authority ++ "*")) : v.port? = none := by
  have htext : (e.authority ++ "*").toList =
      e.host.text.toList ++ ':' :: (Nat.toDigits 10 e.port ++ ['*']) := by
    simp [authority_toList]
  have hmark : ∀ c, c.isDigit = false → c ≠ '*' → c ∉ Nat.toDigits 10 e.port ++ ['*'] := by
    intro c hc hne hmem
    rcases List.mem_append.mp hmem with hdigit | hlast
    · exact not_mem_port hc hdigit
    · exact hne (List.mem_singleton.mp hlast)
  rw [Uri.port?_of_colon hv htext (hmark ':' (by decide) (by decide))
    (hmark '+' (by decide) (by decide)), if_neg]
  rintro ⟨-, hdigits, -⟩
  have := List.all_eq_true.mp hdigits '*' (by simp)
  cases this

end Endpoint

namespace Uri

/-- The URI goes to the endpoint and asks it for what the target `u` asks for. -/
structure Reaches (v : Uri) (e : Endpoint) (u : Uri) : Prop where
  scheme : v.scheme = some e.scheme.text
  authority : v.authority = some e.authority
  host : v.host? = some e.host.text
  port : v.port? = some e.port
  path : v.path = if u.path = "" then "/" else u.path
  query : v.target.query = u.target.query

/-- The URI names the endpoint's host but, instead of its port, something that is none. -/
structure Strays (v : Uri) (e : Endpoint) : Prop where
  scheme : v.scheme = some e.scheme.text
  authority : v.authority = some (e.authority ++ "*")
  host : v.host? = some e.host.text
  port : v.port? = none
  path : v.path = "/"
  query : v.target.query = none

theorem path_onward {s a : String} {u : Uri} (hu : u ≠ asterisk) :
    path ⟨some s, some a, onward u⟩ = if u.path = "" then "/" else u.path := by
  obtain ⟨scheme, authority, path, query⟩ := u
  rw [onward, if_neg hu]
  by_cases hpath : path = "" <;> cases query <;> cases scheme <;> simp [Uri.path, hpath]

theorem query_onward {u : Uri} (hu : u ≠ asterisk) : (onward u).query = u.target.query := by
  rw [onward, if_neg hu]
  split
  · rename_i hbare
    exact hbare.2.symm
  · rfl

end Uri

namespace Outbound

/-- A request to an endpoint goes there and asks for what the client asked for, unless that
is an asterisk: then the asterisk stands where the port should end, and the request asks for
the root of a host without a port. -/
theorem ofRequest_reaches {url text : String} {r : Request} {e : Endpoint} {trust : Bool}
    {o : Outbound} (he : Endpoint.parse url = .ok e) (hr : Uri.ofString text = .ok r.uri)
    (h : ofRequest r e trust = .ok o) :
    (r.uri ≠ Uri.asterisk → o.uri.Reaches e r.uri) ∧
      (r.uri = Uri.asterisk → o.uri.Strays e) := by
  have hplain := Endpoint.plain_of_parse he
  have huri := uri_of_ofRequest hplain (Uri.form_of_ofString hr) h
  constructor
  · intro hu
    have hauthority : o.uri.authority = some e.authority := by
      rw [huri, Uri.overflow, if_neg hu]
      simp
    have hnothing : '@' ∉ "".toList := by simp
    refine ⟨by rw [huri], hauthority, ?_, hplain.port?_eq hauthority, ?_, ?_⟩
    · exact hplain.host?_eq hnothing (by simpa using hauthority)
    · rw [huri]
      exact Uri.path_onward hu
    · rw [huri]
      exact Uri.query_onward hu
  · intro hu
    have hauthority : o.uri.authority = some (e.authority ++ "*") := by
      rw [huri, Uri.overflow, if_pos hu]
    refine ⟨by rw [huri], hauthority, ?_, Endpoint.port?_eq_none hauthority, ?_, ?_⟩
    · exact hplain.host?_eq (by decide) hauthority
    · rw [huri, hu]
      rfl
    · rw [huri, hu]
      rfl

/-- A request that says nothing but its target. -/
def asking (u : Uri) : Request where
  id := 1
  method := ⟨"OPTIONS"⟩
  uri := u
  version := .http11
  headers := ⟨[]⟩
  peer := none

/-- A target without a path. -/
theorem ofRequest_reaches_query :
    ∃ e o, Endpoint.parse "http://A:8080/base" = .ok e ∧
      Uri.ofString "http://shop?q=1" =
        .ok (asking ⟨some "http", some "shop", ⟨"", some "q=1"⟩⟩).uri ∧
      ofRequest (asking ⟨some "http", some "shop", ⟨"", some "q=1"⟩⟩) e true = .ok o ∧
      o.uri.Reaches e ⟨some "http", some "shop", ⟨"", some "q=1"⟩⟩ := by
  have he : Endpoint.parse "http://A:8080/base" =
      .ok ⟨.http, .domain "a", 8080, "http://a:8080/base"⟩ := by decide +kernel
  have hr : Uri.ofString "http://shop?q=1" =
      .ok (asking ⟨some "http", some "shop", ⟨"", some "q=1"⟩⟩).uri := by decide +kernel
  have ho : ofRequest (asking ⟨some "http", some "shop", ⟨"", some "q=1"⟩⟩)
      ⟨.http, .domain "a", 8080, "http://a:8080/base"⟩ true =
      .ok ⟨⟨"OPTIONS"⟩, ⟨some "http", some "a:8080", ⟨"", some "q=1"⟩⟩, .http11,
        ⟨[(.forwardedProto, Utf8.encode "http")]⟩, []⟩ := by decide +kernel
  exact ⟨_, _, he, hr, ho, (ofRequest_reaches he hr ho).1 (by decide)⟩

/-- An asterisk is sent to where nothing tells the endpoint's port. -/
theorem asterisk_strays :
    ∃ e o, Endpoint.parse "http://127.0.0.1:9001" = .ok e ∧
      Uri.ofString "*" = .ok (asking Uri.asterisk).uri ∧
      ofRequest (asking Uri.asterisk) e true = .ok o ∧ ¬ o.uri.Reaches e Uri.asterisk := by
  have he : Endpoint.parse "http://127.0.0.1:9001" =
      .ok ⟨.http, .ipv4 .loopback, 9001, "http://127.0.0.1:9001/"⟩ := by decide +kernel
  have ho : ofRequest (asking Uri.asterisk)
      ⟨.http, .ipv4 .loopback, 9001, "http://127.0.0.1:9001/"⟩ true =
      .ok ⟨⟨"OPTIONS"⟩, ⟨some "http", some "127.0.0.1:9001*", ⟨"", none⟩⟩, .http11,
        ⟨[(.forwardedProto, Utf8.encode "http")]⟩, []⟩ := by decide +kernel
  refine ⟨_, _, he, by decide +kernel, ho, fun hreaches => ?_⟩
  exact absurd hreaches.authority (by decide +kernel)

end Outbound

end Gateway
