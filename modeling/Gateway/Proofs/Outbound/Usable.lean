import Gateway.Config.Validate
import Gateway.Proofs.Http.Authorities
import Gateway.Proofs.Outbound.Destination

/-!
# Endpoints that can be used

Two grammars meet where a request is sent on: the one that an endpoint was read in, and the
one that its text is read in again in front of a target. The second takes every address and
every name that the first lets through, but for names with one of four marks. With such a
name an endpoint is accepted, and no request can be made for it.
-/

namespace Gateway

namespace Host

/-- The marks that may stand in the name of a host and in no URI: a quotation mark, a grave
accent and the two braces. -/
def strayMarks : List Char := ['"', '\x60', '\x7b', '\x7d']

/-- Whether a URI can be written with the host. -/
def Readable (h : Host) : Prop := ∀ c ∈ h.text.toList, c ∉ strayMarks

instance decidableReadable (h : Host) : Decidable h.Readable :=
  List.decidableBAll (· ∉ strayMarks) h.text.toList

theorem of_mem_strayMarks {c : Char} (h : c ∈ strayMarks) :
    Uri.isUriChar c = false ∧ c ≠ '%' := by
  have hall : strayMarks.all (fun d => !Uri.isUriChar d && d ≠ '%') = true := by decide
  simpa using List.all_eq_true.mp hall c h

theorem not_mem_strayMarks {c : Char} (h : Uri.isUriChar c = true) : c ∉ strayMarks := by
  intro hstray
  rw [(of_mem_strayMarks hstray).1] at h
  cases h

/-- What stands before the first of the stray marks has none of them. -/
theorem first_of_not_readable {h : Host} (hstray : ¬ h.Readable) :
    ∃ front c rest, h.text.toList = front ++ c :: rest ∧ (∀ d ∈ front, d ∉ strayMarks) ∧
      c ∈ strayMarks := by
  obtain ⟨d, hd, hmark⟩ : ∃ d ∈ h.text.toList, d ∈ strayMarks := by
    simpa [Readable] using hstray
  have hsome : (h.text.toList.find? (strayMarks.contains ·)).isSome = true :=
    List.find?_isSome.mpr ⟨d, hd, List.contains_iff_mem.mpr hmark⟩
  obtain ⟨c, hc⟩ := Option.isSome_iff_exists.mp hsome
  obtain ⟨hmark, front, rest, htext, hfront⟩ := List.find?_eq_some_iff_append.mp hc
  exact ⟨front, c, rest, htext, by simpa using hfront, List.contains_iff_mem.mp hmark⟩

/-- What may stand in a name has no meaning in an authority, unless it is stray. -/
theorem isUnmarked_of_permitted {c : Char}
    (h : Domain.isAscii c = true ∧ Domain.isDenied c = false) (hstray : c ∉ strayMarks) :
    Uri.isUnmarked c = true :=
  Domain.of_isAscii
    (P := fun c => Domain.isDenied c = false → c ∉ strayMarks → Uri.isUnmarked c = true)
    (by decide) h.1 h.2 hstray

/-! ## Addresses are readable -/

theorem readable_ipv4 (a : Ipv4) : (Host.ipv4 a).Readable := by
  intro c hc
  rcases Ipv4.mem_text hc with hdigit | rfl
  · exact not_mem_strayMarks (Uri.isUriChar_of_isAlphanum (isAlphanum_of_isDigit hdigit))
  · exact not_mem_strayMarks (by decide)

theorem readable_ipv6 (a : Ipv6) : (Host.ipv6 a).Readable := by
  intro c hc
  have hall : [':', '[', ']'].all Uri.isUriChar = true := by decide
  rcases mem_text_ipv6 hc with halpha | hmark
  · exact not_mem_strayMarks (Uri.isUriChar_of_isAlphanum halpha)
  · exact not_mem_strayMarks (List.all_eq_true.mp hall c hmark)

/-- Only names have stray marks. -/
theorem domain_of_not_readable {h : Host} (hstray : ¬ h.Readable) : ∃ name, h = .domain name := by
  cases h with
  | domain name => exact ⟨name, rfl⟩
  | ipv4 a => exact absurd (readable_ipv4 a) hstray
  | ipv6 a => exact absurd (readable_ipv6 a) hstray

end Host

namespace Endpoint

variable {e : Endpoint}

/-- A readable host and its port are split off, with what else has no meaning behind them. -/
theorem Plain.splitAuthority_eq (he : e.Plain) (hreadable : e.host.Readable) {more : List Char}
    (hmore : ∀ c ∈ more, Uri.isUnmarked c = true) (cs : List Char) :
    Uri.splitAuthority (e.authority.toList ++ more ++ cs.dropWhile Uri.inAuthority) =
      .ok (e.authority.toList ++ more, cs.dropWhile Uri.inAuthority) := by
  have hport : ∀ c ∈ Nat.toDigits 10 e.port ++ more, Uri.isUnmarked c = true := by
    intro c hc
    rcases List.mem_append.mp hc with hdigit | hbehind
    · exact Uri.isUnmarked_of_isAlphanum (isAlphanum_of_isDigit (isDigit_of_mem_port hdigit))
    · exact hmore c hbehind
  have hnamed (hgroups : ∀ a, e.host ≠ .ipv6 a) :
      ∀ c ∈ e.host.text.toList, Uri.isUnmarked c = true := by
    intro c hc
    exact Host.isUnmarked_of_permitted (Host.permitted_text he.host hgroups c hc)
      (hreadable c hc)
  rw [authority_toList, List.append_assoc _ _ more, List.cons_append]
  cases hhost : e.host with
  | ipv6 a =>
    have hinner : ∀ c ∈ a.text.toList, Uri.isUnmarked c = true ∨ c = ':' :=
      fun c hc => (Ipv6.mem_text hc).imp_left Uri.isUnmarked_of_isAlphanum
    rw [Host.toList_text_ipv6, List.cons_append, List.append_assoc]
    exact Uri.splitAuthority_brackets hinner a.count_colon_text hport cs
  | domain name => exact hhost ▸ Uri.splitAuthority_port (hnamed (by simp [hhost])) hport cs
  | ipv4 a => exact hhost ▸ Uri.splitAuthority_port (hnamed (by simp [hhost])) hport cs

/-- At the first stray mark of its host the reading of an endpoint ends. -/
theorem Plain.splitAuthority_eq_error (he : e.Plain) (hstray : ¬ e.host.Readable)
    (cs : List Char) : Uri.splitAuthority (e.authority.toList ++ cs) = .error .character := by
  obtain ⟨name, hname⟩ := Host.domain_of_not_readable hstray
  have hpermitted := Host.permitted_text he.host (by simp [hname])
  obtain ⟨front, c, rest, htext, hfront, hc⟩ := Host.first_of_not_readable hstray
  obtain ⟨huri, hpercent⟩ := Host.of_mem_strayMarks hc
  rw [authority_toList, htext, List.append_assoc, List.append_assoc]
  apply Uri.splitAuthority_illegible _ huri hpercent
  intro d hd
  have hmem : d ∈ e.host.text.toList := by
    rw [htext]
    exact List.mem_append_left _ hd
  exact Host.isUnmarked_of_permitted (hpermitted d hmem) (hfront d hd)

end Endpoint

namespace Uri

/-- What overflows into an authority has no meaning there. -/
theorem isUnmarked_overflow {u : Uri} {c : Char} (hc : c ∈ (overflow u).toList) :
    isUnmarked c = true := by
  unfold overflow at hc
  split at hc
  · rw [show c = '*' by simpa using hc]
    decide
  · cases hc

variable {scheme : Scheme} {cs : List Char}

theorem parse_of_splitAuthority {a rest : List Char} {p : PathQuery}
    (hlength : octets ((scheme.text ++ "://").toList ++ cs) ≤ maxLength)
    (hsplit : splitAuthority cs = .ok (a, rest)) (hne : a ≠ [])
    (hp : PathQuery.parse rest = .ok p) :
    parse ((scheme.text ++ "://").toList ++ cs) =
      .ok ⟨some scheme.text, some (String.ofList a), p⟩ := by
  rw [parse_eq_parseFull, if_neg (Nat.not_lt.mpr hlength), parseFull]
  simp only [bind, Except.bind, splitScheme_web, hsplit, hp, nonempty_of_ne_nil hne]
  rw [if_neg (by simpa using hne)]

theorem parse_of_splitAuthority_error {f : Fault}
    (hlength : octets ((scheme.text ++ "://").toList ++ cs) ≤ maxLength)
    (hsplit : splitAuthority cs = .error f) :
    parse ((scheme.text ++ "://").toList ++ cs) = .error f := by
  rw [parse_eq_parseFull, if_neg (Nat.not_lt.mpr hlength), parseFull]
  simp only [bind, Except.bind, splitScheme_web, hsplit]

end Uri

namespace Outbound

/-- An endpoint that was accepted can be sent every request that is not too long, unless its
host is a name with a stray mark: then it can be sent none. -/
theorem ofRequest_usable {url text : String} {r : Request} {e : Endpoint} {trust : Bool}
    (he : Endpoint.parse url = .ok e) (hr : Uri.ofString text = .ok r.uri)
    (hlength : Uri.octets (e.id ++ target r).toList ≤ Uri.maxLength) :
    (e.host.Readable → ∃ o, ofRequest r e trust = .ok o) ∧
      (¬ e.host.Readable → (∃ name, e.host = .domain name) ∧
        ofRequest r e trust = .error (.internal Uri.Fault.character.message)) := by
  have hplain := Endpoint.plain_of_parse he
  rw [Endpoint.id_append] at hlength
  constructor
  · intro hreadable
    obtain ⟨htake, hparse⟩ := target_split (Uri.form_of_ofString hr)
    have hmore : ∀ c ∈ (Uri.overflow r.uri).toList, Uri.isUnmarked c = true :=
      fun c hc => Uri.isUnmarked_overflow hc
    have hsplit := hplain.splitAuthority_eq hreadable hmore (target r).toList
    rw [List.append_assoc, ← htake, List.takeWhile_append_dropWhile] at hsplit
    have hne : e.authority.toList ++ (target r).toList.takeWhile Uri.inAuthority ≠ [] := by
      simp [Endpoint.authority_toList]
    have huri := Uri.parse_of_splitAuthority hlength hsplit hne hparse
    rw [← Endpoint.id_append] at huri
    exact ⟨_, by rw [ofRequest, Uri.ofString, huri]⟩
  · intro hstray
    have huri := Uri.parse_of_splitAuthority_error hlength
      (hplain.splitAuthority_eq_error hstray (target r).toList)
    rw [← Endpoint.id_append] at huri
    exact ⟨Host.domain_of_not_readable hstray, by rw [ofRequest, Uri.ofString, huri]⟩

/-- An address in brackets, and a query behind a path. -/
theorem ofRequest_usable_ipv6 :
    ∃ e, Endpoint.parse "http://[2001:DB8::1]/base" = .ok e ∧
      Uri.ofString "/a?b" = .ok (asking ⟨none, none, ⟨"/a", some "b"⟩⟩).uri ∧
      Uri.octets (e.id ++ target (asking ⟨none, none, ⟨"/a", some "b"⟩⟩)).toList ≤
        Uri.maxLength ∧
      e.host.Readable ∧
      ∃ o, ofRequest (asking ⟨none, none, ⟨"/a", some "b"⟩⟩) e true = .ok o := by
  have he : Endpoint.parse "http://[2001:DB8::1]/base" =
      .ok ⟨.http, .ipv6 ⟨#v[0x2001, 0xDB8, 0, 0, 0, 0, 0, 1]⟩, 80,
        "http://[2001:db8::1]/base"⟩ := by decide +kernel
  have hr : Uri.ofString "/a?b" =
      .ok (asking ⟨none, none, ⟨"/a", some "b"⟩⟩).uri := by decide +kernel
  have hreadable := Host.readable_ipv6 ⟨#v[0x2001, 0xDB8, 0, 0, 0, 0, 0, 1]⟩
  exact ⟨_, he, hr, by decide +kernel, hreadable,
    (ofRequest_usable he hr (by decide +kernel)).1 hreadable⟩

/-- A valid location may have an endpoint that no request can be made for. -/
theorem braces_unusable :
    ∃ e, Endpoint.parse "http://a\x7bb\x7d" = .ok e ∧ ¬ e.host.Readable ∧
      LocationSettings.fault? { name := "api", endpoints := ["http://a\x7bb\x7d"] } = none ∧
      Uri.ofString "/" = .ok (asking ⟨none, none, ⟨"/", none⟩⟩).uri ∧
      Uri.octets (e.id ++ target (asking ⟨none, none, ⟨"/", none⟩⟩)).toList ≤ Uri.maxLength ∧
      ofRequest (asking ⟨none, none, ⟨"/", none⟩⟩) e false =
        .error (.internal "invalid uri character") := by
  have he : Endpoint.parse "http://a\x7bb\x7d" =
      .ok ⟨.http, .domain "a\x7bb\x7d", 80, "http://a\x7bb\x7d/"⟩ := by decide +kernel
  refine ⟨_, he, by decide +kernel, by decide +kernel, by decide +kernel, by decide +kernel, ?_⟩
  decide +kernel

end Outbound

end Gateway
