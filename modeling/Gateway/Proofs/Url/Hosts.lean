import Gateway.Endpoint
import Gateway.Proofs.Domain.Ascii
import Gateway.Proofs.Http.Targets
import Mathlib.Tactic

/-!
# Hosts of endpoints

The host of an endpoint is written without a character that could end it or the authority it
stands in, whatever was typed for it; and the port has sixteen bits. So host and port can be
read off the text of both.
-/

namespace Gateway

/-! ## Texts of numbers and addresses -/

theorem mem_toDigits {b : Nat} (hb : 1 < b) (n : Nat) {c : Char} (h : c ∈ Nat.toDigits b n) :
    ∃ d < b, c = Nat.digitChar d := by
  induction n using Nat.strong_induction_on with
  | _ n ih =>
    rw [Nat.toDigits_eq_if hb] at h
    split at h
    · exact ⟨n, ‹_›, List.mem_singleton.mp h⟩
    · rcases List.mem_append.mp h with hfront | hlast
      · exact ih (n / b) (Nat.div_lt_self (by omega) hb) hfront
      · exact ⟨n % b, Nat.mod_lt n (by omega), List.mem_singleton.mp hlast⟩

theorem isDigit_of_mem_toString {n : Nat} {c : Char} (h : c ∈ (toString n).toList) :
    c.isDigit = true := by
  rw [Nat.toString_eq_ofList_toDigits, String.toList_ofList] at h
  exact Nat.isDigit_of_mem_toDigits (by decide) (by decide) h

theorem isAlphanum_of_isDigit {c : Char} (h : c.isDigit = true) : c.isAlphanum = true := by
  simp [Char.isAlphanum, h]

theorem mem_intercalate {mark : String} {parts : List String} {c : Char}
    (h : c ∈ (mark.intercalate parts).toList) :
    c ∈ mark.toList ∨ ∃ p ∈ parts, c ∈ p.toList := by
  rw [String.toList_intercalate] at h
  induction parts with
  | nil => cases h
  | cons p parts ih =>
    cases parts with
    | nil =>
      rw [List.map_singleton, List.intercalate_singleton] at h
      exact .inr ⟨p, List.mem_singleton_self p, h⟩
    | cons q parts =>
      rw [List.map_cons, List.map_cons, List.intercalate_cons_cons, List.mem_append,
        List.mem_append] at h
      rcases h with (hp | hmark) | hrest
      · exact .inr ⟨p, List.mem_cons_self, hp⟩
      · exact .inl hmark
      · rcases ih hrest with hmark | ⟨r, hr, hc⟩
        · exact .inl hmark
        · exact .inr ⟨r, List.mem_cons_of_mem p hr, hc⟩

theorem Ipv4.mem_text {a : Ipv4} {c : Char} (h : c ∈ a.text.toList) :
    c.isDigit = true ∨ c = '.' := by
  rcases mem_intercalate h with hdot | ⟨p, hp, hc⟩
  · exact .inr (by simpa using hdot)
  · obtain ⟨i, -, rfl⟩ := List.mem_map.mp hp
    exact .inl (isDigit_of_mem_toString hc)

theorem Ipv6.mem_groupsText {groups : List UInt16} {c : Char}
    (h : c ∈ (groupsText groups).toList) : c.isAlphanum = true ∨ c = ':' := by
  have hdigits : ∀ d < 16, (Nat.digitChar d).isAlphanum = true := by decide
  rcases mem_intercalate h with hcolon | ⟨p, hp, hc⟩
  · exact .inr (by simpa using hcolon)
  · obtain ⟨g, -, rfl⟩ := List.mem_map.mp hp
    rw [hexText, String.toList_ofList] at hc
    obtain ⟨d, hd, rfl⟩ := mem_toDigits (by decide) _ hc
    exact .inl (hdigits d hd)

theorem Ipv6.mem_text {a : Ipv6} {c : Char} (h : c ∈ a.text.toList) :
    c.isAlphanum = true ∨ c = ':' := by
  unfold Ipv6.text at h
  simp only at h
  split at h
  · exact mem_groupsText h
  · rw [String.toList_append, String.toList_append, List.mem_append, List.mem_append] at h
    rcases h with (hfront | hmark) | hback
    · exact mem_groupsText hfront
    · exact .inr (by simpa using hmark)
    · exact mem_groupsText hback

/-- Between parts that hold no colon there is one colon less than there are parts. -/
theorem count_colon_intercalate {parts : List String} (h : ∀ p ∈ parts, ':' ∉ p.toList) :
    (":".intercalate parts).toList.count ':' = parts.length - 1 := by
  rw [String.toList_intercalate]
  induction parts with
  | nil => rfl
  | cons p parts ih =>
    have hp : p.toList.count ':' = 0 := List.count_eq_zero_of_not_mem (h p List.mem_cons_self)
    cases parts with
    | nil => simpa using hp
    | cons q parts =>
      have hrest := ih fun r hr => h r (List.mem_cons_of_mem p hr)
      rw [List.map_cons] at hrest
      rw [List.map_cons, List.map_cons, List.intercalate_cons_cons, List.count_append,
        List.count_append, hp, hrest]
      simp
      omega

namespace Ipv6

theorem count_colon_groupsText (groups : List UInt16) :
    (groupsText groups).toList.count ':' = groups.length - 1 := by
  unfold groupsText
  rw [count_colon_intercalate, List.length_map]
  intro p hp hcolon
  obtain ⟨g, -, rfl⟩ := List.mem_map.mp hp
  rw [hexText, String.toList_ofList] at hcolon
  obtain ⟨d, hd, heq⟩ := mem_toDigits (by decide) _ hcolon
  have hdigits : ∀ d < 16, ':' ≠ Nat.digitChar d := by decide
  exact hdigits d hd heq

theorem zerosAt_le (groups : List UInt16) (i : Nat) : zerosAt groups i ≤ groups.length - i := by
  rw [← List.length_drop]
  exact (List.takeWhile_prefix _).length_le

/-- The longest run of zeros is a part of the groups. -/
theorem longestZeros_le (groups : List UInt16) :
    (longestZeros groups).1 + (longestZeros groups).2 ≤ groups.length := by
  unfold longestZeros
  refine List.foldlRecOn _ _ (motive := fun best : Nat × Nat => best.1 + best.2 ≤ groups.length)
    (Nat.zero_le _) ?_
  intro best hbest i hi
  have hzeros := zerosAt_le groups i
  have hlt : i < groups.length := List.mem_range.mp hi
  split
  · show i + zerosAt groups i ≤ groups.length
    omega
  · exact hbest

/-- An address has no more colons than groups. -/
theorem count_colon_text (a : Ipv6) : a.text.toList.count ':' ≤ 8 := by
  have hlength : a.groups.toList.length = 8 := Vector.length_toList
  have hzeros := longestZeros_le a.groups.toList
  unfold text
  simp only
  split
  · rw [count_colon_groupsText, hlength]
    decide
  · rename_i hlong
    rw [String.toList_append, String.toList_append, List.count_append, List.count_append,
      count_colon_groupsText, count_colon_groupsText, List.length_take, List.length_drop]
    have hmark : "::".toList.count ':' = 2 := by decide
    omega

end Ipv6

/-! ## Hosts -/

namespace Host

/-- A name is ASCII and holds nothing that a host may not hold. -/
def Plain (h : Host) : Prop := ∀ name, h = .domain name → Domain.Permitted name.toList

theorem plain_of_parse {cs : List Char} {h : Host} (hparse : Host.parse cs = .ok h) :
    h.Plain := by
  intro name hname
  subst hname
  unfold Host.parse at hparse
  split at hparse
  · unfold bracketed? at hparse
    repeat' split at hparse
    all_goals cases hparse
  · simp only at hparse
    split at hparse
    · cases hparse
    · cases hparse
    · rename_i hascii
      split at hparse
      · split at hparse <;> cases hparse
      · cases hparse
        rw [String.toList_ofList]
        obtain ⟨decoded, -, hdecoded⟩ := Option.bind_eq_some_iff.mp hascii
        exact Domain.toAscii?_permitted hdecoded

theorem marks_of_isDenied {c : Char} (h : Domain.isDenied c = false) :
    Uri.inAuthority c = true ∧ c ≠ '@' ∧ c ≠ ':' ∧ c ≠ '[' := by
  have hne : ∀ d, Domain.isDenied d = true → c ≠ d :=
    fun d hd => ne_of_apply_ne Domain.isDenied (by rw [h, hd]; decide)
  refine ⟨?_, hne '@' (by decide), hne ':' (by decide), hne '[' (by decide)⟩
  simp [Uri.inAuthority, hne '/' (by decide), hne '?' (by decide), hne '#' (by decide)]

theorem marks_of_isAlphanum {c : Char} (h : c.isAlphanum = true) :
    Uri.inAuthority c = true ∧ c ≠ '@' ∧ c ≠ ']' := by
  have hne : ∀ d, d.isAlphanum = false → c ≠ d :=
    fun d hd => ne_of_apply_ne Char.isAlphanum (by rw [h, hd]; decide)
  refine ⟨?_, hne '@' (by decide), hne ']' (by decide)⟩
  simp [Uri.inAuthority, hne '/' (by decide), hne '?' (by decide), hne '#' (by decide)]

/-- A host that is not an address of eight groups is not told apart from a name. -/
theorem permitted_text {h : Host} (hplain : h.Plain) (hgroups : ∀ a, h ≠ .ipv6 a) :
    Domain.Permitted h.text.toList := by
  cases h with
  | domain name => exact hplain name rfl
  | ipv4 a =>
    intro c hc
    rcases Ipv4.mem_text hc with hdigit | rfl
    · exact Domain.Punycode.digitValue?_permitted (Domain.Punycode.digitValue?_isSome hdigit)
    · exact ⟨rfl, rfl⟩
  | ipv6 a => exact absurd rfl (hgroups a)

theorem toList_text_ipv6 (a : Ipv6) :
    (Host.ipv6 a).text.toList = '[' :: (a.text.toList ++ [']']) := by
  simp [Host.text]

theorem mem_text_ipv6 {a : Ipv6} {c : Char} (hc : c ∈ (Host.ipv6 a).text.toList) :
    c.isAlphanum = true ∨ c ∈ [':', '[', ']'] := by
  rw [toList_text_ipv6] at hc
  rcases List.mem_cons.mp hc with rfl | hmem
  · exact .inr (by decide)
  · rcases List.mem_append.mp hmem with hinner | hlast
    · rcases Ipv6.mem_text hinner with halpha | rfl
      · exact .inl halpha
      · exact .inr (by decide)
    · rw [List.mem_singleton.mp hlast]
      exact .inr (by decide)

/-- The text of a host ends neither an authority nor user information. -/
theorem mem_text {h : Host} (hplain : h.Plain) {c : Char} (hc : c ∈ h.text.toList) :
    Uri.inAuthority c = true ∧ c ≠ '@' := by
  cases h with
  | ipv6 a =>
    have hall : [':', '[', ']'].all (fun d => Uri.inAuthority d && d ≠ '@') = true := by decide
    rcases mem_text_ipv6 hc with halpha | hmark
    · have hmarks := marks_of_isAlphanum halpha
      exact ⟨hmarks.1, hmarks.2.1⟩
    · simpa using List.all_eq_true.mp hall c hmark
  | domain name =>
    have hmarks := marks_of_isDenied (permitted_text hplain (fun a => nofun) c hc).2
    exact ⟨hmarks.1, hmarks.2.1⟩
  | ipv4 a =>
    have hmarks := marks_of_isDenied (permitted_text hplain (fun a => nofun) c hc).2
    exact ⟨hmarks.1, hmarks.2.1⟩

/-- A name ends at the first colon, and no bracket opens it. -/
theorem hostOf_of_permitted {host port : List Char} (hhost : Domain.Permitted host)
    (hat : Uri.hostPort (host ++ ':' :: port) = host ++ ':' :: port) :
    Uri.hostOf (host ++ ':' :: port) = host := by
  have hcolon : ∀ c ∈ host, decide (c ≠ ':') = true := by
    intro c hc
    exact decide_eq_true (marks_of_isDenied (hhost c hc).2).2.2.1
  unfold Uri.hostOf
  rw [hat]
  split
  · rename_i rest hbracket
    cases host with
    | nil => cases hbracket
    | cons c host =>
      obtain ⟨rfl, -⟩ := List.cons.inj hbracket
      exact absurd rfl (marks_of_isDenied (hhost '[' List.mem_cons_self).2).2.2.2
  · rw [List.takeWhile_append_of_pos hcolon]
    exact List.append_nil host

/-- Host and port apart again: the host ends at the colon before the port. -/
theorem hostOf_text {h : Host} (hplain : h.Plain) {port : List Char} (hport : '@' ∉ port) :
    Uri.hostOf (h.text.toList ++ ':' :: port) = h.text.toList := by
  -- Neither of them holds an at sign, so there is no user information to be cut off.
  have hall : ∀ c ∈ (h.text.toList ++ ':' :: port).reverse, decide (c ≠ '@') = true := by
    intro c hc
    rw [decide_eq_true_eq]
    rcases List.mem_append.mp (List.mem_reverse.mp hc) with hhost | hbehind
    · exact (mem_text hplain hhost).2
    · rcases List.mem_cons.mp hbehind with rfl | hmem
      · decide
      · rintro rfl
        exact hport hmem
  have hhostPort : Uri.hostPort (h.text.toList ++ ':' :: port) = h.text.toList ++ ':' :: port := by
    unfold Uri.hostPort
    rw [List.takeWhile_eq_self_iff.mpr hall, List.reverse_reverse]
  cases h with
  | ipv6 a =>
    -- There are colons in the host itself, and so it is read up to its bracket.
    have hinner : ∀ c ∈ a.text.toList, decide (c ≠ ']') = true := by
      intro c hc
      rw [decide_eq_true_eq]
      rcases Ipv6.mem_text hc with halpha | rfl
      · exact (marks_of_isAlphanum halpha).2.2
      · decide
    unfold Uri.hostOf
    rw [hhostPort, toList_text_ipv6]
    show '[' :: ((a.text.toList ++ [']']) ++ ':' :: port).takeWhile (· ≠ ']') ++ [']'] = _
    rw [List.append_assoc, List.takeWhile_append_of_pos hinner]
    simp
  | domain name => exact hostOf_of_permitted (permitted_text hplain fun a => nofun) hhostPort
  | ipv4 a => exact hostOf_of_permitted (permitted_text hplain fun a => nofun) hhostPort

end Host

/-! ## Endpoints that are read -/

namespace Url

theorem port_of_port? {scheme : String} {cs : List Char} {n : Nat}
    (h : port? scheme cs = .ok (some n)) : n < 65536 := by
  unfold port? at h
  simp only at h
  split at h
  · cases h
  · rename_i hbound
    split at h
    · cases h
    · cases h
      rw [Bool.or_eq_true, decide_eq_true_eq, not_or] at hbound
      exact Nat.lt_succ_of_le (Nat.le_of_not_lt hbound.1)

theorem plain_of_parseHost {scheme : String} {cs : List Char} {host : Host}
    (hweb : isWeb scheme = true) (h : parseHost scheme cs = .ok host) : host.Plain := by
  unfold parseHost at h
  rw [hweb, Bool.true_and, if_pos rfl] at h
  split at h
  · cases h
  · exact Host.plain_of_parse h

/-- A plain host and a port of sixteen bits, if there is one. -/
structure PlainAuthority (a : UrlAuthority) : Prop where
  host : a.host.Plain
  port : ∀ p, a.port = some p → p < 65536

theorem plain_of_parseAuthority {scheme : String} {cs : List Char} {a : UrlAuthority}
    (hweb : isWeb scheme = true) (h : parseAuthority scheme cs = .ok a) : PlainAuthority a := by
  unfold parseAuthority at h
  simp only [bind, Except.bind, pure, Except.pure, throw, throwThe, MonadExceptOf.throw] at h
  split at h
  · cases h
  · split at h
    · cases h
    · rename_i host hhost
      have hplain := plain_of_parseHost hweb hhost
      split at h
      · cases h
      · split at h
        · cases h
          exact ⟨hplain, nofun⟩
        · split at h
          · cases h
          · rename_i port hport
            cases h
            refine ⟨hplain, fun p hp => ?_⟩
            rw [show port = some p from hp] at hport
            exact port_of_port? hport

/-- Of the URLs that are read, those of the web have a plain authority. -/
def PlainOnWeb (u : Url) : Prop :=
  isWeb u.scheme = true → ∀ a, u.authority = some a → PlainAuthority a

theorem plain_of_parseAfterSlashes {scheme : String} {cs : List Char} {u : Url}
    (h : parseAfterSlashes scheme cs = .ok u) : PlainOnWeb u := by
  unfold parseAfterSlashes at h
  simp only [bind, Except.bind, pure, Except.pure] at h
  split at h
  · cases h
  · rename_i a ha
    cases h
    intro hweb a' ha'
    cases ha'
    exact plain_of_parseAuthority hweb ha

theorem scheme_of_parseFile {cs : List Char} {u : Url} (h : parseFile cs = .ok u) :
    u.scheme = "file" := by
  unfold parseFile at h
  simp only [bind, Except.bind, pure, Except.pure] at h
  repeat' split at h
  all_goals cases h
  all_goals rfl

theorem plain_of_parse {s : String} {u : Url} (h : Url.parse s = .ok u) : PlainOnWeb u := by
  unfold Url.parse at h
  split at h
  · cases h
  · rename_i scheme rest _
    split at h
    · intro hweb
      rw [scheme_of_parseFile h] at hweb
      cases hweb
    · split at h
      · exact plain_of_parseAfterSlashes h
      · unfold parseGeneric at h
        split at h
        · exact plain_of_parseAfterSlashes h
        · cases h
          exact fun _ => nofun
        · cases h
          exact fun _ => nofun

end Url

namespace Endpoint

/-- Host and port of an endpoint can be told apart in its text. -/
structure Plain (e : Endpoint) : Prop where
  host : e.host.Plain
  port : e.port < 65536

theorem isWeb_of_ofString? {s : String} {scheme : Scheme}
    (h : Scheme.ofString? s = some scheme) : Url.isWeb s = true := by
  unfold Scheme.ofString? at h
  split at h
  · decide
  · decide
  · cases h

theorem defaultPort_lt {s : String} {p : Nat} (h : Url.defaultPort? s = some p) : p < 65536 := by
  unfold Url.defaultPort? at h
  split at h <;> cases h <;> decide

theorem plain_of_ofUrl {u : Url} {e : Endpoint} (hu : Url.PlainOnWeb u)
    (h : ofUrl u = .ok e) : e.Plain := by
  unfold ofUrl at h
  split at h
  · cases h
  · rename_i scheme hscheme
    split at h
    · cases h
    · rename_i host hhost
      obtain ⟨a, ha, rfl⟩ := Option.map_eq_some_iff.mp hhost
      have hplain := hu (isWeb_of_ofString? hscheme) a ha
      split at h
      · cases h
      · rename_i port hport
        cases h
        refine ⟨hplain.host, ?_⟩
        unfold Url.portOrDefault? at hport
        split at hport
        · rename_i hp
          cases hport
          rw [ha] at hp
          exact hplain.port port hp
        · exact defaultPort_lt hport

/-- Every endpoint that is read from its URL is plain. -/
theorem plain_of_parse {s : String} {e : Endpoint} (h : Endpoint.parse s = .ok e) : e.Plain := by
  unfold Endpoint.parse at h
  split at h
  · cases h
  · rename_i u hu
    exact plain_of_ofUrl (Url.plain_of_parse hu) h

end Endpoint

end Gateway
