import Gateway.Proofs.Outbound.Forwarded
import Gateway.Proofs.Text.Utf8
import Gateway.Proofs.Url.Hosts

/-!
# The addresses that a request came by

A request lists the addresses that it came by between commas, in one line or in several. An
endpoint that is sent a trusted request reads the first of its lines, if that is visible
text, and behind it the client's own address. So no address is lost if and only if all of them
stand in a first line of visible text.
-/

namespace Gateway

/-! ## Texts of addresses -/

theorem mem_intercalate_of_two {c : Char} {p q : String} {parts : List String} :
    c ∈ ((String.singleton c).intercalate (p :: q :: parts)).toList := by
  rw [String.toList_intercalate, List.map_cons, List.map_cons, List.intercalate_cons_cons]
  simp

theorem Ipv4.dot_mem_text (a : Ipv4) : '.' ∈ a.text.toList :=
  mem_intercalate_of_two (c := '.')

theorem Ipv6.colon_mem_text (a : Ipv6) : ':' ∈ a.text.toList := by
  unfold Ipv6.text
  simp only
  split
  · have hlength : a.groups.toList.length = 8 := a.groups.length_toList
    match hgroups : a.groups.toList, hlength with
    | g :: g' :: groups, _ =>
      exact mem_intercalate_of_two (c := ':')
  · simp

theorem Ip.text_ne_empty (ip : Ip) : ip.text.toList ≠ [] := by
  cases ip with
  | v4 a => exact List.ne_nil_of_mem a.dot_mem_text
  | v6 a =>
    show a.mixedText.toList ≠ []
    unfold Ipv6.mixedText
    split
    · simp
    · exact List.ne_nil_of_mem a.colon_mem_text

theorem Ip.mem_text {ip : Ip} {c : Char} (h : c ∈ ip.text.toList) :
    c.isAlphanum = true ∨ c = '.' ∨ c = ':' := by
  have hv4 : ∀ a : Ipv4, c ∈ a.text.toList → c.isAlphanum = true ∨ c = '.' ∨ c = ':' := by
    intro a hc
    rcases Ipv4.mem_text hc with hdigit | hdot
    · exact .inl (isAlphanum_of_isDigit hdigit)
    · exact .inr (.inl hdot)
  cases ip with
  | v4 a => exact hv4 a h
  | v6 a =>
    change c ∈ a.mixedText.toList at h
    unfold Ipv6.mixedText at h
    split at h
    · rw [String.toList_append, List.mem_append] at h
      rcases h with hmapped | hoctets
      · have hmark : c = ':' ∨ c = 'f' ∨ c = ':' := by
          simpa using hmapped
        rcases hmark with rfl | rfl | rfl
        · exact .inr (.inr rfl)
        · exact .inl (by decide)
        · exact .inr (.inr rfl)
      · exact hv4 _ hoctets
    · rcases Ipv6.mem_text h with halpha | hcolon
      · exact .inl halpha
      · exact .inr (.inr hcolon)

namespace FieldValue

/-! ## Lists between commas -/

def comma : UInt8 := 44

def isBlankOctet (b : UInt8) : Bool := b = 32 || b = 9

/-- A value without the blanks before and behind it. -/
def trim (v : Bytes) : Bytes := (v.dropWhile isBlankOctet).rdropWhile isBlankOctet

/-- What stands between the commas of a value; nothing or blanks alone are no entry. -/
def entries (v : Bytes) : List Bytes := ((v.splitOn comma).map trim).filter (· ≠ [])

theorem entries_comma (v w : Bytes) : entries (v ++ comma :: w) = entries v ++ entries w := by
  have hsplit : (v ++ comma :: w).splitOn comma = v.splitOn comma ++ w.splitOn comma :=
    List.splitOnP_append_cons v w (by simp)
  unfold entries
  rw [hsplit, List.map_append, List.filter_append]

theorem trim_of_not_blank {v : Bytes} (hv : ∀ b ∈ v, isBlankOctet b = false) : trim v = v := by
  have hdrop : v.dropWhile isBlankOctet = v := by
    cases v with
    | nil => rfl
    | cons b v => simp [hv b List.mem_cons_self]
  unfold trim
  rw [hdrop, List.rdropWhile_eq_self_iff]
  intro hne
  rw [hv _ (List.getLast_mem hne)]
  exact Bool.false_ne_true

/-- A word stands for itself, also behind a blank. -/
theorem entries_word {v : Bytes} (hne : v ≠ [])
    (hv : ∀ b ∈ v, b ≠ comma ∧ isBlankOctet b = false) :
    entries v = [v] ∧ entries (32 :: v) = [v] := by
  have hsplit : ∀ w : Bytes, (∀ b ∈ w, b ≠ comma) → w.splitOn comma = [w] := by
    intro w hw
    refine List.splitOnP_eq_singleton fun b hb => ?_
    simpa using hw b hb
  have htrim : trim v = v := trim_of_not_blank fun b hb => (hv b hb).2
  have hblank : trim (32 :: v) = v := htrim
  constructor
  · unfold entries
    rw [hsplit v fun b hb => (hv b hb).1]
    simp [htrim, hne]
  · unfold entries
    rw [hsplit (32 :: v) (by
      intro b hb
      rcases List.mem_cons.mp hb with rfl | hb
      · decide
      · exact (hv b hb).1)]
    simp [hblank, hne]

/-- Visible characters are ASCII characters. -/
theorem lt_of_isVisibleOctet {b : UInt8} (h : isVisibleOctet b = true) : b.toNat < 0x80 := by
  simp only [isVisibleOctet, Bool.or_eq_true, Bool.and_eq_true, decide_eq_true_eq,
    UInt8.lt_iff_toNat_lt] at h
  rcases h with ⟨-, hlt⟩ | rfl
  · exact hlt.trans (by decide)
  · decide

/-- What is read as visible text is written as it stood. -/
theorem encodeChars_of_visible? {v : Bytes} {cs : List Char} (h : visible? v = some cs) :
    Utf8.encodeChars cs = v := by
  unfold visible? at h
  split at h
  · rename_i hall
    cases h
    induction v with
    | nil => rfl
    | cons b v ih =>
      rw [List.all_cons, Bool.and_eq_true] at hall
      have hb := lt_of_isVisibleOctet hall.1
      have hchar : (Char.ofNat b.toNat).toNat = b.toNat := by
        rw [Char.toNat_ofNat, if_pos (.inl (by omega))]
      rw [List.map_cons, Utf8.encodeChars, List.flatMap_cons,
        Utf8.utf8EncodeChar_of_ascii (by rw [hchar]; exact hb), hchar, UInt8.ofNat_toNat]
      exact congrArg (b :: ·) (ih hall.2)
  · cases h

end FieldValue

open FieldValue

namespace Ip
variable {ip : Ip}

/-- No character of an address is a comma or a blank. -/
theorem toNat_mem_text {c : Char} (h : c ∈ ip.text.toList) :
    c.toNat < 0x80 ∧ c.toNat ≠ comma.toNat ∧ c.toNat ≠ 32 ∧ c.toNat ≠ 9 := by
  rcases Ip.mem_text h with halpha | rfl | rfl
  · simp only [Char.isAlphanum, Char.isAlpha, Char.isUpper, Char.isLower, Char.isDigit,
      Bool.or_eq_true, Bool.and_eq_true, decide_eq_true_eq, UInt32.le_iff_toNat_le] at halpha
    change ((65 ≤ c.toNat ∧ c.toNat ≤ 90) ∨ (97 ≤ c.toNat ∧ c.toNat ≤ 122)) ∨
      (48 ≤ c.toNat ∧ c.toNat ≤ 57) at halpha
    show c.toNat < 128 ∧ c.toNat ≠ 44 ∧ c.toNat ≠ 32 ∧ c.toNat ≠ 9
    omega
  · decide
  · decide

theorem mem_encode_text {b : UInt8} (h : b ∈ Utf8.encode ip.text) :
    b ≠ comma ∧ isBlankOctet b = false := by
  obtain ⟨c, hc, hb⟩ := List.mem_flatMap.mp h
  obtain ⟨hlt, hcomma, hspace, htab⟩ := toNat_mem_text hc
  rw [Utf8.utf8EncodeChar_of_ascii hlt, List.mem_singleton] at hb
  have hvalue : b.toNat = c.toNat := by
    rw [hb]
    exact UInt8.toNat_ofNat_of_lt' (hlt.trans (by decide))
  have hne : ∀ n : UInt8, c.toNat ≠ n.toNat → b ≠ n := by
    rintro n hn rfl
    exact hn hvalue.symm
  refine ⟨hne comma hcomma, ?_⟩
  simp [isBlankOctet, hne 32 hspace, hne 9 htab]

theorem encode_text_ne_nil : Utf8.encode ip.text ≠ [] := by
  cases htext : ip.text.toList with
  | nil => exact absurd htext ip.text_ne_empty
  | cons c cs =>
    have hc := (toNat_mem_text (htext ▸ List.mem_cons_self)).1
    rw [Utf8.encode, htext, Utf8.encodeChars, List.flatMap_cons,
      Utf8.utf8EncodeChar_of_ascii hc]
    exact List.cons_ne_nil _ _

/-- An address is one entry of a list, whether a blank stands before it or not. -/
theorem entries_text (ip : Ip) :
    entries (Utf8.encode ip.text) = [Utf8.encode ip.text] ∧
      entries (32 :: Utf8.encode ip.text) = [Utf8.encode ip.text] :=
  entries_word encode_text_ne_nil fun _ hb => mem_encode_text hb

end Ip

/-! ## Lines of addresses -/

namespace Headers

/-- The addresses that the forwarded lines list, in their order. -/
def addresses (h : Headers) : List Bytes := (h.getAll .forwardedFor).flatMap entries

end Headers

namespace Outbound

/-- The addresses of a line that is visible text. -/
def legible (v : Bytes) : List Bytes := if v.all isVisibleOctet then entries v else []

/-- The addresses that are read of a request, which are those of its first line. -/
def heard (h : Headers) : List Bytes := (h.get? .forwardedFor).elim [] legible

/-- All addresses stand in the first line, and that is visible text. -/
structure HeardWhole (h : Headers) : Prop where
  first : ∀ v, h.get? .forwardedFor = some v → entries v ≠ [] → v.all isVisibleOctet = true
  behind : ∀ v ∈ (h.getAll .forwardedFor).tail, entries v = []

/-- The line that names an address, behind the line that stands before it. A line that is empty
or not visible text does not count. -/
def lineBehind (before : Option Bytes) (ip : Ip) : Bytes :=
  match before with
  | some v =>
    if v ≠ [] ∧ v.all isVisibleOctet then v ++ Utf8.encode ", " ++ Utf8.encode ip.text
    else Utf8.encode ip.text
  | none => Utf8.encode ip.text

theorem encode_forwardedFor (h : Headers) (ip : Ip) :
    Utf8.encode (forwardedFor h ip.text) = lineBehind (h.get? .forwardedFor) ip := by
  unfold forwardedFor lineBehind
  cases h.get? .forwardedFor with
  | none => rfl
  | some v =>
    rw [Option.bind_some]
    by_cases hv : v.all isVisibleOctet = true
    · have hvisible : visible? v = some (v.map fun b => Char.ofNat b.toNat) := if_pos hv
      have hwritten := encodeChars_of_visible? hvisible
      rw [hvisible]
      cases v with
      | nil => rfl
      | cons b v =>
        show Utf8.encode (String.ofList ((b :: v).map fun b => Char.ofNat b.toNat) ++ ", " ++
          ip.text) = if _ then _ else _
        rw [if_pos ⟨List.cons_ne_nil b v, hv⟩, Utf8.encode_append, Utf8.encode_append,
          Utf8.encode.eq_1 (String.ofList _), String.toList_ofList, hwritten]
    · have hhidden : visible? v = none := if_neg hv
      rw [hhidden]
      exact (if_neg fun hline => hv hline.2).symm

/-- The line of an endpoint has the addresses that were read, and the client's behind them. -/
theorem entries_forwardedFor (h : Headers) (ip : Ip) :
    entries (Utf8.encode (forwardedFor h ip.text)) = heard h ++ [Utf8.encode ip.text] := by
  obtain ⟨halone, hbehind⟩ := ip.entries_text
  rw [encode_forwardedFor]
  unfold lineBehind heard
  cases h.get? .forwardedFor with
  | none => exact halone
  | some v =>
    rw [Option.elim_some, legible]
    by_cases hv : v.all isVisibleOctet = true
    · rw [if_pos hv]
      cases v with
      | nil => exact halone
      | cons b v =>
        -- The line itself, then a comma and a blank before the client's address.
        have hline : (b :: v) ++ Utf8.encode ", " ++ Utf8.encode ip.text =
            (b :: v) ++ comma :: 32 :: Utf8.encode ip.text := List.append_assoc _ _ _
        show entries (if _ then _ else _) = _
        rw [if_pos ⟨List.cons_ne_nil b v, hv⟩, hline, entries_comma, hbehind]
    · rw [if_neg hv]
      show entries (if _ then _ else _) = _
      rw [if_neg fun hline => hv hline.2]
      exact halone

theorem legible_isPrefix (v : Bytes) : legible v <+: entries v := by
  unfold legible
  split
  · exact List.prefix_rfl
  · exact List.nil_prefix

/-- What is not read is what stands last. -/
theorem heard_isPrefix (h : Headers) : heard h <+: h.addresses := by
  unfold heard Headers.addresses Headers.get?
  cases h.getAll .forwardedFor with
  | nil => exact List.nil_prefix
  | cons v lines =>
    rw [List.flatMap_cons]
    exact (legible_isPrefix v).trans (List.prefix_append _ _)

theorem legible_eq_iff (v : Bytes) :
    legible v = entries v ↔ (entries v ≠ [] → v.all isVisibleOctet = true) := by
  unfold legible
  split
  · rename_i hv
    exact iff_of_true rfl fun _ => hv
  · rename_i hv
    constructor
    · intro hnone hne
      exact absurd hnone.symm hne
    · intro hvisible
      by_contra hne
      exact hv (hvisible (Ne.symm hne))

theorem heard_eq_iff (h : Headers) : heard h = h.addresses ↔ HeardWhole h := by
  have hwhole : HeardWhole h ↔
      (∀ v, (h.getAll .forwardedFor).head? = some v →
        (entries v ≠ [] → v.all isVisibleOctet = true)) ∧
        ∀ v ∈ (h.getAll .forwardedFor).tail, entries v = [] :=
    ⟨fun hw => ⟨hw.first, hw.behind⟩, fun hw => ⟨hw.1, hw.2⟩⟩
  rw [hwhole]
  unfold heard Headers.addresses Headers.get?
  cases h.getAll .forwardedFor with
  | nil => simp
  | cons v lines =>
    rw [List.head?_cons, List.tail_cons, List.flatMap_cons, Option.elim_some]
    constructor
    · intro heq
      -- The first line has at most its own entries, so nothing else has any.
      have hlength := congrArg List.length heq
      rw [List.length_append] at hlength
      have hle := (legible_isPrefix v).length_le
      have hrest : lines.flatMap entries = [] := List.eq_nil_of_length_eq_zero (by omega)
      rw [hrest, List.append_nil, legible_eq_iff] at heq
      refine ⟨?_, List.flatMap_eq_nil_iff.mp hrest⟩
      rintro _ ⟨⟩
      exact heq
    · rintro ⟨hfirst, hbehind⟩
      rw [List.flatMap_eq_nil_iff.mpr hbehind, List.append_nil]
      exact (legible_eq_iff v).mpr (hfirst v rfl)

/-- The endpoint learns the addresses that were read and, behind them, the client's. -/
structure Continues (r : Request) (ip : Ip) (o : Outbound) : Prop where
  addresses : o.headers.addresses = heard r.headers ++ [Utf8.encode ip.text]
  kept : heard r.headers <+: r.headers.addresses
  whole_iff : o.headers.addresses = r.headers.addresses ++ [Utf8.encode ip.text] ↔
    HeardWhole r.headers

/-- A trusted request goes on with the addresses of its first line, if that is visible text, and
with the client's own: with all that it came by exactly if there are no others. -/
theorem ofRequest_trusted {r : Request} {e : Endpoint} {o : Outbound} {a : SocketAddress}
    (ha : r.peer = some a) (hnamed : FieldName.forwardedFor ∉ connectionNames r.headers)
    (h : ofRequest r e true = .ok o) : Continues r a.ip o := by
  have hheaders : o.headers = addForwarded r true (endToEnd r.headers) := by
    unfold ofRequest at h
    split at h
    · cases h
    · cases h
      rfl
  have hlines : (endToEnd r.headers).getAll .forwardedFor = r.headers.getAll .forwardedFor := by
    rw [getAll_endToEnd, if_neg]
    rintro (hconnection | hhop | hlength)
    · exact hnamed hconnection
    · exact absurd hhop (by decide)
    · exact absurd hlength (by decide)
  have hheard : heard (endToEnd r.headers) = heard r.headers := by
    unfold heard Headers.get?
    rw [hlines]
  have haddresses : o.headers.addresses = heard r.headers ++ [Utf8.encode a.ip.text] := by
    rw [Headers.addresses, hheaders, getAll_forwardedFor r true _ ha, if_pos rfl,
      List.flatMap_singleton, entries_forwardedFor, hheard]
  refine ⟨haddresses, heard_isPrefix r.headers, ?_⟩
  rw [haddresses, List.append_left_inj]
  exact heard_eq_iff r.headers

/-- A client at 192.168.1.20 that came by what the lines say. -/
def travelled (lines : List Bytes) : Request where
  id := 1
  method := .get
  uri := ⟨none, none, ⟨"/", none⟩⟩
  version := .http11
  headers := ⟨(.connection, Utf8.encode "x-session") :: lines.map (FieldName.forwardedFor, ·)⟩
  peer := some { ip := .v4 (.ofOctets 192 168 1 20), port := 55000 }

/-- One line with an empty entry, then a line of blanks: nothing is lost. -/
theorem ofRequest_trusted_travelled :
    ∃ a o, (travelled [Utf8.encode "10.0.0.1,,  ::1 ", [32, 9]]).peer = some a ∧
      FieldName.forwardedFor ∉
        connectionNames (travelled [Utf8.encode "10.0.0.1,,  ::1 ", [32, 9]]).headers ∧
      ofRequest (travelled [Utf8.encode "10.0.0.1,,  ::1 ", [32, 9]])
        ⟨.http, .domain "a", 80, "http://a/"⟩ true = .ok o ∧
      Continues (travelled [Utf8.encode "10.0.0.1,,  ::1 ", [32, 9]]) a.ip o ∧
      o.headers.addresses =
        [Utf8.encode "10.0.0.1", Utf8.encode "::1", Utf8.encode "192.168.1.20"] := by
  have hnamed : FieldName.forwardedFor ∉
      connectionNames (travelled [Utf8.encode "10.0.0.1,,  ::1 ", [32, 9]]).headers := by
    decide +kernel
  have ho : ofRequest (travelled [Utf8.encode "10.0.0.1,,  ::1 ", [32, 9]])
      ⟨.http, .domain "a", 80, "http://a/"⟩ true =
      .ok ⟨.get, ⟨some "http", some "a:80", ⟨"/", none⟩⟩, .http11,
        ⟨[(.forwardedFor, Utf8.encode "10.0.0.1,,  ::1 , 192.168.1.20"),
          (.forwardedProto, Utf8.encode "http")]⟩, []⟩ := by decide +kernel
  have hcontinues := ofRequest_trusted rfl hnamed ho
  exact ⟨_, _, rfl, hnamed, ho, hcontinues, by decide +kernel⟩

/-- Of two lines the second is lost. -/
theorem addresses_lost :
    ∃ a o, (travelled [Utf8.encode "10.0.0.1", Utf8.encode "10.0.0.2"]).peer = some a ∧
      FieldName.forwardedFor ∉
        connectionNames (travelled [Utf8.encode "10.0.0.1", Utf8.encode "10.0.0.2"]).headers ∧
      ofRequest (travelled [Utf8.encode "10.0.0.1", Utf8.encode "10.0.0.2"])
        ⟨.http, .ipv4 .loopback, 9001, "http://127.0.0.1:9001/"⟩ true = .ok o ∧
      o.headers.addresses ≠
        (travelled [Utf8.encode "10.0.0.1", Utf8.encode "10.0.0.2"]).headers.addresses ++
          [Utf8.encode a.ip.text] := by
  have ho : ofRequest (travelled [Utf8.encode "10.0.0.1", Utf8.encode "10.0.0.2"])
      ⟨.http, .ipv4 .loopback, 9001, "http://127.0.0.1:9001/"⟩ true =
      .ok ⟨.get, ⟨some "http", some "127.0.0.1:9001", ⟨"/", none⟩⟩, .http11,
        ⟨[(.forwardedFor, Utf8.encode "10.0.0.1, 192.168.1.20"),
          (.forwardedProto, Utf8.encode "http")]⟩, []⟩ := by decide +kernel
  exact ⟨_, _, rfl, by decide +kernel, ho, by decide +kernel⟩

end Outbound

end Gateway
