import Gateway.Proofs.Outbound.Addresses

/-!
# What goes beyond the connection

A client says in connection fields which of its fields concern the connection alone. Those that
it names in a line of visible text go no further, and neither do those that never go further;
all others reach the endpoint as they are. A line with any other octet names nothing.
-/

namespace Gateway

/-! ## Names in a line -/

theorem splitOnP_map {α β : Type} (f : α → β) (p : β → Bool) (xs : List α) :
    (xs.map f).splitOnP p = (xs.splitOnP (p ∘ f)).map (List.map f) := by
  induction xs with
  | nil => rfl
  | cons x xs ih =>
    rw [List.map_cons, List.splitOnP_cons_eq_if_modifyHead, List.splitOnP_cons_eq_if_modifyHead, ih]
    by_cases hx : p (f x) = true
    · simp [hx]
    · cases xs.splitOnP (p ∘ f) <;> simp [hx]

theorem mem_of_mem_splitOnP {α : Type} {p : α → Bool} {xs part : List α}
    (hpart : part ∈ xs.splitOnP p) {x : α} (hx : x ∈ part) : x ∈ xs := by
  induction xs generalizing part with
  | nil =>
    rw [List.splitOnP_nil, List.mem_singleton] at hpart
    exact hpart ▸ hx
  | cons y ys ih =>
    rw [List.splitOnP_cons_eq_if_modifyHead] at hpart
    split at hpart
    · rcases List.mem_cons.mp hpart with rfl | hrest
      · cases hx
      · exact List.mem_cons_of_mem y (ih hrest hx)
    · cases hsplit : ys.splitOnP p with
      | nil => exact absurd hsplit (List.splitOnP_ne_nil p ys)
      | cons first rest =>
        rw [hsplit, List.modifyHead_cons] at hpart
        rw [hsplit] at ih
        rcases List.mem_cons.mp hpart with rfl | hrest
        · rcases List.mem_cons.mp hx with rfl | hfirst
          · exact List.mem_cons_self
          · exact List.mem_cons_of_mem y (ih List.mem_cons_self hfirst)
        · exact List.mem_cons_of_mem y (ih (List.mem_cons_of_mem first hrest) hx)

theorem toLower_of_not_ascii {c : Char} (hc : ¬ c.toNat < 0x80) : c.toLower = c := by
  unfold Char.toLower
  rw [dif_neg]
  rintro ⟨-, hle⟩
  exact hc (Nat.lt_of_le_of_lt (UInt32.le_iff_toNat_le.mp hle) (by decide))

theorem Token.isTokenChar_toLower (c : Char) : isTokenChar c.toLower = isTokenChar c := by
  by_cases hc : c.toNat < 0x80
  · exact Domain.of_isAscii (P := fun c => isTokenChar c.toLower = isTokenChar c) (by decide)
      (decide_eq_true hc)
  · rw [toLower_of_not_ascii hc]

theorem Token.isToken_toLower (cs : List Char) : isToken (cs.map Char.toLower) = isToken cs := by
  unfold isToken
  rw [List.all_map]
  congr 1
  · cases cs <;> rfl
  · exact congrArg cs.all (funext isTokenChar_toLower)

namespace FieldValue

/-- The character of an octet. -/
def charOf (b : UInt8) : Char := Char.ofNat b.toNat

theorem toNat_charOf (b : UInt8) : (charOf b).toNat = b.toNat := by
  have hb := b.toNat_lt
  rw [charOf, Char.toNat_ofNat, if_pos (.inl (by omega))]

theorem charOf_injective : Function.Injective charOf := by
  intro b b' h
  rw [← UInt8.toNat_inj, ← toNat_charOf, h, toNat_charOf]

theorem splitOn_charOf (v : Bytes) :
    (v.map charOf).splitOn ',' = (v.splitOn comma).map (List.map charOf) := by
  have hcomma : ((· == ',') ∘ charOf) = (· == comma) := by
    funext b
    show (charOf b == charOf comma) = _
    exact charOf_injective.beq_eq
  rw [List.splitOn_eq_splitOnP, splitOnP_map, hcomma]
  rfl

theorem trim_charOf (v : Bytes) : Outbound.trim (v.map charOf) = (trim v).map charOf := by
  have hblank : Outbound.isBlank ∘ charOf = isBlankOctet := by
    funext b
    show (decide (charOf b = charOf 32) || decide (charOf b = charOf 9)) = _
    simp only [charOf_injective.eq_iff]
    rfl
  unfold Outbound.trim trim List.rdropWhile
  rw [List.dropWhile_map, ← List.map_reverse, List.dropWhile_map, List.map_reverse, hblank]

theorem visible?_eq (v : Bytes) :
    visible? v = if v.all isVisibleOctet then some (v.map charOf) else none :=
  rfl

theorem mem_trim {v : Bytes} {b : UInt8} (h : b ∈ trim v) : b ∈ v := by
  have hbegin : trim v <+: v.dropWhile isBlankOctet := List.rdropWhile_prefix _ _
  exact (List.dropWhile_suffix _).subset (hbegin.subset h)

/-- Each part of a visible line is written as it is read. -/
theorem encodeChars_part {v part : Bytes} (hv : v.all isVisibleOctet = true)
    (hpart : part ∈ v.splitOn comma) : Utf8.encodeChars ((trim part).map charOf) = trim part := by
  have hall : (trim part).all isVisibleOctet = true := by
    rw [List.all_eq_true] at hv ⊢
    exact fun b hb => hv b (mem_of_mem_splitOnP hpart (mem_trim hb))
  exact encodeChars_of_visible? (if_pos hall)

theorem encodeChars_entry {v word : Bytes} (hv : v.all isVisibleOctet = true)
    (hword : word ∈ entries v) : Utf8.encodeChars (word.map charOf) = word := by
  obtain ⟨part, hpart, rfl⟩ := List.mem_map.mp (List.mem_of_mem_filter hword)
  exact encodeChars_part hv hpart

/-- A text among the entries of a visible line is read as it is. -/
theorem map_charOf_entry {v : Bytes} {s : String} (hv : v.all isVisibleOctet = true)
    (hs : Utf8.encode s ∈ entries v) : (Utf8.encode s).map charOf = s.toList := by
  have hdecoded := congrArg Utf8.decodeChars (encodeChars_entry hv hs)
  rw [Utf8.decodeChars_encodeChars, Utf8.encode, Utf8.decodeChars_encodeChars] at hdecoded
  exact Option.some_inj.mp hdecoded

end FieldValue

open FieldValue

namespace FieldName

/-- A name that a text reads as. -/
def Valid (n : FieldName) : Prop := ∃ s, parse? s = some n

/-- Some spelling of the name stands between the commas of a line, blanks around it aside. -/
def ListedIn (n : FieldName) (v : Bytes) : Prop :=
  ∃ s : String, s.toList.map Char.toLower = n.text.toList ∧ Utf8.encode s ∈ entries v

theorem ofChars?_eq_some_iff {cs : List Char} {n : FieldName} :
    ofChars? cs = some n ↔ Token.isToken cs = true ∧ cs.length ≤ maxLength ∧
      cs.map Char.toLower = n.text.toList := by
  obtain ⟨text⟩ := n
  unfold ofChars?
  by_cases h : Token.isToken cs = true ∧ cs.length ≤ maxLength
  · rw [if_pos (by simpa using h), Option.some_inj, FieldName.mk.injEq, ← String.toList_inj,
      String.toList_ofList]
    exact ⟨fun heq => ⟨h.1, h.2, heq⟩, fun heq => heq.2.2⟩
  · rw [if_neg (by simpa using h)]
    exact ⟨nofun, fun heq => absurd ⟨heq.1, heq.2.1⟩ h⟩

/-- Whatever its case, a spelling of a valid name reads as that name. -/
theorem Valid.ofChars?_eq {n : FieldName} (hn : n.Valid) {cs : List Char}
    (hcs : cs.map Char.toLower = n.text.toList) : ofChars? cs = some n := by
  obtain ⟨s, hs⟩ := hn
  obtain ⟨htoken, hlength, hlower⟩ := ofChars?_eq_some_iff.mp hs
  have hsame : cs.map Char.toLower = s.toList.map Char.toLower := hcs.trans hlower.symm
  refine ofChars?_eq_some_iff.mpr ⟨?_, ?_, hcs⟩
  · rw [← Token.isToken_toLower, hsame, Token.isToken_toLower]
    exact htoken
  · have hsize := congrArg List.length hsame
    rw [List.length_map, List.length_map] at hsize
    exact hsize ▸ hlength

end FieldName

namespace Outbound

theorem mem_listedNames {v : Bytes} {n : FieldName} :
    n ∈ listedNames v ↔ v.all isVisibleOctet = true ∧
      ∃ part ∈ v.splitOn comma, FieldName.ofChars? ((FieldValue.trim part).map charOf) = some n := by
  unfold listedNames
  rw [visible?_eq]
  by_cases hv : v.all isVisibleOctet = true
  · simp [hv, splitOn_charOf, trim_charOf]
  · simp [hv]

/-- A name that is read stands in its line. -/
theorem listedIn_of_mem {v : Bytes} {n : FieldName} (h : n ∈ listedNames v) :
    v.all isVisibleOctet = true ∧ n.ListedIn v := by
  obtain ⟨hv, part, hpart, hname⟩ := mem_listedNames.mp h
  obtain ⟨htoken, -, hlower⟩ := FieldName.ofChars?_eq_some_iff.mp hname
  refine ⟨hv, String.ofList ((FieldValue.trim part).map charOf), ?_, ?_⟩
  · rw [String.toList_ofList]
    exact hlower
  · have hne : FieldValue.trim part ≠ [] := by
      intro hempty
      rw [hempty] at htoken
      cases htoken
    rw [Utf8.encode, String.toList_ofList, encodeChars_part hv hpart]
    exact List.mem_filter.mpr ⟨List.mem_map.mpr ⟨part, hpart, rfl⟩, decide_eq_true hne⟩

/-- The names that are read in a line of visible text are all that stand in it. -/
theorem mem_listedNames_iff {v : Bytes} {n : FieldName} (hn : n.Valid) :
    n ∈ listedNames v ↔ v.all isVisibleOctet = true ∧ n.ListedIn v := by
  refine ⟨listedIn_of_mem, ?_⟩
  rintro ⟨hv, s, hlower, hs⟩
  obtain ⟨part, hpart, htrim⟩ := List.mem_map.mp (List.mem_of_mem_filter hs)
  have hread : (FieldValue.trim part).map charOf = s.toList := by
    rw [htrim]
    exact map_charOf_entry hv hs
  exact mem_listedNames.mpr ⟨hv, part, hpart, hread ▸ hn.ofChars?_eq hlower⟩

end Outbound

namespace Headers

/-- A connection field names the field. -/
def Named (h : Headers) (n : FieldName) : Prop := ∃ v ∈ h.getAll .connection, n.ListedIn v

/-- A connection field names the field in a line of visible text. -/
def Struck (h : Headers) (n : FieldName) : Prop :=
  ∃ v ∈ h.getAll .connection, v.all isVisibleOctet = true ∧ n.ListedIn v

end Headers

namespace Outbound

theorem struck_of_mem {h : Headers} {n : FieldName} (hn : n ∈ connectionNames h) : h.Struck n := by
  obtain ⟨v, hv, hlisted⟩ := List.mem_flatMap.mp hn
  exact ⟨v, hv, listedIn_of_mem hlisted⟩

theorem mem_connectionNames_iff {h : Headers} {n : FieldName} (hn : n.Valid) :
    n ∈ connectionNames h ↔ h.Struck n := by
  refine ⟨struck_of_mem, ?_⟩
  rintro ⟨v, hv, hlisted⟩
  exact List.mem_flatMap.mpr ⟨v, hv, (mem_listedNames_iff hn).mpr hlisted⟩

/-! ## Fields that are sent -/

theorem eq_of_ofRequest {r : Request} {e : Endpoint} {trust : Bool} {o : Outbound}
    (h : ofRequest r e trust = .ok o) :
    o = ⟨r.method, o.uri, .http11, addForwarded r trust (endToEnd r.headers), r.body⟩ := by
  unfold ofRequest at h
  split at h
  · cases h
  · cases h
    rfl

theorem getAll_addForwarded_of_not_mem (r : Request) (trust : Bool) (h : Headers) {n : FieldName}
    (hn : n ∉ forwardedNames) : (addForwarded r trust h).getAll n = h.getAll n := by
  have hne : FieldName.forwardedFor ≠ n ∧ FieldName.forwardedProto ≠ n ∧
      FieldName.forwardedHost ≠ n := by
    simpa [forwardedNames, eq_comm] using hn
  unfold addForwarded
  rw [getAll_addHost_of_ne _ _ hne.2.2, getAll_addProto_of_ne _ _ hne.2.1,
    getAll_addClient_of_ne _ _ hne.1]
  cases trust with
  | true => rfl
  | false =>
    show (eraseAll forwardedNames h).getAll n = _
    rw [getAll_eraseAll, if_neg hn]

variable {r : Request} {e : Endpoint} {trust : Bool} {o : Outbound}

theorem getAll_of_ofRequest (h : ofRequest r e trust = .ok o) {n : FieldName}
    (hn : n ∉ forwardedNames) :
    o.headers.getAll n =
      if n ∈ connectionNames r.headers ∨ n ∈ hopByHop ∨ n = .contentLength then []
      else r.headers.getAll n := by
  rw [eq_of_ofRequest h]
  show (addForwarded r trust (endToEnd r.headers)).getAll n = _
  rw [getAll_addForwarded_of_not_mem _ _ _ hn, getAll_endToEnd]

theorem not_mem_forwardedNames_of_mem_hopByHop {n : FieldName} (hn : n ∈ hopByHop) :
    n ∉ forwardedNames := by
  have hall : ∀ n ∈ hopByHop, n ∉ forwardedNames := by decide
  exact hall n hn

/-! ## What is taken away -/

/-- No field of a single connection goes further and, of the fields that a connection field
names, nothing does. The proxy may say its own word under their names. -/
structure Clean (r : Request) (o : Outbound) : Prop where
  hopByHop : ∀ n ∈ Outbound.hopByHop, o.headers.getAll n = []
  named : ∀ n, n.Valid → r.headers.Named n → o.headers.getAll n = ownWord r n

/-- Which of the fields that concern the connection go no further: all of them, unless a name
stands only in lines that are not visible text. -/
structure Strips (r : Request) (o : Outbound) : Prop where
  hopByHop : ∀ n ∈ Outbound.hopByHop, o.headers.getAll n = []
  struck : ∀ n, n.Valid → r.headers.Struck n → o.headers.getAll n = ownWord r n
  clean_iff : Clean r o ↔ ∀ n, n.Valid → r.headers.Named n → ¬ r.headers.Struck n →
    n ∉ Outbound.hopByHop → n ≠ .contentLength →
      r.headers.getAll n = [] ∨ (n ∈ forwardedNames ∧ o.headers.getAll n = ownWord r n)

theorem getAll_eq_nil_of_ofRequest (h : ofRequest r e trust = .ok o) {n : FieldName}
    (hn : n ∈ hopByHop ∨ n = .contentLength) : o.headers.getAll n = [] ∧ ownWord r n = [] := by
  have hforwarded : n ∉ forwardedNames := by
    rcases hn with hhop | rfl
    · exact not_mem_forwardedNames_of_mem_hopByHop hhop
    · decide
  rw [getAll_of_ofRequest h hforwarded, if_pos (.inr hn)]
  exact ⟨rfl, ownWord_of_not_mem r hforwarded⟩

theorem getAll_eq_ownWord_of_ofRequest (h : ofRequest r e trust = .ok o) {n : FieldName}
    (hn : (endToEnd r.headers).getAll n = []) : o.headers.getAll n = ownWord r n := by
  rw [eq_of_ofRequest h]
  exact getAll_addForwarded_of_nil r trust hn

/-- A request that is sent has no field of the client's connection, but for those named only in
lines with other than visible characters. -/
theorem ofRequest_strips (h : ofRequest r e trust = .ok o) : Strips r o := by
  have hhop : ∀ n ∈ Outbound.hopByHop, o.headers.getAll n = [] :=
    fun n hn => (getAll_eq_nil_of_ofRequest h (.inl hn)).1
  have hstruck : ∀ n, n.Valid → r.headers.Struck n → o.headers.getAll n = ownWord r n := by
    intro n hvalid hn
    apply getAll_eq_ownWord_of_ofRequest h
    rw [getAll_endToEnd, if_pos (.inl ((mem_connectionNames_iff hvalid).mpr hn))]
  refine ⟨hhop, hstruck, ?_, ?_⟩
  · intro hclean n hvalid hnamed hnot hn hlength
    have hown := hclean.named n hvalid hnamed
    by_cases hforwarded : n ∈ forwardedNames
    · exact .inr ⟨hforwarded, hown⟩
    · left
      rw [getAll_of_ofRequest h hforwarded, ownWord_of_not_mem r hforwarded, if_neg] at hown
      · exact hown
      · rintro (hconnection | hn' | hlength')
        · exact hnot (struck_of_mem hconnection)
        · exact hn hn'
        · exact hlength hlength'
  · intro hrest
    refine ⟨hhop, fun n hvalid hnamed => ?_⟩
    by_cases hn : r.headers.Struck n
    · exact hstruck n hvalid hn
    · by_cases hown : n ∈ Outbound.hopByHop ∨ n = .contentLength
      · obtain ⟨hnil, hword⟩ := getAll_eq_nil_of_ofRequest h hown
        rw [hnil, hword]
      · rw [not_or] at hown
        rcases hrest n hvalid hnamed hn hown.1 hown.2 with hnil | ⟨-, hword⟩
        · apply getAll_eq_ownWord_of_ofRequest h
          rw [getAll_endToEnd, hnil, ite_self]
        · exact hword

/-- A client that names one of its fields in connection fields. -/
def hinting (connection : List Bytes) : Request where
  id := 1
  method := ⟨"POST"⟩
  uri := ⟨none, none, ⟨"/", none⟩⟩
  version := .http10
  headers := ⟨connection.map (FieldName.connection, ·) ++
    [(⟨"cookie"⟩, Utf8.encode "a"), (⟨"x-hint"⟩, Utf8.encode "abc"),
      (⟨"x-hinted"⟩, [255]), (⟨"cookie"⟩, Utf8.encode "b"), (.contentLength, Utf8.encode "5")]⟩
  peer := none
  body := Utf8.encode "hello"

/-- A line that is not read, and the name in another case between blanks in the next one. -/
def hints : List Bytes := [Utf8.encode "x-other, " ++ [255], Utf8.encode "close ,\t X-Hint"]

/-- What an endpoint is sent of it. -/
def hinted : Outbound where
  method := ⟨"POST"⟩
  uri := ⟨some "http", some "127.0.0.1:9001", ⟨"/", none⟩⟩
  version := .http11
  headers := ⟨[(⟨"cookie"⟩, Utf8.encode "a"), (⟨"x-hinted"⟩, [255]),
    (⟨"cookie"⟩, Utf8.encode "b"), (.forwardedProto, Utf8.encode "http")]⟩
  body := Utf8.encode "hello"

theorem ofRequest_hinting :
    ofRequest (hinting hints) ⟨.http, .ipv4 .loopback, 9001, "http://127.0.0.1:9001/"⟩ false =
      .ok hinted := by
  decide +kernel

theorem ofRequest_strips_hinting :
    ofRequest (hinting hints) ⟨.http, .ipv4 .loopback, 9001, "http://127.0.0.1:9001/"⟩ false =
      .ok hinted ∧ Strips (hinting hints) hinted :=
  ⟨ofRequest_hinting, ofRequest_strips ofRequest_hinting⟩

/-- In a line with an octet that is not visible, a name is not read. -/
theorem hint_not_read :
    ∃ o, ofRequest (hinting [Utf8.encode "x-hint, " ++ [255]])
        ⟨.http, .ipv4 .loopback, 9001, "http://127.0.0.1:9001/"⟩ false = .ok o ∧
      o.headers.getAll ⟨"x-hint"⟩ = [Utf8.encode "abc"] ∧
      ¬ Clean (hinting [Utf8.encode "x-hint, " ++ [255]]) o := by
  have ho : ofRequest (hinting [Utf8.encode "x-hint, " ++ [255]])
      ⟨.http, .ipv4 .loopback, 9001, "http://127.0.0.1:9001/"⟩ false =
      .ok { hinted with
        headers := ⟨[(⟨"cookie"⟩, Utf8.encode "a"), (⟨"x-hint"⟩, Utf8.encode "abc"),
          (⟨"x-hinted"⟩, [255]), (⟨"cookie"⟩, Utf8.encode "b"),
          (.forwardedProto, Utf8.encode "http")]⟩ } := by
    decide +kernel
  have hvalid : FieldName.Valid ⟨"x-hint"⟩ := ⟨"x-hint", by decide +kernel⟩
  have hnamed : (hinting [Utf8.encode "x-hint, " ++ [255]]).headers.Named ⟨"x-hint"⟩ := by
    refine ⟨Utf8.encode "x-hint, " ++ [255], by decide +kernel, "x-hint", ?_⟩
    decide +kernel
  refine ⟨_, ho, by decide +kernel, fun hclean => ?_⟩
  exact absurd (hclean.named _ hvalid hnamed) (by decide +kernel)

/-! ## What goes on -/

/-- An endpoint is sent what the client says to it, and no field of another name but for those
that tell where the request came from. -/
structure Carries (r : Request) (o : Outbound) : Prop where
  fields : ∀ n, n ∉ Outbound.hopByHop → ¬ r.headers.Named n → n ≠ .contentLength →
    n ∉ forwardedNames → o.headers.getAll n = r.headers.getAll n
  names : ∀ n, o.headers.getAll n ≠ [] → r.headers.getAll n ≠ [] ∨ n ∈ forwardedNames
  method : o.method = r.method
  body : o.body = r.body
  version : o.version = .http11

/-- Fields that do not concern the connection go on as they are: with all their values, in
their order. -/
theorem ofRequest_carries (h : ofRequest r e trust = .ok o) : Carries r o := by
  have hsent := eq_of_ofRequest h
  refine ⟨?_, ?_, by rw [hsent], by rw [hsent], by rw [hsent]⟩
  · intro n hhop hnamed hlength hforwarded
    rw [getAll_of_ofRequest h hforwarded, if_neg]
    rintro (hconnection | hhop' | hlength')
    · obtain ⟨v, hv, -, hlisted⟩ := struck_of_mem hconnection
      exact hnamed ⟨v, hv, hlisted⟩
    · exact hhop hhop'
    · exact hlength hlength'
  · intro n hn
    by_cases hforwarded : n ∈ forwardedNames
    · exact .inr hforwarded
    · left
      rw [getAll_of_ofRequest h hforwarded] at hn
      split at hn
      · exact absurd rfl hn
      · exact hn

/-- Both cookies go on, and so does a field whose name only begins like one that is listed. -/
theorem ofRequest_carries_hinting :
    ofRequest (hinting hints) ⟨.http, .ipv4 .loopback, 9001, "http://127.0.0.1:9001/"⟩ false =
      .ok hinted ∧ Carries (hinting hints) hinted ∧
      hinted.headers.getAll ⟨"cookie"⟩ = [Utf8.encode "a", Utf8.encode "b"] :=
  ⟨ofRequest_hinting, ofRequest_carries ofRequest_hinting, by decide +kernel⟩

end Outbound

end Gateway
