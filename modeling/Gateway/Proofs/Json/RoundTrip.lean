import Gateway.Proofs.Json.Numerals
import Gateway.Proofs.Json.Objects
import Gateway.Proofs.Text.Utf8

/-!
# Reading what was written

A value that is written reads as the same value: if its containers nest no deeper than is
read, its objects are ordered, its integers have 64 bits and its floating point numbers read
as they are written.
-/

namespace Gateway.Json

/-! ## Strings -/

theorem hexValue?_hexDigit (n : ℕ) : hexValue? (hexDigit n) = some (n % 16) := by
  have hdigits : ∀ d < 16, hexValue? ((Nat.toDigits 16 d).headD '0') = some d := by decide
  exact hdigits _ (Nat.mod_lt n (by decide))

/-- An escaped character is one piece of a string. -/
theorem piece?_escapeChar (c : Char) (rest : List Char) :
    piece? (escapeChar c ++ rest) = some (.char c, (escapeChar c).length) := by
  have hcode : ∀ n, c.toNat = n → c = Char.ofNat n := by
    rintro n rfl
    exact (Char.ofNat_toNat c).symm
  unfold escapeChar
  split_ifs with hquote hslash hline hreturn htab hback hfeed hcontrol
  · subst hquote
    rfl
  · subst hslash
    rfl
  · subst hline
    rfl
  · subst hreturn
    rfl
  · subst htab
    rfl
  · rw [hcode 8 hback]
    rfl
  · rw [hcode 12 hfeed]
    rfl
  · have hhex : hex4? '0' '0' (hexDigit (c.toNat / 16)) (hexDigit c.toNat) = some c.toNat := by
      unfold hex4?
      rw [hexValue?_hexDigit, hexValue?_hexDigit]
      show some (((0 * 16 + 0) * 16 + c.toNat / 16 % 16) * 16 + c.toNat % 16) = _
      congr 1
      omega
    simp only [List.cons_append, List.nil_append, piece?, hhex]
    rw [if_neg (by simp; omega), if_neg (by simp; omega), Char.ofNat_toNat]
    rfl
  · rw [List.singleton_append, piece?.eq_def]
    split <;> simp_all

/-- The escaped characters of a string and its closing quote read as the string. -/
theorem string?_escaped (cs rest : List Char) (acc : List Char) {fuel : ℕ}
    (hfuel : cs.length < fuel) :
    string? fuel (cs.flatMap escapeChar ++ '"' :: rest) (some acc) =
      some (some (String.ofList (acc.reverse ++ cs)), rest) := by
  induction cs generalizing acc fuel with
  | nil =>
    obtain ⟨fuel, rfl⟩ := Nat.exists_eq_succ_of_ne_zero (Nat.ne_of_gt hfuel)
    rw [List.append_nil]
    rfl
  | cons c cs ih =>
    obtain ⟨fuel, rfl⟩ := Nat.exists_eq_succ_of_ne_zero (Nat.ne_of_gt (Nat.zero_lt_of_lt hfuel))
    rw [List.length_cons] at hfuel
    rw [List.flatMap_cons, List.append_assoc, string?, piece?_escapeChar]
    show string? fuel (List.drop _ _) (some (c :: acc)) = _
    rw [List.drop_left, ih (c :: acc) (by omega), List.reverse_cons, List.append_assoc,
      List.singleton_append]

theorem length_le_escaped (cs : List Char) : cs.length ≤ (cs.flatMap escapeChar).length := by
  induction cs with
  | nil => exact le_rfl
  | cons c cs ih =>
    have hpos : 0 < (escapeChar c).length := by
      unfold escapeChar
      split_ifs <;> exact Nat.succ_pos _
    rw [List.flatMap_cons, List.length_append, List.length_cons]
    omega

/-- A quoted string is a quote and what reads as the string. -/
theorem string?_quote (s : String) (rest : List Char) :
    ∃ r, (quote s).toList ++ rest = '"' :: r ∧
      string? (r.length + 1) r (some []) = some (some s, rest) := by
  refine ⟨s.toList.flatMap escapeChar ++ '"' :: rest, ?_, ?_⟩
  · simp [quote]
  · have hlength := length_le_escaped s.toList
    rw [string?_escaped _ _ _ (by rw [List.length_append]; omega)]
    simp

/-! ## Values -/

/-- A value that is read as it is written if containers may nest `depth` deep. -/
inductive Readable : ℕ → Json → Prop where
  | null {depth : ℕ} : Readable depth .null
  | bool {depth : ℕ} (b : Bool) : Readable depth (.bool b)
  | int {depth : ℕ} {n : ℤ} (h : Fits n) : Readable depth (.int n)
  | real {depth : ℕ} {x : Float} (h : Exact x) : Readable depth (.real x)
  | str {depth : ℕ} (s : String) : Readable depth (.str s)
  | arr {depth : ℕ} {items : List Json} (h : ∀ v ∈ items, Readable depth v) :
      Readable (depth + 1) (.arr items)
  | obj {depth : ℕ} {fields : List (String × Json)} (hordered : Ordered fields)
      (h : ∀ f ∈ fields, Readable depth f.2) : Readable (depth + 1) (.obj fields)

/-- The text of a value is read as the value, in front of whatever ends it. The text takes more
characters than the reader has calls to make. -/
def ReadsBack (depth : ℕ) (v : Json) : Prop :=
  ∀ (fuel : ℕ) (rest : List Char), 2 * (write v).length ≤ fuel → Ends rest →
    ∃ d, value? fuel ((write v).toList ++ rest) = some (d, rest) ∧ d.value? depth = some v

/-! ### Numbers -/

theorem skipBlanks_of_not_blank {c : Char} (h : isBlank c = false) (cs : List Char) :
    skipBlanks (c :: cs) = c :: cs := by
  rw [skipBlanks, List.dropWhile_cons_of_neg (by simp [h])]

theorem ne_of_begins_number {c : Char} (hc : c = '-' ∨ c.isDigit = true) :
    isBlank c = false ∧ c ≠ ']' ∧ c ≠ '"' ∧ c ≠ '[' ∧ c ≠ '\x7b' ∧ c ≠ 't' ∧ c ≠ 'f' ∧ c ≠ 'n' := by
  rcases hc with rfl | hdigit
  · decide
  · have hne : ∀ d : Char, d.isDigit = false → c ≠ d := by
      rintro d hd rfl
      rw [hd] at hdigit
      cases hdigit
    refine ⟨?_, hne _ rfl, hne _ rfl, hne _ rfl, hne _ rfl, hne _ rfl, hne _ rfl, hne _ rfl⟩
    simp [isBlank, hne ' ' rfl, hne '\n' rfl, hne '\t' rfl, hne '\r' rfl]

theorem value?_of_numeral {text rest : List Char} {n : Numeral} (hrest : Ends rest)
    (h : numeral? text = some (n, [])) (fuel : ℕ) :
    value? (fuel + 1) (text ++ rest) = some (.num n, rest) := by
  have hread : numeral? (text ++ rest) = some (n, rest) := hrest.numeral?_append h
  obtain ⟨c, tail, hhead, hc⟩ := head_of_numeral? hread
  obtain ⟨hblank, -, hquote, hbracket, hbrace, ht, hf, hn⟩ := ne_of_begins_number hc
  rw [hhead] at hread ⊢
  rw [value?, skipBlanks_of_not_blank hblank]
  split <;> simp_all

/-- The text of a value begins with neither a blank nor the end of a list. -/
theorem head_write {depth : ℕ} {v : Json} (h : Readable depth v) :
    ∃ c tail, (write v).toList = c :: tail ∧ isBlank c = false ∧ c ≠ ']' := by
  have hnumber : ∀ {text : List Char} {r : Numeral × List Char}, numeral? text = some r →
      ∃ c tail, text = c :: tail ∧ isBlank c = false ∧ c ≠ ']' := by
    intro text r hr
    obtain ⟨c, tail, hhead, hc⟩ := head_of_numeral? hr
    have hne := ne_of_begins_number hc
    exact ⟨c, tail, hhead, hne.1, hne.2.1⟩
  cases h with
  | null => exact ⟨'n', _, rfl, rfl, by decide⟩
  | bool b => cases b <;> exact ⟨_, _, rfl, rfl, by decide⟩
  | int h => exact hnumber (numeral?_toString _)
  | real h =>
    obtain ⟨n, hn, -⟩ := h
    exact hnumber hn
  | str s => exact ⟨'"', _, by simp [write, quote]; rfl, rfl, by decide⟩
  | arr h => exact ⟨'[', _, by simp [write]; rfl, rfl, by decide⟩
  | obj hordered h => exact ⟨'\x7b', _, by simp [write]; rfl, rfl, by decide⟩

theorem fuel_pos {v : Json} (h : Readable 0 v) {fuel : ℕ} (hfuel : 2 * (write v).length ≤ fuel) :
    1 ≤ fuel := by
  obtain ⟨c, tail, hhead, -⟩ := head_write h
  have hlength := congrArg List.length hhead
  rw [String.length_toList, List.length_cons] at hlength
  omega

/-! ### Lists and objects -/

theorem toList_writeItems_cons (v w : Json) (rest : List Json) :
    (writeItems (v :: w :: rest)).toList =
      (write v).toList ++ ',' :: (writeItems (w :: rest)).toList := by
  rw [writeItems, String.toList_append, String.toList_append, List.append_assoc]
  · rfl
  · simp

/-- The items of a list are read up to its end. -/
theorem items?_write {depth : ℕ} {items : List Json} (hne : items ≠ [])
    (h : ∀ v ∈ items, Readable depth v ∧ ReadsBack depth v) {fuel : ℕ} (rest : List Char)
    (hfuel : 2 * (writeItems items).length + 1 ≤ fuel) :
    ∃ ds, items? fuel ((writeItems items).toList ++ ']' :: rest) = some (ds, rest) ∧
      itemsValue? depth ds = some items := by
  induction items generalizing fuel with
  | nil => exact absurd rfl hne
  | cons v items ih =>
    obtain ⟨hreadable, hv⟩ := h v List.mem_cons_self
    obtain ⟨fuel, rfl⟩ := Nat.exists_eq_succ_of_ne_zero (show fuel ≠ 0 by omega)
    cases items with
    | nil =>
      obtain ⟨d, hd, hvalue⟩ := hv fuel (']' :: rest) (by
        have : (writeItems [v]).length = (write v).length := rfl
        omega) (ends_cons (.inr (.inl rfl)) rest)
      refine ⟨[d], ?_, ?_⟩
      · show items? (fuel + 1) ((write v).toList ++ ']' :: rest) = _
        rw [items?, hd]
        rfl
      · simp [itemsValue?, hvalue]
    | cons w items =>
      have htext := toList_writeItems_cons v w items
      have hlength := congrArg List.length htext
      rw [List.length_append, List.length_cons, String.length_toList, String.length_toList,
        String.length_toList] at hlength
      obtain ⟨d, hd, hvalue⟩ := hv fuel (',' :: ((writeItems (w :: items)).toList ++ ']' :: rest))
        (by omega) (ends_cons (.inl rfl) _)
      obtain ⟨ds, hds, hvalues⟩ := ih (List.cons_ne_nil w items)
        (fun u hu => h u (List.mem_cons_of_mem v hu))
        (show 2 * (writeItems (w :: items)).length + 1 ≤ fuel by omega)
      refine ⟨d :: ds, ?_, ?_⟩
      · rw [htext, List.append_assoc, List.cons_append, items?, hd]
        simp only [skipBlanks_of_not_blank (c := ',') rfl, hds]
        rfl
      · simp [itemsValue?, hvalue, hvalues]

/-- A field, and the fields that follow it if there are any. -/
def fieldsFrom? (fuel : ℕ) (n : String) (d : Document) :
    List Char → Option (List (Option String × Document) × List Char)
  | '\x7d' :: r => some ([(some n, d)], r)
  | ',' :: r => (fields? fuel r).map fun (fs, r) => ((some n, d) :: fs, r)
  | _ => none

/-- A field is read up to what follows its value. -/
theorem fields?_of_field (n : String) {v : Json} {d : Document} {fuel : ℕ} {rest : List Char}
    (hd : value? fuel ((write v).toList ++ rest) = some (d, rest)) :
    fields? (fuel + 1) ((quote n).toList ++ ':' :: ((write v).toList ++ rest)) =
      fieldsFrom? fuel n d (skipBlanks rest) := by
  obtain ⟨r, htext, hstring⟩ := string?_quote n (':' :: ((write v).toList ++ rest))
  rw [htext, fields?, skipBlanks_of_not_blank rfl]
  simp only [hstring, skipBlanks_of_not_blank (c := ':') rfl, hd]
  rfl

theorem toList_writeFields_singleton (n : String) (v : Json) :
    (writeFields [(n, v)]).toList = (quote n).toList ++ ':' :: (write v).toList := by
  rw [writeFields, String.toList_append, String.toList_append, List.append_assoc]
  rfl

theorem toList_writeFields_cons (n : String) (v : Json) (f : String × Json)
    (rest : List (String × Json)) :
    (writeFields ((n, v) :: f :: rest)).toList =
      (quote n).toList ++ ':' :: ((write v).toList ++ ',' :: (writeFields (f :: rest)).toList) := by
  rw [writeFields, String.toList_append, String.toList_append, String.toList_append,
    String.toList_append, List.append_assoc, List.append_assoc, List.append_assoc]
  · rfl
  · simp

/-- The fields of an object are read up to its end. -/
theorem fields?_write {depth : ℕ} {fields : List (String × Json)} (hne : fields ≠ [])
    (h : ∀ f ∈ fields, ReadsBack depth f.2) {fuel : ℕ} (rest : List Char)
    (hfuel : 2 * (writeFields fields).length + 1 ≤ fuel) :
    ∃ ds, fields? fuel ((writeFields fields).toList ++ '\x7d' :: rest) = some (ds, rest) ∧
      fieldsValue? depth ds = some fields := by
  induction fields generalizing fuel with
  | nil => exact absurd rfl hne
  | cons f fields ih =>
    obtain ⟨n, v⟩ := f
    have hv : ReadsBack depth v := h (n, v) List.mem_cons_self
    obtain ⟨fuel, rfl⟩ := Nat.exists_eq_succ_of_ne_zero (show fuel ≠ 0 by omega)
    cases fields with
    | nil =>
      have htext := toList_writeFields_singleton n v
      have hlength := congrArg List.length htext
      rw [List.length_append, List.length_cons, String.length_toList, String.length_toList,
        String.length_toList] at hlength
      obtain ⟨d, hd, hvalue⟩ := hv fuel ('\x7d' :: rest) (by omega)
        (ends_cons (.inr (.inr rfl)) rest)
      refine ⟨[(some n, d)], ?_, ?_⟩
      · rw [htext, List.append_assoc, List.cons_append, fields?_of_field n hd]
        rfl
      · simp [fieldsValue?, hvalue]
    | cons g fields =>
      have htext := toList_writeFields_cons n v g fields
      have hlength := congrArg List.length htext
      rw [List.length_append, List.length_cons, List.length_append, List.length_cons,
        String.length_toList, String.length_toList, String.length_toList,
        String.length_toList] at hlength
      obtain ⟨d, hd, hvalue⟩ :=
        hv fuel (',' :: ((writeFields (g :: fields)).toList ++ '\x7d' :: rest)) (by omega)
          (ends_cons (.inl rfl) _)
      obtain ⟨ds, hds, hvalues⟩ := ih (List.cons_ne_nil g fields)
        (fun u hu => h u (List.mem_cons_of_mem _ hu))
        (show 2 * (writeFields (g :: fields)).length + 1 ≤ fuel by omega)
      refine ⟨(some n, d) :: ds, ?_, ?_⟩
      · rw [htext, List.append_assoc, List.cons_append, List.append_assoc, List.cons_append,
          fields?_of_field n hd, skipBlanks_of_not_blank rfl]
        simp only [fieldsFrom?, hds]
        rfl
      · simp [fieldsValue?, hvalue, hvalues]

/-! ### Documents -/

theorem head_writeItems {depth : ℕ} {items : List Json} (hne : items ≠ [])
    (h : ∀ v ∈ items, Readable depth v) (rest : List Char) :
    ∃ c tail, (writeItems items).toList ++ rest = c :: tail ∧ isBlank c = false ∧ c ≠ ']' := by
  cases items with
  | nil => exact absurd rfl hne
  | cons v items =>
    obtain ⟨c, tail, hhead, hc⟩ := head_write (h v List.mem_cons_self)
    cases items with
    | nil =>
      have htext : (writeItems [v]).toList = c :: tail := hhead
      exact ⟨c, tail ++ rest, by rw [htext, List.cons_append], hc⟩
    | cons w items =>
      refine ⟨c, tail ++ ',' :: (writeItems (w :: items)).toList ++ rest, ?_, hc⟩
      rw [toList_writeItems_cons, hhead]
      simp

theorem head_writeFields {fields : List (String × Json)} (hne : fields ≠ []) (rest : List Char) :
    ∃ tail, (writeFields fields).toList ++ rest = '"' :: tail := by
  have hquote : ∀ (n : String) (more : List Char), ∃ tail, (quote n).toList ++ more = '"' :: tail :=
    fun n more => (string?_quote n more).imp fun _ h => h.1
  cases fields with
  | nil => exact absurd rfl hne
  | cons f fields =>
    cases fields with
    | nil =>
      rw [toList_writeFields_singleton, List.append_assoc]
      exact hquote _ _
    | cons g fields =>
      rw [toList_writeFields_cons, List.append_assoc]
      exact hquote _ _

theorem readsBack_arr {depth : ℕ} {items : List Json}
    (h : ∀ v ∈ items, Readable depth v ∧ ReadsBack depth v) :
    ReadsBack (depth + 1) (.arr items) := by
  intro fuel rest hfuel _
  have htext : (write (.arr items)).toList = '[' :: ((writeItems items).toList ++ [']']) := by
    rw [write, String.toList_append, String.toList_append]
    rfl
  have hlength := congrArg List.length htext
  rw [List.length_cons, List.length_append, String.length_toList, String.length_toList,
    List.length_singleton] at hlength
  obtain ⟨fuel, rfl⟩ := Nat.exists_eq_succ_of_ne_zero (show fuel ≠ 0 by omega)
  rw [htext, List.cons_append, List.append_assoc, List.singleton_append, value?,
    skipBlanks_of_not_blank rfl]
  simp only
  by_cases hne : items = []
  · subst hne
    exact ⟨.arr [], rfl, rfl⟩
  · obtain ⟨c, tail, hhead, hblank, hend⟩ :=
      head_writeItems hne (fun v hv => (h v hv).1) (']' :: rest)
    obtain ⟨ds, hds, hvalues⟩ := items?_write hne h rest
      (show 2 * (writeItems items).length + 1 ≤ fuel by omega)
    rw [hhead] at hds ⊢
    refine ⟨.arr ds, ?_, ?_⟩
    · rw [skipBlanks_of_not_blank hblank]
      -- The first character tells the items from the end of an empty list.
      split
      · rename_i heq
        cases heq
        exact absurd rfl hend
      · rw [hds]
        rfl
    · simp [Document.value?, hvalues]

theorem readsBack_obj {depth : ℕ} {fields : List (String × Json)} (hordered : Ordered fields)
    (h : ∀ f ∈ fields, ReadsBack depth f.2) : ReadsBack (depth + 1) (.obj fields) := by
  intro fuel rest hfuel _
  have htext : (write (.obj fields)).toList =
      '\x7b' :: ((writeFields fields).toList ++ ['\x7d']) := by
    rw [write, String.toList_append, String.toList_append]
    rfl
  have hlength := congrArg List.length htext
  rw [List.length_cons, List.length_append, String.length_toList, String.length_toList,
    List.length_singleton] at hlength
  obtain ⟨fuel, rfl⟩ := Nat.exists_eq_succ_of_ne_zero (show fuel ≠ 0 by omega)
  rw [htext, List.cons_append, List.append_assoc, List.singleton_append, value?,
    skipBlanks_of_not_blank rfl]
  simp only
  by_cases hne : fields = []
  · subst hne
    exact ⟨.obj [], rfl, rfl⟩
  · obtain ⟨tail, hhead⟩ := head_writeFields hne ('\x7d' :: rest)
    obtain ⟨ds, hds, hvalues⟩ := fields?_write hne h rest
      (show 2 * (writeFields fields).length + 1 ≤ fuel by omega)
    rw [hhead] at hds ⊢
    refine ⟨.obj ds, ?_, ?_⟩
    · rw [skipBlanks_of_not_blank rfl]
      show (fields? fuel ('"' :: tail)).map _ = _
      rw [hds]
      rfl
    · simp [Document.value?, hvalues, hordered.ofFields_eq]

theorem Readable.readsBack {depth : ℕ} {v : Json} (h : Readable depth v) : ReadsBack depth v := by
  induction h with
  | null =>
    intro fuel rest hfuel _
    obtain ⟨fuel, rfl⟩ := Nat.exists_eq_add_of_le' (fuel_pos .null hfuel)
    exact ⟨.null, rfl, rfl⟩
  | bool b =>
    intro fuel rest hfuel _
    obtain ⟨fuel, rfl⟩ := Nat.exists_eq_add_of_le' (fuel_pos (.bool b) hfuel)
    cases b <;> exact ⟨.bool _, rfl, rfl⟩
  | @int depth n hn =>
    intro fuel rest hfuel hrest
    obtain ⟨fuel, rfl⟩ := Nat.exists_eq_add_of_le' (fuel_pos (.int hn) hfuel)
    exact ⟨.num _, value?_of_numeral hrest (numeral?_toString n) fuel, value?_toString hn⟩
  | @real depth x hx =>
    intro fuel rest hfuel hrest
    obtain ⟨fuel, rfl⟩ := Nat.exists_eq_add_of_le' (fuel_pos (.real hx) hfuel)
    obtain ⟨n, hnumeral, hvalue⟩ := hx
    exact ⟨.num n, value?_of_numeral hrest hnumeral fuel, hvalue⟩
  | @str depth s =>
    intro fuel rest hfuel _
    obtain ⟨fuel, rfl⟩ := Nat.exists_eq_add_of_le' (fuel_pos (.str s) hfuel)
    obtain ⟨r, htext, hstring⟩ := string?_quote s rest
    refine ⟨.str (some s), ?_, rfl⟩
    show value? (fuel + 1) ((quote s).toList ++ rest) = _
    rw [htext, value?, skipBlanks_of_not_blank rfl]
    simp only [hstring]
    rfl
  | arr h ih => exact readsBack_arr fun v hv => ⟨h v hv, ih v hv⟩
  | obj hordered h ih => exact readsBack_obj hordered ih

/-- A value is read as it is written. -/
theorem Readable.readChars?_write {v : Json} (h : Readable nestingLimit v) :
    readChars? (write v).toList = some v := by
  have hlength : (write v).toList.length = (write v).length := String.length_toList
  obtain ⟨d, hd, hvalue⟩ := h.readsBack (2 * (write v).toList.length + 2) [] (by omega) ends_nil
  rw [List.append_nil] at hd
  have hread : Document.read? (write v).toList = some d := by
    unfold Document.read?
    rw [hd]
    rfl
  rw [readChars?, hread]
  exact hvalue

theorem Readable.readBytes?_encode {v : Json} (h : Readable nestingLimit v) :
    readBytes? (Utf8.encode (write v)) = some v := by
  rw [readBytes?, Utf8.encode, Utf8.decodeChars_encodeChars]
  exact h.readChars?_write

/-- An object that is made of fields is read as it is written if their values are. -/
theorem Readable.ofFields {depth : ℕ} {fields : List (String × Json)}
    (h : ∀ f ∈ fields, Readable depth f.2) : Readable (depth + 1) (ofFields fields) := by
  refine .obj (ordered_foldl fields) ?_
  induction fields using List.reverseRecOn with
  | nil => exact fun f hf => absurd hf List.not_mem_nil
  | append_singleton fields f ih =>
    rw [List.foldl_concat]
    intro g hg
    rcases mem_insertField hg with rfl | hg
    · exact h f (by simp)
    · exact ih (fun f hf => h f (List.mem_append_left _ hf)) g hg

end Gateway.Json
