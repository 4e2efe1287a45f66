import Gateway.Proofs.Body.Reading
import Mathlib.Data.List.Induction

/-!
# The pieces of a body

Without a deadline it is the pieces of a body that decide what a reader makes of it, and not
when they come: all of the body, or whatever comes first of too many octets, a fault and a
piece that never comes. What the reader has taken is gone and all else is left.
-/

namespace Gateway

namespace Delivery

/-- A sender that has broken off sends nothing more. -/
def untilFault : List BodyPiece → List BodyPiece
  | [] => []
  | .fault f :: _ => [.fault f]
  | p :: ps => p :: untilFault ps

/-- The pieces that a body still brings, one after another. -/
def pieces : Delivery → List BodyPiece
  | .whole b => if b.isEmpty then [] else [.data b]
  | .sent steps _ _ _ _ => untilFault (steps.map (·.piece))
  | .asked steps _ => steps.map (·.piece)

variable {d : Delivery} {chunks : List Bytes} {ps : List BodyPiece}

/-- What arrives is the first of the pieces, and the others are left. -/
theorem next?_of_pieces (d : Delivery) (now : Nat) :
    match d.pieces with
    | [] => ∃ t d', d.next? now = some (t, .finished, d') ∧ d'.pieces = []
    | .data b :: ps => ∃ t d', d.next? now = some (t, .chunk b, d') ∧ d'.pieces = ps
    | .fault f :: ps => ∃ t d', d.next? now = some (t, .fault f, d') ∧ d'.pieces = ps
    | .stall :: _ => d.next? now = none := by
  cases d with
  | whole b =>
      by_cases hb : b.isEmpty
      · simp only [pieces, next?, if_pos hb]
        exact ⟨_, _, rfl, rfl⟩
      · simp only [pieces, next?, if_neg hb]
        exact ⟨_, _, rfl, rfl⟩
  | sent steps accepted taken declared honoured =>
      rcases steps with _ | ⟨⟨delay, piece⟩, steps⟩
      · exact ⟨_, _, rfl, rfl⟩
      · cases piece with
        | data b => exact ⟨_, _, rfl, rfl⟩
        | fault f => exact ⟨_, _, rfl, rfl⟩
        | stall => rfl
  | asked steps since =>
      rcases steps with _ | ⟨⟨delay, piece⟩, steps⟩
      · exact ⟨_, _, rfl, rfl⟩
      · cases piece with
        | data b => exact ⟨_, _, rfl, rfl⟩
        | fault f => exact ⟨_, _, rfl, rfl⟩
        | stall => rfl

theorem exists_next_chunk {b : Bytes} (h : d.pieces = .data b :: ps) (now : Nat) :
    ∃ t d', d.next? now = some (t, .chunk b, d') ∧ d'.pieces = ps := by
  have hnext := d.next?_of_pieces now
  rwa [h] at hnext

theorem exists_next_fault {f : BodyFault} (h : d.pieces = .fault f :: ps) (now : Nat) :
    ∃ t d', d.next? now = some (t, .fault f, d') ∧ d'.pieces = ps := by
  have hnext := d.next?_of_pieces now
  rwa [h] at hnext

theorem exists_next_finished (h : d.pieces = []) (now : Nat) :
    ∃ t d', d.next? now = some (t, .finished, d') ∧ d'.pieces = [] := by
  have hnext := d.next?_of_pieces now
  rwa [h] at hnext

theorem next?_of_stall (h : d.pieces = .stall :: ps) (now : Nat) : d.next? now = none := by
  have hnext := d.next?_of_pieces now
  rwa [h] at hnext

/-- A reader can take all chunks up to the first piece that is none. -/
theorem exists_brings (h : d.pieces = chunks.map .data ++ ps) (now : Nat) :
    ∃ t d', d.Brings now chunks.flatten t d' ∧ d'.pieces = ps := by
  induction chunks using List.reverseRecOn generalizing ps with
  | nil => exact ⟨now, d, .nothing, h⟩
  | append_singleton chunks b ih =>
      rw [List.map_append, List.append_assoc] at h
      obtain ⟨t, d', hbrings, hpieces⟩ := ih h
      obtain ⟨t', d'', hnext, hrest⟩ := exists_next_chunk hpieces t
      refine ⟨t', d'', ?_, hrest⟩
      rw [List.flatten_append, List.flatten_singleton]
      exact .chunk hbrings hnext

theorem length_of_honour {steps : List BodyStep} {n : Nat} (h : BodyStep.Honour n steps)
    (hpieces : untilFault (steps.map (·.piece)) = chunks.map .data) : chunks.flatten.length = n := by
  induction steps generalizing n chunks with
  | nil =>
      obtain rfl := List.map_eq_nil_iff.mp hpieces.symm
      exact h.symm
  | cons step steps ih =>
      obtain ⟨delay, piece⟩ := step
      cases chunks with
      | nil => cases piece <;> cases hpieces
      | cons b chunks =>
          obtain ⟨hb, hrest⟩ : piece = .data b ∧ untilFault (steps.map (·.piece)) = chunks.map .data := by
            cases piece with
            | data b' => exact List.cons.inj hpieces
            | fault f => cases (List.cons.inj hpieces).1
            | stall => cases (List.cons.inj hpieces).1
          subst hb
          rw [List.flatten_cons, List.length_append, ih h.2 hrest]
          exact Nat.add_sub_of_le h.1

/-- A body that ends has brought what was declared for it. -/
theorem length_of_declared {n : Nat} (h : d.declared? = some n)
    (hpieces : d.pieces = chunks.map .data) : chunks.flatten.length = n := by
  cases d with
  | whole b =>
      obtain rfl : b.length = n := Option.some.inj h
      by_cases hb : b.isEmpty
      · rw [pieces, if_pos hb] at hpieces
        obtain rfl := List.map_eq_nil_iff.mp hpieces.symm
        rw [List.isEmpty_iff.mp hb]
        rfl
      · rw [pieces, if_neg hb] at hpieces
        obtain ⟨b', hchunks, hb'⟩ := List.map_eq_singleton_iff.mp hpieces.symm
        rw [hchunks, List.flatten_singleton, BodyPiece.data.inj hb']
  | sent steps accepted taken declared honoured => exact length_of_honour (honoured n h) hpieces
  | asked steps since => cases h

/-- What is declared for a body comes, if anything is declared. -/
def AsDeclared (d : Delivery) : Prop :=
  d.declared? = none ∨ ∃ chunks : List Bytes, d.pieces = chunks.map .data

/-- So it is with all bodies that are there as a whole. -/
example (b : Bytes) : AsDeclared (.whole b) := by
  unfold AsDeclared pieces
  by_cases hb : b.isEmpty
  · exact .inr ⟨[], if_pos hb⟩
  · exact .inr ⟨[b], if_neg hb⟩

end Delivery

/-! ## What a reader makes of the pieces -/

theorem BodyReadError.ofFault_ne_tooLarge (f : BodyFault) (limit : Nat) :
    ofFault f ≠ .tooLarge limit := by
  unfold ofFault
  split <;> exact nofun

/-- Chunks at the beginning of pieces are among the chunks before the first piece that is none. -/
theorem chunks_isPrefix {chunks chunks' : List Bytes} {ps ps' : List BodyPiece}
    (h : chunks.map BodyPiece.data ++ ps = chunks'.map .data ++ ps')
    (hend : ∀ b rest, ps' ≠ .data b :: rest) : chunks <+: chunks' := by
  induction chunks generalizing chunks' with
  | nil => exact List.nil_prefix
  | cons b chunks ih =>
      cases chunks' with
      | nil => exact absurd h.symm (hend b _)
      | cons b' chunks' =>
          obtain ⟨hb, hrest⟩ := List.cons.inj h
          rw [BodyPiece.data.inj hb]
          exact (List.prefix_cons_inj b').mpr (ih hrest)

namespace BodyLimits

variable {l : BodyLimits} {now t : Nat} {d d' : Delivery} {ps rest : List BodyPiece}
  {chunks : List Bytes}

/-- The same limits without a deadline. -/
def unhurried (l : BodyLimits) : BodyLimits := { l with timeout := none }

/-- A reader fails at a piece that comes behind `n` octets. -/
inductive FailsAt (l : BodyLimits) (n : Nat) : BodyPiece → BodyReadError → Prop
  | grown {b limit} : l.maxBytes = some limit → limit < n + b.length →
      FailsAt l n (.data b) (.tooLarge limit)
  | fault {f} : FailsAt l n (.fault f) (.ofFault f)

theorem FailsAt.of_unhurried {n : Nat} {last : BodyPiece} {e : BodyReadError}
    (h : l.unhurried.FailsAt n last e) : l.FailsAt n last e := by
  cases h with
  | grown hlimit hlt => exact .grown hlimit hlt
  | fault => exact .fault

/-- What a reader without a deadline makes of some pieces, and those behind the last one that
it takes. -/
inductive Ends (l : BodyLimits) (ps : List BodyPiece) :
    Option (Except BodyReadError Bytes) → List BodyPiece → Prop
  | whole {chunks : List Bytes} : ps = chunks.map .data → l.Fits chunks.flatten.length →
      Ends l ps (some (.ok chunks.flatten)) []
  | failed {chunks : List Bytes} {last : BodyPiece} {rest : List BodyPiece} {e : BodyReadError} :
      ps = chunks.map .data ++ last :: rest →
      l.Fits chunks.flatten.length → l.FailsAt chunks.flatten.length last e →
      Ends l ps (some (.error e)) rest
  | stalled {chunks : List Bytes} {rest : List BodyPiece} : ps = chunks.map .data ++ .stall :: rest →
      l.Fits chunks.flatten.length → Ends l ps none (.stall :: rest)

theorem not_fits_iff {n : Nat} : ¬ l.Fits n ↔ ∃ limit, l.maxBytes = some limit ∧ limit < n := by
  rw [← exceeds_eq_none, ← ne_eq, Option.ne_none_iff_exists']
  exact exists_congr fun limit => exceeds_eq_some

theorem exists_ends_append (ps : List BodyPiece) (chunks : List Bytes)
    (hfits : l.Fits chunks.flatten.length) :
    ∃ result rest, l.Ends (chunks.map .data ++ ps) result rest := by
  induction ps generalizing chunks with
  | nil => exact ⟨_, _, .whole (List.append_nil _) hfits⟩
  | cons p ps ih =>
      cases p with
      | fault f => exact ⟨_, _, .failed rfl hfits .fault⟩
      | stall => exact ⟨_, _, .stalled rfl hfits⟩
      | data b =>
          by_cases hmore : l.Fits (chunks.flatten.length + b.length)
          · have hlength : (chunks ++ [b]).flatten.length = chunks.flatten.length + b.length := by
              rw [List.flatten_append, List.flatten_singleton, List.length_append]
            obtain ⟨result, rest, hends⟩ := ih (chunks ++ [b]) (hlength ▸ hmore)
            rw [List.map_append, List.append_assoc] at hends
            exact ⟨result, rest, hends⟩
          · obtain ⟨limit, hlimit, hlt⟩ := not_fits_iff.mp hmore
            exact ⟨_, _, .failed rfl hfits (.grown hlimit hlt)⟩

/-- It comes to something, whatever the pieces are. -/
theorem exists_ends (l : BodyLimits) (ps : List BodyPiece) : ∃ result rest, l.Ends ps result rest :=
  exists_ends_append ps [] fun _ _ => Nat.zero_le _

/-- Without a deadline, everything comes in time. -/
theorem inTime_of_timeout (htimeout : l.timeout = none) (now t : Nat) : l.InTime now t := by
  intro limit hlimit
  rw [htimeout] at hlimit
  cases hlimit

theorem exists_takes (htimeout : l.timeout = none) (hpieces : d.pieces = chunks.map .data ++ ps)
    (hfits : l.Fits chunks.flatten.length) (now : Nat) :
    ∃ t d', l.Takes now d chunks.flatten t d' ∧ d'.pieces = ps := by
  obtain ⟨t, d', hbrings, hrest⟩ := Delivery.exists_brings hpieces now
  exact ⟨t, d', ⟨hbrings, inTime_of_timeout htimeout now t, hfits⟩, hrest⟩

/-- A reader that counts ends in the way that the pieces say, and leaves what is behind them. -/
theorem Ends.collects (htimeout : l.timeout = none) {result : Except BodyReadError Bytes}
    (hends : l.Ends d.pieces (some result) rest) (now : Nat) :
    ∃ t d', l.Collects now d t result d' ∧ d'.pieces = rest := by
  have htime := inTime_of_timeout htimeout now
  cases hends with
  | whole hpieces hfits =>
      rw [← List.append_nil (List.map _ _)] at hpieces
      obtain ⟨t, d', htakes, hrest⟩ := exists_takes htimeout hpieces hfits now
      obtain ⟨t', d'', hnext, hrest'⟩ := Delivery.exists_next_finished hrest t
      have hall := htakes.brings.eq_octets hnext
      rw [hall] at htakes ⊢
      exact ⟨t', d'', .whole htakes hnext (htime t'), hrest'⟩
  | failed hpieces hfits hfails =>
      obtain ⟨t, d', htakes, hrest⟩ := exists_takes htimeout hpieces hfits now
      cases hfails with
      | grown hlimit hlt =>
          obtain ⟨t', d'', hnext, hrest'⟩ := Delivery.exists_next_chunk hrest t
          exact ⟨t', d'', .grown htakes hnext (htime t') hlimit hlt, hrest'⟩
      | fault =>
          rename_i f
          obtain ⟨t', d'', hnext, hrest'⟩ := Delivery.exists_next_fault hrest t
          refine ⟨t', d'', ?_, hrest'⟩
          unfold BodyReadError.ofFault
          by_cases hf : f.isTimeout = true
          · rw [if_pos hf]
            exact .timedOut htakes hnext (htime t') hf
          · rw [if_neg hf]
            exact .failed htakes hnext (htime t') (Bool.eq_false_iff.mpr hf)

/-- A reader that waits for a piece that never comes has no end. -/
theorem Ends.hangs (htimeout : l.timeout = none) (hends : l.Ends d.pieces none rest) (now : Nat) :
    l.collect (l.deadline now) now [] d = none := by
  cases hends with
  | stalled hpieces hfits =>
      obtain ⟨t, d', htakes, hrest⟩ := exists_takes htimeout hpieces hfits now
      have hlate : ∀ t' a d'', d'.next? t = some (t', a, d'') → ¬ l.InTime now t' := by
        intro t' a d'' hnext
        rw [Delivery.next?_of_stall hrest t] at hnext
        cases hnext
      rw [htakes.collect_eq, collect_of_late _ hlate, htimeout]
      rfl

/-- Without a deadline, the pieces decide what counting comes to. -/
theorem Ends.result_eq (htimeout : l.timeout = none)
    {result : Option (Except BodyReadError Bytes)} (hends : l.Ends d.pieces result rest)
    (now : Nat) : (l.collect (l.deadline now) now [] d).map (·.result) = result := by
  cases result with
  | none =>
      rw [hends.hangs htimeout now]
      rfl
  | some result =>
      obtain ⟨t, d', hcollects, -⟩ := hends.collects htimeout now
      rw [collect_iff.mpr hcollects]
      rfl

theorem exists_ends_of_collect (htimeout : l.timeout = none) {result : Except BodyReadError Bytes}
    {left : Delivery} (hcollect : l.collect (l.deadline now) now [] d = some ⟨t, result, left⟩) :
    ∃ rest, l.Ends d.pieces (some result) rest ∧ left.pieces = rest := by
  obtain ⟨result', rest, hends⟩ := exists_ends l d.pieces
  have hresult := hends.result_eq htimeout now
  rw [hcollect] at hresult
  obtain rfl : some result = result' := hresult
  obtain ⟨t', d', hcollects, hleft⟩ := hends.collects htimeout now
  have hsame := hcollect.symm.trans (collect_iff.mpr hcollects)
  obtain rfl : left = d' := congrArg Reading.rest (Option.some.inj hsame)
  exact ⟨rest, hends, hleft⟩

theorem Ends.exists_collect (htimeout : l.timeout = none) {result : Except BodyReadError Bytes}
    (hends : l.Ends d.pieces (some result) rest) (now : Nat) :
    ∃ t left, l.collect (l.deadline now) now [] d = some ⟨t, result, left⟩ := by
  obtain ⟨t, d', hcollects, -⟩ := hends.collects htimeout now
  exact ⟨t, d', collect_iff.mpr hcollects⟩

/-! ## What counting comes to -/

theorem collect_ok_iff (htimeout : l.timeout = none) (b : Bytes) :
    (∃ t left, l.collect (l.deadline now) now [] d = some ⟨t, .ok b, left⟩) ↔
      ∃ chunks : List Bytes, d.pieces = chunks.map .data ∧ b = chunks.flatten ∧ l.Fits b.length := by
  constructor
  · rintro ⟨t, left, hcollect⟩
    obtain ⟨rest, hends, -⟩ := exists_ends_of_collect htimeout hcollect
    cases hends with
    | whole hpieces hfits => exact ⟨_, hpieces, rfl, hfits⟩
  · rintro ⟨chunks, hpieces, rfl, hfits⟩
    exact Ends.exists_collect htimeout (.whole hpieces hfits) now

theorem collect_tooLarge_iff (htimeout : l.timeout = none) (limit : Nat) :
    (∃ t left, l.collect (l.deadline now) now [] d = some ⟨t, .error (.tooLarge limit), left⟩) ↔
      l.maxBytes = some limit ∧ ∃ (chunks : List Bytes) (ps : List BodyPiece),
        d.pieces = chunks.map .data ++ ps ∧ limit < chunks.flatten.length := by
  constructor
  · rintro ⟨t, left, hcollect⟩
    obtain ⟨rest, hends, -⟩ := exists_ends_of_collect htimeout hcollect
    generalize hresult : BodyReadError.tooLarge limit = e at hends
    cases hends with
    | failed hpieces hfits hfails =>
        rename_i chunks last
        cases hfails with
        | grown hlimit hlt =>
            rename_i b limit'
            obtain rfl := BodyReadError.tooLarge.inj hresult
            refine ⟨hlimit, chunks ++ [b], rest, ?_, ?_⟩
            · rw [hpieces, List.map_append, List.append_assoc]
              rfl
            · rwa [List.flatten_append, List.flatten_singleton, List.length_append]
        | fault => exact absurd hresult.symm (BodyReadError.ofFault_ne_tooLarge _ limit)
  · rintro ⟨hlimit, chunks, ps, hpieces, hlt⟩
    -- Whatever else could end the reading comes too late.
    have hover : ∀ {all : List Bytes} {ps' : List BodyPiece}, d.pieces = all.map .data ++ ps' →
        (∀ b rest, ps' ≠ .data b :: rest) → ¬ l.Fits all.flatten.length := by
      intro all ps' hall hend hfits
      obtain ⟨more, rfl⟩ := chunks_isPrefix (hpieces.symm.trans hall) hend
      have hle := hfits limit hlimit
      rw [List.flatten_append, List.length_append] at hle
      omega
    obtain ⟨result, rest, hends⟩ := exists_ends l d.pieces
    have hresult : result = some (.error (.tooLarge limit)) := by
      cases hends with
      | whole hall hfits =>
          rw [← List.append_nil (List.map _ _)] at hall
          exact absurd hfits (hover hall (fun _ _ h => by cases h))
      | failed hall hfits hfails =>
          cases hfails with
          | grown hlimit' _ => rw [Option.some.inj (hlimit.symm.trans hlimit')]
          | fault => exact absurd hfits (hover hall (fun _ _ h => by cases h))
      | stalled hall hfits => exact absurd hfits (hover hall (fun _ _ h => by cases h))
    rw [hresult] at hends
    exact hends.exists_collect htimeout now

theorem collect_fault_iff (htimeout : l.timeout = none) {e : BodyReadError}
    (he : ∀ limit, e ≠ .tooLarge limit) :
    (∃ t left, l.collect (l.deadline now) now [] d = some ⟨t, .error e, left⟩) ↔
      ∃ (chunks : List Bytes) (f : BodyFault) (ps : List BodyPiece),
        d.pieces = chunks.map .data ++ .fault f :: ps ∧ l.Fits chunks.flatten.length ∧
          e = .ofFault f := by
  constructor
  · rintro ⟨t, left, hcollect⟩
    obtain ⟨rest, hends, -⟩ := exists_ends_of_collect htimeout hcollect
    cases hends with
    | failed hpieces hfits hfails =>
        cases hfails with
        | grown _ _ => exact absurd rfl (he _)
        | fault => exact ⟨_, _, rest, hpieces, hfits, rfl⟩
  · rintro ⟨chunks, f, ps, hpieces, hfits, rfl⟩
    exact Ends.exists_collect htimeout (.failed hpieces hfits .fault) now

theorem collect_eq_none_iff (htimeout : l.timeout = none) :
    l.collect (l.deadline now) now [] d = none ↔ ∃ (chunks : List Bytes) (ps : List BodyPiece),
      d.pieces = chunks.map .data ++ .stall :: ps ∧ l.Fits chunks.flatten.length := by
  constructor
  · intro hcollect
    obtain ⟨result, rest, hends⟩ := exists_ends l d.pieces
    have hresult := hends.result_eq htimeout now
    rw [hcollect] at hresult
    obtain rfl : none = result := hresult
    cases hends with
    | stalled hpieces hfits => exact ⟨_, _, hpieces, hfits⟩
  · rintro ⟨chunks, ps, hpieces, hfits⟩
    exact Ends.hangs htimeout (.stalled hpieces hfits) now

/-! ## Verdicts -/

/-- A body that is refused does not end within the limit. -/
theorem Refuses.not_fits (h : l.Refuses d) (hpieces : d.pieces = chunks.map .data) :
    ¬ l.Fits chunks.flatten.length := by
  obtain ⟨n, limit, hn, hlimit, hlt⟩ := h
  rw [Delivery.length_of_declared hn hpieces]
  exact not_fits_iff.mpr ⟨limit, hlimit, hlt⟩

/-- Whoever refuses a body says nothing but that it is too long. -/
theorem Refuses.not_read (h : l.Refuses d) {result : Except BodyReadError Bytes}
    (hresult : ∀ limit, result ≠ .error (.tooLarge limit)) :
    ¬ ∃ t left, l.read now d = some ⟨t, result, left⟩ := by
  rintro ⟨t, left, hread⟩
  obtain ⟨n, limit, hn, hlimit, hlt⟩ := h
  cases (read_of_refused hn hlimit hlt).symm.trans hread
  exact hresult limit rfl

theorem read_ok_iff (htimeout : l.timeout = none) (b : Bytes) :
    (∃ t left, l.read now d = some ⟨t, .ok b, left⟩) ↔
      ∃ chunks : List Bytes, d.pieces = chunks.map .data ∧ b = chunks.flatten ∧ l.Fits b.length := by
  by_cases hrefused : l.Refuses d
  · refine iff_of_false (hrefused.not_read (fun _ heq => by cases heq)) ?_
    rintro ⟨chunks, hpieces, rfl, hfits⟩
    exact hrefused.not_fits hpieces hfits
  · rw [read_of_not_refused hrefused]
    exact collect_ok_iff htimeout b

theorem read_tooLarge_iff (htimeout : l.timeout = none) (limit : Nat) :
    (∃ t left, l.read now d = some ⟨t, .error (.tooLarge limit), left⟩) ↔
      l.maxBytes = some limit ∧ ((∃ n, d.declared? = some n ∧ limit < n) ∨
        ∃ (chunks : List Bytes) (ps : List BodyPiece),
          d.pieces = chunks.map .data ++ ps ∧ limit < chunks.flatten.length) := by
  by_cases hrefused : l.Refuses d
  · obtain ⟨n, limit', hn, hlimit', hlt⟩ := hrefused
    rw [read_of_refused hn hlimit' hlt]
    constructor
    · rintro ⟨t, left, heq⟩
      cases heq
      exact ⟨hlimit', Or.inl ⟨n, hn, hlt⟩⟩
    · rintro ⟨hlimit, -⟩
      obtain rfl := Option.some.inj (hlimit.symm.trans hlimit')
      exact ⟨_, _, rfl⟩
  · rw [read_of_not_refused hrefused, collect_tooLarge_iff htimeout limit]
    refine and_congr_right fun hlimit => (or_iff_right ?_).symm
    rintro ⟨n, hn, hlt⟩
    exact hrefused ⟨n, limit, hn, hlimit, hlt⟩

/-- Where all comes that is declared, it is enough to look at what comes. -/
theorem read_tooLarge_iff_of_asDeclared (htimeout : l.timeout = none) (h : d.AsDeclared)
    (limit : Nat) :
    (∃ t left, l.read now d = some ⟨t, .error (.tooLarge limit), left⟩) ↔
      l.maxBytes = some limit ∧ ∃ (chunks : List Bytes) (ps : List BodyPiece),
        d.pieces = chunks.map .data ++ ps ∧ limit < chunks.flatten.length := by
  rw [read_tooLarge_iff htimeout limit]
  refine and_congr_right fun _ => or_iff_right_of_imp ?_
  rintro ⟨n, hn, hlt⟩
  rcases h with hnone | ⟨chunks, hpieces⟩
  · cases hnone.symm.trans hn
  · refine ⟨chunks, [], hpieces.trans (List.append_nil _).symm, ?_⟩
    rw [Delivery.length_of_declared hn hpieces]
    exact hlt

theorem read_fault_iff (htimeout : l.timeout = none) {e : BodyReadError}
    (he : ∀ limit, e ≠ .tooLarge limit) :
    (∃ t left, l.read now d = some ⟨t, .error e, left⟩) ↔
      ¬ l.Refuses d ∧ ∃ (chunks : List Bytes) (f : BodyFault) (ps : List BodyPiece),
        d.pieces = chunks.map .data ++ .fault f :: ps ∧ l.Fits chunks.flatten.length ∧
          e = .ofFault f := by
  by_cases hrefused : l.Refuses d
  · refine iff_of_false (hrefused.not_read fun limit heq => ?_) fun h => h.1 hrefused
    exact he limit (Except.error.inj heq)
  · rw [read_of_not_refused hrefused, collect_fault_iff htimeout he]
    exact (and_iff_right hrefused).symm

theorem read_eq_none_iff (htimeout : l.timeout = none) :
    l.read now d = none ↔
      ¬ l.Refuses d ∧ ∃ (chunks : List Bytes) (ps : List BodyPiece),
        d.pieces = chunks.map .data ++ .stall :: ps ∧ l.Fits chunks.flatten.length := by
  by_cases hrefused : l.Refuses d
  · refine iff_of_false (fun hread => ?_) fun h => h.1 hrefused
    obtain ⟨n, limit, hn, hlimit, hlt⟩ := hrefused
    cases (read_of_refused hn hlimit hlt).symm.trans hread
  · rw [read_of_not_refused hrefused, collect_eq_none_iff htimeout]
    exact (and_iff_right hrefused).symm

theorem left_of_read (htimeout : l.timeout = none) {e : BodyReadError} {left : Delivery}
    (hread : l.read now d = some ⟨t, .error e, left⟩) :
    l.Refuses d ∧ left = d ∨
    ¬ l.Refuses d ∧ ∃ (chunks : List Bytes) (last : BodyPiece),
      d.pieces = chunks.map .data ++ last :: left.pieces ∧ l.Fits chunks.flatten.length ∧
        l.FailsAt chunks.flatten.length last e := by
  by_cases hrefused : l.Refuses d
  · obtain ⟨n, limit, hn, hlimit, hlt⟩ := id hrefused
    cases (read_of_refused hn hlimit hlt).symm.trans hread
    exact Or.inl ⟨hrefused, rfl⟩
  · rw [read_of_not_refused hrefused] at hread
    obtain ⟨rest, hends, rfl⟩ := exists_ends_of_collect htimeout hread
    refine Or.inr ⟨hrefused, ?_⟩
    cases hends with
    | failed hpieces hfits hfails => exact ⟨_, _, hpieces, hfits, hfails⟩

/-! ## To look first, or to count -/

/-- The body breaks off or stalls before it has become too long. -/
def BreaksOff (l : BodyLimits) (d : Delivery) : Prop :=
  ∃ (chunks : List Bytes) (last : BodyPiece) (rest : List BodyPiece),
    d.pieces = chunks.map .data ++ last :: rest ∧ (∀ b, last ≠ .data b) ∧
      l.Fits chunks.flatten.length

/-- Whoever counts is not told then that it is too long. -/
theorem BreaksOff.result_ne (htimeout : l.timeout = none) (h : l.BreaksOff d) (limit now : Nat) :
    (l.collect (l.deadline now) now [] d).map (·.result) ≠ some (.error (.tooLarge limit)) := by
  obtain ⟨chunks, last, rest, hpieces, hlast, hfits⟩ := h
  cases last with
  | data b => exact absurd rfl (hlast b)
  | fault f =>
      rw [Ends.result_eq htimeout (.failed hpieces hfits .fault)]
      intro heq
      exact BodyReadError.ofFault_ne_tooLarge f limit (Except.error.inj (Option.some.inj heq))
  | stall =>
      rw [Ends.result_eq htimeout (.stalled hpieces hfits)]
      exact nofun

/-- A body that breaks off has not brought what was declared. -/
theorem BreaksOff.not_asDeclared (h : l.BreaksOff d) (hrefused : l.Refuses d) :
    ¬ d.AsDeclared := by
  obtain ⟨n, -, hn, -⟩ := hrefused
  obtain ⟨chunks, last, rest, hpieces, hlast, -⟩ := h
  rintro (hnone | ⟨chunks', hchunks⟩)
  · cases hnone.symm.trans hn
  · have hmem : last ∈ chunks'.map BodyPiece.data := hchunks ▸ hpieces ▸ by simp
    obtain ⟨b, -, rfl⟩ := List.mem_map.mp hmem
    exact hlast b rfl

/-- Whoever counts finds a refused body too long as well, unless it breaks off or stalls. -/
theorem Refuses.result_eq (htimeout : l.timeout = none) (h : l.Refuses d) (hbreaks : ¬ l.BreaksOff d)
    {limit : Nat} (hlimit : l.maxBytes = some limit) (now : Nat) :
    (l.collect (l.deadline now) now [] d).map (·.result) = some (.error (.tooLarge limit)) := by
  obtain ⟨result, rest, hends⟩ := exists_ends l d.pieces
  rw [hends.result_eq htimeout]
  cases hends with
  | whole hpieces hfits => exact absurd hfits (h.not_fits hpieces)
  | failed hpieces hfits hfails =>
      cases hfails with
      | grown hlimit' _ => rw [Option.some.inj (hlimit.symm.trans hlimit')]
      | fault => exact absurd ⟨_, _, _, hpieces, nofun, hfits⟩ hbreaks
  | stalled hpieces hfits => exact absurd ⟨_, _, _, hpieces, nofun, hfits⟩ hbreaks

theorem read_eq_collect_iff (htimeout : l.timeout = none) (now : Nat) (d : Delivery) :
    (l.read now d).map (·.result) = (l.collect (l.deadline now) now [] d).map (·.result) ↔
      ¬ (l.Refuses d ∧ l.BreaksOff d) := by
  by_cases hrefused : l.Refuses d
  · obtain ⟨n, limit, hn, hlimit, hlt⟩ := id hrefused
    rw [read_of_refused hn hlimit hlt]
    constructor
    · rintro heq ⟨-, hbreaks⟩
      exact hbreaks.result_ne htimeout limit now heq.symm
    · intro hnot
      exact (hrefused.result_eq htimeout (fun hbreaks => hnot ⟨hrefused, hbreaks⟩) hlimit now).symm
  · rw [read_of_not_refused hrefused]
    exact iff_of_true rfl fun h => hrefused h.1

end BodyLimits

end Gateway
