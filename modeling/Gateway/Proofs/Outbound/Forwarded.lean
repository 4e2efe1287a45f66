import Gateway.Outbound
import Mathlib.Tactic

/-!
# What an endpoint learns of the client

Header fields are compared by the values of each name, in their order. A request that is
not trusted tells the endpoint nothing about where it came from: whatever it says under the
forwarded names, the endpoint is sent the same.
-/

namespace Gateway

namespace Headers

/-- The same values under each name, but for the names listed. -/
def SameBut (names : List FieldName) (h h' : Headers) : Prop :=
  ∀ n ∉ names, h.getAll n = h'.getAll n

/-- The same values under each name. -/
def Same (h h' : Headers) : Prop := ∀ n, h.getAll n = h'.getAll n

theorem contains_iff (h : Headers) (n : FieldName) : h.contains n = true ↔ h.getAll n ≠ [] := by
  simp [contains, getAll, List.filter_eq_nil_iff]

theorem Same.get? {h h' : Headers} (hs : h.Same h') (n : FieldName) : h.get? n = h'.get? n := by
  unfold Headers.get?
  rw [hs n]

theorem Same.contains {h h' : Headers} (hs : h.Same h') (n : FieldName) :
    h.contains n = h'.contains n := by
  rw [Bool.eq_iff_iff, contains_iff, contains_iff, hs n]

theorem Same.insert {h h' : Headers} (hs : h.Same h') (n : FieldName) (v : Bytes) :
    (h.insert n v).Same (h'.insert n v) := by
  intro m
  rw [getAll_insert, getAll_insert, hs m]

end Headers

namespace Outbound

/-! ## Fields that are taken away -/

@[simp] theorem getAll_eraseAll (names : List FieldName) (h : Headers) (n : FieldName) :
    (eraseAll names h).getAll n = if n ∈ names then [] else h.getAll n := by
  unfold eraseAll
  induction names generalizing h with
  | nil => simp
  | cons m names ih =>
    rw [List.foldl_cons, ih, Headers.getAll_erase]
    by_cases hnames : n ∈ names
    · simp [hnames]
    · by_cases hm : m = n
      · simp [hm]
      · simp [hnames, hm, Ne.symm hm]

/-- A field goes no further if it concerns the connection, by itself or because a connection
field names it, or if it counts the octets of the body. -/
theorem getAll_endToEnd (h : Headers) (n : FieldName) :
    (endToEnd h).getAll n =
      if n ∈ connectionNames h ∨ n ∈ hopByHop ∨ n = .contentLength then [] else h.getAll n := by
  unfold endToEnd
  rw [Headers.getAll_erase, getAll_eraseAll, getAll_eraseAll]
  by_cases hlength : n = .contentLength
  · simp [hlength]
  · by_cases hhop : n ∈ hopByHop
    · simp [hhop]
    · by_cases hnamed : n ∈ connectionNames h <;> simp [hnamed, hhop, hlength, Ne.symm hlength]

/-- Which fields concern the connection is read off the connection fields alone. -/
theorem connectionNames_eq {names : List FieldName} {h h' : Headers} (hs : h.SameBut names h')
    (hconnection : FieldName.connection ∉ names) : connectionNames h = connectionNames h' := by
  unfold connectionNames
  rw [hs _ hconnection]

theorem endToEnd_sameBut {names : List FieldName} {h h' : Headers} (hs : h.SameBut names h')
    (hconnection : FieldName.connection ∉ names) :
    (endToEnd h).SameBut names (endToEnd h') := by
  intro n hn
  rw [getAll_endToEnd, getAll_endToEnd, connectionNames_eq hs hconnection, hs n hn]

theorem eraseAll_same {names : List FieldName} {h h' : Headers} (hs : h.SameBut names h') :
    (eraseAll names h).Same (eraseAll names h') := by
  intro n
  rw [getAll_eraseAll, getAll_eraseAll]
  by_cases hn : n ∈ names
  · rw [if_pos hn, if_pos hn]
  · rw [if_neg hn, if_neg hn, hs n hn]

/-! ## Fields that tell where a request came from -/

theorem forwardedFor_eq {h h' : Headers} (hs : h.Same h') (ip : String) :
    forwardedFor h ip = forwardedFor h' ip := by
  unfold forwardedFor
  rw [hs.get?]

theorem addClient_same {r r' : Request} {h h' : Headers} (hpeer : r.peer = r'.peer)
    (hs : h.Same h') : (addClient r h).Same (addClient r' h') := by
  unfold addClient
  rw [hpeer]
  cases r'.peer with
  | none => exact hs
  | some a =>
    show (h.insert _ _).Same (h'.insert _ _)
    rw [forwardedFor_eq hs]
    exact hs.insert _ _

theorem addProto_same {r r' : Request} {h h' : Headers} (huri : r.uri = r'.uri)
    (hs : h.Same h') : (addProto r h).Same (addProto r' h') := by
  unfold addProto
  rw [huri, hs.contains]
  split
  · exact hs
  · exact hs.insert _ _

theorem addHost_same {r r' : Request} {h h' : Headers}
    (hhost : r.headers.get? .host = r'.headers.get? .host) (hs : h.Same h') :
    (addHost r h).Same (addHost r' h') := by
  unfold addHost
  rw [hhost, hs.contains]
  split
  · exact hs
  · cases r'.headers.get? .host with
    | none => exact hs
    | some v => exact hs.insert _ _

/-- The three steps leave the fields of the two others alone. -/
theorem getAll_addClient_of_ne (r : Request) (h : Headers) {n : FieldName}
    (hn : FieldName.forwardedFor ≠ n) : (addClient r h).getAll n = h.getAll n := by
  unfold addClient
  cases r.peer <;> simp [hn]

theorem getAll_addProto_of_ne (r : Request) (h : Headers) {n : FieldName}
    (hn : FieldName.forwardedProto ≠ n) : (addProto r h).getAll n = h.getAll n := by
  unfold addProto
  split <;> simp [hn]

theorem getAll_addHost_of_ne (r : Request) (h : Headers) {n : FieldName}
    (hn : FieldName.forwardedHost ≠ n) : (addHost r h).getAll n = h.getAll n := by
  unfold addHost
  split
  · rfl
  · cases r.headers.get? .host <;> simp [hn]

theorem forwardedFor_eraseAll (h : Headers) (ip : String) :
    forwardedFor (eraseAll forwardedNames h) ip = ip := by
  have hnone : (eraseAll forwardedNames h).get? .forwardedFor = none := by
    rw [Headers.get?, getAll_eraseAll, if_pos (by decide)]
    rfl
  unfold forwardedFor
  rw [hnone]
  rfl

/-- The client's own address is named once, behind what a trusted client says. -/
theorem getAll_forwardedFor (r : Request) (trust : Bool) (h : Headers) {a : SocketAddress}
    (ha : r.peer = some a) :
    (addForwarded r trust h).getAll .forwardedFor =
      [Utf8.encode (if trust then forwardedFor h a.ip.text else a.ip.text)] := by
  unfold addForwarded
  rw [getAll_addHost_of_ne _ _ (by decide), getAll_addProto_of_ne _ _ (by decide), addClient, ha]
  cases trust <;> simp [forwardedFor_eraseAll]

/-! Where nothing stands under a name, the proxy says its own word. -/

theorem getAll_addClient_of_nil (r : Request) {h : Headers} (hn : h.getAll .forwardedFor = []) :
    (addClient r h).getAll .forwardedFor =
      (r.peer.map fun a => Utf8.encode a.ip.text).toList := by
  have hnone : h.get? .forwardedFor = none := by
    rw [Headers.get?, hn]
    rfl
  unfold addClient
  cases r.peer with
  | none => exact hn
  | some a => simp [forwardedFor, hnone]

theorem getAll_addProto_of_nil (r : Request) {h : Headers} (hn : h.getAll .forwardedProto = []) :
    (addProto r h).getAll .forwardedProto = [Utf8.encode (r.uri.scheme.getD "http")] := by
  have hbare : ¬ h.contains .forwardedProto = true := by
    rw [Headers.contains_iff]
    exact not_not.mpr hn
  rw [addProto, if_neg hbare, Headers.getAll_insert, if_pos rfl]

theorem getAll_addHost_of_nil (r : Request) {h : Headers} (hn : h.getAll .forwardedHost = []) :
    (addHost r h).getAll .forwardedHost = (r.headers.get? .host).toList := by
  have hbare : ¬ h.contains .forwardedHost = true := by
    rw [Headers.contains_iff]
    exact not_not.mpr hn
  rw [addHost, if_neg hbare]
  cases r.headers.get? .host with
  | none => exact hn
  | some v => simp

/-- What the proxy itself says under a name. -/
def ownWord (r : Request) (n : FieldName) : List Bytes :=
  if n = .forwardedFor then (r.peer.map fun a => Utf8.encode a.ip.text).toList
  else if n = .forwardedProto then [Utf8.encode (r.uri.scheme.getD "http")]
  else if n = .forwardedHost then (r.headers.get? .host).toList
  else []

theorem ownWord_of_not_mem (r : Request) {n : FieldName} (hn : n ∉ forwardedNames) :
    ownWord r n = [] := by
  simp only [forwardedNames, List.mem_cons, List.not_mem_nil, or_false, not_or] at hn
  rw [ownWord, if_neg hn.1, if_neg hn.2.1, if_neg hn.2.2]

theorem getAll_eraseForwarded_of_nil {h : Headers} {n : FieldName} (hn : h.getAll n = [])
    (trust : Bool) : (if trust then h else eraseAll forwardedNames h).getAll n = [] := by
  cases trust with
  | true => exact hn
  | false =>
    show (eraseAll forwardedNames h).getAll n = []
    rw [getAll_eraseAll, hn, ite_self]

theorem getAll_addForwarded_of_nil (r : Request) (trust : Bool) {h : Headers} {n : FieldName}
    (hn : h.getAll n = []) : (addForwarded r trust h).getAll n = ownWord r n := by
  have hbare := getAll_eraseForwarded_of_nil hn trust
  unfold addForwarded ownWord
  by_cases hfor : n = .forwardedFor
  · subst hfor
    rw [if_pos rfl, getAll_addHost_of_ne _ _ (by decide), getAll_addProto_of_ne _ _ (by decide)]
    exact getAll_addClient_of_nil r hbare
  · rw [if_neg hfor]
    rw [← getAll_addClient_of_ne r _ (Ne.symm hfor)] at hbare
    by_cases hproto : n = .forwardedProto
    · subst hproto
      rw [if_pos rfl, getAll_addHost_of_ne _ _ (by decide)]
      exact getAll_addProto_of_nil r hbare
    · rw [if_neg hproto]
      rw [← getAll_addProto_of_ne r _ (Ne.symm hproto)] at hbare
      by_cases hhost : n = .forwardedHost
      · subst hhost
        rw [if_pos rfl]
        exact getAll_addHost_of_nil r hbare
      · rw [if_neg hhost, getAll_addHost_of_ne _ _ (Ne.symm hhost)]
        exact hbare

/-- The forwarded fields say what the connection, the target and the host field say. -/
structure OwnOrigin (r : Request) (h : Headers) : Prop where
  client : h.getAll .forwardedFor = (r.peer.map fun a => Utf8.encode a.ip.text).toList
  proto : h.getAll .forwardedProto = [Utf8.encode (r.uri.scheme.getD "http")]
  host : h.getAll .forwardedHost = (r.headers.get? .host).toList

theorem ownOrigin_of_untrusted (r : Request) (h : Headers) :
    OwnOrigin r (addForwarded r false h) := by
  -- Nothing stands under a forwarded name when the three steps begin.
  have hown : ∀ n ∈ forwardedNames, (addForwarded r false h).getAll n = ownWord r n := by
    intro n hn
    have hnone : (eraseAll forwardedNames h).getAll n = [] := by
      rw [getAll_eraseAll, if_pos hn]
    exact getAll_addForwarded_of_nil r true hnone
  exact ⟨hown .forwardedFor (by decide), hown .forwardedProto (by decide),
    hown .forwardedHost (by decide)⟩

/-! ## What an untrusted client cannot change -/

/-- Two requests that differ at most in what they say under the forwarded names. -/
structure SameButForwarded (r r' : Request) : Prop where
  method : r.method = r'.method
  uri : r.uri = r'.uri
  peer : r.peer = r'.peer
  body : r.body = r'.body
  headers : r.headers.SameBut forwardedNames r'.headers

/-- One message, written with the fields of different names in different orders perhaps. -/
structure Same (o o' : Outbound) : Prop where
  method : o.method = o'.method
  uri : o.uri = o'.uri
  version : o.version = o'.version
  headers : o.headers.Same o'.headers
  body : o.body = o'.body

theorem addForwarded_same {r r' : Request} (hr : SameButForwarded r r') :
    (addForwarded r false (endToEnd r.headers)).Same
      (addForwarded r' false (endToEnd r'.headers)) := by
  have hhost : r.headers.get? .host = r'.headers.get? .host := by
    unfold Headers.get?
    rw [hr.headers .host (by decide)]
  have hbare := eraseAll_same (endToEnd_sameBut hr.headers (by decide))
  exact addHost_same hhost (addProto_same hr.uri (addClient_same hr.peer hbare))

/-- The request to an endpoint is the same, or fails the same way, whatever the client says
under the forwarded names; and what these say to the endpoint is the proxy's own word. -/
theorem ofRequest_untrusted {r r' : Request} (hr : SameButForwarded r r') (e : Endpoint) :
    (∃ f, ofRequest r e false = .error f ∧ ofRequest r' e false = .error f) ∨
      ∃ o o', ofRequest r e false = .ok o ∧ ofRequest r' e false = .ok o' ∧ o.Same o' ∧
        OwnOrigin r o.headers ∧ OwnOrigin r' o'.headers := by
  have htarget : target r' = target r := by
    unfold target
    rw [hr.uri]
  unfold ofRequest
  rw [htarget]
  cases Uri.ofString (e.id ++ target r) with
  | error f => exact .inl ⟨_, rfl, rfl⟩
  | ok uri =>
    refine .inr ⟨_, _, rfl, rfl, ?_, ownOrigin_of_untrusted _ _, ownOrigin_of_untrusted _ _⟩
    exact ⟨hr.method, rfl, rfl, addForwarded_same hr, hr.body⟩

/-- A client that wants its host field taken away on the way, and says the rest itself. -/
def claimant (claims : List (FieldName × Bytes)) : Request where
  id := 1
  method := .get
  uri := ⟨none, none, ⟨"/", none⟩⟩
  version := .http11
  headers := ⟨claims ++ [(.connection, Utf8.encode "host, x-forwarded-for"),
    (.host, Utf8.encode "shop")]⟩
  peer := some { ip := .v4 (.ofOctets 10 0 0 1), port := 5000 }

/-- An address twice, and a host that is not text. -/
def falseClaims : List (FieldName × Bytes) :=
  [(.forwardedFor, Utf8.encode "10.9.9.9"), (.forwardedHost, [255]),
    (.forwardedFor, Utf8.encode "10.8.8.8")]

theorem claimant_sameButForwarded : SameButForwarded (claimant []) (claimant falseClaims) where
  method := rfl
  uri := rfl
  peer := rfl
  body := rfl
  headers := by
    intro n hn
    have hclaims : falseClaims.filter (·.1 = n) = [] := by
      rw [List.filter_eq_nil_iff]
      intro line hline heq
      have hforwarded : ∀ line ∈ falseClaims, line.1 ∈ forwardedNames := by decide
      exact hn (of_decide_eq_true heq ▸ hforwarded line hline)
    simp [claimant, Headers.getAll, List.filter_append, hclaims]

theorem ofRequest_untrusted_claimant :
    SameButForwarded (claimant []) (claimant falseClaims) ∧
      ∃ o o', ofRequest (claimant []) ⟨.http, .domain "a", 80, "http://a/"⟩ false = .ok o ∧
        ofRequest (claimant falseClaims) ⟨.http, .domain "a", 80, "http://a/"⟩ false = .ok o' ∧
        o.Same o' ∧ OwnOrigin (claimant []) o.headers ∧
        OwnOrigin (claimant falseClaims) o'.headers := by
  refine ⟨claimant_sameButForwarded, ?_⟩
  obtain ⟨f, hf, -⟩ | hok :=
    ofRequest_untrusted claimant_sameButForwarded ⟨.http, .domain "a", 80, "http://a/"⟩
  · have hsent : (ofRequest (claimant []) ⟨.http, .domain "a", 80, "http://a/"⟩ false).isOk := by
      decide +kernel
    rw [hf] at hsent
    cases hsent
  · exact hok

end Outbound

end Gateway
