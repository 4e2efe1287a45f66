import Gateway.Proofs.Outbound.Destination
import Gateway.Proofs.Outbound.EndToEnd

/-!
# What an endpoint is sent

Of the fields of a client, those stay behind that concern the connection, and those that tell
where the request came from do so unless the client is trusted. Behind the addresses that are
left the proxy puts the client's own, and where nothing is left that tells the rest, it tells
that itself. Everything else is sent as it is.
-/

namespace Gateway

open FieldValue

/-! ## Fields that are left -/

namespace FieldName

/-- Some spelling of the name stands between the commas of a line of visible text. -/
def readIn (n : FieldName) (v : Bytes) : Bool :=
  v.all isVisibleOctet &&
    (entries v).any fun word => (word.map charOf).map Char.toLower = n.text.toList

theorem readIn_iff {n : FieldName} {v : Bytes} :
    n.readIn v = true ↔ v.all isVisibleOctet = true ∧ n.ListedIn v := by
  unfold readIn ListedIn
  rw [Bool.and_eq_true, List.any_eq_true]
  refine and_congr_right fun hv => ?_
  constructor
  · rintro ⟨word, hword, hlower⟩
    refine ⟨String.ofList (word.map charOf), ?_, ?_⟩
    · rw [String.toList_ofList]
      exact of_decide_eq_true hlower
    · rw [Utf8.encode, String.toList_ofList, encodeChars_entry hv hword]
      exact hword
  · rintro ⟨s, hlower, hs⟩
    exact ⟨_, hs, decide_eq_true (map_charOf_entry hv hs ▸ hlower)⟩

/-- Fields that concern a single connection, or count the octets of a body. -/
def isLocal (n : FieldName) : Bool :=
  n.text ∈ ["connection", "keep-alive", "proxy-authenticate", "proxy-authorization", "te",
    "trailer", "transfer-encoding", "upgrade", "content-length"]

/-- Fields that tell where a request came from. -/
def isOrigin (n : FieldName) : Bool :=
  n.text ∈ ["x-forwarded-for", "x-forwarded-proto", "x-forwarded-host"]

theorem eq_mk_iff {n : FieldName} {text : String} : n = ⟨text⟩ ↔ n.text = text := by
  obtain ⟨name⟩ := n
  rw [FieldName.mk.injEq]

theorem isLocal_iff {n : FieldName} :
    n.isLocal = true ↔ n ∈ Outbound.hopByHop ∨ n = .contentLength := by
  simp [isLocal, Outbound.hopByHop, contentLength, eq_mk_iff, or_assoc]

theorem isOrigin_iff {n : FieldName} : n.isOrigin = true ↔ n ∈ Outbound.forwardedNames := by
  simp [isOrigin, Outbound.forwardedNames, forwardedFor, forwardedProto, forwardedHost, eq_mk_iff]

end FieldName

/-- A connection field in visible text names the field. -/
def Headers.strikes (h : Headers) (n : FieldName) : Bool := (h.getAll .connection).any n.readIn

theorem Headers.strikes_iff {h : Headers} {n : FieldName} : h.strikes n = true ↔ h.Struck n := by
  unfold strikes Struck
  simp only [List.any_eq_true, FieldName.readIn_iff]

/-- The values of a field that are left when a request goes on. -/
def Request.left (r : Request) (trust : Bool) (n : FieldName) : List Bytes :=
  if n.isLocal || r.headers.strikes n || (n.isOrigin && !trust) then [] else r.headers.getAll n

namespace Outbound

/-- This is there when the proxy begins to tell where the request came from. -/
theorem getAll_eq_left (r : Request) (trust : Bool) {n : FieldName} (hn : n.Valid) :
    (if trust then endToEnd r.headers else eraseAll forwardedNames (endToEnd r.headers)).getAll n =
      r.left trust n := by
  have hstays : (n.isLocal || r.headers.strikes n) = true ↔
      n ∈ connectionNames r.headers ∨ n ∈ hopByHop ∨ n = .contentLength := by
    rw [Bool.or_eq_true, FieldName.isLocal_iff, Headers.strikes_iff, mem_connectionNames_iff hn]
    exact or_comm
  unfold Request.left
  cases trust with
  | true =>
    rw [if_pos rfl, getAll_endToEnd, Bool.not_true, Bool.and_false, Bool.or_false]
    simp only [hstays]
  | false =>
    rw [if_neg Bool.false_ne_true, getAll_eraseAll, getAll_endToEnd, Bool.not_false, Bool.and_true]
    by_cases horigin : n ∈ forwardedNames
    · rw [if_pos horigin, FieldName.isOrigin_iff.mpr horigin, Bool.or_true, if_pos rfl]
    · have hno : n.isOrigin = false := Bool.eq_false_iff.mpr (mt FieldName.isOrigin_iff.mp horigin)
      rw [if_neg horigin, hno, Bool.or_false]
      simp only [hstays]

/-! ## Where a request came from -/

theorem getAll_addProto (r : Request) (h : Headers) :
    (addProto r h).getAll .forwardedProto =
      if h.getAll .forwardedProto = [] then [Utf8.encode (r.uri.scheme.getD "http")]
      else h.getAll .forwardedProto := by
  split
  · rename_i hnil
    exact getAll_addProto_of_nil r hnil
  · rename_i hne
    rw [addProto, if_pos ((Headers.contains_iff h _).mpr hne)]

theorem getAll_addHost (r : Request) (h : Headers) :
    (addHost r h).getAll .forwardedHost =
      if h.getAll .forwardedHost = [] then (r.headers.getAll .host).head?.toList
      else h.getAll .forwardedHost := by
  split
  · rename_i hnil
    exact getAll_addHost_of_nil r hnil
  · rename_i hne
    rw [addHost, if_pos ((Headers.contains_iff h _).mpr hne)]

theorem getAll_addClient (r : Request) (h : Headers) :
    (addClient r h).getAll .forwardedFor =
      r.peer.elim (h.getAll .forwardedFor) fun a =>
        [lineBehind (h.getAll .forwardedFor).head? a.ip] := by
  unfold addClient
  cases r.peer with
  | none => rfl
  | some a =>
    show (h.insert .forwardedFor _).getAll .forwardedFor = _
    rw [Headers.getAll_insert, if_pos rfl, encode_forwardedFor]
    rfl

/-- The request `r` of a client as an endpoint is sent it. -/
structure Replays (o : Outbound) (r : Request) (trust : Bool) (e : Endpoint) : Prop where
  method : o.method = r.method
  target : o.uri.target = Uri.onward r.uri
  version : o.version = .http11
  body : o.body = r.body
  scheme : o.uri.scheme = some e.scheme.text
  authority : o.uri.authority = some (e.authority ++ Uri.overflow r.uri)
  fields : ∀ n, n.Valid → n.isOrigin = false → o.headers.getAll n = r.left trust n
  /-- The client's address is named once, behind the first line that is left. -/
  client : ∀ a, r.peer = some a →
    o.headers.getAll .forwardedFor = [lineBehind (r.left trust .forwardedFor).head? a.ip]
  unknown : r.peer = none → o.headers.getAll .forwardedFor = r.left trust .forwardedFor
  proto : o.headers.getAll .forwardedProto =
    if r.left trust .forwardedProto = [] then [Utf8.encode (r.uri.scheme.getD "http")]
    else r.left trust .forwardedProto
  host : o.headers.getAll .forwardedHost =
    if r.left trust .forwardedHost = [] then (r.headers.getAll .host).head?.toList
    else r.left trust .forwardedHost

theorem replays_of_ofRequest {r : Request} {e : Endpoint} {trust : Bool} {o : Outbound}
    (he : e.Plain) (hr : r.uri.Form) (h : ofRequest r e trust = .ok o) : o.Replays r trust e := by
  have huri := uri_of_ofRequest he hr h
  have hsent := eq_of_ofRequest h
  have hfor : FieldName.Valid .forwardedFor := ⟨"x-forwarded-for", by decide +kernel⟩
  have hproto : FieldName.Valid .forwardedProto := ⟨"x-forwarded-proto", by decide +kernel⟩
  have hhost : FieldName.Valid .forwardedHost := ⟨"x-forwarded-host", by decide +kernel⟩
  have hheaders : o.headers = addHost r (addProto r (addClient r
      (if trust then endToEnd r.headers else eraseAll forwardedNames (endToEnd r.headers)))) :=
    congrArg Outbound.headers hsent
  have hclient : o.headers.getAll .forwardedFor =
      r.peer.elim (r.left trust .forwardedFor) fun a =>
        [lineBehind (r.left trust .forwardedFor).head? a.ip] := by
    rw [hheaders, getAll_addHost_of_ne _ _ (by decide), getAll_addProto_of_ne _ _ (by decide),
      getAll_addClient, getAll_eq_left r trust hfor]
  constructor
  case method => rw [hsent]
  case target => rw [huri]
  case version => rw [hsent]
  case body => rw [hsent]
  case scheme => rw [huri]
  case authority => rw [huri]
  case fields =>
    intro n hn horigin
    have hnot : n ∉ forwardedNames := by
      rw [← FieldName.isOrigin_iff, horigin]
      exact Bool.false_ne_true
    rw [getAll_of_ofRequest h hnot, ← getAll_endToEnd, ← getAll_eq_left r trust hn]
    cases trust with
    | true => rfl
    | false =>
      show _ = (eraseAll forwardedNames (endToEnd r.headers)).getAll n
      rw [getAll_eraseAll, if_neg hnot]
  case client =>
    intro a ha
    rw [hclient, ha, Option.elim_some]
  case unknown =>
    intro ha
    rw [hclient, ha, Option.elim_none]
  case proto =>
    rw [hheaders, getAll_addHost_of_ne _ _ (by decide), getAll_addProto,
      getAll_addClient_of_ne _ _ (by decide), getAll_eq_left r trust hproto]
  case host =>
    rw [hheaders, getAll_addHost, getAll_addProto_of_ne _ _ (by decide),
      getAll_addClient_of_ne _ _ (by decide), getAll_eq_left r trust hhost]

/-- What two endpoints are sent of one request differs in nothing but the endpoint. -/
theorem eq_but_server_of_ofRequest {r : Request} {e e' : Endpoint} {trust : Bool}
    {o o' : Outbound} (he : e.Plain) (he' : e'.Plain) (hr : r.uri.Form)
    (h : ofRequest r e trust = .ok o) (h' : ofRequest r e' trust = .ok o') :
    o' = { o with uri := { o.uri with
      scheme := o'.uri.scheme, authority := o'.uri.authority } } := by
  have htarget : o'.uri.target = o.uri.target := by
    rw [uri_of_ofRequest he hr h, uri_of_ofRequest he' hr h']
  calc o' = ⟨r.method, o'.uri, .http11, addForwarded r trust (endToEnd r.headers), r.body⟩ :=
        eq_of_ofRequest h'
    _ = { o with uri := o'.uri } := by rw [eq_of_ofRequest h]
    _ = _ := congrArg (fun target =>
        ({ o with uri := ⟨o'.uri.scheme, o'.uri.authority, target⟩ } : Outbound)) htarget

end Outbound

end Gateway
