import Gateway.Bench.Ground
import Gateway.Bench.Pool
import Gateway.Config.Build
import Gateway.Json.Writer
import Gateway.Report

/-!
# Scripts at work

What the actions of scripts do to a request and to a location, and how they are recorded.
-/

namespace Gateway.Bench

abbrev Place := World Pool Installed ObserverScript

def badSettings : Json := Report.fault "bad_settings" ""

/-- Puts the result of a change in place, and tells what it came to. -/
def change (r : Except Error Place) (w : Place) : Json × Place :=
  match r with
  | .ok w => (.str "ok", w)
  | .error e => (Report.error e, w)

/-- Makes a middleware of its script, with the state that it needs. -/
def install (name : String) (m : MiddlewareScript) (w : Place) :
    Option (Middleware Installed × Place) :=
  match m with
  | .limiter none => none
  | .breaker none => none
  | .limiter (some s) =>
      some (.limiter w.shared.limiters.length, Builtin.modifyStore (·.addLimiter s.limit) w)
  | .breaker (some s) =>
      let slot := w.shared.breakers.length
      let w := Builtin.modifyStore Store.addBreaker w
      some (.breaker s slot, onGround (fun g => { g with breakers := (name, slot) :: g.breakers }) w)
  | .hooks request response =>
      let slot := w.shared.extra.asked.length
      some (.custom ⟨request, response, slot⟩, onGround (fun g => { g with asked := g.asked ++ [0] }) w)

def observerOf : ObserverScript → Observer ObserverScript
  | .metrics location => .metrics location
  | o => .custom o

namespace SiteAction

def perform (a : SiteAction) (w : Place) : Json × Place :=
  match a with
  | .advance nanos => (.str "ok", { w with now := w.now + nanos })
  | .addEndpoint url => change ((Endpoint.parse url).bind fun e => w.addEndpoint e) w
  | .removeEndpoint id => change (w.removeEndpoint id) w
  | .nextEndpoint =>
      match w.pick with
      | (.ok m, w) => (.str m.id, w)
      | (.error e, w) => (Report.error e, w)
  | .appendMiddleware name m =>
      match install name m w with
      | none => (badSettings, w)
      | some (m, w) =>
          change ((w.middlewares.append name m).map fun c => { w with middlewares := c }) w
  | .updateMiddleware name m =>
      match install name m w with
      | none => (badSettings, w)
      | some (m, w) => (.str "ok", { w with middlewares := w.middlewares.update name m })
  | .removeMiddleware name =>
      change ((w.middlewares.remove name).map fun c => { w with middlewares := c }) w
  | .appendObserver name o =>
      change ((w.observers.append name (observerOf o)).map fun c => { w with observers := c }) w
  | .removeObserver name =>
      change ((w.observers.remove name).map fun c => { w with observers := c }) w
  | .breaker name =>
      (.ofOption (fun e => Report.breaker (w.shared.breaker e.2))
        (w.shared.extra.breakers.find? (·.1 = name)), w)
  | .metrics => (.arr (w.shared.metrics.lines.map .str), w)

end SiteAction

namespace HookAction

def badAction : Json := .str "bad action"

/-- Carries out an action on behalf of `who`. -/
def perform (who : String) (a : HookAction) (r : Request) (w : Place) : Request × Place :=
  match a with
  | .site label a =>
      let (result, w) := a.perform w
      (r, record (who ++ " " ++ label ++ " " ++ result.write) w)
  | .unknown label => (r, record (who ++ " " ++ label ++ " " ++ badAction.write) w)
  | .setAttribute key value => (r.setAttribute key value, w)
  | .removeAttribute key => (r.removeAttribute key, w)
  | .setHeader (some n) v => ({ r with headers := r.headers.insert n v }, w)
  | .setHeader none _ => (r, w)
  | .removeHeader (some n) => ({ r with headers := r.headers.erase n }, w)
  | .removeHeader none => (r, w)
  | .setBody b => ({ r with body := b }, w)
  | .logAttribute key =>
      (r, record (who ++ " attribute " ++ ((r.attribute? key).getD .null).write) w)
  | .logAttempts =>
      (r, record (who ++ " attempts " ++ toString r.attempts.length) w)

def performAll (who : String) (actions : List HookAction) (r : Request) (w : Place) :
    Request × Place :=
  actions.foldl (fun (r, w) a => a.perform who r w) (r, w)

end HookAction

def Answer.verdict : Answer → Verdict
  | .pass => .pass
  | .respond r => .respond r
  | .reject r => .reject r

def numbered (r : Request) : String := "#" ++ toString r.id

/-- The script for the request number `n`; the last one is for all further ones. -/
def callAt? (n : Nat) (calls : List Call) : Option Call :=
  calls[min n (calls.length - 1)]?

def onRequest (m : String × Installed) (r : Request) (w : Place) : Verdict × Request × Place :=
  match m.2.request with
  | none => (.pass, r, w)
  | some calls =>
      let who := m.1 ++ ".request"
      let n := w.shared.extra.asked[m.2.slot]?.getD 0
      let w := record (who ++ " " ++ numbered r) <|
        onGround (fun g => { g with asked := g.asked.set m.2.slot (n + 1) }) w
      match callAt? n calls with
      | none => (.pass, r, w)
      | some (.mk actions answer) =>
          let (r, w) := HookAction.performAll who actions r w
          (answer.verdict, r, w)

def onResponse (m : String × Installed) (r : Request) (a : Attempt) (w : Place) : Request × Place :=
  match m.2.response with
  | none => (r, w)
  | some actions =>
      let who := m.1 ++ ".response"
      let w := record (who ++ " " ++ numbered r ++ " " ++ a.text) w
      HookAction.performAll who actions r w

def logWhen (wanted : Bool) (event : String) (w : Place) : Place :=
  if wanted then record event w else w

def seeRequest (o : String × ObserverScript) (r : Request) (w : Place) : Place :=
  let wanted := match o.2 with
    | .bare => true
    | .hooks request _ _ => request
    | .metrics _ => false
  logWhen wanted (o.1 ++ ".request " ++ numbered r) w

def seeResponse (o : String × ObserverScript) (r : Request) (a : Attempt) (w : Place) : Place :=
  let wanted := match o.2 with
    | .bare => true
    | .hooks _ response _ => response
    | .metrics _ => false
  logWhen wanted (o.1 ++ ".response " ++ numbered r ++ " " ++ a.text) w

def seeFailure (o : String × ObserverScript) (r : Request) (e : Error) (w : Place) : Place :=
  let wanted := match o.2 with
    | .hooks _ _ failure => failure
    | _ => false
  logWhen wanted (o.1 ++ ".failure " ++ numbered r ++ " " ++ e.message) w

/-- Handlers that follow their scripts. -/
def scripted : Builtin.Custom Pool Installed ObserverScript Ground where
  onRequest := onRequest
  onResponse := onResponse
  seeRequest := seeRequest
  seeResponse := seeResponse
  seeFailure := seeFailure

end Gateway.Bench
