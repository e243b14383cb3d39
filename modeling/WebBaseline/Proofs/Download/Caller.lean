import WebBaseline.Proofs.Download.Fetch

/-! Programs that download.

A `Caller` downloads and opens scopes with shared clients in any order and to any depth. What it does next
may depend on all results so far, and a failure ends a scope or is handled, as the caller likes. A run
leaves the list of what happened: scopes that were entered and left, and calls. `run_follows` says what
each event can be, by the events before it (`View.Allows`), and `foldl_step` what events leave behind. All
laws of downloads are read off these two. -/
namespace WebBaseline.Download

/-- A program that downloads. It ends with a result, or calls for a document, or runs a body inside a scope
with a shared client, and goes on with what these come to. -/
inductive Caller where
  | done (result : Except Failure Json)
  | fetch (url : Text) (timeout : Double) (next : Except Failure Json → Caller)
  | scope (timeout : Double) (body : Caller) (next : Except Failure Json → Caller)

/-- One download as its caller sees it: what was asked, the requests that were made and the clients that
were constructed for it, and the result. -/
structure Call where
  url : Text
  timeout : Double
  requests : List Request
  built : List Client
  result : Except Failure Json

/-- The call of a download from a state of the network. -/
def Call.of (url : Text) (timeout : Double) (net : Network) : Call where
  url
  timeout
  requests := (fetch url timeout net).2.requests.drop net.requests.length
  built := (fetch url timeout net).2.clients.drop net.clients.length
  result := (fetch url timeout net).1

inductive Event where
  /-- A scope was entered; this is its client. -/
  | entered (client : Client)
  /-- The innermost scope was left. -/
  | left
  | called (call : Call)

namespace Event

/-- The requests of an event. -/
def requests : Event → List Request
  | called call => call.requests
  | _ => []

/-- The clients that were constructed for an event. -/
def built : Event → List Client
  | entered client => [client]
  | left => []
  | called call => call.built

end Event

/-- The course of a run: how it ended, what happened, and the network after it. -/
structure Course where
  result : Except Failure Json
  events : List Event
  net : Network

/-- Runs a caller. A scope is left whatever its body comes to. -/
def Caller.run : Caller → Network → Course
  | done result, net => ⟨result, [], net⟩
  | fetch url timeout next, net =>
    let (result, after) := Download.fetch url timeout net
    let rest := (next result).run after
    { rest with events := .called (.of url timeout net) :: rest.events }
  | scope timeout body next, net =>
    let inner := body.run (net.enter timeout)
    let rest := (next inner.result).run inner.net.leave
    { rest with
      events := .entered (net.nextClient timeout) :: (inner.events ++ .left :: rest.events) }

/-! ### What events leave behind -/

/-- The clients of the scopes that are open after events, the innermost first, if `shared` are those before
them. -/
def openScopes (shared : List Client) : List Event → List Client
  | [] => shared
  | .entered client :: events => openScopes (client :: shared) events
  | .left :: events => openScopes (shared.drop 1) events
  | .called _ :: events => openScopes shared events

/-- What an event leaves behind. -/
def View.step (view : View) (event : Event) : View where
  outcomes := view.outcomes.drop event.requests.length
  requests := view.requests ++ event.requests
  clients := view.clients ++ event.built
  shared := openScopes view.shared [event]
  read := view.read

theorem foldl_step (view : View) (events : List Event) :
    events.foldl View.step view =
      { outcomes := view.outcomes.drop (events.flatMap Event.requests).length
        requests := view.requests ++ events.flatMap Event.requests
        clients := view.clients ++ events.flatMap Event.built
        shared := openScopes view.shared events
        read := view.read } := by
  induction events generalizing view with
  | nil => simp [openScopes]
  | cons event events ih =>
    rw [List.foldl_cons, ih]
    cases event <;> simp [View.step, openScopes, Event.requests, Event.built]

/-! ### What events can be -/

/-- A call makes its requests on one client; `built` are the clients that it constructs. -/
structure Call.Uses (call : Call) (client : Client) (built : List Client) : Prop where
  requests_ne_nil : call.requests ≠ []
  client_eq : ∀ request ∈ call.requests, request.client = client
  built_eq : call.built = built

/-- A call uses up outcomes in order, one for each request, and comes to what the last of them says. -/
structure Call.Answered (call : Call) (read : List UInt8 → Reading Json) (outcomes : List Outcome) : Prop where
  outcomes_eq : call.requests.map (·.outcome) = taken outcomes
  url_eq : ∀ request ∈ call.requests, request.url = call.url
  result_eq : call.result = (decisive outcomes).result read call.url

/-- A call uses the innermost shared client if its timeout is the usual one, and else, or if there is none,
a new one of its own. -/
structure Call.Placed (call : Call) (shared : List Client) (number : Nat) : Prop where
  inside : call.timeout = usualTimeout → ∀ client ∈ shared.head?, call.Uses client []
  outside : call.timeout ≠ usualTimeout ∨ shared = [] →
    call.Uses ⟨number, call.timeout⟩ [⟨number, call.timeout⟩]

/-- What can happen next. -/
def View.Allows (view : View) : Event → Prop
  | .entered client => client.number = view.clients.length
  | .left => view.shared ≠ []
  | .called call => call.Answered view.read view.outcomes ∧ call.Placed view.shared view.clients.length

/-- Each event is allowed after those before it. -/
def View.Follows (view : View) : List Event → Prop
  | [] => True
  | event :: events => view.Allows event ∧ (view.step event).Follows events

theorem follows_append (view : View) (a b : List Event) :
    view.Follows (a ++ b) ↔ view.Follows a ∧ (a.foldl View.step view).Follows b := by
  induction a generalizing view with
  | nil => simp [View.Follows]
  | cons event a ih => simp [View.Follows, ih, and_assoc]

/-! ### Calls -/

theorem Call.requests_of (url : Text) (timeout : Double) (net : Network) :
    (Call.of url timeout net).requests =
      (taken net.outcomes).map (⟨url, (net.clientFor timeout).1, ·⟩) := by
  have hrequests := congrArg View.requests (fetch_view url timeout net)
  simp only [Network.view] at hrequests
  rw [Call.of, hrequests, List.drop_left]

theorem Call.answered_of (url : Text) (timeout : Double) (net : Network) :
    (Call.of url timeout net).Answered net.read net.outcomes where
  outcomes_eq := by
    rw [Call.requests_of, List.map_map]
    exact List.map_id _
  url_eq := by
    rw [Call.requests_of]
    exact List.forall_mem_map.mpr fun _ _ => rfl
  result_eq := fetch_fst url timeout net

theorem Call.uses_of (url : Text) (timeout : Double) (net : Network) :
    (Call.of url timeout net).Uses (net.clientFor timeout).1
      ((net.clientFor timeout).2.clients.drop net.clients.length) where
  requests_ne_nil := by
    rw [Call.requests_of, taken_eq]
    split <;> simp
  client_eq := by
    rw [Call.requests_of]
    exact List.forall_mem_map.mpr fun _ _ => rfl
  built_eq := congrArg (fun view => view.clients.drop net.clients.length) (fetch_view url timeout net)

theorem Call.placed_of (url : Text) (timeout : Double) (net : Network) :
    (Call.of url timeout net).Placed net.shared net.clients.length := by
  have huses := Call.uses_of url timeout net
  constructor
  · intro htimeout client hclient
    have hchoice : net.clientFor timeout = (client, net) := by
      obtain ⟨rest, hshared⟩ := List.head?_eq_some_iff.mp hclient
      simp only [Network.clientFor, hshared]
      exact if_pos htimeout
    simpa [hchoice] using huses
  · intro h
    have hchoice : net.clientFor timeout = net.addClient timeout := by
      unfold Network.clientFor
      split
      · rfl
      · rename_i client rest hshared
        have htimeout := h.resolve_right (by simp [hshared])
        exact if_neg htimeout
    have hbuilt : (net.addClient timeout).2.clients.drop net.clients.length =
        [⟨net.clients.length, timeout⟩] := List.drop_left
    rw [hchoice, hbuilt] at huses
    exact huses

/-! ### Steps -/

theorem view_fetch (url : Text) (timeout : Double) (net : Network) :
    (fetch url timeout net).2.view = net.view.step (.called (.of url timeout net)) := by
  obtain ⟨built, hchoice⟩ := clientFor_snd net timeout
  have hbuilt := (Call.uses_of url timeout net).built_eq
  rw [fetch_view, View.step, Event.requests, Event.built, Call.requests_of, hbuilt, hchoice]
  simp [Network.view, openScopes]

theorem view_enter (timeout : Double) (net : Network) :
    (net.enter timeout).view = net.view.step (.entered (net.nextClient timeout)) := by
  simp [Network.view, Network.enter, Network.addClient, View.step, Event.requests, Event.built, openScopes]

theorem view_leave (net : Network) : net.leave.view = net.view.step .left := by
  simp [Network.view, Network.leave, View.step, Event.requests, Event.built, openScopes]

/-! ### Runs -/

/-- The scopes that a run opens are closed when it ends, whatever it ends with. -/
theorem run_shared (caller : Caller) (net : Network) : (caller.run net).net.shared = net.shared := by
  induction caller generalizing net with
  | done result => rfl
  | fetch url timeout next ih =>
    rw [Caller.run, ih]
    exact congrArg View.shared (fetch_view url timeout net)
  | scope timeout body next ihbody ihnext =>
    rw [Caller.run, ihnext, Network.leave, ihbody]
    rfl

/-- Every event of a run is allowed after those before it, and they account for the network at its end. -/
theorem run_follows (caller : Caller) (net : Network) :
    net.view.Follows (caller.run net).events ∧
      (caller.run net).events.foldl View.step net.view = (caller.run net).net.view := by
  induction caller generalizing net with
  | done result => exact ⟨trivial, rfl⟩
  | fetch url timeout next ih =>
    obtain ⟨hfollows, hview⟩ := ih (fetch url timeout net).1 (fetch url timeout net).2
    rw [view_fetch] at hfollows hview
    exact ⟨⟨⟨Call.answered_of url timeout net, Call.placed_of url timeout net⟩, hfollows⟩, hview⟩
  | scope timeout body next ihbody ihnext =>
    obtain ⟨hbody, hinner⟩ := ihbody (net.enter timeout)
    obtain ⟨hnext, hview⟩ := ihnext (body.run (net.enter timeout)).result (body.run (net.enter timeout)).net.leave
    rw [view_enter] at hbody hinner
    rw [view_leave, ← hinner] at hnext hview
    have hopen : (body.run (net.enter timeout)).net.view.shared ≠ [] := by
      show (body.run (net.enter timeout)).net.shared ≠ []
      rw [run_shared]
      exact List.cons_ne_nil _ _
    rw [← hinner] at hopen
    refine ⟨⟨rfl, (follows_append _ _ _).mpr ⟨hbody, hopen, hnext⟩⟩, ?_⟩
    rw [Caller.run, List.foldl_cons, List.foldl_append, List.foldl_cons]
    exact hview

/-- What an event of a run can be, by the events before it. -/
theorem allows_of_events_eq {caller : Caller} {net : Network} {before after : List Event} {event : Event}
    (h : (caller.run net).events = before ++ event :: after) :
    View.Allows
      { outcomes := net.outcomes.drop (before.flatMap Event.requests).length
        requests := net.requests ++ before.flatMap Event.requests
        clients := net.clients ++ before.flatMap Event.built
        shared := openScopes net.shared before
        read := net.read } event := by
  have hfollows := (run_follows caller net).1
  rw [h, follows_append, foldl_step] at hfollows
  exact hfollows.2.1

/-- What a run leaves, by its events. -/
theorem view_run (caller : Caller) (net : Network) :
    (caller.run net).net.view =
      { outcomes := net.outcomes.drop ((caller.run net).events.flatMap Event.requests).length
        requests := net.requests ++ (caller.run net).events.flatMap Event.requests
        clients := net.clients ++ (caller.run net).events.flatMap Event.built
        shared := openScopes net.shared (caller.run net).events
        read := net.read } := by
  rw [← (run_follows caller net).2, foldl_step]
  rfl

end WebBaseline.Download
