import WebBaseline.Proofs.Download.Caller

/-! Clients and scopes.

A client is constructed for each scope that is entered, and for each call that does not use the client of
the innermost scope; a call that asks twice does so on one client. When a scope is left, normally or with a
failure, the same clients are shared as before it (`run_clients`).

The client of a scope is used by the calls that ask for the usual timeout, whatever timeout the scope was
opened with. So a request runs with the timeout that was asked for if the innermost scope has the usual one,
and not always otherwise (`run_timeouts`, `run_timeouts_short`). -/
namespace WebBaseline.Download

/-- **Which clients there are, and which one a call uses.** The clients of a run are those of its events, in
order, and each has its number in this order. A call is placed by the scopes that are open before it. -/
theorem run_clients (caller : Caller) (net : Network) :
    let course := caller.run net
    let number := fun before : List Event => net.clients.length + (before.flatMap Event.built).length
    course.net.clients = net.clients ++ course.events.flatMap Event.built ∧
    (∀ before client after, course.events = before ++ .entered client :: after →
      client.number = number before) ∧
    (∀ before call after, course.events = before ++ .called call :: after →
      call.Placed (openScopes net.shared before) (number before)) ∧
    course.net.shared = net.shared ∧
    ∀ timeout body,
      let inner := Caller.run body (net.enter timeout)
      inner.net.shared = net.nextClient timeout :: net.shared ∧ inner.net.leave.shared = net.shared := by
  intro course number
  refine ⟨congrArg View.clients (view_run caller net), ?_, ?_, run_shared caller net, ?_⟩
  · intro before client after hevents
    have hnumber : client.number = _ := allows_of_events_eq hevents
    rwa [List.length_append] at hnumber
  · intro before call after hevents
    obtain ⟨-, hplaced⟩ := allows_of_events_eq hevents
    rwa [List.length_append] at hplaced
  · intro timeout body inner
    have hinner : inner.net.shared = net.nextClient timeout :: net.shared := run_shared body _
    exact ⟨hinner, by rw [Network.leave, hinner, List.drop_one, List.tail_cons]⟩

/-- A scope in a scope. The call in the inner one asks twice and fails; the next call has a timeout of its
own; the last one is made after the inner scope was left with a failure. -/
theorem run_clients_nested :
    let refused : Outcome := .fault .connect "refused"
    let net : Network := { outcomes := [refused, refused, .fault .read "reset"] }
    let short : Double := .ofDecimal false 5 0
    let outer : Client := ⟨0, usualTimeout⟩
    let inner : Client := ⟨1, usualTimeout⟩
    let own : Client := ⟨2, short⟩
    let inside := (net.enter usualTimeout).enter usualTimeout
    let one := Call.of "https://a/" usualTimeout inside
    let after := (fetch "https://a/" usualTimeout inside).2
    let two := Call.of "https://b/" short after
    let three := Call.of "https://c/" usualTimeout (fetch "https://b/" short after).2.leave
    let caller : Caller := .scope usualTimeout
      (.scope usualTimeout (.fetch "https://a/" usualTimeout fun _ => .fetch "https://b/" short .done)
        fun _ => .fetch "https://c/" usualTimeout .done) .done
    (caller.run net).events =
      [.entered outer, .entered inner, .called one, .called two, .left, .called three, .left] ∧
    one.requests.length = 2 ∧ one.Uses inner [] ∧ two.Uses own [own] ∧ three.Uses outer [] ∧
    (caller.run net).net.clients = [outer, inner, own] ∧ (caller.run net).net.shared = [] := by
  intro refused net short outer inner own inside one after two three caller
  obtain ⟨hclients, -, hcalls, hshared, -⟩ := run_clients caller net
  have hone := hcalls [.entered outer, .entered inner] one _ rfl
  have htwo := hcalls [.entered outer, .entered inner, .called one] two _ rfl
  have hthree :=
    hcalls [.entered outer, .entered inner, .called one, .called two, .left] three _ rfl
  exact ⟨rfl, rfl, hone.inside rfl inner rfl, htwo.outside (.inl (by decide)),
    hthree.inside rfl outer rfl, hclients, hshared⟩

/-! ### Timeouts -/

theorem Call.Uses.timeout_iff {call : Call} {client : Client} {built : List Client}
    (h : call.Uses client built) (timeout : Double) :
    (∀ request ∈ call.requests, request.client.timeout = timeout) ↔ client.timeout = timeout := by
  constructor
  · intro hall
    obtain ⟨request, hrequest⟩ := List.exists_mem_of_ne_nil _ h.requests_ne_nil
    rw [← hall request hrequest, h.client_eq request hrequest]
  · intro htimeout request hrequest
    rw [h.client_eq request hrequest, htimeout]

/-- **When requests run with the timeout that was asked for.** They do unless the call asks for the usual
timeout inside a scope that was opened with another one. -/
theorem run_timeouts (caller : Caller) (net : Network) :
    ∀ before call after, (caller.run net).events = before ++ .called call :: after →
      ((∀ request ∈ call.requests, request.client.timeout = call.timeout) ↔
        (call.timeout = usualTimeout →
          ∀ client ∈ (openScopes net.shared before).head?, client.timeout = usualTimeout)) := by
  intro before call after hevents
  obtain ⟨-, hplaced⟩ := allows_of_events_eq hevents
  by_cases htimeout : call.timeout = usualTimeout
  · cases hshared : openScopes net.shared before with
    | nil =>
      have huses := hplaced.outside (.inr hshared)
      simp [huses.timeout_iff]
    | cons client rest =>
      have huses := hplaced.inside htimeout client (by rw [hshared]; rfl)
      simp [huses.timeout_iff, htimeout]
  · have huses := hplaced.outside (.inl htimeout)
    simp [huses.timeout_iff, htimeout]

/-- A call with the usual timeout in a scope with a shorter one, and the same call outside of it. -/
theorem run_timeouts_short :
    let short : Double := .ofDecimal false 5 0
    let net : Network := { outcomes := [.answer 200 [55] none, .answer 200 [55] none] }
    let shared := Call.of "https://a/" usualTimeout (net.enter short)
    let own := Call.of "https://a/" usualTimeout (fetch "https://a/" usualTimeout (net.enter short)).2.leave
    let caller : Caller := .scope short (.fetch "https://a/" usualTimeout .done) fun _ =>
      .fetch "https://a/" usualTimeout .done
    (caller.run net).events = [.entered ⟨0, short⟩, .called shared, .left, .called own] ∧
    ¬ (∀ request ∈ shared.requests, request.client.timeout = usualTimeout) ∧
    ∀ request ∈ own.requests, request.client.timeout = usualTimeout := by
  intro short net shared own caller
  have hcalls := run_timeouts caller net
  have hshared := hcalls [.entered ⟨0, short⟩] shared _ rfl
  have hown := hcalls [.entered ⟨0, short⟩, .called shared, .left] own _ rfl
  refine ⟨rfl, fun h => ?_, hown.mpr fun _ client hclient => by cases hclient⟩
  exact absurd (hshared.mp h rfl _ rfl) (by decide)

/-- A scope with a short timeout: the request of the call in it does not have the timeout that the call
asks for. -/
theorem scope_timeout_mismatch :
    let short : Double := .ofDecimal false 5 0
    let caller : Caller := .scope short (.fetch "https://a/" usualTimeout .done) .done
    let net : Network := { outcomes := [.answer 200 [55] none] }
    (caller.run net).net.requests.map (fun request => (request.url, request.client.timeout)) =
      [("https://a/".toList, short)] ∧ short ≠ usualTimeout := by
  decide

end WebBaseline.Download
