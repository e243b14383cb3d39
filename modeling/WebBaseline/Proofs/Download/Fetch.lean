import WebBaseline.Download

/-! One download.

A download asks for its address once, and a second time if the first connection failed. So it uses up one
outcome or two (`taken`), makes as many requests, all on one client, and leaves the rest of the network as it
is, but for the client that it may construct (`fetch_view`). It comes to what the last of these outcomes says
(`fetch_fst`), by rules that give each outcome one result (`Settles`, `settles_iff`). -/
namespace WebBaseline.Download

/-- A network but for its notes. -/
structure View where
  outcomes : List Outcome
  requests : List Request
  clients : List Client
  shared : List Client
  read : List UInt8 → Reading Json

def Network.view (net : Network) : View :=
  ⟨net.outcomes, net.requests, net.clients, net.shared, net.read⟩

/-! ### Outcomes -/

/-- What the request number `k` comes to, counted from zero. -/
def outcomeAt (outcomes : List Outcome) (k : Nat) : Outcome :=
  outcomes[k]?.getD .unconnected

@[simp] theorem outcomeAt_drop (outcomes : List Outcome) (n k : Nat) :
    outcomeAt (outcomes.drop n) k = outcomeAt outcomes (n + k) := by
  simp [outcomeAt]

/-- Whether the connection failed. A connection that timed out is a timeout. -/
def Outcome.isUnconnected : Outcome → Bool
  | .fault .connect _ => true
  | _ => false

/-- The outcomes that up to `n` attempts use up: all but the last are failed connections. -/
def tries : (n : Nat) → List Outcome → List Outcome
  | 0, _ => []
  | n + 1, outcomes =>
    outcomeAt outcomes 0 ::
      if (outcomeAt outcomes 0).isUnconnected then tries n (outcomes.drop 1) else []

/-- The outcomes that one download uses up. -/
def taken (outcomes : List Outcome) : List Outcome :=
  tries 2 outcomes

theorem taken_eq (outcomes : List Outcome) :
    taken outcomes =
      if (outcomeAt outcomes 0).isUnconnected then [outcomeAt outcomes 0, outcomeAt outcomes 1]
      else [outcomeAt outcomes 0] := by
  simp only [taken, tries, outcomeAt_drop]
  split <;> simp

/-- The last outcome that one download uses up. -/
def decisive (outcomes : List Outcome) : Outcome :=
  if (outcomeAt outcomes 0).isUnconnected then outcomeAt outcomes 1 else outcomeAt outcomes 0

theorem getLast?_taken (outcomes : List Outcome) :
    (taken outcomes).getLast? = some (decisive outcomes) := by
  rw [taken_eq, decisive]
  split <;> rfl

/-! ### Attempts -/

/-- The failure of a download that a fault ends. -/
def Fault.failure (url message : Text) (fault : Fault) : Failure :=
  if fault.isTimeout then .timeout url
  else if fault.isRequest then .network url (some fault.name)
  else .foreign fault.name message

/-- What a request comes to that is not made again. -/
def Outcome.reply (url : Text) : Outcome → Except Failure (Int × List UInt8 × Text)
  | .answer status body final => .ok (status, body, final.getD url)
  | .fault kind message => .error (kind.failure url message)

/-- The network after a request. -/
def Network.asked (net : Network) (client : Client) (url : Text) : Network :=
  { net with
    outcomes := net.outcomes.drop 1
    requests := net.requests ++ [⟨url, client, outcomeAt net.outcomes 0⟩] }

theorem ask_eq (net : Network) (client : Client) (url : Text) :
    net.ask client url = (outcomeAt net.outcomes 0, net.asked client url) := by
  simp only [Network.ask, Network.asked, outcomeAt, List.head?_eq_getElem?]

/-- One attempt of `n + 1`. -/
theorem attempt_succ (client : Client) (url : Text) (n : Nat) (net : Network) :
    attempt client url (n + 1) net =
      if (outcomeAt net.outcomes 0).isUnconnected ∧ n ≠ 0 then
        attempt client url n ((net.asked client url).noting (.retrying url))
      else ((outcomeAt net.outcomes 0).reply url, net.asked client url) := by
  rw [attempt, ask_eq]
  cases outcomeAt net.outcomes 0 with
  | answer status body final => simp [Outcome.isUnconnected, Outcome.reply]
  | fault kind message =>
    by_cases hconnect : kind = .connect
    · subst hconnect
      by_cases hn : n = 0 <;>
        simp [Outcome.isUnconnected, Outcome.reply, Fault.failure, Fault.isTimeout, Fault.isRequest, hn]
    · have hother : (Outcome.fault kind message).isUnconnected = false := by
        cases kind <;> first | rfl | exact absurd rfl hconnect
      simp only [hother, Outcome.reply, Fault.failure, hconnect, Bool.false_eq_true, false_and, if_false]
      split
      · rfl
      · split <;> rfl

/-- Attempts make a request for each outcome that they use up, and change nothing else. -/
theorem attempt_view (client : Client) (url : Text) (n : Nat) (net : Network) :
    (attempt client url n net).2.view =
      { net.view with
        outcomes := net.outcomes.drop (tries n net.outcomes).length
        requests := net.requests ++ (tries n net.outcomes).map (⟨url, client, ·⟩) } := by
  induction n generalizing net with
  | zero => simp [attempt, tries, Network.view]
  | succ n ih =>
    rw [attempt_succ, tries]
    split
    · rename_i h
      rw [ih]
      simp [h.1, Network.view, Network.asked, Network.noting, Nat.add_comm]
    · rename_i h
      by_cases hfirst : (outcomeAt net.outcomes 0).isUnconnected
      · obtain rfl : n = 0 := by simpa [hfirst] using h
        simp [tries, Network.view, Network.asked]
      · simp [hfirst, Network.view, Network.asked]

theorem getLast?_tries_of_isUnconnected {outcomes : List Outcome}
    (h : (outcomeAt outcomes 0).isUnconnected) (n : Nat) :
    (tries (n + 2) outcomes).getLast? = (tries (n + 1) (outcomes.drop 1)).getLast? := by
  rw [tries, if_pos h, tries, List.getLast?_cons_cons]

/-- Attempts end with the reply to the last outcome that they use up. -/
theorem attempt_fst (client : Client) (url : Text) (n : Nat) (net : Network) :
    (tries (n + 1) net.outcomes).getLast?.map (Outcome.reply url) =
      some (attempt client url (n + 1) net).1 := by
  induction n generalizing net with
  | zero => simp [attempt_succ, tries]
  | succ n ih =>
    rw [attempt_succ]
    by_cases hfirst : (outcomeAt net.outcomes 0).isUnconnected
    · rw [getLast?_tries_of_isUnconnected hfirst, if_pos ⟨hfirst, n.succ_ne_zero⟩]
      exact ih ((net.asked client url).noting (.retrying url))
    · simp [tries, hfirst]

/-! ### Results -/

/-- The bytes that are white space. -/
def spaceBytes : List UInt8 := [9, 10, 11, 12, 13, 32]

theorem isSpaceByte_iff (b : UInt8) : isSpaceByte b ↔ b ∈ spaceBytes := by
  simp only [isSpaceByte, spaceBytes, Bool.or_eq_true, Bool.and_eq_true, decide_eq_true_eq,
    List.mem_cons, List.not_mem_nil, or_false, UInt8.le_iff_toNat_le, ← UInt8.toNat_inj,
    UInt8.reduceToNat]
  omega

theorem all_isSpaceByte_iff (body : List UInt8) :
    body.all isSpaceByte ↔ ∀ b ∈ body, b ∈ spaceBytes := by
  simp only [List.all_eq_true, isSpaceByte_iff]

/-- What a download of an address comes to, by the last outcome that it uses up, if `read` reads the bodies of
answers. -/
inductive Settles (read : List UInt8 → Reading Json) (url : Text) : Outcome → Except Failure Json → Prop where
  | timeout {fault message} : fault.isTimeout →
      Settles read url (.fault fault message) (.error (.timeout url))
  | request {fault message} : fault.isRequest → ¬ fault.isTimeout →
      Settles read url (.fault fault message) (.error (.network url (some fault.name)))
  | foreign {fault message} : ¬ fault.isRequest →
      Settles read url (.fault fault message) (.error (.foreign fault.name message))
  | status {status body final} : status ≠ 200 →
      Settles read url (.answer status body final) (.error (.status status (final.getD url)))
  | empty {body final} : (∀ b ∈ body, b ∈ spaceBytes) →
      Settles read url (.answer 200 body final) (.error (.content (final.getD url) "an empty response"))
  | invalid {body final reason} : (¬ ∀ b ∈ body, b ∈ spaceBytes) → read body = .refused reason →
      Settles read url (.answer 200 body final) (.error (.content (final.getD url) "invalid JSON content"))
  | broken {body final breakdown} : (¬ ∀ b ∈ body, b ∈ spaceBytes) → read body = .broken breakdown →
      Settles read url (.answer 200 body final) (.error (.foreign breakdown.name breakdown.message))
  | value {body final value} : (¬ ∀ b ∈ body, b ∈ spaceBytes) → read body = .value value →
      Settles read url (.answer 200 body final) (.ok value)

/-- The result of a download whose last outcome this is. -/
def Outcome.result (read : List UInt8 → Reading Json) (url : Text) (outcome : Outcome) : Except Failure Json :=
  (outcome.reply url).bind fun (status, body, final) => decode read status body final

variable {read : List UInt8 → Reading Json}

theorem decode_of_not_space {body : List UInt8} (h : ¬ ∀ b ∈ body, b ∈ spaceBytes) (url : Text) :
    decode read 200 body url = (read body).result fun _ => .invalidContent url := by
  rw [← all_isSpaceByte_iff] at h
  simp [decode, h]

theorem Fault.isRequest_of_isTimeout {fault : Fault} (h : fault.isTimeout) : fault.isRequest := by
  cases fault <;> first | rfl | cases h

theorem settles_result (url : Text) (outcome : Outcome) :
    Settles read url outcome (outcome.result read url) := by
  cases outcome with
  | fault kind message =>
    show Settles read url _ (.error (kind.failure url message))
    unfold Fault.failure
    by_cases htimeout : kind.isTimeout
    · simpa [htimeout] using Settles.timeout htimeout
    · by_cases hrequest : kind.isRequest
      · simpa [htimeout, hrequest] using Settles.request hrequest htimeout
      · simpa [htimeout, hrequest] using Settles.foreign hrequest
  | answer status body final =>
    show Settles read url _ (decode read status body (final.getD url))
    by_cases hstatus : status = 200
    · subst hstatus
      by_cases hspace : ∀ b ∈ body, b ∈ spaceBytes
      · have hall := (all_isSpaceByte_iff body).mpr hspace
        simpa [decode, hall] using Settles.empty hspace
      · rw [decode_of_not_space hspace]
        cases hread : read body with
        | value value => exact .value hspace hread
        | refused reason => exact .invalid hspace hread
        | broken breakdown => exact .broken hspace hread
    · simpa [decode, hstatus] using Settles.status hstatus

/-- The rules leave one result for each outcome. -/
theorem settles_iff (url : Text) (outcome : Outcome) (result : Except Failure Json) :
    Settles read url outcome result ↔ result = outcome.result read url := by
  constructor
  · intro h
    cases h with
    | timeout h => simp [Outcome.result, Outcome.reply, Fault.failure, h, Except.bind]
    | request h htimeout => simp [Outcome.result, Outcome.reply, Fault.failure, h, htimeout, Except.bind]
    | foreign h =>
      have htimeout := mt Fault.isRequest_of_isTimeout h
      simp [Outcome.result, Outcome.reply, Fault.failure, h, htimeout, Except.bind]
    | status h => exact (if_pos h).symm
    | empty h =>
      have hall := (all_isSpaceByte_iff _).mpr h
      simp [Outcome.result, Outcome.reply, decode, hall, Except.bind]
    | invalid h hread | broken h hread | value h hread =>
      refine Eq.trans ?_ (decode_of_not_space h _).symm
      rw [hread]
      rfl
  · rintro rfl
    exact settles_result url outcome

/-! ### The download -/

/-- The choice of a client may construct one. -/
theorem clientFor_snd (net : Network) (timeout : Double) :
    ∃ built, (net.clientFor timeout).2 = { net with clients := net.clients ++ built } := by
  unfold Network.clientFor
  split
  · exact ⟨_, rfl⟩
  · split
    · exact ⟨[], by simp⟩
    · exact ⟨_, rfl⟩

/-- A download is its attempts, with the value of the answer that they end with. -/
theorem fetch_attempt (url : Text) (timeout : Double) (net : Network) :
    let ended := attempt (net.clientFor timeout).1 url 2 (net.clientFor timeout).2
    (fetch url timeout net).1 = ended.1.bind (fun (status, body, final) =>
      decode ended.2.read status body final) ∧
      (fetch url timeout net).2.view = ended.2.view := by
  intro ended
  rcases hended : ended with ⟨f | ⟨status, body, final⟩, after⟩
  · simp only [fetch, ended] at hended ⊢
    rw [hended]
    exact ⟨rfl, rfl⟩
  · simp only [fetch, ended] at hended ⊢
    rw [hended]
    cases hdecode : decode after.read status body final <;>
      simp [Except.bind, hdecode, Network.noting, Network.view]

/-- A download makes its requests on the client that is chosen for it. -/
theorem fetch_view (url : Text) (timeout : Double) (net : Network) :
    (fetch url timeout net).2.view =
      { outcomes := net.outcomes.drop (taken net.outcomes).length
        requests := net.requests ++ (taken net.outcomes).map (⟨url, (net.clientFor timeout).1, ·⟩)
        clients := (net.clientFor timeout).2.clients
        shared := net.shared
        read := net.read } := by
  obtain ⟨built, hchoice⟩ := clientFor_snd net timeout
  rw [(fetch_attempt url timeout net).2, attempt_view, hchoice]
  rfl

/-- A download comes to what the last outcome says that it uses up. -/
theorem fetch_fst (url : Text) (timeout : Double) (net : Network) :
    (fetch url timeout net).1 = (decisive net.outcomes).result net.read url := by
  obtain ⟨built, hchoice⟩ := clientFor_snd net timeout
  have hattempt := attempt_fst (net.clientFor timeout).1 url 1 (net.clientFor timeout).2
  have hview := attempt_view (net.clientFor timeout).1 url 2 (net.clientFor timeout).2
  have houtcomes : (net.clientFor timeout).2.outcomes = net.outcomes := by rw [hchoice]
  have hread : (attempt (net.clientFor timeout).1 url 2 (net.clientFor timeout).2).2.read = net.read := by
    refine (congrArg View.read hview).trans ?_
    rw [hchoice]
    rfl
  rw [houtcomes, ← taken, getLast?_taken, Option.map_some] at hattempt
  rw [(fetch_attempt url timeout net).1, hread, ← Option.some.inj hattempt]
  rfl

end WebBaseline.Download
