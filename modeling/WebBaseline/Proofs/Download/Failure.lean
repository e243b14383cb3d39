import WebBaseline.Proofs.Download.Fetch

/-! What a download fails with.

A download comes to the value of a document, or it fails as a download: with a timeout, without a connection,
with another status than success, or with an answer that cannot be used. Two things are passed on as they are,
and they are the only ones: a fault that is none of a request, and what the reader of bodies breaks with where it
neither reads nor refuses one (`fetch_failures`). -/
namespace WebBaseline.Download

variable {read : List UInt8 → Reading Json}

/-- An answer of success whose body is read as this value. -/
def Outcome.Holds (read : List UInt8 → Reading Json) (outcome : Outcome) (value : Json) : Prop :=
  ∃ body final, outcome = .answer 200 body final ∧ (¬ ∀ b ∈ body, b ∈ spaceBytes) ∧ read body = .value value

/-- What is passed on as a failure that is none of a download. -/
inductive Outcome.Escapes (read : List UInt8 → Reading Json) : Outcome → Failure → Prop
  | fault {fault message} : ¬ fault.isRequest →
      Escapes read (.fault fault message) (.foreign fault.name message)
  | body {body final breakdown} : (¬ ∀ b ∈ body, b ∈ spaceBytes) → read body = .broken breakdown →
      Escapes read (.answer 200 body final) (.foreign breakdown.name breakdown.message)

theorem settles_ok_iff (url : Text) (outcome : Outcome) (value : Json) :
    Settles read url outcome (.ok value) ↔ outcome.Holds read value := by
  constructor
  · intro h
    cases h with
    | value hbody hvalue => exact ⟨_, _, rfl, hbody, hvalue⟩
  · rintro ⟨body, final, rfl, hbody, hvalue⟩
    exact .value hbody hvalue

/-- Every rule that ends with a failure gives one of a download, but for two rules. -/
theorem isDownload_or_escapes {url : Text} {outcome : Outcome} {f : Failure}
    (h : Settles read url outcome (.error f)) : f.isDownload ∨ outcome.Escapes read f := by
  cases h with
  | timeout | request | status | empty | invalid => exact .inl rfl
  | foreign hfault => exact .inr (.fault hfault)
  | broken hbody hread => exact .inr (.body hbody hread)

theorem settles_of_escapes {outcome : Outcome} {f : Failure} (h : outcome.Escapes read f) (url : Text) :
    Settles read url outcome (.error f) := by
  cases h with
  | fault hfault => exact .foreign hfault
  | body hbody hread => exact .broken hbody hread

theorem not_isDownload_of_escapes {outcome : Outcome} {f : Failure} (h : outcome.Escapes read f) :
    ¬ f.isDownload := by
  cases h <;> exact Bool.false_ne_true

/-- The last request of a download is for its address, and its outcome decides. -/
theorem getLast?_requests_fetch (url : Text) (timeout : Double) (net : Network) :
    (fetch url timeout net).2.requests.getLast? =
      some ⟨url, (net.clientFor timeout).1, decisive net.outcomes⟩ := by
  have hrequests := congrArg View.requests (fetch_view url timeout net)
  simp only [Network.view] at hrequests
  rw [hrequests, List.getLast?_append, List.getLast?_map, getLast?_taken]
  rfl

/-- **What a download can fail with.** By the outcome of its last request, it comes to a value just where that
holds one. Every failure is one of a download or escapes, and what escapes is none of a download. -/
theorem fetch_failures (url : Text) (timeout : Double) (net : Network) :
    let result := (fetch url timeout net).1
    ∃ last, (fetch url timeout net).2.requests.getLast? = some last ∧ last.url = url ∧
      (∀ value, result = .ok value ↔ last.outcome.Holds net.read value) ∧
      (∀ f, result = .error f → f.isDownload ∨ last.outcome.Escapes net.read f) ∧
      ∀ f, last.outcome.Escapes net.read f → result = .error f ∧ ¬ f.isDownload := by
  intro result
  have hsettles : ∀ r, Settles net.read url (decisive net.outcomes) r ↔ r = result := fun r => by
    rw [settles_iff, ← fetch_fst url timeout net]
  refine ⟨_, getLast?_requests_fetch url timeout net, rfl, fun value => ?_, fun f hf => ?_, fun f hf => ?_⟩
  · rw [← settles_ok_iff url, hsettles, eq_comm]
  · exact isDownload_or_escapes ((hsettles _).mpr hf.symm)
  · exact ⟨((hsettles _).mp (settles_of_escapes hf url)).symm, not_isDownload_of_escapes hf⟩

/-- An address that cannot be asked, behind a connection that failed; then a connection that is reset, and an
answer that is nested too deep. -/
theorem fetch_failures_invalid :
    let bad : Outcome := .fault (.other "InvalidURL") "no host"
    let reset : Outcome := .fault .read "reset"
    let brackets : List UInt8 := List.replicate 1000 91
    let read (body : List UInt8) : Reading Json :=
      if body = brackets then .broken (.nesting " while decoding a JSON array from a unicode string")
      else readBody body
    let deep : Outcome := .answer 200 brackets none
    let net : Network := { outcomes := [.fault .connect "refused", bad, reset, deep], read }
    let one := fetch "https://a/" usualTimeout net
    let two := fetch "https://b/" usualTimeout one.2
    let three := fetch "https://c/" usualTimeout two.2
    bad.Escapes read (.foreign "InvalidURL" "no host") ∧
    one.1 = .error (.foreign "InvalidURL" "no host") ∧
    ¬ (Failure.foreign "InvalidURL" "no host").isDownload ∧
    two.1 = .error (.network "https://b/" (some "ReadError")) ∧
    ((Failure.network "https://b/" (some "ReadError")).isDownload ∨
      reset.Escapes read (.network "https://b/" (some "ReadError"))) ∧
    ∃ message, three.1 = .error (.foreign "RecursionError" message) := by
  intro bad reset brackets read deep net one two three
  obtain ⟨last, hlast, -, -, -, hone⟩ := fetch_failures "https://a/" usualTimeout net
  obtain ⟨last', hlast', -, -, htwo, -⟩ := fetch_failures "https://b/" usualTimeout one.2
  obtain ⟨last'', hlast'', -, -, -, hthree⟩ := fetch_failures "https://c/" usualTimeout two.2
  obtain rfl : _ = last := Option.some.inj hlast
  obtain rfl : _ = last' := Option.some.inj hlast'
  obtain rfl := Option.some.inj ((getLast?_requests_fetch "https://c/" usualTimeout two.2).symm.trans hlast'')
  have hescapes : bad.Escapes read (.foreign "InvalidURL" "no host") := .fault Bool.false_ne_true
  have hbrackets : ¬ ∀ b ∈ brackets, b ∈ spaceBytes := fun h =>
    absurd (h 91 (List.mem_replicate.mpr ⟨by decide, rfl⟩)) (by decide)
  have hdeep : deep.Escapes read _ := .body hbrackets (if_pos rfl)
  exact ⟨hescapes, (hone _ hescapes).1, (hone _ hescapes).2, rfl, htwo _ rfl, _, (hthree _ hdeep).1⟩

/-- An address that cannot be asked fails the download with a failure that is none of a download. -/
theorem foreign_fault_escapes :
    let net : Network := { outcomes := [.fault (.ofName "InvalidURL") "no host"] }
    (fetch "https://a/" usualTimeout net).1 = .error (.foreign "InvalidURL" "no host") ∧
      (Failure.foreign "InvalidURL" "no host").isDownload = false := by
  exact ⟨rfl, rfl⟩

end WebBaseline.Download
