import PredictionLeague.Api.Handler
import PredictionLeague.Proofs.Invariant
import PredictionLeague.Proofs.Updates

/-!
# What needs the key

Only requests by guarded routes can change the store, and these ask for the key before they read
anything else. A request without the right key is told so, unless the two keys cannot be compared:
then it fails, and is told nothing. In neither case anything is done.

* `Holds`, `Comparable`: a request has the right key; its key can be compared with the right one;
* `Request.Reaches`, `Request.Guarded`: where a request leads;
* `respond_of_guarded`: the work of a guarded request, or one of two refusals;
* `keeps_respond`: requests that are not guarded change nothing, and neither do those without the
  key;
* `key_holder_alone`: all of this, and when a request without the key is told so;
* `afterRequests_filter_holds`: the store after many requests is due to those with the key.
-/

namespace PredictionLeague.Api

open Engine

variable {configured : String} {key : Option String}

/-! ### Keys -/

/-- The given key is the configured one, which is not empty. -/
def Holds (configured : String) (key : Option String) : Prop :=
  configured ≠ "" ∧ key = some configured

instance : Decidable (Holds configured key) := inferInstanceAs (Decidable (_ ∧ _))

/-- The given key can be compared with the configured one: there is nothing to compare, or both are
ASCII texts. -/
def Comparable (configured : String) (key : Option String) : Prop :=
  ∀ given, key = some given →
    configured = "" ∨ given = "" ∨ isAscii configured = true ∧ isAscii given = true

/-- The right key is granted access if it can be compared at all. -/
theorem access_eq_granted :
    access configured key = .granted ↔ Holds configured key ∧ isAscii configured = true := by
  unfold access Holds
  cases key with
  | none => simp
  | some given => grind

theorem access_eq_incomparable :
    access configured key = .incomparable ↔ ¬Comparable configured key := by
  unfold access Comparable
  cases key with
  | none => simp
  | some given => grind

theorem Comparable.access_of_holds (h : Comparable configured key) (hkey : Holds configured key) :
    access configured key = .granted := by
  obtain ⟨hnonempty, rfl⟩ := id hkey
  rcases h configured rfl with hempty | hempty | ⟨hascii, -⟩
  · exact absurd hempty hnonempty
  · exact absurd hempty hnonempty
  · exact access_eq_granted.2 ⟨hkey, hascii⟩

theorem Comparable.access_of_not_holds (h : Comparable configured key)
    (hkey : ¬Holds configured key) : access configured key = .denied := by
  cases haccess : access configured key with
  | granted => exact absurd (access_eq_granted.1 haccess).1 hkey
  | denied => rfl
  | incomparable => exact absurd h (access_eq_incomparable.1 haccess)

/-! ### Where requests lead -/

/-- A request leads to a route: its address is well-formed and names the route, and its method is
one of the route. -/
structure Request.Reaches (request : Request) (address : Address) (route : Route) : Prop where
  parsed : Address.ofText? request.address = some address
  found : Route.find? address.path = some route
  allowed : request.method.toUpper ∈ route.methods

/-- A request leads to a guarded route. -/
def Request.Guarded (request : Request) : Prop :=
  ∃ address route, request.Reaches address route ∧ route.guarded = true

/-- What is asked without its body is never guarded. -/
theorem Route.head_not_mem_methods {route : Route} (h : route.guarded = true) :
    "HEAD" ∉ route.methods := by
  cases route <;> simp_all [Route.guarded, Route.methods]

section Respond

variable {now : DateTime} {request : Request} {address : Address} {route : Route}

theorem respond_eq (h : Address.ofText? request.address = some address) :
    respond configured now request = (do
      let response ← answer configured now request.method.toUpper
        (request.query.getD address.query) request.body request.key (Route.find? address.path)
      return if request.method.toUpper = "HEAD" then { response with body := none }
        else response) := by
  unfold respond
  rw [h]

/-- By a guarded route the work is done, or a request is refused before anything of it is read. -/
theorem respond_of_guarded (h : request.Reaches address route) (hguarded : route.guarded = true) :
    respond configured now request =
      match access configured request.key with
      | .granted => perform (request.query.getD address.query) request.body now route
      | .denied => pure (.refused 401 "Invalid API key")
      | .incomparable => pure .failed := by
  have hmethod : route.methods.contains request.method.toUpper = true :=
    List.contains_iff_mem.2 h.allowed
  have hhead : request.method.toUpper ≠ "HEAD" :=
    ne_of_mem_of_not_mem h.allowed (Route.head_not_mem_methods hguarded)
  rw [respond_eq h.parsed, h.found]
  cases haccess : access configured request.key with
  | granted | denied | incomparable =>
    simp only [answer, hmethod, hguarded, haccess, hhead, if_false, if_true, Bool.not_true,
      Bool.false_eq_true, bind_pure]

/-! ### What changes the store -/

/-- Questions change nothing, whatever is asked. -/
theorem keeps_work {P : Store → Prop} {query : List (String × String)} {body : Option Data}
    {work : Engine Response} (h : work? query body now route = some work)
    (hguarded : route.guarded = false) : Keeps P work := by
  cases route with
  | page | health =>
    obtain rfl := Option.some.inj h
    exact keeps_pure _
  | winnings leagueId =>
    obtain ⟨id, -, h⟩ := Option.bind_eq_some_iff.1 h
    obtain rfl := Option.some.inj h
    have hreport : Keeps P (getWinnings id now) :=
      keeps_bind (keeps_getLeague id) fun _ => keeps_current_bind fun _ _ => keeps_lift _
    exact keeps_bind hreport fun _ => keeps_pure _
  | eligibility leagueId roundId code =>
    obtain ⟨id, -, h⟩ := Option.bind_eq_some_iff.1 h
    obtain ⟨round, -, h⟩ := Option.bind_eq_some_iff.1 h
    obtain ⟨user, -, h⟩ := Option.bind_eq_some_iff.1 h
    obtain rfl := Option.some.inj h
    exact keeps_bind (KeptByWrites.keeps_boostEligibility user id round code now) fun _ =>
      keeps_pure _
  | results | settle | recalculate | useBoost | deleteBoost => cases hguarded

theorem keeps_perform {P : Store → Prop} (query : List (String × String)) (body : Option Data)
    (now : DateTime) (hguarded : route.guarded = false) :
    Keeps P (perform query body now route) := by
  unfold perform
  split
  · exact keeps_pure _
  · rename_i work hwork
    exact keeps_tryCatch (keeps_work hwork hguarded) fun _ => keeps_pure _

/-- A request that does not lead to a guarded route changes nothing. -/
theorem keeps_respond_of_not_guarded {P : Store → Prop} (h : ¬request.Guarded) :
    Keeps P (respond configured now request) := by
  cases haddress : Address.ofText? request.address with
  | none =>
    unfold respond
    rw [haddress]
    exact keeps_throw _
  | some address =>
    rw [respond_eq haddress]
    refine keeps_bind ?_ fun _ => keeps_pure _
    cases hroute : Route.find? address.path with
    | none => exact keeps_pure _
    | some route =>
      unfold answer
      by_cases hmethod : request.method.toUpper ∈ route.methods
      · have hopen : route.guarded = false := by
          by_contra hguarded
          exact h ⟨address, route, ⟨haddress, hroute, hmethod⟩, eq_true_of_ne_false hguarded⟩
        simp only [List.contains_iff_mem.2 hmethod, hopen]
        exact keeps_perform _ _ now hopen
      · simp only [List.contains_eq_mem, hmethod, decide_false]
        exact keeps_pure _

/-- Without the key nothing is changed. -/
theorem keeps_respond {P : Store → Prop}
    (h : ¬(Holds configured request.key ∧ request.Guarded)) :
    Keeps P (respond configured now request) := by
  by_cases hguarded : request.Guarded
  · obtain ⟨address, route, hreaches, hroute⟩ := id hguarded
    rw [respond_of_guarded hreaches hroute]
    cases haccess : access configured request.key with
    | granted => exact absurd ⟨(access_eq_granted.1 haccess).1, hguarded⟩ h
    | denied => exact keeps_pure _
    | incomparable => exact keeps_pure _
  · exact keeps_respond_of_not_guarded hguarded

/-- What changes the store is a request with the key, by a guarded route. -/
theorem holds_of_storeAfter_ne {s : Store}
    (h : (respond configured now request).storeAfter s ≠ s) :
    Holds configured request.key ∧ request.Guarded := by
  by_contra hnot
  exact h ((keeps_respond (P := (· = s)) hnot).storeAfter rfl)

end Respond

/-! ### Many requests -/

/-- The store after requests, each at its time. -/
def afterRequests (configured : String) (s : Store) (requests : List (DateTime × Request)) :
    Store :=
  requests.foldl (fun s r => (respond configured r.1 r.2).storeAfter s) s

/-- Requests without the key can be left out. -/
theorem afterRequests_filter_holds (configured : String) (s : Store)
    (requests : List (DateTime × Request)) :
    afterRequests configured s (requests.filter fun r => Holds configured r.2.key) =
      afterRequests configured s requests := by
  induction requests generalizing s with
  | nil => rfl
  | cons r requests ih =>
    by_cases hkey : Holds configured r.2.key
    · rw [List.filter_cons_of_pos (by simpa using hkey)]
      exact ih _
    · have hsame : (respond configured r.1 r.2).storeAfter s = s := by
        by_contra hne
        exact hkey (holds_of_storeAfter_ne hne).1
      rw [List.filter_cons_of_neg (by simpa using hkey), ih]
      show _ = afterRequests configured ((respond configured r.1 r.2).storeAfter s) requests
      rw [hsame]

/-! ### The answers to guarded requests -/

/-- A failure is no refusal: it has another status. -/
theorem failed_ne_refused :
    (pure .failed : Engine Response) ≠ pure (.refused 401 "Invalid API key") := by
  intro h
  have hanswer := congrArg (fun x => x.effect Store.empty) h
  simp [Response.failed, Response.refused] at hanswer

/-- Every request that changes the store carries the configured key, which is not empty, and leads
to a guarded route. There a request with the key does its work when the keys can be compared. A
request without the key is told so and does nothing, exactly when its key can be compared; when the
keys cannot be compared, requests fail and do nothing. -/
theorem key_holder_alone (configured : String) (now : DateTime) (request : Request) :
    (∀ s, (respond configured now request).storeAfter s ≠ s →
      Holds configured request.key ∧ request.Guarded) ∧
    ∀ address route, request.Reaches address route → route.guarded = true →
      (Comparable configured request.key → Holds configured request.key →
        respond configured now request =
          perform (request.query.getD address.query) request.body now route) ∧
      ((¬Holds configured request.key →
          respond configured now request = pure (.refused 401 "Invalid API key")) ↔
        Holds configured request.key ∨ Comparable configured request.key) ∧
      (¬Comparable configured request.key → respond configured now request = pure .failed) := by
  refine ⟨fun s h => holds_of_storeAfter_ne h, fun address route hreaches hguarded => ?_⟩
  have hrespond : respond configured now request = _ := respond_of_guarded hreaches hguarded
  have hfails (hkey : ¬Comparable configured request.key) :
      respond configured now request = pure .failed := by
    rw [hrespond, access_eq_incomparable.2 hkey]
  refine ⟨fun hcomparable hkey => ?_, ⟨fun htold => ?_, fun h hkey => ?_⟩, hfails⟩
  · rw [hrespond, hcomparable.access_of_holds hkey]
  · by_contra hnot
    obtain ⟨hkey, hincomparable⟩ := not_or.1 hnot
    exact failed_ne_refused ((hfails hincomparable).symm.trans (htold hkey))
  · rw [hrespond, (h.resolve_left hkey).access_of_not_holds hkey]

/-- The score of the first match, reported with a key. -/
def reportWith (key : Option String) : Request :=
  { method := "POST"
    address := "/tasks/rounds/1/results"
    query := none
    body := some (.list [.object [("match_id", .integer 1), ("home_score", .integer 2),
      ("away_score", .integer 1), ("status", .text "Completed")]])
    key }

theorem reportWith_reaches (key : Option String) :
    (reportWith key).Reaches ⟨"/tasks/rounds/1/results".toList, []⟩ (.results "1") where
  parsed := show Address.ofText? "/tasks/rounds/1/results" = some _ by decide +kernel
  found := by decide +kernel
  allowed := show "POST".toUpper ∈ (Route.results "1").methods by decide +kernel

theorem report_needs_key :
    (respond "test-key" .newYear2025 (reportWith (some "test-key"))).storeAfter openStore ≠
        openStore ∧
      Holds "test-key" (reportWith (some "test-key")).key ∧
      (reportWith (some "test-key")).Guarded ∧
      respond "test-key" .newYear2025 (reportWith (some "test-key")) =
        perform [] (reportWith none).body .newYear2025 (.results "1") ∧
      respond "test-key" .newYear2025 (reportWith none) =
        pure (.refused 401 "Invalid API key") := by
  have hchanged : (respond "test-key" .newYear2025 (reportWith (some "test-key"))).storeAfter
      openStore ≠ openStore := by decide +kernel
  obtain ⟨hneeds, hguarded⟩ := key_holder_alone "test-key" .newYear2025
    (reportWith (some "test-key"))
  obtain ⟨hkey, hleads⟩ := hneeds openStore hchanged
  have hcomparable : Comparable "test-key" (some "test-key") := by
    rintro _ ⟨⟩
    exact .inr (.inr ⟨by decide +kernel, by decide +kernel⟩)
  have hnone : Comparable "test-key" none := nofun
  have hwork := (hguarded _ _ (reportWith_reaches _) rfl).1 hcomparable hkey
  have htold := ((key_holder_alone "test-key" .newYear2025 (reportWith none)).2 _ _
    (reportWith_reaches _) rfl).2.1.2 (.inr hnone) (by decide)
  exact ⟨hchanged, hkey, hleads, hwork, htold⟩

/-- A key with an accent is not told that it is the wrong one. -/
theorem accented_key_fails : ¬∀ (configured : String) (now : DateTime) (request : Request)
    (address : Address) (route : Route), request.Reaches address route → route.guarded = true →
      ¬Holds configured request.key →
        respond configured now request = pure (.refused 401 "Invalid API key") := by
  intro h
  have htold := h "test-key" .newYear2025 (reportWith (some "é")) _ _ (reportWith_reaches _) rfl
    (by decide)
  have hincomparable : access "test-key" (reportWith (some "é")).key = .incomparable := by
    decide +kernel
  rw [respond_of_guarded (reportWith_reaches _) rfl, hincomparable] at htold
  exact failed_ne_refused htold

end PredictionLeague.Api
