import ULocalMagnitude.Properties.Metrics

/-!
# Counters at any time

What the counters tell while calls are in flight, whatever the corrections are, and whether
or not a call has taken the process down.  A refusal is counted before it is sent and a
success after it was sent, so the one is ahead of what clients have seen, by the calls that
have announced their refusal, and the other behind it.  No counter ever goes down.
-/

namespace ULocalMagnitude
namespace Properties

open Cxx Grpc Interleaving
open Corrections (Distance)

variable {F : Type} [Arithmetic F]

/-- The calls that are over. -/
def ended (jobs : List (Job (Rpc F) Action)) : List (Job (Rpc F) Action) :=
  jobs.filter fun job => job.pending = []

/-- The calls that have been finished and are over. -/
def completed (jobs : List (Job (Rpc F) Action)) : List (Job (Rpc F) Action) :=
  jobs.filter fun job => finishCodes job.performed ≠ [] ∧ job.pending = []

/-- The calls that have started and are going to be finished with this code. -/
def announced (code : StatusCode) (jobs : List (Job (Rpc F) Action)) :
    List (Job (Rpc F) Action) :=
  jobs.filter fun job => job.performed ≠ [] ∧ finishCodes job.pending = [code]

/-- What the counters tell about the calls in any state. -/
structure Tells (s : Pool (Rpc F) Action Shared) : Prop where
  /-- Successes are counted when the call is over. -/
  successes : ∀ route ∈ routes, s.shared.metrics.count .success route =
    (finishedWith .ok (ended (callsOn route s.jobs))).length
  /-- Refusals are counted before they are sent. -/
  refusals : ∀ route ∈ routes, ∀ code, code ≠ .ok →
    s.shared.metrics.count (counterOf code) route =
      (finishedWith code (callsOn route s.jobs)).length +
        (announced code (callsOn route s.jobs)).length
  /-- What is counted was called. -/
  atMost : ∀ route ∈ routes,
    s.shared.metrics.count .success route + s.shared.metrics.count .clientError route +
        s.shared.metrics.count .serverError route +
        s.shared.metrics.count .unauthenticated route ≤ (callsOn route s.jobs).length
  /-- What is over was counted. -/
  atLeast : ∀ route ∈ routes, (completed (callsOn route s.jobs)).length ≤
    s.shared.metrics.count .success route + s.shared.metrics.count .clientError route +
      s.shared.metrics.count .serverError route +
      s.shared.metrics.count .unauthenticated route

/-! ## One call -/

/-- How far a call on a route has got. -/
inductive Stage (route : String) : List Action → List Action → Prop
  | started (pending : List Action) : Stage route [] pending
  | counted (status : Status) (hcode : status.code ≠ .ok) :
      Stage route [.increment (counterOf status.code) route] [.finish status]
  | refused (status : Status) (hcode : status.code ≠ .ok) :
      Stage route [.increment (counterOf status.code) route, .finish status] []
  | sent (message : String) :
      Stage route [.finish { code := .ok, message }] [.increment .success route]
  | answered (message : String) :
      Stage route [.finish { code := .ok, message }, .increment .success route] []
  | terminated : Stage route [.terminate] []

/-- A script is performed from its first step on. -/
theorem append_eq_pair {α : Type} {performed pending : List α} {first second : α}
    (h : performed ++ pending = [first, second]) :
    performed = [] ∨ (performed = [first] ∧ pending = [second]) ∨
      (performed = [first, second] ∧ pending = []) := by
  match performed, h with
  | [], _ => exact Or.inl rfl
  | [a], h =>
      obtain ⟨hfirst, hpending⟩ := List.cons.inj h
      exact Or.inr (Or.inl ⟨by rw [hfirst], hpending⟩)
  | a :: b :: rest, h =>
      obtain ⟨hfirst, hsecond⟩ := List.cons.inj h
      obtain ⟨hsecond, hnil⟩ := List.cons.inj hsecond
      obtain ⟨hrest, hpending⟩ := List.append_eq_nil_iff.mp hnil
      exact Or.inr (Or.inr ⟨by rw [hfirst, hsecond, hrest], hpending⟩)

section Stages

variable {inverse : Distance.Inverse F} {version : Version} {service : MagnitudeService F}
  {sent : Rpc F → Prop} {s t : Pool (Rpc F) Action Shared}

theorem stage_of_isOf {job : Job (Rpc F) Action}
    (h : job.IsOf (handlers inverse version service) sent) :
    Stage job.key.route job.performed job.pending := by
  obtain ⟨key, performed, pending⟩ := job
  have hscript : performed ++ pending = key.script inverse version service := h.2
  unfold Rpc.script at hscript
  cases hreactor : key.reactor inverse version service with
  | error reason =>
      rw [hreactor] at hscript
      match performed, hscript with
      | [], _ => exact .started pending
      | a :: rest, hscript =>
          obtain ⟨rfl, hrest⟩ := List.cons.inj hscript
          obtain ⟨rfl, rfl⟩ := List.append_eq_nil_iff.mp hrest
          exact .terminated
  | ok reactor =>
      rw [hreactor] at hscript
      obtain ⟨code, hcompletes⟩ := Rpc.completes_of_reactor hreactor
      dsimp only at hscript
      rw [← hscript] at hcompletes
      generalize hactions : performed ++ pending = actions at hcompletes
      cases hcompletes with
      | refused status hcode =>
          rcases append_eq_pair hactions with rfl | ⟨rfl, rfl⟩ | ⟨rfl, rfl⟩
          · exact .started pending
          · exact .counted status hcode
          · exact .refused status hcode
      | answered message =>
          rcases append_eq_pair hactions with rfl | ⟨rfl, rfl⟩ | ⟨rfl, rfl⟩
          · exact .started pending
          · exact .sent message
          · exact .answered message

omit [Arithmetic F] in
/-- A success is counted with the last step. -/
theorem success_of_stage {job : Job (Rpc F) Action} {route : String}
    (h : Stage job.key.route job.performed job.pending) :
    (job.performed.map (Action.weight .success route)).sum =
      if job.key.route = route ∧ finishCodes job.performed = [.ok] ∧ job.pending = []
        then 1 else 0 := by
  obtain ⟨key, performed, pending⟩ := job
  dsimp only at h ⊢
  have hrefusal {code : StatusCode} (hcode : code ≠ .ok) : counterOf code ≠ .success :=
    fun hsame => hcode (counterOf_injective (hsame.trans (rfl : Counter.success = counterOf .ok)))
  cases h with
  | started pending => simp [finishCodes]
  | counted status hcode => simp [finishCodes, Action.weight, hrefusal hcode]
  | refused status hcode => simp [finishCodes, Action.weight, hrefusal hcode, hcode]
  | sent message => simp [Action.weight]
  | answered message => simp [finishCodes, Action.weight]
  | terminated => simp [finishCodes, Action.weight]

omit [Arithmetic F] in
/-- A refusal is counted with the first step. -/
theorem refusal_of_stage {job : Job (Rpc F) Action} {route : String} {code : StatusCode}
    (hcode : code ≠ .ok) (h : Stage job.key.route job.performed job.pending) :
    (job.performed.map (Action.weight (counterOf code) route)).sum =
      (if job.key.route = route ∧ finishCodes job.performed = [code] then 1 else 0) +
        if job.key.route = route ∧ job.performed ≠ [] ∧ finishCodes job.pending = [code]
          then 1 else 0 := by
  obtain ⟨key, performed, pending⟩ := job
  dsimp only at h ⊢
  have hsuccess : counterOf code ≠ .success :=
    fun hsame => hcode (counterOf_injective (hsame.trans (rfl : Counter.success = counterOf .ok)))
  cases h with
  | started pending => simp [finishCodes]
  | counted status hstatus =>
      simp [finishCodes, Action.weight, counterOf_injective.eq_iff, and_comm]
  | refused status hstatus =>
      simp [finishCodes, Action.weight, counterOf_injective.eq_iff, and_comm]
  | sent message => simp [finishCodes, Action.weight, hcode.symm]
  | answered message => simp [finishCodes, Action.weight, hcode.symm, hsuccess.symm]
  | terminated => simp [finishCodes, Action.weight]

omit [Arithmetic F] in
/-- An increment is one of one counter. -/
theorem weight_increment_total (counter : Counter) (route route' : String) :
    Action.weight .success route (.increment counter route') +
        Action.weight .clientError route (.increment counter route') +
        Action.weight .serverError route (.increment counter route') +
        Action.weight .unauthenticated route (.increment counter route') =
      if route' = route then 1 else 0 := by
  cases counter with
  | success => simp [Action.weight]
  | clientError => simp [Action.weight]
  | serverError => simp [Action.weight]
  | unauthenticated => simp [Action.weight]

omit [Arithmetic F] in
/-- A call is counted once at most, and has been counted when it is completed. -/
theorem total_of_stage {job : Job (Rpc F) Action} {route : String}
    (h : Stage job.key.route job.performed job.pending) :
    (if job.key.route = route ∧ finishCodes job.performed ≠ [] ∧ job.pending = []
        then (1 : Int) else 0) ≤
      (job.performed.map fun action => Action.weight .success route action +
        Action.weight .clientError route action + Action.weight .serverError route action +
        Action.weight .unauthenticated route action).sum ∧
    (job.performed.map fun action => Action.weight .success route action +
        Action.weight .clientError route action + Action.weight .serverError route action +
        Action.weight .unauthenticated route action).sum ≤
      if job.key.route = route then 1 else 0 := by
  obtain ⟨key, performed, pending⟩ := job
  dsimp only at h ⊢
  have hfinish (status : Status) (counter : Counter) :
      Action.weight counter route (.finish status) = 0 := rfl
  cases h with
  | started pending => by_cases hroute : key.route = route <;> simp [hroute, finishCodes]
  | counted status hcode =>
      by_cases hroute : key.route = route <;> simp [weight_increment_total, hroute]
  | refused status hcode =>
      by_cases hroute : key.route = route <;>
        simp [weight_increment_total, hfinish, finishCodes, hroute]
  | sent message => by_cases hroute : key.route = route <;> simp [hfinish, hroute]
  | answered message =>
      by_cases hroute : key.route = route <;>
        simp [weight_increment_total, hfinish, finishCodes, hroute]
  | terminated =>
      by_cases hroute : key.route = route <;> simp [Action.weight, finishCodes, hroute]

/-- The four counters of a route, added up job by job. -/
theorem total_eq (h : Reaches (handlers inverse version service) sent noCalls s)
    {route : String} (hroute : route ∈ routes) :
    s.shared.metrics.count .success route + s.shared.metrics.count .clientError route +
        s.shared.metrics.count .serverError route +
        s.shared.metrics.count .unauthenticated route =
      (s.jobs.map fun job => (job.performed.map fun action =>
        Action.weight .success route action + Action.weight .clientError route action +
        Action.weight .serverError route action +
        Action.weight .unauthenticated route action).sum).sum := by
  simp only [count_eq h hroute, List.sum_map_add]

theorem tells (h : Reaches (handlers inverse version service) sent noCalls s) : Tells s := by
  have hstage : ∀ job ∈ s.jobs, Stage job.key.route job.performed job.pending :=
    fun job hjob => stage_of_isOf (h.isOf job hjob)
  refine ⟨fun route hroute => ?_, fun route hroute code hcode => ?_, fun route hroute => ?_,
    fun route hroute => ?_⟩
  · rw [count_eq h hroute,
      List.map_congr_left fun job hjob => success_of_stage (hstage job hjob),
      sum_ite_eq_length_filter, finishedWith, ended, callsOn, List.filter_filter,
      List.filter_filter]
    refine congrArg _ (congrArg _ (List.filter_congr fun job _ => ?_))
    rw [Bool.eq_iff_iff]
    simp [and_comm]
  · rw [count_eq h hroute,
      List.map_congr_left fun job hjob => refusal_of_stage hcode (hstage job hjob),
      List.sum_map_add, sum_ite_eq_length_filter, sum_ite_eq_length_filter, finishedWith,
      announced, callsOn, List.filter_filter, List.filter_filter]
    refine congrArg₂ _ (congrArg _ (congrArg _ (List.filter_congr fun job _ => ?_)))
      (congrArg _ (congrArg _ (List.filter_congr fun job _ => ?_)))
    · simp [and_comm]
    · simp [and_comm]
  · rw [total_eq h hroute, callsOn, ← sum_ite_eq_length_filter]
    exact List.sum_le_sum fun job hjob => (total_of_stage (hstage job hjob)).2
  · have hcompleted : completed (callsOn route s.jobs) = s.jobs.filter fun job =>
        job.key.route = route ∧ finishCodes job.performed ≠ [] ∧ job.pending = [] := by
      rw [completed, callsOn, List.filter_filter]
      exact List.filter_congr fun job _ => by simp [and_comm]
    rw [total_eq h hroute, hcompleted, ← sum_ite_eq_length_filter]
    exact List.sum_le_sum fun job hjob => (total_of_stage (hstage job hjob)).1

/-- No step takes anything from a counter. -/
theorem count_le_of_step (hstep : Step (handlers inverse version service) sent s t)
    {route : String} (hroute : route ∈ routes) (counter : Counter) :
    s.shared.metrics.count counter route ≤ t.shared.metrics.count counter route := by
  cases hstep with
  | start hsent hrunning => exact le_rfl
  | move hmove =>
      cases hmove with
      | @perform shared before after performed pending action hrunning =>
          have hcount : (action.act shared).metrics.count counter route =
              shared.metrics.count counter route + action.weight counter route :=
            Action.count_act (ne_empty_of_mem_routes hroute) counter action shared
          show shared.metrics.count counter route ≤ (action.act shared).metrics.count counter route
          have hweight : 0 ≤ action.weight counter route := by
            cases action with
            | increment counter' route' =>
                unfold Action.weight
                dsimp only
                split_ifs
                · exact zero_le_one
                · exact le_rfl
            | finish status => exact le_rfl
            | terminate => exact le_rfl
          omega

theorem count_le_of_reaches (h : Reaches (handlers inverse version service) sent s t)
    {route : String} (hroute : route ∈ routes) (counter : Counter) :
    s.shared.metrics.count counter route ≤ t.shared.metrics.count counter route := by
  induction h with
  | refl => exact le_rfl
  | tail _ hstep ih => exact ih.trans (count_le_of_step hstep hroute counter)

end Stages

/-- For any number of calls of any kinds, in any order of the steps of their handlers, and
with any corrections: at all times the counters tell of the calls what `Tells` says, and
from then on none of them goes down. -/
theorem counters_tell_at_any_time (inverse : Distance.Inverse F) (version : Version)
    (service : MagnitudeService F) (sent : Rpc F → Prop) (s : Pool (Rpc F) Action Shared)
    (h : Reaches (handlers inverse version service) sent noCalls s) :
    Tells s ∧ ∀ t, Reaches (handlers inverse version service) sent s t →
      ∀ route ∈ routes, ∀ counter,
        s.shared.metrics.count counter route ≤ t.shared.metrics.count counter route :=
  ⟨tells h, fun _ ht _ hroute counter => count_le_of_reaches ht hroute counter⟩

/-! ## Two calls in flight -/

def correctionsRpc : Rpc ℚ :=
  .getStationCorrections [] { identifier := none, stationIdentifiers := [] }

/-- There is no network code. -/
def malformedRpc : Rpc ℚ :=
  .getStationCorrections []
    { identifier := none,
      stationIdentifiers := [{ network := none, station := some (bytes "ASU7") }] }

def malformedStatus : Status where
  code := .invalidArgument
  message := "Malformed station identifier"

abbrev sampleHandlers : System (Rpc ℚ) Action Shared :=
  handlers Rationals.inverse Rationals.version Rationals.magnitudeService

def eitherRpc (rpc : Rpc ℚ) : Prop := rpc = correctionsRpc ∨ rpc = malformedRpc

/-- The first client has its answer, and `OnDone` is still to come; the refusal is counted
and not sent yet. -/
def inFlight : Pool (Rpc ℚ) Action Shared :=
  ⟨(Action.increment .clientError "GetStationCorrections").act {},
    [⟨correctionsRpc, [.finish { code := .ok }],
        [.increment .success "GetStationCorrections"]⟩,
      ⟨malformedRpc, [.increment .clientError "GetStationCorrections"],
        [.finish malformedStatus]⟩]⟩

/-- The second call starts when the first one has, and comes first with its first step. -/
theorem reaches_inFlight : Reaches sampleHandlers eitherRpc noCalls inFlight := by
  have hanswered : sampleHandlers.script correctionsRpc =
      [.finish { code := .ok }, .increment .success "GetStationCorrections"] := by
    decide +kernel
  have hrefused : sampleHandlers.script malformedRpc =
      [.increment .clientError "GetStationCorrections", .finish malformedStatus] := by
    decide +kernel
  have hfirst : Step sampleHandlers eitherRpc ⟨{}, []⟩
      ⟨{}, [⟨correctionsRpc, [], sampleHandlers.script correctionsRpc⟩]⟩ :=
    .start (Or.inl rfl) rfl
  have hsecond : Step sampleHandlers eitherRpc
      ⟨{}, [⟨correctionsRpc, [], sampleHandlers.script correctionsRpc⟩]⟩
      ⟨{}, [⟨correctionsRpc, [], sampleHandlers.script correctionsRpc⟩] ++
        [⟨malformedRpc, [], sampleHandlers.script malformedRpc⟩]⟩ :=
    .start (Or.inr rfl) rfl
  rw [hanswered] at hfirst hsecond
  rw [hrefused] at hsecond
  have hcounts : Move sampleHandlers malformedRpc
      ⟨{}, [⟨correctionsRpc, [],
          [.finish { code := .ok }, .increment .success "GetStationCorrections"]⟩] ++
        ⟨malformedRpc, [],
          [.increment .clientError "GetStationCorrections", .finish malformedStatus]⟩ :: []⟩
      _ := .perform rfl
  have hanswers : Move sampleHandlers correctionsRpc
      ⟨(Action.increment .clientError "GetStationCorrections").act {},
        [] ++ ⟨correctionsRpc, [],
            [.finish { code := .ok }, .increment .success "GetStationCorrections"]⟩ ::
          [⟨malformedRpc, [.increment .clientError "GetStationCorrections"],
            [.finish malformedStatus]⟩]⟩
      inFlight := .perform rfl
  exact (((Relation.ReflTransGen.single hfirst).tail hsecond).tail (.move hcounts)).tail
    (.move hanswers)

/-- The refusal is counted already, the success is not. -/
theorem two_calls_in_flight_are_told :
    Reaches sampleHandlers eitherRpc noCalls inFlight ∧
      inFlight.shared.metrics.count .clientError "GetStationCorrections" = 1 ∧
      inFlight.shared.metrics.count .success "GetStationCorrections" = 0 ∧
      Tells inFlight ∧
      ∀ t, Reaches sampleHandlers eitherRpc inFlight t → ∀ route ∈ routes, ∀ counter,
        inFlight.shared.metrics.count counter route ≤ t.shared.metrics.count counter route := by
  obtain ⟨htells, hmonotone⟩ := counters_tell_at_any_time Rationals.inverse Rationals.version
    Rationals.magnitudeService eitherRpc inFlight reaches_inFlight
  exact ⟨reaches_inFlight, by decide, by decide, htells, hmonotone⟩

end Properties
end ULocalMagnitude
