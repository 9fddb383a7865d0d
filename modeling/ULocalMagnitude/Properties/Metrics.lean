import ULocalMagnitude.Grpc.Calls
import ULocalMagnitude.Properties.Termination

/-!
# Metrics

Whether the counters tell how the calls were answered, for any number of calls on the
three routes whose handlers take turns in any order.
-/

namespace ULocalMagnitude
namespace Properties

open Cxx Grpc Interleaving
open Corrections (Distance StationsSet)
open Magnitude (NetworkMagnitudeCalculator)

variable {F : Type} [Arithmetic F]

/-- The names of the three routes. -/
def routes : List String :=
  ["ComputeNetworkMagnitudeFromAmplitudes", "ComputeStationMagnitudesFromAmplitudes",
    "GetStationCorrections"]

/-- The calls on a route. -/
def callsOn (route : String) (jobs : List (Job (Rpc F) Action)) : List (Job (Rpc F) Action) :=
  jobs.filter fun job => job.key.route = route

/-- The calls whose one `Finish` was with this code. -/
def finishedWith (code : StatusCode) (jobs : List (Job (Rpc F) Action)) :
    List (Job (Rpc F) Action) :=
  jobs.filter fun job => finishCodes job.performed = [code]

/-- No handler calls `Finish` twice, each has called it when it is over, and none takes the
process down.  With no call in flight the counters are the numbers of the calls. -/
structure Accounted (s : Pool (Rpc F) Action Shared) : Prop where
  running : s.shared.terminated = false
  atMostOnce : ∀ job ∈ s.jobs, (finishCodes job.performed).length ≤ 1
  once : ∀ job ∈ s.jobs, job.pending = [] → ∃ code, finishCodes job.performed = [code]
  counted : s.IsIdle → ∀ route ∈ routes, ∀ code,
    s.shared.metrics.count (counterOf code) route =
      (finishedWith code (callsOn route s.jobs)).length
  total : s.IsIdle → ∀ route ∈ routes,
    s.shared.metrics.count .success route + s.shared.metrics.count .clientError route +
        s.shared.metrics.count .serverError route +
        s.shared.metrics.count .unauthenticated route =
      (callsOn route s.jobs).length

omit [Arithmetic F] in
/-- Calls that have finished once have done so with one of the four codes. -/
theorem length_eq_of_finished {jobs : List (Job (Rpc F) Action)}
    (h : ∀ job ∈ jobs, ∃ code, finishCodes job.performed = [code]) :
    jobs.length = (finishedWith .ok jobs).length + (finishedWith .invalidArgument jobs).length +
      (finishedWith .internal jobs).length + (finishedWith .unauthenticated jobs).length := by
  induction jobs with
  | nil => rfl
  | cons job rest ih =>
      obtain ⟨code, hcode⟩ := h job List.mem_cons_self
      have hrest := ih fun other hother => h other (List.mem_cons_of_mem _ hother)
      rw [List.length_cons, hrest]
      unfold finishedWith
      cases code with
      | ok =>
          simp [hcode]
          omega
      | invalidArgument =>
          simp [hcode]
          omega
      | internal =>
          simp [hcode]
          omega
      | unauthenticated =>
          simp [hcode]
          omega

omit [Arithmetic F] in
theorem ne_empty_of_mem_routes {route : String} (h : route ∈ routes) : route ≠ "" := by
  rintro rfl
  exact absurd h (by decide)

omit [Arithmetic F] in
/-- What a finished call adds to the counter for a code. -/
theorem weight_sum_eq {job : Job (Rpc F) Action} {code' : StatusCode}
    (h : Completes job.key.route code' job.performed) (code : StatusCode) (route : String) :
    (job.performed.map (Action.weight (counterOf code) route)).sum =
      if job.key.route = route ∧ finishCodes job.performed = [code] then 1 else 0 := by
  rw [h.weight_sum, h.finishCodes_eq]
  refine if_congr (and_congr_right fun _ => ?_) rfl rfl
  constructor
  · intro hcounter
    rw [counterOf_injective hcounter]
  · intro hcode
    rw [(List.cons.inj hcode).1]

/-- Ones add up to the number of the items that they stand for. -/
theorem sum_ite_eq_length_filter {α : Type} (p : α → Prop) [DecidablePred p] (items : List α) :
    (items.map fun a => if p a then (1 : Int) else 0).sum = (items.filter p).length := by
  induction items with
  | nil => rfl
  | cons a rest ih =>
      rw [List.map_cons, List.sum_cons, ih]
      by_cases ha : p a
      · rw [if_pos ha, List.filter_cons_of_pos (by simpa using ha), List.length_cons]
        omega
      · rw [if_neg ha, List.filter_cons_of_neg (by simpa using ha)]
        omega

section Run

variable {inverse : Distance.Inverse F} {version : Version} {service : MagnitudeService F}
  {distance : Distance F} {set : StationsSet F} {sent : Rpc F → Prop}
  {s t : Pool (Rpc F) Action Shared}

/-- The counters at any time: every step of a handler has counted once. -/
theorem count_eq (h : Reaches (handlers inverse version service) sent noCalls s)
    {route : String} (hroute : route ∈ routes) (counter : Counter) :
    s.shared.metrics.count counter route =
      (s.jobs.map fun job =>
        (job.performed.map (Action.weight counter route)).sum).sum := by
  have hcount := h.measure_eq (m := fun shared => shared.metrics.count counter route)
    (Action.count_act (ne_empty_of_mem_routes hroute) counter)
  rw [hcount, Metrics.Singleton.count_empty, zero_add]
  rfl

/-- The handlers of one route leave the counters of the others alone. -/
theorem count_of_move (h : Reaches (handlers inverse version service) sent noCalls s)
    {rpc : Rpc F} (hmove : Move (handlers inverse version service) rpc s t) {route : String}
    (hroute : route ∈ routes) (hother : route ≠ rpc.route) (counter : Counter) :
    t.shared.metrics.count counter route = s.shared.metrics.count counter route := by
  have hown : ∀ action ∈ rpc.script inverse version service,
      action.weight counter route = 0 := by
    unfold Rpc.script
    cases hreactor : rpc.reactor inverse version service with
    | error reason =>
        intro action haction
        rw [List.mem_singleton.mp haction]
        rfl
    | ok reactor =>
        obtain ⟨code, hcompletes⟩ := Rpc.completes_of_reactor hreactor
        exact hcompletes.weight_eq_zero hother counter
  exact hmove.measure_eq (m := fun shared => shared.metrics.count counter route)
    (Action.count_act (ne_empty_of_mem_routes hroute) counter) hown h.isOf

/-- With all calls over, a counter is the number of the calls finished with its code. -/
theorem counted_of_completes (h : Reaches (handlers inverse version service) sent noCalls s)
    (hdone : ∀ job ∈ s.jobs, ∃ code, Completes job.key.route code job.performed)
    {route : String} (hroute : route ∈ routes) (code : StatusCode) :
    s.shared.metrics.count (counterOf code) route =
      (finishedWith code (callsOn route s.jobs)).length := by
  rw [count_eq h hroute, finishedWith, callsOn, List.filter_filter]
  have hjobs : (s.jobs.map fun job =>
        (job.performed.map (Action.weight (counterOf code) route)).sum) =
      s.jobs.map fun job =>
        if job.key.route = route ∧ finishCodes job.performed = [code] then 1 else 0 := by
    refine List.map_congr_left fun job hjob => ?_
    obtain ⟨code', hcompletes⟩ := hdone job hjob
    exact weight_sum_eq hcompletes code route
  rw [hjobs, sum_ite_eq_length_filter]
  congr 2
  ext job
  simp [and_comm]

omit [Arithmetic F] in
/-- The four counters of a route add up to its calls. -/
theorem total_of_counted {s : Pool (Rpc F) Action Shared} {route : String}
    (hcounted : ∀ code, s.shared.metrics.count (counterOf code) route =
      (finishedWith code (callsOn route s.jobs)).length)
    (honce : ∀ job ∈ s.jobs, ∃ code, finishCodes job.performed = [code]) :
    s.shared.metrics.count .success route + s.shared.metrics.count .clientError route +
        s.shared.metrics.count .serverError route +
        s.shared.metrics.count .unauthenticated route =
      (callsOn route s.jobs).length := by
  have hfinished : ∀ job ∈ callsOn route s.jobs, ∃ code,
      finishCodes job.performed = [code] :=
    fun job hjob => honce job (List.mem_of_mem_filter hjob)
  have hsuccess := hcounted .ok
  have hclientError := hcounted .invalidArgument
  have hserverError := hcounted .internal
  have hunauthenticated := hcounted .unauthenticated
  rw [length_eq_of_finished hfinished]
  simp only [counterOf] at hsuccess hclientError hserverError hunauthenticated
  push_cast
  omega

variable (hwellFormed : service.mCalculator.WellFormed distance set)

include hwellFormed

/-- Where all calls are safe, everything is accounted for. -/
theorem accounted_of_isSafe (hsafe : ∀ rpc, sent rpc → rpc.IsSafe inverse service distance set)
    (h : Reaches (handlers inverse version service) sent noCalls s) : Accounted s := by
  have hscripts : ∀ rpc, sent rpc →
      ∃ code, Completes rpc.route code (rpc.script inverse version service) :=
    fun rpc hsent => Rpc.completes_of_isSafe hwellFormed (hsafe rpc hsent)
  -- What a job has done and what it has to do are the script of its call.
  have hcodes : ∀ job ∈ s.jobs, ∃ code,
      finishCodes job.performed ++ finishCodes job.pending = [code] := by
    intro job hjob
    obtain ⟨hsent, hscript⟩ := h.isOf job hjob
    obtain ⟨code, hcompletes⟩ := hscripts job.key hsent
    refine ⟨code, ?_⟩
    rw [← finishCodes_append, hscript]
    exact hcompletes.finishCodes_eq
  have hdone : ∀ job ∈ s.jobs, job.pending = [] →
      ∃ code, Completes job.key.route code job.performed := by
    intro job hjob hpending
    obtain ⟨hsent, hscript⟩ := h.isOf job hjob
    rw [hpending, List.append_nil] at hscript
    rw [hscript]
    exact hscripts job.key hsent
  have honce : ∀ job ∈ s.jobs, job.pending = [] →
      ∃ code, finishCodes job.performed = [code] := by
    intro job hjob hpending
    obtain ⟨code, hcompletes⟩ := hdone job hjob hpending
    exact ⟨code, hcompletes.finishCodes_eq⟩
  have hcounted : s.IsIdle → ∀ route ∈ routes, ∀ code,
      s.shared.metrics.count (counterOf code) route =
        (finishedWith code (callsOn route s.jobs)).length := by
    intro hidle route hroute code
    exact counted_of_completes h (fun job hjob => hdone job hjob (hidle job hjob)) hroute code
  refine ⟨?_, ?_, honce, hcounted, ?_⟩
  · refine h.shared_keeps (P := fun shared => shared.terminated = false) ?_ rfl
    intro rpc hsent action haction shared hshared
    obtain ⟨code, hcompletes⟩ := hscripts rpc hsent
    cases action with
    | increment counter route => exact hshared
    | finish status => exact hshared
    | terminate => exact absurd haction hcompletes.terminate_not_mem
  · intro job hjob
    obtain ⟨code, hcode⟩ := hcodes job hjob
    have hlength := congrArg List.length hcode
    rw [List.length_append, List.length_singleton] at hlength
    omega
  · intro hidle route hroute
    exact total_of_counted (hcounted hidle route hroute)
      fun job hjob => honce job hjob (hidle job hjob)

variable (version) in
/-- A call that is not safe is never finished. -/
theorem not_accounted_of_not_isSafe {rpc : Rpc F} (hsent : sent rpc)
    (hrisky : ¬ rpc.IsSafe inverse service distance set) :
    ∃ s, Reaches (handlers inverse version service) sent noCalls s ∧ ¬ Accounted s := by
  have hreaches : Reaches (handlers inverse version service) sent ⟨{}, []⟩
      ⟨(handlers inverse version service).act .terminate {}, [⟨rpc, [.terminate], []⟩]⟩ :=
    Reaches.of_script_singleton hsent (Rpc.script_of_not_isSafe hwellFormed hrisky) rfl
  refine ⟨_, hreaches, fun haccounted => ?_⟩
  obtain ⟨code, hcode⟩ := haccounted.once _ (List.mem_singleton.mpr rfl) rfl
  cases hcode

end Run

/-- For any number of calls of the kinds that clients send, in any order of the steps of
their handlers: everything is accounted for, at all times, exactly when for all of these calls
the corrections are numbers and the magnitudes neither overflow nor underflow.  The counters of
a route are left alone by the others. -/
theorem calls_are_accounted_iff (inverse : Distance.Inverse F) (version : Version)
    (service : MagnitudeService F) (distance : Distance F) (set : StationsSet F)
    (hservice : service.IsReachable)
    (hdistance : service.mCalculator.mOptions.getDistanceCorrections = .ok distance)
    (hset : service.mCalculator.mOptions.getStationCorrections = .ok set)
    (sent : Rpc F → Prop) :
    ((∀ s, Reaches (handlers inverse version service) sent noCalls s → Accounted s) ↔
        ∀ rpc, sent rpc → rpc.IsSafe inverse service distance set) ∧
      ∀ rpc s t, Reaches (handlers inverse version service) sent noCalls s →
        Move (handlers inverse version service) rpc s t →
          ∀ route ∈ routes, route ≠ rpc.route → ∀ counter,
            t.shared.metrics.count counter route = s.shared.metrics.count counter route := by
  obtain ⟨distance', set', hwellFormed⟩ := hservice.calculator.wellFormed
  obtain rfl : distance' = distance :=
    Except.ok.inj (hwellFormed.distanceCorrections.symm.trans hdistance)
  obtain rfl : set' = set :=
    Except.ok.inj (hwellFormed.stationCorrections.symm.trans hset)
  refine ⟨⟨?_, ?_⟩, ?_⟩
  · intro h rpc hsent
    by_contra hrisky
    obtain ⟨s, hs, hnot⟩ := not_accounted_of_not_isSafe version hwellFormed hsent hrisky
    exact hnot (h s hs)
  · intro hsafe s hs
    exact accounted_of_isSafe hwellFormed hsafe hs
  · intro rpc s t hs hmove route hroute hother counter
    exact count_of_move hs hmove hroute hother counter

/-! ## A call at a station whose correction is a NaN -/

def nanService : MagnitudeService ℚ :=
  Rationals.service Rationals.table (Rationals.stationsSet nanCorrections) 1

/-- Both amplitudes of the station and the hypocenter are given. -/
def nanRpc : Rpc ℚ :=
  .computeStationMagnitudesFromAmplitudes []
    { identifier := none
      stationAmplitudeMeasurements := [Rationals.measurement Rationals.uu (bytes "ASU7") 2 2]
      hypocenter := some Rationals.event }

theorem nanService_isReachable : nanService.IsReachable :=
  Rationals.service_isReachable Rationals.sample.table_isReachable nanCorrections_isReachable
    rfl

/-- One call takes the process down without having been finished or counted. -/
theorem nan_call_is_not_finished :
    nanService.IsReachable ∧
      Reaches (handlers Rationals.inverse Rationals.version nanService) (fun rpc => rpc = nanRpc)
        noCalls ⟨{ terminated := true }, [⟨nanRpc, [.terminate], []⟩]⟩ ∧
      ¬ ∀ s, Reaches (handlers Rationals.inverse Rationals.version nanService)
        (fun rpc => rpc = nanRpc) noCalls s → Accounted s := by
  have hscript : nanRpc.script Rationals.inverse Rationals.version nanService =
      [.terminate] := by
    decide +kernel
  have hreaches : Reaches (handlers Rationals.inverse Rationals.version nanService)
      (fun rpc => rpc = nanRpc) ⟨{}, []⟩
      ⟨(handlers Rationals.inverse Rationals.version nanService).act .terminate {},
        [⟨nanRpc, [.terminate], []⟩]⟩ := Reaches.of_script_singleton rfl hscript rfl
  refine ⟨nanService_isReachable, hreaches, fun haccounted => ?_⟩
  obtain ⟨code, hcode⟩ :=
    (haccounted _ hreaches).once _ (List.mem_singleton.mpr rfl) rfl
  cases hcode

/-- With numbers for corrections all calls of all clients are accounted for. -/
theorem numeric_service_is_accounted :
    Rationals.magnitudeService.IsReachable ∧
      ∀ s, Reaches (handlers Rationals.inverse Rationals.version Rationals.magnitudeService)
        (fun _ => True) noCalls s → Accounted s := by
  have hcalculator := Rationals.sample.magnitudeService_isReachable.calculator
  obtain ⟨distance, set, hwellFormed⟩ := hcalculator.wellFormed
  have hsafe : ∀ o : Magnitude.Observation ℚ, o.Inv →
      NetworkMagnitudeCalculator.IsAnswerable Rationals.network distance set o ∧
        NetworkMagnitudeCalculator.IsRepresentable Rationals.network distance set o := by
    intro o ho
    have hanswerable := hwellFormed.isAnswerable Rationals.sample.network_numeric ho
    exact ⟨hanswerable, hwellFormed.isRepresentable ho hanswerable⟩
  refine ⟨Rationals.sample.magnitudeService_isReachable,
    (calls_are_accounted_iff Rationals.inverse Rationals.version Rationals.magnitudeService
      distance set Rationals.sample.magnitudeService_isReachable hwellFormed.distanceCorrections
      hwellFormed.stationCorrections fun _ => True).1.mpr ?_⟩
  intro rpc _
  cases rpc with
  | computeNetworkMagnitudeFromAmplitudes clientMetadata request =>
      intro _ observations hdecoded _ o ho
      exact hsafe o (MagnitudeService.inv_of_decode hdecoded o ho)
  | computeStationMagnitudesFromAmplitudes clientMetadata request =>
      intro _ o ho
      exact hsafe o (MagnitudeService.inv_of_tried o ho)
  | getStationCorrections clientMetadata request => trivial

end Properties
end ULocalMagnitude
